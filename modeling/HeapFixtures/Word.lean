/-
# Machine words

Arithmetic on 64-bit words that is either checked, in which case a result that needs a 65th bit is
no word at all, or saturating.
-/

namespace HeapFixtures
namespace Word

def largest : UInt64 := 18446744073709551615

/-- The sum of two words, unless it needs a 65th bit. -/
def add? (a b : UInt64) : Option UInt64 :=
  if a.toNat + b.toNat < UInt64.size then some (a + b) else none

def mul? (a b : UInt64) : Option UInt64 :=
  if a.toNat * b.toNat < UInt64.size then some (a * b) else none

theorem add?_eq_some_iff {a b c : UInt64} :
    add? a b = some c ↔ a.toNat + b.toNat < UInt64.size ∧ a + b = c := by
  unfold add?
  by_cases h : a.toNat + b.toNat < UInt64.size <;> simp [h]

/-- A checked sum never wraps. -/
theorem toNat_of_add? {a b c : UInt64} (h : add? a b = some c) :
    c.toNat = a.toNat + b.toNat := by
  obtain ⟨hlt, rfl⟩ := add?_eq_some_iff.1 h
  rw [UInt64.toNat_add]
  exact Nat.mod_eq_of_lt hlt

theorem mul?_eq_some_iff {a b c : UInt64} :
    mul? a b = some c ↔ a.toNat * b.toNat < UInt64.size ∧ a * b = c := by
  unfold mul?
  by_cases h : a.toNat * b.toNat < UInt64.size <;> simp [h]

theorem toNat_of_mul? {a b c : UInt64} (h : mul? a b = some c) :
    c.toNat = a.toNat * b.toNat := by
  obtain ⟨hlt, rfl⟩ := mul?_eq_some_iff.1 h
  rw [UInt64.toNat_mul]
  exact Nat.mod_eq_of_lt hlt

/-- The sum of a list of words from left to right.  Partial sums only grow, so one
of them leaves the word range exactly when the whole sum does. -/
def sum? (words : List UInt64) : Option UInt64 :=
  words.foldlM add? 0

/-- The product, or the largest word where the product needs a 65th bit. -/
def saturatingMul (a b : UInt64) : UInt64 :=
  (mul? a b).getD largest

/-- What keeps a text from naming a word. -/
inductive ReadError
  | empty
  | invalidDigit
  | tooLarge
  deriving DecidableEq

def ReadError.message : ReadError → String
  | .empty => "cannot parse integer from empty string"
  | .invalidDigit => "invalid digit found in string"
  | .tooLarge => "number too large to fit in target type"

def digit? (c : Char) : Option Nat :=
  if '0' ≤ c ∧ c ≤ '9' then some (c.toNat - '0'.toNat) else none

/-- Reads digits after a number already read.  At one character a wrong digit is
reported before an overflow; otherwise the first problem from the left counts. -/
def readDigits : List Char → Nat → Except ReadError UInt64
  | [], value => .ok value.toUInt64
  | c :: rest, value =>
    match digit? c with
    | none => .error .invalidDigit
    | some d =>
      if value * 10 + d < UInt64.size then readDigits rest (value * 10 + d)
      else .error .tooLarge

/-- Reads a word: an optional plus sign and at least one digit.  A sign alone is an
invalid digit, as is a minus sign. -/
def read (text : String) : Except ReadError UInt64 :=
  match text.toList with
  | [] => .error .empty
  | ['+'] => .error .invalidDigit
  | '+' :: digits => readDigits digits 0
  | digits => readDigits digits 0

end Word
end HeapFixtures
