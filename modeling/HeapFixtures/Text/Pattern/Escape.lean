/-
# Escaped signs
-/

import HeapFixtures.Text.Pattern.Mode

namespace HeapFixtures
namespace Text
namespace Pattern

/-- What an escaped sign stands for. -/
inductive Escaped
  | char (c : Char)
  | set
  /-- A place between characters. -/
  | place
  deriving DecidableEq

def digit? (c : Char) : Option Nat :=
  if '0' ≤ c && c ≤ '9' then some (c.toNat - '0'.toNat)
  else if 'a' ≤ c && c ≤ 'f' then some (c.toNat - 'a'.toNat + 10)
  else if 'A' ≤ c && c ≤ 'F' then some (c.toNat - 'A'.toNat + 10)
  else none

/-- Reads a number in so many more hexadecimal digits, of which some have been read. -/
def readNumber (mode : Mode) (number : Nat) : Nat → List Char → Option (Nat × List Char)
  | 0, text => some (number, text)
  | digits + 1, text =>
    match mode.skip text with
    | [] => none
    | c :: rest =>
      (digit? c).bind fun value => readNumber mode (number * 16 + value) digits rest

/-- Reads a character by its number, in so many hexadecimal digits. -/
def readNumbered (mode : Mode) (digits : Nat) (text : List Char) :
    Option (Char × List Char) := do
  let (number, rest) ← readNumber mode 0 digits text
  if number.isValidChar then some (Char.ofNat number, rest) else none

/-- The signs of punctuation, which may be escaped whether they need to be or not. -/
def isPunctuation (c : Char) : Bool :=
  c.toNat < 0x80 && !c.isAlphanum && c ≠ '<' && c ≠ '>'

/-- The letters that stand for a control character. -/
def controls : List (Char × Char) :=
  [('a', '\x07'), ('f', '\x0c'), ('n', '\n'), ('r', '\r'), ('t', '\t'), ('v', '\x0b')]

/-- Reads what follows a backslash.  The classes of digits, blanks and letters and the ends
of words are at hand for bytes only, and their opposites not even there.  A number in two
digits is a byte where bytes are read, and must be a whole character. -/
def readEscape (mode : Mode) : List Char → Option (Escaped × List Char)
  | [] => none
  | 'x' :: rest => do
    let (c, rest) ← readNumbered mode 2 rest
    if c.toNat < 0x80 || mode.byCharacter then some (.char c, rest) else none
  | 'u' :: rest => (readNumbered mode 4 rest).map fun (c, rest) => (.char c, rest)
  | 'U' :: rest => (readNumbered mode 8 rest).map fun (c, rest) => (.char c, rest)
  | c :: rest =>
    if ['d', 's', 'w'].contains c then
      if mode.byCharacter then none else some (.set, rest)
    else if ['b', 'B', '<', '>'].contains c then
      if mode.byCharacter then none else some (.place, rest)
    else if ['A', 'z'].contains c then some (.place, rest)
    else if isPunctuation c then some (.char c, rest)
    else (controls.lookup c).map fun c => (.char c, rest)

end Pattern
end Text
end HeapFixtures
