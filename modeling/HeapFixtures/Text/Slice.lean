/-
# Pieces of a text

A piece of a text is taken from one byte up to another one.  Both have to lie between
characters: a cut that falls inside a character is a mistake, and it is reported with the
character and the bytes that the character takes.
-/

import HeapFixtures.Text.Quoted

namespace HeapFixtures
namespace Text

/-- A cut that falls inside a character. -/
structure Miscut where
  begins : Bool
  index : Nat
  char : Char
  first : Nat
  deriving DecidableEq

def Miscut.message (cut : Miscut) : String :=
  let side := if cut.begins then "start" else "end"
  let char := String.ofList (quotedChar cut.char)
  let stop := cut.first + cut.char.utf8Size
  s!"{side} byte index {cut.index} is not a char boundary; " ++
    s!"it is inside '{char}' (bytes {cut.first}..{stop} of string)"

/-- Characters with the number of the first byte of each, counted from a start. -/
def placed (start : Nat) : List Char → List (Nat × Char)
  | [] => []
  | c :: rest => (start, c) :: placed (start + c.utf8Size) rest

/-- The character in which a byte lies, unless the character begins with it. -/
def astride? (chars : List (Nat × Char)) (index : Nat) : Option (Nat × Char) :=
  chars.find? fun (first, c) => first < index && index < first + c.utf8Size

/-- The piece of a text between two bytes.  Of two wrong cuts the first is reported. -/
def slice (text : String) (start stop : Nat) : Except Miscut String :=
  let chars := placed 0 text.toList
  match astride? chars start, astride? chars stop with
  | some (first, c), _ => .error ⟨true, start, c, first⟩
  | none, some (first, c) => .error ⟨false, stop, c, first⟩
  | none, none =>
    let inside := chars.filter fun (first, _) => start ≤ first && first < stop
    .ok (String.ofList (inside.map Prod.snd))

theorem map_snd_placed (start : Nat) (chars : List Char) :
    (placed start chars).map Prod.snd = chars := by
  induction chars generalizing start with
  | nil => rfl
  | cons c rest ih => simp [placed, ih]

end Text
end HeapFixtures
