/-
# Likeness of texts

A letter of the first text is paired with the first letter of the second that is the same, not too
far off and not yet taken.  The likeness is the mean of three shares: of each text how much
is paired, and of the pairs how many stand in the same order.

The shares are computed in double precision, so likenesses that would be equal may differ
in their last bit.
-/

namespace HeapFixtures
namespace Text

/-- A letter of the second text, and whether it is taken. -/
structure Letter where
  letter : Char
  isTaken : Bool
  deriving DecidableEq

/-- Takes the first free letter of a kind from one place up to another. -/
def Letter.take? (letter : Char) (low high : Nat) (letters : List Letter) :
    Option (List Letter) :=
  let isOther (other : Letter) : Bool := other.letter ≠ letter || other.isTaken
  let window := (letters.take high).drop low
  match window.dropWhile isOther with
  | [] => none
  | _ :: after =>
    some (letters.take low ++ window.takeWhile isOther ++ ⟨letter, true⟩ :: after ++
      letters.drop high)

/-- Two texts while their letters are being paired. -/
structure Pairing where
  place : Nat
  /-- The letters of the first text that have a partner, the last one first. -/
  paired : List Char
  letters : List Letter

namespace Pairing

/-- Looks for a partner of a letter that is at most so many places off. -/
def next (reach : Nat) (pairing : Pairing) (letter : Char) : Pairing :=
  let place := pairing.place
  match Letter.take? letter (place - reach) (place + reach + 1) pairing.letters with
  | some letters => ⟨place + 1, letter :: pairing.paired, letters⟩
  | none => { pairing with place := place + 1 }

/-- Pairs the letters of two texts.  A letter reaches about half as far as the longer text. -/
def ofLists (first second : List Char) : Pairing :=
  let reach := max first.length second.length / 2 - 1
  first.foldl (next reach) ⟨0, [], second.map (⟨·, false⟩)⟩

def partners (pairing : Pairing) : List Char :=
  (pairing.letters.filter Letter.isTaken).map Letter.letter

/-- The number of pairs out of order.  Two letters in each other's place count as one. -/
def misplaced (pairing : Pairing) : Nat :=
  ((pairing.paired.reverse.zip pairing.partners).countP fun (a, b) => a ≠ b) / 2

end Pairing

def share (part whole : Nat) : Float := Float.ofNat part / Float.ofNat whole

def likeness (first second : String) : Float :=
  let pairing := Pairing.ofLists first.toList second.toList
  let pairs := pairing.paired.length
  if pairs = 0 then 0
  else
    (share pairs first.length + share pairs second.length +
      share (pairs - pairing.misplaced) pairs) / 3

end Text
end HeapFixtures
