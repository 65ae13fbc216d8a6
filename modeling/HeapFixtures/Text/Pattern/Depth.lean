/-
# Depths of patterns

The parts of a pattern lie in each other: a repetition, a group or a class lies one deeper
than what is in it, and so do several parts that follow each other or of which one is to be
chosen.  A pattern may not be too deep.
-/

namespace HeapFixtures
namespace Text
namespace Pattern

/-- The depth of parts side by side.  One part alone is not a part of anything. -/
def together : List Nat → Nat
  | [] => 0
  | [depth] => depth
  | depths => depths.foldl max 0 + 1

/-- The depth of the deepest pattern. -/
def depthLimit : Nat := 250

end Pattern
end Text
end HeapFixtures
