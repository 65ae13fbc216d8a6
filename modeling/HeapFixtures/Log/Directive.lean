/-
# Directives

A directive gives a level to some events.  Where several directives cover an event the one that
describes it most closely decides.
-/

import HeapFixtures.Log.Event
import HeapFixtures.Word

namespace HeapFixtures
namespace Log

/-- The level that a directive grants: everything down to a level, or nothing. -/
abbrev Threshold := Option Level

namespace Threshold

def admits (threshold : Threshold) (level : Level) : Bool :=
  match threshold with
  | none => false
  | some limit => level.verbosity ≤ limit.verbosity

/-- The words of a directive's level.  They differ from those of `Level.parse`: there
are no short forms, and `off` is one of them. -/
def words : List (String × Threshold) :=
  [("off", none), ("error", some .error), ("warn", some .warn), ("info", some .info),
   ("debug", some .debug), ("trace", some .trace)]

/-- The levels by number, from silence to the trace. -/
def numbered : List Threshold :=
  [none, some .error, some .warn, some .info, some .debug, some .trace]

/-- Reads the level of a directive: a number from 0 to 5, or a word in any case of the
basic Latin letters. -/
def parse? (text : String) : Option Threshold :=
  match Word.read text with
  | .ok n => numbered[n.toNat]?
  | .error _ => words.lookup (text.map Char.toLower)

end Threshold

/-- Grants a level to the events that it covers. -/
structure Directive where
  /-- What the paths of their origins begin with, if that matters. -/
  target : Option String := none
  /-- The name of a value that they carry, if that matters. -/
  field : Option String := none
  threshold : Threshold
  deriving DecidableEq

namespace Directive

/-- Whether a directive speaks about events of an origin that carry values of some names.
The target is compared as plain text and need not end where a part of the path ends. -/
def covers (directive : Directive) (path : String) (names : List String) : Bool :=
  (match directive.target with
    | none => true
    | some target => target.toList.isPrefixOf path.toList) &&
  match directive.field with
  | none => true
  | some field => names.contains field

/-- How much of a path a directive knows. -/
def closeness (directive : Directive) : Nat :=
  match directive.target with
  | none => 0
  | some target => target.length + 1

/-- Whether a directive counts more than one before it that covers the same event: its
target is longer, or the same and it asks for a value; of two that ask for values the
later name in the alphabet counts more, and of two alike the later one. -/
def outweighs (later earlier : Directive) : Bool :=
  if later.closeness ≠ earlier.closeness then earlier.closeness < later.closeness
  else
    match earlier.field, later.field with
    | none, _ => true
    | some _, none => false
    | some first, some second => first ≤ second

end Directive
end Log
end HeapFixtures
