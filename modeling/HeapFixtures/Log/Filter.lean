/-
# Filters

A filter decides which events are written.  Of the directives that cover an event the closest
decides, and of two that are alike the later one.  An event that no directive covers is not
written, so the empty filter is silent altogether.
-/

import HeapFixtures.Log.Directive

namespace HeapFixtures
namespace Log

structure Filter where
  directives : List Directive
  deriving DecidableEq

namespace Filter

def silent : Filter := ⟨[]⟩

/-- Every event at a level or above it passes, whatever its origin. -/
def upTo (level : Level) : Filter := ⟨[{ threshold := some level }]⟩

/-- The directive that decides about events of an origin that carry values of some
names. -/
def deciding (filter : Filter) (path : String) (names : List String) : Option Directive :=
  filter.directives.foldl
    (fun best directive =>
      if directive.covers path names then
        match best with
        | none => some directive
        | some other => if directive.outweighs other then some directive else best
      else best)
    none

/-- Whether events of an origin and a level that carry values of some names are
written. -/
def enables (filter : Filter) (origin : Origin) (level : Level) (names : List String) : Bool :=
  match filter.deciding origin.path names with
  | none => false
  | some directive => Threshold.admits directive.threshold level

theorem enables_upTo (limit level : Level) (origin : Origin) (names : List String) :
    (upTo limit).enables origin level names =
      decide (level.verbosity ≤ limit.verbosity) := rfl

end Filter
end Log
end HeapFixtures
