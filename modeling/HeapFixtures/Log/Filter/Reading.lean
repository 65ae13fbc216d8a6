/-
# Reading filters
-/

import HeapFixtures.Log.Directive.Reading
import HeapFixtures.Log.Setup

namespace HeapFixtures
namespace Log
namespace Filter

/-- Reads directives separated by commas; empty ones do not count. -/
def read (text : String) : Except Directive.Flaw Filter := do
  let pieces := (text.splitOn ",").filter (· ≠ "")
  let directives ← pieces.mapM Directive.read
  return ⟨directives.filterMap id⟩

def reading (text : String) : Reading :=
  match read text with
  | .ok filter => .filter filter
  | .error .malformed => .malformed
  | .error (.miscut cut) => .panics (.miscut cut)

end Filter
end Log
end HeapFixtures
