/-
# Keywords

A word counts in any mixture of capitals and small letters, and nothing around it is skipped.
-/

import HeapFixtures.Text.Lowercase

namespace HeapFixtures
namespace Text

/-- The value that a text names in a table whose words are written small. -/
def keyword? (table : List (String × α)) (text : String) : Option α :=
  table.lookup (lower text)

end Text
end HeapFixtures
