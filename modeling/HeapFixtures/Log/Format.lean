/-
# Formats of the log
-/

import HeapFixtures.Text.Keyword

namespace HeapFixtures
namespace Log

inductive Format
  | pretty
  | json
  deriving DecidableEq

namespace Format

def keywords : List (String × Format) :=
  [("pretty", .pretty), ("dev", .pretty), ("development", .pretty),
   ("json", .json), ("prod", .json), ("production", .json)]

def parse (text : String) : Except String Format :=
  match Text.keyword? keywords text with
  | some format => .ok format
  | none => .error s!"Unknown log format: {text}. Use 'pretty' or 'json'"

end Format
end Log
end HeapFixtures
