/-
# Lines

A text is read line by line.  A line ends in a line feed; a carriage return right before
it belongs to the end of the line, and any other stands in the line.
-/

namespace HeapFixtures
namespace Text

def withoutReturn (line : String) : String :=
  match line.toList.reverse with
  | '\r' :: rest => String.ofList rest.reverse
  | _ => line

/-- The lines of a text behind which a line feed is written. -/
def lines (text : String) : List String :=
  (text.splitOn "\n").map withoutReturn

end Text
end HeapFixtures
