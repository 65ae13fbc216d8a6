/-
# Messages without terminal controls

A message may come from outside, so it shows some control characters by number: escape, bell,
backspace, form feed, delete, and the controls of the upper half.
-/

import HeapFixtures.Text.Quoted

namespace HeapFixtures
namespace Text

/-- A character as it stands in a message. -/
def harmlessChar (c : Char) : List Char :=
  if c.toNat = 0x1b then "\\x1b".toList
  else if c.toNat = 0x07 then "\\x07".toList
  else if c.toNat = 0x08 then "\\x08".toList
  else if c.toNat = 0x0c then "\\x0c".toList
  else if c.toNat = 0x7f then "\\x7f".toList
  else if 0x80 ≤ c.toNat ∧ c.toNat ≤ 0x9f then byNumber c
  else [c]

/-- A message whose control characters cannot reach the terminal. -/
def harmless (text : String) : String :=
  String.ofList (text.toList.flatMap harmlessChar)

end Text
end HeapFixtures
