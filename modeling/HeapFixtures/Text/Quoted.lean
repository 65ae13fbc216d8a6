/-
# Quoted text

Every character without a shape of its own is written by its number, so that a line shows each
character that a field holds.
-/

import HeapFixtures.Text.Shapeless

namespace HeapFixtures
namespace Text

/-- A number in hexadecimal digits, small letters and no leading zero. -/
def hex (n : Nat) : List Char :=
  Nat.toDigits 16 n

/-- A character by its number: `u`, then the number between braces. -/
def byNumber (c : Char) : List Char :=
  ['\\', 'u', '\x7b'] ++ hex c.toNat ++ ['\x7d']

def quotedChar (c : Char) : List Char :=
  if c = '\x00' then ['\\', '0']
  else if c = '\t' then ['\\', 't']
  else if c = '\n' then ['\\', 'n']
  else if c = '\r' then ['\\', 'r']
  else if c = '"' then ['\\', '"']
  else if c = '\\' then ['\\', '\\']
  else if isShapeless c then byNumber c
  else [c]

def quoted (text : String) : String :=
  String.ofList (['"'] ++ text.toList.flatMap quotedChar ++ ['"'])

end Text
end HeapFixtures
