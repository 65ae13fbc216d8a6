/-
# Texts for a terminal

A sequence begins with an escape character; the characters after it belong to the sequence
until one ends it, and a new escape character breaks it off.  The line ends and the tab inside a
sequence that sets looks are written all the same, and so is everything from there to the next
control.
-/

namespace HeapFixtures
namespace Text

/-- Where a reader stands among control sequences. -/
inductive Sequence
  | none
  | escape
  | escapeMore
  | control
  | device
  | deviceNumbers
  | deviceMore
  /-- In a text that the terminal keeps to itself. -/
  | withheld
  /-- In a text such as the title. -/
  | title
  deriving DecidableEq

def isLayout (c : Char) : Bool :=
  c = '\t' || c = '\n' || c = '\x0c' || c = '\r'

/-- Whether a character is written outside sequences. -/
def isWritten (c : Char) : Bool :=
  isLayout c || (0x20 ≤ c.toNat && c.toNat ≠ 0x7f)

/-- Whether one of the bytes behind the first one of a character ends a withheld text:
the byte 0x9c, of which six bits are the character's. -/
def endsWithheld (c : Char) : Bool :=
  let part (unit : Nat) := c.toNat / unit % 64 = 0x1c
  (0x80 ≤ c.toNat && part 1) || (0x800 ≤ c.toNat && part 64) ||
    (0x10000 ≤ c.toNat && part 4096)

namespace Sequence

/-- Whether a line end or a tab in a sequence is written all the same. -/
def keepsLayout : Sequence → Bool
  | .none | .escape | .escapeMore | .control => true
  | .device | .deviceNumbers | .deviceMore | .withheld | .title => false

/-- Where a reader stands behind a character that is neither an escape nor one of the two
controls that break off every sequence. -/
def next (sequence : Sequence) (c : Char) : Sequence :=
  let n := c.toNat
  match sequence with
  | .none => .none
  | .escape =>
    if n < 0x20 || 0x7f ≤ n then .escape
    else if n < 0x30 then .escapeMore
    else if c = '[' then .control
    else if c = ']' then .title
    else if c = 'P' then .device
    else if c = 'X' || c = '^' || c = '_' then .withheld
    else .none
  | .escapeMore => if 0x30 ≤ n && n < 0x7f then .none else .escapeMore
  | .control => if 0x40 ≤ n && n < 0x7f then .none else .control
  | .device =>
    if n < 0x20 || 0x7f ≤ n then .device
    else if n < 0x30 then .deviceMore
    else if n < 0x40 then .deviceNumbers
    else .withheld
  | .deviceNumbers =>
    if n < 0x20 || 0x7f ≤ n then .deviceNumbers
    else if n < 0x30 then .deviceMore
    else if n < 0x3c then .deviceNumbers
    else .withheld
  | .deviceMore => if n < 0x30 || 0x7f ≤ n then .deviceMore else .withheld
  | .withheld => if endsWithheld c then .none else .withheld
  | .title => if n = 0x07 then .none else .title

end Sequence

/-- What is written of a text.  A reader that is `writing` has seen no control since the
last written character; it writes on even in a sequence that a line end or a tab has
interrupted. -/
def writtenFrom (writing : Bool) (sequence : Sequence) : List Char → List Char
  | [] => []
  | c :: rest =>
    if c = '\x1b' then writtenFrom false .escape rest
    else if c = '\x18' || c = '\x1a' then writtenFrom false .none rest
    else if writing || sequence = .none then
      if isWritten c then
        c :: writtenFrom true (if 0x80 ≤ c.toNat then .none else sequence) rest
      else writtenFrom false sequence rest
    else if isLayout c && sequence.keepsLayout then c :: writtenFrom true sequence rest
    else writtenFrom false (sequence.next c) rest

/-- A text without all controls of a terminal. -/
def withoutControls (text : String) : String :=
  String.ofList (writtenFrom false .none text.toList)

end Text
end HeapFixtures
