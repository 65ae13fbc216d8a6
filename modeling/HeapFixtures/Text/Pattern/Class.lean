/-
# Bracketed classes

A class of bytes must not match a lone byte, so it cannot be turned round.  Where case is
disregarded among characters there are no tables to do so, and only a class that never
names a character can be read.
-/

import HeapFixtures.Text.Pattern.Depth
import HeapFixtures.Text.Pattern.Escape

namespace HeapFixtures
namespace Text
namespace Pattern

/-- A class that is being read. -/
structure Level where
  /-- The depth of what stands before the last doubled sign. -/
  left : Option Nat := none
  /-- The depths of the members since then. -/
  members : List Nat := []
  /-- Whether there has been nothing but hyphens, which stand for themselves. -/
  isFront : Bool := true
  deriving DecidableEq

namespace Level

def add (level : Level) (depth : Nat) : Level :=
  { level with members := depth :: level.members, isFront := false }

/-- A class with one more hyphen at its front. -/
def addHyphen (level : Level) : Level :=
  { level with members := 0 :: level.members }

def depth (level : Level) : Nat :=
  match level.left with
  | none => together level.members
  | some left => max left (together level.members) + 1

/-- A class behind a doubled sign. -/
def cut (level : Level) : Level :=
  { left := some level.depth, members := [], isFront := false }

end Level

/-- The named classes that may stand in a bracketed one. -/
def classNames : List String :=
  ["alnum", "alpha", "ascii", "blank", "cntrl", "digit", "graph", "lower", "print",
   "punct", "space", "upper", "word", "xdigit"]

/-- A named class behind its opening bracket: whether it is turned round, and the text behind
it. -/
def named? (text : List Char) : Option (Bool × List Char) := do
  let ':' :: text := text | none
  let isTurned := text.head? = some '^'
  let text := if isTurned then text.drop 1 else text
  let name := text.takeWhile (· ≠ ':')
  let ':' :: ']' :: rest := text.dropWhile (· ≠ ':') | none
  if classNames.contains (String.ofList name) then some (isTurned, rest) else none

def readMember (mode : Mode) : List Char → Option (Escaped × List Char)
  | [] => none
  | '\\' :: rest => readEscape mode rest
  | c :: rest => some (.char c, rest)

def Mode.admitsMember (mode : Mode) : Escaped → Bool
  | .char c => mode.admits c
  | .set => true
  | .place => false

/-- Reads a member of a class or a range of members. -/
def readRange (mode : Mode) (text : List Char) : Option (List Char) := do
  let (first, rest) ← readMember mode text
  let alone := if mode.admitsMember first then some (mode.skip rest) else none
  match mode.skip rest with
  | '-' :: more =>
    if mode.ahead more = some ']' || mode.ahead more = some '-' then alone
    else
      let (last, rest) ← readMember mode (mode.skip more)
      match first, last with
      | .char a, .char b => if mode.admits a && mode.admits b && a ≤ b then some rest else none
      | _, _ => none
  | _ => alone

/-- Reads the sign behind an opening bracket that turns a class round. -/
def openClass (mode : Mode) (text : List Char) : Option (List Char) :=
  match mode.skip text with
  | '^' :: rest => if mode.byCharacter then some rest else none
  | rest => some rest

inductive Progress
  /-- More of the class, and of those around it. -/
  | inside (level : Level) (around : List Level) (rest : List Char)
  /-- The end of the outermost class, whose depth is known now. -/
  | closed (depth : Nat) (rest : List Char)

/-- Reads one piece of a class.  A closing bracket that nothing stands before stands for
itself. -/
def stepClass (mode : Mode) (level : Level) (around : List Level) :
    List Char → Option Progress
  | [] => none
  | '-' :: rest =>
    if level.isFront then
      if mode.admits '-' then some (.inside level.addHyphen around rest) else none
    else
      match rest with
      | '-' :: rest => some (.inside level.cut around rest)
      | _ => (readRange mode ('-' :: rest)).map fun rest => .inside (level.add 0) around rest
  | ']' :: rest =>
    if level.isFront && level.members = [] then
      if mode.admits ']' then some (.inside (level.add 0) around rest) else none
    else
      match around with
      | [] => some (.closed (level.depth + 1) rest)
      | outer :: around => some (.inside (outer.add (level.depth + 1)) around rest)
  | '[' :: rest =>
    match named? rest with
    | some (isTurned, rest) =>
      if mode.foldsCharacters || (isTurned && !mode.byCharacter) then none
      else some (.inside (level.add 0) around rest)
    | none => (openClass mode rest).map fun rest => .inside {} (level :: around) rest
  | '&' :: '&' :: rest | '~' :: '~' :: rest => some (.inside level.cut around rest)
  | text => (readRange mode text).map fun rest => .inside (level.add 0) around rest

/-- Reads classes to the end of the outermost.  Every step reads a character or more. -/
def readClasses (mode : Mode) (level : Level) (around : List Level) :
    Nat → List Char → Option (Nat × List Char)
  | 0, _ => none
  | fuel + 1, text =>
    match stepClass mode level around (mode.skip text) with
    | some (.inside level around rest) => readClasses mode level around fuel rest
    | some (.closed depth rest) => some (depth, rest)
    | none => none

/-- Reads a class behind its opening bracket.  The answer begins with its depth. -/
def readClass (mode : Mode) (text : List Char) : Option (Nat × List Char) :=
  (openClass mode text).bind (readClasses mode {} [] text.length)

end Pattern
end Text
end HeapFixtures
