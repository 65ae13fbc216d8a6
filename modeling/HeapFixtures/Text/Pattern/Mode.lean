/-
# Modes of patterns

A mode is switched by letters and holds up to the end of the group in which it was switched.
-/

import HeapFixtures.Text.Blank

namespace HeapFixtures
namespace Text
namespace Pattern

/-- How a part of a pattern is read. -/
structure Mode where
  /-- By characters, rather than by bytes. -/
  byCharacter : Bool := true
  ignoresCase : Bool := false
  /-- Blanks and comments do not count. -/
  loose : Bool := false
  deriving DecidableEq

/-- A text without the blanks and comments in front of it, which may begin in a comment. -/
def skipBlanks (inComment : Bool) : List Char → List Char
  | [] => []
  | c :: rest =>
    if inComment then skipBlanks (c ≠ '\n') rest
    else if isBlank c then skipBlanks false rest
    else if c = '#' then skipBlanks true rest
    else c :: rest

/-- The first character of a text that is neither a blank nor the sign of a comment.  What
a comment says is not left out. -/
def firstSign (afterSign : Bool) : List Char → Option Char
  | [] => none
  | c :: rest =>
    if isBlank c then firstSign afterSign rest
    else if c = '#' && !afterSign then firstSign true rest
    else some c

namespace Mode

def skip (mode : Mode) (text : List Char) : List Char :=
  if mode.loose then skipBlanks false text else text

/-- The character that a hyphen in a class looks out for to tell whether it stands in a
range.  Where there are only blanks and the sign of a comment, it is the first of these. -/
def ahead (mode : Mode) (text : List Char) : Option Char :=
  if mode.loose then (firstSign false text).or text.head? else text.head?

/-- Whether case is to be disregarded among characters, for which there are no tables. -/
def foldsCharacters (mode : Mode) : Bool := mode.ignoresCase && mode.byCharacter

def admits (mode : Mode) (c : Char) : Bool :=
  !mode.foldsCharacters && (mode.byCharacter || c.toNat < 0x80)

/-- The letters that switch a mode on or, behind a hyphen, off. -/
def letters : List Char := ['i', 'm', 's', 'U', 'u', 'R', 'x']

def switched (mode : Mode) (letter : Char) (on : Bool) : Mode :=
  if letter = 'u' then { mode with byCharacter := on }
  else if letter = 'i' then { mode with ignoresCase := on }
  else if letter = 'x' then { mode with loose := on }
  else mode

/-- Switches a mode by letters, none of which comes twice; at most one hyphen stands
among them and a letter behind it. -/
def switch (mode : Mode) (signs : List Char) : Option Mode :=
  let on := signs.takeWhile (· ≠ '-')
  let off := (signs.dropWhile (· ≠ '-')).drop 1
  let all := on ++ off
  if all.all letters.contains && all.eraseDups.length = all.length &&
      (off ≠ [] || !signs.contains '-') then
    some (off.foldl (·.switched · false) (on.foldl (·.switched · true) mode))
  else none

end Mode
end Pattern
end Text
end HeapFixtures
