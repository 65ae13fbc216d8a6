/-
# Patterns

No event is ever compared with a pattern here, but a directive with a wrong expression is no
directive, so this module decides which texts are expressions.

Expressions are read without the tables of a character database.  What an expression
matches must be whole characters, so whatever could match a lone byte is wrong, and so is an
expression that is too deep.
-/

import HeapFixtures.Text.Alphabetic
import HeapFixtures.Text.Pattern.Class

namespace HeapFixtures
namespace Text
namespace Pattern

structure Part where
  depth : Nat
  /-- Whether a sign of repetition may stand behind it. -/
  isRepeatable : Bool := true
  deriving DecidableEq

/-- A group that is being read. -/
structure Group where
  mode : Mode := {}
  /-- The depths of the alternatives before the last bar. -/
  alternatives : List Nat := []
  /-- The parts since then, the last one first. -/
  parts : List Part := []
  deriving DecidableEq

namespace Group

def add (group : Group) (part : Part) : Group :=
  { group with parts := part :: group.parts }

def alternative (group : Group) : Nat := together (group.parts.map Part.depth)

def depth (group : Group) : Nat := together (group.alternative :: group.alternatives)

/-- A group behind a bar. -/
def cut (group : Group) : Group :=
  { group with alternatives := group.alternative :: group.alternatives, parts := [] }

/-- A group whose last part is repeated. -/
def repeated (group : Group) : Option Group :=
  match group.parts with
  | [] => none
  | part :: parts =>
    if part.isRepeatable then some { group with parts := ⟨part.depth + 1, true⟩ :: parts }
    else none

end Group

structure Reader where
  /-- The innermost open group, which may be the expression itself. -/
  group : Group := {}
  around : List Group := []
  names : List (List Char) := []

namespace Reader

def add (reader : Reader) (part : Part) : Reader :=
  { reader with group := reader.group.add part }

def opened (reader : Reader) (mode : Mode) : Reader :=
  { reader with group := { mode := mode }, around := reader.group :: reader.around }

/-- A reader behind the end of a group. -/
def closed (reader : Reader) : Option Reader :=
  match reader.around with
  | [] => none
  | outer :: around =>
    some { reader with group := outer.add ⟨reader.group.depth + 1, true⟩, around := around }

/-- A reader with a mode for the rest of the group.  The switch itself is a part that cannot
be repeated. -/
def switched (reader : Reader) (mode : Mode) : Reader :=
  { reader with group := { reader.group.add ⟨0, false⟩ with mode := mode } }

def isName : List Char → Bool
  | [] => false
  | first :: rest =>
    (first = '_' || isAlphabetic first) &&
      rest.all fun c => ['_', '.', '[', ']'].contains c || isAlphanumeric c

/-- Reads a group with a name behind the bracket that opens the name. -/
def openNamed (reader : Reader) (text : List Char) : Option (Reader × List Char) :=
  let name := text.takeWhile (· ≠ '>')
  match text.dropWhile (· ≠ '>') with
  | [] => none
  | _ :: rest =>
    if isName name && !reader.names.contains name then
      some ({ reader.opened reader.group.mode with names := name :: reader.names }, rest)
    else none

/-- Reads the front of a group.  A group cannot look ahead or behind. -/
def openGroup (reader : Reader) : List Char → Option (Reader × List Char)
  | '?' :: '=' :: _ | '?' :: '!' :: _ | '?' :: '<' :: '=' :: _ | '?' :: '<' :: '!' :: _ => none
  | '?' :: 'P' :: '<' :: rest | '?' :: '<' :: rest => reader.openNamed rest
  | '?' :: rest => do
    let signs := rest.takeWhile fun c => c ≠ ':' && c ≠ ')'
    let mode ← reader.group.mode.switch signs
    match rest.dropWhile fun c => c ≠ ':' && c ≠ ')' with
    | ':' :: rest => some (reader.opened mode, rest)
    | ')' :: rest => if signs = [] then none else some (reader.switched mode, rest)
    | _ => none
  | rest => some (reader.opened reader.group.mode, rest)

def literal (reader : Reader) : Option Reader :=
  if reader.group.mode.foldsCharacters then none else some (reader.add ⟨0, true⟩)

def escaped (reader : Reader) : Escaped → Option Reader
  | .char _ => reader.literal
  | .set | .place => some (reader.add ⟨0, true⟩)

/-- Reads one piece of an expression.  An expression that counts its repetitions needs a
closing brace, which does not occur where these expressions stand, so an opening brace
outside a class is always wrong. -/
def step (reader : Reader) : List Char → Option (Reader × List Char)
  | [] => none
  | '(' :: rest => reader.openGroup (reader.group.mode.skip rest)
  | ')' :: rest => reader.closed.map (·, rest)
  | '|' :: rest => some ({ reader with group := reader.group.cut }, rest)
  | '[' :: rest =>
    (readClass reader.group.mode rest).map fun (depth, rest) => (reader.add ⟨depth, true⟩, rest)
  | '\x7b' :: _ => none
  | '.' :: rest =>
    if reader.group.mode.byCharacter then some (reader.add ⟨0, true⟩, rest) else none
  | '^' :: rest | '$' :: rest => some (reader.add ⟨0, true⟩, rest)
  | '\\' :: rest => do
    let (sign, rest) ← readEscape reader.group.mode rest
    (reader.escaped sign).map (·, rest)
  | c :: rest =>
    if ['?', '*', '+'].contains c then
      let rest := if rest.head? = some '?' then rest.drop 1 else rest
      reader.group.repeated.map fun group => ({ reader with group := group }, rest)
    else reader.literal.map (·, rest)

def mayEnd (reader : Reader) : Bool :=
  reader.around.isEmpty && reader.group.depth ≤ depthLimit

/-- Reads an expression to its end.  Every step reads a character or more. -/
def readAll : Nat → Reader → List Char → Bool
  | 0, reader, text => text.isEmpty && reader.mayEnd
  | fuel + 1, reader, text =>
    match reader.group.mode.skip text with
    | [] => reader.mayEnd
    | text =>
      match reader.step text with
      | some (reader, rest) => readAll fuel reader rest
      | none => false

end Reader

/-- Whether a text is a regular expression. -/
def isExpression (text : String) : Bool :=
  Reader.readAll text.length {} text.toList

/-- Whether a text is a number without a sign, in decimal notation or by one of the words
for what no decimal reaches. -/
def isUnsigned (text : List Char) : Bool :=
  let small := text.map Char.toLower
  let mantissa := small.takeWhile (· ≠ 'e')
  let exponent := small.dropWhile (· ≠ 'e')
  let exponent :=
    match exponent with
    | 'e' :: '+' :: digits | 'e' :: '-' :: digits | 'e' :: digits => digits
    | _ => ['0']
  let places := mantissa.filter (· ≠ '.')
  ["inf".toList, "infinity".toList, "nan".toList].contains small ||
    (places ≠ [] && places.all Char.isDigit && mantissa.length ≤ places.length + 1 &&
      exponent ≠ [] && exponent.all Char.isDigit)

/-- Whether a text says which values a field may have: by a number or by an expression.
A number without a plus sign is an expression, too. -/
def isValueTest (text : String) : Bool :=
  isExpression text ||
    match text.toList with
    | '+' :: rest => isUnsigned rest
    | _ => false

end Pattern
end Text
end HeapFixtures
