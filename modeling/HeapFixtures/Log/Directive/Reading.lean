/-
# Reading directives

A directive is written as a level, as a target, or as a target and a level around an
equals sign.  Brackets behind the target, or in its place, name a span, and braces in
them the value that an event must carry, or the values that it may have:

    target[span]=level      target[\x7bname\x7d]=level      target[\x7bname=pattern\x7d]=level

No event of this log lies in a span or is held against a pattern, so directives about
these have no effect; but they have to be written correctly.

The signs are looked up in the text without the blanks around it, and the pieces between
them are then taken from the text with its blanks.  Blanks in front of a directive thus
shift its pieces, and a piece may come to begin or end inside a character.
-/

import HeapFixtures.Log.Directive
import HeapFixtures.Text.Blank
import HeapFixtures.Text.Pattern
import HeapFixtures.Text.Slice

namespace HeapFixtures
namespace Log
namespace Directive

inductive Flaw
  | malformed
  /-- One of its pieces begins or ends inside a character. -/
  | miscut (cut : Text.Miscut)
  deriving DecidableEq

/-- Where a reader stands in a directive. -/
inductive Stand
  | front
  /-- In a level or a target, from the beginning on. -/
  | word
  /-- In the name of a span that begins at a byte. -/
  | span (start : Nat)
  /-- In the braces, the contents of which begin at a byte. -/
  | field (start : Nat)
  | behindField
  | behindSpan
  | level (start : Nat)
  deriving DecidableEq

/-- What a reader knows of a directive. -/
structure Draft where
  stand : Stand := .front
  target : Option String := none
  field : Option String := none
  /-- Whether the directive is about spans or about the values of fields. -/
  isIdle : Bool := false
  deriving DecidableEq

def trimmed (text : List Char) : List Char :=
  ((text.dropWhile Text.isBlank).reverse.dropWhile Text.isBlank).reverse

/-- The characters that a level or a target may begin with. -/
def mayBegin (c : Char) : Bool :=
  c = '-' || c = ':' || c = '_' || Text.isAlphanumeric c

def piece (text : String) (start stop : Nat) : Except Flaw String :=
  (Text.slice text start stop).mapError .miscut

/-- Takes in the contents of the braces: a name, or a name and a test for its value. -/
def Draft.withField (draft : Draft) (contents : String) : Except Flaw Draft :=
  match contents.splitOn "=" with
  | name :: test :: _ =>
    if Text.Pattern.isValueTest test then
      .ok { draft with stand := .behindField, field := some name, isIdle := true }
    else .error .malformed
  | _ =>
    if contents = "" then .error .malformed
    else .ok { draft with stand := .behindField, field := some contents }

/-- Takes in one character, which begins at a byte of the text without its blanks. -/
def Draft.next (text : String) (draft : Draft) (place : Nat × Char) : Except Flaw Draft :=
  let (i, c) := place
  match draft.stand with
  | .front =>
    if c = '[' then .ok { draft with stand := .span (i + 1) }
    else if mayBegin c then .ok { draft with stand := .word }
    else .error .malformed
  | .word =>
    if c = '=' || c = '[' then do
      let target ← piece text 0 i
      let stand : Stand := if c = '=' then .level (i + 1) else .span (i + 1)
      return { draft with stand := stand, target := some target }
    else .ok draft
  | .span start =>
    if c = ']' then do
      let _ ← piece text start i
      return { draft with stand := .behindSpan, isIdle := true }
    else if c = '\x7b' then do
      let name ← piece text start i
      return { draft with stand := .field (i + 1), isIdle := name ≠ "" }
    else .ok draft
  | .field start =>
    if c = '\x7d' then do
      let contents ← piece text start i
      draft.withField contents
    else .ok draft
  | .behindField =>
    if c = ']' then .ok { draft with stand := .behindSpan } else .error .malformed
  | .behindSpan =>
    if c = '=' then .ok { draft with stand := .level (i + 1) } else .error .malformed
  | .level _ => .ok draft

/-- The directive of a draft that grants a level, unless it has no effect. -/
def Draft.granting (draft : Draft) (threshold : Threshold) : Option Directive :=
  if draft.isIdle then none else some ⟨draft.target, draft.field, threshold⟩

/-- Reads the rest of the text as what the reader is in the middle of.  A word is a level
or else a target, a target alone is granted everything, and so is one whose level is
empty. -/
def Draft.finish (text : String) (draft : Draft) : Except Flaw (Option Directive) :=
  match draft.stand with
  | .word => do
    let word ← piece text 0 text.utf8ByteSize
    match Threshold.parse? word with
    | some threshold => return draft.granting threshold
    | none => return { draft with target := some word }.granting (some .trace)
  | .level start => do
    let word ← piece text start text.utf8ByteSize
    if word = "" then return draft.granting (some .trace)
    match Threshold.parse? word with
    | some threshold => return draft.granting threshold
    | none => throw .malformed
  | .behindSpan => .ok (draft.granting (some .trace))
  | _ => .error .malformed

/-- Reads one directive; there is none where it has no effect. -/
def read (text : String) : Except Flaw (Option Directive) := do
  let draft ← (Text.placed 0 (trimmed text.toList)).foldlM (Draft.next text) {}
  draft.finish text

end Directive
end Log
end HeapFixtures
