/-
# Log lines

A line leaves out what differs from run to run: the time and the number of the thread are not
shown, and addresses, process numbers and the place in the program are stood for by a mark.
-/

import HeapFixtures.Log.Format
import HeapFixtures.Log.Journal
import HeapFixtures.Text.Escaped
import HeapFixtures.Text.Harmless
import HeapFixtures.Text.Lines

namespace HeapFixtures
namespace Log

/-- The mark that stands for whatever differs from run to run. -/
def mark : String := "*"

/-- The mark that stands for the place in the program in a line for people. -/
def placeMark : String := "<PLACE> "

def Value.render : Value → String
  | .word n => toString n
  | .int i => toString i
  | .flag b => if b then "true" else "false"
  | .text s => Text.quoted s
  | .shown s => s
  | .address | .processId => mark

/-- A line for programs. -/
structure Record where
  level : Level
  target : String
  thread : String
  message : String
  fields : List (String × Value)
  placed : Bool
  deriving DecidableEq

/-- An object as it is written, from the names of its members and their written values. -/
def writtenObject (members : List (String × String)) : String :=
  "\x7b" ++ ",".intercalate (members.map fun (name, value) => Text.escaped name ++ ":" ++ value) ++
    "\x7d"

def Value.written : Value → String
  | .word n => toString n
  | .int i => toString i
  | .flag b => if b then "true" else "false"
  | .text s | .shown s => Text.escaped s
  | .address | .processId => Text.escaped mark

/-- A record as it is written.  Marks stand for the time, the number of the thread and
the place in the program. -/
def Record.render (record : Record) : String :=
  let unknown := Text.escaped mark
  let place :=
    if record.placed then [("filename", unknown), ("line_number", unknown)] else []
  writtenObject <|
    [("timestamp", unknown), ("level", Text.escaped record.level.name),
     ("fields", writtenObject
       (("message", Text.escaped record.message) ::
         record.fields.map fun (name, value) => (name, value.written))),
     ("target", Text.escaped record.target)] ++ place ++
    [("threadName", Text.escaped record.thread), ("threadId", unknown)]

/-- A line of the error stream or of a log file. -/
inductive Line
  | plain (text : String)
  /-- A line, or a part of one, of an event in the form for people. -/
  | pretty (text : String)
  | record (record : Record)
  deriving DecidableEq

def Line.render : Line → String
  | .plain text | .pretty text => text
  | .record r => r.render

/-- An event in the form for people, before it is broken into lines. -/
def Event.render (placed : Bool) (event : Event) : String :=
  let fields := event.fields.map fun (name, value) => " " ++ name ++ "=" ++ value.render
  event.level.name ++ " " ++ event.thread.name ++ " " ++ event.origin.path ++ ": " ++
    (if placed then placeMark else "") ++ Text.harmless event.message ++ String.join fields

def Event.lines (format : Format) (placed : Bool) (event : Event) : List Line :=
  match format with
  | .pretty => (Text.lines (event.render placed)).map .pretty
  | .json =>
    [.record ⟨event.level, event.origin.path, event.thread.name, event.message,
      event.fields, placed⟩]

def Entry.lines (format : Format) : Entry → List Line
  | .event e => e.lines format false
  | .printed text => (Text.lines text).map .plain

/-- Everything that a journal leaves on the error stream. -/
def Journal.console (journal : Journal) (format : Format) : List Line :=
  journal.entries.toList.flatMap (Entry.lines format)

def Journal.file (journal : Journal) (format : Format) : List Line :=
  journal.events.flatMap (Event.lines format true)

end Log
end HeapFixtures
