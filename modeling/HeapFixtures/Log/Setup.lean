/-
# Setting up the log

A process sets up its log at most once.  The checks come in a fixed order: the format, the path of
the file, the file, and last whether there is a log already.  Between the last two a set-up can
panic: the log file has a thread of its own, which the system may refuse, and the reader of
filters may panic.

What the libraries and the system under the log answer is not known here.
-/

import HeapFixtures.Bindings
import HeapFixtures.Log.Format
import HeapFixtures.Log.Line
import HeapFixtures.Log.Path
import HeapFixtures.Stop

namespace HeapFixtures
namespace Log

/-- The part of the environment that concerns the log.  A variable whose value is no
text counts as not set. -/
structure Environment where
  filter : Option String
  format : Option String
  file : Option String
  /-- Why the system refuses a thread, if it does. -/
  refusal : Option Thread.Refusal
  deriving DecidableEq

namespace Environment

def filterVariable : String := "RUST_LOG"

def formatVariable : String := "TRACEE_LOG_FORMAT"

def fileVariable : String := "TRACEE_LOG_FILE"

/-- Picks the variables of the log out of all. -/
def ofBindings (bindings : Bindings) (refusal : Option Thread.Refusal) : Environment :=
  ⟨bindings.text? filterVariable, bindings.text? formatVariable,
    bindings.text? fileVariable, refusal⟩

end Environment

/-- What a text comes to that asks for a filter. -/
inductive Filter.Reading
  | filter (filter : Filter)
  | malformed
  | panics (panic : Panic)
  deriving DecidableEq

/-- What a set-up calls on.  A log file is opened in a tree of files, which may change by it. -/
structure Backend (Tree : Type) where
  readFilter : String → Filter.Reading
  /-- Opens the log file at a location.  With it come the bytes of its directory as it is
  written, up to the end of each component. -/
  openFile : Tree → Location → List Nat → Except String Names × Tree
  listing : Tree → List (String × Names)

inductive SetupError
  | invalidFormat (reason : String)
  /-- The path names no file. -/
  | invalidPath (path : String)
  /-- The process has a log. -/
  | initializationFailed (reason : String)
  | fileError (reason : String)
  deriving DecidableEq

/-- How a set-up ends that does not succeed. -/
inductive SetupStop
  | error (error : SetupError)
  | panic (panic : Panic)
  deriving DecidableEq

def SetupError.message : SetupError → String
  | .invalidFormat reason => s!"Invalid log format: {reason}"
  | .invalidPath path => s!"Invalid log file path: {path}"
  | .initializationFailed reason => s!"Failed to initialize logging: {reason}"
  | .fileError reason => s!"File logging error: {reason}"

/-- The error of a second set-up. -/
def SetupError.alreadySet : SetupError :=
  .initializationFailed "a global default trace dispatcher has already been set"

/-- What a process asks of its log. -/
inductive Request
  | fromEnvironment
  /-- A format and, where the environment has no filter, a level. -/
  | explicit (level : Level) (format : Format)
  deriving DecidableEq

structure Output where
  format : Format
  filter : Filter
  file : Option Names
  deriving DecidableEq

/-- The filter of the environment, or a level for all origins where there is none or
none that can be read. -/
def Environment.filterOr (environment : Environment) (readFilter : String → Filter.Reading)
    (level : Level) : Except Panic Filter :=
  match environment.filter.map readFilter with
  | some (.filter filter) => .ok filter
  | some (.panics panic) => .error panic
  | some .malformed | none => .ok (.upTo level)

/-- The level for all origins when the environment chooses the format: the one that its
filter names, should the filter be a level, and else warnings. -/
def Environment.defaultLevel (environment : Environment) : Level :=
  match environment.filter.map Level.parse with
  | some (.ok level) => level
  | _ => .warn

/-- The format and the level that a request comes down to. -/
def Request.resolve (request : Request) (environment : Environment) :
    Except SetupError (Format × Level) :=
  match request with
  | .explicit level format => .ok (format, level)
  | .fromEnvironment =>
    match environment.format with
    | none => .ok (.pretty, environment.defaultLevel)
    | some text =>
      match Format.parse text with
      | .ok format => .ok (format, environment.defaultLevel)
      | .error reason => .error (.invalidFormat reason)

variable {Tree : Type}

def Environment.openFile (environment : Environment) (backend : Backend Tree) (tree : Tree) :
    Except SetupError (Option Names) × Tree :=
  match environment.file with
  | none => (.ok none, tree)
  | some text =>
    match Location.ofText? text with
    | none => (.error (.invalidPath text), tree)
    | some location =>
      match backend.openFile tree location (Location.extents text) with
      | (.ok file, tree) => (.ok (some file), tree)
      | (.error reason, tree) => (.error (.fileError reason), tree)

/-- The log of a process and the tree of files around it. -/
structure Installation (Tree : Type) where
  output : Option Output
  tree : Tree

/-- Starts the thread of a log file, if there is a log file. -/
def Environment.startWriter (environment : Environment) : Except Panic Unit :=
  match environment.file, environment.refusal with
  | some _, some refusal => .error (.writerRefused refusal)
  | _, _ => .ok ()

def Installation.setUp (installation : Installation Tree) (backend : Backend Tree)
    (request : Request) (environment : Environment) :
    Except SetupStop Unit × Installation Tree :=
  match request.resolve environment with
  | .error error => (.error (.error error), installation)
  | .ok (format, level) =>
    match environment.openFile backend installation.tree with
    | (.error error, tree) => (.error (.error error), { installation with tree := tree })
    | (.ok file, tree) =>
      let installation := { installation with tree := tree }
      match environment.startWriter, environment.filterOr backend.readFilter level,
        installation.output with
      | .error panic, _, _ | .ok (), .error panic, _ => (.error (.panic panic), installation)
      | .ok (), .ok _, some _ => (.error (.error .alreadySet), installation)
      | .ok (), .ok filter, none =>
        (.ok (), { installation with output := some ⟨format, filter, file⟩ })

/-- The filter of a process: all events are held back until the log is set up. -/
def Installation.filter (installation : Installation Tree) : Filter :=
  match installation.output with
  | some output => output.filter
  | none => .silent

def Installation.console (installation : Installation Tree) (journal : Journal) : List Line :=
  journal.console ((installation.output.map Output.format).getD .pretty)

/-- What a process leaves in its directory: each thing by name, with its lines. -/
def Installation.files (installation : Installation Tree) (backend : Backend Tree)
    (journal : Journal) : List (String × List Line) :=
  (backend.listing installation.tree).map fun (name, place) =>
    match installation.output with
    | some output =>
      if output.file = some place then (name, journal.file output.format) else (name, [])
    | none => (name, [])

end Log
end HeapFixtures
