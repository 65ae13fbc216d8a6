/-
# The command line

The first argument names a program, and the others are the program's own.  What the
program does is computed by `Execution`; here its lines are written, its log file is
kept, and the pauses between the lines of an endless run are waited for.

Signals have their usual effect on this process: a run without a limit ends when it is
interrupted.  A program that ends by a signal of its own ends with the status that a
shell shows for that signal.
-/

import HeapFixtures.Command.Line
import HeapFixtures.Execution
import HeapFixtures.Log.Filter.Reading
import Std.Time.Format

namespace HeapFixtures
namespace Execution

structure Channel where
  format : Log.Format
  file : Option IO.FS.Handle

/-- Writes the output and the journal of a part of a run. -/
def Channel.write (channel : Channel) (output : String) (journal : Log.Journal) :
    IO Unit := do
  let stdout ← IO.getStdout
  stdout.putStr output
  stdout.flush
  for line in journal.console channel.format do
    IO.eprintln line.render
  if let some file := channel.file then
    for line in journal.file channel.format do
      file.putStrLn line.render
    file.flush

/-- Opens the log file of the day and makes the folders on the way to it. -/
def openToday (location : Log.Location) : IO IO.FS.Handle := do
  let folder := location.directory.toText
  IO.FS.createDirAll folder
  let today := (← Std.Time.PlainDate.now).toLeanDateString
  IO.FS.Handle.mk (folder ++ "/" ++ location.name ++ "." ++ today) .append

/-- The session after everything so far has been written. -/
def written (session : Sequential.Session) : Sequential.Session :=
  let site := session.stack.site
  let journal := { site.journal with entries := #[] }
  { session with
    stack := { session.stack with site := { site with journal := journal } }
    sink := { session.sink with taken := #[] } }

def wait (interval : Sequential.Interval) : IO Unit :=
  IO.sleep (min interval.millis 4294967295).toUInt32

/-- Takes one turn of the sequential fixture after another, and writes what each has
left before the pause that follows it. -/
partial def pace (channel : Channel) (config : Sequential.Config)
    (session : Sequential.Session) : IO Finished := do
  match Sequential.turn config .quiet session with
  | .ended cause session =>
    let (result, session) := Sequential.conclude cause session
    return finishedForever result session
  | .stopped stop session => return finishedForever (.error stop) session
  | .again session =>
    let part := finishedForever (.ok ⟨session.completed, .iterationLimit⟩) session
    try
      channel.write part.output part.journal
    catch error =>
      let reason := IoError.described .other (toString error)
      return finishedForever (.error (.fault (.io reason))) (written session)
    wait config.interval
    pace channel config (written session)

/-- Runs the sequential fixture in real time. -/
def paceForever (channel : Channel) (launch : Launch Unit) (values : Command.Values)
    (journal : Log.Journal) : IO Finished := do
  match routed launch journal with
  | (.error fault, journal) => return ⟨some (.fault fault), journal, "", none⟩
  | (.ok (), journal) =>
    let stack := allocator launch.heap journal
    match Sequential.start values.sequential stack launch.output with
    | .error fault => return ⟨some (.fault fault), journal, "", some (counted stack)⟩
    | .ok session => pace channel values.sequential session

/-- The status of this process for the end of a program. -/
def status : Exit → UInt32
  | .code code => code.toUInt32
  | .signal signal => (128 + signal.number).toUInt32

def close (channel : Channel) (ending : Ending) : IO UInt32 := do
  channel.write ending.output ending.journal
  return status ending.exit

def proceed (channel : Channel) (launch : Launch Unit) (filter : Log.Filter) : IO UInt32 := do
  let journal := announce launch.program (.start filter)
  match instructed launch journal with
  | .error ending => close channel ending
  | .ok values =>
    let finished ← match launch.program with
      | .forever => paceForever channel launch values journal
      | _ => pure (runFixture launch values journal)
    close channel (conclude values finished)

/-- The variables of the environment that a program looks at. -/
def variableNames : List String :=
  [Log.Environment.filterVariable, Log.Environment.formatVariable,
   Log.Environment.fileVariable, Command.markedVariable, Command.plainVariable]

def readBindings : IO Bindings := do
  let values ← variableNames.mapM fun name => do
    return (← IO.getEnv name).map fun value => (name, some value)
  return values.filterMap id

/-- The system around this process.  Log files are opened when the log has been set up, and
nothing else is refused. -/
def thisSystem : System Unit where
  log := ⟨Log.Filter.reading, fun tree _ _ => (.ok [], tree), fun _ => []⟩
  readLine := Command.reading
  refusal _ := none
  lacks _ := false

def launchProgram (program : Command.Program) (arguments : List String) : IO UInt32 := do
  let bindings ← readBindings
  let launch : Launch Unit :=
    { system := thisSystem
      program := program
      arguments := arguments
      bindings := bindings
      tree := ()
      output := .endless
      stop := none
      heap := .system }
  let unheard (stop : Log.SetupStop) : IO UInt32 :=
    close ⟨.pretty, none⟩ (withoutLog stop)
  match launch.setUp with
  | (.error stop, _) => unheard stop
  | (.ok (), installation) =>
    let format := (installation.output.map Log.Output.format).getD .pretty
    let location := (Log.Environment.ofBindings bindings none).file.bind Log.Location.ofText?
    match location with
    | none => proceed ⟨format, none⟩ launch installation.filter
    | some location =>
      match ← (openToday location).toBaseIO with
      | .error error => unheard (.error (.fileError (toString error)))
      | .ok file => proceed ⟨format, some file⟩ launch installation.filter

end Execution
end HeapFixtures

/-- Runs the program that the first argument names. -/
def main (arguments : List String) : IO UInt32 := do
  let program := arguments.head?.bind HeapFixtures.Command.Program.ofName?
  match program with
  | some program => HeapFixtures.Execution.launchProgram program (arguments.drop 1)
  | none =>
    let names := HeapFixtures.Command.Program.all.map HeapFixtures.Command.Program.name
    let choice := " | ".intercalate names
    IO.eprintln s!"usage: ({choice}) [OPTIONS]"
    return 2
