/-
# Executions

A program as a process: it sets up its log, reads its command line, runs its fixture on a heap
under a counting layer, prints the counters if it was asked to, and ends.  A resource fault of a
worker ends the process at once, from the worker's thread, and nothing is printed after it.

The system around the process is a parameter: how command lines and filters are read, how
files are opened, and which threads and pieces of memory are refused.
-/

import HeapFixtures.Command.Values
import HeapFixtures.Log.Setup

namespace HeapFixtures
namespace Execution

/-- What a process calls on, beside its heap. -/
structure System (Tree : Type) where
  log : Log.Backend Tree
  readLine : Command.Program → List String → Bindings → Command.Reading
  /-- Why all threads of a process are refused, by its environment, if they are. -/
  refusal : Bindings → Option Thread.Refusal
  lacks : Nat → Bool

/-- How a process is started. -/
structure Launch (Tree : Type) where
  system : System Tree
  program : Command.Program
  arguments : List String
  bindings : Bindings
  tree : Tree
  output : Sink
  stop : Option (UInt64 × Signal)
  heap : Heap
  /-- The order in which a number of workers run. -/
  order : Nat → List Nat := List.range

/-- What a process leaves behind. -/
structure Outcome where
  exit : Exit
  output : String
  console : List Log.Line
  files : List (String × List Log.Line)

variable {Tree : Type}

def Launch.refusal (launch : Launch Tree) : Option Thread.Refusal :=
  launch.system.refusal launch.bindings

def Launch.line (launch : Launch Tree) : Command.Reading :=
  launch.system.readLine launch.program launch.arguments launch.bindings

/-- The status of a process whose main thread panicked. -/
def panicStatus : Nat := 101

/-- The status of a process with a wrong command line. -/
def usageStatus : Nat := 2

/-- What a run has come to, before the process ends. -/
structure Finished where
  stop : Option Stop
  journal : Log.Journal
  output : String
  counters : Option Counters

def stopOf : Except Stop α → Option Stop
  | .ok _ => none
  | .error stop => some stop

/-- The allocator of the programs: the heap under a counting layer. -/
def allocator (heap : Heap) (journal : Log.Journal) : Stack :=
  ⟨[.counting .zero], .fresh heap journal⟩

def counted (stack : Stack) : Counters := stack.counters.headD .zero

/-- The pauses of a run that receives a signal after a number of lines. -/
def pauses (stop : Option (UInt64 × Signal)) : Sequential.Pauses := fun iteration =>
  match stop with
  | some (lines, signal) => if lines = iteration then some signal else none
  | none => none

/-- Routes the stop signals to the flag of the run. -/
def routed (launch : Launch Tree) (journal : Log.Journal) : Except Fault Unit × Log.Journal :=
  match StopRequest.Registry.empty.install launch.refusal journal with
  | (.error fault, _, journal) => (.error fault, journal)
  | (.ok _, _, journal) => (.ok (), journal)

def finishedForever (result : Except Stop Sequential.Summary) (session : Sequential.Session) :
    Finished :=
  ⟨stopOf result, session.stack.site.journal, String.ofList session.sink.taken.toList,
    some (counted session.stack)⟩

def runForever (launch : Launch Tree) (values : Command.Values) (journal : Log.Journal) :
    Finished :=
  match routed launch journal with
  | (.error fault, journal) => ⟨some (.fault fault), journal, "", none⟩
  | (.ok (), journal) =>
    let (result, session) := Sequential.run values.sequential (pauses launch.stop)
      (allocator launch.heap journal) launch.output
    finishedForever result session

/-- Runs the worker fixture, with the policy as its hook. -/
def runWorkers (launch : Launch Tree) (values : Command.Values) (journal : Log.Journal) :
    Finished :=
  let hook : Workers.Hook := fun thread fault journal =>
    let (exit, journal) := values.policy.handle thread fault journal
    (some (.exit exit), journal)
  let surroundings : Workers.Surroundings :=
    { refusal := fun _ => launch.refusal.map Thread.Refusal.error
      hook := hook
      order := launch.order
      lacks := launch.system.lacks }
  let (result, pool) :=
    Workers.run values.workers surroundings (allocator launch.heap journal)
  ⟨stopOf result, pool.stack.site.journal, "", some (counted pool.stack)⟩

def runGrowth (launch : Launch Tree) (values : Command.Values) (journal : Log.Journal) :
    Finished :=
  let (result, stack) := Growth.run values.growth (allocator launch.heap journal)
  ⟨stopOf result, stack.site.journal, "", some (counted stack)⟩

def runVectors (launch : Launch Tree) (values : Command.Values) (journal : Log.Journal) :
    Finished :=
  let (result, journal) := Vectors.run values.vectors launch.heap journal
  ⟨stopOf result, journal, "", none⟩

def runFixture (launch : Launch Tree) (values : Command.Values) (journal : Log.Journal) :
    Finished :=
  match launch.program with
  | .forever => runForever launch values journal
  | .threaded => runWorkers launch values journal
  | .realloc => runGrowth launch values journal
  | .vectors => runVectors launch values journal

/-- Prints the counters of a run, if they were asked for and there are any. -/
def report (values : Command.Values) (finished : Finished) : Log.Journal :=
  match finished.counters with
  | some counters =>
    if values.report then finished.journal.print counters.render else finished.journal
  | none => finished.journal

/-- What a process has come to when it ends. -/
structure Ending where
  exit : Exit
  output : String
  journal : Log.Journal

/-- Ends the process after a run.  The counters come before the fault; a process that
was ended from elsewhere, or whose main thread panicked, prints no counters. -/
def conclude (values : Command.Values) (finished : Finished) : Ending :=
  match finished.stop with
  | none => ⟨.code 0, finished.output, report values finished⟩
  | some (.fault fault) =>
    let (exit, journal) := values.policy.handle .main fault (report values finished)
    ⟨exit, finished.output, journal⟩
  | some (.exit exit) => ⟨exit, finished.output, finished.journal⟩
  | some (.panic panic) =>
    ⟨.code panicStatus, finished.output, finished.journal.print panic.message⟩

/-- What a sink takes of a text that is printed without regard to errors. -/
def printed (sink : Sink) (text : String) : String :=
  String.ofList (sink.writeAll text.toList).2.taken.toList

/-- The first event of every program. -/
def announce (program : Command.Program) (journal : Log.Journal) : Log.Journal :=
  journal.emit .main .info .command "fixture starting"
    [("fixture", .text program.name), ("pid", .processId)]

/-- Reads the command line: the settings of a run, or the end of a process that has none
to do. -/
def instructed (launch : Launch Tree) (journal : Log.Journal) : Except Ending Command.Values :=
  match launch.line with
  | .rejected message => .error ⟨.code usageStatus, "", journal.print message⟩
  | .informs text => .error ⟨.code 0, printed launch.output text, journal⟩
  | .run values => .ok values

/-- What a process does once its log is set up. -/
def afterSetUp (launch : Launch Tree) (journal : Log.Journal) : Ending :=
  let journal := announce launch.program journal
  match instructed launch journal with
  | .error ending => ending
  | .ok values => conclude values (runFixture launch values journal)

/-- What a process leaves behind that ends with its log as it is. -/
def leave (system : System Tree) (installation : Log.Installation Tree) (ending : Ending) :
    Outcome :=
  ⟨ending.exit, ending.output, installation.console ending.journal,
    installation.files system.log ending.journal⟩

/-- The end of a process that could not set up its log. -/
def withoutLog (stop : Log.SetupStop) : Ending :=
  let journal := Log.Journal.start .silent
  match stop with
  | .error error =>
    let reason := error.message
    ⟨.code 1, "", journal.print s!"Failed to initialize logging: {reason}"⟩
  | .panic panic => ⟨.code panicStatus, "", journal.print panic.message⟩

/-- Sets up the log of a process by its environment. -/
def setUp (system : System Tree) (bindings : Bindings) (tree : Tree) :
    Except Log.SetupStop Unit × Log.Installation Tree :=
  Log.Installation.setUp ⟨none, tree⟩ system.log .fromEnvironment
    (.ofBindings bindings (system.refusal bindings))

def Launch.setUp (launch : Launch Tree) : Except Log.SetupStop Unit × Log.Installation Tree :=
  Execution.setUp launch.system launch.bindings launch.tree

def run (launch : Launch Tree) : Outcome :=
  match launch.setUp with
  | (.error stop, installation) => leave launch.system installation (withoutLog stop)
  | (.ok (), installation) =>
    leave launch.system installation (afterSetUp launch (.start installation.filter))

/-- A process that does nothing but set up its log, whether or not there is an error, and
go down with a fault on a thread. -/
def goDown (system : System Tree) (tree : Tree) (policy : Policy) (thread : Thread)
    (fault : Fault) (bindings : Bindings) : Outcome :=
  match setUp system bindings tree with
  | (.error (.panic panic), installation) =>
    leave system installation (withoutLog (.panic panic))
  | (_, installation) =>
    let (exit, journal) := policy.handle thread fault (.start installation.filter)
    leave system installation ⟨exit, "", journal⟩

end Execution
end HeapFixtures
