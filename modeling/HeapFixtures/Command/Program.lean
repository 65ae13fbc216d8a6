/-
# The programs and their options

There is one program to each fixture.  An option has a long name and no short one.
-/

import HeapFixtures.Fault.Policy
import HeapFixtures.Fixture.Growth
import HeapFixtures.Fixture.Sequential
import HeapFixtures.Fixture.Vectors
import HeapFixtures.Fixture.Workers
import HeapFixtures.Text.Likeness

namespace HeapFixtures
namespace Command

inductive Program
  | forever
  | threaded
  | vectors
  | realloc
  deriving DecidableEq

def Program.name : Program → String
  | .forever => "forever"
  | .threaded => "threaded"
  | .vectors => "vectors"
  | .realloc => "realloc"

def Program.about : Program → String
  | .forever => "Allocate and free a block, print `step`, pause, forever"
  | .threaded => "Run a pool of allocate/free workers and wait for all of them"
  | .vectors => "Allocate vectors through the global allocator"
  | .realloc => "Grow blocks with realloc and free them"

def Program.all : List Program := [.forever, .threaded, .vectors, .realloc]

def Program.ofName? (name : String) : Option Program :=
  Program.all.find? (·.name = name)

/-- The options of all programs. -/
inductive Key
  | blockSize
  | intervalMs
  | iterations
  | workers
  | cycles
  | rounds
  | initialSize
  | maxSize
  | onFault
  | report
  deriving DecidableEq

namespace Key

/-- The long name of an option, without the dashes in front. -/
def name : Key → String
  | .blockSize => "block-size"
  | .intervalMs => "interval-ms"
  | .iterations => "iterations"
  | .workers => "workers"
  | .cycles => "cycles"
  | .rounds => "rounds"
  | .initialSize => "initial-size"
  | .maxSize => "max-size"
  | .onFault => "on-fault"
  | .report => "report"

/-- The word that stands for the value of an option. -/
def valueName? : Key → Option String
  | .blockSize => some "BLOCK_SIZE"
  | .intervalMs => some "INTERVAL_MS"
  | .iterations => some "ITERATIONS"
  | .workers => some "WORKERS"
  | .cycles => some "CYCLES"
  | .rounds => some "ROUNDS"
  | .initialSize => some "INITIAL_SIZE"
  | .maxSize => some "MAX_SIZE"
  | .onFault => some "POLICY"
  | .report => none

/-- An option without its value as it is typed. -/
def typed (key : Key) : String := "--" ++ key.name

/-- The place that is held for the value of an option in messages and in the help text. -/
def placeholder (key : Key) : String :=
  match key.valueName? with
  | some value => " <" ++ value ++ ">"
  | none => ""

def shown (key : Key) : String := key.typed ++ key.placeholder

def takesValue (key : Key) : Bool := key.valueName?.isSome

/-- Whether an option has the same meaning in all programs that have it.  Each of these is
a group of its own. -/
def isShared : Key → Bool
  | .onFault | .report => true
  | _ => false

end Key

/-- An option as a program offers it. -/
structure Choice where
  key : Key
  purpose : String
  /-- The value in its absence, if there is one to show. -/
  absent : Option String

def Choice.number (key : Key) (purpose : String) (absent : UInt64) : Choice :=
  ⟨key, purpose, some (toString absent)⟩

def Choice.policy : Choice :=
  ⟨.onFault,
    "Behaviour on allocation or thread-creation failure: `fail-fast` exits non-zero with " ++
      "a diagnostic, `crash` aborts the process",
    some Policy.default.name⟩

def Choice.counters : Choice :=
  ⟨.report, "Print allocation counters to stderr before exiting", none⟩

/-- The options of a program in the order of its help text. -/
def Program.choices : Program → List Choice
  | .forever =>
    [.number .blockSize "Bytes allocated per iteration" Sequential.Config.default.blockSize,
     .number .intervalMs "Pause between iterations, in milliseconds"
       Sequential.Config.default.interval.millis,
     ⟨.iterations, "Stop after this many iterations instead of running until signalled", none⟩,
     .policy, .counters]
  | .threaded =>
    [.number .workers "Worker threads to spawn" Workers.Config.default.workers,
     .number .cycles "Allocate/free cycles per worker" Workers.Config.default.cycles,
     .number .blockSize "Bytes allocated per cycle" Workers.Config.default.blockSize,
     .policy, .counters]
  | .vectors =>
    [.number .iterations "Vectors to build and drop" Vectors.Config.default.iterations,
     .number .blockSize "Length of each vector in bytes" Vectors.Config.default.blockSize,
     .policy]
  | .realloc =>
    [.number .rounds "Grow-and-free rounds" Growth.Config.default.rounds,
     .number .initialSize "First request of each round, in bytes"
       Growth.Config.default.initialSize,
     .number .maxSize "Size each round grows to, in bytes" Growth.Config.default.maxSize,
     .policy, .counters]

/-- What a long name stands for. -/
inductive Topic
  | option (key : Key)
  | help
  | version
  deriving DecidableEq

namespace Topic

def name : Topic → String
  | .option key => key.name
  | .help => "help"
  | .version => "version"

def typed (topic : Topic) : String := "--" ++ topic.name

def placeholder : Topic → String
  | .option key => key.placeholder
  | .help | .version => ""

def shown (topic : Topic) : String := topic.typed ++ topic.placeholder

/-- Whether this is an option that is a group of its own. -/
def isGroup : Topic → Bool
  | .option key => key.isShared
  | .help | .version => false

/-- The option that takes a value, if this is one. -/
def valued? : Topic → Option Key
  | .option key => if key.takesValue then some key else none
  | .help | .version => none

end Topic

/-- Everything in a program that has a long name, in the order of its help text. -/
def Program.topics (program : Program) : List Topic :=
  program.choices.map (.option ·.key) ++ [.help, .version]

def Program.topic? (program : Program) (name : String) : Option Topic :=
  program.topics.find? (·.name = name)

/-- How much a name must be like another to be taken for it. -/
def likenessLimit : Float := 0.7

/-- What a wrong long name may have been meant to be: the topic whose name is most like it,
of several the last. -/
def Program.similar? (program : Program) (name : String) : Option Topic :=
  let nearer (best : Float × Option Topic) (topic : Topic) : Float × Option Topic :=
    let likeness := Text.likeness name topic.name
    if likenessLimit < likeness && best.1 ≤ likeness then (likeness, some topic) else best
  (program.topics.foldl nearer (0, none)).2

end Command
end HeapFixtures
