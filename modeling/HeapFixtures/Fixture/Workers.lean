/-
# The worker fixture

Each worker asks for a block and gives it back, a fixed number of times; the main thread starts
all of them, waits for each in the order of their numbers, and returns the first failure in that
order.  A resource fault is shown to a hook on the thread that met it, before anything is waited
for.

Workers share nothing but the allocator, whose gates decide by thread.  The pool runs
them one after another in an order that is a parameter of the run; every order stands
for a way in which the workers may finish.
-/

import HeapFixtures.Stack

namespace HeapFixtures
namespace Workers

structure Config where
  workers : UInt64
  cycles : UInt64
  blockSize : UInt64
  deriving DecidableEq

def Config.default : Config := ⟨8, 100, 65536⟩

def Config.validate (config : Config) : Except Fault Unit :=
  if config.workers = 0 then .error (.invalidArgument "worker count must be non-zero")
  else if config.cycles = 0 then .error (.invalidArgument "cycle count must be non-zero")
  else if config.blockSize = 0 then .error .zeroSize
  else .ok ()

/-- The blocks that the whole pool asks for. -/
def Config.totalCycles (config : Config) : Except Panic UInt64 :=
  match Word.mul? config.workers config.cycles with
  | some total => .ok total
  | none => .error .mulOverflow

/-- The result of a pool whose workers all finished. -/
structure Summary where
  /-- The cycles of each worker, in the order of their numbers. -/
  cycles : List UInt64
  deriving DecidableEq

def Summary.workers (summary : Summary) : Nat := summary.cycles.length

def Summary.totalCycles (summary : Summary) : Except Panic UInt64 :=
  match Word.sum? summary.cycles with
  | some total => .ok total
  | none => .error .addOverflow

/-- The cycles that a worker has left. -/
def cycles (thread : Thread) (blockSize : UInt64) : Nat → Stack → Except Stop Unit × Stack
  | 0, stack => (.ok (), stack)
  | left + 1, stack =>
    match stack.pair thread blockSize with
    | (.ok (), stack) => cycles thread blockSize left stack
    | (.error stop, stack) => (.error stop, stack)

/-- The work of one worker, on whatever thread.  It ends at the first request that is
not granted, and returns the number of cycles if there is none. -/
def runWorker (thread : Thread) (index count blockSize : UInt64) (stack : Stack) :
    Except Stop UInt64 × Stack :=
  let stack := stack.emit thread .trace .workers "worker started"
    [("index", .word index), ("cycles", .word count)]
  match cycles thread blockSize count.toNat stack with
  | (.ok (), stack) => (.ok count, stack)
  | (.error stop, stack) => (.error stop, stack)

/-- What is shown each resource fault, with the thread that met it.  It can write to
the journal, and it may panic or end the process instead of returning. -/
abbrev Hook := Thread → Fault → Log.Journal → Option Stop × Log.Journal

def Hook.none : Hook := fun _ _ journal => (Option.none, journal)

/-- A pool at work. -/
structure Pool where
  stack : Stack
  shown : Array (Thread × Fault)

namespace Pool

def emit (pool : Pool) (thread : Thread) (level : Log.Level) (message : String)
    (fields : List (String × Log.Value)) : Pool :=
  { pool with stack := pool.stack.emit thread level .workers message fields }

/-- Prints a text, whatever the filter. -/
def print (pool : Pool) (text : String) : Pool :=
  let site := { pool.stack.site with journal := pool.stack.site.journal.print text }
  { pool with stack := { pool.stack with site := site } }

/-- Shows a fault to the hook. -/
def present (pool : Pool) (hook : Hook) (thread : Thread) (fault : Fault) :
    Option Stop × Pool :=
  let (reaction, journal) := hook thread fault pool.stack.site.journal
  let site := { pool.stack.site with journal := journal }
  (reaction, ⟨{ pool.stack with site := site }, pool.shown.push (thread, fault)⟩)

/-- One worker on its own thread.  What the hook does in place of returning becomes the
outcome of the worker. -/
def work (pool : Pool) (config : Config) (hook : Hook) (index : UInt64) :
    Except Stop UInt64 × Pool :=
  let thread := Thread.worker index
  match runWorker thread index config.cycles config.blockSize pool.stack with
  | (.ok count, stack) => (.ok count, { pool with stack := stack })
  | (.error (.fault fault), stack) =>
    let pool := { pool with stack := stack }.emit thread .error "worker failed"
      [("index", .word index), ("error", .shown fault.message)]
    if fault.isResource then
      match pool.present hook thread fault with
      | (none, pool) => (.error (.fault fault), pool)
      | (some stop, pool) => (.error stop, pool)
    else (.error (.fault fault), pool)
  | (.error stop, stack) => (.error stop, { pool with stack := stack })

/-- What the workers came to, by number. -/
abbrev Outcomes := List (Nat × Except Stop UInt64)

/-- Lets workers run in an order.  A worker that ends the process ends the run. -/
def workAll (config : Config) (hook : Hook) :
    List Nat → Outcomes → Pool → Except Exit Outcomes × Pool
  | [], outcomes, pool => (.ok outcomes, pool)
  | index :: rest, outcomes, pool =>
    match pool.work config hook index.toUInt64 with
    | (.error (.exit exit), pool) => (.error exit, pool)
    | (outcome, pool) => workAll config hook rest ((index, outcome) :: outcomes) pool

/-- The fault that a worker's outcome means for the pool.  The reason of a panic stays
with its thread. -/
def failure? (index : Nat) : Except Stop UInt64 → Option Fault
  | .ok _ => none
  | .error (.fault fault) => some fault
  | .error _ => some (.workerPanicked index.toUInt64)

/-- Waits for the workers with the given numbers, in that order, and collects the cycles
of those that finished and the first fault. -/
def join (outcomes : Outcomes) :
    List Nat → Option Fault → List UInt64 → Pool → (Option Fault × List UInt64) × Pool
  | [], first, done, pool => ((first, done.reverse), pool)
  | index :: rest, first, done, pool =>
    match outcomes.lookup index with
    | some (.ok count) =>
      let pool := pool.emit .main .debug "worker joined"
        [("index", .word index.toUInt64), ("cycles", .word count)]
      join outcomes rest first (count :: done) pool
    | some outcome => join outcomes rest (first.or (failure? index outcome)) done pool
    | none => join outcomes rest first done pool

end Pool

/-- How many workers can be started, and the error for the first that cannot. -/
def spawned (refusal : Nat → Option IoError) : Nat → Nat → Nat × Option IoError
  | 0, index => (index, none)
  | left + 1, index =>
    match refusal index with
    | some error => (index, some error)
    | none => spawned refusal left (index + 1)

/-- The bytes that the handle of a started worker takes. -/
def handleSize : Nat := 24

/-- The bytes that the handles of all workers take together, in one piece. -/
def handlesSize (workers : UInt64) : Nat := workers.toNat * handleSize

/-- Whether an address space has room for the handles of all workers: half of it is the
most that one piece of memory may take. -/
def hasRoomForHandles (workers : UInt64) : Bool :=
  handlesSize workers < UInt64.size / 2

/-- What surrounds a run of the pool. -/
structure Surroundings where
  /-- The error for the thread of a worker that the system refuses. -/
  refusal : Nat → Option IoError
  hook : Hook
  order : Nat → List Nat
  lacks : Nat → Bool

/-- No thread and no memory is refused, the hook does nothing, and workers run by number. -/
def Surroundings.plain : Surroundings := ⟨fun _ => none, Hook.none, List.range, fun _ => false⟩

def refuseAll : Nat → Option IoError := fun _ => some .tryAgain

def reportRefusal (hook : Hook) (index : Nat) (error : IoError) (pool : Pool) :
    Except Stop Fault × Pool :=
  let pool := pool.emit .main .error "failed to spawn worker"
    [("index", .word index.toUInt64), ("error", .shown error.message)]
  let fault := Fault.threadCreateFailed index.toUInt64 error
  match pool.present hook .main fault with
  | (none, pool) => (.ok fault, pool)
  | (some stop, pool) => (.error stop, pool)

/-- The values of the event that ends a run. -/
def totals (summary : Summary) (total : UInt64) : List (String × Log.Value) :=
  [("workers", .word summary.workers.toUInt64), ("total_cycles", .word total)]

/-- The end of a run in which no worker failed.  The total is computed for the event
alone, and therefore only where the event is written. -/
def conclude (cycles : List UInt64) (pool : Pool) : Except Stop Summary × Pool :=
  let summary : Summary := ⟨cycles⟩
  let names := Log.valueNames (totals summary 0)
  if pool.stack.site.journal.enables .workers .info names then
    match summary.totalCycles with
    | .error panic => (.error (.panic panic), pool)
    | .ok total =>
      (.ok summary, pool.emit .main .info "threaded fixture finished" (totals summary total))
  else (.ok summary, pool)

/-- The part of a run after a thread was refused or all were granted. -/
def finish (config : Config) (surroundings : Surroundings) (count : Nat)
    (first : Option Fault) (pool : Pool) : Except Stop Summary × Pool :=
  match Pool.workAll config surroundings.hook (surroundings.order count) [] pool with
  | (.error exit, pool) => (.error (.exit exit), pool)
  | (.ok outcomes, pool) =>
    match Pool.join outcomes (List.range count) first [] pool with
    | ((some fault, _), pool) => (.error (.fault fault), pool)
    | ((none, cycles), pool) => conclude cycles pool

def outOfMemory (size : Nat) : String :=
  s!"memory allocation of {size} bytes failed\n" ++
    "note: run with `RUST_BACKTRACE=1` environment variable to display a backtrace"

/-- Gives up, process and all, for want of memory. -/
def giveUp (size : Nat) (pool : Pool) : Except Stop Summary × Pool :=
  (.error (.exit (.signal .abort)), pool.print (outOfMemory size))

def run (config : Config) (surroundings : Surroundings) (stack : Stack) :
    Except Stop Summary × Pool :=
  let pool : Pool := ⟨stack, #[]⟩
  match config.validate with
  | .error fault => (.error (.fault fault), pool)
  | .ok () =>
    let pool := pool.emit .main .info "threaded fixture started"
      [("workers", .word config.workers), ("cycles", .word config.cycles),
       ("block_size", .word config.blockSize)]
    if !hasRoomForHandles config.workers then (.error (.panic .capacityOverflow), pool)
    else if surroundings.lacks (handlesSize config.workers) then
      giveUp (handlesSize config.workers) pool
    else
      match spawned surroundings.refusal config.workers.toNat 0 with
      | (count, none) => finish config surroundings count none pool
      | (count, some error) =>
        match reportRefusal surroundings.hook count error pool with
        | (.error stop, pool) => (.error stop, pool)
        | (.ok fault, pool) => finish config surroundings count (some fault) pool

end Workers
end HeapFixtures
