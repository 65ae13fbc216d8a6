/-
# Threads that would take the process down

A process with a pool, step by step.  The main thread starts the workers one after another,
waits for each of them, prints the counters and ends the process; the workers take their steps
in between.  A worker that meets a resource fault, and the main thread when a thread is refused
to it, would take the process down.  There is one right to do so, and it is never given back:
the thread that has it says how the process ends, prints its last words and ends it, while the
others wait for the right and print nothing.

Any thread may take the next turn.  A turn of a thread that waits changes nothing, and after
the end there are no turns.
-/

import HeapFixtures.Proofs.SharedPool
import HeapFixtures.Proofs.PolicyExit

namespace HeapFixtures

namespace Policy

/-- The event that says how the process goes down. -/
def tell (policy : Policy) (thread : Thread) (fault : Fault) (journal : Log.Journal) :
    Log.Journal :=
  let message := fault.message
  if policy.abortsOn fault then
    journal.emit thread .error .fault "fixture aborting" [("error", .shown message)]
  else
    journal.emit thread .error .fault "fixture failed"
      [("error", .shown message), ("code", .word fault.exitCode.toUInt64)]

/-- Prints the last words. -/
def say (policy : Policy) (fault : Fault) (journal : Log.Journal) : Log.Journal :=
  (policy.lastWords fault).foldl Log.Journal.print journal

/-- A thread that nobody disturbs takes the process down in these steps. -/
theorem handle_eq (policy : Policy) (thread : Thread) (fault : Fault) (journal : Log.Journal) :
    policy.handle thread fault journal =
      (policy.exit fault, policy.say fault (policy.tell thread fault journal)) := by
  unfold handle say tell lastWords
  dsimp only
  split <;> rfl

@[simp]
theorem texts_tell (policy : Policy) (thread : Thread) (fault : Fault) (journal : Log.Journal) :
    (policy.tell thread fault journal).texts = journal.texts := by
  unfold tell
  dsimp only
  split <;> exact Log.Journal.texts_emit ..

@[simp]
theorem texts_say (policy : Policy) (fault : Fault) (journal : Log.Journal) :
    (policy.say fault journal).texts = journal.texts ++ policy.lastWords fault :=
  Log.Journal.texts_foldl_print ..

end Policy

/-- Writes to the journal. -/
def Stack.write (entry : Log.Journal → Log.Journal) (stack : Stack) : Stack :=
  { stack with site := { stack.site with journal := entry stack.site.journal } }

namespace Workers

/-- What a process does with its pool. -/
structure Orders where
  config : Config
  policy : Policy
  /-- Whether the counters are printed. -/
  report : Bool
  /-- The error for the thread of a worker that the system refuses. -/
  refusal : Nat → Option IoError

/-- The threads of the process. -/
inductive PoolThread (workers : Nat)
  | main
  | worker (i : Fin workers)
  deriving DecidableEq

/-- How far a worker's thread is. -/
inductive WorkerStatus
  /-- It has not been started. -/
  | unborn
  | working
  /-- It would take the process down. -/
  | exiting (fault : Fault)
  | finished
  deriving DecidableEq

/-- How far the main thread is. -/
inductive MainStatus
  /-- Starts the worker with a number. -/
  | starting (next : Nat)
  /-- Would take the process down, since a thread was refused. -/
  | refused (fault : Fault)
  /-- Waits for the worker with a number.  Those before it have left a first failure and
  their cycles, the last of them first. -/
  | joining (next : Nat) (first : Option Fault) (done : List UInt64)
  /-- Has the answer of the pool. -/
  | reporting (first : Option Fault)
  /-- Has printed the counters, if it was asked to. -/
  | ending (first : Option Fault)
  deriving DecidableEq

/-- What the thread that takes the process down does next. -/
inductive ExitStep
  | tells
  | prints
  | leaves
  deriving DecidableEq

/-- The thread that has the right to take the process down. -/
structure ExitRight (workers : Nat) where
  who : PoolThread workers
  fault : Fault
  exitStep : ExitStep
  deriving DecidableEq

/-- A process with a pool. -/
structure Process (workers : Nat) where
  shared : SharedPool workers
  statuses : Fin workers → WorkerStatus
  mainStatus : MainStatus
  exitRight : Option (ExitRight workers)
  exit : Option Exit

variable {workers : Nat}

/-- The thread that writes events and makes requests. -/
def PoolThread.thread : PoolThread workers → Thread
  | .main => .main
  | .worker i => .worker (SharedPool.number i)

/-- The event about a worker that has come back. -/
def noteJoined (index : Nat) (outcome : Except Stop UInt64) (journal : Log.Journal) : Log.Journal :=
  match outcome with
  | .ok count => journal.emit .main .debug .workers "worker joined"
      [("index", .word index.toUInt64), ("cycles", .word count)]
  | .error _ => journal

/-- The cycles of the workers that have come back, with those of one more. -/
def collect (done : List UInt64) : Except Stop UInt64 → List UInt64
  | .ok count => count :: done
  | .error _ => done

/-- The event of a worker that fails. -/
def noteFailed (index : UInt64) (outcome : Except Stop UInt64) (journal : Log.Journal) :
    Log.Journal :=
  match outcome with
  | .error (.fault fault) =>
    journal.emit (.worker index) .error .workers "worker failed"
      [("index", .word index), ("error", .shown fault.message)]
  | _ => journal

/-- What a worker's thread does after its work. -/
def WorkerStatus.after : Except Stop UInt64 → WorkerStatus
  | .error (.fault fault) => if fault.isResource then .exiting fault else .finished
  | _ => .finished

/-- The event of a thread that is refused. -/
def noteRefused (index : Nat) (error : IoError) (journal : Log.Journal) : Log.Journal :=
  journal.emit .main .error .workers "failed to spawn worker"
    [("index", .word index.toUInt64), ("error", .shown error.message)]

theorem texts_noteJoined (index : Nat) (outcome : Except Stop UInt64) (journal : Log.Journal) :
    (noteJoined index outcome journal).texts = journal.texts := by
  unfold noteJoined
  split
  · exact Log.Journal.texts_emit ..
  · rfl

theorem texts_noteFailed (index : UInt64) (outcome : Except Stop UInt64) (journal : Log.Journal) :
    (noteFailed index outcome journal).texts = journal.texts := by
  unfold noteFailed
  split
  · exact Log.Journal.texts_emit ..
  · rfl

/-- A worker's step prints nothing. -/
theorem SharedPool.texts_step (config : Config) (shared : SharedPool workers) (i : Fin workers) :
    (shared.step config i).inner.texts = shared.inner.texts := by
  show ((shared.view i).step config (number i)).inner.texts = (shared.view i).inner.texts
  obtain ⟨counters, inner, phase, calls⟩ := shared.view i
  cases phase with
  | begins => exact Stack.texts_emit ..
  | asks left => exact inner.texts_allocate (.worker (number i)) config.blockSize
  | releases left block => exact inner.texts_release (.worker (number i)) block
  | _ => rfl

namespace Process

/-- The process when its pool has its settings and no thread has been started. -/
def first (inner : Stack) : Process workers :=
  ⟨.first .zero inner, fun _ => .unborn, .starting 0, none, none⟩

/-- The texts printed so far. -/
def texts (process : Process workers) : List String := process.shared.inner.texts

/-- What the worker does next. -/
def phase (process : Process workers) (i : Fin workers) : Phase := (process.shared.states i).phase

/-- Writes to the journal. -/
def write (entry : Log.Journal → Log.Journal) (process : Process workers) : Process workers :=
  { process with shared := { process.shared with inner := process.shared.inner.write entry } }

/-- Sets a worker to something else. -/
def send (i : Fin workers) (status : WorkerStatus) (process : Process workers) : Process workers :=
  { process with statuses := Function.update process.statuses i status }

/-- Ends the process. -/
def leave (exit : Exit) (process : Process workers) : Process workers :=
  { process with exit := some exit }

/-- The fault that a thread would take the process down with. -/
def exiting (process : Process workers) : PoolThread workers → Option Fault
  | .main =>
    match process.mainStatus with
    | .refused fault | .ending (some fault) => some fault
    | _ => none
  | .worker i =>
    match process.statuses i with
    | .exiting fault => some fault
    | _ => none

/-- The thread that has the right to take the process down goes on with it. -/
def exitTurn (policy : Policy) (exitRight : ExitRight workers) (process : Process workers) :
    Process workers :=
  match exitRight.exitStep with
  | .tells =>
    { process.write (policy.tell exitRight.who.thread exitRight.fault) with
      exitRight := some { exitRight with exitStep := .prints } }
  | .prints =>
    { process.write (policy.say exitRight.fault) with
      exitRight := some { exitRight with exitStep := .leaves } }
  | .leaves => process.leave (policy.exit exitRight.fault)

/-- A thread would take the process down: it takes the right to do so if it is free, goes on
if it has it, and waits else. -/
def bringDown (policy : Policy) (who : PoolThread workers) (fault : Fault)
    (process : Process workers) : Process workers :=
  match process.exitRight with
  | none => { process with exitRight := some ⟨who, fault, .tells⟩ }
  | some exitRight => if exitRight.who = who then process.exitTurn policy exitRight else process

/-- A worker takes a step of its work. -/
def work (config : Config) (i : Fin workers) (process : Process workers) : Process workers :=
  { process with shared := process.shared.step config i }

/-- A worker has come to the end of its work. -/
def finish (i : Fin workers) (outcome : Except Stop UInt64) (process : Process workers) :
    Process workers :=
  (process.write (noteFailed (SharedPool.number i) outcome)).send i (.after outcome)

/-- A turn of a worker. -/
def workerTurn (orders : Orders) (i : Fin workers) (process : Process workers) :
    Process workers :=
  match process.statuses i with
  | .unborn | .finished => process
  | .exiting fault => process.bringDown orders.policy (.worker i) fault
  | .working =>
    match process.phase i with
    | .ended outcome => process.finish i outcome
    | _ => process.work orders.config i

/-- The main thread has the answer of the pool, and a journal that says so. -/
def answered (failure : Option Fault) (inner : Stack) (process : Process workers) :
    Process workers :=
  { process with
    shared := { process.shared with inner := inner }
    mainStatus := .reporting failure }

/-- The main thread has waited for all workers. -/
def answer (failure : Option Fault) (done : List UInt64) (process : Process workers) :
    Process workers :=
  match failure with
  | some fault => process.answered (some fault) process.shared.inner
  | none =>
    match Workers.conclude done.reverse ⟨process.shared.inner, #[]⟩ with
    | (.error (.panic panic), _) =>
      (process.write (·.print panic.message)).leave (.code Execution.panicStatus)
    | (_, pool) => process.answered none pool.stack

/-- A worker that the main thread has waited for comes back. -/
def takeUp (i : Fin workers) (outcome : Except Stop UInt64) (failure : Option Fault)
    (done : List UInt64) (process : Process workers) : Process workers :=
  { process.write (noteJoined i.val outcome) with
    mainStatus := .joining (i.val + 1) (failure.or (Pool.failure? i.val outcome))
      (collect done outcome) }

/-- The main thread waits for a worker. -/
def join (i : Fin workers) (failure : Option Fault) (done : List UInt64)
    (process : Process workers) : Process workers :=
  match process.statuses i, process.phase i with
  | .finished, .ended outcome => process.takeUp i outcome failure done
  | _, _ => process

/-- The main thread starts a worker. -/
def startWorker (i : Fin workers) (process : Process workers) : Process workers :=
  { process.send i .working with mainStatus := .starting (i.val + 1) }

/-- The system refuses the thread of a worker. -/
def reject (i : Fin workers) (error : IoError) (process : Process workers) : Process workers :=
  { process.write (noteRefused i.val error) with
    mainStatus := .refused (.threadCreateFailed i.val.toUInt64 error) }

/-- The main thread would start a worker. -/
def spawn (refusal : Nat → Option IoError) (i : Fin workers) (process : Process workers) :
    Process workers :=
  match refusal i.val with
  | some error => process.reject i error
  | none => process.startWorker i

/-- The main thread prints the counters, if they are asked for. -/
def publish (asked : Bool) (failure : Option Fault) (process : Process workers) :
    Process workers :=
  { process.write fun journal =>
      (process.shared.counters.tally asked).foldl Log.Journal.print journal with
    mainStatus := .ending failure }

/-- A turn of the main thread. -/
def mainTurn (orders : Orders) (process : Process workers) : Process workers :=
  match process.mainStatus with
  | .starting next =>
    if h : next < workers then process.spawn orders.refusal ⟨next, h⟩
    else { process with mainStatus := .joining 0 none [] }
  | .refused fault => process.bringDown orders.policy .main fault
  | .joining next failure done =>
    if h : next < workers then process.join ⟨next, h⟩ failure done
    else process.answer failure done
  | .reporting failure => process.publish orders.report failure
  | .ending none => process.leave (.code 0)
  | .ending (some fault) => process.bringDown orders.policy .main fault

/-- A turn of a thread. -/
def turn (orders : Orders) (process : Process workers) (who : PoolThread workers) :
    Process workers :=
  match process.exit with
  | some _ => process
  | none =>
    match who with
    | .main => process.mainTurn orders
    | .worker i => process.workerTurn orders i

/-- The turns of threads in the order of a schedule. -/
def exec (orders : Orders) (process : Process workers) (schedule : List (PoolThread workers)) :
    Process workers :=
  schedule.foldl (turn orders) process

/-- A turn that changes something, by what it finds and what it does. -/
inductive Moves (orders : Orders) (process : Process workers) : Process workers → Prop
  | takes {who : PoolThread workers} {fault : Fault} (exiting : process.exiting who = some fault)
      (free : process.exitRight = none) :
      Moves orders process { process with exitRight := some ⟨who, fault, .tells⟩ }
  | exitTurns {exitRight : ExitRight workers} (taken : process.exitRight = some exitRight) :
      Moves orders process (process.exitTurn orders.policy exitRight)
  | works {i : Fin workers} (working : process.statuses i = .working)
      (busy : ∀ outcome, process.phase i ≠ .ended outcome) :
      Moves orders process (process.work orders.config i)
  | finishes {i : Fin workers} {outcome : Except Stop UInt64}
      (working : process.statuses i = .working) (ended : process.phase i = .ended outcome) :
      Moves orders process (process.finish i outcome)
  | startsWorker {i : Fin workers} (mainStatus : process.mainStatus = .starting i.val)
      (granted : orders.refusal i.val = none) : Moves orders process (process.startWorker i)
  | rejects {i : Fin workers} {error : IoError} (mainStatus : process.mainStatus = .starting i.val)
      (refused : orders.refusal i.val = some error) :
      Moves orders process (process.reject i error)
  | started {next : Nat} (mainStatus : process.mainStatus = .starting next) (all : workers ≤ next) :
      Moves orders process { process with mainStatus := .joining 0 none [] }
  | takesUp {i : Fin workers} {failure : Option Fault} {done : List UInt64}
      {outcome : Except Stop UInt64} (mainStatus : process.mainStatus = .joining i.val failure done)
      (finished : process.statuses i = .finished) (ended : process.phase i = .ended outcome) :
      Moves orders process (process.takeUp i outcome failure done)
  | answers {next : Nat} {failure : Option Fault} {done : List UInt64}
      (mainStatus : process.mainStatus = .joining next failure done) (all : workers ≤ next) :
      Moves orders process (process.answer failure done)
  | reports {failure : Option Fault} (mainStatus : process.mainStatus = .reporting failure) :
      Moves orders process (process.publish orders.report failure)
  | succeeds (mainStatus : process.mainStatus = .ending none) :
      Moves orders process (process.leave (.code 0))

/-- Why a thread waits. -/
inductive Waits (process : Process workers) : PoolThread workers → Prop
  /-- A worker has not been started, or has nothing left to do. -/
  | idle {i : Fin workers} (idle : process.statuses i = .unborn ∨ process.statuses i = .finished) :
      Waits process (.worker i)
  /-- Another thread has the right to take the process down. -/
  | right {who : PoolThread workers} {exitRight : ExitRight workers}
      (taken : process.exitRight = some exitRight)
      (other : exitRight.who ≠ who) : Waits process who
  /-- The main thread waits for a worker. -/
  | worker {i : Fin workers} {failure : Option Fault} {done : List UInt64}
      (mainStatus : process.mainStatus = .joining i.val failure done)
      (unended : ∀ outcome, process.statuses i = .finished → process.phase i ≠ .ended outcome) :
      Waits process .main

section Turn

variable {orders : Orders} {process : Process workers}

/-- A thread that would take the process down waits, or comes closer to it. -/
theorem bringDown_cases {who : PoolThread workers} {fault : Fault}
    (exiting : process.exiting who = some fault) :
    process.bringDown orders.policy who fault = process ∧ process.Waits who ∨
      Moves orders process (process.bringDown orders.policy who fault) := by
  unfold bringDown
  cases hexitRight : process.exitRight with
  | none => exact .inr (.takes exiting hexitRight)
  | some exitRight =>
      dsimp only
      split
      · exact .inr (.exitTurns hexitRight)
      · rename_i other
        exact .inl ⟨rfl, .right hexitRight other⟩

theorem workerTurn_cases (orders : Orders) (process : Process workers) (i : Fin workers) :
    process.workerTurn orders i = process ∧ process.Waits (.worker i) ∨
      Moves orders process (process.workerTurn orders i) := by
  unfold workerTurn
  cases hstatus : process.statuses i with
  | unborn => exact .inl ⟨rfl, .idle (.inl hstatus)⟩
  | finished => exact .inl ⟨rfl, .idle (.inr hstatus)⟩
  | exiting fault => exact bringDown_cases (by rw [exiting, hstatus])
  | working =>
      refine .inr ?_
      dsimp only
      split
      · rename_i outcome hphase
        exact .finishes hstatus hphase
      · rename_i hbusy
        exact .works hstatus hbusy

theorem mainTurn_cases (orders : Orders) (process : Process workers) :
    process.mainTurn orders = process ∧ process.Waits .main ∨
      Moves orders process (process.mainTurn orders) := by
  unfold mainTurn
  cases hmainStatus : process.mainStatus with
  | starting next =>
      refine .inr ?_
      dsimp only
      split
      · rename_i hlt
        unfold spawn
        cases hrefusal : orders.refusal next with
        | some error => exact .rejects hmainStatus hrefusal
        | none => exact .startsWorker hmainStatus hrefusal
      · rename_i hall
        exact .started hmainStatus (Nat.le_of_not_lt hall)
  | refused fault => exact bringDown_cases (by rw [exiting, hmainStatus])
  | joining next failure done =>
      dsimp only
      split
      · rename_i hlt
        unfold join
        split
        · rename_i outcome hfinished hphase
          exact .inr (.takesUp hmainStatus hfinished hphase)
        · rename_i hunended
          exact .inl ⟨rfl, .worker hmainStatus hunended⟩
      · rename_i hall
        exact .inr (.answers hmainStatus (Nat.le_of_not_lt hall))
  | reporting failure => exact .inr (.reports hmainStatus)
  | ending failure =>
      cases failure with
      | none => exact .inr (.succeeds hmainStatus)
      | some fault => exact bringDown_cases (by rw [exiting, hmainStatus])

/-- A turn changes nothing, if the thread waits, or is one of these. -/
theorem turn_cases (orders : Orders) (running : process.exit = none) (who : PoolThread workers) :
    process.turn orders who = process ∧ process.Waits who ∨
      Moves orders process (process.turn orders who) := by
  unfold turn
  rw [running]
  cases who with
  | main => exact mainTurn_cases orders process
  | worker i => exact workerTurn_cases orders process i

/-- After the end there are no turns. -/
theorem turn_of_exit {exit : Exit} (ended : process.exit = some exit) (who : PoolThread workers) :
    process.turn orders who = process := by
  unfold turn
  rw [ended]

theorem exec_concat (process : Process workers) (schedule : List (PoolThread workers))
    (who : PoolThread workers) :
    process.exec orders (schedule ++ [who]) = (process.exec orders schedule).turn orders who :=
  List.foldl_concat ..

end Turn

end Process

end Workers
end HeapFixtures
