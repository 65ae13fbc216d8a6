/-
# A call for a pool, turn by turn

The thread that calls for a pool starts the workers one after another and then waits for each of
them, in the order of their numbers, while the workers take turns of their own: a worker writes
an event, asks the allocator for a block, gives it back, or shows a fault to the hook, and the
other threads may take any number of turns before its next one.  The calling thread goes on from
a worker only when that worker has come to its end; a turn that finds it at work changes nothing.

Any thread may take the next turn, until the call has returned.
-/

import HeapFixtures.Proofs.Joining
import Mathlib.Logic.Function.Basic

namespace HeapFixtures
namespace Workers

/-- How far the thread of a worker is. -/
inductive WorkerThread
  /-- It has not been started. -/
  | unborn
  | begins
  /-- Asks for a block, with so many more to ask for after it. -/
  | asks (left : Nat)
  | releases (left : Nat) (block : Block)
  /-- Writes that it has met a fault. -/
  | fails (fault : Fault)
  /-- Shows a resource fault to the hook. -/
  | shows (fault : Fault)
  | ended (outcome : Except Stop UInt64)

/-- How far the thread is that has called for the pool. -/
inductive Caller
  /-- Starts the worker with a number. -/
  | starting (next : Nat)
  /-- Shows to the hook that the thread of a worker was refused. -/
  | refused (index : Nat) (error : IoError)
  /-- Waits for the worker with a number, the first of those that it has yet to wait for.  The
  others have left a first failure, and their cycles, the last of them first. -/
  | joining (next count : Nat) (first : Option Fault) (done : List UInt64)
  | returned (answer : Except Stop Summary)

/-- A call for a pool. -/
structure PoolCall where
  pool : Pool
  threads : UInt64 → WorkerThread
  caller : Caller

namespace WorkerThread

/-- How the worker ends the process, if it does. -/
def exit? : WorkerThread → Option Exit
  | .ended (.error (.exit exit)) => some exit
  | _ => none

/-- Goes on with the cycles that are left. -/
def next (count : UInt64) : Nat → WorkerThread
  | 0 => .ended (.ok count)
  | left + 1 => .asks left

/-- A turn of a worker's thread. -/
def step (config : Config) (hook : Hook) (index : UInt64) (pool : Pool) :
    WorkerThread → WorkerThread × Pool
  | .unborn => (.unborn, pool)
  | .begins =>
    (next config.cycles config.cycles.toNat,
      { pool with stack := announced (.worker index) index config.cycles pool.stack })
  | .asks left =>
    match pool.stack.allocate (.worker index) config.blockSize with
    | (.ok block, stack) => (.releases left block, { pool with stack := stack })
    | (.error (.fault fault), stack) => (.fails fault, { pool with stack := stack })
    | (.error stop, stack) => (.ended (.error stop), { pool with stack := stack })
  | .releases left block =>
    (next config.cycles left,
      { pool with stack := pool.stack.release (.worker index) block })
  | .fails fault =>
    let pool := pool.emit (.worker index) .error "worker failed"
      [("index", .word index), ("error", .shown fault.message)]
    if fault.isResource then (.shows fault, pool) else (.ended (.error (.fault fault)), pool)
  | .shows fault =>
    match pool.present hook (.worker index) fault with
    | (none, pool) => (.ended (.error (.fault fault)), pool)
    | (some stop, pool) => (.ended (.error stop), pool)
  | .ended outcome => (.ended outcome, pool)

end WorkerThread

namespace PoolCall

/-- Moves a worker's thread on, with the pool.  A worker that ends the process ends the call. -/
def put (index : UInt64) (thread : WorkerThread) (pool : Pool) (call : PoolCall) : PoolCall where
  pool := pool
  threads := Function.update call.threads index thread
  caller :=
    match thread.exit? with
    | some exit => .returned (.error (.exit exit))
    | none => call.caller

/-- A turn of a worker. -/
def workerTurn (config : Config) (hook : Hook) (index : UInt64) (call : PoolCall) : PoolCall :=
  let (thread, pool) := (call.threads index).step config hook index call.pool
  call.put index thread pool

/-- Starts a worker, or finds its thread refused. -/
def start (refusal : Nat → Option IoError) (index : Nat) (call : PoolCall) : PoolCall :=
  match refusal index with
  | none =>
    { call with
      threads := Function.update call.threads index.toUInt64 .begins
      caller := .starting (index + 1) }
  | some error =>
    { call with
      pool := call.pool.emit .main .error "failed to spawn worker"
        [("index", .word index.toUInt64), ("error", .shown error.message)]
      caller := .refused index error }

/-- Shows to the hook that a thread was refused. -/
def notify (hook : Hook) (index : Nat) (error : IoError) (call : PoolCall) : PoolCall :=
  let fault := Fault.threadCreateFailed index.toUInt64 error
  match call.pool.present hook .main fault with
  | (none, pool) => { call with pool := pool, caller := .joining 0 index (some fault) [] }
  | (some stop, pool) => { call with pool := pool, caller := .returned (.error stop) }

/-- Waits for a worker: what it has come to is taken up once it has ended. -/
def join (index count : Nat) (first : Option Fault) (done : List UInt64) (call : PoolCall) :
    PoolCall :=
  match call.threads index.toUInt64 with
  | .ended (.ok cycles) =>
    { call with
      pool := call.pool.emit .main .debug "worker joined"
        [("index", .word index.toUInt64), ("cycles", .word cycles)]
      caller := .joining (index + 1) count first (cycles :: done) }
  | .ended (.error stop) =>
    { call with
      caller := .joining (index + 1) count (first.or (Pool.failure? index (.error stop))) done }
  | _ => call

/-- Returns what the workers have come to. -/
def answer (first : Option Fault) (done : List UInt64) (call : PoolCall) : PoolCall :=
  match first with
  | some fault => { call with caller := .returned (.error (.fault fault)) }
  | none =>
    let (answer, pool) := conclude done.reverse call.pool
    { call with pool := pool, caller := .returned answer }

/-- A turn of the calling thread. -/
def callerTurn (config : Config) (surroundings : Surroundings) (call : PoolCall) : PoolCall :=
  match call.caller with
  | .starting next =>
    if next < config.workers.toNat then call.start surroundings.refusal next
    else { call with caller := .joining 0 next none [] }
  | .refused index error => call.notify surroundings.hook index error
  | .joining next count first done =>
    if next < count then call.join next count first done else call.answer first done
  | .returned _ => call

/-- A turn of a thread. -/
def turn (config : Config) (surroundings : Surroundings) (call : PoolCall) (thread : Thread) :
    PoolCall :=
  match call.caller, thread with
  | .returned _, _ => call
  | _, .main => call.callerTurn config surroundings
  | _, .worker index => call.workerTurn config surroundings.hook index
  | _, _ => call

/-- The turns of threads in the order of a schedule. -/
def exec (config : Config) (surroundings : Surroundings) (call : PoolCall)
    (schedule : List Thread) : PoolCall :=
  schedule.foldl (turn config surroundings) call

/-- A call that has its answer before any thread is asked for. -/
def atOnce (run : Except Stop Summary × Pool) : PoolCall :=
  ⟨run.2, fun _ => .unborn, .returned run.1⟩

/-- A call for a pool, before the first turn. -/
def first (config : Config) (surroundings : Surroundings) (stack : Stack) : PoolCall :=
  match config.validate with
  | .error fault => atOnce (.error (.fault fault), ⟨stack, #[]⟩)
  | .ok () =>
    let pool := opened config stack
    if !hasRoomForHandles config.workers then atOnce (.error (.panic .capacityOverflow), pool)
    else if surroundings.lacks (handlesSize config.workers) then
      atOnce (giveUp (handlesSize config.workers) pool)
    else ⟨pool, fun _ => .unborn, .starting 0⟩

/-- The call has not returned. -/
def Running (call : PoolCall) : Prop := ∀ answer, call.caller ≠ .returned answer

section Turn

variable {config : Config} {surroundings : Surroundings} {stack : Stack} {call : PoolCall}

theorem first_eq (valid : config.validate = .ok ())
    (room : hasRoomForHandles config.workers = true)
    (memory : surroundings.lacks (handlesSize config.workers) = false) :
    first config surroundings stack = ⟨opened config stack, fun _ => .unborn, .starting 0⟩ := by
  simp only [first, valid, room, memory, Bool.not_true, Bool.false_eq_true, if_false]

theorem running_starting (pool : Pool) (threads : UInt64 → WorkerThread) (next : Nat) :
    Running ⟨pool, threads, .starting next⟩ := fun _ h => by cases h

theorem running_refused (pool : Pool) (threads : UInt64 → WorkerThread) (index : Nat)
    (error : IoError) : Running ⟨pool, threads, .refused index error⟩ := fun _ h => by cases h

theorem running_joining (pool : Pool) (threads : UInt64 → WorkerThread) (next count : Nat)
    (first : Option Fault) (done : List UInt64) :
    Running ⟨pool, threads, .joining next count first done⟩ := fun _ h => by cases h

theorem not_running_iff : ¬ call.Running ↔ ∃ answer, call.caller = .returned answer := by
  simp [Running]

/-- A worker's thread that does not end the process leaves the calling thread where it is. -/
theorem put_eq {index : UInt64} {thread : WorkerThread} {pool : Pool}
    (stays : thread.exit? = none) :
    call.put index thread pool =
      ⟨pool, Function.update call.threads index thread, call.caller⟩ := by
  rw [put, stays]

theorem workerTurn_eq (config : Config) (hook : Hook) (index : UInt64) (call : PoolCall) :
    call.workerTurn config hook index =
      call.put index ((call.threads index).step config hook index call.pool).1
        ((call.threads index).step config hook index call.pool).2 := rfl

/-- There are no turns after the return. -/
theorem turn_returned {answer : Except Stop Summary} (returned : call.caller = .returned answer)
    (thread : Thread) : call.turn config surroundings thread = call := by
  simp only [turn, returned]

theorem turn_main (running : call.Running) :
    call.turn config surroundings .main = call.callerTurn config surroundings := by
  unfold turn
  split
  · rename_i answer returned
    exact absurd returned (running answer)
  all_goals simp_all

theorem turn_worker (running : call.Running) (index : UInt64) :
    call.turn config surroundings (.worker index) =
      call.workerTurn config surroundings.hook index := by
  unfold turn
  split
  · rename_i answer returned
    exact absurd returned (running answer)
  all_goals simp_all

/-- No other threads take part. -/
theorem turn_other {thread : Thread} (notMain : thread ≠ .main)
    (notWorker : ∀ index, thread ≠ .worker index) :
    call.turn config surroundings thread = call := by
  unfold turn
  split
  · rfl
  · exact absurd rfl notMain
  · exact absurd rfl (notWorker _)
  · rfl

end Turn

end PoolCall
end Workers
end HeapFixtures
