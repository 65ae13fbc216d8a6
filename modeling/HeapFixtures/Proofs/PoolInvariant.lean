/-
# What a call for a pool comes to

A call for a pool returns when every worker that was started has come to its end, with all its
requests made.  What is told of each worker here is told of its own dealings with the allocator
and of the faults that the hook was shown on its thread, whatever the other threads did between
them: each turn of a worker goes on where its last one stopped, and leaves all other workers
where they are.

As long as the call has not returned there is a thread whose turn changes something, and every
such turn leaves less to do, so the call returns in any schedule that lets each thread have
enough turns.
-/

import HeapFixtures.Proofs.PoolTurns
import Mathlib.Data.List.Induction

namespace HeapFixtures
namespace Workers

section Thread

variable {config : Config} {hook : Hook} {index : UInt64} {size : UInt64} {total left : Nat}
  {dealings : List Dealing} {shown : List (Thread × Fault)} {thread : WorkerThread}

/-- Dealings after which a number of cycles is left: whatever the rest of the work is, they and
the rest are all that the worker has to do. -/
def Begun (index size : UInt64) (total left : Nat) (dealings : List Dealing) : Prop :=
  ∀ rest met, Performs (.worker index) size left rest met →
    Performs (.worker index) size total (dealings ++ rest) met

theorem Begun.start : Begun index size total total [] := fun _ _ performs => performs

theorem Begun.cycle (begun : Begun index size total (left + 1) dealings) (block : Block) :
    Begun index size total left
      (dealings ++ [.allocate (.worker index) size (.ok block)] ++
        [.release (.worker index) block]) := by
  intro rest met performs
  have hall := begun _ _ (.cycle block performs)
  simpa using hall

/-- A worker's thread stands where its dealings have brought it. -/
inductive Stands (config : Config) (hook : Hook) (index : UInt64) :
    WorkerThread → List Dealing → List (Thread × Fault) → Prop
  | unborn : Stands config hook index .unborn [] []
  | begins : Stands config hook index .begins [] []
  | asks {left : Nat} {dealings : List Dealing}
      (begun : Begun index config.blockSize config.cycles.toNat (left + 1) dealings) :
      Stands config hook index (.asks left) dealings []
  | releases {left : Nat} {dealings : List Dealing} {block : Block}
      (begun : Begun index config.blockSize config.cycles.toNat (left + 1) dealings) :
      Stands config hook index (.releases left block)
        (dealings ++ [.allocate (.worker index) config.blockSize (.ok block)]) []
  | fails {fault : Fault} {dealings : List Dealing}
      (performs : Performs (.worker index) config.blockSize config.cycles.toNat dealings
        (.failed fault)) : Stands config hook index (.fails fault) dealings []
  | shows {fault : Fault} {dealings : List Dealing}
      (performs : Performs (.worker index) config.blockSize config.cycles.toNat dealings
        (.failed fault)) (resource : fault.isResource = true) :
      Stands config hook index (.shows fault) dealings []
  | ended {report : Report} {outcome : Except Stop UInt64} (number : report.index = index.toNat)
      (performs : Performs (.worker index) config.blockSize config.cycles.toNat report.dealings
        report.met)
      (becomes : report.met.Becomes hook (.worker index) report.fate)
      (returns : report.fate.Returns config.cycles outcome) :
      Stands config hook index (.ended outcome) report.dealings report.shown?.toList

/-- What a thread adds in one turn: its own dealings, and the faults shown on it. -/
structure Adds (thread : Thread) (before after : Pool) (dealings : List Dealing)
    (shown : List (Thread × Fault)) : Prop where
  dealt : ∀ dealing ∈ dealings, dealing.thread = thread
  heard : ∀ entry ∈ shown, entry.1 = thread
  history : before.stack.History dealings after.stack
  shown : after.shown.toList = before.shown.toList ++ shown

theorem Adds.aside {before after : Pool} (thread : Thread)
    (history : before.stack.History [] after.stack) (shown : after.shown = before.shown) :
    Adds thread before after [] [] :=
  ⟨List.forall_mem_nil _, List.forall_mem_nil _, history, by rw [shown, List.append_nil]⟩

theorem Adds.dealing {pool : Pool} {dealing : Dealing} {after : Stack}
    (served : pool.stack.Serves dealing after) :
    Adds dealing.thread pool { pool with stack := after } [dealing] [] :=
  ⟨List.forall_mem_singleton.2 rfl, List.forall_mem_nil _, .cons served (.nil _),
    (List.append_nil _).symm⟩

section Adds

variable {speaker other : Thread} {before after : Pool} {more : List Dealing}
  {told : List (Thread × Fault)}

theorem Adds.filter_dealings_self (adds : Adds speaker before after more told)
    (dealings : List Dealing) :
    (dealings ++ more).filter (·.thread = speaker) =
      dealings.filter (·.thread = speaker) ++ more := by
  rw [List.filter_append,
    List.filter_eq_self.2 fun dealing mem => decide_eq_true (adds.dealt dealing mem)]

theorem Adds.filter_dealings_of_ne (adds : Adds speaker before after more told)
    (ne : other ≠ speaker) (dealings : List Dealing) :
    (dealings ++ more).filter (·.thread = other) = dealings.filter (·.thread = other) := by
  have hmore : more.filter (·.thread = other) = [] := by
    rw [List.filter_eq_nil_iff]
    intro dealing mem
    rw [adds.dealt dealing mem]
    simpa using ne.symm
  rw [List.filter_append, hmore, List.append_nil]

theorem Adds.filter_shown_self (adds : Adds speaker before after more told) :
    after.shown.toList.filter (·.1 = speaker) =
      before.shown.toList.filter (·.1 = speaker) ++ told := by
  rw [adds.shown, List.filter_append,
    List.filter_eq_self.2 fun entry mem => decide_eq_true (adds.heard entry mem)]

theorem Adds.filter_shown_of_ne (adds : Adds speaker before after more told)
    (ne : other ≠ speaker) :
    after.shown.toList.filter (·.1 = other) = before.shown.toList.filter (·.1 = other) := by
  have htold : told.filter (·.1 = other) = [] := by
    rw [List.filter_eq_nil_iff]
    intro entry mem
    rw [adds.heard entry mem]
    simpa using ne.symm
  rw [adds.shown, List.filter_append, htold, List.append_nil]

end Adds

/-- A worker that begins its next cycle, or has none left. -/
theorem Stands.next (begun : Begun index config.blockSize config.cycles.toNat left dealings) :
    Stands config hook index (.next config.cycles left) dealings [] := by
  cases left with
  | zero =>
      have performs := begun [] .completed .done
      rw [List.append_nil] at performs
      exact @ended _ _ _ ⟨index.toNat, dealings, .completed, .completed⟩ _ rfl performs
        .completed .completed
  | succ left => exact .asks begun

/-- A worker that has been told that it gets no block. -/
theorem Stands.stopped {fault : Fault}
    (begun : Begun index config.blockSize config.cycles.toNat (left + 1) dealings) :
    Stands config hook index (.fails fault)
      (dealings ++ [.allocate (.worker index) config.blockSize (.error (.fault fault))]) [] :=
  .fails (begun _ _ (.failed left fault))

/-- A worker in whose request the allocator has panicked. -/
theorem Stands.panicked {panic : Panic}
    (begun : Begun index config.blockSize config.cycles.toNat (left + 1) dealings) :
    Stands config hook index (.ended (.error (.panic panic)))
      (dealings ++ [.allocate (.worker index) config.blockSize (.error (.panic panic))]) [] :=
  @ended _ _ _ ⟨index.toNat, _, .panicked, .panicked⟩ _ rfl (begun _ _ (.panicked left panic))
    .panicked (.panicked panic)

/-- A worker that has met a fault other than a resource fault. -/
theorem Stands.unseen {fault : Fault}
    (performs : Performs (.worker index) config.blockSize config.cycles.toNat dealings
      (.failed fault)) (plain : fault.isResource = false) :
    Stands config hook index (.ended (.error (.fault fault))) dealings [] := by
  have hshown : (⟨index.toNat, dealings, .failed fault, .failed fault⟩ : Report).shown? = none :=
    if_neg (by rw [plain]; exact Bool.false_ne_true)
  have stands := @ended config hook _ ⟨index.toNat, dealings, .failed fault, .failed fault⟩ _ rfl
    performs (.unseen plain) (.failed fault)
  rwa [hshown] at stands

/-- A worker whose fault the hook has seen. -/
theorem Stands.seen {fault : Fault} {fate : Fate} {outcome : Except Stop UInt64}
    (performs : Performs (.worker index) config.blockSize config.cycles.toNat dealings
      (.failed fault)) (resource : fault.isResource = true)
    (becomes : Fate.Becomes hook (.worker index) (.failed fault) fate)
    (returns : fate.Returns config.cycles outcome) :
    Stands config hook index (.ended outcome) dealings [(.worker index, fault)] := by
  have hshown : (⟨index.toNat, dealings, .failed fault, fate⟩ : Report).shown? =
      some (.worker index, fault) := by
    simp [Report.shown?, Report.thread, resource]
  have stands := @ended config hook _ ⟨index.toNat, dealings, .failed fault, fate⟩ _ rfl
    performs becomes returns
  rwa [hshown] at stands

/-- A worker that has not been started has done nothing. -/
theorem Stands.of_unborn (stands : Stands config hook index .unborn dealings shown) :
    dealings = [] ∧ shown = [] := by
  cases stands
  exact ⟨rfl, rfl⟩

theorem Stands.begin (stands : Stands config hook index .unborn dealings shown) :
    Stands config hook index .begins dealings shown := by
  obtain ⟨rfl, rfl⟩ := stands.of_unborn
  exact .begins

/-- A turn of a worker's thread goes on where the last one stopped. -/
theorem Stands.step (tame : Tame hook) (stands : Stands config hook index thread dealings shown)
    (pool : Pool) :
    ∃ more told, Adds (.worker index) pool (thread.step config hook index pool).2 more told ∧
      Stands config hook index (thread.step config hook index pool).1 (dealings ++ more)
        (shown ++ told) := by
  cases stands with
  | unborn => exact ⟨[], [], .aside _ (.nil _) rfl, .unborn⟩
  | begins => exact ⟨[], [], .aside _ (Stack.aside_emit ..).history rfl, .next .start⟩
  | @asks left dealings begun =>
      rcases hcall : pool.stack.allocate (.worker index) config.blockSize with ⟨answer, stack⟩
      have hadds := Adds.dealing (.allocate hcall)
      simp only [WorkerThread.step, hcall]
      cases Stack.allocates_of_allocate hcall with
      | granted => exact ⟨_, [], hadds, .releases begun⟩
      | refused => exact ⟨_, [], hadds, .stopped begun⟩
      | panicked => exact ⟨_, [], hadds, .panicked begun⟩
  | @releases left dealings block begun =>
      exact ⟨_, [], .dealing (.release (.worker index) block), .next (begun.cycle block)⟩
  | @fails fault dealings performs =>
      refine ⟨[], [], ?_⟩
      rw [List.append_nil, List.append_nil, WorkerThread.step]
      split
      · rename_i resource
        exact ⟨.aside _ (Stack.aside_emit ..).history rfl, .shows performs resource⟩
      · rename_i plain
        exact ⟨.aside _ (Stack.aside_emit ..).history rfl,
          .unseen performs (Bool.eq_false_iff.2 plain)⟩
  | @shows fault dealings performs resource =>
      obtain ⟨after, hpresent, history, hshown⟩ := present_eq pool hook (.worker index) fault
      refine ⟨[], [(.worker index, fault)], ?_⟩
      rw [List.append_nil, List.nil_append, WorkerThread.step, hpresent]
      have hadds : Adds (.worker index) pool after [] [(.worker index, fault)] :=
        ⟨List.forall_mem_nil _, List.forall_mem_singleton.2 rfl, history, hshown⟩
      cases hseen : (hook (.worker index) fault pool.stack.site.journal).1 with
      | none => exact ⟨hadds, .seen performs resource (.returned resource hseen) (.failed fault)⟩
      | some stop =>
          obtain ⟨panic, rfl⟩ := tame _ _ _ _ hseen
          exact ⟨hadds, .seen performs resource (.raised resource hseen) (.panicked panic)⟩
  | @ended report outcome number performs becomes returns =>
      refine ⟨[], [], .aside _ (.nil _) rfl, ?_⟩
      rw [List.append_nil, List.append_nil]
      exact .ended number performs becomes returns

theorem Fate.Returns.eq_of_ok {α : Type} {value other : α} {fate : Fate}
    (returns : fate.Returns value (.ok other)) : other = value := by
  cases returns
  rfl

theorem Fate.Returns.exit?_eq_none {count : UInt64} {fate : Fate} {outcome : Except Stop UInt64}
    (returns : fate.Returns count outcome) : (WorkerThread.ended outcome).exit? = none := by
  cases returns <;> rfl

/-- No worker ends the process under a hook that does not. -/
theorem Stands.exit?_eq_none (stands : Stands config hook index thread dealings shown) :
    thread.exit? = none := by
  cases stands with
  | ended number performs becomes returns => exact returns.exit?_eq_none
  | _ => rfl

/-- A worker that has completed its work has made all its cycles. -/
theorem Stands.cycles_eq {cycles : UInt64}
    (stands : Stands config hook index (.ended (.ok cycles)) dealings shown) :
    cycles = config.cycles := by
  cases stands with
  | ended number performs becomes returns => exact returns.eq_of_ok

end Thread

namespace WorkerThread

section Step

variable {config : Config} {hook : Hook} {index : UInt64} {pool : Pool} {thread : WorkerThread}

theorem next_ne_unborn (count : UInt64) (left : Nat) : next count left ≠ .unborn := by
  cases left <;> exact nofun

/-- A turn starts no worker. -/
theorem step_eq_unborn_iff :
    (thread.step config hook index pool).1 = .unborn ↔ thread = .unborn := by
  cases thread with
  | unborn => exact Iff.rfl
  | begins => exact iff_of_false (next_ne_unborn _ _) nofun
  | releases left block => exact iff_of_false (next_ne_unborn _ _) nofun
  | ended outcome => exact Iff.rfl
  | asks left =>
      rw [step]
      split <;> simp
  | fails fault =>
      rw [step]
      split <;> simp
  | shows fault =>
      rw [step]
      split <;> simp

end Step

end WorkerThread

/-- The failure of a worker that has ended. -/
def failuresOf (threads : UInt64 → WorkerThread) (index : Nat) : Option Fault :=
  match threads index.toUInt64 with
  | .ended outcome => Pool.failure? index outcome
  | _ => none

/-- What the hook has to be shown of a thread that was refused. -/
def refusalFault (index : Nat) (error : IoError) : Fault :=
  .threadCreateFailed index.toUInt64 error

/-- As many workers were started as the system granted threads for, one after the other, and the
hook has come back from the refusal, if there was one. -/
structure Manned (config : Config) (surroundings : Surroundings)
    (threads : UInt64 → WorkerThread) (seen : List (Thread × Fault)) (count : Nat)
    (error? : Option IoError) : Prop where
  spawned : spawned surroundings.refusal config.workers.toNat 0 = (count, error?)
  started : ∀ index, threads index = .unborn ↔ count ≤ index.toNat
  seen : seen = (error?.map fun error => (Thread.main, refusalFault count error)).toList
  returned : ∀ error ∈ error?, ∃ journal,
    (surroundings.hook .main (refusalFault count error) journal).1 = none

/-- The calling thread stands where the other threads have let it come. -/
inductive Caller.Follows (config : Config) (surroundings : Surroundings)
    (threads : UInt64 → WorkerThread) (seen : List (Thread × Fault)) : Caller → Prop
  | starting {next : Nat} (bound : next ≤ config.workers.toNat)
      (rest : Workers.spawned surroundings.refusal (config.workers.toNat - next) next =
        Workers.spawned surroundings.refusal config.workers.toNat 0)
      (started : ∀ index, threads index = .unborn ↔ next ≤ index.toNat) (unseen : seen = []) :
      Follows config surroundings threads seen (.starting next)
  | refused {index : Nat} {error : IoError}
      (spawned : Workers.spawned surroundings.refusal config.workers.toNat 0 = (index, some error))
      (started : ∀ other, threads other = .unborn ↔ index ≤ other.toNat) (unseen : seen = []) :
      Follows config surroundings threads seen (.refused index error)
  | joining {next count : Nat} {error? : Option IoError} {done : List UInt64}
      (manned : Manned config surroundings threads seen count error?) (bound : next ≤ count)
      (ended : ∀ index < next, ∃ outcome, threads index.toUInt64 = .ended outcome)
      (done_eq : firstFailure (failuresOf threads) next = none →
        done = List.replicate next config.cycles) :
      Follows config surroundings threads seen
        (.joining next count
          ((error?.map (refusalFault count)).or (firstFailure (failuresOf threads) next)) done)
  /-- The hook has not come back from a refusal. -/
  | stopped {count : Nat} {error : IoError} {journal : Log.Journal} {stop : Stop}
      (spawned : Workers.spawned surroundings.refusal config.workers.toNat 0 = (count, some error))
      (hook : (surroundings.hook .main (refusalFault count error) journal).1 = some stop)
      (once : seen = [(.main, refusalFault count error)]) :
      Follows config surroundings threads seen (.returned (.error stop))
  | returned {count : Nat} {error? : Option IoError}
      (manned : Manned config surroundings threads seen count error?)
      (ended : ∀ index < count, ∃ outcome, threads index.toUInt64 = .ended outcome)
      {answer : Except Stop Summary}
      (answer_eq : answer =
        match (error?.map (refusalFault count)).or (firstFailure (failuresOf threads) count) with
        | some fault => .error (.fault fault)
        | none => .ok ⟨List.replicate count config.cycles⟩) :
      Follows config surroundings threads seen (.returned answer)

section Follows

variable {config : Config} {surroundings : Surroundings} {threads others : UInt64 → WorkerThread}
  {seen : List (Thread × Fault)} {count : Nat} {error? : Option IoError} {caller : Caller}

theorem Manned.bound (manned : Manned config surroundings threads seen count error?) :
    count ≤ config.workers.toNat := le_of_spawned manned.spawned

theorem Manned.mono (manned : Manned config surroundings threads seen count error?)
    (born : ∀ index, others index = .unborn ↔ threads index = .unborn) :
    Manned config surroundings others seen count error? :=
  { manned with started := fun index => (born index).trans (manned.started index) }

/-- The failures of workers that have ended do not change. -/
theorem firstFailure_of_kept
    (kept : ∀ index outcome, threads index = .ended outcome → others index = .ended outcome)
    (ended : ∀ index < count, ∃ outcome, threads index.toUInt64 = .ended outcome) :
    firstFailure (failuresOf threads) count = firstFailure (failuresOf others) count := by
  refine firstFailure_congr fun index hindex => ?_
  obtain ⟨outcome, hended⟩ := ended index hindex
  rw [failuresOf, failuresOf, hended, kept _ _ hended]

/-- The calling thread does not mind what happens to workers that have not ended. -/
theorem Caller.Follows.mono (follows : caller.Follows config surroundings threads seen)
    (born : ∀ index, others index = .unborn ↔ threads index = .unborn)
    (kept : ∀ index outcome, threads index = .ended outcome → others index = .ended outcome) :
    caller.Follows config surroundings others seen := by
  have still {count : Nat}
      (ended : ∀ index < count, ∃ outcome, threads index.toUInt64 = .ended outcome) :
      ∀ index < count, ∃ outcome, others index.toUInt64 = .ended outcome := fun index hindex =>
    (ended index hindex).imp fun outcome => kept _ outcome
  cases follows with
  | starting bound rest started unseen =>
      exact .starting bound rest (fun index => (born index).trans (started index)) unseen
  | refused spawned started unseen =>
      exact .refused spawned (fun index => (born index).trans (started index)) unseen
  | joining manned bound ended done_eq =>
      rw [firstFailure_of_kept kept ended] at done_eq ⊢
      exact .joining (manned.mono born) bound (still ended) done_eq
  | stopped spawned hook once => exact .stopped spawned hook once
  | returned manned ended answer_eq =>
      rw [firstFailure_of_kept kept ended] at answer_eq
      exact .returned (manned.mono born) (still ended) answer_eq

end Follows

namespace PoolCall

/-- What every turn keeps true of a call: each worker's thread stands where its own dealings and
the faults shown on it have brought it, and the calling thread where the workers have let it. -/
structure Sound (config : Config) (surroundings : Surroundings) (stack : Stack)
    (dealings : List Dealing) (call : PoolCall) : Prop where
  history : stack.History dealings call.pool.stack
  dealers : ∀ dealing ∈ dealings, ∃ index, dealing.thread = .worker index
  hearers : ∀ entry ∈ call.pool.shown.toList,
    entry.1 = .main ∨ ∃ index, entry.1 = .worker index
  stands (index : UInt64) : Stands config surroundings.hook index (call.threads index)
    (dealings.filter (·.thread = .worker index))
    (call.pool.shown.toList.filter (·.1 = .worker index))
  follows : call.caller.Follows config surroundings call.threads
    (call.pool.shown.toList.filter (·.1 = .main))

section Turn

variable {config : Config} {surroundings : Surroundings} {stack : Stack}
  {dealings : List Dealing} {call : PoolCall}

theorem sound_opened (config : Config) (surroundings : Surroundings) (stack : Stack) :
    Sound config surroundings stack [] ⟨opened config stack, fun _ => .unborn, .starting 0⟩ where
  history := (Stack.aside_emit ..).history
  dealers := List.forall_mem_nil _
  hearers := List.forall_mem_nil _
  stands _ := .unborn
  follows := .starting (Nat.zero_le _) rfl (fun _ => iff_of_true rfl (Nat.zero_le _)) rfl

theorem Sound.follows_of {caller : Caller} (sound : Sound config surroundings stack dealings call)
    (hcaller : call.caller = caller) : caller.Follows config surroundings call.threads
      (call.pool.shown.toList.filter (·.1 = .main)) :=
  hcaller ▸ sound.follows

/-- The calling thread goes on, and adds no dealings. -/
theorem Sound.goes {after : Pool} {told : List (Thread × Fault)} {caller : Caller}
    (sound : Sound config surroundings stack dealings call)
    (adds : Adds .main call.pool after [] told)
    (follows : caller.Follows config surroundings call.threads
      (after.shown.toList.filter (·.1 = .main))) :
    Sound config surroundings stack dealings ⟨after, call.threads, caller⟩ where
  history := by
    rw [← List.append_nil dealings]
    exact sound.history.append adds.history
  dealers := sound.dealers
  hearers entry mem := by
    rw [adds.shown, List.mem_append] at mem
    exact mem.elim (sound.hearers entry) fun new => .inl (adds.heard entry new)
  stands index := by
    have ne : Thread.worker index ≠ .main := nofun
    rw [adds.filter_shown_of_ne ne]
    exact sound.stands index
  follows := follows

/-- A turn of a worker. -/
theorem Sound.workerTurn (sound : Sound config surroundings stack dealings call)
    (tame : Tame surroundings.hook) (index : UInt64) :
    ∃ more, Sound config surroundings stack (dealings ++ more)
      (call.workerTurn config surroundings.hook index) := by
  obtain ⟨more, told, adds, stands⟩ := (sound.stands index).step tame call.pool
  refine ⟨more, ?_⟩
  rw [workerTurn_eq, put_eq stands.exit?_eq_none]
  refine ⟨sound.history.append adds.history, ?_, ?_, ?_, ?_⟩
  · exact List.forall_mem_append.2
      ⟨sound.dealers, fun dealing mem => ⟨index, adds.dealt dealing mem⟩⟩
  · intro entry mem
    rw [adds.shown, List.mem_append] at mem
    exact mem.elim (sound.hearers entry) fun new => .inr ⟨index, adds.heard entry new⟩
  · intro other
    dsimp only
    by_cases same : other = index
    · subst same
      rw [Function.update_self, adds.filter_dealings_self, adds.filter_shown_self]
      exact stands
    · have ne : Thread.worker other ≠ .worker index := fun h => same (Thread.worker.inj h)
      rw [Function.update_of_ne same, adds.filter_dealings_of_ne ne, adds.filter_shown_of_ne ne]
      exact sound.stands other
  · have ne : Thread.main ≠ .worker index := nofun
    dsimp only
    rw [adds.filter_shown_of_ne ne]
    refine sound.follows.mono (fun other => ?_) fun other outcome ended => ?_
    · by_cases same : other = index
      · subst same
        rw [Function.update_self]
        exact WorkerThread.step_eq_unborn_iff
      · rw [Function.update_of_ne same]
    · by_cases same : other = index
      · subst same
        rw [Function.update_self, ended]
        rfl
      · rwa [Function.update_of_ne same]

/-- The calling thread starts the next worker, or is refused its thread. -/
theorem Sound.start {next : Nat} (sound : Sound config surroundings stack dealings call)
    (caller : call.caller = .starting next) (more : next < config.workers.toNat) :
    Sound config surroundings stack dealings (call.start surroundings.refusal next) := by
  have small : next.toUInt64.toNat = next :=
    UInt64.toNat_ofNat_of_lt' (more.trans config.workers.toNat_lt)
  cases sound.follows_of caller with
  | starting bound rest started unseen =>
      have hleft : config.workers.toNat - next = config.workers.toNat - (next + 1) + 1 := by omega
      rw [hleft, spawned] at rest
      unfold PoolCall.start
      cases hrefusal : surroundings.refusal next with
      | some error =>
          rw [hrefusal] at rest
          refine sound.goes (.aside .main (Stack.aside_emit ..).history rfl) ?_
          exact .refused rest.symm started unseen
      | none =>
          rw [hrefusal] at rest
          dsimp only
          refine ⟨sound.history, sound.dealers, sound.hearers, fun index => ?_, ?_⟩
          · have stands := sound.stands index
            dsimp only
            by_cases same : index = next.toUInt64
            · subst same
              rw [(started _).2 small.ge] at stands
              rw [Function.update_self]
              exact stands.begin
            · rwa [Function.update_of_ne same]
          · refine .starting more rest (fun index => ?_) unseen
            dsimp only
            by_cases same : index = next.toUInt64
            · subst same
              rw [Function.update_self, small]
              exact iff_of_false (fun unborn => by cases unborn) (by omega)
            · have ne : index.toNat ≠ next := fun h => same (by rw [← h]; simp)
              rw [Function.update_of_ne same, started]
              omega

/-- The hook is shown that a thread was refused. -/
theorem Sound.notify {index : Nat} {error : IoError}
    (sound : Sound config surroundings stack dealings call)
    (caller : call.caller = .refused index error) :
    Sound config surroundings stack dealings (call.notify surroundings.hook index error) := by
  cases sound.follows_of caller with
  | refused spawned started unseen =>
      obtain ⟨after, hpresent, history, hshown⟩ :=
        present_eq call.pool surroundings.hook .main (refusalFault index error)
      have adds : Adds .main call.pool after [] [(.main, refusalFault index error)] :=
        ⟨List.forall_mem_nil _, List.forall_mem_singleton.2 rfl, history, hshown⟩
      have hseen : after.shown.toList.filter (·.1 = .main) =
          [(.main, refusalFault index error)] := by
        rw [adds.filter_shown_self, unseen, List.nil_append]
      unfold PoolCall.notify
      rw [refusalFault] at hpresent
      simp only [hpresent]
      cases hhook : (surroundings.hook .main (.threadCreateFailed index.toUInt64 error)
          call.pool.stack.site.journal).1 with
      | none =>
          refine sound.goes adds (.joining ⟨spawned, started, hseen, ?_⟩ (Nat.zero_le _) ?_ ?_)
          · rintro _ ⟨⟩
            exact ⟨_, hhook⟩
          · exact fun _ h => absurd h (Nat.not_lt_zero _)
          · exact fun _ => rfl
      | some stop => exact sound.goes adds (.stopped spawned hhook hseen)

/-- The calling thread waits for a worker, and goes on once that has ended. -/
theorem Sound.join {next count : Nat} {first : Option Fault} {done : List UInt64}
    (sound : Sound config surroundings stack dealings call)
    (caller : call.caller = .joining next count first done) (more : next < count) :
    Sound config surroundings stack dealings (call.join next count first done) := by
  cases sound.follows_of caller with
  | @joining _ _ error? _ manned bound ended done_eq =>
      have hended {outcome : Except Stop UInt64}
          (hthread : call.threads next.toUInt64 = .ended outcome) :
          ∀ index < next + 1, ∃ outcome, call.threads index.toUInt64 = .ended outcome := by
        intro index hindex
        rcases Nat.lt_succ_iff_lt_or_eq.1 hindex with hlt | rfl
        · exact ended index hlt
        · exact ⟨outcome, hthread⟩
      have hfailure {outcome : Except Stop UInt64}
          (hthread : call.threads next.toUInt64 = .ended outcome) :
          firstFailure (failuresOf call.threads) (next + 1) =
            (firstFailure (failuresOf call.threads) next).or (Pool.failure? next outcome) := by
        rw [firstFailure_succ]
        simp only [failuresOf, hthread]
      unfold PoolCall.join
      split
      · rename_i cycles hthread
        have hnone : firstFailure (failuresOf call.threads) (next + 1) =
            firstFailure (failuresOf call.threads) next := by
          rw [hfailure hthread]
          exact Option.or_none
        refine sound.goes (.aside .main (Stack.aside_emit ..).history rfl) ?_
        rw [← hnone]
        refine .joining manned more (hended hthread) fun unfailed => ?_
        have stands := sound.stands next.toUInt64
        rw [hthread] at stands
        rw [hnone] at unfailed
        rw [stands.cycles_eq, done_eq unfailed, List.replicate_succ]
      · rename_i stop hthread
        refine sound.goes (.aside .main (.nil _) rfl) ?_
        rw [Option.or_assoc, ← hfailure hthread]
        refine .joining manned more (hended hthread) fun unfailed => ?_
        rw [hfailure hthread] at unfailed
        cases stop <;> cases (Option.or_eq_none_iff.1 unfailed).2
      · exact sound

/-- The calling thread has waited for all workers, and returns what they have come to. -/
theorem Sound.answer {next count : Nat} {first : Option Fault} {done : List UInt64}
    (sound : Sound config surroundings stack dealings call)
    (few : config.workers.toNat * config.cycles.toNat < UInt64.size)
    (caller : call.caller = .joining next count first done) (all : count ≤ next) :
    Sound config surroundings stack dealings (call.answer first done) := by
  cases sound.follows_of caller with
  | @joining _ _ error? _ manned bound ended done_eq =>
      obtain rfl : next = count := Nat.le_antisymm bound all
      unfold PoolCall.answer
      split
      · rename_i fault hfirst
        refine sound.goes (.aside .main (.nil _) rfl) (.returned manned ended ?_)
        rw [hfirst]
      · rename_i hfirst
        have few' : next * config.cycles.toNat < UInt64.size :=
          (Nat.mul_le_mul_right _ manned.bound).trans_lt few
        obtain ⟨after, hconclude, history, hshown⟩ :=
          conclude_replicate config few' call.pool
        rw [done_eq (Option.or_eq_none_iff.1 hfirst).2, List.reverse_replicate, hconclude]
        refine sound.goes (.aside .main history hshown) ?_
        rw [hshown]
        refine .returned manned ended ?_
        rw [hfirst]

/-- A turn of the calling thread. -/
theorem Sound.callerTurn (sound : Sound config surroundings stack dealings call)
    (few : config.workers.toNat * config.cycles.toNat < UInt64.size) :
    Sound config surroundings stack dealings (call.callerTurn config surroundings) := by
  unfold PoolCall.callerTurn
  split
  · rename_i next hcaller
    split
    · rename_i more
      exact sound.start hcaller more
    · rename_i all
      cases sound.follows_of hcaller with
      | starting bound rest started unseen =>
          rw [Nat.sub_eq_zero_of_le (Nat.le_of_not_lt all)] at rest
          refine sound.goes (.aside .main (.nil _) rfl) (.joining ⟨rest.symm, started, unseen, ?_⟩
            (Nat.zero_le _) ?_ fun _ => rfl)
          · exact nofun
          · exact fun _ h => absurd h (Nat.not_lt_zero _)
  · rename_i index error hcaller
    exact sound.notify hcaller
  · rename_i next count first done hcaller
    split
    · rename_i more
      exact sound.join hcaller more
    · rename_i all
      exact sound.answer few hcaller (Nat.le_of_not_lt all)
  · exact sound

/-- A turn of any thread. -/
theorem Sound.turn (sound : Sound config surroundings stack dealings call)
    (few : config.workers.toNat * config.cycles.toNat < UInt64.size)
    (tame : Tame surroundings.hook) (thread : Thread) :
    ∃ more, Sound config surroundings stack (dealings ++ more)
      (call.turn config surroundings thread) := by
  have unmoved : ∃ more, Sound config surroundings stack (dealings ++ more) call :=
    ⟨[], by rwa [List.append_nil]⟩
  unfold PoolCall.turn
  split
  · exact unmoved
  · exact ⟨[], by rw [List.append_nil]; exact sound.callerTurn few⟩
  · exact sound.workerTurn tame _
  · exact unmoved

/-- All that was done and shown, whatever turns the threads have taken. -/
theorem exists_sound_exec (valid : config.validate = .ok ())
    (few : config.workers.toNat * config.cycles.toNat < UInt64.size)
    (room : hasRoomForHandles config.workers = true)
    (memory : surroundings.lacks (handlesSize config.workers) = false)
    (tame : Tame surroundings.hook) (stack : Stack) (schedule : List Thread) :
    ∃ dealings, Sound config surroundings stack dealings
      ((first config surroundings stack).exec config surroundings schedule) := by
  induction schedule using List.reverseRecOn with
  | nil =>
      rw [first_eq valid room memory]
      exact ⟨[], sound_opened config surroundings stack⟩
  | append_singleton schedule thread ih =>
      obtain ⟨dealings, sound⟩ := ih
      obtain ⟨more, after⟩ := sound.turn few tame thread
      refine ⟨dealings ++ more, ?_⟩
      rwa [exec, List.foldl_concat]

end Turn

end PoolCall

end Workers
end HeapFixtures
