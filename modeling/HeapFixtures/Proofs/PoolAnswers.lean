/-
# What a pool returns

A pool returns the cycles of all its workers if every worker has completed them, and otherwise
the failure of the worker with the lowest number among those that failed, whatever turns the
threads have taken.  A worker that fails keeps no other from its work: when the call returns,
each worker has made all its requests.

If the system refuses a thread, the refusal takes precedence over all failures, and the
workers that were started before it do all their work still.
-/

import HeapFixtures.Proofs.PoolInvariant
import HeapFixtures.Proofs.Fairness
import HeapFixtures.Proofs.PoolSchedule
import Mathlib.Algebra.Order.BigOperators.Group.Finset

namespace HeapFixtures
namespace Workers

/-- A report is all that was done and shown on the thread of a worker that has come to its end. -/
structure Report.Tells (config : Config) (hook : Hook) (dealings : List Dealing)
    (shown : List (Thread × Fault)) (report : Report) : Prop where
  performs : Performs report.thread config.blockSize config.cycles.toNat report.dealings report.met
  becomes : report.met.Becomes hook report.thread report.fate
  dealings : dealings.filter (·.thread = report.thread) = report.dealings
  shown : shown.filter (·.1 = report.thread) = report.shown?.toList

/-- The workers below a number have come to their ends, and the reports tell all that they have
done.  Beside their faults the hook was shown some on the calling thread. -/
structure AllWorked (config : Config) (hook : Hook) (stack : Stack) (count : Nat)
    (notices : List (Thread × Fault)) (reports : List Report) (pool : Pool) : Prop where
  numbers : reports.map Report.index = List.range count
  /-- The dealings of all workers came in some order. -/
  history : ∃ dealings, stack.History dealings pool.stack ∧
    (∀ report ∈ reports, report.Tells config hook dealings pool.shown.toList) ∧
    ∀ dealing ∈ dealings, ∃ report ∈ reports, dealing.thread = report.thread
  notices : pool.shown.toList.filter (·.1 = .main) = notices
  hearers : ∀ entry ∈ pool.shown.toList,
    entry.1 = .main ∨ ∃ report ∈ reports, entry.1 = report.thread

/-- What a pool returns once it has started a number of workers and no thread was refused. -/
structure Joined (config : Config) (count : Nat) (reports : List Report)
    (answer : Except Stop Summary) : Prop where
  ok_iff : answer = .ok ⟨List.replicate count config.cycles⟩ ↔
    ∀ report ∈ reports, report.fate = .completed
  /-- The failure of the lowest number is returned, whoever failed first. -/
  lowest : ∀ report ∈ reports, ∀ fault, report.failure? = some fault →
    (∀ other ∈ reports, other.index < report.index → other.fate = .completed) →
    answer = .error (.fault fault)

/-- The answer of a pool that returns its first failure, if there is one. -/
theorem joined_of_firstFailure {config : Config} {count : Nat} {reports : List Report}
    {failures : Nat → Option Fault} {answer : Except Stop Summary}
    (agree : ∀ report ∈ reports, failures report.index = report.failure?)
    (covers : Covers count reports)
    (answer_eq : answer =
      match firstFailure failures count with
      | some fault => .error (.fault fault)
      | none => .ok ⟨List.replicate count config.cycles⟩) :
    Joined config count reports answer := by
  have hnone := firstFailure_eq_none_iff agree covers
  constructor
  · rw [← hnone, answer_eq]
    cases firstFailure failures count with
    | none => exact iff_of_true rfl rfl
    | some fault => exact iff_of_false nofun nofun
  · intro report mem fault failure lowest
    rw [answer_eq, firstFailure_of_lowest agree covers mem failure lowest]

/-- What a call for a pool has come to when it returns. -/
structure Answers (config : Config) (surroundings : Surroundings) (stack : Stack) (pool : Pool)
    (answer : Except Stop Summary) : Prop where
  /-- All threads were granted. -/
  granted : (∀ index < config.workers.toNat, surroundings.refusal index = none) →
    ∃ reports,
      AllWorked config surroundings.hook stack config.workers.toNat [] reports pool ∧
      Joined config config.workers.toNat reports answer
  /-- The thread of a worker was refused.  A hook that does not come back from the refusal is the
  end of the call; else the call returns the refusal. -/
  refused : ∀ count < config.workers.toNat, ∀ error, surroundings.refusal count = some error →
    (∀ index < count, surroundings.refusal index = none) →
    ∃ journal,
      match (surroundings.hook .main (refusalFault count error) journal).1 with
      | some stop => answer = .error stop ∧
          pool.shown.toList.filter (·.1 = .main) = [(.main, refusalFault count error)]
      | none => answer = .error (.fault (refusalFault count error)) ∧
          ∃ reports, AllWorked config surroundings.hook stack count
            [(.main, refusalFault count error)] reports pool

namespace PoolCall

section Answer

variable {config : Config} {surroundings : Surroundings} {stack : Stack}
  {dealings : List Dealing} {call : PoolCall} {count : Nat} {error? : Option IoError}

/-- A worker that has come to its end has a report. -/
theorem Sound.exists_report (sound : Sound config surroundings stack dealings call) {index : Nat}
    (small : index < UInt64.size)
    (ended : ∃ outcome, call.threads index.toUInt64 = .ended outcome) :
    ∃ report : Report, report.index = index ∧
      report.Tells config surroundings.hook dealings call.pool.shown.toList ∧
      failuresOf call.threads index = report.failure? := by
  obtain ⟨outcome, hended⟩ := ended
  have stands := sound.stands index.toUInt64
  rw [hended] at stands
  generalize hdealings : dealings.filter (·.thread = .worker index.toUInt64) = own at stands
  generalize hshown : call.pool.shown.toList.filter (·.1 = .worker index.toUInt64) = seen at stands
  cases stands with
  | @ended report _ number performs becomes returns =>
      have hindex : report.index = index := by
        rw [number]
        exact UInt64.toNat_ofNat_of_lt' small
      obtain ⟨number', dealings', met, fate⟩ := report
      obtain rfl : number' = index := hindex
      refine ⟨⟨number', dealings', met, fate⟩, rfl, ⟨performs, becomes, hdealings, hshown⟩, ?_⟩
      rw [failuresOf, hended]
      cases returns <;> rfl

/-- Only a worker that was started has dealings. -/
theorem Sound.lt_of_dealing (sound : Sound config surroundings stack dealings call)
    (started : ∀ index, call.threads index = .unborn ↔ count ≤ index.toNat) {dealing : Dealing}
    (mem : dealing ∈ dealings) {index : UInt64} (by_worker : dealing.thread = .worker index) :
    index.toNat < count := by
  refine Nat.lt_of_not_le fun hle => ?_
  have stands := sound.stands index
  have own : dealing ∈ dealings.filter (·.thread = .worker index) :=
    List.mem_filter.2 ⟨mem, decide_eq_true by_worker⟩
  rw [(started index).2 hle] at stands
  rw [stands.of_unborn.1] at own
  cases own

/-- The hook is shown nothing on the thread of a worker that was not started. -/
theorem Sound.lt_of_shown (sound : Sound config surroundings stack dealings call)
    (started : ∀ index, call.threads index = .unborn ↔ count ≤ index.toNat)
    {entry : Thread × Fault} (mem : entry ∈ call.pool.shown.toList) {index : UInt64}
    (by_worker : entry.1 = .worker index) : index.toNat < count := by
  refine Nat.lt_of_not_le fun hle => ?_
  have stands := sound.stands index
  have own : entry ∈ call.pool.shown.toList.filter (·.1 = .worker index) :=
    List.mem_filter.2 ⟨mem, decide_eq_true by_worker⟩
  rw [(started index).2 hle] at stands
  rw [stands.of_unborn.2] at own
  cases own

/-- All workers that were started have reports. -/
theorem Sound.exists_reports (sound : Sound config surroundings stack dealings call)
    (manned : Manned config surroundings call.threads
      (call.pool.shown.toList.filter (·.1 = .main)) count error?)
    (ended : ∀ index < count, ∃ outcome, call.threads index.toUInt64 = .ended outcome) :
    ∃ reports, AllWorked config surroundings.hook stack count
        (error?.map fun error => (Thread.main, refusalFault count error)).toList reports
        call.pool ∧
      ∀ report ∈ reports, failuresOf call.threads report.index = report.failure? := by
  have small : count < UInt64.size := manned.bound.trans_lt config.workers.toNat_lt
  have hreports (index : Nat) : ∃ report : Report, index < count → report.index = index ∧
      report.Tells config surroundings.hook dealings call.pool.shown.toList ∧
      failuresOf call.threads index = report.failure? := by
    by_cases hindex : index < count
    · obtain ⟨report, h⟩ := sound.exists_report (hindex.trans small) (ended index hindex)
      exact ⟨report, fun _ => h⟩
    · exact ⟨⟨index, [], .completed, .completed⟩, fun h => absurd h hindex⟩
  choose report hreport using hreports
  have hmem {entry : Report} (mem : entry ∈ (List.range count).map report) :
      ∃ index < count, report index = entry := by simpa using mem
  have hworker {index : UInt64} (h : index.toNat < count) :
      ∃ entry ∈ (List.range count).map report, Thread.worker index = entry.thread := by
    refine ⟨report index.toNat, List.mem_map_of_mem (List.mem_range.2 h), ?_⟩
    rw [Report.thread, (hreport _ h).1]
    simp
  refine ⟨(List.range count).map report, ⟨?_, ⟨dealings, sound.history, ?_, ?_⟩, manned.seen, ?_⟩,
    ?_⟩
  · have hindex : ∀ index ∈ List.range count, (Report.index ∘ report) index = id index :=
      fun index mem => (hreport index (List.mem_range.1 mem)).1
    rw [List.map_map, List.map_congr_left hindex, List.map_id]
  · intro entry mem
    obtain ⟨index, hindex, rfl⟩ := hmem mem
    exact (hreport index hindex).2.1
  · intro dealing mem
    obtain ⟨index, hindex⟩ := sound.dealers dealing mem
    rw [hindex]
    exact hworker (sound.lt_of_dealing manned.started mem hindex)
  · intro entry mem
    rcases sound.hearers entry mem with hmain | ⟨index, hindex⟩
    · exact .inl hmain
    · rw [hindex]
      exact .inr (hworker (sound.lt_of_shown manned.started mem hindex))
  · intro entry mem
    obtain ⟨index, hindex, rfl⟩ := hmem mem
    rw [(hreport index hindex).1]
    exact (hreport index hindex).2.2

/-- A call that has returned has its answer from its workers. -/
theorem Sound.answers {answer : Except Stop Summary}
    (sound : Sound config surroundings stack dealings call)
    (caller : call.caller = .returned answer) :
    Answers config surroundings stack call.pool answer := by
  cases sound.follows_of caller with
  | @stopped count error journal stop spawned hook once =>
      constructor
      · intro granted
        rw [spawned_all granted] at spawned
        cases spawned
      · intro other hother error' refused granted
        rw [spawned_refused hother refused granted] at spawned
        cases spawned
        refine ⟨journal, ?_⟩
        rw [hook]
        exact ⟨rfl, once⟩
  | @returned count error? manned ended _ answer_eq =>
      obtain ⟨reports, worked, agree⟩ := sound.exists_reports manned ended
      constructor
      · intro granted
        have hspawned := manned.spawned
        rw [spawned_all granted] at hspawned
        cases hspawned
        have covers := covers_of_perm worked.numbers (List.Perm.refl _)
        exact ⟨reports, worked, joined_of_firstFailure agree covers answer_eq⟩
      · intro other hother error refused granted
        have hspawned := manned.spawned
        rw [spawned_refused hother refused granted] at hspawned
        cases hspawned
        obtain ⟨journal, hreturned⟩ := manned.returned error rfl
        refine ⟨journal, ?_⟩
        rw [hreturned]
        exact ⟨answer_eq, reports, worked⟩

end Answer
end PoolCall

/-- The turns that a worker's thread has left at most. -/
def WorkerThread.turnsLeft (config : Config) : WorkerThread → Nat
  | .unborn | .begins => 2 * config.cycles.toNat + 3
  | .asks left => 2 * left + 4
  | .releases left _ => 2 * left + 3
  | .fails _ => 2
  | .shows _ => 1
  | .ended _ => 0

/-- The turns that the calling thread has left at most, but for those in which it waits. -/
def Caller.turnsLeft (workers : Nat) : Caller → Nat
  | .starting next => (workers - next) + workers + 3
  | .refused .. => workers + 2
  | .joining next count .. => (count - next) + 1
  | .returned _ => 0

/-- A worker's thread that has been started and has not ended. -/
structure WorkerThread.Busy (thread : WorkerThread) : Prop where
  born : thread ≠ .unborn
  unended : ∀ outcome, thread ≠ .ended outcome

section TurnsLeft

variable {config : Config} {hook : Hook} {index : UInt64} {pool : Pool} {thread : WorkerThread}

theorem WorkerThread.turnsLeft_next_le (config : Config) (count : UInt64) (left : Nat) :
    (next count left).turnsLeft config ≤ 2 * left + 2 := by
  cases left with
  | zero => exact Nat.zero_le _
  | succ left => exact Nat.le_of_eq (by rw [next, turnsLeft]; omega)

/-- A busy worker has less to do after its turn. -/
theorem WorkerThread.Busy.turnsLeft_step (busy : thread.Busy) :
    (thread.step config hook index pool).1.turnsLeft config < thread.turnsLeft config := by
  cases thread with
  | unborn => exact absurd rfl busy.born
  | ended outcome => exact absurd rfl (busy.unended outcome)
  | begins =>
      exact (turnsLeft_next_le config config.cycles config.cycles.toNat).trans_lt
        (Nat.lt_succ_self _)
  | releases left block =>
      exact (turnsLeft_next_le config config.cycles left).trans_lt (Nat.lt_succ_self _)
  | asks left =>
      rw [step]
      split
      · exact Nat.lt_succ_self _
      · show 2 < 2 * left + 4
        omega
      · exact Nat.succ_pos _
  | fails fault =>
      rw [step]
      split
      · exact Nat.one_lt_two
      · exact Nat.two_pos
  | shows fault =>
      rw [step]
      split
      · exact Nat.one_pos
      · exact Nat.one_pos

end TurnsLeft

namespace PoolCall

/-- What all workers have left to do. -/
def workLeft (config : Config) (call : PoolCall) : Nat :=
  ∑ index ∈ Finset.range config.workers.toNat, (call.threads index.toUInt64).turnsLeft config

/-- What a call has left to do. -/
def turnsLeft (config : Config) (call : PoolCall) : Nat :=
  call.workLeft config + call.caller.turnsLeft config.workers.toNat

section Progress

variable {config : Config} {surroundings : Surroundings} {stack : Stack}
  {dealings : List Dealing} {call next : PoolCall} {index : UInt64} {thread : WorkerThread}

/-- One worker has less to do, and the others as much. -/
theorem workLeft_lt (small : index < config.workers)
    (threads : next.threads = Function.update call.threads index thread)
    (less : thread.turnsLeft config < (call.threads index).turnsLeft config) :
    next.workLeft config < call.workLeft config := by
  refine Finset.sum_lt_sum (fun other _ => ?_) ⟨index.toNat, Finset.mem_range.2 small, ?_⟩
  · rw [threads]
    by_cases same : other.toUInt64 = index
    · rw [same, Function.update_self]
      exact less.le
    · rw [Function.update_of_ne same]
  · rw [threads, show index.toNat.toUInt64 = index by simp, Function.update_self]
    exact less

/-- A worker that is started has as much to do as before. -/
theorem workLeft_eq (threads : next.threads = Function.update call.threads index thread)
    (same : thread.turnsLeft config = (call.threads index).turnsLeft config) :
    next.workLeft config = call.workLeft config := by
  refine Finset.sum_congr rfl fun other _ => ?_
  rw [threads]
  by_cases here : other.toUInt64 = index
  · rw [here, Function.update_self, same]
  · rw [Function.update_of_ne here]

theorem turnsLeft_lt_of_workLeft (work : next.workLeft config < call.workLeft config)
    (caller : next.caller = call.caller) : next.turnsLeft config < call.turnsLeft config := by
  unfold turnsLeft
  rw [caller]
  omega

theorem turnsLeft_lt_of_caller {caller : Caller}
    (work : next.workLeft config = call.workLeft config) (hcaller : call.caller = caller)
    (less : next.caller.turnsLeft config.workers.toNat <
      caller.turnsLeft config.workers.toNat) :
    next.turnsLeft config < call.turnsLeft config := by
  unfold turnsLeft
  rw [hcaller]
  omega

/-- Only workers with numbers below theirs are busy. -/
theorem Sound.lt_of_busy (sound : Sound config surroundings stack dealings call)
    (running : call.Running) (busy : (call.threads index).Busy) : index < config.workers := by
  refine UInt64.lt_iff_toNat_lt.2 (Nat.lt_of_not_le fun hle => busy.born ?_)
  have hfollows := sound.follows
  generalize hcaller : call.caller = caller at hfollows
  cases hfollows with
  | starting bound rest started unseen => exact (started index).2 (bound.trans hle)
  | refused spawned started unseen =>
      exact (started index).2 ((le_of_spawned spawned).trans hle)
  | joining manned bound ended done_eq => exact (manned.started index).2 (manned.bound.trans hle)
  | stopped spawned hook once => exact absurd hcaller (running _)
  | returned manned ended answer_eq => exact absurd hcaller (running _)

/-- A worker's turn leaves less to do if it is busy. -/
theorem Sound.workerTurn_lt (sound : Sound config surroundings stack dealings call)
    (running : call.Running) (tame : Tame surroundings.hook) (busy : (call.threads index).Busy) :
    (call.workerTurn config surroundings.hook index).turnsLeft config < call.turnsLeft config := by
  obtain ⟨more, told, adds, stands⟩ := (sound.stands index).step tame call.pool
  rw [workerTurn_eq, put_eq stands.exit?_eq_none]
  refine turnsLeft_lt_of_workLeft (workLeft_lt (sound.lt_of_busy running busy) rfl ?_) rfl
  exact busy.turnsLeft_step

/-- A worker's turn changes nothing if it is not busy. -/
theorem Sound.workerTurn_idle (sound : Sound config surroundings stack dealings call)
    (tame : Tame surroundings.hook) (idle : ¬ (call.threads index).Busy) :
    call.workerTurn config surroundings.hook index = call := by
  obtain ⟨more, told, adds, stands⟩ := (sound.stands index).step tame call.pool
  rw [workerTurn_eq, put_eq stands.exit?_eq_none]
  have hstep : (call.threads index).step config surroundings.hook index call.pool =
      (call.threads index, call.pool) := by
    generalize call.threads index = thread at idle
    cases thread with
    | unborn => rfl
    | ended outcome => rfl
    | _ => exact absurd ⟨nofun, nofun⟩ idle
  rw [hstep, Function.update_eq_self]

/-- Starting a worker leaves less to do, and so do the refusal of its thread and the end of all
starts. -/
theorem Sound.start_lt {index : Nat} (sound : Sound config surroundings stack dealings call)
    (caller : call.caller = .starting index) :
    (call.callerTurn config surroundings).turnsLeft config < call.turnsLeft config := by
  cases sound.follows_of caller with
  | starting bound rest started unseen =>
      simp only [PoolCall.callerTurn, caller]
      split
      · rename_i more
        unfold PoolCall.start
        split
        · have unborn : call.threads index.toUInt64 = .unborn := by
            rw [started, UInt64.toNat_ofNat_of_lt' (more.trans config.workers.toNat_lt)]
          refine turnsLeft_lt_of_caller (workLeft_eq rfl (by rw [unborn]; rfl)) caller ?_
          simp only [Caller.turnsLeft]
          omega
        · refine turnsLeft_lt_of_caller rfl caller ?_
          simp only [Caller.turnsLeft]
          omega
      · refine turnsLeft_lt_of_caller rfl caller ?_
        simp only [Caller.turnsLeft]
        omega

/-- The hook ends the call over a refused thread, or leaves less to do. -/
theorem Sound.notify_cases {index : Nat} {error : IoError}
    (sound : Sound config surroundings stack dealings call)
    (caller : call.caller = .refused index error) :
    ¬ (call.notify surroundings.hook index error).Running ∨
      (call.notify surroundings.hook index error).turnsLeft config < call.turnsLeft config := by
  cases sound.follows_of caller with
  | refused spawned started unseen =>
      have bound := le_of_spawned spawned
      unfold PoolCall.notify
      dsimp only
      split
      · refine .inr (turnsLeft_lt_of_caller rfl caller ?_)
        simp only [Caller.turnsLeft]
        omega
      · exact .inl fun h => h _ rfl

/-- A worker that is waited for has ended, which leaves less to do, or it is busy. -/
theorem Sound.join_cases {index count : Nat} {first : Option Fault} {done : List UInt64}
    (sound : Sound config surroundings stack dealings call)
    (caller : call.caller = .joining index count first done) (more : index < count) :
    (call.join index count first done).turnsLeft config < call.turnsLeft config ∨
      call.join index count first done = call ∧ (call.threads index.toUInt64).Busy := by
  unfold PoolCall.join
  split
  · refine .inl (turnsLeft_lt_of_caller rfl caller ?_)
    simp only [Caller.turnsLeft]
    omega
  · refine .inl (turnsLeft_lt_of_caller rfl caller ?_)
    simp only [Caller.turnsLeft]
    omega
  · rename_i uncompleted unfailed
    refine .inr ⟨rfl, ?_, ?_⟩
    · cases sound.follows_of caller with
      | joining manned bound ended done_eq =>
          have small := more.trans_le manned.bound |>.trans config.workers.toNat_lt
          rw [Ne, manned.started, UInt64.toNat_ofNat_of_lt' small]
          exact Nat.not_le_of_lt more
    · rintro (stop | cycles) hended
      · exact unfailed stop hended
      · exact uncompleted cycles hended

theorem not_running_answer (first : Option Fault) (done : List UInt64) (call : PoolCall) :
    ¬ (call.answer first done).Running := by
  unfold PoolCall.answer
  split
  · exact fun running => running _ rfl
  · exact fun running => running _ rfl

/-- A turn of the calling thread returns, leaves less to do, or finds a worker at work. -/
theorem Sound.callerTurn_cases (sound : Sound config surroundings stack dealings call)
    (running : call.Running) :
    ¬ (call.callerTurn config surroundings).Running ∨
      (call.callerTurn config surroundings).turnsLeft config < call.turnsLeft config ∨
      call.callerTurn config surroundings = call ∧ ∃ index, (call.threads index).Busy := by
  cases hcaller : call.caller with
  | starting index => exact .inr (.inl (sound.start_lt hcaller))
  | refused index error =>
      simp only [PoolCall.callerTurn, hcaller]
      exact (sound.notify_cases hcaller).imp_right .inl
  | joining index count first done =>
      simp only [PoolCall.callerTurn, hcaller]
      split
      · rename_i more
        exact .inr ((sound.join_cases hcaller more).imp_right (And.imp_right (⟨_, ·⟩)))
      · exact .inl (not_running_answer first done call)
  | returned answer => exact absurd hcaller (running answer)

/-- The turns of a call lead to its return. -/
theorem progresses (config : Config) (surroundings : Surroundings) (stack : Stack)
    (few : config.workers.toNat * config.cycles.toNat < UInt64.size)
    (tame : Tame surroundings.hook) :
    Progresses (turn config surroundings)
      (fun thread => thread = .main ∨ ∃ index < config.workers, thread = .worker index)
      (fun call => (∃ dealings, Sound config surroundings stack dealings call) ∧ call.Running)
      (fun call => ∃ answer, call.caller = .returned answer) (turnsLeft config) where
  step := by
    rintro call ⟨⟨dealings, sound⟩, running⟩ thread
    obtain ⟨more, after⟩ := sound.turn few tame thread
    by_cases returns : (call.turn config surroundings thread).Running
    · refine .inr ⟨⟨⟨dealings ++ more, after⟩, returns⟩, ?_⟩
      cases thread with
      | main =>
          rw [turn_main running] at returns ⊢
          rcases sound.callerTurn_cases running with ended | hless | ⟨hsame, -⟩
          · exact absurd returns ended
          · exact .inl hless
          · exact .inr hsame
      | worker index =>
          rw [turn_worker running]
          by_cases busy : (call.threads index).Busy
          · exact .inl (sound.workerTurn_lt running tame busy)
          · exact .inr (sound.workerTurn_idle tame busy)
      | signals => exact .inr (turn_other nofun nofun)
      | named name => exact .inr (turn_other nofun nofun)
    · exact .inl (not_running_iff.1 returns)
  someone := by
    rintro call ⟨⟨dealings, sound⟩, running⟩
    rcases sound.callerTurn_cases running with ended | hless | ⟨-, index, busy⟩
    · refine ⟨.main, .inl rfl, .inl ?_⟩
      rw [turn_main running]
      exact not_running_iff.1 ended
    · refine ⟨.main, .inl rfl, .inr ?_⟩
      rwa [turn_main running]
    · refine ⟨.worker index, .inr ⟨index, sound.lt_of_busy running busy, rfl⟩, .inr ?_⟩
      rw [turn_worker running]
      exact sound.workerTurn_lt running tame busy
  stays := by
    rintro call ⟨answer, ended⟩ thread
    exact ⟨answer, by rwa [turn_returned ended]⟩

/-- A pool answers for all its workers.  Its settings can be run with, the product of workers
and cycles is a word, the handles have room, the hook does not end the process, and the threads
take their turns in any order.

The calling thread waits for the workers: when the call has returned, each worker that was
started has made all its requests, and the answer is the cycles of all workers exactly if all
have completed, and the failure of the lowest worker that failed else.  If a thread is refused,
the workers before it do all their work, and the refusal is the answer; a hook that does not come
back from the refusal is the end of the call.

The call returns once the threads have had turns enough, and the run of the program's pool is the
call in one of its schedules. -/
theorem pool_answers_for_its_workers (config : Config) (surroundings : Surroundings)
    (stack : Stack) (valid : config.validate = .ok ())
    (few : config.workers.toNat * config.cycles.toNat < UInt64.size)
    (room : hasRoomForHandles config.workers = true)
    (memory : surroundings.lacks (handlesSize config.workers) = false)
    (tame : Tame surroundings.hook) :
    (∀ schedule answer,
      ((first config surroundings stack).exec config surroundings schedule).caller =
          .returned answer →
        Answers config surroundings stack
          ((first config surroundings stack).exec config surroundings schedule).pool answer) ∧
      (∀ rounds : List (List Thread),
        (∀ round ∈ rounds, .main ∈ round ∧ ∀ index < config.workers, .worker index ∈ round) →
        (first config surroundings stack).turnsLeft config < rounds.length →
        ∃ answer,
          ((first config surroundings stack).exec config surroundings rounds.flatten).caller =
            .returned answer) ∧
      ((∀ count ≤ config.workers.toNat, (surroundings.order count).Perm (List.range count)) →
        ∃ schedule,
          ((first config surroundings stack).exec config surroundings schedule).pool =
              (run config surroundings stack).2 ∧
            ((first config surroundings stack).exec config surroundings schedule).caller =
              .returned (run config surroundings stack).1) := by
  refine ⟨?_, ?_, exists_schedule_run config surroundings stack⟩
  · intro schedule answer returned
    obtain ⟨dealings, sound⟩ :=
      exists_sound_exec valid few room memory tame stack schedule
    exact sound.answers returned
  · intro rounds everyone enough
    have hfirst := @first_eq config surroundings stack valid room memory
    refine (progresses config surroundings stack few tame).rounds ⟨⟨[], ?_⟩, ?_⟩ ?_ enough
    · rw [hfirst]
      exact sound_opened config surroundings stack
    · rw [hfirst]
      exact nofun
    · rintro round mem thread (rfl | ⟨index, small, rfl⟩)
      · exact (everyone round mem).1
      · exact (everyone round mem).2 index small

/-- Turns in which the last of three workers comes first. -/
def lastFirst : List Thread := [.main, .worker 2, .worker 1, .worker 0]

theorem mem_lastFirst {index : UInt64} (h : index < Config.three.workers) :
    .worker index ∈ lastFirst := by
  have hlt : index.toNat < 3 := h
  obtain hnat | hnat | hnat : index.toNat = 0 ∨ index.toNat = 1 ∨ index.toNat = 2 := by omega
  · obtain rfl : index = 0 := UInt64.toNat_inj.1 hnat
    decide
  · obtain rfl : index = 1 := UInt64.toNat_inj.1 hnat
    decide
  · obtain rfl : index = 2 := UInt64.toNat_inj.1 hnat
    decide

set_option maxRecDepth 4000 in
/-- The last worker is the first to fail, but the fault of the one before it is returned, when
the first one has completed its cycles. -/
theorem lowest_failure_is_returned :
    Config.three.validate = .ok () ∧
      Config.three.workers.toNat * Config.three.cycles.toNat < UInt64.size ∧
      hasRoomForHandles Config.three.workers = true ∧
      Surroundings.reversed.lacks (handlesSize Config.three.workers) = false ∧
      Tame Surroundings.reversed.hook ∧
      (∀ round ∈ List.replicate 31 lastFirst,
        .main ∈ round ∧ ∀ index < Config.three.workers, .worker index ∈ round) ∧
      (first .three .reversed troubled).turnsLeft .three < (List.replicate 31 lastFirst).length ∧
      (∀ count ≤ Config.three.workers.toNat,
        (Surroundings.reversed.order count).Perm (List.range count)) ∧
      ((first .three .reversed troubled).exec .three .reversed
          (List.replicate 31 lastFirst).flatten).caller =
        .returned (.error (.fault (.allocationFailed 16))) ∧
      Answers .three .reversed troubled ((first .three .reversed troubled).exec .three .reversed
          (List.replicate 31 lastFirst).flatten).pool (.error (.fault (.allocationFailed 16))) ∧
      ∃ schedule, ((first .three .reversed troubled).exec .three .reversed schedule).caller =
        .returned (run .three .reversed troubled).1 := by
  have tame : Tame Surroundings.reversed.hook := fun _ _ _ _ h => nomatch h
  have order (count : Nat) (_ : count ≤ Config.three.workers.toNat) :
      (Surroundings.reversed.order count).Perm (List.range count) := List.reverse_perm _
  have everyone : ∀ round ∈ List.replicate 31 lastFirst,
      .main ∈ round ∧ ∀ index < Config.three.workers, .worker index ∈ round := by
    intro round mem
    rw [List.eq_of_mem_replicate mem]
    exact ⟨by decide, fun index => mem_lastFirst⟩
  have enough : (first .three .reversed troubled).turnsLeft .three <
      (List.replicate 31 lastFirst).length := by decide
  obtain ⟨answers, returns, runs⟩ := pool_answers_for_its_workers .three .reversed troubled rfl
    (by decide) (by decide) rfl tame
  have returned : ((first .three .reversed troubled).exec .three .reversed
      (List.replicate 31 lastFirst).flatten).caller =
        .returned (.error (.fault (.allocationFailed 16))) := rfl
  obtain ⟨answer, hanswer⟩ := returns _ everyone enough
  obtain rfl : answer = .error (.fault (.allocationFailed 16)) :=
    Caller.returned.inj (hanswer.symm.trans returned)
  exact ⟨rfl, by decide, by decide, rfl, tame, everyone, enough, order, returned,
    answers _ _ hanswer, (runs order).imp fun _ => And.right⟩

end Progress

end PoolCall

end Workers
end HeapFixtures
