/-
# How a pool takes its process with it

However the threads of a process take their turns, one of them ends the process, and the
others print nothing.  If a worker meets a resource fault or a thread is refused, the end is
over one such fault; else it is over the first failure of a worker, or a success.  Counters are
printed in the second case only, when all workers have come to their ends and all their blocks
are back.

What every turn keeps is said of each thread in terms of where it stands, one lemma for each of
the turns that change something.  There is always a thread that has such a turn, until the end.
-/

import HeapFixtures.Proofs.Balance
import HeapFixtures.Proofs.ProcessTurns
import HeapFixtures.Proofs.Joining

namespace HeapFixtures
namespace Workers

variable {workers : Nat}

/-- An outcome of a worker that is no resource fault. -/
def Mild (outcome : Except Stop UInt64) : Prop :=
  ∀ fault, outcome = .error (.fault fault) → fault.isResource = false

/-- The pool makes no resource fault of such an outcome. -/
theorem Mild.failure? {outcome : Except Stop UInt64} (mild : Mild outcome) {index : Nat}
    {fault : Fault} (h : Pool.failure? index outcome = some fault) :
    fault.isResource = false := by
  rcases outcome with (other | panic | exit) | count
  · obtain rfl := Option.some.inj h
    exact mild other rfl
  · obtain rfl := Option.some.inj h
    rfl
  · obtain rfl := Option.some.inj h
    rfl
  · cases h

/-- A worker's thread stands where its work has brought it. -/
def WorkerStatus.Fits (phase : Phase) : WorkerStatus → Prop
  | .unborn | .working => True
  | .exiting fault => phase = .ended (.error (.fault fault)) ∧ fault.isResource = true
  | .finished => ∃ outcome, phase = .ended outcome ∧ Mild outcome

theorem WorkerStatus.fits_after (outcome : Except Stop UInt64) :
    (WorkerStatus.after outcome).Fits (.ended outcome) := by
  unfold WorkerStatus.after
  split
  · rename_i fault
    split
    · rename_i isResource
      exact ⟨rfl, isResource⟩
    · rename_i ordinary
      refine ⟨_, rfl, fun other hother => ?_⟩
      cases hother
      exact Bool.eq_false_iff.2 ordinary
  · rename_i hfault
    exact ⟨_, rfl, fun other hother => absurd hother (hfault other)⟩

theorem WorkerStatus.after_ne_unborn (outcome : Except Stop UInt64) :
    WorkerStatus.after outcome ≠ .unborn := by
  unfold WorkerStatus.after
  split
  · split <;> simp
  · simp

/-- The main thread stands where the workers have let it come. -/
def MainStatus.Follows (orders : Orders) (statuses : Fin workers → WorkerStatus)
    (failures : Nat → Option Fault) : MainStatus → Prop
  | .starting next => next ≤ workers ∧ (∀ index < next, orders.refusal index = none) ∧
      ∀ i, statuses i = .unborn ↔ next ≤ i.val
  | .refused fault => ∃ index < workers, ∃ error, orders.refusal index = some error ∧
      fault = .threadCreateFailed index.toUInt64 error
  | .joining next failure done => next ≤ workers ∧
      (∀ index < workers, orders.refusal index = none) ∧ (∀ i, statuses i ≠ .unborn) ∧
      (∀ i, i.val < next → statuses i = .finished) ∧ failure = firstFailure failures next ∧
      (failure = none → done = List.replicate next orders.config.cycles)
  | .reporting failure | .ending failure =>
      (∀ index < workers, orders.refusal index = none) ∧ (∀ i, statuses i = .finished) ∧
      failure = firstFailure failures workers

/-- The main thread does not mind what happens to workers that have not finished. -/
theorem MainStatus.Follows.mono {orders : Orders} {statuses others : Fin workers → WorkerStatus}
    {failures those : Nat → Option Fault} {mainStatus : MainStatus}
    (follows : mainStatus.Follows orders statuses failures)
    (born : ∀ i, others i = .unborn ↔ statuses i = .unborn)
    (kept : ∀ i, statuses i = .finished → others i = .finished ∧ those i.val = failures i.val) :
    mainStatus.Follows orders others those := by
  cases mainStatus with
  | starting next =>
      obtain ⟨hnext, granted, hborn⟩ := follows
      exact ⟨hnext, granted, fun i => (born i).trans (hborn i)⟩
  | refused fault => exact follows
  | joining next failure done =>
      obtain ⟨hnext, granted, hborn, finished, rfl, hdone⟩ := follows
      refine ⟨hnext, granted, fun i => mt (born i).1 (hborn i),
        fun i hi => (kept i (finished i hi)).1, ?_, hdone⟩
      refine firstFailure_congr fun index hindex => ?_
      have hfinished := finished ⟨index, hindex.trans_le hnext⟩ hindex
      exact ((kept _ hfinished).2).symm
  | reporting failure =>
      obtain ⟨granted, finished, rfl⟩ := follows
      refine ⟨granted, fun i => (kept i (finished i)).1, ?_⟩
      exact firstFailure_congr fun index hindex => ((kept ⟨index, hindex⟩ (finished _)).2).symm
  | ending failure =>
      obtain ⟨granted, finished, rfl⟩ := follows
      refine ⟨granted, fun i => (kept i (finished i)).1, ?_⟩
      exact firstFailure_congr fun index hindex => ((kept ⟨index, hindex⟩ (finished _)).2).symm

/-- The counters that the main thread has printed. -/
def MainStatus.tallied (asked : Bool) (counters : Counters) : MainStatus → List String
  | .ending _ => counters.tally asked
  | _ => []

/-- The last words that have been printed. -/
def ExitRight.said (policy : Policy) (exitRight : ExitRight workers) : List String :=
  match exitRight.exitStep with
  | .leaves => policy.lastWords exitRight.fault
  | _ => []

namespace Process

/-- The failure of the worker with a number, once it has ended. -/
def failureAt (process : Process workers) (index : Nat) : Option Fault :=
  if h : index < workers then
    match process.phase ⟨index, h⟩ with
    | .ended outcome => Pool.failure? index outcome
    | _ => none
  else none

/-- What the threads of a process have come to. -/
inductive CameTo (orders : Orders) (process : Process workers) : Option Fault → Prop
  /-- A worker has met a resource fault. -/
  | met (i : Fin workers) {fault : Fault}
      (ended : process.phase i = .ended (.error (.fault fault)))
      (isResource : fault.isResource = true) : CameTo orders process (some fault)
  /-- A thread was refused. -/
  | refused {index : Nat} {error : IoError} (small : index < workers)
      (refused : orders.refusal index = some error) :
      CameTo orders process (some (.threadCreateFailed index.toUInt64 error))
  /-- All threads were granted, and all workers have ended without a resource fault. -/
  | returned (granted : ∀ index < workers, orders.refusal index = none)
      (ended : ∀ i, ∃ outcome, process.phase i = .ended outcome ∧ Mild outcome) :
      CameTo orders process (firstFailure process.failureAt workers)

/-- The process has left over what its threads have come to, with its counters and its last
words as its only texts. -/
structure Left (orders : Orders) (inner : Stack) (process : Process workers)
    (fault? : Option Fault) (exit : Exit) : Prop where
  came : process.CameTo orders fault?
  exit : exit = orders.policy.exitAfter fault?
  texts : ∃ counters : Counters, counters.isBalanced = true ∧
    process.texts = inner.texts ++
      counters.tally (orders.report && !fault?.any Fault.isResource) ++
        orders.policy.wordsAfter fault?


/-- What every turn keeps true of a process that has not ended. -/
structure Orderly (orders : Orders) (inner : Stack) (process : Process workers) : Prop where
  running : process.exit = none
  level : process.shared.Level orders.config
  texts : process.texts =
    inner.texts ++ process.mainStatus.tallied orders.report process.shared.counters ++
      process.exitRight.elim [] (ExitRight.said orders.policy)
  exits : ∀ exitRight ∈ process.exitRight, process.exiting exitRight.who = some exitRight.fault
  stands (i : Fin workers) : (process.statuses i).Fits (process.phase i)
  leads : process.mainStatus.Follows orders process.statuses process.failureAt

section Failure

variable {process next : Process workers}

theorem failureAt_of_ended {i : Fin workers} {outcome : Except Stop UInt64}
    (ended : process.phase i = .ended outcome) :
    process.failureAt i.val = Pool.failure? i.val outcome := by
  unfold failureAt
  rw [dif_pos i.isLt]
  simp only [Fin.eta, ended]

theorem failureAt_congr {i : Fin workers} (h : process.phase i = next.phase i) :
    process.failureAt i.val = next.failureAt i.val := by
  unfold failureAt
  rw [dif_pos i.isLt, dif_pos i.isLt]
  simp only [Fin.eta, h]

/-- What the threads have come to is not changed by the end of the process. -/
theorem CameTo.leave {orders : Orders} {fault? : Option Fault} (came : process.CameTo orders fault?)
    (exit : Exit) : (process.leave exit).CameTo orders fault? := by
  cases came with
  | met i ended isResource => exact .met i ended isResource
  | refused small refused => exact .refused small refused
  | returned granted ended => exact .returned granted ended

/-- Workers without a resource fault have none as their first failure. -/
theorem firstFailure_mild
    (ended : ∀ i, ∃ outcome, process.phase i = .ended outcome ∧ Mild outcome) :
    (firstFailure process.failureAt workers).any Fault.isResource = false := by
  cases hfirst : firstFailure process.failureAt workers with
  | none => rfl
  | some fault =>
      obtain ⟨index, hindex, hfailure⟩ := List.exists_of_findSome?_eq_some hfirst
      obtain ⟨outcome, hended, mild⟩ := ended ⟨index, List.mem_range.1 hindex⟩
      have hat : process.failureAt index = Pool.failure? index outcome :=
        failureAt_of_ended hended
      exact mild.failure? (hat.symm.trans hfailure)

end Failure

section Moves

variable {orders : Orders} {inner : Stack} {process next : Process workers}

theorem orderly_first (orders : Orders) (inner : Stack) :
    Orderly orders inner (first inner : Process workers) := by
  refine ⟨rfl, .first orders.config inner, ?_, ?_, fun _ => trivial, Nat.zero_le _, ?_, ?_⟩
  · show inner.texts = inner.texts ++ [] ++ []
    simp
  · intro exitRight hexitRight
    cases hexitRight
  · intro index hindex
    cases hindex
  · exact fun i => iff_of_true rfl (Nat.zero_le _)

namespace Orderly

/-- Workers whose threads have finished have ended without a resource fault. -/
theorem ended_of_finished (orderly : Orderly orders inner process) {i : Fin workers}
    (finished : process.statuses i = .finished) :
    ∃ outcome, process.phase i = .ended outcome ∧ Mild outcome := by
  have hstands := orderly.stands i
  rw [finished] at hstands
  exact hstands

/-- All workers have finished once the answer of the pool is there. -/
theorem finished_of_answer (orderly : Orderly orders inner process) {failure : Option Fault}
    (mainStatus : process.mainStatus = .reporting failure ∨ process.mainStatus = .ending failure) :
    (∀ index < workers, orders.refusal index = none) ∧
      (∀ i, process.statuses i = .finished) ∧
      failure = firstFailure process.failureAt workers := by
  have hleads := orderly.leads
  rcases mainStatus with hmainStatus | hmainStatus
  · rw [hmainStatus] at hleads
    exact hleads
  · rw [hmainStatus] at hleads
    exact hleads

/-- The answer of the pool is what the process has come to, and all blocks are back. -/
theorem came_of_answer (orderly : Orderly orders inner process) {failure : Option Fault}
    (mainStatus : process.mainStatus = .reporting failure ∨ process.mainStatus = .ending failure) :
    process.CameTo orders failure ∧ failure.any Fault.isResource = false ∧
      process.shared.counters.isBalanced = true := by
  obtain ⟨granted, finished, rfl⟩ := orderly.finished_of_answer mainStatus
  have hended := fun i => orderly.ended_of_finished (finished i)
  refine ⟨.returned granted hended, firstFailure_mild hended, orderly.level.isBalanced fun i => ?_⟩
  obtain ⟨outcome, houtcome, -⟩ := hended i
  exact ⟨outcome, houtcome⟩

/-- While a worker has not finished, the main thread has not printed the counters. -/
theorem tallied_of_unfinished (orderly : Orderly orders inner process) (i : Fin workers)
    (unfinished : process.statuses i ≠ .finished) (asked : Bool) (counters : Counters) :
    process.mainStatus.tallied asked counters = [] := by
  cases hmainStatus : process.mainStatus with
  | ending failure =>
      exact absurd ((orderly.finished_of_answer (.inr hmainStatus)).2.1 i) unfinished
  | _ => rfl

/-- A thread that would take the process down does so over what the process has come to. -/
theorem came_of_exiting (orderly : Orderly orders inner process) {who : PoolThread workers}
    {fault : Fault} (exiting : process.exiting who = some fault) :
    process.CameTo orders (some fault) ∧
      ∃ counters : Counters, counters.isBalanced = true ∧
        process.mainStatus.tallied orders.report process.shared.counters =
          counters.tally (orders.report && !fault.isResource) := by
  have hnone (fault : Fault) (h : fault.isResource = true) :
      Counters.zero.tally (orders.report && !fault.isResource) = [] := by
    rw [h, Bool.not_true, Bool.and_false]
    rfl
  unfold Process.exiting at exiting
  split at exiting
  · split at exiting
    · rename_i other hmainStatus
      obtain rfl := Option.some.inj exiting
      have hleads := orderly.leads
      rw [hmainStatus] at hleads
      obtain ⟨index, small, error, refused, rfl⟩ := hleads
      refine ⟨.refused small refused, .zero, rfl, ?_⟩
      rw [hnone (.threadCreateFailed index.toUInt64 error) rfl, hmainStatus]
      rfl
    · rename_i other hmainStatus
      obtain rfl := Option.some.inj exiting
      obtain ⟨came, hordinary, balanced⟩ := orderly.came_of_answer (.inr hmainStatus)
      rw [Option.any_some] at hordinary
      refine ⟨came, process.shared.counters, balanced, ?_⟩
      rw [hordinary, Bool.not_false, Bool.and_true, hmainStatus]
      rfl
    · cases exiting
  · rename_i i
    split at exiting
    · rename_i other hstatus
      obtain rfl := Option.some.inj exiting
      have hstands := orderly.stands i
      rw [hstatus] at hstands
      obtain ⟨ended, isResource⟩ := hstands
      refine ⟨.met i ended isResource, .zero, rfl, ?_⟩
      rw [hnone _ isResource]
      exact orderly.tallied_of_unfinished i (by simp [hstatus]) ..
    · cases exiting

/-- A thread takes the right to take the process down. -/
theorem takes (orderly : Orderly orders inner process) {who : PoolThread workers} {fault : Fault}
    (exiting : process.exiting who = some fault) (free : process.exitRight = none) :
    Orderly orders inner { process with exitRight := some ⟨who, fault, .tells⟩ } := by
  refine ⟨orderly.running, orderly.level, ?_, ?_, orderly.stands, orderly.leads⟩
  · have htexts := orderly.texts
    rw [free] at htexts
    exact htexts
  · intro exitRight hexitRight
    obtain rfl := Option.some.inj hexitRight
    exact exiting

/-- The thread that has the right to take the process down comes closer to it, and in the end
the process leaves over what it has come to. -/
theorem exitTurns (orderly : Orderly orders inner process) {exitRight : ExitRight workers}
    (taken : process.exitRight = some exitRight) :
    Orderly orders inner (process.exitTurn orders.policy exitRight) ∨
      ∃ fault? exit, (process.exitTurn orders.policy exitRight).exit = some exit ∧
        (process.exitTurn orders.policy exitRight).Left orders inner fault? exit := by
  have htexts := orderly.texts
  have hexiting := orderly.exits exitRight taken
  obtain ⟨who, fault, exitStep⟩ := exitRight
  rw [taken] at htexts
  cases exitStep with
  | tells =>
      refine .inl ⟨orderly.running, orderly.level.of_inner _, ?_, ?_, orderly.stands, orderly.leads⟩
      · exact (orders.policy.texts_tell ..).trans htexts
      · intro exitRight hexitRight
        obtain rfl := Option.some.inj hexitRight
        exact hexiting
  | prints =>
      refine .inl ⟨orderly.running, orderly.level.of_inner _, ?_, ?_, orderly.stands, orderly.leads⟩
      · refine (orders.policy.texts_say ..).trans ?_
        rw [show process.shared.inner.site.journal.texts = _ from htexts]
        exact congrArg (· ++ _) (List.append_nil _)
      · intro exitRight hexitRight
        obtain rfl := Option.some.inj hexitRight
        exact hexiting
  | leaves =>
      obtain ⟨came, counters, balanced, htallied⟩ := orderly.came_of_exiting hexiting
      refine .inr ⟨some fault, orders.policy.exit fault, rfl, came.leave _, rfl, counters,
        balanced, ?_⟩
      rw [htallied] at htexts
      exact htexts

/-- A thread that has the right to take the process down still would do so. -/
theorem exits_of_agree (orderly : Orderly orders inner process)
    (same : next.exitRight = process.exitRight)
    (agree : ∀ who fault, process.exiting who = some fault →
      next.exiting who = some fault) :
    ∀ exitRight ∈ next.exitRight, next.exiting exitRight.who = some exitRight.fault := by
  intro exitRight hexitRight
  rw [same] at hexitRight
  exact agree _ _ (orderly.exits exitRight hexitRight)

/-- While the main thread would not take the process down, only workers need to be looked at. -/
theorem exits_of_workers (orderly : Orderly orders inner process)
    (same : next.exitRight = process.exitRight) (silent : process.exiting .main = none)
    (agree : ∀ i fault, process.exiting (.worker i) = some fault →
      next.exiting (.worker i) = some fault) :
    ∀ exitRight ∈ next.exitRight, next.exiting exitRight.who = some exitRight.fault := by
  refine orderly.exits_of_agree same fun who fault h => ?_
  cases who with
  | main =>
      rw [silent] at h
      cases h
  | worker i => exact agree i fault h

/-- A worker that works is not one that has finished. -/
theorem ne_of_working {i j : Fin workers} (working : process.statuses i = .working)
    (finished : process.statuses j = .finished) : j ≠ i := by
  rintro rfl
  rw [working] at finished
  cases finished

/-- A worker takes a step of its work. -/
theorem works (orderly : Orderly orders inner process) (small : workers < UInt64.size)
    {i : Fin workers} (working : process.statuses i = .working) :
    Orderly orders inner (process.work orders.config i) := by
  have hphase (j : Fin workers) (hj : j ≠ i) :
      (process.work orders.config i).phase j = process.phase j :=
    congrArg WorkerState.phase (SharedPool.states_step_of_ne hj)
  have hnone := orderly.tallied_of_unfinished i (by simp [working])
    orders.report
  refine ⟨orderly.running, orderly.level.step small i, ?_, orderly.exits, ?_, ?_⟩
  · have htexts := (SharedPool.texts_step orders.config process.shared i).trans orderly.texts
    rw [hnone] at htexts
    rw [work, hnone]
    exact htexts
  · intro j
    by_cases hj : j = i
    · subst hj
      show (process.statuses j).Fits _
      rw [working]
      trivial
    · rw [hphase j hj]
      exact orderly.stands j
  · refine orderly.leads.mono (fun _ => Iff.rfl) fun j finished => ⟨finished, ?_⟩
    exact failureAt_congr (hphase j (ne_of_working working finished))

/-- Only the thread of a worker that would not take the process down is sent on. -/
theorem exiting_send {i : Fin workers} (free : process.exiting (.worker i) = none)
    (status : WorkerStatus) {who : PoolThread workers} {fault : Fault}
    (exiting : process.exiting who = some fault) :
    (process.send i status).exiting who = some fault := by
  cases who with
  | main => exact exiting
  | worker j =>
      have hj : j ≠ i := by
        rintro rfl
        rw [free] at exiting
        cases exiting
      unfold Process.exiting send
      simp only [Function.update_of_ne hj]
      exact exiting

/-- A worker comes to the end of its work. -/
theorem finishes (orderly : Orderly orders inner process) {i : Fin workers}
    {outcome : Except Stop UInt64} (working : process.statuses i = .working)
    (ended : process.phase i = .ended outcome) :
    Orderly orders inner (process.finish i outcome) := by
  have hfree : process.exiting (.worker i) = none := by rw [exiting, working]
  have hself : (process.finish i outcome).statuses i = .after outcome := Function.update_self ..
  have hother (j : Fin workers) (hj : j ≠ i) :
      (process.finish i outcome).statuses j = process.statuses j := Function.update_of_ne hj ..
  refine ⟨orderly.running, orderly.level.of_inner _,
    (texts_noteFailed ..).trans orderly.texts,
    orderly.exits_of_agree rfl fun who fault h => exiting_send hfree _ h, ?_, ?_⟩
  · intro j
    by_cases hj : j = i
    · subst hj
      rw [hself, show (process.finish j outcome).phase j = _ from ended]
      exact WorkerStatus.fits_after outcome
    · rw [hother j hj]
      exact orderly.stands j
  · refine orderly.leads.mono (fun j => ?_) fun j finished => ⟨?_, rfl⟩
    · by_cases hj : j = i
      · subst hj
        rw [hself, working]
        exact iff_of_false (WorkerStatus.after_ne_unborn outcome) (by simp)
      · rw [hother j hj]
    · rw [hother j (ne_of_working working finished)]
      exact finished

/-- The main thread starts a worker. -/
theorem startsWorker (orderly : Orderly orders inner process) {i : Fin workers}
    (mainStatus : process.mainStatus = .starting i.val) (granted : orders.refusal i.val = none) :
    Orderly orders inner (process.startWorker i) := by
  have htexts := orderly.texts
  rw [mainStatus] at htexts
  obtain ⟨-, before, born⟩ : MainStatus.Follows orders process.statuses process.failureAt
      (.starting i.val) := mainStatus ▸ orderly.leads
  have hunborn : process.statuses i = .unborn := (born i).2 le_rfl
  have hself : (process.startWorker i).statuses i = .working := Function.update_self ..
  have hother (j : Fin workers) (hj : j ≠ i) :
      (process.startWorker i).statuses j = process.statuses j := Function.update_of_ne hj ..
  refine ⟨orderly.running, orderly.level, htexts, ?_, ?_, i.isLt, ?_, ?_⟩
  · exact orderly.exits_of_workers rfl (by rw [exiting, mainStatus])
      fun _ _ h => exiting_send (by rw [exiting, hunborn]) .working h
  · intro j
    by_cases hj : j = i
    · subst hj
      rw [hself]
      trivial
    · rw [hother j hj]
      exact orderly.stands j
  · intro index hindex
    rcases Nat.lt_succ_iff_lt_or_eq.1 hindex with hlt | rfl
    · exact before index hlt
    · exact granted
  · intro j
    by_cases hj : j = i
    · subst hj
      rw [hself]
      exact iff_of_false (by simp) (by omega)
    · rw [hother j hj, born j]
      have hne : j.val ≠ i.val := fun h => hj (Fin.ext h)
      omega

/-- The main thread is refused a thread. -/
theorem rejects (orderly : Orderly orders inner process) {i : Fin workers} {error : IoError}
    (mainStatus : process.mainStatus = .starting i.val)
    (refused : orders.refusal i.val = some error) :
    Orderly orders inner (process.reject i error) := by
  have htexts := orderly.texts
  rw [mainStatus] at htexts
  refine ⟨orderly.running, orderly.level.of_inner _,
    (Log.Journal.texts_emit ..).trans htexts, ?_, orderly.stands, i.val, i.isLt, error, refused,
    rfl⟩
  exact orderly.exits_of_workers rfl (by rw [exiting, mainStatus]) fun _ _ h => h

/-- All threads have been started. -/
theorem started (orderly : Orderly orders inner process) {next : Nat}
    (mainStatus : process.mainStatus = .starting next) (all : workers ≤ next) :
    Orderly orders inner { process with mainStatus := .joining 0 none [] } := by
  obtain ⟨hnext, granted, born⟩ : MainStatus.Follows orders process.statuses process.failureAt
      (.starting next) := mainStatus ▸ orderly.leads
  have htexts := orderly.texts
  rw [mainStatus] at htexts
  refine ⟨orderly.running, orderly.level, htexts, ?_, orderly.stands, Nat.zero_le _, ?_, ?_, ?_,
    rfl, fun _ => rfl⟩
  · exact orderly.exits_of_workers rfl (by rw [exiting, mainStatus]) fun _ _ h => h
  · exact fun index hindex => granted index (hindex.trans_le all)
  · exact fun i hi => absurd ((born i).1 hi) (by omega)
  · exact fun i hi => absurd hi (Nat.not_lt_zero _)

/-- A worker that the main thread has waited for comes back. -/
theorem takesUp (orderly : Orderly orders inner process) {i : Fin workers}
    {failure : Option Fault} {done : List UInt64} {outcome : Except Stop UInt64}
    (mainStatus : process.mainStatus = .joining i.val failure done)
    (finished : process.statuses i = .finished) (ended : process.phase i = .ended outcome) :
    Orderly orders inner (process.takeUp i outcome failure done) := by
  have htexts := orderly.texts
  rw [mainStatus] at htexts
  obtain ⟨-, granted, born, before, hfailure, hdone⟩ : MainStatus.Follows orders process.statuses
      process.failureAt (.joining i.val failure done) := mainStatus ▸ orderly.leads
  refine ⟨orderly.running, orderly.level.of_inner _,
    (texts_noteJoined ..).trans htexts, ?_, orderly.stands, i.isLt, granted, born, ?_, ?_, ?_⟩
  · exact orderly.exits_of_workers rfl (by rw [exiting, mainStatus]) fun _ _ h => h
  · intro j hj
    rcases Nat.lt_succ_iff_lt_or_eq.1 hj with hlt | heq
    · exact before j hlt
    · rw [Fin.ext heq]
      exact finished
  · show _ = firstFailure process.failureAt (i.val + 1)
    rw [firstFailure_succ, failureAt_of_ended ended, ← hfailure]
  · intro hnone
    obtain ⟨rfl, hcompleted⟩ := Option.or_eq_none_iff.1 hnone
    rcases outcome with (fault | panic | exit) | count
    · cases hcompleted
    · cases hcompleted
    · cases hcompleted
    · rw [collect, hdone rfl, orderly.level.count i count ended, List.replicate_succ]

/-- The main thread has the answer of the pool. -/
theorem answered (orderly : Orderly orders inner process) {next : Nat} {failure : Option Fault}
    {done : List UInt64} (mainStatus : process.mainStatus = .joining next failure done)
    (all : workers ≤ next) {after : Stack} (same : after.texts = process.texts) :
    Orderly orders inner (process.answered failure after) := by
  have htexts := orderly.texts
  rw [mainStatus] at htexts
  obtain ⟨hnext, granted, -, finished, hfailure, -⟩ : MainStatus.Follows orders process.statuses
      process.failureAt (.joining next failure done) := mainStatus ▸ orderly.leads
  obtain rfl : next = workers := Nat.le_antisymm hnext all
  refine ⟨orderly.running, orderly.level.of_inner _,
    same.trans htexts, ?_, orderly.stands, granted, fun i => finished i i.isLt, hfailure⟩
  exact orderly.exits_of_workers rfl (by rw [exiting, mainStatus]) fun _ _ h => h

/-- The main thread works out the answer of the pool.  It panics if the cycles have no total
that is a word. -/
theorem answers (orderly : Orderly orders inner process) {next : Nat} {failure : Option Fault}
    {done : List UInt64} (mainStatus : process.mainStatus = .joining next failure done)
    (all : workers ≤ next) :
    Orderly orders inner (process.answer failure done) ∨
      UInt64.size ≤ workers * orders.config.cycles.toNat ∧
        (process.answer failure done).exit = some (.code Execution.panicStatus) := by
  cases failure with
  | some fault => exact .inl (orderly.answered mainStatus all rfl)
  | none =>
      unfold answer
      obtain ⟨after, hconclude, htexts, -, -⟩ | ⟨panic, hconclude⟩ :=
        conclude_cases done.reverse ⟨process.shared.inner, #[]⟩
      · simp only [hconclude]
        exact .inl (orderly.answered mainStatus all htexts)
      · simp only [hconclude]
        refine .inr ⟨Nat.le_of_not_lt fun few => ?_, rfl⟩
        obtain ⟨hnext, -, -, -, -, hdone⟩ : MainStatus.Follows orders process.statuses
            process.failureAt (.joining next none done) := mainStatus ▸ orderly.leads
        obtain rfl : next = workers := Nat.le_antisymm hnext all
        obtain ⟨after, htotal, -, -⟩ := conclude_replicate orders.config few
          ⟨process.shared.inner, #[]⟩
        rw [hdone rfl, List.reverse_replicate, htotal] at hconclude
        cases hconclude

/-- Once the workers have finished, nobody but the main thread takes the process down, and only
with a fault. -/
theorem nobody_of_answer (orderly : Orderly orders inner process) {failure : Option Fault}
    (mainStatus : process.mainStatus = .reporting failure ∨ process.mainStatus = .ending none) :
    process.exitRight = none := by
  have finished : ∀ i, process.statuses i = .finished := by
    rcases mainStatus with hmainStatus | hmainStatus
    · exact (orderly.finished_of_answer (.inl hmainStatus)).2.1
    · exact (orderly.finished_of_answer (.inr hmainStatus)).2.1
  cases hexitRight : process.exitRight with
  | none => rfl
  | some exitRight =>
      have hexiting := orderly.exits exitRight hexitRight
      cases hwho : exitRight.who with
      | main =>
          rw [hwho, exiting] at hexiting
          rcases mainStatus with hmainStatus | hmainStatus
          · rw [hmainStatus] at hexiting
            cases hexiting
          · rw [hmainStatus] at hexiting
            cases hexiting
      | worker i =>
          rw [hwho, exiting, finished i] at hexiting
          cases hexiting

/-- The main thread prints the counters. -/
theorem reports (orderly : Orderly orders inner process) {failure : Option Fault}
    (mainStatus : process.mainStatus = .reporting failure) :
    Orderly orders inner (process.publish orders.report failure) := by
  have hnobody := orderly.nobody_of_answer (.inl mainStatus)
  have htexts := orderly.texts
  rw [mainStatus, hnobody] at htexts
  refine ⟨orderly.running, orderly.level.of_inner _,
    ?_, ?_, orderly.stands, orderly.finished_of_answer (.inl mainStatus)⟩
  · show (((process.shared.counters.tally orders.report).foldl Log.Journal.print
      process.shared.inner.site.journal).texts) = inner.texts ++
        process.shared.counters.tally orders.report ++
          process.exitRight.elim [] (ExitRight.said orders.policy)
    rw [Log.Journal.texts_foldl_print,
      show process.shared.inner.site.journal.texts = _ from htexts, hnobody]
    simp [MainStatus.tallied]
  · intro exitRight hexitRight
    rw [show (process.publish orders.report failure).exitRight = none from hnobody] at hexitRight
    cases hexitRight

/-- The main thread ends the process without a fault. -/
theorem succeeds (orderly : Orderly orders inner process)
    (mainStatus : process.mainStatus = .ending none) :
    (process.leave (.code 0)).Left orders inner none (.code 0) := by
  obtain ⟨came, -, balanced⟩ := orderly.came_of_answer (.inr mainStatus)
  refine ⟨came.leave _, rfl, process.shared.counters, balanced, ?_⟩
  have hnobody : process.exitRight = none := orderly.nobody_of_answer
    (show process.mainStatus = .reporting none ∨ process.mainStatus = .ending none from
      .inr mainStatus)
  have htexts := orderly.texts
  rw [mainStatus, hnobody] at htexts
  rw [Option.any_none, Bool.not_false, Bool.and_true]
  exact htexts

/-- What a turn makes of a process that has not ended: it has not ended still, it has left over
what its threads have come to, or the main thread has panicked over a total that is no word. -/
theorem moves (orderly : Orderly orders inner process) (small : workers < UInt64.size)
    (moves : Moves orders process next) :
    Orderly orders inner next ∨
      (∃ fault? exit, next.exit = some exit ∧ next.Left orders inner fault? exit) ∨
      UInt64.size ≤ workers * orders.config.cycles.toNat ∧
        next.exit = some (.code Execution.panicStatus) := by
  cases moves with
  | takes exiting free => exact .inl (orderly.takes exiting free)
  | exitTurns taken => exact (orderly.exitTurns taken).imp_right .inl
  | works working busy => exact .inl (orderly.works small working)
  | finishes working ended => exact .inl (orderly.finishes working ended)
  | startsWorker mainStatus granted => exact .inl (orderly.startsWorker mainStatus granted)
  | rejects mainStatus refused => exact .inl (orderly.rejects mainStatus refused)
  | started mainStatus all => exact .inl (orderly.started mainStatus all)
  | takesUp mainStatus finished ended => exact .inl (orderly.takesUp mainStatus finished ended)
  | answers mainStatus all => exact (orderly.answers mainStatus all).imp_right .inr
  | reports mainStatus => exact .inl (orderly.reports mainStatus)
  | succeeds mainStatus => exact .inr (.inl ⟨none, .code 0, rfl, orderly.succeeds mainStatus⟩)

end Orderly
end Moves

section Run

variable {orders : Orders} {inner : Stack} {process : Process workers}

/-- What the turns of the threads come to, in whatever order they are taken. -/
theorem exec_cases (orders : Orders) (inner : Stack) (small : workers < UInt64.size)
    (schedule : List (PoolThread workers)) :
    Orderly orders inner ((first inner).exec orders schedule) ∨
      (∃ fault? exit, ((first inner).exec orders schedule).exit = some exit ∧
        ((first inner).exec orders schedule).Left orders inner fault? exit) ∨
      UInt64.size ≤ workers * orders.config.cycles.toNat ∧
        ((first inner).exec orders schedule).exit = some (.code Execution.panicStatus) := by
  induction schedule using List.reverseRecOn with
  | nil => exact .inl (orderly_first orders inner)
  | append_singleton schedule who ih =>
      rw [exec_concat]
      rcases ih with orderly | ⟨fault?, exit, hexit, left⟩ | ⟨many, hexit⟩
      · rcases turn_cases orders orderly.running who with ⟨hsame, -⟩ | moves
        · rw [hsame]
          exact .inl orderly
        · exact orderly.moves small moves
      · rw [turn_of_exit hexit]
        exact .inr (.inl ⟨fault?, exit, hexit, left⟩)
      · rw [turn_of_exit hexit]
        exact .inr (.inr ⟨many, hexit⟩)

/-- As long as the process has not ended, there is a thread that need not wait. -/
theorem Orderly.exists_moves (orderly : Orderly orders inner process) :
    ∃ who, Moves orders process (process.turn orders who) := by
  have moves_of {who : PoolThread workers} (ready : ¬ process.Waits who) :
      Moves orders process (process.turn orders who) :=
    (turn_cases orders orderly.running who).resolve_left fun h => ready h.2
  cases hexitRight : process.exitRight with
  | some exitRight =>
      have hexiting := orderly.exits exitRight hexitRight
      refine ⟨exitRight.who, moves_of fun waits => ?_⟩
      generalize hwho : exitRight.who = who at hexiting waits
      cases waits with
      | idle hidle =>
          rw [exiting] at hexiting
          rcases hidle with hidle | hidle
          · rw [hidle] at hexiting
            cases hexiting
          · rw [hidle] at hexiting
            cases hexiting
      | right taken other =>
          rw [hexitRight] at taken
          obtain rfl := Option.some.inj taken
          exact other hwho
      | worker hmainStatus hunended =>
          rw [exiting, hmainStatus] at hexiting
          cases hexiting
  | none =>
      by_cases hidle : ∀ i, process.statuses i = .unborn ∨ process.statuses i = .finished
      · refine ⟨.main, moves_of fun waits => ?_⟩
        cases waits with
        | right taken other =>
            rw [hexitRight] at taken
            cases taken
        | @worker i failure done hmainStatus hunended =>
            obtain ⟨-, -, born, -⟩ : MainStatus.Follows orders process.statuses process.failureAt
                (.joining i.val failure done) := hmainStatus ▸ orderly.leads
            have hfinished := (hidle i).resolve_left (born i)
            obtain ⟨outcome, hended, -⟩ := orderly.ended_of_finished hfinished
            exact hunended outcome hfinished hended
      · obtain ⟨i, hbusy⟩ := not_forall.1 hidle
        refine ⟨.worker i, moves_of fun waits => ?_⟩
        cases waits with
        | idle hidle => exact hbusy hidle
        | right taken other =>
            rw [hexitRight] at taken
            cases taken

end Run

end Process

end Workers
end HeapFixtures
