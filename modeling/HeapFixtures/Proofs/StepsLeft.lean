/-
# What is left to do

A process with a pool has so much left to do: the steps of its workers, the worker threads to
start and to wait for, and the steps of the thread that ends it.  Every turn that changes
something leaves less, and as long as the process has not ended there is a thread whose turn
changes something.  A round gives every thread a turn, so each round leaves less, too, and after
as many rounds as there was to do at the start the process has ended.  Nothing is asked of the
order of the turns within a round, or of how many turns a thread has in it.
-/

import HeapFixtures.Proofs.Fairness
import HeapFixtures.Proofs.ProcessExit
import Mathlib.Algebra.Order.BigOperators.Group.Finset

namespace HeapFixtures
namespace Workers

/-- The steps that a worker has left at most. -/
def Phase.stepsLeft (config : Config) : Phase → Nat
  | .begins => 8 * config.cycles.toNat + 1
  | .asks left => 8 * left + 8
  | .countsAllocation left _ => 8 * left + 7
  | .countsBytes left _ => 8 * left + 6
  | .countsLive left _ => 8 * left + 5
  | .countsPeak left _ _ => 8 * left + 4
  | .releases left _ => 8 * left + 3
  | .countsRelease left => 8 * left + 2
  | .countsGone left => 8 * left + 1
  | .ended _ => 0

theorem Phase.stepsLeft_next (config : Config) (count : UInt64) (left : Nat) :
    (next count left).stepsLeft config = 8 * left := by
  cases left <;> rfl

/-- A worker that has not ended comes closer to its end. -/
theorem WorkerView.stepsLeft_step {config : Config} (index : UInt64) {view : WorkerView}
    (busy : ∀ outcome, view.state.phase ≠ .ended outcome) :
    (view.step config index).state.phase.stepsLeft config < view.state.phase.stepsLeft config := by
  obtain ⟨counters, inner, phase, calls⟩ := view
  cases phase with
  | begins =>
      simp only [step, Phase.stepsLeft_next]
      exact Nat.lt_succ_self _
  | asks left =>
      simp only [step]
      rcases (inner.allocate (.worker index) config.blockSize).1 with stop | block
      · exact Nat.succ_pos _
      · exact Nat.lt_succ_self _
  | countsLive left block =>
      simp only [step]
      rcases Word.add? counters.live 1 with _ | live
      · exact Nat.succ_pos _
      · exact Nat.lt_succ_self _
  | countsGone left =>
      simp only [step, Phase.stepsLeft_next]
      exact Nat.lt_succ_self _
  | ended outcome => exact absurd rfl (busy outcome)
  | countsAllocation left block => exact Nat.lt_succ_self _
  | countsBytes left block => exact Nat.lt_succ_self _
  | countsPeak left block live => exact Nat.lt_succ_self _
  | releases left block => exact Nat.lt_succ_self _
  | countsRelease left => exact Nat.lt_succ_self _

/-- What a worker's thread has left to do, with its last turn. -/
def WorkerStatus.stepsLeft (config : Config) (phase : Phase) : WorkerStatus → Nat
  | .unborn | .working => phase.stepsLeft config + 1
  | .exiting _ | .finished => 0

theorem WorkerStatus.stepsLeft_after (config : Config) (phase : Phase)
    (outcome : Except Stop UInt64) :
    (WorkerStatus.after outcome).stepsLeft config phase = 0 := by
  unfold WorkerStatus.after
  split
  · split <;> rfl
  · rfl

/-- What the main thread has left to do, short of ending the process. -/
def MainStatus.stepsLeft (workers : Nat) : MainStatus → Nat
  | .starting next => (workers - next) + (workers + 3)
  | .joining next _ _ => (workers - next) + 2
  | .reporting _ => 1
  | .refused _ | .ending _ => 0

variable {workers : Nat}

/-- What the thread that takes the process down has left to do before its last step. -/
def ExitRight.stepsLeft : Option (ExitRight workers) → Nat
  | none => 3
  | some exitRight =>
    match exitRight.exitStep with
    | .tells => 2
    | .prints => 1
    | .leaves => 0

/-- The last step of the thread that takes the process down. -/
def lastExitStep : Option Exit → Nat
  | none => 1
  | some _ => 0

namespace Process

/-- What the workers have left to do. -/
def workLeft (config : Config) (process : Process workers) : Nat :=
  ∑ i, (process.statuses i).stepsLeft config (process.phase i)

/-- What a process has left to do. -/
def stepsLeft (config : Config) (process : Process workers) : Nat :=
  process.workLeft config + process.mainStatus.stepsLeft workers +
    ExitRight.stepsLeft process.exitRight +
    lastExitStep process.exit

section Moves

variable {orders : Orders} {inner : Stack} {process next : Process workers} {config : Config}

/-- One worker has less to do, and the others as much. -/
theorem workLeft_lt (i : Fin workers)
    (less : (next.statuses i).stepsLeft config (next.phase i) <
      (process.statuses i).stepsLeft config (process.phase i))
    (others : ∀ j, j ≠ i → (next.statuses j).stepsLeft config (next.phase j) =
      (process.statuses j).stepsLeft config (process.phase j)) :
    next.workLeft config < process.workLeft config := by
  refine Finset.sum_lt_sum (fun j _ => ?_) ⟨i, Finset.mem_univ i, less⟩
  by_cases hj : j = i
  · subst hj
    exact less.le
  · exact (others j hj).le

theorem workLeft_work {i : Fin workers} (working : process.statuses i = .working)
    (busy : ∀ outcome, process.phase i ≠ .ended outcome) :
    (process.work config i).workLeft config < process.workLeft config := by
  refine workLeft_lt i ?_ fun j hj => ?_
  · show (process.statuses i).stepsLeft config ((process.shared.step config i).states i).phase <
      (process.statuses i).stepsLeft config (process.phase i)
    rw [working, SharedPool.states_step_self]
    exact Nat.succ_lt_succ (WorkerView.stepsLeft_step (SharedPool.number i) busy)
  · show (process.statuses j).stepsLeft config ((process.shared.step config i).states j).phase = _
    rw [SharedPool.states_step_of_ne hj]
    rfl

theorem workLeft_finish {i : Fin workers} (working : process.statuses i = .working)
    (outcome : Except Stop UInt64) :
    (process.finish i outcome).workLeft config < process.workLeft config := by
  refine workLeft_lt i ?_ fun j hj => ?_
  · show (Function.update process.statuses i (.after outcome) i).stepsLeft config
      (process.phase i) < _
    rw [Function.update_self, WorkerStatus.stepsLeft_after, working]
    exact Nat.succ_pos _
  · show (Function.update process.statuses i (.after outcome) j).stepsLeft config
      (process.phase j) = _
    rw [Function.update_of_ne hj]

/-- A worker that is started has as much to do as before. -/
theorem workLeft_startWorker {i : Fin workers} (unborn : process.statuses i = .unborn) :
    (process.startWorker i).workLeft config = process.workLeft config := by
  refine Finset.sum_congr rfl fun j _ => ?_
  show (Function.update process.statuses i .working j).stepsLeft config (process.phase j) = _
  by_cases hj : j = i
  · subst hj
    rw [Function.update_self, unborn]
    rfl
  · rw [Function.update_of_ne hj]

/-- The main thread has less to do. -/
theorem stepsLeft_lt_of_mainStatus (workLeft : next.workLeft config = process.workLeft config)
    (mainStatus : next.mainStatus.stepsLeft workers < process.mainStatus.stepsLeft workers)
    (exitRight : next.exitRight = process.exitRight)
    (exit : next.exit = process.exit) : next.stepsLeft config < process.stepsLeft config := by
  unfold stepsLeft
  rw [workLeft, exitRight, exit]
  omega

/-- The thread that takes the process down has less to do. -/
theorem stepsLeft_lt_of_exitRight (workLeft : next.workLeft config = process.workLeft config)
    (mainStatus : next.mainStatus = process.mainStatus)
    (exitRight : ExitRight.stepsLeft next.exitRight < ExitRight.stepsLeft process.exitRight)
    (exit : next.exit = process.exit) : next.stepsLeft config < process.stepsLeft config := by
  unfold stepsLeft
  rw [workLeft, mainStatus, exit]
  omega

/-- The process ends. -/
theorem stepsLeft_lt_of_exit {exit : Exit}
    (workLeft : next.workLeft config = process.workLeft config)
    (mainStatus : next.mainStatus = process.mainStatus)
    (exitRight : next.exitRight = process.exitRight)
    (ended : next.exit = some exit) (running : process.exit = none) :
    next.stepsLeft config < process.stepsLeft config := by
  unfold stepsLeft
  rw [workLeft, mainStatus, exitRight, ended, running]
  exact Nat.lt_succ_self _

/-- A worker has less to do. -/
theorem stepsLeft_lt_of_workLeft (workLeft : next.workLeft config < process.workLeft config)
    (mainStatus : next.mainStatus = process.mainStatus)
    (exitRight : next.exitRight = process.exitRight)
    (exit : next.exit = process.exit) : next.stepsLeft config < process.stepsLeft config := by
  unfold stepsLeft
  rw [mainStatus, exitRight, exit]
  omega

/-- Every turn that changes something leaves less to do. -/
theorem Moves.stepsLeft_lt (orderly : Orderly orders inner process)
    (moves : Moves orders process next) :
    next.stepsLeft orders.config < process.stepsLeft orders.config := by
  cases moves with
  | takes exiting free =>
      refine stepsLeft_lt_of_exitRight rfl rfl ?_ rfl
      rw [free]
      exact Nat.lt_succ_self 2
  | @exitTurns exitRight taken =>
      obtain ⟨who, fault, exitStep⟩ := exitRight
      cases exitStep with
      | tells =>
          refine stepsLeft_lt_of_exitRight rfl rfl ?_ rfl
          rw [taken]
          exact Nat.lt_succ_self 1
      | prints =>
          refine stepsLeft_lt_of_exitRight rfl rfl ?_ rfl
          rw [taken]
          exact Nat.lt_succ_self 0
      | leaves => exact stepsLeft_lt_of_exit rfl rfl rfl rfl orderly.running
  | works working busy => exact stepsLeft_lt_of_workLeft (workLeft_work working busy) rfl rfl rfl
  | finishes working ended => exact stepsLeft_lt_of_workLeft (workLeft_finish working _) rfl rfl rfl
  | @startsWorker i mainStatus granted =>
      obtain ⟨-, -, born⟩ : MainStatus.Follows orders process.statuses process.failureAt
          (.starting i.val) := mainStatus ▸ orderly.leads
      refine stepsLeft_lt_of_mainStatus (workLeft_startWorker ((born i).2 le_rfl)) ?_ rfl rfl
      rw [mainStatus]
      show (workers - (i.val + 1)) + (workers + 3) < (workers - i.val) + (workers + 3)
      have hlt := i.isLt
      omega
  | rejects mainStatus refused =>
      refine stepsLeft_lt_of_mainStatus rfl ?_ rfl rfl
      rw [mainStatus]
      exact Nat.add_pos_right _ (Nat.succ_pos _)
  | @started next mainStatus all =>
      refine stepsLeft_lt_of_mainStatus rfl ?_ rfl rfl
      rw [mainStatus]
      show (workers - 0) + 2 < (workers - next) + (workers + 3)
      omega
  | @takesUp i failure done outcome mainStatus finished ended =>
      refine stepsLeft_lt_of_mainStatus rfl ?_ rfl rfl
      rw [mainStatus]
      show (workers - (i.val + 1)) + 2 < (workers - i.val) + 2
      have hlt := i.isLt
      omega
  | @answers next failure done mainStatus all =>
      have hmainStatus : 1 < process.mainStatus.stepsLeft workers := by
        rw [mainStatus]
        exact Nat.le_add_left 2 _
      cases failure with
      | some fault => exact stepsLeft_lt_of_mainStatus rfl hmainStatus rfl rfl
      | none =>
          unfold answer
          obtain ⟨after, hconclude, -⟩ | ⟨panic, hconclude⟩ :=
            conclude_cases done.reverse ⟨process.shared.inner, #[]⟩
          · simp only [hconclude]
            exact stepsLeft_lt_of_mainStatus rfl hmainStatus rfl rfl
          · simp only [hconclude]
            exact stepsLeft_lt_of_exit rfl rfl rfl rfl orderly.running
  | reports mainStatus =>
      refine stepsLeft_lt_of_mainStatus rfl ?_ rfl rfl
      rw [mainStatus]
      exact Nat.zero_lt_one
  | succeeds mainStatus => exact stepsLeft_lt_of_exit rfl rfl rfl rfl orderly.running

end Moves

section Rounds

variable {orders : Orders} {inner : Stack} {process : Process workers}

/-- A turn ends the process, leaves less to do, or changes nothing. -/
theorem Orderly.turn (orderly : Orderly orders inner process) (small : workers < UInt64.size)
    (who : PoolThread workers) :
    (∃ exit, (process.turn orders who).exit = some exit) ∨
      Orderly orders inner (process.turn orders who) ∧
        ((process.turn orders who).stepsLeft orders.config < process.stepsLeft orders.config ∨
          process.turn orders who = process) := by
  rcases turn_cases orders orderly.running who with ⟨hsame, -⟩ | moves
  · refine .inr ⟨?_, .inr hsame⟩
    rw [hsame]
    exact orderly
  · rcases orderly.moves small moves with hafter | ⟨fault?, exit, hexit, -⟩ | ⟨-, hexit⟩
    · exact .inr ⟨hafter, .inl (moves.stepsLeft_lt orderly)⟩
    · exact .inl ⟨exit, hexit⟩
    · exact .inl ⟨_, hexit⟩

/-- The turns of a process lead to its end. -/
theorem progresses (orders : Orders) (inner : Stack) (small : workers < UInt64.size) :
    Progresses (turn orders) (fun _ : PoolThread workers => True) (Orderly orders inner)
      (fun process => ∃ exit, process.exit = some exit) (stepsLeft orders.config) where
  step orderly who := orderly.turn small who
  someone orderly :=
    -- Some thread need not wait.
    let ⟨who, moves⟩ := orderly.exists_moves
    ⟨who, trivial, .inr (moves.stepsLeft_lt orderly)⟩
  stays := by
    rintro process ⟨exit, ended⟩ who
    exact ⟨exit, by rw [turn_of_exit ended, ended]⟩

/-- More rounds than there is to do end the process. -/
theorem Orderly.rounds (orderly : Orderly orders inner process) (small : workers < UInt64.size)
    {rounds : List (List (PoolThread workers))} (everyone : ∀ round ∈ rounds, ∀ who, who ∈ round)
    (enough : process.stepsLeft orders.config < rounds.length) :
    ∃ exit, (process.exec orders rounds.flatten).exit = some exit :=
  (progresses orders inner small).rounds orderly (fun round mem who _ => everyone round mem who)
    enough

end Rounds

end Process

end Workers
end HeapFixtures
