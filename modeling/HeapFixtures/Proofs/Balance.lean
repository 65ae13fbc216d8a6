/-
# The books of a pool

Whatever the allocator below a counting layer answers to the workers of a pool, and however
their steps interleave, the counters differ at every moment by what is open: a request that a
worker has counted and whose release it has not counted yet.  So once all workers have ended,
as many releases as requests are counted, and nothing is live.

Unlike the sum of the workers, this asks nothing of the allocator below.  A worker among others
may meet refusals that it would not meet alone.
-/

import HeapFixtures.Proofs.SharedPool

namespace HeapFixtures
namespace Workers

/-- The worker has counted a request in whose block it has not counted out. -/
def Phase.isOpen : Phase → Bool
  | .countsBytes .. | .countsLive .. | .countsPeak .. | .releases .. | .countsRelease _ => true
  | _ => false

/-- A number of open requests. -/
def Phase.opened (phase : Phase) : UInt64 := if phase.isOpen then 1 else 0

@[simp]
theorem Phase.opened_next (count : UInt64) (left : Nat) : (next count left).opened = 0 := by
  cases left <;> rfl

@[simp]
theorem Phase.opened_answered (left : Nat) (answer : Except Stop Block) :
    (answered left answer).opened = 0 := by
  cases answer <;> rfl

/-- A step counts a request in, or a release, or neither. -/
theorem WorkerView.difference_step (config : Config) (index : UInt64) {view : WorkerView}
    (room : view.HasRoom) :
    (view.step config index).counters.allocations - (view.step config index).counters.releases +
        view.state.phase.opened =
      view.counters.allocations - view.counters.releases +
        (view.step config index).state.phase.opened := by
  obtain ⟨counters, inner, phase, calls⟩ := view
  cases phase with
  | countsLive left block =>
      have hword : Word.add? counters.live 1 = some (counters.live + 1) :=
        Word.add?_one (room.above rfl)
      simp only [step, hword]
      rfl
  | countsAllocation left block =>
      show counters.allocations + 1 - counters.releases + 0 =
        counters.allocations - counters.releases + 1
      grind
  | countsRelease left =>
      show counters.allocations - (counters.releases + 1) + 1 =
        counters.allocations - counters.releases + 0
      grind
  | begins =>
      simp only [step, Phase.opened_next]
      rfl
  | asks left =>
      simp only [step, Phase.opened_answered]
      rfl
  | countsGone left =>
      simp only [step, Phase.opened_next]
      rfl
  | countsBytes left block => rfl
  | countsPeak left block live => rfl
  | releases left block => rfl
  | ended result => rfl

/-- A worker that has completed its cycles says so. -/
theorem WorkerView.count_of_step {config : Config} {index : UInt64} {view : WorkerView}
    {count : UInt64}
    (before : view.state.phase = .ended (.ok count) → count = config.cycles)
    (after : (view.step config index).state.phase = .ended (.ok count)) :
    count = config.cycles := by
  have hnext : ∀ left, Phase.next config.cycles left = .ended (.ok count) →
      count = config.cycles := by
    intro left h
    cases left with
    | zero => exact (Except.ok.inj (Phase.ended.inj h)).symm
    | succ left => cases h
  obtain ⟨counters, inner, phase, calls⟩ := view
  cases phase with
  | begins => exact hnext _ after
  | countsGone left => exact hnext left after
  | ended result => exact before after
  | asks left =>
      simp only [step] at after
      revert after
      rcases (inner.allocate (.worker index) config.blockSize).1 with stop | block
      · intro after
        cases after
      · intro after
        cases after
  | countsLive left block =>
      simp only [step] at after
      revert after
      rcases Word.add? counters.live 1 with _ | live
      · intro after
        cases after
      · intro after
        cases after
  | countsAllocation left block => cases after
  | countsBytes left block => cases after
  | countsPeak left block live => cases after
  | releases left block => cases after
  | countsRelease left => cases after

variable {workers : Nat}

/-- What every step keeps true of a pool that began with counters at zero. -/
structure SharedPool.Level (config : Config) (shared : SharedPool workers) : Prop where
  /-- The live blocks are those of the workers that are counted in. -/
  live : shared.counters.live.toNat = Counters.zero.live.toNat + shared.countedIn.card
  /-- Requests and releases differ by the requests that are open. -/
  difference : shared.counters.allocations - shared.counters.releases =
    ∑ i, (shared.states i).phase.opened
  /-- Workers that come back have completed their cycles. -/
  count (i : Fin workers) (count : UInt64)
    (completed : (shared.states i).phase = .ended (.ok count)) : count = config.cycles

namespace SharedPool.Level

variable {config : Config} {shared : SharedPool workers}

theorem first (config : Config) (inner : Stack) :
    (SharedPool.first .zero inner : SharedPool workers).Level config := by
  refine ⟨(reached_first .zero inner).live, ?_, ?_⟩
  · have hnone : ∑ i : Fin workers, (WorkerState.first.phase).opened = 0 :=
      Finset.sum_eq_zero fun _ _ => rfl
    exact (sub_self (0 : UInt64)).trans hnone.symm
  · intro i count completed
    cases completed

theorem step (level : shared.Level config) (small : workers < UInt64.size) (i : Fin workers) :
    (shared.step config i).Level config := by
  have room : Counters.zero.live.toNat + workers < UInt64.size := by
    rw [show Counters.zero.live.toNat = 0 from rfl, Nat.zero_add]
    exact small
  refine ⟨live_step level.live room config i, ?_, ?_⟩
  · have hsum := sum_states_step (fun state => state.phase.opened) config shared i
    have hstep := WorkerView.difference_step config (number i) (hasRoom_of_live level.live room i)
    have hdifference := level.difference
    change (shared.step config i).counters.allocations - (shared.step config i).counters.releases +
      (shared.states i).phase.opened = shared.counters.allocations - shared.counters.releases + _
      at hstep
    rw [hdifference, ← hsum] at hstep
    exact add_right_cancel hstep
  · intro j count completed
    by_cases hj : j = i
    · subst hj
      rw [states_step_self] at completed
      exact WorkerView.count_of_step (level.count j count) completed
    · rw [states_step_of_ne hj] at completed
      exact level.count j count completed

/-- What is below the counters does not matter. -/
theorem of_inner (level : shared.Level config) (inner : Stack) :
    ({ shared with inner := inner } : SharedPool workers).Level config :=
  ⟨level.live, level.difference, level.count⟩

/-- Once all workers have ended, all blocks are back. -/
theorem isBalanced (level : shared.Level config)
    (ended : ∀ i, ∃ result, (shared.states i).phase = .ended result) :
    shared.counters.isBalanced = true := by
  have hlive : shared.counters.live = 0 := by
    have hcard := level.live
    rw [countedIn_of_ended ended, Finset.card_empty] at hcard
    exact UInt64.toNat_inj.1 hcard
  have hdifference : shared.counters.allocations - shared.counters.releases = 0 := by
    rw [level.difference]
    refine Finset.sum_eq_zero fun i _ => ?_
    obtain ⟨result, hresult⟩ := ended i
    rw [hresult]
    rfl
  have hequal : shared.counters.allocations = shared.counters.releases := by grind
  simp [Counters.isBalanced, hlive, hequal]

end SharedPool.Level

end Workers
end HeapFixtures
