/-
# A pool is the sum of its workers

The workers of a pool take their steps in any order, on one counting layer and one allocator
below it that keeps the calls of threads apart.  At every moment the live blocks are those of
the workers that have counted their block in and not yet out.  Once all workers have ended,
each has come to what it comes to alone, and the counters have grown by what all of them would
have added alone.

A worker cannot tell its run among others from the run alone: after as many steps of its own
it stands at the same place and has made the same calls.  What a step adds to the counters
follows from the place.
-/

import HeapFixtures.Proofs.WorkerSteps
import Mathlib.Algebra.BigOperators.Fin

namespace HeapFixtures
namespace Workers

/-- A pool whose workers are in their work, over counters and an allocator that all share. -/
structure SharedPool (workers : Nat) where
  counters : Counters
  inner : Stack
  states : Fin workers → WorkerState

namespace SharedPool

variable {workers : Nat}

/-- A pool in which no worker has begun. -/
def first (start : Counters) (inner : Stack) : SharedPool workers := ⟨start, inner, fun _ => .first⟩

/-- The number that a worker goes by. -/
def number (i : Fin workers) : UInt64 := UInt64.ofNat i.val

/-- What a worker sees of the pool. -/
def view (shared : SharedPool workers) (i : Fin workers) : WorkerView :=
  ⟨shared.counters, shared.inner, shared.states i⟩

/-- One step of one worker. -/
def step (config : Config) (shared : SharedPool workers) (i : Fin workers) : SharedPool workers :=
  let view := (shared.view i).step config (number i)
  ⟨view.counters, view.inner, Function.update shared.states i view.state⟩

/-- The steps of workers in the order of a schedule. -/
def exec (config : Config) (shared : SharedPool workers) (schedule : List (Fin workers)) :
    SharedPool workers :=
  schedule.foldl (step config) shared

/-- The workers that have counted their block in and not yet out. -/
def countedIn (shared : SharedPool workers) : Finset (Fin workers) :=
  Finset.univ.filter fun i => (shared.states i).phase.isCountedIn

section Step

variable {config : Config} {shared : SharedPool workers} {i j : Fin workers}

theorem number_injective (small : workers ≤ UInt64.size) :
    Function.Injective (number : Fin workers → UInt64) := by
  intro i j h
  have hval := congrArg UInt64.toNat h
  rw [number, number, UInt64.toNat_ofNat_of_lt' (i.isLt.trans_le small),
    UInt64.toNat_ofNat_of_lt' (j.isLt.trans_le small)] at hval
  exact Fin.ext hval

/-- A worker sees the step that it takes. -/
theorem view_step_self :
    (shared.step config i).view i = (shared.view i).step config (number i) := by
  simp [step, view]

theorem states_step_self :
    (shared.step config i).states i = ((shared.view i).step config (number i)).state :=
  Function.update_self ..

/-- A worker stays where it is while others take steps. -/
theorem states_step_of_ne (h : j ≠ i) : (shared.step config i).states j = shared.states j :=
  Function.update_of_ne h ..

theorem exec_concat (schedule : List (Fin workers)) :
    shared.exec config (schedule ++ [i]) = (shared.exec config schedule).step config i :=
  List.foldl_concat ..

/-- If one worker takes all steps, the others might not be there. -/
theorem view_exec_replicate (n : Nat) :
    (shared.exec config (List.replicate n i)).view i =
      (WorkerView.step config (number i))^[n] (shared.view i) := by
  induction n with
  | zero => rfl
  | succ n ih =>
      rw [List.replicate_succ', exec_concat, view_step_self, ih, Function.iterate_succ_apply']

theorem sums_step (config : Config) (shared : SharedPool workers) (i : Fin workers) :
    (shared.step config i).counters.sums =
      shared.counters.sums + (shared.states i).phase.adds config.blockSize :=
  WorkerView.sums_step config (number i) (shared.view i)

/-- The workers that are counted in, one by one. -/
theorem card_countedIn (shared : SharedPool workers) :
    shared.countedIn.card = ∑ j, (shared.states j).phase.isCountedIn.toNat := by
  rw [countedIn, Finset.card_filter]
  refine Finset.sum_congr rfl fun j _ => ?_
  cases (shared.states j).phase.isCountedIn <;> rfl

/-- A step changes the part of one worker in a sum over all of them. -/
theorem sum_states_step {M : Type} [AddCommMonoid M] (part : WorkerState → M) (config : Config)
    (shared : SharedPool workers) (i : Fin workers) :
    ∑ j, part ((shared.step config i).states j) + part (shared.states i) =
      ∑ j, part (shared.states j) + part ((shared.view i).step config (number i)).state := by
  have hothers : ∑ j ∈ Finset.univ.erase i, part ((shared.step config i).states j) =
      ∑ j ∈ Finset.univ.erase i, part (shared.states j) := by
    refine Finset.sum_congr rfl fun j hj => ?_
    rw [states_step_of_ne (Finset.ne_of_mem_erase hj)]
  rw [← Finset.add_sum_erase _ _ (Finset.mem_univ i),
    ← Finset.add_sum_erase Finset.univ (fun j => part (shared.states j)) (Finset.mem_univ i),
    hothers, states_step_self, add_right_comm, add_right_comm (part (shared.states i)),
    add_comm (part ((shared.view i).step config (number i)).state)]

/-- A step changes one of the workers that are counted in. -/
theorem card_countedIn_step (config : Config) (shared : SharedPool workers) (i : Fin workers) :
    (shared.step config i).countedIn.card + (shared.view i).state.phase.isCountedIn.toNat =
      shared.countedIn.card +
        ((shared.view i).step config (number i)).state.phase.isCountedIn.toNat := by
  rw [card_countedIn, card_countedIn]
  exact sum_states_step (fun state => state.phase.isCountedIn.toNat) config shared i

end Step

/-- What every step of every worker keeps true of a pool. -/
structure Reached (start : Counters) (inner : Stack) (shared : SharedPool workers) : Prop where
  /-- The live blocks are those of the workers that are counted in. -/
  live : shared.counters.live.toNat = start.live.toNat + shared.countedIn.card
  /-- The allocator below has had the calls of all workers. -/
  history : ∃ dealings, inner.History dealings shared.inner ∧
    (∀ dealing ∈ dealings, ¬ dealing.IsResize) ∧
    ∀ i, Dealing.callsBy (.worker (number i)) dealings = (shared.states i).calls

section Reached

variable {config : Config} {start : Counters} {inner : Stack} {shared : SharedPool workers}

theorem reached_first (start : Counters) (inner : Stack) :
    Reached start inner (first start inner : SharedPool workers) := by
  have hnone : (first start inner : SharedPool workers).countedIn.card = 0 := by
    rw [card_countedIn]
    exact Finset.sum_eq_zero fun _ _ => rfl
  refine ⟨?_, [], .nil inner, List.forall_mem_nil _, fun _ => rfl⟩
  rw [hnone]
  rfl

/-- As long as there is a word for one block of each worker more, no worker runs out of
words. -/
theorem hasRoom_of_live
    (live : shared.counters.live.toNat = start.live.toNat + shared.countedIn.card)
    (room : start.live.toNat + workers < UInt64.size) (i : Fin workers) :
    (shared.view i).HasRoom := by
  constructor
  · intro left block hphase
    have hout : i ∉ shared.countedIn := by
      simp only [countedIn, Finset.mem_filter, Finset.mem_univ, true_and]
      rw [show (shared.states i).phase = _ from hphase]
      exact Bool.false_ne_true
    have hcard : shared.countedIn.card < workers :=
      (Finset.card_lt_univ_of_notMem hout).trans_eq (Fintype.card_fin workers)
    show shared.counters.live.toNat + 1 < UInt64.size
    omega
  · intro left hphase
    have hin : i ∈ shared.countedIn := by
      simp only [countedIn, Finset.mem_filter, Finset.mem_univ, true_and]
      rw [show (shared.states i).phase = _ from hphase]
      rfl
    have hcard := Finset.card_pos.2 ⟨i, hin⟩
    show 0 < shared.counters.live.toNat
    omega

theorem Reached.hasRoom (reached : Reached start inner shared)
    (room : start.live.toNat + workers < UInt64.size) (i : Fin workers) :
    (shared.view i).HasRoom :=
  hasRoom_of_live reached.live room i

/-- The live blocks stay those of the workers that are counted in. -/
theorem live_step (live : shared.counters.live.toNat = start.live.toNat + shared.countedIn.card)
    (room : start.live.toNat + workers < UInt64.size) (config : Config) (i : Fin workers) :
    (shared.step config i).counters.live.toNat =
      start.live.toNat + (shared.step config i).countedIn.card := by
  have hstep : (shared.step config i).counters.live.toNat + _ = shared.counters.live.toNat + _ :=
    WorkerView.live_step (hasRoom_of_live live room i)
  have hcard := card_countedIn_step config shared i
  omega

/-- A pool whose workers have all ended has no block among the live ones. -/
theorem countedIn_of_ended (ended : ∀ i, ∃ result, (shared.states i).phase = .ended result) :
    shared.countedIn = ∅ := by
  refine Finset.filter_eq_empty_iff.2 fun i _ => ?_
  obtain ⟨result, hresult⟩ := ended i
  rw [hresult]
  exact Bool.false_ne_true

theorem Reached.step (reached : Reached start inner shared)
    (room : start.live.toNat + workers < UInt64.size) (config : Config) (i : Fin workers) :
    Reached start inner (shared.step config i) := by
  constructor
  · exact live_step reached.live room config i
  · obtain ⟨past, hpast, hunresized, hcalls⟩ := reached.history
    obtain ⟨dealings, hstep, hown, hmade⟩ :=
      WorkerView.history_step config (number i) (shared.view i)
    refine ⟨past ++ dealings, hpast.append hstep, ?_, ?_⟩
    · exact List.forall_mem_append.2 ⟨hunresized, fun dealing h => (hown dealing h).1⟩
    · intro j
      rw [Dealing.callsBy_append, hcalls]
      by_cases hj : j = i
      · subst hj
        rw [states_step_self, hmade]
        rfl
      · have hothers : Dealing.callsBy (.worker (number j)) dealings = [] := by
          apply Dealing.callsBy_of_forall_ne
          intro dealing hdealing hthread
          have hnumber := Thread.worker.inj ((hown dealing hdealing).2.symm.trans hthread)
          exact hj (number_injective (by omega) hnumber).symm
        rw [states_step_of_ne hj, hothers, List.append_nil]

theorem Reached.exec (inner : Stack) (room : start.live.toNat + workers < UInt64.size)
    (config : Config) (schedule : List (Fin workers)) :
    Reached start inner ((first start inner).exec config schedule) := by
  induction schedule using List.reverseRecOn with
  | nil => exact reached_first start inner
  | append_singleton schedule i ih =>
      rw [exec_concat]
      exact ih.step room config i

end Reached

/-- What a worker has come to after so many steps of its own, if it is left alone. -/
def own (config : Config) (start : Counters) (inner : Stack) (i : Fin workers) (n : Nat) :
    WorkerView :=
  (WorkerView.step config (number i))^[n] ⟨start, inner, .first⟩

section Own

variable {start : Counters} {inner : Stack}

theorem own_succ (config : Config) (start : Counters) (inner : Stack) (i : Fin workers)
    (n : Nat) :
    own config start inner i (n + 1) =
      (own config start inner i n).step config (number i) :=
  Function.iterate_succ_apply' ..

/-- A worker among others stands where it stands alone after as many steps. -/
theorem akin_own (config : Config) (apart : inner.Private)
    (room : start.live.toNat + workers < UInt64.size) (schedule : List (Fin workers))
    (i : Fin workers) :
    (((first start inner).exec config schedule).states i).Akin
      (own config start inner i (schedule.count i)).state := by
  induction schedule using List.reverseRecOn with
  | nil => exact ⟨.begins, rfl⟩
  | append_singleton schedule j ih =>
      rw [exec_concat, List.count_append]
      by_cases hj : i = j
      · subst hj
        -- The run alone is the run of a schedule, too, so the allocator below has a history in
        -- both runs, and the worker's calls are the same in both.
        have reached := Reached.exec inner room config schedule
        have alone := Reached.exec inner room config (List.replicate (schedule.count i) i)
        have hview : ((first start inner).exec config
            (List.replicate (schedule.count i) i)).view i =
              own config start inner i (schedule.count i) := view_exec_replicate _
        obtain ⟨past, hpast, hunresized, hcalls⟩ := reached.history
        obtain ⟨past', hpast', hunresized', hcalls'⟩ := alone.history
        have hroom := alone.hasRoom room i
        rw [hview] at hroom
        rw [states_step_self, List.count_singleton_self, own_succ]
        refine WorkerView.akin_step ih (reached.hasRoom room i) hroom ?_
        rw [← hview]
        refine apart past past' _ _ hpast hpast' hunresized hunresized' _ ?_ config.blockSize
        rw [hcalls, hcalls']
        exact ih.calls.trans (congrArg (fun view : WorkerView => view.state.calls) hview).symm
      · rw [states_step_of_ne hj, List.count_singleton, if_neg (by simpa using Ne.symm hj)]
        exact ih

/-- The counters that only grow have grown by what each worker adds alone. -/
theorem sums_exec (config : Config) (apart : inner.Private)
    (room : start.live.toNat + workers < UInt64.size) (schedule : List (Fin workers)) :
    ((first start inner).exec config schedule).counters.sums =
      start.sums +
        ∑ i, ((own config start inner i (schedule.count i)).counters.sums - start.sums) := by
  induction schedule using List.reverseRecOn with
  | nil =>
      have hnone : ∑ i : Fin workers,
          ((own config start inner i (List.count i [])).counters.sums - start.sums) = 0 :=
        Finset.sum_eq_zero fun i _ => sub_self start.sums
      rw [hnone, add_zero]
      rfl
  | append_singleton schedule i ih =>
      -- Only the worker whose turn it is comes further, and it adds here what it adds alone.
      have hstep (j : Fin workers) :
          (own config start inner j ((schedule ++ [i]).count j)).counters.sums - start.sums =
            (own config start inner j (schedule.count j)).counters.sums - start.sums +
              if j = i then
                (((first start inner).exec config schedule).states i).phase.adds config.blockSize
              else 0 := by
        by_cases hj : j = i
        · subst hj
          have akin := (akin_own config apart room schedule j).phase
          rw [List.count_append, List.count_singleton_self, own_succ, WorkerView.sums_step,
            if_pos rfl, akin.adds_eq, add_sub_right_comm]
        · rw [List.count_append, List.count_singleton, if_neg (by simpa using Ne.symm hj),
            if_neg hj, add_zero, add_zero]
      rw [exec_concat, sums_step, ih, Finset.sum_congr rfl fun j _ => hstep j,
        Finset.sum_add_distrib, Finset.sum_ite_eq' Finset.univ i, if_pos (Finset.mem_univ i),
        add_assoc]

/-- A worker that has ended stays as it is. -/
theorem own_of_ended (config : Config) {i : Fin workers} {n m : Nat}
    {result : Except Stop UInt64} (hnm : n ≤ m)
    (ended : (own config start inner i n).state.phase = .ended result) :
    own config start inner i m = own config start inner i n := by
  obtain ⟨rest, rfl⟩ := Nat.exists_eq_add_of_le' hnm
  have hstays := Function.iterate_fixed (WorkerView.step_of_ended config (number i) ended) rest
  exact (Function.iterate_add_apply ..).trans hstays

end Own

/-- The worker has come to an end. -/
def HasEnded (shared : SharedPool workers) (i : Fin workers) : Prop :=
  ∃ result, (shared.states i).phase = .ended result

end SharedPool

/-- A pool that has come to its end is the sum of its workers: each of them has come to what
it comes to alone, on the counting layer as it was at the start. -/
structure IsSum (config : Config) (start : Counters) (inner : Stack)
    (shared : SharedPool config.workers.toNat) : Prop where
  result (i) : (shared.states i).phase =
    .ended (alone config (SharedPool.number i) (inner.push (.counting start))).1
  calls (i) : (shared.states i).calls =
    Dealing.callsBy (.worker (SharedPool.number i))
      (requests (.worker (SharedPool.number i)) (SharedPool.number i) config.cycles config.blockSize
        (inner.push (.counting start)))
  live : shared.counters.live = start.live
  sums : shared.counters.sums = start.sums +
    ∑ i : Fin config.workers.toNat,
      ((alone config (SharedPool.number i) (inner.push (.counting start))).2.shown.sums -
        start.sums)
  /-- If no request was refused, each worker's cycles are in counters that were unused. -/
  whole (unused : start = .zero)
    (granted : ∀ i, ∃ done, (shared.states i).phase = .ended (.ok done)) :
    shared.counters.allocations = config.workers * config.cycles ∧
      shared.counters.releases = config.workers * config.cycles ∧
      shared.counters.bytes = config.workers * config.cycles * config.blockSize

section Sum

variable {config : Config} {start : Counters} {inner : Stack} {workers : Nat}

open SharedPool

theorem room_for_one (i : Fin workers) (room : start.live.toNat + workers < UInt64.size) :
    start.live.toNat + 1 < UInt64.size := by
  have hpos := i.pos
  omega

/-- A worker that has ended among others has come as far as it comes alone. -/
theorem finishes_of_ended (apart : inner.Private)
    (room : start.live.toNat + workers < UInt64.size) {schedule : List (Fin workers)}
    {i : Fin workers} (ended : ((first start inner).exec config schedule).HasEnded i) :
    WorkerView.Finishes config (number i) start inner
      (own config start inner i (schedule.count i)) := by
  obtain ⟨result, hresult⟩ := ended
  have akin := (akin_own config apart room schedule i).phase
  have hlong := own_of_ended config (Nat.le_max_left _ (8 * config.cycles.toNat + 1))
    ((akin.ended_iff result).1 hresult)
  rw [← hlong]
  exact WorkerView.finishes config (number i) start inner (room_for_one i room)
    (Nat.le_max_right ..)

/-- A worker that has had enough turns has ended. -/
theorem hasEnded_of_turns (apart : inner.Private)
    (room : start.live.toNat + workers < UInt64.size) {schedule : List (Fin workers)}
    {i : Fin workers} (turns : 8 * config.cycles.toNat + 1 ≤ schedule.count i) :
    ((first start inner).exec config schedule).HasEnded i := by
  have akin := (akin_own config apart room schedule i).phase
  have finishes := WorkerView.finishes config (number i) start inner (room_for_one i room) turns
  exact ⟨_, (akin.ended_iff _).2 finishes.phase⟩

/-- A sum of one word is a product of words. -/
theorem nsmul_word (n : Nat) (word : UInt64) : n • word = UInt64.ofNat n * word := by
  induction n with
  | zero =>
      rw [zero_nsmul]
      exact (UInt64.zero_mul).symm
  | succ n ih =>
      rw [succ_nsmul, ih, UInt64.ofNat_add, UInt64.add_mul]
      exact congrArg _ (UInt64.one_mul _).symm

/-- Workers whose requests are all granted add the same each. -/
theorem sums_all (config : Config) :
    ∑ _i : Fin config.workers.toNat, config.cycles.toNat • ((1, 1, config.blockSize) :
        UInt64 × UInt64 × UInt64) =
      (config.workers * config.cycles, config.workers * config.cycles,
        config.workers * config.cycles * config.blockSize) := by
  rw [Finset.sum_const, Finset.card_univ, Fintype.card_fin]
  simp only [Prod.smul_mk, nsmul_word, UInt64.ofNat_toNat, UInt64.mul_one, UInt64.mul_assoc]

/-- Once all workers have ended, the pool is the sum of them. -/
theorem isSum_of_ended (apart : inner.Private)
    (room : start.live.toNat + config.workers.toNat < UInt64.size)
    {schedule : List (Fin config.workers.toNat)}
    (ended : ∀ i, ((first start inner).exec config schedule).HasEnded i) :
    IsSum config start inner ((first start inner).exec config schedule) := by
  have reached := Reached.exec inner room config schedule
  have akin (i) := akin_own config apart room schedule i
  have finishes (i) := finishes_of_ended apart room (ended i)
  have hsums := sums_exec config apart room schedule
  refine ⟨?_, ?_, ?_, ?_, ?_⟩
  · intro i
    exact ((akin i).phase.ended_iff _).2 (finishes i).phase
  · intro i
    exact (akin i).calls.trans (finishes i).calls
  · have hlive := reached.live
    rw [countedIn_of_ended ended, Finset.card_empty] at hlive
    exact UInt64.toNat_inj.1 hlive
  · rw [hsums]
    refine congrArg (start.sums + ·) (Finset.sum_congr rfl fun i _ => ?_)
    rw [← (finishes i).stack, WorkerView.stack, Stack.shown_push_counting]
  · rintro rfl granted
    have hown (i) : (own config .zero inner i (schedule.count i)).counters.sums -
        Counters.zero.sums = config.cycles.toNat • (1, 1, config.blockSize) := by
      obtain ⟨done, hdone⟩ := granted i
      have hresult := ((akin i).phase.ended_iff _).1 hdone
      have hgranted := Phase.ended.inj ((finishes i).phase.symm.trans hresult)
      rw [(finishes i).sums done hgranted, add_sub_cancel_left]
    rw [Finset.sum_congr rfl fun i _ => hown i, sums_all] at hsums
    have hzero : Counters.zero.sums = 0 := rfl
    rw [hzero, zero_add] at hsums
    exact ⟨congrArg Prod.fst hsums, congrArg (fun sums => sums.2.1) hsums,
      congrArg (fun sums => sums.2.2) hsums⟩

end Sum

/-- The pool is the sum of its workers, in whatever order they take their steps.  The counting
layer starts with room for one block of each worker more, and stands on an allocator that
keeps the calls of threads apart and does not panic.  Then the live blocks are at every moment
those of the workers that have counted their block in and not yet out; whoever has had enough
turns has ended; and once all have ended, each has come to what it comes to alone. -/
theorem pool_is_sum_of_workers (config : Config) (start : Counters) (inner : Stack)
    (apart : inner.Private)
    (room : start.live.toNat + config.workers.toNat < UInt64.size)
    (schedule : List (Fin config.workers.toNat)) :
    let shared := (SharedPool.first start inner).exec config schedule
    shared.counters.live.toNat = start.live.toNat + shared.countedIn.card ∧
      (∀ i, 8 * config.cycles.toNat + 1 ≤ schedule.count i → shared.HasEnded i) ∧
      ((∀ i, shared.HasEnded i) → IsSum config start inner shared) :=
  ⟨(SharedPool.Reached.exec inner room config schedule).live,
    fun _ turns => hasEnded_of_turns apart room turns,
    fun ended => isSum_of_ended apart room ended⟩

/-- Two workers, two blocks each. -/
def Config.two : Config := ⟨2, 2, 16⟩

/-- An allocator that refuses the second request of the second worker. -/
def refusingSecond : Stack :=
  ⟨[.gate (.ofRefusals ⟨some ["worker-1"], none, [], [2], none, none, none⟩ false false)],
    .fresh .claimed (.start .silent)⟩

/-- So many turns of two workers, one after the other. -/
def turns (count : Nat) : List (Fin Config.two.workers.toNat) :=
  (List.replicate count [⟨0, by decide⟩, ⟨1, by decide⟩]).flatten

/-- After five turns each, both workers have counted a block in.  The second one ends after its
refusal, and the first one goes on. -/
theorem two_workers_sum_up :
    refusingSecond.Private ∧ Counters.zero.live.toNat + Config.two.workers.toNat < UInt64.size ∧
      ((SharedPool.first .zero refusingSecond).exec .two (turns 5)).counters = ⟨2, 0, 32, 2, 0⟩ ∧
      ((SharedPool.first .zero refusingSecond).exec .two (turns 17)).counters = ⟨3, 3, 48, 0, 2⟩ ∧
      (alone .two 0 (refusingSecond.push (.counting .zero))).1 = .ok 2 ∧
      (alone .two 1 (refusingSecond.push (.counting .zero))).1 =
        .error (.fault (.allocationFailed 16)) ∧
      IsSum .two .zero refusingSecond
        ((SharedPool.first .zero refusingSecond).exec .two (turns 17)) := by
  have apart : refusingSecond.Private := by
    refine Stack.private_of_gated refusingSecond ?_ ?_ fun _ _ _ => rfl
    · intro layer hlayer
      exact ⟨_, List.mem_singleton.1 hlayer⟩
    · intro gate hgate
      obtain rfl := Layer.gate.inj (List.mem_singleton.1 hgate)
      exact Refusals.rule_ne_panic rfl
  have room : Counters.zero.live.toNat + Config.two.workers.toNat < UInt64.size := by decide
  obtain ⟨-, ends, sum⟩ := pool_is_sum_of_workers .two .zero refusingSecond apart room (turns 17)
  exact ⟨apart, room, by decide, by decide, rfl, rfl, sum fun i => ends i (by revert i; decide)⟩

end Workers
end HeapFixtures
