/-
# The total that was planned

The settings of a pool say how many cycles it is to make, as one product.  Its summary says how
many it has made, as a sum of what was noted for each worker, added up from left to right.  Both
are words or a panic.  Partial sums only grow, so one of them is no word exactly if the whole sum
is none, and the order of the workers does not matter.

A pool that returns a summary has noted the planned cycles for each of the planned workers.  So
the sum is the product, and the two totals are the same word, or neither is a word.
-/

import HeapFixtures.Proofs.Returning

namespace HeapFixtures

namespace Word

variable {words : List UInt64} {total : UInt64}

/-- A checked sum is the sum of the numbers, where that is a word. -/
theorem sum?_eq_some_iff :
    sum? words = some total ↔ total.toNat = (words.map UInt64.toNat).sum := by
  rw [sum?]
  constructor
  · intro h
    simpa using toNat_of_foldlM_add? h
  · intro exact
    have fits : (0 : UInt64).toNat + (words.map UInt64.toNat).sum < UInt64.size := by
      simpa [← exact] using total.toNat_lt_size
    obtain ⟨found, hfound⟩ := exists_foldlM_add? words 0 fits
    have hsum : found.toNat = (words.map UInt64.toNat).sum := by
      simpa using toNat_of_foldlM_add? hfound
    rw [hfound, UInt64.toNat_inj.1 (hsum.trans exact.symm)]

theorem sum?_eq_none_iff : sum? words = none ↔ UInt64.size ≤ (words.map UInt64.toNat).sum := by
  rw [Option.eq_none_iff_forall_ne_some]
  constructor
  · intro absent
    by_contra! fits
    apply absent (UInt64.ofNat (words.map UInt64.toNat).sum)
    rw [sum?_eq_some_iff]
    exact UInt64.toNat_ofNat_of_lt' fits
  · intro exceeds total hsome
    rw [sum?_eq_some_iff] at hsome
    exact absurd total.toNat_lt_size (by omega)

end Word

namespace Workers

/-- The cycles of all workers together, as a number without a bound. -/
def Summary.exactTotal (summary : Summary) : Nat := (summary.cycles.map UInt64.toNat).sum

section Totals

variable {summary other : Summary} {total : UInt64}

theorem Summary.totalCycles_eq_ok_iff :
    summary.totalCycles = .ok total ↔ total.toNat = summary.exactTotal := by
  rw [exactTotal, ← Word.sum?_eq_some_iff, totalCycles]
  cases Word.sum? summary.cycles <;> simp

theorem Summary.totalCycles_eq_error_iff :
    summary.totalCycles = .error .addOverflow ↔ UInt64.size ≤ summary.exactTotal := by
  rw [exactTotal, ← Word.sum?_eq_none_iff, totalCycles]
  cases Word.sum? summary.cycles <;> simp

/-- Summaries with the same exact total have the same total. -/
theorem Summary.totalCycles_congr (h : summary.exactTotal = other.exactTotal) :
    summary.totalCycles = other.totalCycles := by
  by_cases exceeds : UInt64.size ≤ other.exactTotal
  · rw [totalCycles_eq_error_iff.2 exceeds]
    exact totalCycles_eq_error_iff.2 (h.symm ▸ exceeds)
  · have hword : (UInt64.ofNat other.exactTotal).toNat = other.exactTotal :=
      UInt64.toNat_ofNat_of_lt' (Nat.not_le.1 exceeds)
    rw [totalCycles_eq_ok_iff.2 hword]
    exact totalCycles_eq_ok_iff.2 (hword.trans h.symm)

/-- The order of the workers makes no difference to a total. -/
theorem Summary.exactTotal_perm (perm : summary.cycles.Perm other.cycles) :
    summary.exactTotal = other.exactTotal :=
  (perm.map UInt64.toNat).sum_eq

end Totals

section Run

variable {config : Config} {hook : Hook} {surroundings : Surroundings} {stack : Stack}
  {outcomes noted : Pool.Outcomes} {order : List Nat} {pool after : Pool} {summary : Summary}
  {count : Nat} {first : Option Fault}

/-- Each worker that is in the order has come to an outcome. -/
theorem isSome_lookup_workAll
    (hok : (Pool.workAll config hook order noted pool).1 = .ok outcomes) {index : Nat}
    (known : index ∈ order ∨ (noted.lookup index).isSome) : (outcomes.lookup index).isSome := by
  induction order generalizing noted pool with
  | nil =>
      obtain rfl := Except.ok.inj hok
      exact known.resolve_left List.not_mem_nil
  | cons number rest ih =>
      rw [Pool.workAll] at hok
      split at hok
      next => cases hok
      next outcome worked _ =>
        apply ih hok
        rw [List.lookup_cons]
        by_cases h : index = number
        · exact .inr (by simp [h])
        · rw [beq_false_of_ne h]
          exact known.imp_left fun mem => (List.mem_cons.1 mem).resolve_left h

/-- If no worker has failed, the pool has noted the planned cycles for each of them. -/
theorem cyclesAt_of_no_failure (emerged : ∀ entry ∈ outcomes, Emerges config hook entry.2)
    {index : Nat} (known : (outcomes.lookup index).isSome)
    (unfailed : failureAt outcomes index = none) :
    cyclesAt outcomes index = some config.cycles := by
  obtain ⟨outcome, hlookup⟩ := Option.isSome_iff_exists.1 known
  obtain ⟨_, _, hentry, -⟩ := List.lookup_eq_some_iff.1 hlookup
  have hemerges := emerged (index, outcome) (by rw [hentry]; simp)
  rw [failureAt, hlookup] at unfailed
  rw [cyclesAt, hlookup]
  cases hemerges with
  | completed => rfl
  | failed fault => cases unfailed
  | panicked panic => cases unfailed
  | ended ends => cases unfailed

/-- A run that ends with a summary has let all its workers work, and none has failed. -/
theorem cycles_of_finish (perm : (surroundings.order count).Perm (List.range count))
    (hok : (finish config surroundings count first pool).1 = .ok summary) :
    first = none ∧ summary.cycles = List.replicate count config.cycles := by
  obtain ⟨exit, -, hwork⟩ | ⟨outcomes, hwork, emerged⟩ :=
    emerges_workAll config surroundings.hook (surroundings.order count) (List.forall_mem_nil _) pool
  · rw [finish] at hok
    split at hok
    next => cases hok
    next hother =>
      rw [hother] at hwork
      cases hwork
  · obtain ⟨joined, -, -, heq⟩ := finish_eq first pool hwork
    rw [heq] at hok
    split at hok
    next => cases hok
    next hnone =>
      obtain ⟨unrefused, unfailed⟩ := Option.or_eq_none_iff.1 hnone
      have hcycles : ∀ index ∈ List.range count,
          cyclesAt outcomes index = (some ∘ fun _ => config.cycles) index := by
        intro index hindex
        apply cyclesAt_of_no_failure emerged
        · exact isSome_lookup_workAll hwork (.inl (perm.mem_iff.2 hindex))
        · exact List.findSome?_eq_none_iff.1 unfailed index hindex
      rw [List.filterMap_congr hcycles, List.filterMap_eq_map, List.map_const',
        List.length_range, fst_conclude] at hok
      refine ⟨unrefused, ?_⟩
      rw [totalled] at hok
      split at hok
      next =>
        split at hok
        next => rw [← Except.ok.inj hok]
        next => cases hok
      next => rw [← Except.ok.inj hok]

/-- If no thread was refused, all workers were started. -/
theorem eq_add_of_spawned {refusal : Nat → Option IoError} {left index : Nat}
    (h : spawned refusal left index = (count, none)) : count = index + left := by
  induction left generalizing index with
  | zero => exact (congrArg Prod.fst h).symm
  | succ left ih =>
      rw [spawned] at h
      split at h
      next => cases h
      next =>
        rw [ih h]
        omega

/-- A pool that returns a summary has noted the planned cycles for each of the planned workers. -/
theorem cycles_of_run (orderly : ∀ count, (surroundings.order count).Perm (List.range count))
    (hok : (run config surroundings stack).1 = .ok summary) :
    summary.cycles = List.replicate config.workers.toNat config.cycles := by
  rw [run] at hok
  dsimp only at hok
  split at hok
  next => cases hok
  next =>
    -- without room for the handles, or memory, the run ends before its first worker
    split_ifs at hok with crowded poor
    · cases hok
    · split at hok
      next count hspawned =>
        obtain rfl : count = config.workers.toNat := by
          rw [eq_add_of_spawned hspawned, Nat.zero_add]
        exact (cycles_of_finish (orderly _) hok).2
      next count error _ =>
        -- a refused thread would have been the answer
        split at hok
        next => cases hok
        next fault pool _ => cases (cycles_of_finish (orderly count) hok).1

end Run

/-- What a pool has achieved is what its settings have planned: as many workers, and the same
total, or no total for want of a word. -/
structure Achieves (config : Config) (summary : Summary) : Prop where
  workers_eq : summary.workers = config.workers.toNat
  within : config.workers.toNat * config.cycles.toNat < UInt64.size →
    ∃ total : UInt64, total.toNat = config.workers.toNat * config.cycles.toNat ∧
      config.totalCycles = .ok total ∧ summary.totalCycles = .ok total
  beyond : UInt64.size ≤ config.workers.toNat * config.cycles.toNat →
    config.totalCycles = .error .mulOverflow ∧ summary.totalCycles = .error .addOverflow

/-- The planned total is the product, where that is a word. -/
theorem Config.totalCycles_eq (config : Config) :
    config.totalCycles =
      if config.workers.toNat * config.cycles.toNat < UInt64.size then
        .ok (config.workers * config.cycles)
      else .error .mulOverflow := by
  rw [totalCycles, Word.mul?]
  by_cases fits : config.workers.toNat * config.cycles.toNat < UInt64.size
  · rw [if_pos fits, if_pos fits]
  · rw [if_neg fits, if_neg fits]

theorem achieves_of_cycles {config : Config} {summary : Summary}
    (cycles : summary.cycles = List.replicate config.workers.toNat config.cycles) :
    Achieves config summary := by
  have hexact : summary.exactTotal = config.workers.toNat * config.cycles.toNat := by
    simp [Summary.exactTotal, cycles]
  constructor
  case workers_eq =>
    rw [Summary.workers, cycles, List.length_replicate]
  case within =>
    intro fits
    have hproduct : (config.workers * config.cycles).toNat =
        config.workers.toNat * config.cycles.toNat :=
      Word.toNat_of_mul? (Word.mul?_eq_some_iff.2 ⟨fits, rfl⟩)
    refine ⟨_, hproduct, ?_, ?_⟩
    · rw [config.totalCycles_eq, if_pos fits]
    · exact Summary.totalCycles_eq_ok_iff.2 (hproduct.trans hexact.symm)
  case beyond =>
    intro exceeds
    constructor
    · rw [config.totalCycles_eq, if_neg (Nat.not_lt.2 exceeds)]
    · exact Summary.totalCycles_eq_error_iff.2 (hexact.symm ▸ exceeds)

/-- A pool that returns a summary, whatever its allocator, its hook and the order in which its
workers come to their ends, has as many workers as planned.  The total of its cycles and the planned
one are the same word, or both are a panic over an overflow.

Of any list of cycles the total is the exact sum where that is a word, and a panic where it is not,
in whatever order the workers stand. -/
theorem planned_total_is_achieved :
    (∀ (config : Config) (surroundings : Surroundings) (stack : Stack) (summary : Summary),
        (∀ count, (surroundings.order count).Perm (List.range count)) →
        (run config surroundings stack).1 = .ok summary → Achieves config summary) ∧
      ∀ summary : Summary,
        (∀ total, summary.totalCycles = .ok total ↔
          total.toNat = (summary.cycles.map UInt64.toNat).sum) ∧
        (summary.totalCycles = .error .addOverflow ↔
          UInt64.size ≤ (summary.cycles.map UInt64.toNat).sum) ∧
        ∀ other : Summary, summary.cycles.Perm other.cycles →
          summary.totalCycles = other.totalCycles := by
  constructor
  · intro config surroundings stack summary orderly hok
    exact achieves_of_cycles (cycles_of_run orderly hok)
  · intro summary
    refine ⟨fun total => Summary.totalCycles_eq_ok_iff, Summary.totalCycles_eq_error_iff, ?_⟩
    intro other perm
    exact Summary.totalCycles_congr (Summary.exactTotal_perm perm)

/-- Two workers with two cycles each have a total, and two with half of all words each have none,
neither before nor after they have made them. -/
theorem totals_of_small_and_endless_pools :
    let stack : Stack := ⟨[], .fresh .claimed (.start .silent)⟩
    (∃ summary, (run ⟨2, 2, 16⟩ .reversed stack).1 = .ok summary ∧
        summary.totalCycles = .ok 4 ∧ Config.totalCycles ⟨2, 2, 16⟩ = .ok 4) ∧
      ∃ summary, (run .endless .plain stack).1 = .ok summary ∧
        summary.totalCycles = .error .addOverflow ∧
        Config.endless.totalCycles = .error .mulOverflow := by
  intro stack
  have lavish : stack.Lavish := ⟨rfl, fun _ _ => rfl⟩
  have hendless : (run .endless .plain stack).1 =
      .ok ⟨List.replicate Config.endless.workers.toNat Config.endless.cycles⟩ :=
    fst_run_of_lavish .endless rfl (by decide) (by decide) lavish .silent
  have hsmall : (run ⟨2, 2, 16⟩ .reversed stack).1 = .ok ⟨[2, 2]⟩ := by decide
  obtain ⟨achieved, -⟩ := planned_total_is_achieved
  have small := achieved _ _ _ _ (fun count => List.reverse_perm _) hsmall
  have endless := achieved _ _ _ _ (fun count => List.Perm.refl _) hendless
  refine ⟨⟨_, hsmall, ?_⟩, ⟨_, hendless, ?_⟩⟩
  · obtain ⟨total, hproduct, hplanned, hmade⟩ := small.within (by decide)
    obtain rfl : total = 4 := UInt64.toNat_inj.1 hproduct
    exact ⟨hmade, hplanned⟩
  · exact (endless.beyond (by decide)).symm

end Workers
end HeapFixtures
