/-
# The failures of a pool

The program lets the workers of a pool come to their ends one after another, in any order, and
then takes up what they have come to in the order of their numbers.  What it returns is the
failure of the worker with the lowest number among those that failed, or the cycles of all
workers if none has.  A worker that fails keeps no other from its work.

If the system refuses a thread, the refusal takes precedence over all failures, and the
workers that were started before it do all their work still.
-/

import HeapFixtures.Proofs.WorkerReports
import Mathlib.Algebra.GroupWithZero.Nat

namespace HeapFixtures

/-- Words add up from left to right if there is a word for the sum of their numbers. -/
theorem Word.exists_foldlM_add? (words : List UInt64) (first : UInt64)
    (h : first.toNat + (words.map UInt64.toNat).sum < UInt64.size) :
    ∃ total, words.foldlM Word.add? first = some total := by
  induction words generalizing first with
  | nil => exact ⟨first, rfl⟩
  | cons word words ih =>
      rw [List.map_cons, List.sum_cons, ← Nat.add_assoc] at h
      have hadd : Word.add? first word = some (first + word) :=
        Word.add?_eq_some_iff.2 ⟨by omega, rfl⟩
      rw [List.foldlM_cons, hadd]
      exact ih (first + word) (by rw [Word.toNat_of_add? hadd]; exact h)

namespace Workers

/-- The fault that the pool makes of a worker's outcome. -/
def failureAt (outcomes : Pool.Outcomes) (index : Nat) : Option Fault :=
  (outcomes.lookup index).bind (Pool.failure? index)

/-- The cycles that the pool notes for a worker. -/
def cyclesAt (outcomes : Pool.Outcomes) (index : Nat) : Option UInt64 :=
  (outcomes.lookup index).bind Except.toOption

/-- The first failure below a number. -/
def firstFailure (failures : Nat → Option Fault) (count : Nat) : Option Fault :=
  (List.range count).findSome? failures

theorem firstFailure_succ (failures : Nat → Option Fault) (count : Nat) :
    firstFailure failures (count + 1) = (firstFailure failures count).or (failures count) := by
  unfold firstFailure
  rw [List.range_succ, List.findSome?_append]
  cases h : failures count with
  | none => simp [h]
  | some fault => simp [h]

theorem firstFailure_congr {failures others : Nat → Option Fault} {count : Nat}
    (h : ∀ index < count, failures index = others index) :
    firstFailure failures count = firstFailure others count := by
  induction count with
  | zero => rfl
  | succ count ih =>
      rw [firstFailure_succ, firstFailure_succ, h count (Nat.lt_succ_self count),
        ih fun index hindex => h index (Nat.lt_succ_of_lt hindex)]

section Join

variable {outcomes : Pool.Outcomes} {config : Config} {hook : Hook} {reports : List Report}
  {report : Report}

/-- The pool collects the first failure and all cycles in the order of the numbers. -/
theorem join_eq (outcomes : Pool.Outcomes) (indices : List Nat) (first : Option Fault)
    (done : List UInt64) (pool : Pool) :
    ∃ after, Pool.join outcomes indices first done pool =
        ((first.or (indices.findSome? (failureAt outcomes)),
          done.reverse ++ indices.filterMap (cyclesAt outcomes)), after) ∧
      pool.stack.History [] after.stack ∧ after.shown = pool.shown := by
  induction indices generalizing first done pool with
  | nil => exact ⟨pool, by simp [Pool.join], .nil _, rfl⟩
  | cons index rest ih =>
      have hfind : (index :: rest).findSome? (failureAt outcomes) =
          (failureAt outcomes index).or (rest.findSome? (failureAt outcomes)) := by
        rw [List.findSome?_cons]
        cases failureAt outcomes index <;> rfl
      rw [hfind, ← Option.or_assoc, List.filterMap_cons]
      unfold Pool.join
      rcases houtcome : outcomes.lookup index with _ | (stop | count)
      · have hfailure : failureAt outcomes index = none := by rw [failureAt, houtcome]; rfl
        have hcycles : cyclesAt outcomes index = none := by rw [cyclesAt, houtcome]; rfl
        rw [hfailure, hcycles, Option.or_none]
        exact ih first done pool
      · have hfailure : failureAt outcomes index = Pool.failure? index (.error stop) := by
          rw [failureAt, houtcome]
          rfl
        have hcycles : cyclesAt outcomes index = none := by rw [cyclesAt, houtcome]; rfl
        rw [hfailure, hcycles]
        exact ih (first.or (Pool.failure? index (.error stop))) done pool
      · have hfailure : failureAt outcomes index = none := by rw [failureAt, houtcome]; rfl
        have hcycles : cyclesAt outcomes index = some count := by rw [cyclesAt, houtcome]; rfl
        obtain ⟨after, heq, haside, hshown⟩ := ih first (count :: done)
          (pool.emit .main .debug "worker joined"
            [("index", .word index.toUInt64), ("cycles", .word count)])
        refine ⟨after, ?_, .aside (Stack.aside_emit ..) haside, hshown⟩
        rw [hfailure, hcycles, Option.or_none]
        simpa using heq

/-- A worker that comes back lets the others work. -/
theorem workAll_cons {index : Nat} {rest : List Nat} {fate : Fate} {pool : Pool}
    (returns : fate.Returns config.cycles (pool.work config hook index.toUInt64).1) :
    Pool.workAll config hook (index :: rest) outcomes pool =
      Pool.workAll config hook rest
        ((index, (pool.work config hook index.toUInt64).1) :: outcomes)
        (pool.work config hook index.toUInt64).2 := by
  rcases hwork : pool.work config hook index.toUInt64 with ⟨outcome, after⟩
  rw [hwork] at returns
  simp only [Pool.workAll, hwork]
  cases returns <;> rfl

/-- The outcomes are those that the reports tell of. -/
def Entered (config : Config) (reports : List Report) (outcomes : Pool.Outcomes) : Prop :=
  ∀ report ∈ reports, ∃ outcome, outcomes.lookup report.index = some outcome ∧
    report.fate.Returns config.cycles outcome

/-- All workers work, in whatever order. -/
theorem exists_workAll (tame : Tame hook) (config : Config) {order : List Nat}
    (once : order.Nodup) (noted : Pool.Outcomes) (pool : Pool) :
    ∃ reports outcomes, (Pool.workAll config hook order noted pool).1 = .ok outcomes ∧
      reports.map Report.index = order ∧
      Worked config hook pool reports (Pool.workAll config hook order noted pool).2 ∧
      Entered config reports outcomes ∧
      ∀ index ∉ order, outcomes.lookup index = noted.lookup index := by
  induction order generalizing noted pool with
  | nil =>
      exact ⟨[], noted, rfl, rfl, .of_aside (.nil _) rfl, List.forall_mem_nil _, fun _ _ => rfl⟩
  | cons index rest ih =>
      obtain ⟨hindex, hrest⟩ := List.nodup_cons.1 once
      obtain ⟨report, rfl, worked, returns⟩ := told_work tame config pool index
      rw [workAll_cons returns]
      obtain ⟨reports, outcomes, hok, hmap, hworked, entered, hothers⟩ := ih hrest
        ((report.index, (pool.work config hook report.index.toUInt64).1) :: noted)
        (pool.work config hook report.index.toUInt64).2
      refine ⟨report :: reports, outcomes, hok, congrArg (report.index :: ·) hmap,
        worked.append hworked, List.forall_mem_cons.2 ⟨⟨_, ?_, returns⟩, entered⟩, ?_⟩
      · rw [hothers report.index hindex, List.lookup_cons_self]
      · intro other hother
        rw [List.mem_cons, not_or] at hother
        rw [hothers other hother.2, List.lookup_cons, beq_false_of_ne hother.1]

/-- The pool takes a worker's failure from its fate. -/
theorem failureAt_of_entered (entered : Entered config reports outcomes)
    (h : report ∈ reports) : failureAt outcomes report.index = report.failure? := by
  obtain ⟨outcome, hlookup, returns⟩ := entered report h
  obtain ⟨index, dealings, met, fate⟩ := report
  rw [failureAt, hlookup]
  cases returns <;> rfl

theorem cyclesAt_of_entered (entered : Entered config reports outcomes)
    (h : report ∈ reports) (completed : report.fate = .completed) :
    cyclesAt outcomes report.index = some config.cycles := by
  obtain ⟨outcome, hlookup, returns⟩ := entered report h
  rw [completed] at returns
  rw [cyclesAt, hlookup]
  cases returns
  rfl

/-- The first failure among numbers is that of the lowest number. -/
theorem findSome?_range {f : Nat → Option Fault} {index count : Nat} {fault : Fault}
    (hlt : index < count) (here : f index = some fault) (before : ∀ i < index, f i = none) :
    (List.range count).findSome? f = some fault := by
  obtain ⟨rest, rfl⟩ : ∃ rest, count = index + (rest + 1) := ⟨count - (index + 1), by omega⟩
  have hsplit : List.range (index + (rest + 1)) =
      List.range index ++ index :: ((List.range rest).map Nat.succ).map (index + ·) := by
    rw [List.range_add, List.range_succ_eq_map]
    rfl
  exact List.findSome?_eq_some_iff.2
    ⟨_, index, _, hsplit, here, fun i hi => before i (List.mem_range.1 hi)⟩

/-- The reports are those of the workers with the numbers below a count. -/
def Covers (count : Nat) (reports : List Report) : Prop :=
  ∀ index, index < count ↔ ∃ report ∈ reports, report.index = index

theorem covers_of_perm {count : Nat} {order : List Nat}
    (hmap : reports.map Report.index = order) (perm : order.Perm (List.range count)) :
    Covers count reports := by
  intro index
  rw [← List.mem_range, ← perm.mem_iff, ← hmap, List.mem_map]

theorem failure?_eq_none_iff : report.failure? = none ↔ report.fate = .completed := by
  obtain ⟨index, dealings, met, fate⟩ := report
  cases fate <;> simp [Report.failure?]

section Covers

variable {count : Nat} {failures : Nat → Option Fault}

/-- There is a first failure unless all workers have completed. -/
theorem firstFailure_eq_none_iff
    (agree : ∀ report ∈ reports, failures report.index = report.failure?)
    (covers : Covers count reports) :
    firstFailure failures count = none ↔ ∀ report ∈ reports, report.fate = .completed := by
  rw [firstFailure, List.findSome?_eq_none_iff]
  constructor
  · intro hnone report hreport
    have hbelow := List.mem_range.2 ((covers report.index).2 ⟨report, hreport, rfl⟩)
    rw [← failure?_eq_none_iff, ← agree report hreport]
    exact hnone report.index hbelow
  · intro completed index hindex
    obtain ⟨report, hreport, rfl⟩ := (covers index).1 (List.mem_range.1 hindex)
    rw [agree report hreport, failure?_eq_none_iff]
    exact completed report hreport

/-- The first failure is that of the lowest worker that failed. -/
theorem firstFailure_of_lowest
    (agree : ∀ report ∈ reports, failures report.index = report.failure?)
    (covers : Covers count reports) (h : report ∈ reports) {fault : Fault}
    (failure : report.failure? = some fault)
    (lowest : ∀ other ∈ reports, other.index < report.index → other.fate = .completed) :
    firstFailure failures count = some fault := by
  have hbelow := (covers report.index).2 ⟨report, h, rfl⟩
  refine findSome?_range hbelow ((agree report h).trans failure) ?_
  intro index hindex
  obtain ⟨other, hother, rfl⟩ := (covers index).1 (hindex.trans hbelow)
  rw [agree other hother, failure?_eq_none_iff]
  exact lowest other hother hindex

/-- The cycles of workers that have all completed. -/
theorem filterMap_cyclesAt (entered : Entered config reports outcomes)
    (covers : Covers count reports) (completed : ∀ report ∈ reports, report.fate = .completed) :
    (List.range count).filterMap (cyclesAt outcomes) = List.replicate count config.cycles := by
  have hcycles : ∀ index ∈ List.range count,
      cyclesAt outcomes index = (some ∘ fun _ => config.cycles) index := by
    intro index hindex
    obtain ⟨report, hreport, rfl⟩ := (covers index).1 (List.mem_range.1 hindex)
    exact cyclesAt_of_entered entered hreport (completed report hreport)
  rw [List.filterMap_congr hcycles, List.filterMap_eq_map, List.map_const', List.length_range]

end Covers

end Join

section Finish

variable {config : Config} {surroundings : Surroundings} {count : Nat}

/-- A pool that has only completed workers to tell of returns their cycles.  The total of them
is a word. -/
theorem conclude_replicate (config : Config)
    (few : count * config.cycles.toNat < UInt64.size) (pool : Pool) :
    ∃ after, conclude (List.replicate count config.cycles) pool =
        (.ok ⟨List.replicate count config.cycles⟩, after) ∧
      pool.stack.History [] after.stack ∧ after.shown = pool.shown := by
  obtain ⟨total, htotal⟩ := Word.exists_foldlM_add? (List.replicate count config.cycles) 0
    (by simpa using few)
  have htotal' : Summary.totalCycles ⟨List.replicate count config.cycles⟩ = .ok total := by
    rw [Summary.totalCycles, Word.sum?, htotal]
  unfold conclude
  dsimp only
  split
  · rw [htotal']
    exact ⟨_, rfl, (Stack.aside_emit ..).history, rfl⟩
  · exact ⟨pool, rfl, .nil _, rfl⟩

/-- The part of a run after the workers have worked. -/
theorem finish_eq {outcomes : Pool.Outcomes} (first : Option Fault) (pool : Pool)
    (hok : (Pool.workAll config surroundings.hook (surroundings.order count) [] pool).1 =
      .ok outcomes) :
    ∃ joined, (Pool.workAll config surroundings.hook (surroundings.order count) []
          pool).2.stack.History [] joined.stack ∧
      joined.shown = (Pool.workAll config surroundings.hook (surroundings.order count) []
        pool).2.shown ∧
      finish config surroundings count first pool =
        match first.or ((List.range count).findSome? (failureAt outcomes)) with
        | some fault => (.error (.fault fault), joined)
        | none => conclude ((List.range count).filterMap (cyclesAt outcomes)) joined := by
  unfold finish
  rcases hwork : Pool.workAll config surroundings.hook (surroundings.order count) [] pool
    with ⟨result, worked⟩
  rw [hwork] at hok
  obtain rfl : result = .ok outcomes := hok
  obtain ⟨joined, heq, haside, hshown⟩ := join_eq outcomes (List.range count) first [] worked
  refine ⟨joined, haside, hshown, ?_⟩
  simp only [heq]
  cases first.or ((List.range count).findSome? (failureAt outcomes)) <;> rfl

end Finish

/-- Workers whose threads are granted are started one after the other. -/
theorem spawned_add (refusal : Nat → Option IoError) (rest count index : Nat)
    (granted : ∀ i < count, refusal (index + i) = none) :
    spawned refusal (rest + count) index = spawned refusal rest (index + count) := by
  induction count generalizing index with
  | zero => rfl
  | succ count ih =>
      have hfirst : refusal index = none := granted 0 (Nat.succ_pos count)
      have hrest : ∀ i < count, refusal (index + 1 + i) = none := by
        intro i hi
        rw [Nat.add_right_comm]
        exact granted (i + 1) (Nat.succ_lt_succ hi)
      rw [← Nat.add_assoc, spawned, hfirst]
      simp only
      rw [ih (index + 1) hrest, Nat.add_right_comm, Nat.add_assoc]

/-- No more threads are asked for than there are workers. -/
theorem spawned_le (refusal : Nat → Option IoError) (left index : Nat) :
    (spawned refusal left index).1 ≤ index + left := by
  induction left generalizing index with
  | zero => exact le_rfl
  | succ left ih =>
      rw [spawned]
      split
      · exact Nat.le_add_right _ _
      · exact (ih (index + 1)).trans (by omega)

theorem le_of_spawned {refusal : Nat → Option IoError} {workers count : Nat}
    {error? : Option IoError} (h : spawned refusal workers 0 = (count, error?)) :
    count ≤ workers := by
  have hle := spawned_le refusal workers 0
  rwa [h, Nat.zero_add] at hle

section Run

variable {config : Config} {surroundings : Surroundings} {stack : Stack} {count : Nat}

/-- All threads are granted. -/
theorem spawned_all (granted : ∀ index < count, surroundings.refusal index = none) :
    spawned surroundings.refusal count 0 = (count, none) := by
  have hall := spawned_add surroundings.refusal 0 count 0 fun i hi => by
    rw [Nat.zero_add]
    exact granted i hi
  rw [Nat.zero_add] at hall
  rw [hall]
  rfl

/-- The first thread that is refused. -/
theorem spawned_refused {workers : Nat} {error : IoError} (hcount : count < workers)
    (refused : surroundings.refusal count = some error)
    (granted : ∀ index < count, surroundings.refusal index = none) :
    spawned surroundings.refusal workers 0 = (count, some error) := by
  obtain ⟨rest, rfl⟩ : ∃ rest, workers = rest + 1 + count := ⟨workers - (count + 1), by omega⟩
  have hstart := spawned_add surroundings.refusal (rest + 1) count 0 fun i hi => by
    rw [Nat.zero_add]
    exact granted i hi
  rw [Nat.zero_add] at hstart
  rw [hstart, spawned, refused]

/-- The pool shows the refusal of a thread to the hook, which comes back or not. -/
theorem reportRefusal_eq (hook : Hook) (index : Nat) (error : IoError) (pool : Pool) :
    ∃ journal after, pool.stack.History [] after.stack ∧
      after.shown.toList =
        pool.shown.toList ++ [(.main, .threadCreateFailed index.toUInt64 error)] ∧
      reportRefusal hook index error pool =
        match (hook .main (.threadCreateFailed index.toUInt64 error) journal).1 with
        | none => (.ok (.threadCreateFailed index.toUInt64 error), after)
        | some stop => (.error stop, after) := by
  let noted := pool.emit .main .error "failed to spawn worker"
    [("index", .word index.toUInt64), ("error", .shown error.message)]
  obtain ⟨after, hpresent, haside, hshown⟩ :=
    present_eq noted hook .main (.threadCreateFailed index.toUInt64 error)
  refine ⟨noted.stack.site.journal, after, .aside (Stack.aside_emit ..) haside, hshown, ?_⟩
  simp only [reportRefusal]
  rw [hpresent]
  cases (hook .main (.threadCreateFailed index.toUInt64 error) noted.stack.site.journal).1 <;> rfl

/-- A pool before its first thread. -/
def opened (config : Config) (stack : Stack) : Pool :=
  Pool.emit ⟨stack, #[]⟩ .main .info "threaded fixture started"
    [("workers", .word config.workers), ("cycles", .word config.cycles),
      ("block_size", .word config.blockSize)]

theorem run_eq (valid : config.validate = .ok ())
    (room : hasRoomForHandles config.workers = true)
    (memory : surroundings.lacks (handlesSize config.workers) = false) :
    run config surroundings stack =
      match spawned surroundings.refusal config.workers.toNat 0 with
      | (count, none) => finish config surroundings count none (opened config stack)
      | (count, some error) =>
        match reportRefusal surroundings.hook count error (opened config stack) with
        | (.error stop, pool) => (.error stop, pool)
        | (.ok fault, pool) => finish config surroundings count (some fault) pool := by
  simp only [run, valid, room, memory, Bool.not_true, Bool.false_eq_true, if_false]
  rfl

end Run

/-- Three workers, two blocks each. -/
def Config.three : Config := ⟨3, 2, 16⟩

/-- Workers come to their ends from the last one to the first. -/
def Surroundings.reversed : Surroundings :=
  { Surroundings.plain with order := fun count => (List.range count).reverse }

/-- An allocator that refuses the second request of one worker, and panics over the first of
another. -/
def troubled : Stack :=
  ⟨[.gate (.ofRefusals ⟨some ["worker-1"], none, [], [2], none, none, none⟩ false false),
      .gate (.ofRefusals ⟨some ["worker-2"], none, [1], [], none, none, none⟩ false false)],
    .fresh .claimed (.start .silent)⟩

end Workers
end HeapFixtures
