/-
# One worker of a pool

A worker of a pool asks for all its blocks or stops at the first that it does not get.  If it
stopped at a resource fault, the hook sees the fault and may panic in its turn, which is then
the worker's own panic.  A report says of one worker what it asked for, what it met, and what
the hook left of that; reports of several workers add up.
-/

import HeapFixtures.Proofs.Working

namespace HeapFixtures
namespace Workers

/-- What becomes of a worker. -/
inductive Fate
  | completed
  | failed (fault : Fault)
  | panicked
  deriving DecidableEq

/-- What a worker returns according to its fate, if it returns a value after its work. -/
inductive Fate.Returns {α : Type} (value : α) : Fate → Except Stop α → Prop
  | completed : Returns value .completed (.ok value)
  | failed (fault : Fault) : Returns value (.failed fault) (.error (.fault fault))
  | panicked (panic : Panic) : Returns value .panicked (.error (.panic panic))

theorem Fate.Returns.map {α β : Type} {value : α} {fate : Fate} {result : Except Stop α}
    (h : fate.Returns value result) (other : β) :
    fate.Returns other (result.map fun _ => other) := by
  cases h with
  | completed => exact .completed
  | failed fault => exact .failed fault
  | panicked panic => exact .panicked panic

/-- All dealings of a worker and what they come to: each block is given back before the next
one is asked for, and only a request that is not granted ends the work early. -/
inductive Performs (thread : Thread) (size : UInt64) : Nat → List Dealing → Fate → Prop
  | done : Performs thread size 0 [] .completed
  | cycle {left : Nat} {dealings : List Dealing} {fate : Fate} (block : Block)
      (rest : Performs thread size left dealings fate) :
      Performs thread size (left + 1)
        (.allocate thread size (.ok block) :: .release thread block :: dealings) fate
  | failed (left : Nat) (fault : Fault) :
      Performs thread size (left + 1) [.allocate thread size (.error (.fault fault))]
        (.failed fault)
  | panicked (left : Nat) (panic : Panic) :
      Performs thread size (left + 1) [.allocate thread size (.error (.panic panic))] .panicked

/-- The dealings of a worker's cycles are all that it has to do. -/
theorem performs_cycles (thread : Thread) (size : UInt64) (left : Nat) (stack : Stack) :
    ∃ fate, Performs thread size left (dealings thread size left stack) fate ∧
      fate.Returns () (cycles thread size left stack).1 := by
  induction left generalizing stack with
  | zero => exact ⟨.completed, .done, .completed⟩
  | succ left ih =>
      rcases hcall : stack.allocate thread size with ⟨answer, between⟩
      have hallocates := Stack.allocates_of_allocate hcall
      cases hallocates with
      | @granted block counted heap =>
          obtain ⟨fate, performs, returns⟩ := ih (between.release thread block)
          rw [dealings_of_granted left hcall, cycles_of_granted left hcall]
          exact ⟨fate, .cycle block performs, returns⟩
      | @refused fault counted heap =>
          rw [dealings_of_stopped left hcall, cycles_of_stopped left hcall]
          exact ⟨.failed fault, .failed left fault, .failed fault⟩
      | @panicked panic blame =>
          rw [dealings_of_stopped left hcall, cycles_of_stopped left hcall]
          exact ⟨.panicked, .panicked left panic, .panicked panic⟩

/-- A worker does all that it has to do. -/
theorem performs_requests (thread : Thread) (index count size : UInt64) (stack : Stack) :
    ∃ fate, Performs thread size count.toNat (requests thread index count size stack) fate ∧
      fate.Returns count (runWorker thread index count size stack).1 := by
  obtain ⟨fate, performs, returns⟩ :=
    performs_cycles thread size count.toNat (announced thread index count stack)
  rw [runWorker_eq]
  exact ⟨fate, performs, returns.map count⟩

/-- What is left of a worker's fate once the hook has seen the fault that it met, if it met a
resource fault. -/
inductive Fate.Becomes (hook : Hook) (thread : Thread) : Fate → Fate → Prop
  | completed : Becomes hook thread .completed .completed
  | panicked : Becomes hook thread .panicked .panicked
  | unseen {fault : Fault} (plain : fault.isResource = false) :
      Becomes hook thread (.failed fault) (.failed fault)
  | returned {fault : Fault} {journal : Log.Journal} (resource : fault.isResource = true)
      (seen : (hook thread fault journal).1 = none) :
      Becomes hook thread (.failed fault) (.failed fault)
  | raised {fault : Fault} {journal : Log.Journal} {panic : Panic}
      (resource : fault.isResource = true)
      (seen : (hook thread fault journal).1 = some (.panic panic)) :
      Becomes hook thread (.failed fault) .panicked

/-- The hook returns or panics, and does not end the process. -/
def Tame (hook : Hook) : Prop :=
  ∀ thread fault journal stop, (hook thread fault journal).1 = some stop →
    ∃ panic, stop = .panic panic

/-- What is to be said of a worker. -/
structure Report where
  index : Nat
  dealings : List Dealing
  /-- What the worker met with the allocator. -/
  met : Fate
  /-- What the hook left of it. -/
  fate : Fate

namespace Report

def thread (report : Report) : Thread := .worker report.index.toUInt64

/-- What the hook was shown. -/
def shown? (report : Report) : Option (Thread × Fault) :=
  match report.met with
  | .failed fault => if fault.isResource then some (report.thread, fault) else none
  | _ => none

/-- The worker's failure as the pool returns it. -/
def failure? (report : Report) : Option Fault :=
  match report.fate with
  | .completed => none
  | .failed fault => some fault
  | .panicked => some (.workerPanicked report.index.toUInt64)

end Report

/-- The reports tell all that has happened to a pool. -/
structure Worked (config : Config) (hook : Hook) (before : Pool) (reports : List Report)
    (after : Pool) : Prop where
  performs : ∀ report ∈ reports,
    Performs report.thread config.blockSize config.cycles.toNat report.dealings report.met
  becomes : ∀ report ∈ reports, report.met.Becomes hook report.thread report.fate
  history : before.stack.History (reports.flatMap Report.dealings) after.stack
  shown : after.shown.toList = before.shown.toList ++ reports.filterMap Report.shown?

section Worked

variable {config : Config} {hook : Hook} {before between after : Pool}
  {reports rest : List Report} {report : Report}

/-- Nothing has happened. -/
theorem Worked.of_aside (history : before.stack.History [] after.stack)
    (shown : after.shown = before.shown) : Worked config hook before [] after :=
  ⟨List.forall_mem_nil _, List.forall_mem_nil _, history, by rw [shown]; simp⟩

theorem Worked.append (h : Worked config hook before reports between)
    (h' : Worked config hook between rest after) :
    Worked config hook before (reports ++ rest) after := by
  refine ⟨List.forall_mem_append.2 ⟨h.performs, h'.performs⟩,
    List.forall_mem_append.2 ⟨h.becomes, h'.becomes⟩, ?_, ?_⟩
  · rw [List.flatMap_append]
    exact h.history.append h'.history
  · rw [h'.shown, h.shown, List.filterMap_append, List.append_assoc]

/-- What happens aside need not be told. -/
theorem Worked.aside (h : Worked config hook before reports between)
    (history : between.stack.History [] after.stack) (shown : after.shown = between.shown) :
    Worked config hook before reports after := by
  rw [← List.append_nil reports]
  exact h.append (.of_aside history shown)

theorem Worked.single
    (performs : Performs report.thread config.blockSize config.cycles.toNat report.dealings
      report.met)
    (becomes : report.met.Becomes hook report.thread report.fate)
    (history : before.stack.History report.dealings after.stack)
    (shown : after.shown.toList = before.shown.toList ++ report.shown?.toList) :
    Worked config hook before [report] after := by
  refine ⟨List.forall_mem_singleton.2 performs, List.forall_mem_singleton.2 becomes, ?_, ?_⟩
  · rw [List.flatMap_singleton]
    exact history
  · rw [shown, List.filterMap_cons, List.filterMap_nil]
    cases report.shown? <;> rfl

/-- A pool shows a fault to the hook, and the hook comes back or not. -/
theorem present_eq (pool : Pool) (hook : Hook) (thread : Thread) (fault : Fault) :
    ∃ after, pool.present hook thread fault =
        ((hook thread fault pool.stack.site.journal).1, after) ∧
      pool.stack.History [] after.stack ∧
      after.shown.toList = pool.shown.toList ++ [(thread, fault)] :=
  ⟨_, rfl, Stack.Aside.history ⟨rfl, rfl, rfl⟩, Array.toList_push⟩

/-- One report tells what a worker has done and what it returns. -/
def Told (config : Config) (hook : Hook) (before : Pool) (index : Nat)
    (run : Except Stop UInt64 × Pool) : Prop :=
  ∃ report : Report, report.index = index ∧ Worked config hook before [report] run.2 ∧
    report.fate.Returns config.cycles run.1

/-- What a pool does about a fault that a worker has met. -/
def reportFailure (hook : Hook) (index : Nat) (fault : Fault) (pool : Pool) :
    Except Stop UInt64 × Pool :=
  let thread := Thread.worker index.toUInt64
  let pool := pool.emit thread .error "worker failed"
    [("index", .word index.toUInt64), ("error", .shown fault.message)]
  if fault.isResource then
    match pool.present hook thread fault with
    | (none, pool) => (.error (.fault fault), pool)
    | (some stop, pool) => (.error stop, pool)
  else (.error (.fault fault), pool)

/-- The hook is shown a resource fault, and no other. -/
theorem told_reportFailure {index : Nat} {dealings : List Dealing} {fault : Fault} {stack : Stack}
    (tame : Tame hook)
    (performs : Performs (.worker index.toUInt64) config.blockSize config.cycles.toNat dealings
      (.failed fault))
    (history : before.stack.History dealings stack) :
    Told config hook before index (reportFailure hook index fault ⟨stack, before.shown⟩) := by
  have hmourned (after : Pool) (h : stack.History [] after.stack) :
      before.stack.History dealings after.stack := by
    rw [← List.append_nil dealings]
    exact history.append h
  have hnoted := (Stack.aside_emit stack (.worker index.toUInt64) .error .workers
    "worker failed"
    [("index", .word index.toUInt64), ("error", .shown fault.message)]).history
  by_cases hresource : fault.isResource = true
  · have hseen (fate : Fate) : (⟨index, dealings, .failed fault, fate⟩ : Report).shown? =
        some (.worker index.toUInt64, fault) := if_pos hresource
    obtain ⟨after, hpresent, hpresented, hshown⟩ := present_eq
      (Pool.emit ⟨stack, before.shown⟩ (.worker index.toUInt64) .error "worker failed"
        [("index", .word index.toUInt64), ("error", .shown fault.message)])
      hook (.worker index.toUInt64) fault
    simp only [reportFailure, if_pos hresource, hpresent]
    split
    next pool hreaction =>
      obtain ⟨hnone, rfl⟩ := Prod.mk.inj hreaction
      refine ⟨⟨index, dealings, .failed fault, .failed fault⟩, rfl, ?_, .failed fault⟩
      refine .single performs (.returned hresource hnone) (hmourned _ (hnoted.append hpresented)) ?_
      rw [hseen]
      exact hshown
    next stop pool hreaction =>
      obtain ⟨hstop, rfl⟩ := Prod.mk.inj hreaction
      obtain ⟨panic, rfl⟩ := tame _ _ _ _ hstop
      refine ⟨⟨index, dealings, .failed fault, .panicked⟩, rfl, ?_, .panicked panic⟩
      refine .single performs (.raised hresource hstop) (hmourned _ (hnoted.append hpresented)) ?_
      rw [hseen]
      exact hshown
  · have hunseen : (⟨index, dealings, .failed fault, .failed fault⟩ : Report).shown? = none :=
      if_neg hresource
    simp only [reportFailure, if_neg hresource]
    refine ⟨⟨index, dealings, .failed fault, .failed fault⟩, rfl, ?_, .failed fault⟩
    refine .single performs (.unseen (Bool.eq_false_iff.2 hresource)) (hmourned _ hnoted) ?_
    rw [hunseen]
    exact (List.append_nil _).symm

/-- What a worker does in a pool can be told in one report. -/
theorem told_work (tame : Tame hook) (config : Config) (pool : Pool) (index : Nat) :
    Told config hook pool index (pool.work config hook index.toUInt64) := by
  obtain ⟨met, performs, returns⟩ := performs_requests (.worker index.toUInt64)
    index.toUInt64 config.cycles config.blockSize pool.stack
  have history := history_runWorker (.worker index.toUInt64) index.toUInt64 config.cycles
    config.blockSize pool.stack
  generalize requests _ _ _ _ _ = dealings at performs history
  rcases hrun : runWorker (.worker index.toUInt64) index.toUInt64 config.cycles
    config.blockSize pool.stack with ⟨result, stack⟩
  rw [hrun] at returns history
  cases returns with
  | completed =>
      simp only [Pool.work, hrun]
      refine ⟨⟨index, dealings, .completed, .completed⟩, rfl, ?_, .completed⟩
      exact .single performs .completed history (List.append_nil _).symm
  | failed fault =>
      have hwork : pool.work config hook index.toUInt64 =
          reportFailure hook index fault ⟨stack, pool.shown⟩ := by
        simp only [Pool.work, hrun]
        rfl
      rw [hwork]
      exact told_reportFailure tame performs history
  | panicked panic =>
      simp only [Pool.work, hrun]
      refine ⟨⟨index, dealings, .panicked, .panicked⟩, rfl, ?_, .panicked panic⟩
      exact .single performs .panicked history (List.append_nil _).symm

end Worked

end Workers
end HeapFixtures
