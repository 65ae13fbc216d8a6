/-
# The requests of a worker

A worker asks for a block and gives it back, cycle by cycle, up to the first request that is
not granted.  What it asks for can be listed beside its run, and the list is the history of
the run.
-/

import HeapFixtures.Fixture.Workers
import HeapFixtures.Proofs.Dealing

namespace HeapFixtures
namespace Workers

/-- The stack after a worker has announced itself. -/
def announced (thread : Thread) (index count : UInt64) (stack : Stack) : Stack :=
  stack.emit thread .trace .workers "worker started"
    [("index", .word index), ("cycles", .word count)]

/-- The dealings of the cycles that a worker has left. -/
def dealings (thread : Thread) (size : UInt64) : Nat → Stack → List Dealing
  | 0, _ => []
  | left + 1, stack =>
    match stack.allocate thread size with
    | (.ok block, between) =>
      .allocate thread size (.ok block) :: .release thread block ::
        dealings thread size left (between.release thread block)
    | (.error stop, _) => [.allocate thread size (.error stop)]

/-- The dealings of a worker. -/
def requests (thread : Thread) (index count size : UInt64) (stack : Stack) : List Dealing :=
  dealings thread size count.toNat (announced thread index count stack)

section Cycles

variable {thread : Thread} {size : UInt64} {stack between : Stack} {block : Block} {stop : Stop}

/-- A granted block is given back before the next cycle. -/
theorem cycles_of_granted (left : Nat) (h : stack.allocate thread size = (.ok block, between)) :
    cycles thread size (left + 1) stack =
      cycles thread size left (between.release thread block) := by
  simp only [cycles, Stack.pair, h]

/-- A request that is not granted is the last one. -/
theorem cycles_of_stopped (left : Nat) (h : stack.allocate thread size = (.error stop, between)) :
    cycles thread size (left + 1) stack = (.error stop, between) := by
  simp only [cycles, Stack.pair, h]

theorem dealings_of_granted (left : Nat) (h : stack.allocate thread size = (.ok block, between)) :
    dealings thread size (left + 1) stack =
      .allocate thread size (.ok block) :: .release thread block ::
        dealings thread size left (between.release thread block) := by
  simp only [dealings, h]

theorem dealings_of_stopped (left : Nat) (h : stack.allocate thread size = (.error stop, between)) :
    dealings thread size (left + 1) stack = [.allocate thread size (.error stop)] := by
  simp only [dealings, h]

/-- A worker's cycles are what its dealings say. -/
theorem history_cycles (thread : Thread) (size : UInt64) (left : Nat) (stack : Stack) :
    stack.History (dealings thread size left stack) (cycles thread size left stack).2 := by
  induction left generalizing stack with
  | zero => exact .nil stack
  | succ left ih =>
      rcases hcall : stack.allocate thread size with ⟨answer, between⟩
      cases answer with
      | ok block =>
          rw [dealings_of_granted left hcall, cycles_of_granted left hcall]
          exact .cons (.allocate hcall) (.cons (.release thread block) (ih _))
      | error stop =>
          rw [dealings_of_stopped left hcall, cycles_of_stopped left hcall]
          exact .cons (.allocate hcall) (.nil between)

end Cycles

section Worker

variable (thread : Thread) (index count size : UInt64) (stack : Stack)

/-- A worker returns the number of its cycles, or what stopped them. -/
theorem runWorker_eq :
    runWorker thread index count size stack =
      ((cycles thread size count.toNat (announced thread index count stack)).1.map fun _ => count,
        (cycles thread size count.toNat (announced thread index count stack)).2) := by
  unfold runWorker announced
  dsimp only
  rcases cycles thread size count.toNat (stack.emit ..) with ⟨result, after⟩
  cases result <;> rfl

/-- A worker that returns a number has had all its requests granted. -/
theorem cycles_of_runWorker {done : UInt64}
    (h : (runWorker thread index count size stack).1 = .ok done) :
    (cycles thread size count.toNat (announced thread index count stack)).1 = .ok () := by
  rw [runWorker_eq] at h
  cases hcycles : (cycles thread size count.toNat (announced thread index count stack)).1 with
  | ok _ => rfl
  | error stop =>
      rw [hcycles] at h
      cases h

/-- A worker's run is what its dealings say. -/
theorem history_runWorker :
    stack.History (requests thread index count size stack)
      (runWorker thread index count size stack).2 := by
  rw [runWorker_eq]
  exact .aside (Stack.aside_emit ..) (history_cycles thread size count.toNat _)

end Worker

end Workers
end HeapFixtures
