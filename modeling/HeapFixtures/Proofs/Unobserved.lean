/-
# The request to stop goes unobserved

An allocator never looks at whether the run was asked to stop.  A gate may ask, but its verdict
does not depend on whether somebody has asked before; nor do the heap, the counters and the
journal.  So a request to stop that is there from the beginning changes nothing in what the
allocator does, and is there at the end.
-/

import HeapFixtures.Proofs.Dealing

namespace HeapFixtures

/-- A site that may have been asked to stop, beside what asked it before. -/
def Site.asking (site : Site) (asked : Bool) : Site :=
  { site with stopRequested := asked || site.stopRequested }

/-- A stack that may have been asked to stop, beside what asked it before. -/
def Stack.asking (stack : Stack) (asked : Bool) : Stack :=
  { stack with site := stack.site.asking asked }

namespace Site

variable (site : Site) (thread : Thread) (asked : Bool)

theorem asking_asking (later : Bool) :
    (site.asking asked).asking later = site.asking (later || asked) := by
  simp only [asking, Bool.or_assoc]

theorem mention_asking (message : String) (size : UInt64) :
    (site.asking asked).mention thread message size =
      (site.mention thread message size).asking asked := by
  have hbacking : (site.asking asked).heap.backing = site.heap.backing := rfl
  unfold mention
  rw [hbacking]
  cases site.heap.backing <;> rfl

theorem allocate_asking (size : UInt64) :
    (site.asking asked).allocate thread size =
      ((site.allocate thread size).1, (site.allocate thread size).2.asking asked) := by
  have hgrant : (site.asking asked).heap.grant size = site.heap.grant size := rfl
  unfold allocate
  rw [hgrant]
  split
  · rfl
  · obtain ⟨_ | block, heap⟩ := site.heap.grant size
    · rfl
    · exact Prod.ext rfl (mention_asking { site with heap := heap } ..)

theorem release_asking (block : Block) :
    (site.asking asked).release thread block = (site.release thread block).asking asked := by
  unfold release
  rw [mention_asking]
  rfl

end Site

namespace Stack

variable (stack : Stack) (site : Site) (thread : Thread) (asked : Bool)

theorem asking_asking (later : Bool) :
    (stack.asking asked).asking later = stack.asking (later || asked) := by
  simp only [asking, Site.asking_asking]

theorem heed_asking (verdict : Verdict) :
    heed (site.asking asked) verdict = (heed site verdict).asking asked := by
  unfold heed
  split
  · simp only [Site.asking, Site.requestStop, Bool.or_true]
  · rfl

theorem note_asking (records : Bool) (call : Call) :
    (stack.asking asked).note records thread call =
      (stack.note records thread call).asking asked := by
  unfold note
  split <;> rfl

theorem allocateThrough_asking (size : UInt64) (layers : List Layer) :
    allocateThrough thread size layers (site.asking asked) =
      ((allocateThrough thread size layers site).1,
        (allocateThrough thread size layers site).2.asking asked) := by
  induction layers generalizing site with
  | nil =>
      unfold allocateThrough
      rw [Site.allocate_asking]
      obtain ⟨fault | block, after⟩ := site.allocate thread size <;> rfl
  | cons layer below ih =>
      cases layer with
      | counting counters =>
          unfold allocateThrough
          rw [ih]
          obtain ⟨stop | block, after⟩ := allocateThrough thread size below site <;> rfl
      | gate gate =>
          simp only [allocateThrough, heed_asking]
          split
          · rfl
          · exact Prod.ext rfl (note_asking ⟨_, heed site (gate.ask thread size).1⟩ ..)
          · rw [ih]
            obtain ⟨(fault | panic | exit) | block, after⟩ :=
              allocateThrough thread size below (heed site (gate.ask thread size).1)
            · exact Prod.ext rfl (note_asking (after.push _) ..)
            · rfl
            · rfl
            · exact Prod.ext rfl (note_asking (after.push _) ..)

theorem releaseThrough_asking (block : Block) (layers : List Layer) :
    releaseThrough thread block layers (site.asking asked) =
      (releaseThrough thread block layers site).asking asked := by
  induction layers generalizing site with
  | nil => exact congrArg (Stack.mk []) (Site.release_asking ..)
  | cons layer below ih =>
      cases layer with
      | counting counters => exact congrArg (push _) (ih site)
      | gate gate =>
          have hnoted := note_asking ⟨.gate gate :: below, site⟩ thread asked gate.records
            (.release block.size)
          unfold releaseThrough
          dsimp only
          rw [show note ⟨.gate gate :: below, site.asking asked⟩ gate.records thread
            (.release block.size) = _ from hnoted]
          exact congrArg (push _) (ih _)

/-- A pair is the same whether or not the run was asked to stop, and leaves it asked. -/
theorem pair_asking (size : UInt64) :
    (stack.asking asked).pair thread size =
      ((stack.pair thread size).1, (stack.pair thread size).2.asking asked) := by
  have hallocate : (stack.asking asked).allocate thread size = _ :=
    allocateThrough_asking stack.site thread asked size stack.layers
  unfold pair
  rw [hallocate]
  unfold allocate
  obtain ⟨stop | block, after⟩ := allocateThrough thread size stack.layers stack.site
  · rfl
  · exact Prod.ext rfl (releaseThrough_asking after.site ..)

end Stack
end HeapFixtures
