/-
# What a call passes through

A call goes down through the layers of an allocator and comes up again.  On its way gates are
asked, notes are made, the heap is changed and the journal is told of it.  A relation that holds
across each of these steps holds across the whole call, whatever the layers answer; that is the
one induction over the layers for all facts of this kind.
-/

import HeapFixtures.Proofs.Outcome

namespace HeapFixtures
namespace Stack

/-- A relation between a stack before a step of a call and the stack after it. -/
structure Carried (relation : Stack → Stack → Prop) : Prop where
  refl (stack : Stack) : relation stack stack
  trans {before between after : Stack} :
    relation before between → relation between after → relation before after
  heap (stack : Stack) (heap : Heap) :
    relation stack { stack with site := { stack.site with heap := heap } }
  mention (site : Site) (thread : Thread) (message : String) (size : UInt64) :
    relation ⟨[], site⟩ ⟨[], site.mention thread message size⟩
  heed (layer asked : Layer) (below : List Layer) (site : Site) (verdict : Verdict) :
    relation ⟨layer :: below, site⟩ ⟨asked :: below, Stack.heed site verdict⟩
  note (stack : Stack) (records : Bool) (thread : Thread) (call : Call) :
    relation stack (stack.note records thread call)
  /-- What happens below a layer happens to the layer, too, which may change itself. -/
  push {below : List Layer} {site : Site} {after : Stack} (layer layer' : Layer) :
    relation ⟨below, site⟩ after → relation ⟨layer :: below, site⟩ (after.push layer')

namespace Carried

variable {relation : Stack → Stack → Prop} (carried : Carried relation)

include carried

theorem site_allocate (site : Site) (thread : Thread) (size : UInt64) :
    relation ⟨[], site⟩ ⟨[], (site.allocate thread size).2⟩ := by
  unfold Site.allocate
  split
  · exact carried.refl _
  · split
    · exact carried.trans (carried.heap ⟨[], site⟩ _) (carried.mention ..)
    · exact carried.heap ⟨[], site⟩ _

theorem site_release (site : Site) (thread : Thread) (block : Block) :
    relation ⟨[], site⟩ ⟨[], site.release thread block⟩ :=
  carried.trans (carried.mention ..) (carried.heap ⟨[], site.mention ..⟩ _)

theorem site_resize (site : Site) (thread : Thread) (block : Block) (size : UInt64) :
    relation ⟨[], site⟩ ⟨[], (site.resize thread block size).2⟩ := by
  unfold Site.resize
  split
  · exact carried.site_release ..
  · split
    · exact carried.trans (carried.heap ⟨[], site⟩ _) (carried.mention ..)
    · exact carried.heap ⟨[], site⟩ _

theorem allocateThrough (thread : Thread) (size : UInt64) (layers : List Layer) (site : Site) :
    relation ⟨layers, site⟩ (allocateThrough thread size layers site).2 := by
  induction layers generalizing site with
  | nil =>
      have hsite := carried.site_allocate site thread size
      unfold Stack.allocateThrough
      generalize site.allocate thread size = called at hsite ⊢
      obtain ⟨fault | block, after⟩ := called <;> exact hsite
  | cons layer below ih =>
      cases layer with
      | counting counters =>
          have hbelow := ih site
          unfold Stack.allocateThrough
          generalize Stack.allocateThrough thread size below site = called at hbelow ⊢
          obtain ⟨stop | block, after⟩ := called <;> exact carried.push _ _ hbelow
      | gate gate =>
          have hheed := carried.heed (.gate gate) (.gate (gate.ask thread size).2) below site
            (gate.ask thread size).1
          have hbelow := carried.trans hheed (carried.push (.gate (gate.ask thread size).2)
            (.gate (gate.ask thread size).2) (ih (Stack.heed site (gate.ask thread size).1)))
          simp only [Stack.allocateThrough]
          split
          · exact hheed
          · exact carried.trans hheed (carried.note ..)
          · generalize Stack.allocateThrough thread size below _ = called at hbelow ⊢
            obtain ⟨(fault | panic | exit) | block, after⟩ := called
            · exact carried.trans hbelow (carried.note ..)
            · exact hbelow
            · exact hbelow
            · exact carried.trans hbelow (carried.note ..)

theorem releaseThrough (thread : Thread) (block : Block) (layers : List Layer) (site : Site) :
    relation ⟨layers, site⟩ (releaseThrough thread block layers site) := by
  induction layers generalizing site with
  | nil => exact carried.site_release site thread block
  | cons layer below ih =>
      cases layer with
      | counting counters => exact carried.push _ _ (ih site)
      | gate gate =>
          let noted := Stack.note ⟨.gate gate :: below, site⟩ gate.records thread
            (.release block.size)
          have hnoted : relation ⟨.gate gate :: below, site⟩ noted := carried.note ..
          have hlayers : noted = ⟨.gate gate :: below, noted.site⟩ :=
            congrArg (Stack.mk · noted.site) (layers_note ..)
          rw [hlayers] at hnoted
          exact carried.trans hnoted (carried.push _ _ (ih noted.site))

theorem replaceThrough (thread : Thread) (block : Block) (size : UInt64)
    (layers : List Layer) (site : Site) :
    relation ⟨layers, site⟩ (replaceThrough thread block size layers site).2 := by
  have hallocate := carried.allocateThrough thread size layers site
  unfold Stack.replaceThrough
  generalize Stack.allocateThrough thread size layers site = called at hallocate ⊢
  obtain ⟨(fault | panic | exit) | fresh, after⟩ := called
  · exact carried.trans hallocate (carried.releaseThrough ..)
  · exact hallocate
  · exact hallocate
  · exact carried.trans (carried.trans hallocate (carried.heap after _))
      (carried.releaseThrough ..)

theorem resizeThrough (thread : Thread) (block : Block) (size : UInt64)
    (layers : List Layer) (site : Site) :
    relation ⟨layers, site⟩ (resizeThrough thread block size layers site).2 := by
  induction layers generalizing site with
  | nil =>
      have hsite := carried.site_resize site thread block size
      unfold Stack.resizeThrough
      generalize site.resize thread block size = called at hsite ⊢
      obtain ⟨fault | fresh, after⟩ := called <;> exact hsite
  | cons layer below ih =>
      cases layer with
      | counting counters =>
          have hbelow := ih site
          unfold Stack.resizeThrough
          generalize Stack.resizeThrough thread block size below site = called at hbelow ⊢
          obtain ⟨(fault | panic | exit) | fresh, after⟩ := called
          all_goals exact carried.push _ _ hbelow
      | gate gate =>
          have hheed := carried.heed (.gate gate) (.gate (gate.ask thread size).2) below site
            (gate.ask thread size).1
          have hreleased := carried.trans hheed (carried.push (.gate (gate.ask thread size).2)
            (.gate (gate.ask thread size).2) (carried.releaseThrough thread block below
              (Stack.heed site (gate.ask thread size).1)))
          have hbelow := carried.trans hheed (carried.push (.gate (gate.ask thread size).2)
            (.gate (gate.ask thread size).2) (ih (Stack.heed site (gate.ask thread size).1)))
          simp only [Stack.resizeThrough]
          split
          · split
            · exact hheed
            · exact carried.trans hreleased (carried.note ..)
            · generalize Stack.resizeThrough thread block size below _ = called at hbelow ⊢
              obtain ⟨(fault | panic | exit) | fresh, after⟩ := called
              · exact carried.trans hbelow (carried.note ..)
              · exact hbelow
              · exact hbelow
              · exact carried.trans hbelow (carried.note ..)
          · exact carried.replaceThrough ..

theorem allocate (stack : Stack) (thread : Thread) (size : UInt64) :
    relation stack (stack.allocate thread size).2 :=
  carried.allocateThrough thread size stack.layers stack.site

theorem release (stack : Stack) (thread : Thread) (block : Block) :
    relation stack (stack.release thread block) :=
  carried.releaseThrough thread block stack.layers stack.site

theorem resize (stack : Stack) (thread : Thread) (block : Block) (size : UInt64) :
    relation stack (stack.resize thread block size).2 :=
  carried.resizeThrough thread block size stack.layers stack.site

theorem pair (stack : Stack) (thread : Thread) (size : UInt64) :
    relation stack (stack.pair thread size).2 := by
  have hallocate := carried.allocate stack thread size
  unfold Stack.pair
  generalize stack.allocate thread size = called at hallocate ⊢
  obtain ⟨stop | block, between⟩ := called
  · exact hallocate
  · exact carried.trans hallocate (carried.release ..)

end Carried
end Stack
end HeapFixtures
