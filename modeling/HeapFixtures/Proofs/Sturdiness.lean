/-
# Allocators that do not panic

An allocator may refuse any request, but there are few things over which it panics: a gate whose
rule says so, and a counting layer that has no word for one more live block.  An allocator is
sturdy if its gates do nothing of the kind, and its counting layers have counted the blocks of
its user and have words for two blocks beside those of all others.  The second of them is needed
only for the moment of a resize in which there are two blocks for one.

A user that holds one block at most, and gives back what it holds, never sees a sturdy allocator
panic, and leaves it as sturdy as it was.
-/

import HeapFixtures.Proofs.Agreement
import HeapFixtures.Proofs.Settling

namespace HeapFixtures

/-- A counting layer has counted a number of blocks of its user, and has words for two blocks
beside those of all others. -/
def Counters.Sturdy (held : Nat) (counters : Counters) : Prop :=
  held ≤ counters.live.toNat ∧ counters.live.toNat + 2 < UInt64.size + held

namespace Counters.Sturdy

variable {held : Nat} {size : UInt64} {before after : Counters}

theorem room (sturdy : before.Sturdy held) (single : held ≤ 1) :
    before.live.toNat + 1 < UInt64.size := by
  have h := sturdy.2
  omega

theorem granted (sturdy : before.Sturdy held) (granted : before.Granted size after) :
    after.Sturdy (held + 1) := by
  obtain ⟨counted, few⟩ := sturdy
  obtain ⟨hroom, rfl⟩ := granted_iff.1 granted
  have hlive : (before.live + 1).toNat = before.live.toNat + 1 := by
    rw [UInt64.toNat_add]
    exact Nat.mod_eq_of_lt hroom
  unfold Sturdy
  rw [hlive]
  omega

theorem released (sturdy : before.Sturdy (held + 1)) (released : before.Released after) :
    after.Sturdy held := by
  obtain ⟨counted, few⟩ := sturdy
  obtain rfl := released
  have hone : (1 : UInt64) ≤ before.live := by
    rw [UInt64.le_iff_toNat_le]
    exact (Nat.le_add_left 1 held).trans counted
  have hlive : before.recordRelease.live.toNat = before.live.toNat - 1 :=
    UInt64.toNat_sub_of_le _ _ hone
  unfold Sturdy
  rw [hlive]
  omega

/-- A block for another leaves the number of live blocks. -/
theorem resized (sturdy : before.Sturdy held)
    (resized : before.Swapped size after ∨ before.Replaced size after) : after.Sturdy held := by
  rcases resized with swapped | replaced
  · obtain ⟨-, rfl⟩ := swapped_iff.1 swapped
    exact sturdy
  · obtain ⟨-, rfl⟩ := replaced_iff.1 replaced
    exact sturdy

end Counters.Sturdy

/-- What a counting layer shows comes from what it has shown before. -/
theorem Changed.exists_counting {change : Counters → Counters → Prop} {layers after : List Layer}
    (changed : Changed change layers after) {shown : Counters} (h : .counting shown ∈ after) :
    ∃ before, .counting before ∈ layers ∧ change before shown := by
  induction changed with
  | nil => cases h
  | cons hd tl ih =>
      rcases List.mem_cons.1 h with rfl | htail
      · cases hd with
        | counting hchange => exact ⟨_, List.mem_cons_self, hchange⟩
      · obtain ⟨before, hbefore, hchange⟩ := ih htail
        exact ⟨before, List.mem_cons_of_mem _ hbefore, hchange⟩

/-- An allocator that does not panic over a user with a number of blocks in hand. -/
structure Stack.Sturdy (held : Nat) (stack : Stack) : Prop where
  calm : Calm stack.layers
  counted : ∀ counters, .counting counters ∈ stack.layers → counters.Sturdy held

/-- A stack that has counted nothing is sturdy if its gates do not panic. -/
theorem Stack.Unused.sturdy {stack : Stack} (unused : stack.Unused) (calm : Calm stack.layers) :
    stack.Sturdy 0 := by
  refine ⟨calm, ?_⟩
  intro counters hcounters
  rw [unused counters hcounters]
  exact ⟨Nat.le_refl 0, by decide⟩

namespace Stack.Sturdy

variable {count now : Nat} {held : List Block} {stack after : Stack} {dealing : Dealing}
  {thread : Thread} {size : UInt64} {block : Block} {answer : Except Stop Block}

theorem congr (sturdy : stack.Sturdy count) (same : after.layers = stack.layers) :
    after.Sturdy count := by
  obtain ⟨calm, counted⟩ := sturdy
  rw [← same] at calm counted
  exact ⟨calm, counted⟩

theorem changed {change : Counters → Counters → Prop} (sturdy : stack.Sturdy count)
    (changed : Changed change stack.layers after.layers)
    (keeps : ∀ before shown, before.Sturdy count → change before shown → shown.Sturdy now) :
    after.Sturdy now := by
  refine ⟨changed.calm sturdy.calm, ?_⟩
  intro shown hshown
  obtain ⟨before, hbefore, hchange⟩ := changed.exists_counting hshown
  exact keeps before shown (sturdy.counted before hbefore) hchange

theorem hasRoom (sturdy : stack.Sturdy count) (single : count ≤ 1) : HasRoom stack.layers :=
  fun counters hcounters => (sturdy.counted counters hcounters).room single

theorem hasBlock (sturdy : stack.Sturdy 1) : HasBlock stack.layers := by
  intro counters hcounters hzero
  have hcounted := (sturdy.counted counters hcounters).1
  rw [hzero] at hcounted
  exact absurd hcounted (by decide)

theorem release (sturdy : stack.Sturdy 1) (thread : Thread) (block : Block) :
    (stack.release thread block).Sturdy 0 :=
  sturdy.changed (releases thread block stack.layers stack.site).1
    fun _ _ hbefore released => hbefore.released released

/-- One dealing with a sturdy allocator, of a user that has one block in hand at most, is
answered and leaves it sturdy. -/
theorem serves (sturdy : stack.Sturdy held.length) (single : held.length ≤ 1)
    (served : stack.Serves dealing after) (lawful : dealing.Lawful held) :
    dealing.Returned ∧ after.Sturdy (dealing.hold held).length := by
  cases served with
  | @allocate thread size answer after served =>
      cases Stack.allocates_of_allocate served with
      | granted counted heap =>
          exact ⟨Returns.ok _, sturdy.changed counted fun _ _ hbefore granted =>
            hbefore.granted granted⟩
      | @refused fault _ counted heap =>
          refine ⟨Returns.fault fault, sturdy.changed counted ?_⟩
          rintro before _ hbefore rfl
          exact hbefore
      | panicked blame => exact absurd (sturdy.hasRoom single) (blame sturdy.calm)
  | release thread block =>
      obtain rfl := Dealing.Careful.eq_singleton single (lawful block rfl)
      rw [Dealing.hold_singleton (rfl : (Dealing.release thread block).parted? = some block)]
      exact ⟨trivial, sturdy.release thread block⟩
  | @resize thread block size answer after served =>
      obtain rfl := Dealing.Careful.eq_singleton single (lawful block rfl)
      rw [Dealing.hold_singleton
        (rfl : (Dealing.resize thread block size answer).parted? = some block)]
      cases Stack.resizes_of_resize served with
      | granted swapped replaced heap =>
          exact ⟨Returns.ok _, sturdy.changed (swapped.of_zones replaced) fun _ _ hbefore resized =>
            hbefore.resized resized⟩
      | @refused fault _ counted heap =>
          exact ⟨Returns.fault fault, sturdy.changed counted fun _ _ hbefore released =>
            hbefore.released released⟩
      | panicked blame =>
          exact absurd (sturdy.hasRoom single) (blame sturdy.calm sturdy.hasBlock).2

/-- A request for a block is granted or refused. -/
theorem allocate (sturdy : stack.Sturdy 0) (served : stack.allocate thread size = (answer, after)) :
    (∃ block, answer = .ok block ∧ after.Sturdy 1) ∨
      ∃ fault, answer = .error (.fault fault) ∧ after.Sturdy 0 := by
  have hnone : stack.Sturdy ([] : List Block).length := sturdy
  obtain ⟨returned, hafter⟩ := hnone.serves (Nat.zero_le 1) (.allocate served) fun _ h => by cases h
  cases answer with
  | ok block => exact .inl ⟨block, rfl, hafter⟩
  | error stop =>
      obtain ⟨fault, rfl⟩ := returned stop rfl
      exact .inr ⟨fault, rfl, hafter⟩

/-- A request to move a block is granted, or refused and the block is gone. -/
theorem resize (sturdy : stack.Sturdy 1)
    (served : stack.resize thread block size = (answer, after)) :
    (∃ fresh, answer = .ok fresh ∧ after.Sturdy 1) ∨
      ∃ fault, answer = .error (.fault fault) ∧ after.Sturdy 0 := by
  have hsingle : stack.Sturdy [block].length := sturdy
  obtain ⟨returned, hafter⟩ :=
    hsingle.serves (Nat.le_refl 1) (.resize served) (Dealing.lawful_singleton rfl)
  rw [Dealing.hold_singleton
    (rfl : (Dealing.resize thread block size answer).parted? = some block)] at hafter
  cases answer with
  | ok fresh => exact .inl ⟨fresh, rfl, hafter⟩
  | error stop =>
      obtain ⟨fault, rfl⟩ := returned stop rfl
      exact .inr ⟨fault, rfl, hafter⟩

end Stack.Sturdy

/-- It leaves a sturdy allocator sturdy. -/
theorem Dealing.Careful.answered {held : List Block} {dealings : List Dealing}
    {stack after : Stack} (careful : Careful held dealings) (single : held.length ≤ 1)
    (sturdy : stack.Sturdy held.length) (history : stack.History dealings after) :
    (∀ dealing ∈ dealings, dealing.Returned) ∧ after.Sturdy 0 := by
  induction history generalizing held with
  | nil =>
      obtain rfl : held = [] := careful.settled
      exact ⟨List.forall_mem_nil _, sturdy⟩
  | aside aside _ ih => exact ih careful single (sturdy.congr aside.1)
  | cons served _ ih =>
      obtain ⟨⟨lawful, hlawful⟩, ⟨hsingle, hsingles⟩, settled⟩ := careful
      obtain ⟨returned, hsturdy⟩ := sturdy.serves single served lawful
      obtain ⟨hreturned, hafter⟩ := ih ⟨hlawful, hsingles, settled⟩ hsingle hsturdy
      exact ⟨List.forall_mem_cons.2 ⟨returned, hreturned⟩, hafter⟩

end HeapFixtures
