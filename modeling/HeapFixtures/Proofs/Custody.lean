/-
# Blocks in custody

A careful user of an allocator gives back only what it holds, holds one block at most, and
in the end holds nothing.  Its dealings then take back every block that was handed out,
once and in the same order.  What the stack has counted and what the heap has in use
follow the blocks that the user holds, so afterwards both are what they were before.

A refused resize is the one dealing that takes a block back and hands none out, at every
layer alike; the invariants count it as a release.
-/

import HeapFixtures.Proofs.Dealing
import Mathlib.Data.List.Forall2

namespace HeapFixtures

namespace Dealing

section Hold

variable {held : List Block} {dealing : Dealing} {block : Block}

theorem mem_hold_of_gained (h : block ∈ dealing.gained?) : block ∈ hold held dealing := by
  rw [hold, h]
  exact List.mem_cons_self

theorem mem_hold_of_kept (h : block ∈ held) (kept : ∀ given ∈ dealing.parted?, block ≠ given) :
    block ∈ hold held dealing := by
  have hkeep : block ∈ dealing.keep held := by
    unfold keep
    split
    · exact h
    · rename_i given hgiven
      exact (List.mem_erase_of_ne (kept given hgiven)).2 h
  unfold hold
  split
  · exact hkeep
  · exact List.mem_cons_of_mem _ hkeep

/-- What is held after a dealing was handed out by it, or held before. -/
theorem gained_or_held (h : block ∈ hold held dealing) :
    block ∈ dealing.gained? ∨ block ∈ held := by
  have hkeep : block ∈ dealing.keep held → block ∈ held := by
    unfold keep
    split
    · exact id
    · exact List.mem_of_mem_erase
  unfold hold at h
  split at h
  · exact .inr (hkeep h)
  · rename_i fresh hfresh
    rcases List.mem_cons.1 h with rfl | hheld
    · exact .inl hfresh
    · exact .inr (hkeep hheld)

/-- A user that gives its only block away has none but a new one. -/
theorem hold_singleton (h : dealing.parted? = some block) :
    hold [block] dealing = dealing.gained?.toList := by
  have hkeep : dealing.keep [block] = [] := by
    rw [keep, h]
    exact List.erase_cons_head block []
  rw [hold, hkeep]
  cases dealing.gained? with
  | none => rfl
  | some fresh => rfl

theorem lawful_singleton (h : dealing.parted? = some block) : dealing.Lawful [block] := by
  intro given hgiven
  rw [h] at hgiven
  exact List.mem_singleton.2 (Option.some.inj hgiven).symm

end Hold

/-- Dealings of a user that gives away only what it holds, holds one block at most after
each of them, and nothing in the end. -/
structure Careful (held : List Block) (dealings : List Dealing) : Prop where
  lawful : Throughout Lawful held dealings
  single : Throughout (fun held dealing => (hold held dealing).length ≤ 1) held dealings
  settled : holdAll held dealings = []

namespace Careful

variable {held : List Block} {dealing : Dealing} {dealings rest : List Dealing}

theorem nil : Careful [] [] := ⟨trivial, trivial, rfl⟩

theorem cons (lawful : dealing.Lawful held) (single : (hold held dealing).length ≤ 1)
    (h : Careful (hold held dealing) rest) : Careful held (dealing :: rest) :=
  ⟨⟨lawful, h.lawful⟩, ⟨single, h.single⟩, h.settled⟩

/-- A block is asked for and given back. -/
theorem cycle (thread : Thread) (size : UInt64) (block : Block) (h : Careful [] rest) :
    Careful [] (.allocate thread size (.ok block) :: .release thread block :: rest) := by
  have hback : hold [block] (.release thread block) = [] := hold_singleton rfl
  refine .cons (fun _ hgiven => by cases hgiven) (Nat.le_refl 1) ?_
  apply cons (lawful_singleton rfl)
  · rw [hback]
    exact Nat.zero_le 1
  · rw [hback]
    exact h

/-- A request that is not granted leaves nothing in hand. -/
theorem ungranted (thread : Thread) (size : UInt64) (stop : Stop) :
    Careful [] [.allocate thread size (.error stop)] :=
  .cons (fun _ hgiven => by cases hgiven) (Nat.zero_le 1) .nil

theorem append (h : Careful held dealings) (h' : Careful [] rest) :
    Careful held (dealings ++ rest) := by
  have hsettled := h.settled
  constructor
  case lawful =>
    rw [throughout_append, hsettled]
    exact ⟨h.lawful, h'.lawful⟩
  case single =>
    rw [throughout_append, hsettled]
    exact ⟨h.single, h'.single⟩
  case settled =>
    rw [holdAll_append, hsettled]
    exact h'.settled

theorem eq_singleton {block : Block} (single : held.length ≤ 1) (holds : block ∈ held) :
    held = [block] := by
  obtain ⟨other, rfl⟩ := List.length_eq_one_iff.1
    (Nat.le_antisymm single (List.length_pos_of_mem holds))
  rw [List.mem_singleton.1 holds]

/-- A user that holds one block at most gives the blocks back in the order in which it got
them, each of them once. -/
theorem held_append_gained (h : Careful held dealings) (single : held.length ≤ 1) :
    held ++ gained dealings = parted dealings := by
  induction dealings generalizing held with
  | nil =>
      have hnone : held = [] := h.settled
      rw [hnone]
      rfl
  | cons dealing rest ih =>
      obtain ⟨⟨lawful, hlawful⟩, ⟨one, hone⟩, hsettled⟩ := h
      have hrest := ih ⟨hlawful, hone, hsettled⟩ one
      cases dealing with
      | allocate thread size answer =>
          cases answer with
          | ok block =>
              have hnone : held = [] := List.eq_nil_of_length_eq_zero
                (Nat.le_zero.1 (Nat.le_of_succ_le_succ one))
              subst hnone
              exact hrest
          | error stop => exact hrest
      | release thread block =>
          have hheld := eq_singleton single (lawful block rfl)
          subst hheld
          rw [hold_singleton rfl] at hrest
          exact congrArg (block :: ·) hrest
      | resize thread block size answer =>
          have hheld := eq_singleton single (lawful block rfl)
          subst hheld
          rw [hold_singleton rfl] at hrest
          cases answer with
          | ok fresh => exact congrArg (block :: ·) hrest
          | error stop => exact congrArg (block :: ·) hrest

theorem length_holdAll (single : Throughout (fun held dealing => (hold held dealing).length ≤ 1)
      held dealings) (h : held.length ≤ 1) {moment : List Dealing} (hmoment : moment <+: dealings) :
    (holdAll held moment).length ≤ 1 := by
  induction moment generalizing held dealings with
  | nil => exact h
  | cons dealing moment ih =>
      obtain ⟨rest, rfl⟩ := hmoment
      exact ih single.2 single.1 (List.prefix_append moment rest)

/-- At no moment does a careful user hold two blocks. -/
theorem atMostOne (h : Careful [] dealings) (moment : List Dealing)
    (hmoment : moment <+: dealings) : (holdAll [] moment).length ≤ 1 :=
  length_holdAll h.single (Nat.zero_le 1) hmoment

end Careful
end Dealing

/-- What a layer shows after so many more blocks were handed out than taken back; the
number wraps as the counters do. -/
structure Counters.Shifted (count : UInt64) (before after : Counters) : Prop where
  live : after.live = before.live + count
  difference : after.allocations - after.releases =
    before.allocations - before.releases + count

namespace Counters.Shifted

variable {before between after : Counters} {count further size : UInt64}

theorem refl (counters : Counters) : Shifted 0 counters counters :=
  ⟨(UInt64.add_zero _).symm, (UInt64.add_zero _).symm⟩

theorem trans (h : Shifted count before between) (h' : Shifted further between after) :
    Shifted (count + further) before after := by
  constructor
  · rw [h'.live, h.live, UInt64.add_assoc]
  · rw [h'.difference, h.difference, UInt64.add_assoc]

theorem of_granted (h : before.Granted size after) : Shifted 1 before after := by
  obtain ⟨-, rfl⟩ := granted_iff.1 h
  exact ⟨rfl, by grind⟩

theorem of_released (h : before.Released after) : Shifted (-1) before after := by
  have hafter : after = before.recordRelease := h
  subst hafter
  constructor
  · show before.live - 1 = before.live + -1
    grind
  · show before.allocations - (before.releases + 1) = before.allocations - before.releases + -1
    grind

theorem of_swapped (h : before.Swapped size after) : Shifted 0 before after := by
  obtain ⟨-, rfl⟩ := swapped_iff.1 h
  exact ⟨by grind, by grind⟩

theorem of_replaced (h : before.Replaced size after) : Shifted 0 before after := by
  obtain ⟨-, rfl⟩ := replaced_iff.1 h
  exact ⟨by grind, by grind⟩

/-- A layer that was balanced is balanced again. -/
theorem isBalanced (h : Shifted 0 before after) (balanced : before.isBalanced = true) :
    after.isBalanced = true := by
  simp only [Counters.isBalanced, Bool.and_eq_true, decide_eq_true_eq] at balanced ⊢
  have hlive := h.live
  have hdifference := h.difference
  constructor
  · grind
  · grind

end Counters.Shifted

namespace Heap

/-- The addresses in use. -/
def addresses (heap : Heap) : List Nat := heap.cells.map Cell.address

/-- The blocks below an address. -/
def under (heap : Heap) (bound : Nat) : List Cell :=
  heap.cells.filter fun cell => cell.address < bound

/-- A heap whose next block shares no address with one in use. -/
def Sound (heap : Heap) : Prop := ∀ address ∈ heap.addresses, address < heap.next

/-- What one dealing does to a heap.  A block that is handed out is new, a block that is
taken back is no longer in use, and nothing else happens to the blocks. -/
structure Follows (before : Heap) (gained parted : Option Block) (after : Heap) : Prop where
  next_le : before.next ≤ after.next
  fresh : ∀ block ∈ gained, block.address = before.next ∧ before.next < after.next
  kept : ∀ bound ≤ before.next, (∀ block ∈ parted, bound ≤ block.address) →
    after.under bound = before.under bound
  used : ∀ address ∈ after.addresses, (∀ block ∈ parted, block.address ≠ address) ∧
    (address ∈ before.addresses ∨ ∃ block ∈ gained, block.address = address)

section Follows

variable {before heap after : Heap} {size : UInt64} {block fresh : Block}
  {gained : Option Block}

theorem follows_of_eq (next : after.next = before.next) (cells : after.cells = before.cells) :
    before.Follows none none after := by
  refine ⟨Nat.le_of_eq next.symm, by simp, ?_, ?_⟩
  · intro bound _ _
    exact congrArg (List.filter _) cells
  · intro address haddress
    rw [addresses, cells] at haddress
    exact ⟨by simp, .inl haddress⟩

theorem follows_grant (h : before.grant size = (some block, after)) :
    before.Follows (some block) none after := by
  unfold grant at h
  split at h
  · obtain ⟨rfl, rfl⟩ := h
    refine ⟨Nat.le_succ _, by simp, ?_, ?_⟩
    · intro bound hbound _
      have hnew : ¬ before.next < bound := Nat.not_lt.2 hbound
      simp [under, hnew]
    · intro address haddress
      refine ⟨by simp, ?_⟩
      rcases List.mem_cons.1 haddress with rfl | hold
      · exact .inr ⟨_, rfl, rfl⟩
      · exact .inl hold
  · cases h

theorem follows_refused (h : before.grant size = (none, after)) :
    before.Follows none none after := by
  unfold grant at h
  split at h
  · cases h
  · obtain ⟨-, rfl⟩ := h
    exact follows_of_eq rfl rfl

/-- A freed block is in use no more. -/
theorem Follows.free (h : before.Follows gained none heap) (block : Block) :
    before.Follows gained (some block) (heap.free block) := by
  refine ⟨h.next_le, h.fresh, ?_, ?_⟩
  · intro bound hbound hparted
    rw [← h.kept bound hbound (by simp)]
    simp only [under, Heap.free, List.filter_filter]
    apply List.filter_congr
    intro cell _
    have hle : bound ≤ block.address := hparted block rfl
    grind
  · intro address haddress
    obtain ⟨cell, hcell, rfl⟩ := List.mem_map.1 haddress
    obtain ⟨hmem, hne⟩ := List.mem_filter.1 hcell
    refine ⟨?_, (h.used cell.address (List.mem_map_of_mem hmem)).2⟩
    intro other hother
    obtain rfl := Option.some.inj hother
    grind

theorem addresses_store (heap : Heap) (block : Block) (bytes : List UInt8) :
    (heap.store block bytes).addresses = heap.addresses := by
  simp only [addresses, store, List.map_map]
  apply List.map_congr_left
  intro cell _
  show Cell.address (if _ then _ else _) = _
  split <;> rfl

theorem under_store (heap : Heap) {block : Block} {bound : Nat} (h : bound ≤ block.address)
    (bytes : List UInt8) : (heap.store block bytes).under bound = heap.under bound := by
  simp only [under, store]
  induction heap.cells with
  | nil => rfl
  | cons cell cells ih =>
      simp only [List.map_cons, List.filter_cons, ih]
      grind

/-- Bytes that are copied to a new block reach no other. -/
theorem Follows.copy (h : before.Follows (some fresh) none heap) (source : Block) :
    before.Follows (some fresh) none (heap.copy source fresh) := by
  refine ⟨h.next_le, h.fresh, ?_, ?_⟩
  · intro bound hbound hparted
    have haddress := (h.fresh fresh rfl).1
    rw [← h.kept bound hbound hparted]
    exact under_store heap (haddress ▸ hbound) _
  · intro address haddress
    rw [Heap.copy, addresses_store] at haddress
    exact h.used address haddress

theorem follows_move (h : before.move block size = (some fresh, after)) :
    before.Follows (some fresh) (some block) after := by
  unfold move at h
  split at h
  · rename_i granted heap hgrant
    obtain ⟨rfl, rfl⟩ := h
    exact ((follows_grant hgrant).copy block).free block
  · cases h

end Follows
end Heap

namespace Stack

variable {stack after : Stack} {dealing : Dealing} {dealings : List Dealing} {held : List Block}

/-- What an answered dealing does to the heap. -/
theorem Serves.follows (served : stack.Serves dealing after) (returned : dealing.Returned) :
    stack.site.heap.Follows dealing.gained? dealing.parted? after.site.heap := by
  cases served with
  | allocate served =>
      cases allocates_of_allocate served with
      | granted counted heap => exact Heap.follows_grant heap
      | refused counted heap =>
          rcases heap with hsame | hrefused
          · exact Heap.follows_of_eq (congrArg Heap.next hsame) (congrArg Heap.cells hsame)
          · exact Heap.follows_refused hrefused
      | panicked blame =>
          exact absurd (returned _ rfl) (Panic.not_fault _)
  | release thread block =>
      rw [Stack.release, (releases thread block stack.layers stack.site).2]
      exact (Heap.follows_of_eq rfl rfl).free block
  | @resize thread block size answer after served =>
      cases resizes_of_resize served with
      | granted swapped replaced heap => exact Heap.follows_move heap
      | refused counted heap =>
          obtain ⟨heap, hheap, hafter⟩ := heap
          rw [hafter]
          rcases hheap with rfl | hrefused
          · exact (Heap.follows_of_eq rfl rfl).free block
          · exact (Heap.follows_refused hrefused).free block
      | panicked blame =>
          exact absurd (returned _ rfl) (Panic.not_fault _)

theorem ofNat_length_erase {block : Block} (holds : block ∈ held) :
    UInt64.ofNat (held.erase block).length = UInt64.ofNat held.length + -1 := by
  have hlength : held.length = (held.erase block).length + 1 := by
    rw [List.length_erase_of_mem holds]
    exact (Nat.sub_add_cancel (List.length_pos_of_mem holds)).symm
  have hadd : UInt64.ofNat held.length = UInt64.ofNat (held.erase block).length + 1 := by
    rw [hlength, UInt64.ofNat_add]
    rfl
  grind

/-- What an answered dealing does to the counters: they follow the blocks held. -/
theorem Serves.shifted (served : stack.Serves dealing after) (returned : dealing.Returned)
    (lawful : dealing.Lawful held) :
    ∃ count, Changed (Counters.Shifted count) stack.layers after.layers ∧
      UInt64.ofNat (dealing.hold held).length = UInt64.ofNat held.length + count := by
  cases served with
  | allocate served =>
      cases allocates_of_allocate served with
      | granted counted heap =>
          refine ⟨1, counted.mono fun _ _ => .of_granted, ?_⟩
          exact UInt64.ofNat_add held.length 1
      | refused counted heap =>
          refine ⟨0, counted.mono ?_, (UInt64.add_zero _).symm⟩
          rintro counters _ rfl
          exact .refl counters
      | panicked blame =>
          exact absurd (returned _ rfl) (Panic.not_fault _)
  | release thread block =>
      have hreleased := (releases thread block stack.layers stack.site).1
      refine ⟨-1, hreleased.mono fun _ _ => .of_released, ?_⟩
      exact ofNat_length_erase (lawful block rfl)
  | @resize thread block size answer after served =>
      have holds : block ∈ held := lawful block rfl
      cases resizes_of_resize served with
      | @granted fresh _ swapped replaced heap =>
          refine ⟨0, (swapped.of_zones replaced).mono ?_, ?_⟩
          · rintro _ _ (hswapped | hreplaced)
            · exact .of_swapped hswapped
            · exact .of_replaced hreplaced
          · have hlength : (fresh :: held.erase block).length = held.length := by
              rw [List.length_cons, List.length_erase_of_mem holds]
              exact Nat.sub_add_cancel (List.length_pos_of_mem holds)
            show UInt64.ofNat (fresh :: held.erase block).length = _
            rw [hlength, UInt64.add_zero]
      | refused counted heap =>
          refine ⟨-1, counted.mono fun _ _ => .of_released, ?_⟩
          exact ofNat_length_erase holds
      | panicked blame =>
          exact absurd (returned _ rfl) (Panic.not_fault _)

end Stack

/-- The heap while its user holds blocks, against the heap before the user came: blocks
from before are as they were, and every other block in use is one that the user holds. -/
structure Heap.Lends (before : Heap) (held : List Block) (after : Heap) : Prop where
  next_le : before.next ≤ after.next
  lent : ∀ block ∈ held, before.next ≤ block.address
  kept : after.under before.next = before.under before.next
  used : ∀ address ∈ after.addresses,
    address ∈ before.addresses ∨ ∃ block ∈ held, block.address = address

namespace Heap.Lends

variable {before heap after : Heap} {held : List Block} {dealing : Dealing}

theorem nothing (heap : Heap) : heap.Lends [] heap :=
  ⟨Nat.le_refl _, fun _ h => absurd h List.not_mem_nil, rfl, fun _ h => .inl h⟩

/-- A lawful dealing lends blocks or takes them back. -/
theorem hold (lends : before.Lends held heap) (lawful : dealing.Lawful held)
    (follows : heap.Follows dealing.gained? dealing.parted? after) :
    before.Lends (dealing.hold held) after := by
  refine ⟨Nat.le_trans lends.next_le follows.next_le, ?_, ?_, ?_⟩
  · intro block hblock
    rcases Dealing.gained_or_held hblock with hgained | hheld
    · rw [(follows.fresh block hgained).1]
      exact lends.next_le
    · exact lends.lent block hheld
  · have hkept := follows.kept before.next lends.next_le
      fun block hparted => lends.lent block (lawful block hparted)
    exact hkept.trans lends.kept
  · intro address haddress
    obtain ⟨hfree, hold | ⟨block, hgained, rfl⟩⟩ := follows.used address haddress
    · rcases lends.used address hold with hbefore | ⟨block, hheld, rfl⟩
      · exact .inl hbefore
      · refine .inr ⟨block, Dealing.mem_hold_of_kept hheld ?_, rfl⟩
        rintro given hgiven rfl
        exact hfree _ hgiven rfl
    · exact .inr ⟨block, Dealing.mem_hold_of_gained hgained, rfl⟩

/-- A heap that lends nothing has the blocks from before. -/
theorem cells_eq (lends : before.Lends [] after) (sound : before.Sound) :
    after.cells = before.cells := by
  have hafter : after.under before.next = after.cells := by
    apply List.filter_eq_self.2
    intro cell hcell
    rcases lends.used cell.address (List.mem_map_of_mem hcell) with hold | ⟨block, hheld, -⟩
    · exact decide_eq_true (sound cell.address hold)
    · cases hheld
  have hbefore : before.under before.next = before.cells := by
    apply List.filter_eq_self.2
    intro cell hcell
    exact decide_eq_true (sound _ (List.mem_map_of_mem hcell))
  rw [← hafter, lends.kept, hbefore]

end Heap.Lends

/-- What is left of a call whose user was careful.  Every block that was handed out was
taken back, once; the user held one block at most at every moment; every counting layer
counts as many blocks as before; and the heap holds the same blocks. -/
structure Custody (before after : Stack) (dealings : List Dealing) : Prop where
  history : before.History dealings after
  lawful : Dealing.Throughout Dealing.Lawful [] dealings
  single : ∀ moment, moment <+: dealings → (Dealing.holdAll [] moment).length ≤ 1
  distinct : (Dealing.gained dealings).Nodup
  returned : Dealing.parted dealings = Dealing.gained dealings
  counters : List.Forall₂ (fun old new => new.live = old.live ∧
      new.allocations - new.releases = old.allocations - old.releases ∧
      (old.isBalanced = true → new.isBalanced = true)) before.counters after.counters
  cells : before.site.heap.Sound → after.site.heap.cells = before.site.heap.cells

section Custody

variable {stack before after : Stack} {dealings : List Dealing} {held : List Block}

/-- Blocks of one history have different addresses, since addresses only grow. -/
theorem Stack.History.distinct (history : stack.History dealings after)
    (returned : ∀ dealing ∈ dealings, dealing.Returned) :
    (Dealing.gained dealings).Nodup ∧
      ∀ block ∈ Dealing.gained dealings, stack.site.heap.next ≤ block.address := by
  induction history with
  | nil stack => exact ⟨List.nodup_nil, fun _ h => absurd h List.not_mem_nil⟩
  | aside aside _ ih =>
      rw [← aside.2.1]
      exact ih returned
  | @cons stack between last dealing dealings served _ ih =>
      obtain ⟨hreturned, hrest⟩ := List.forall_mem_cons.1 returned
      obtain ⟨hnodup, hlater⟩ := ih hrest
      have hfollows := served.follows hreturned
      have hlater' : ∀ block ∈ Dealing.gained dealings, stack.site.heap.next ≤ block.address :=
        fun block hblock => Nat.le_trans hfollows.next_le (hlater block hblock)
      cases hgained : dealing.gained? with
      | none =>
          have hsame : Dealing.gained (dealing :: dealings) = Dealing.gained dealings :=
            List.filterMap_cons_none hgained
          rw [hsame]
          exact ⟨hnodup, hlater'⟩
      | some fresh =>
          have hcons : Dealing.gained (dealing :: dealings) = fresh :: Dealing.gained dealings :=
            List.filterMap_cons_some hgained
          obtain ⟨haddress, hlt⟩ := hfollows.fresh fresh hgained
          rw [hcons]
          refine ⟨List.nodup_cons.2 ⟨?_, hnodup⟩, List.forall_mem_cons.2 ⟨?_, hlater'⟩⟩
          · intro hagain
            have hle := hlater fresh hagain
            omega
          · exact Nat.le_of_eq haddress.symm

/-- The counters and the heap follow the blocks that a lawful user holds. -/
theorem Stack.History.keeps (history : stack.History dealings after)
    (returned : ∀ dealing ∈ dealings, dealing.Returned)
    (lawful : Dealing.Throughout Dealing.Lawful held dealings)
    (lends : before.site.heap.Lends held stack.site.heap) {count : UInt64}
    (shifted : Changed (Counters.Shifted count) before.layers stack.layers)
    (counted : count = UInt64.ofNat held.length) :
    before.site.heap.Lends (Dealing.holdAll held dealings) after.site.heap ∧
      Changed (Counters.Shifted (UInt64.ofNat (Dealing.holdAll held dealings).length))
        before.layers after.layers := by
  induction history generalizing held count with
  | nil stack =>
      subst counted
      exact ⟨lends, shifted⟩
  | aside aside _ ih =>
      rw [← aside.1] at shifted
      rw [← aside.2.1] at lends
      exact ih returned lawful lends shifted counted
  | @cons stack between last dealing dealings served _ ih =>
      obtain ⟨hreturned, hrest⟩ := List.forall_mem_cons.1 returned
      obtain ⟨hlawful, hlater⟩ := lawful
      have hlends := lends.hold hlawful (served.follows hreturned)
      obtain ⟨further, hshifted, hcounted⟩ := served.shifted hreturned hlawful
      have hboth : Changed (Counters.Shifted (count + further)) before.layers between.layers := by
        apply (shifted.comp hshifted).mono
        rintro _ _ ⟨_, hfirst, hsecond⟩
        exact hfirst.trans hsecond
      apply ih hrest hlater hlends hboth
      rw [counted, hcounted]

/-- The counters of two stacks, layer by layer. -/
theorem Changed.counters {change : Counters → Counters → Prop}
    (changed : Changed change before.layers after.layers) :
    List.Forall₂ change before.counters after.counters := by
  simp only [Stack.counters, List.forall₂_reverse_iff]
  generalize before.layers = layers, after.layers = layers' at changed
  induction changed with
  | nil => exact .nil
  | cons hd _ ih =>
      cases hd with
      | counting changed => exact .cons changed ih
      | gate akin => exact ih

/-- A history whose user was careful leaves nothing behind. -/
theorem custody_of_careful (history : before.History dealings after)
    (returned : ∀ dealing ∈ dealings, dealing.Returned)
    (careful : Dealing.Careful [] dealings) : Custody before after dealings := by
  have hshifted : Changed (Counters.Shifted 0) before.layers before.layers := by
    apply (changed_refl before.layers).mono
    rintro counters _ rfl
    exact .refl counters
  obtain ⟨hlends', hshifted'⟩ := history.keeps returned careful.lawful (.nothing _) hshifted rfl
  rw [careful.settled] at hlends' hshifted'
  refine ⟨history, careful.lawful, careful.atMostOne, (history.distinct returned).1, ?_, ?_, ?_⟩
  · exact (careful.held_append_gained (Nat.zero_le 1)).symm
  · apply hshifted'.counters.imp
    intro old new hsame
    refine ⟨?_, ?_, hsame.isBalanced⟩
    · exact hsame.live.trans (UInt64.add_zero _)
    · exact hsame.difference.trans (UInt64.add_zero _)
  · exact hlends'.cells_eq

end Custody

end HeapFixtures
