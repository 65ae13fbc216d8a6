/-
# What stands in the blocks

A block stands for the cell at its address.  Each thing that a heap does is described here by
the cells that one finds afterwards: which one is new, which one is gone or has other bytes,
and that all others are what they were.  What a heap does with its blocks then needs no
further look at its list of cells.
-/

import HeapFixtures.Proofs.InUse

namespace HeapFixtures
namespace Heap

instance decidableSound (heap : Heap) : Decidable heap.Sound :=
  inferInstanceAs (Decidable (∀ address ∈ heap.addresses, address < heap.next))

/-- A block that the heap has handed out and not taken back. -/
def Holds (heap : Heap) (block : Block) : Prop :=
  ∃ cell, heap.cell? block.address = some cell ∧ cell.size = block.size

section Cells

variable {heap after : Heap} {size : UInt64} {block fresh : Block} {address : Nat} {cell : Cell}

theorem mem_of_cell? (h : heap.cell? address = some cell) :
    cell ∈ heap.cells ∧ cell.address = address :=
  ⟨List.mem_of_find?_eq_some h, by simpa using List.find?_some h⟩

theorem Sound.lt_next_of_cell? (sound : heap.Sound) (h : heap.cell? address = some cell) :
    address < heap.next := by
  obtain ⟨hmem, rfl⟩ := mem_of_cell? h
  exact sound cell.address (List.mem_map_of_mem hmem)

theorem Sound.lt_next (sound : heap.Sound) (holds : heap.Holds block) :
    block.address < heap.next := by
  obtain ⟨cell, hcell, -⟩ := holds
  exact sound.lt_next_of_cell? hcell

theorem bytes_eq_of_cell? (h : after.cell? block.address = heap.cell? block.address) :
    after.bytes block = heap.bytes block := by
  unfold bytes
  rw [h]

theorem Holds.of_cell? (holds : heap.Holds block)
    (h : after.cell? block.address = heap.cell? block.address) : after.Holds block := by
  unfold Holds
  rw [h]
  exact holds

theorem size_granted (h : heap.grant size = (some fresh, after)) : fresh.size = size := by
  unfold grant at h
  split at h
  · obtain ⟨rfl, -⟩ := h
    rfl
  · cases h

theorem grants_of_grant (h : heap.grant size = (some fresh, after)) :
    heap.grants heap.requests size = true ∧ fresh.address = heap.next := by
  unfold grant at h
  split at h
  · rename_i granted
    obtain ⟨rfl, -⟩ := h
    exact ⟨granted, rfl⟩
  · cases h

theorem refuses_of_grant (h : heap.grant size = (none, after)) :
    heap.grants heap.requests size = false := by
  unfold grant at h
  split at h
  · cases h
  · rename_i refuses
    exact Bool.eq_false_iff.2 refuses

theorem grant_of_move (h : heap.move block size = (some fresh, after)) :
    ∃ grown, heap.grant size = (some fresh, grown) := by
  unfold move at h
  split at h
  · rename_i granted grown hgrant
    obtain ⟨rfl, -⟩ := h
    exact ⟨grown, hgrant⟩
  · cases h

theorem grant_of_move_refused (h : heap.move block size = (none, after)) :
    heap.grant size = (none, after) := by
  unfold move at h
  split at h
  · cases h
  · rename_i refused hgrant
    obtain ⟨-, rfl⟩ := h
    exact hgrant

/-- A block that is handed out is empty, and in no other's place. -/
theorem cell?_granted (h : heap.grant size = (some fresh, after)) (address : Nat) :
    after.cell? address =
      if address = fresh.address then some ⟨fresh.address, size, []⟩
      else heap.cell? address := by
  unfold grant at h
  split at h
  · obtain ⟨rfl, rfl⟩ := h
    by_cases hfresh : address = heap.next
    · simp [cell?, hfresh]
    · simp [cell?, hfresh, Ne.symm hfresh]
  · cases h

/-- A refusal is no matter of the cells. -/
theorem cell?_refused (h : heap.grant size = (none, after)) (address : Nat) :
    after.cell? address = heap.cell? address := by
  unfold grant at h
  split at h
  · cases h
  · obtain ⟨-, rfl⟩ := h
    rfl

theorem cell?_free (heap : Heap) (block : Block) (address : Nat) :
    (heap.free block).cell? address =
      if address = block.address then none else heap.cell? address := by
  unfold cell? free
  rw [List.find?_filter]
  by_cases hgone : address = block.address
  · subst hgone
    simp
  · rw [if_neg hgone]
    refine congrArg (List.find? · heap.cells) ?_
    funext cell
    by_cases hcell : cell.address = address
    · simp [hcell, hgone]
    · simp [hcell]

theorem cell?_store (heap : Heap) (block : Block) (bytes : List UInt8) (address : Nat) :
    (heap.store block bytes).cell? address =
      if address = block.address then
        (heap.cell? address).map fun cell => { cell with bytes := bytes }
      else heap.cell? address := by
  unfold cell? store
  induction heap.cells with
  | nil => simp
  | cons cell cells ih =>
      by_cases hother : address = block.address
      · subst hother
        by_cases hcell : cell.address = block.address
        · simp [hcell]
        · simpa [hcell] using ih
      · by_cases hcell : cell.address = block.address
        · simpa [hcell, hother, Ne.symm hother] using ih
        · simp only [List.map_cons, List.find?_cons, hcell, if_false, ih, hother]

/-- A block that is moved leaves its place, and takes along its bytes as far as the new place
reaches. -/
theorem cell?_moved (h : heap.move block size = (some fresh, after))
    (apart : block.address ≠ fresh.address) (address : Nat) :
    after.cell? address =
      if address = fresh.address then
        some ⟨fresh.address, size, (heap.bytes block).take size.toNat⟩
      else if address = block.address then none else heap.cell? address := by
  unfold move at h
  split at h
  · rename_i granted grown hgrant
    obtain ⟨rfl, rfl⟩ := h
    have hsize := size_granted hgrant
    have hbytes : grown.bytes block = heap.bytes block := by
      apply bytes_eq_of_cell?
      rw [cell?_granted hgrant, if_neg apart]
    rw [cell?_free, copy, cell?_store, cell?_granted hgrant, hbytes, hsize]
    grind
  · cases h

/-- The bytes of a block after a write to it. -/
theorem bytes_write (holds : heap.Holds block) (offset : Nat) (bytes : List UInt8) :
    (heap.write block offset bytes).bytes block =
      (heap.bytes block).take offset ++
        List.replicate (offset - (heap.bytes block).length) 0 ++ bytes ++
        (heap.bytes block).drop (offset + bytes.length) := by
  obtain ⟨cell, hcell, -⟩ := holds
  simp only [write, Heap.bytes, cell?_store, if_true, hcell, Option.map_some]

theorem holds_write (holds : heap.Holds block) (offset : Nat) (bytes : List UInt8) :
    (heap.write block offset bytes).Holds block := by
  obtain ⟨cell, hcell, hsize⟩ := holds
  unfold Holds write
  rw [cell?_store, if_pos rfl, hcell]
  exact ⟨_, rfl, hsize⟩

section Write

variable {offset i : Nat} {bytes : List UInt8}

/-- What comes before the written bytes is as long as their offset says. -/
theorem length_before_write (old : List UInt8) (offset : Nat) :
    (old.take offset ++ List.replicate (offset - old.length) 0).length = offset := by
  rw [List.length_append, List.length_take, List.length_replicate]
  omega

/-- The written bytes stand where they were written. -/
theorem getElem?_bytes_write_inside (holds : heap.Holds block) (le : offset ≤ i)
    (lt : i < offset + bytes.length) :
    ((heap.write block offset bytes).bytes block)[i]? = bytes[i - offset]? := by
  have hbefore := length_before_write (heap.bytes block) offset
  rw [bytes_write holds, List.append_assoc, List.getElem?_append_right (by omega), hbefore,
    List.getElem?_append_left (by omega)]

/-- All other bytes stay as they were. -/
theorem getElem?_bytes_write_outside (holds : heap.Holds block)
    (written : i < (heap.bytes block).length) (out : i < offset ∨ offset + bytes.length ≤ i) :
    ((heap.write block offset bytes).bytes block)[i]? = (heap.bytes block)[i]? := by
  have hbefore := length_before_write (heap.bytes block) offset
  rw [bytes_write holds, List.append_assoc]
  rcases out with hlt | hle
  · have htake : i < ((heap.bytes block).take offset).length := by
      rw [List.length_take]
      omega
    rw [List.getElem?_append_left (by omega), List.getElem?_append_left htake,
      List.getElem?_take_of_lt hlt]
  · rw [List.getElem?_append_right (by omega), hbefore, List.getElem?_append_right (by omega),
      List.getElem?_drop]
    exact congrArg ((heap.bytes block)[·]?) (by omega)

end Write
end Cells

/-- One thing that happens to a heap.  It reaches the block that is named, if there is one, and
blocks that were not there before; all others are left alone. -/
structure Spares (before : Heap) (touched : Option Block) (after : Heap) : Prop where
  sound : after.Sound
  backing : after.backing = before.backing
  next_le : before.next ≤ after.next
  others : ∀ address < before.next, (∀ block ∈ touched, address ≠ block.address) →
    after.cell? address = before.cell? address

section Spares

variable {before heap after : Heap} {size : UInt64} {block fresh : Block} {touched : Option Block}

theorem Sound.spares (sound : heap.Sound) : heap.Spares none heap :=
  ⟨sound, rfl, Nat.le_refl _, fun _ _ _ => rfl⟩

/-- What leaves all blocks alone leaves all but one alone. -/
theorem Spares.mono (h : before.Spares none after) (touched : Option Block) :
    before.Spares touched after :=
  ⟨h.sound, h.backing, h.next_le, fun address hlt _ => h.others address hlt (by simp)⟩

theorem Sound.spares_grant (sound : heap.Sound) (size : UInt64) :
    heap.Spares none (heap.grant size).2 := by
  refine ⟨(sound.tidy.grant size).1.sound, ?_, next_le_grant heap size, ?_⟩
  · unfold grant
    split <;> rfl
  · intro address hlt _
    rcases hgrant : heap.grant size with ⟨granted, after⟩
    cases granted with
    | none => exact cell?_refused hgrant address
    | some fresh =>
        have hfresh := (grants_of_grant hgrant).2
        rw [cell?_granted hgrant, if_neg (by omega)]

/-- A block that is freed is the only one that is gone. -/
theorem Spares.free (h : before.Spares none heap) (block : Block) :
    before.Spares (some block) (heap.free block) := by
  refine ⟨(h.sound.tidy.free block).1.sound, h.backing, h.next_le, ?_⟩
  intro address hlt hother
  rw [cell?_free, if_neg (hother block rfl), h.others address hlt (by simp)]

/-- Something that reaches only a block that was not there before. -/
theorem Spares.trans (h : before.Spares none heap) (h' : heap.Spares touched after)
    (new : ∀ block ∈ touched, before.next ≤ block.address) : before.Spares none after := by
  refine ⟨h'.sound, h'.backing.trans h.backing, Nat.le_trans h.next_le h'.next_le, ?_⟩
  intro address hlt _
  rw [h'.others address (Nat.lt_of_lt_of_le hlt h.next_le), h.others address hlt (by simp)]
  intro block hblock haddress
  have hle := new block hblock
  omega

/-- Bytes that are put into a block are in no other. -/
theorem Sound.spares_write (sound : heap.Sound) (block : Block) (offset : Nat)
    (bytes : List UInt8) : heap.Spares (some block) (heap.write block offset bytes) := by
  refine ⟨(sound.tidy.write block offset bytes).1.sound, rfl, Nat.le_refl _, ?_⟩
  intro address _ hother
  rw [write, cell?_store, if_neg (hother block rfl)]

/-- A block that is moved leaves its place, and takes no other's. -/
theorem Sound.spares_move (sound : heap.Sound) (h : heap.move block size = (some fresh, after)) :
    heap.Spares (some block) after := by
  obtain ⟨grown, hgrant⟩ := grant_of_move h
  have hspares : heap.Spares none grown := by
    have hgrown : (heap.grant size).2 = grown := congrArg Prod.snd hgrant
    rw [← hgrown]
    exact sound.spares_grant size
  have hafter : after = (grown.copy block fresh).free block := by
    simp only [move, hgrant, Prod.mk.injEq, true_and] at h
    exact h.symm
  have hfresh := (grants_of_grant hgrant).2
  have hcopied : heap.Spares none (grown.copy block fresh) := by
    refine ⟨(hspares.sound.tidy.store fresh _).1.sound, hspares.backing, hspares.next_le, ?_⟩
    intro address hlt hother
    rw [copy, cell?_store, if_neg (by omega), hspares.others address hlt hother]
  rw [hafter]
  exact hcopied.free block

end Spares
end Heap

namespace Stack

section Spares

variable {stack after : Stack} {thread : Thread} {size : UInt64} {block : Block}
  {answer : Except Stop Block}

/-- A request for a new block leaves all blocks alone, whatever its answer. -/
theorem spares_allocate (h : stack.allocate thread size = (answer, after))
    (sound : stack.site.heap.Sound) :
    stack.site.heap.Spares none after.site.heap := by
  rcases heap_allocate h with hsame | hgrant
  · rw [hsame]
    exact sound.spares
  · rw [hgrant]
    exact sound.spares_grant size

theorem spares_release (stack : Stack) (sound : stack.site.heap.Sound) (thread : Thread)
    (block : Block) :
    stack.site.heap.Spares (some block) (stack.release thread block).site.heap := by
  rw [release, (releases thread block stack.layers stack.site).2]
  exact sound.spares.free block

/-- A resize leaves all other blocks alone, whatever its answer. -/
theorem spares_resize (h : stack.resize thread block size = (answer, after))
    (sound : stack.site.heap.Sound) :
    stack.site.heap.Spares (some block) after.site.heap := by
  cases resizes_of_resize h with
  | granted swapped replaced heap => exact sound.spares_move heap
  | refused counted heap =>
      obtain ⟨refused, hrefused, hafter⟩ := heap
      rw [hafter]
      rcases hrefused with rfl | hgrant
      · exact sound.spares.free block
      · have hspares := sound.spares_grant size
        rw [hgrant] at hspares
        exact hspares.free block
  | panicked blame =>
      have hheap := heap_resizeThrough (congrArg Prod.fst h)
      have hafter : (resizeThrough thread block size stack.layers stack.site).2 = after :=
        congrArg Prod.snd h
      rw [hafter] at hheap
      rcases hheap with hsame | hgrant | ⟨fresh, hmove⟩
      · rw [hsame]
        exact sound.spares.mono _
      · rw [hgrant]
        exact (sound.spares_grant size).mono _
      · exact sound.spares_move hmove

end Spares
end Stack
end HeapFixtures
