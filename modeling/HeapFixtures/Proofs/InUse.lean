/-
# Blocks in use

A block is in use from the time the heap hands it out until it is given back, whoever holds
it.  What a user holds may be less: a panic on the way up loses the block that it meets, and
the block stays in use.

The main statements say how the number of blocks in use changes with one request, whatever
the layers of the stack do with it.  They count the blocks handed out from some address on, so
that a run can be followed from any heap that has been in use before.
-/

import HeapFixtures.Proofs.Custody

namespace HeapFixtures

namespace Heap

/-- The blocks in use of those that were handed out from an address on. -/
def since (start : Nat) (heap : Heap) : List Nat :=
  heap.addresses.filter fun address => decide (start ≤ address)

/-- A heap that has handed out blocks from an address on.  No two of them in use share an
address, and the next block will share none with a block in use. -/
structure Tidy (start : Nat) (heap : Heap) : Prop where
  start_le : start ≤ heap.next
  sound : heap.Sound
  distinct : (heap.since start).Nodup

theorem Sound.since_next {heap : Heap} (sound : heap.Sound) : heap.since heap.next = [] := by
  apply List.filter_eq_nil_iff.2
  intro address haddress
  have hlt := sound address haddress
  simpa using hlt

theorem Sound.tidy {heap : Heap} (sound : heap.Sound) : heap.Tidy heap.next :=
  ⟨Nat.le_refl _, sound, by simp [sound.since_next]⟩

section Tidy

variable {start : Nat} {heap after : Heap} {size : UInt64} {block fresh : Block}

theorem addresses_free (heap : Heap) (block : Block) :
    (heap.free block).addresses =
      heap.addresses.filter fun address => decide (address ≠ block.address) := by
  simp only [addresses, free, List.filter_map]
  rfl

theorem next_le_grant (heap : Heap) (size : UInt64) : heap.next ≤ (heap.grant size).2.next := by
  unfold Heap.grant
  split
  · exact Nat.le_succ _
  · exact Nat.le_refl _

/-- A new block is one more in use, and a refused one is none. -/
theorem Tidy.grant (tidy : heap.Tidy start) (size : UInt64) :
    (heap.grant size).2.Tidy start ∧
      ((heap.grant size).2.since start).length + heap.next =
        (heap.since start).length + (heap.grant size).2.next := by
  obtain ⟨hstart, hsound, hdistinct⟩ := tidy
  unfold Heap.grant
  split
  · have hsince : ∀ requests, since start ⟨heap.backing, heap.grants, requests, heap.next + 1,
        ⟨heap.next, size, []⟩ :: heap.cells⟩ = heap.next :: heap.since start := by
      intro requests
      simp [since, addresses, hstart]
    refine ⟨⟨Nat.le_succ_of_le hstart, ?_, ?_⟩, ?_⟩
    · intro address haddress
      rcases List.mem_cons.1 haddress with rfl | hold
      · exact Nat.lt_succ_self _
      · exact Nat.lt_succ_of_lt (hsound address hold)
    · dsimp only
      rw [hsince, List.nodup_cons]
      refine ⟨?_, hdistinct⟩
      intro hmem
      exact Nat.lt_irrefl _ (hsound _ (List.mem_filter.1 hmem).1)
    · dsimp only
      rw [hsince, List.length_cons]
      omega
  · exact ⟨⟨hstart, hsound, hdistinct⟩, rfl⟩

/-- A freed block is one less in use, if it was in use. -/
theorem Tidy.free (tidy : heap.Tidy start) (block : Block) :
    (heap.free block).Tidy start ∧
      (heap.since start).length ≤ ((heap.free block).since start).length + 1 := by
  obtain ⟨hstart, hsound, hdistinct⟩ := tidy
  have hsince : (heap.free block).since start = (heap.since start).erase block.address := by
    rw [hdistinct.erase_eq_filter, since, since, addresses_free, List.filter_filter,
      List.filter_filter]
    apply List.filter_congr
    intro address _
    by_cases hsame : address = block.address
    · simp [hsame]
    · simp [hsame]
  refine ⟨⟨hstart, ?_, ?_⟩, ?_⟩
  · intro address haddress
    rw [addresses_free] at haddress
    exact hsound address (List.mem_filter.1 haddress).1
  · rw [hsince]
    exact hdistinct.erase _
  · rw [hsince, List.length_erase]
    split <;> omega

/-- Bytes that are put in the place of others are in no block's way. -/
theorem Tidy.store (tidy : heap.Tidy start) (block : Block) (bytes : List UInt8) :
    (heap.store block bytes).Tidy start ∧
      (heap.store block bytes).since start = heap.since start := by
  have hsince : (heap.store block bytes).since start = heap.since start := by
    rw [since, addresses_store, since]
  refine ⟨⟨tidy.start_le, ?_, ?_⟩, hsince⟩
  · intro address haddress
    rw [addresses_store] at haddress
    exact tidy.sound address haddress
  · rw [hsince]
    exact tidy.distinct

theorem Tidy.write (tidy : heap.Tidy start) (block : Block) (offset : Nat) (bytes : List UInt8) :
    (heap.write block offset bytes).Tidy start ∧
      (heap.write block offset bytes).since start = heap.since start :=
  tidy.store block _

/-- A block that is moved takes the place of the old one. -/
theorem Tidy.move (tidy : heap.Tidy start) (h : heap.move block size = (some fresh, after)) :
    after.Tidy start ∧ (heap.since start).length ≤ (after.since start).length := by
  obtain ⟨htidy, hlength⟩ := tidy.grant size
  unfold Heap.move at h
  split at h
  · rename_i granted grown hgrant
    obtain ⟨rfl, rfl⟩ := h
    obtain ⟨-, hlt⟩ := (follows_grant hgrant).fresh fresh rfl
    have hgrown : (heap.grant size).2 = grown := congrArg Prod.snd hgrant
    rw [hgrown] at htidy hlength
    obtain ⟨hcopied, hsince⟩ := htidy.store fresh ((grown.bytes block).take fresh.size.toNat)
    obtain ⟨hfreed, hle⟩ := hcopied.free block
    refine ⟨hfreed, ?_⟩
    rw [hsince] at hle
    unfold Heap.copy
    omega
  · cases h

end Tidy
end Heap

namespace Stack

section Heap

variable {start : Nat} {thread : Thread} {size : UInt64} {block : Block} {layers : List Layer}
  {site : Site} {answer : Except Stop Block} {after : Stack}

/-- A request for a new block asks the heap once at most, also where it ends in a panic. -/
theorem heap_allocateThrough (thread : Thread) (size : UInt64) (layers : List Layer)
    (site : Site) :
    (allocateThrough thread size layers site).2.site.heap = site.heap ∨
      (allocateThrough thread size layers site).2.site.heap = (site.heap.grant size).2 := by
  fun_induction allocateThrough thread size layers site with
  | case1 site block after h =>
      exact .inr (congrArg Prod.snd (Site.grant_of_allocate h)).symm
  | case2 site fault after h =>
      rcases Site.heap_of_allocate_refused h with hsame | hrefused
      · exact .inl hsame
      · exact .inr (congrArg Prod.snd hrefused).symm
  | case3 counters below site block stack h counted ih =>
      rw [h] at ih
      exact ih
  | case4 counters below site stop stack h ih =>
      rw [h] at ih
      exact ih
  | case5 gate below site verdict gate' hask site' panic hanswer =>
      exact .inl (heap_heed site verdict)
  | case6 gate below site verdict gate' hask site' fault hanswer =>
      exact .inl ((heap_note _ _ _ _).trans (heap_heed site verdict))
  | case7 gate below site verdict gate' hask site' hanswer block stack h ih
  | case8 gate below site verdict gate' hask site' hanswer fault stack h ih =>
      rw [h, heap_heed] at ih
      rw [heap_note]
      exact ih
  | case9 gate below site verdict gate' hask site' hanswer stop stack hstop h ih =>
      rw [h, heap_heed] at ih
      exact ih

/-- What a resize that ends in a panic has done to the heap: nothing, a new block or a
move. -/
theorem heap_resizeThrough {panic : Panic}
    (h : (resizeThrough thread block size layers site).1 = .error (.panic panic)) :
    (resizeThrough thread block size layers site).2.site.heap = site.heap ∨
      (resizeThrough thread block size layers site).2.site.heap = (site.heap.grant size).2 ∨
      ∃ fresh, site.heap.move block size =
        (some fresh, (resizeThrough thread block size layers site).2.site.heap) := by
  fun_induction resizeThrough thread block size layers site with
  | case1 site fresh after hresize | case2 site fault after hresize => cases h
  | case3 counters below site fresh stack hbelow counted ih =>
      have hresizes := resizes thread block size below site
      rw [hbelow] at hresizes
      cases hresizes with
      | granted swapped replaced heap => exact .inr (.inr ⟨fresh, heap⟩)
  | case4 counters below site fault stack hbelow ih => cases h
  | case5 counters below site stop stack hstop hbelow ih =>
      rw [hbelow] at ih
      exact ih h
  | case6 gate below site hforwards verdict gate' hask site' panic hanswer =>
      exact .inl (heap_heed site verdict)
  | case7 gate below site hforwards verdict gate' hask site' fault hanswer => cases h
  | case8 gate below site hforwards verdict gate' hask site' hanswer fresh stack hbelow ih
  | case9 gate below site hforwards verdict gate' hask site' hanswer fault stack hbelow ih =>
      cases h
  | case10 gate below site hforwards verdict gate' hask site' hanswer stop stack hstop hbelow ih =>
      rw [hbelow, heap_heed] at ih
      exact ih h
  | case11 gate below site hforwards =>
      have hheap := heap_allocateThrough thread size (.gate gate :: below) site
      unfold replaceThrough at h ⊢
      rcases hallocate : allocateThrough thread size (.gate gate :: below) site with
        ⟨answer, stack⟩
      rw [hallocate] at hheap
      simp only [hallocate] at h ⊢
      split at h
      · cases h
      · cases h
      · rename_i stop failed hstop hcall
        obtain ⟨-, rfl⟩ := hcall
        rcases hheap with hsame | hgrant
        · exact .inl hsame
        · exact .inr (.inl hgrant)

end Heap
end Stack

/-- How many blocks more are in use after a request that had this answer. -/
def Dealing.gain : Except Stop Block → Int
  | .ok _ => 1
  | .error _ => 0

/-- How many blocks more are in use after a resize that had this answer.  A block that is lost
in a panic stays in use. -/
def Dealing.swap : Except Stop Block → Int
  | .error (.fault _) => -1
  | _ => 0

namespace Stack

section Growth

variable {start : Nat} {thread : Thread} {size : UInt64} {block : Block}
  {answer : Except Stop Block} {stack after : Stack}

/-- A request for a new block asks the heap once at most. -/
theorem heap_allocate (h : stack.allocate thread size = (answer, after)) :
    after.site.heap = stack.site.heap ∨ after.site.heap = (stack.site.heap.grant size).2 := by
  have hheap := heap_allocateThrough thread size stack.layers stack.site
  have hafter : (allocateThrough thread size stack.layers stack.site).2 = after :=
    congrArg Prod.snd h
  rwa [hafter] at hheap

/-- The heap hands out the blocks that come back to the user. -/
theorem gain_le_next (h : stack.allocate thread size = (answer, after)) :
    stack.site.heap.next + Dealing.gain answer ≤ after.site.heap.next := by
  have hle : stack.site.heap.next ≤ after.site.heap.next := by
    rcases heap_allocate h with hsame | hgrant
    · exact Nat.le_of_eq (congrArg Heap.next hsame).symm
    · rw [hgrant]
      exact Heap.next_le_grant _ size
  cases allocates_of_allocate h with
  | granted counted heap =>
      obtain ⟨-, hlt⟩ := (Heap.follows_grant heap).fresh _ rfl
      simp only [Dealing.gain]
      omega
  | refused counted heap =>
      simp only [Dealing.gain]
      omega
  | panicked blame =>
      simp only [Dealing.gain]
      omega

/-- A request for a new block has one more in use afterwards if the heap handed one out. -/
theorem tidy_allocate (tidy : stack.site.heap.Tidy start)
    (h : stack.allocate thread size = (answer, after)) :
    after.site.heap.Tidy start ∧
      (after.site.heap.since start).length + stack.site.heap.next =
        (stack.site.heap.since start).length + after.site.heap.next := by
  rcases heap_allocate h with hsame | hgrant
  · rw [hsame]
    exact ⟨tidy, rfl⟩
  · rw [hgrant]
    exact tidy.grant size

theorem next_release (stack : Stack) (thread : Thread) (block : Block) :
    (stack.release thread block).site.heap.next = stack.site.heap.next := by
  rw [release, (releases thread block stack.layers stack.site).2]
  rfl

/-- A block on its way back is in use no more. -/
theorem tidy_release (stack : Stack) (tidy : stack.site.heap.Tidy start) (thread : Thread)
    (block : Block) :
    (stack.release thread block).site.heap.Tidy start ∧
      (stack.site.heap.since start).length ≤
        ((stack.release thread block).site.heap.since start).length + 1 := by
  rw [release, (releases thread block stack.layers stack.site).2]
  exact tidy.free block

/-- A resize has the old block in use no more, but may have a new one in its place.  A block
that a panic loses stays in use. -/
theorem tidy_resize (tidy : stack.site.heap.Tidy start)
    (h : stack.resize thread block size = (answer, after)) :
    after.site.heap.Tidy start ∧
      (stack.site.heap.since start).length + Dealing.swap answer ≤
        (after.site.heap.since start).length := by
  have hgrant : (stack.site.heap.grant size).2.Tidy start ∧ (stack.site.heap.since start).length ≤
      ((stack.site.heap.grant size).2.since start).length := by
    obtain ⟨htidy, hlength⟩ := tidy.grant size
    have hle := Heap.next_le_grant stack.site.heap size
    exact ⟨htidy, by omega⟩
  cases resizes_of_resize h with
  | granted swapped replaced heap =>
      obtain ⟨htidy, hle⟩ := tidy.move heap
      refine ⟨htidy, ?_⟩
      simp only [Dealing.swap]
      omega
  | refused counted heap =>
      obtain ⟨freed, hfreed, hafter⟩ := heap
      have hstill : freed.Tidy start ∧
          (stack.site.heap.since start).length ≤ (freed.since start).length := by
        rcases hfreed with rfl | hrefused
        · exact ⟨tidy, Nat.le_refl _⟩
        · rwa [hrefused] at hgrant
      obtain ⟨htidy, hle⟩ := hstill.1.free block
      have hbefore := hstill.2
      rw [hafter]
      refine ⟨htidy, ?_⟩
      simp only [Dealing.swap]
      omega
  | @panicked panic _ blame =>
      have hafter : (resizeThrough thread block size stack.layers stack.site).2 = after :=
        congrArg Prod.snd h
      have hheap := heap_resizeThrough (congrArg Prod.fst h)
      rw [hafter] at hheap
      have hstill : after.site.heap.Tidy start ∧
          (stack.site.heap.since start).length ≤ (after.site.heap.since start).length := by
        rcases hheap with hsame | hnew | ⟨fresh, hmove⟩
        · rw [hsame]
          exact ⟨tidy, Nat.le_refl _⟩
        · rw [hnew]
          exact hgrant
        · exact tidy.move hmove
      refine ⟨hstill.1, ?_⟩
      have hle := hstill.2
      simp only [Dealing.swap]
      omega

end Growth
end Stack

end HeapFixtures
