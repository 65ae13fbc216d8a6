/-
# What a careful user leaves on the counters

A counting layer on top of an allocator shows a summary of the dealings since it was new.  If
they are those of a careful user, which holds one block at most and nothing in the end, there
is little left to tell: every block that was granted has come back, so the sizes that were
granted say all.

This does not depend on where the dealings end.  A request that is refused, whether for a new
block or to move one, grants no size, and the block that did not move is counted as released.
-/

import HeapFixtures.Proofs.Script

namespace HeapFixtures

/-- The layer on top is one that counts, and shows this. -/
def Stack.Shows (stack : Stack) (shown : Counters) : Prop :=
  stack.layers.head? = some (.counting shown)

/-- The counters of a layer through which blocks of some sizes have come and gone, one at a
time. -/
def Counters.ofSizes (sizes : List UInt64) : Counters :=
  { allocations := UInt64.ofNat sizes.length
    releases := UInt64.ofNat sizes.length
    bytes := UInt64.ofNat (sizes.map UInt64.toNat).sum
    live := 0
    peak := if sizes = [] then 0 else 1 }

section Shows

variable {change : Counters → Counters → Prop} {layers further : List Layer} {stack after : Stack}
  {shown : Counters} {past dealings : List Dealing} {dealing : Dealing}

/-- A layer on top that counts goes on counting. -/
theorem Changed.head? (changed : Changed change layers further)
    (top : layers.head? = some (.counting shown)) :
    ∃ next, further.head? = some (.counting next) ∧ change shown next := by
  cases changed with
  | nil => cases top
  | cons hd tl =>
      obtain rfl := Option.some.inj top
      cases hd with
      | counting hchange => exact ⟨_, rfl, hchange⟩

theorem Stack.Shows.swapping (top : stack.Shows shown) :
    (HeapFixtures.swapping stack.layers).head? = some (.counting shown) := by
  obtain ⟨below, hbelow⟩ := List.head?_eq_some_iff.1 top
  rw [hbelow, swapping_cons rfl]
  rfl

/-- The first layer that sees a resize as a resize is the first layer. -/
theorem head?_of_swapping {layer : Layer} (h : (swapping layers).head? = some layer) :
    layers.head? = some layer := by
  cases layers with
  | nil => cases h
  | cons first below =>
      by_cases hpass : first.passesResize = true
      · rw [swapping_cons hpass] at h
        exact h
      · rw [swapping_cons_of_not hpass] at h
        cases h

/-- A dealing that came back is shown on top along with those before it. -/
theorem Stack.Serves.reports (served : stack.Serves dealing after) (top : stack.Shows shown)
    (reports : shown.Reports past) (returned : dealing.Returned)
    (lawful : dealing.Lawful (Dealing.holdAll [] past))
    (few : dealing.Few (Dealing.holdAll [] past)) :
    ∃ next, after.Shows next ∧ next.Reports (past ++ [dealing]) := by
  cases served with
  | @allocate thread size answer after served =>
      cases allocates_of_allocate served with
      | granted counted heap =>
          obtain ⟨next, hnext, hgranted⟩ := counted.head? top
          obtain ⟨next', hgranted', hreports⟩ := reports.granted thread few
          obtain rfl : next = next' := congrArg Prod.snd (hgranted.symm.trans hgranted')
          exact ⟨next, hnext, hreports⟩
      | refused counted heap =>
          obtain ⟨next, hnext, rfl⟩ := counted.head? top
          exact ⟨shown, hnext, reports.refused thread size _⟩
      | panicked blame => exact absurd (returned _ rfl) (Panic.not_fault _)
  | release thread block =>
      obtain ⟨next, hnext, hreleased⟩ :=
        (releases thread block stack.layers stack.site).1.head? top
      obtain rfl : next = shown.recordRelease := hreleased
      exact ⟨_, hnext, reports.released rfl rfl rfl lawful⟩
  | @resize thread block size answer after served =>
      cases resizes_of_resize served with
      | granted swapped replaced heap =>
          obtain ⟨next, hnext, hswapped⟩ := swapped.head? top.swapping
          obtain ⟨next', hswapped', hreports⟩ := reports.swapped thread (lawful block rfl)
          obtain rfl : next = next' := congrArg Prod.snd (hswapped.symm.trans hswapped')
          exact ⟨next, head?_of_swapping hnext, hreports⟩
      | refused counted heap =>
          obtain ⟨next, hnext, hreleased⟩ := counted.head? top
          obtain rfl : next = shown.recordRelease := hreleased
          exact ⟨_, hnext, reports.released rfl rfl rfl lawful⟩
      | panicked blame => exact absurd (returned _ rfl) (Panic.not_fault _)

/-- Dealings that came back are shown on top. -/
theorem Stack.History.reports (history : stack.History dealings after) (top : stack.Shows shown)
    (reports : shown.Reports past) (returned : ∀ dealing ∈ dealings, dealing.Returned)
    (lawful : Dealing.Throughout Dealing.Lawful (Dealing.holdAll [] past) dealings)
    (few : Dealing.Throughout Dealing.Few (Dealing.holdAll [] past) dealings) :
    ∃ next, after.Shows next ∧ next.Reports (past ++ dealings) := by
  induction history generalizing shown past with
  | nil =>
      rw [List.append_nil]
      exact ⟨shown, top, reports⟩
  | @aside stack between _ _ aside _ ih =>
      have hbetween : between.Shows shown := (congrArg List.head? aside.1).trans top
      exact ih hbetween reports returned lawful few
  | @cons _ _ _ dealing _ served _ ih =>
      obtain ⟨hreturned, hrest⟩ := List.forall_mem_cons.1 returned
      obtain ⟨next, hnext, hreports⟩ := served.reports top reports hreturned lawful.1 few.1
      have hlawful := lawful.2
      have hfew := few.2
      rw [← Dealing.holdAll_concat] at hlawful hfew
      rw [List.append_cons]
      exact ih hnext hreports hrest hlawful hfew

end Shows

namespace Dealing

variable {held : List Block} {dealings : List Dealing}

theorem Throughout.mono {condition other : List Block → Dealing → Prop}
    (h : Throughout condition held dealings)
    (weaker : ∀ held dealing, condition held dealing → other held dealing) :
    Throughout other held dealings := by
  induction dealings generalizing held with
  | nil => trivial
  | cons dealing rest ih => exact ⟨weaker _ _ h.1, ih h.2⟩

/-- A dealing grants a size if it hands out a block. -/
theorem length_gained (dealings : List Dealing) :
    (gained dealings).length = (dealings.filterMap granted?).length := by
  have hsame : ∀ dealing : Dealing, dealing.gained?.isSome = dealing.granted?.isSome
    | .allocate _ _ (.ok _) | .allocate _ _ (.error _) => rfl
    | .release .. => rfl
    | .resize _ _ _ (.ok _) | .resize _ _ _ (.error _) => rfl
  rw [gained, List.length_filterMap_eq_countP, List.length_filterMap_eq_countP]
  exact List.countP_congr fun dealing _ => by rw [hsame]

/-- A user that was handed out a block held it at some moment. -/
theorem one_mem_crowds (single : ∀ moment, moment <+: dealings → (holdAll [] moment).length ≤ 1)
    (some : gained dealings ≠ []) : 1 ∈ crowds dealings := by
  obtain ⟨block, hblock⟩ := List.exists_mem_of_ne_nil _ some
  obtain ⟨dealing, hmem, hgained⟩ := List.mem_filterMap.1 hblock
  obtain ⟨front, rest, rfl⟩ := List.append_of_mem hmem
  have hmoment : front ++ [dealing] <+: front ++ dealing :: rest := ⟨rest, by simp⟩
  have hheld : block ∈ holdAll [] (front ++ [dealing]) := by
    rw [holdAll_concat]
    exact mem_hold_of_gained hgained
  exact ⟨_, hmoment, Nat.le_antisymm (single _ hmoment) (List.length_pos_of_mem hheld)⟩

/-- A user that was never handed out a block never held one. -/
theorem holdAll_of_gained (none : gained dealings = []) : holdAll [] dealings = [] := by
  induction dealings with
  | nil => rfl
  | cons dealing rest ih =>
      have hnone : dealing.gained? = Option.none ∧ gained rest = [] := by
        cases hgained : dealing.gained? with
        | none =>
            rw [gained, List.filterMap_cons_none hgained] at none
            exact ⟨rfl, none⟩
        | some block =>
            rw [gained, List.filterMap_cons_some hgained] at none
            cases none
      have hheld : hold [] dealing = [] := by
        rw [hold, hnone.1]
        unfold keep
        cases dealing.parted? with
        | none => rfl
        | some given => rfl
      show holdAll (hold [] dealing) rest = []
      rw [hheld]
      exact ih hnone.2

/-- A careful user leaves on the counters what the sizes of the granted blocks come to. -/
theorem Careful.counters {shown : Counters} (careful : Careful [] dealings)
    (reports : shown.Reports dealings) :
    shown = Counters.ofSizes (dealings.filterMap granted?) := by
  have hback : gained dealings = parted dealings := careful.held_append_gained (Nat.zero_le 1)
  have hlength := length_gained dealings
  have hlive : shown.live = 0 := by
    rw [← UInt64.toNat_inj, reports.live, careful.settled]
    rfl
  have hpeak : shown.peak = if dealings.filterMap granted? = [] then 0 else 1 := by
    rw [← UInt64.toNat_inj]
    by_cases hnone : gained dealings = []
    · have hgranted : dealings.filterMap granted? = [] :=
        List.eq_nil_of_length_eq_zero (by rw [← hlength, hnone]; rfl)
      obtain ⟨moment, ⟨rest, rfl⟩, hmoment⟩ := reports.peak.1
      have hbefore : gained moment = [] := by
        rw [gained, List.filterMap_append] at hnone
        exact (List.append_eq_nil_iff.1 hnone).1
      rw [if_pos hgranted, ← hmoment, holdAll_of_gained hbefore]
      rfl
    · have hgranted : dealings.filterMap granted? ≠ [] := by
        intro hnil
        rw [hnil] at hlength
        exact hnone (List.eq_nil_of_length_eq_zero hlength)
      have hone := one_mem_crowds careful.atMostOne hnone
      obtain ⟨moment, hmoment, hheld⟩ := reports.peak.1
      have hle : shown.peak.toNat ≤ 1 := hheld ▸ careful.atMostOne moment hmoment
      rw [if_neg hgranted]
      exact Nat.le_antisymm hle (reports.peak.2 hone)
  obtain ⟨allocations, releases, bytes, live, peak⟩ := shown
  simp only [Counters.ofSizes, Counters.mk.injEq]
  refine ⟨?_, ?_, reports.bytes, hlive, hpeak⟩
  · rw [← hlength]
    exact reports.allocations
  · rw [← hlength, hback]
    exact reports.releases

end Dealing

/-- A layer on top that has seen nothing but a careful user shows the sizes that the user was
granted. -/
theorem Stack.History.shows {stack after : Stack} {dealings : List Dealing}
    (history : stack.History dealings after) (fresh : stack.Shows .zero)
    (returned : ∀ dealing ∈ dealings, dealing.Returned) (careful : Dealing.Careful [] dealings) :
    after.Shows (.ofSizes (dealings.filterMap Dealing.granted?)) := by
  have hfew : Dealing.Throughout Dealing.Few [] dealings :=
    careful.single.mono fun _ _ hsingle => hsingle.trans_lt (by decide)
  obtain ⟨shown, hshown, hreports⟩ :=
    history.reports fresh Counters.reports_zero returned careful.lawful hfew
  rw [← careful.counters hreports]
  exact hshown

namespace Script

variable {thread : Thread} {script : Script} {number : Nat} {dealings : List Dealing}
  {fault : Fault} {before after : Stack}

/-- A script that is performed shows all its sizes. -/
theorem Performed.shows (h : Performed thread none script dealings none)
    (history : before.History dealings after) (fresh : before.Shows .zero) :
    after.Shows (.ofSizes script.sizes) := by
  have hcareful : Dealing.Careful [] (dealings ++ []) := h.careful .nil
  rw [List.append_nil] at hcareful
  rw [← h.granted]
  exact history.shows fresh h.returned hcareful

/-- A script that is broken off shows the sizes before the one that was refused. -/
theorem BrokenOff.shows (h : BrokenOff thread (.fault fault) none script number dealings)
    (history : before.History dealings after) (fresh : before.Shows .zero) :
    after.Shows (.ofSizes (script.sizes.take (number - 1))) := by
  rw [← h.granted]
  exact history.shows fresh h.returned h.careful

end Script
end HeapFixtures
