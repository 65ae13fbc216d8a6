/-
# What a counting layer shows

A counting layer that stands on top of an allocator passes every request on, hands every
answer back, and shows a summary of the dealings so far: how many blocks it has handed out
and taken back, how many bytes that came to, how many blocks its user holds, and how many
the user has held at one time.  The first three wrap at the end of the word range.  The
last two are exact as long as there are fewer blocks than a word can count, and a resize
never counts as two blocks.

The allocator below may be any that does not panic; it may itself have counting layers.
-/

import HeapFixtures.Proofs.Agreement
import HeapFixtures.Proofs.Layering
import Mathlib.Algebra.GroupWithZero.Nat
import Mathlib.Order.Bounds.Basic

namespace HeapFixtures

namespace Dealing

/-- The size that a dealing was granted. -/
def granted? : Dealing → Option UInt64
  | .allocate _ size (.ok _) | .resize _ _ size (.ok _) => some size
  | _ => none

/-- The bytes of all requests that were granted. -/
def bytes (dealings : List Dealing) : Nat :=
  ((dealings.filterMap granted?).map UInt64.toNat).sum

/-- How many blocks were held at the moments of a sequence of dealings, the first and the
last among them. -/
def crowds (dealings : List Dealing) : Set Nat :=
  {count | ∃ moment, moment <+: dealings ∧ (holdAll [] moment).length = count}

/-- The user holds fewer blocks after a dealing than there are words. -/
def Few (held : List Block) (dealing : Dealing) : Prop :=
  (hold held dealing).length < UInt64.size

instance decidableFew (held : List Block) (dealing : Dealing) : Decidable (Few held dealing) :=
  inferInstanceAs (Decidable (_ < _))

instance decidableReturned : ∀ dealing : Dealing, Decidable dealing.Returned
  | .allocate _ _ (.ok _) | .resize _ _ _ (.ok _) => .isTrue fun _ h => nomatch h
  | .allocate _ _ (.error (.fault fault)) | .resize _ _ _ (.error (.fault fault)) =>
    .isTrue fun _ h => ⟨fault, (Except.error.inj h).symm⟩
  | .allocate _ _ (.error (.panic _)) | .resize _ _ _ (.error (.panic _)) =>
    .isFalse fun h => nomatch h _ rfl
  | .allocate _ _ (.error (.exit _)) | .resize _ _ _ (.error (.exit _)) =>
    .isFalse fun h => nomatch h _ rfl
  | .release .. => .isTrue trivial

section Extended

variable (dealings : List Dealing) (dealing : Dealing)

theorem holdAll_concat (held : List Block) :
    holdAll held (dealings ++ [dealing]) = hold (holdAll held dealings) dealing := by
  rw [holdAll_append]
  rfl

theorem length_gained_concat :
    (gained (dealings ++ [dealing])).length =
      (gained dealings).length + dealing.gained?.toList.length := by
  rw [gained, List.filterMap_append, List.length_append, List.filterMap_cons, List.filterMap_nil]
  cases dealing.gained? <;> rfl

theorem length_parted_concat :
    (parted (dealings ++ [dealing])).length =
      (parted dealings).length + dealing.parted?.toList.length := by
  rw [parted, List.filterMap_append, List.length_append, List.filterMap_cons, List.filterMap_nil]
  cases dealing.parted? <;> rfl

theorem bytes_concat :
    bytes (dealings ++ [dealing]) = bytes dealings + (dealing.granted?.getD 0).toNat := by
  rw [bytes, List.filterMap_append, List.map_append, List.sum_append, List.filterMap_cons,
    List.filterMap_nil]
  cases dealing.granted? <;> simp [bytes]

/-- One more dealing adds the moment after it. -/
theorem crowds_concat :
    crowds (dealings ++ [dealing]) =
      insert (holdAll [] (dealings ++ [dealing])).length (crowds dealings) := by
  ext count
  constructor
  · rintro ⟨moment, hmoment, rfl⟩
    rcases List.prefix_concat_iff.1 hmoment with rfl | hearlier
    · exact .inl rfl
    · exact .inr ⟨moment, hearlier, rfl⟩
  · rintro (rfl | ⟨moment, hmoment, rfl⟩)
    · exact ⟨_, List.prefix_rfl, rfl⟩
    · exact ⟨moment, hmoment.trans (List.prefix_append _ _), rfl⟩

end Extended
end Dealing

namespace Counters

/-- The counters show what the dealings come to. -/
structure Reports (shown : Counters) (dealings : List Dealing) : Prop where
  allocations : shown.allocations = UInt64.ofNat (Dealing.gained dealings).length
  releases : shown.releases = UInt64.ofNat (Dealing.parted dealings).length
  bytes : shown.bytes = UInt64.ofNat (Dealing.bytes dealings)
  live : shown.live.toNat = (Dealing.holdAll [] dealings).length
  peak : IsGreatest (Dealing.crowds dealings) shown.peak.toNat

/-- A layer that has seen nothing shows no dealings. -/
theorem reports_zero : zero.Reports [] := by
  refine ⟨rfl, rfl, rfl, rfl, ⟨[], List.prefix_rfl, rfl⟩, ?_⟩
  rintro count ⟨moment, hmoment, rfl⟩
  rw [List.prefix_nil.1 hmoment]
  rfl

section Reports

variable {shown after : Counters} {past : List Dealing} {thread : Thread} {size : UInt64}
  {block fresh : Block} {stop : Stop}

/-- What is held now is no more than the peak. -/
theorem Reports.length_le (reports : shown.Reports past) :
    (Dealing.holdAll [] past).length ≤ shown.peak.toNat :=
  reports.peak.2 ⟨past, List.prefix_rfl, rfl⟩

/-- Counters that have grown by one dealing show it along with the others. -/
theorem Reports.concat (reports : shown.Reports past) (dealing : Dealing)
    (allocations : after.allocations =
      shown.allocations + UInt64.ofNat dealing.gained?.toList.length)
    (releases : after.releases = shown.releases + UInt64.ofNat dealing.parted?.toList.length)
    (bytes : after.bytes = shown.bytes + dealing.granted?.getD 0)
    (live : after.live.toNat = (dealing.hold (Dealing.holdAll [] past)).length)
    (peak : after.peak.toNat = max after.live.toNat shown.peak.toNat) :
    after.Reports (past ++ [dealing]) := by
  have hheld := Dealing.holdAll_concat past dealing []
  refine ⟨?_, ?_, ?_, ?_, ?_⟩
  · rw [allocations, reports.allocations, Dealing.length_gained_concat, UInt64.ofNat_add]
  · rw [releases, reports.releases, Dealing.length_parted_concat, UInt64.ofNat_add]
  · rw [bytes, reports.bytes, Dealing.bytes_concat, UInt64.ofNat_add, UInt64.ofNat_toNat]
  · rw [live, hheld]
  · rw [peak, Dealing.crowds_concat, hheld, live]
    exact reports.peak.insert _

/-- A granted request is shown as one block more. -/
theorem Reports.granted (reports : shown.Reports past) (thread : Thread)
    (few : Dealing.Few (Dealing.holdAll [] past) (.allocate thread size (.ok block))) :
    ∃ after, shown.Granted size after ∧
      after.Reports (past ++ [.allocate thread size (.ok block)]) := by
  have hroom : shown.live.toNat + 1 < UInt64.size := by
    rw [reports.live]
    exact few
  have hlive : (shown.live + 1).toNat = (Dealing.holdAll [] past).length + 1 := by
    rw [UInt64.toNat_add, reports.live]
    exact Nat.mod_eq_of_lt few
  refine ⟨_, granted_iff.2 ⟨hroom, rfl⟩, reports.concat _ rfl ?_ rfl hlive ?_⟩
  · exact (UInt64.add_zero _).symm
  · rw [UInt64.toNat_max, max_comm]

/-- A request that was refused is not shown at all. -/
theorem Reports.refused (reports : shown.Reports past) (thread : Thread) (size : UInt64)
    (stop : Stop) : shown.Reports (past ++ [.allocate thread size (.error stop)]) := by
  apply reports.concat
  · exact (UInt64.add_zero _).symm
  · exact (UInt64.add_zero _).symm
  · exact (UInt64.add_zero _).symm
  · exact reports.live
  · rw [reports.live, max_eq_right reports.length_le]

/-- A dealing that takes back a block which the user holds, and hands out none, is shown as
one block less. -/
theorem Reports.released (reports : shown.Reports past) {dealing : Dealing}
    (gives : dealing.gained? = none) (takes : dealing.parted? = some block)
    (grants : dealing.granted? = none) (lawful : dealing.Lawful (Dealing.holdAll [] past)) :
    shown.recordRelease.Reports (past ++ [dealing]) := by
  have holds : block ∈ Dealing.holdAll [] past := lawful block takes
  have hheld : dealing.hold (Dealing.holdAll [] past) = (Dealing.holdAll [] past).erase block := by
    simp [Dealing.hold, Dealing.keep, gives, takes]
  have hlength := List.length_erase_of_mem holds
  have hlive : shown.recordRelease.live.toNat = (Dealing.holdAll [] past).length - 1 := by
    have hle : (1 : UInt64) ≤ shown.live := by
      rw [UInt64.le_iff_toNat_le, reports.live]
      exact List.length_pos_of_mem holds
    show (shown.live - 1).toNat = _
    rw [UInt64.toNat_sub_of_le _ _ hle, reports.live]
    rfl
  apply reports.concat
  · rw [gives]
    exact (UInt64.add_zero _).symm
  · rw [takes]
    rfl
  · rw [grants]
    exact (UInt64.add_zero _).symm
  · rw [hlive, hheld, hlength]
  · have hle := reports.length_le
    rw [hlive, max_eq_right (by omega)]
    rfl

/-- A granted resize is shown as one block for another. -/
theorem Reports.swapped (reports : shown.Reports past) (thread : Thread)
    (holds : block ∈ Dealing.holdAll [] past) :
    ∃ after, shown.Swapped size after ∧
      after.Reports (past ++ [.resize thread block size (.ok fresh)]) := by
  have hlength : (fresh :: (Dealing.holdAll [] past).erase block).length =
      (Dealing.holdAll [] past).length := by
    rw [List.length_cons, List.length_erase_of_mem holds]
    exact Nat.sub_add_cancel (List.length_pos_of_mem holds)
  have hlive : shown.live ≠ 0 := by
    intro hzero
    have hnone := reports.live
    rw [hzero] at hnone
    exact List.ne_nil_of_mem holds (List.eq_nil_of_length_eq_zero hnone.symm)
  refine ⟨_, swapped_iff.2 ⟨hlive, rfl⟩, reports.concat _ rfl rfl rfl ?_ ?_⟩
  · exact reports.live.trans hlength.symm
  · rw [UInt64.toNat_max, max_comm]

end Reports

end Counters

namespace Stack

section Reckoned

variable {inner between : Stack} {shown : Counters} {past : List Dealing} {thread : Thread}
  {size : UInt64} {block : Block} {answer : Except Stop Block}

/-- A request through a counting layer on top has the answer from below, and the layer shows
it. -/
theorem allocate_reckoned (reports : shown.Reports past)
    (h : inner.allocate thread size = (answer, between))
    (few : Dealing.Few (Dealing.holdAll [] past) (.allocate thread size answer)) :
    ∃ after : Counters, after.Reports (past ++ [.allocate thread size answer]) ∧
      (inner.push (.counting shown)).allocate thread size =
        (answer, between.push (.counting after)) := by
  cases answer with
  | ok block =>
      obtain ⟨after, granted, hafter⟩ := reports.granted thread few
      exact ⟨after, hafter, allocateThrough_counting_ok h granted⟩
  | error stop =>
      exact ⟨shown, reports.refused thread size stop, allocateThrough_counting_error h⟩

/-- A block on its way back through a counting layer on top is shown as released. -/
theorem release_reckoned (inner : Stack) (reports : shown.Reports past)
    (lawful : (Dealing.release thread block).Lawful (Dealing.holdAll [] past)) :
    ∃ after : Counters, after.Reports (past ++ [.release thread block]) ∧
      (inner.push (.counting shown)).release thread block =
        (inner.release thread block).push (.counting after) :=
  ⟨shown.recordRelease, reports.released rfl rfl rfl lawful, rfl⟩

/-- A resize through a counting layer on top has the answer from below, and the layer shows
it. -/
theorem resize_reckoned (reports : shown.Reports past)
    (h : inner.resize thread block size = (answer, between))
    (returned : (Dealing.resize thread block size answer).Returned)
    (lawful : (Dealing.resize thread block size answer).Lawful (Dealing.holdAll [] past)) :
    ∃ after : Counters, after.Reports (past ++ [.resize thread block size answer]) ∧
      (inner.push (.counting shown)).resize thread block size =
        (answer, between.push (.counting after)) := by
  cases answer with
  | ok fresh =>
      obtain ⟨after, swapped, hafter⟩ := reports.swapped thread (lawful block rfl)
      exact ⟨after, hafter, resizeThrough_counting_ok h swapped⟩
  | error stop =>
      obtain ⟨fault, rfl⟩ := returned stop rfl
      exact ⟨shown.recordRelease, reports.released rfl rfl rfl lawful,
        resizeThrough_counting_refused h⟩

/-- An operation through a counting layer on top has the dealings that it has below, and the
layer shows them. -/
theorem operate_reckoned (reports : shown.Reports past) (operation : Operation)
    (returned : ∀ dealing ∈ (inner.operate thread operation).1, dealing.Returned)
    (lawful : Dealing.Throughout Dealing.Lawful (Dealing.holdAll [] past)
      (inner.operate thread operation).1)
    (few : Dealing.Throughout Dealing.Few (Dealing.holdAll [] past)
      (inner.operate thread operation).1) :
    ∃ after : Counters, after.Reports (past ++ (inner.operate thread operation).1) ∧
      (inner.push (.counting shown)).operate thread operation =
        ((inner.operate thread operation).1,
          (inner.operate thread operation).2.push (.counting after)) := by
  cases operation with
  | allocate size =>
      rcases hcall : inner.allocate thread size with ⟨answer, between⟩
      simp only [operate, hcall] at few ⊢
      obtain ⟨after, hafter, heq⟩ := allocate_reckoned reports hcall few.1
      exact ⟨after, hafter, by simp only [heq]⟩
  | release block =>
      obtain ⟨after, hafter, heq⟩ := release_reckoned inner reports lawful.1
      exact ⟨after, hafter, by simp only [operate, heq]⟩
  | resize block size =>
      rcases hcall : inner.resize thread block size with ⟨answer, between⟩
      simp only [operate, hcall] at returned lawful ⊢
      obtain ⟨after, hafter, heq⟩ :=
        resize_reckoned reports hcall (returned _ List.mem_cons_self) lawful.1
      exact ⟨after, hafter, by simp only [heq]⟩
  | pair size =>
      obtain ⟨block, between, hallocate, hpair⟩ | ⟨stop, between, hallocate, hpair⟩ :=
        pair_eq inner thread size
      · simp only [operate, hallocate, hpair] at lawful few ⊢
        obtain ⟨asked, hasked, heq⟩ := allocate_reckoned reports hallocate few.1
        have hlawful := lawful.2.1
        rw [← Dealing.holdAll_concat] at hlawful
        obtain ⟨after, hafter, heq'⟩ := release_reckoned between hasked hlawful
        refine ⟨after, ?_, ?_⟩
        · rw [List.append_assoc] at hafter
          exact hafter
        · simp only [pair, heq, heq']
      · simp only [operate, hallocate, hpair] at few ⊢
        obtain ⟨after, hafter, heq⟩ := allocate_reckoned reports hallocate few.1
        exact ⟨after, hafter, by simp only [pair, heq]⟩

/-- Operations through a counting layer on top have the dealings that they have below, and
the layer shows them. -/
theorem operateAll_reckoned (reports : shown.Reports past)
    (operations : List (Thread × Operation))
    (returned : ∀ dealing ∈ (inner.operateAll operations).1, dealing.Returned)
    (lawful : Dealing.Throughout Dealing.Lawful (Dealing.holdAll [] past)
      (inner.operateAll operations).1)
    (few : Dealing.Throughout Dealing.Few (Dealing.holdAll [] past)
      (inner.operateAll operations).1) :
    ∃ after : Counters, after.Reports (past ++ (inner.operateAll operations).1) ∧
      (inner.push (.counting shown)).operateAll operations =
        ((inner.operateAll operations).1,
          (inner.operateAll operations).2.push (.counting after)) := by
  induction operations generalizing inner shown past with
  | nil => exact ⟨shown, by simpa [operateAll] using reports, rfl⟩
  | cons entry rest ih =>
      obtain ⟨thread, operation⟩ := entry
      simp only [operateAll, List.forall_mem_append,
        Dealing.throughout_append] at returned lawful few
      obtain ⟨first, hfirst, heq⟩ := operate_reckoned reports operation returned.1 lawful.1 few.1
      have hlawful := lawful.2
      have hfew := few.2
      rw [← Dealing.holdAll_append] at hlawful hfew
      obtain ⟨after, hafter, heq'⟩ := ih hfirst returned.2 hlawful hfew
      refine ⟨after, ?_, ?_⟩
      · rw [List.append_assoc] at hafter
        exact hafter
      · simp only [operateAll, heq, heq']

/-- A request that is refused leaves a counting layer on top as it is. -/
theorem head?_of_refused {after : Stack} {fault : Fault}
    (h : (inner.push (.counting shown)).allocate thread size = (.error (.fault fault), after)) :
    after.layers.head? = some (.counting shown) := by
  rcases hcall : inner.allocate thread size with ⟨answer, between⟩
  cases answer with
  | ok block =>
      have hcounted : settle block (shown.recordAllocation size) = .error (.fault fault) := by
        have hanswer := congrArg Prod.fst h
        unfold allocate at hcall hanswer
        simpa only [push, allocateThrough, hcall] using hanswer
      unfold settle at hcounted
      split at hcounted
      · cases hcounted
      · cases hcounted
  | error stop =>
      have hpassed : (inner.push (.counting shown)).allocate thread size = _ :=
        allocateThrough_counting_error hcall
      have hafter : between.push (.counting shown) = after :=
        congrArg Prod.snd (hpassed.symm.trans h)
      rw [← hafter]
      rfl

end Reckoned
end Stack

/-- After every operation of any sequence, a counting layer that stood unused on top of an
allocator shows what its dealings come to, and they are the dealings that the allocator has
by itself.  The allocator does not panic over them, the user gives back only blocks that it
holds, and it never holds more blocks than a word can count.  No operation panics then, and
a request that is refused next leaves the layer as it is. -/
theorem counters_report_dealings (inner : Stack) (operations : List (Thread × Operation))
    (returned : ∀ dealing ∈ (inner.operateAll operations).1, dealing.Returned)
    (lawful : Dealing.Throughout Dealing.Lawful [] (inner.operateAll operations).1)
    (few : Dealing.Throughout Dealing.Few [] (inner.operateAll operations).1) :
    ∀ done rest, operations = done ++ rest →
      ∃ shown : Counters,
        (inner.push (.counting .zero)).operateAll done =
            ((inner.operateAll done).1, (inner.operateAll done).2.push (.counting shown)) ∧
          shown.Reports (inner.operateAll done).1 ∧
          (∀ dealing ∈ (inner.operateAll done).1, dealing.Returned) ∧
          ∀ thread size fault after,
            ((inner.push (.counting .zero)).operateAll done).2.allocate thread size =
                (.error (.fault fault), after) →
              after.layers.head? = some (.counting shown) := by
  intro done rest hdone
  rw [hdone, Stack.dealings_operateAll_append] at returned lawful few
  have hreturned := (List.forall_mem_append.1 returned).1
  obtain ⟨shown, hshown, heq⟩ := Stack.operateAll_reckoned Counters.reports_zero done hreturned
    (Dealing.throughout_append.1 lawful).1 (Dealing.throughout_append.1 few).1
  refine ⟨shown, heq, hshown, hreturned, ?_⟩
  intro thread size fault after hrefused
  rw [heq] at hrefused
  exact Stack.head?_of_refused hrefused

/-- A fourth layer on top of three, which the gates do not keep from counting. -/
theorem fourth_layer_reports_dealings :
    (∀ dealing ∈ (Stack.layered.operateAll operationsThroughGates).1, dealing.Returned) ∧
      Dealing.Throughout Dealing.Lawful [] (Stack.layered.operateAll operationsThroughGates).1 ∧
      Dealing.Throughout Dealing.Few [] (Stack.layered.operateAll operationsThroughGates).1 ∧
      ((Stack.layered.push (.counting .zero)).operateAll operationsThroughGates).2.counters =
        [⟨4, 4, 31, 0, 2⟩, ⟨4, 4, 31, 0, 2⟩, ⟨4, 4, 31, 0, 1⟩, ⟨4, 4, 31, 0, 1⟩] ∧
      ∀ done rest, operationsThroughGates = done ++ rest →
        ∃ shown : Counters,
          (Stack.layered.push (.counting .zero)).operateAll done =
              ((Stack.layered.operateAll done).1,
                (Stack.layered.operateAll done).2.push (.counting shown)) ∧
            shown.Reports (Stack.layered.operateAll done).1 ∧
            (∀ dealing ∈ (Stack.layered.operateAll done).1, dealing.Returned) ∧
            ∀ thread size fault after,
              ((Stack.layered.push (.counting .zero)).operateAll done).2.allocate thread size =
                  (.error (.fault fault), after) →
                after.layers.head? = some (.counting shown) := by
  have returned : ∀ dealing ∈ (Stack.layered.operateAll operationsThroughGates).1,
      dealing.Returned := by decide
  have lawful : Dealing.Throughout Dealing.Lawful []
      (Stack.layered.operateAll operationsThroughGates).1 := by decide
  have few : Dealing.Throughout Dealing.Few []
      (Stack.layered.operateAll operationsThroughGates).1 := by decide
  refine ⟨returned, lawful, few, by decide, ?_⟩
  exact counters_report_dealings Stack.layered operationsThroughGates returned lawful few

end HeapFixtures
