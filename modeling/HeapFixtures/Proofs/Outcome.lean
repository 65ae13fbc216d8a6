/-
# What a request comes to

A request walks down the layers of a stack and its answer walks up again, with a branch
at every layer.  Seen from outside it comes to one of few things: it is granted and
every counting layer has counted it, it is refused and no counting layer has counted
anything new, or some layer panics.  This module says once, for each of the three
requests, what all layers and the heap look like afterwards.  Facts about whole runs
follow from these outcomes without another walk through the layers.

A resize that is granted splits the layers in two.  Down to the first gate that does
not pass a resize on, it is one swap.  From that gate on it is a new block followed by
the release of the old one, so for a moment both blocks are counted there.
-/

import HeapFixtures.Stack
import Mathlib.Data.List.Forall2
import Mathlib.Data.List.TakeWhile

namespace HeapFixtures

namespace Counters

/-- A granted request was counted, and every sum of it was a word. -/
def Granted (size : UInt64) (before after : Counters) : Prop :=
  before.recordAllocation size = (none, after)

/-- A block that came back was counted. -/
def Released (before after : Counters) : Prop :=
  after = before.recordRelease

/-- A resize was counted as one swap of the old block for the new one. -/
def Swapped (size : UInt64) (before after : Counters) : Prop :=
  before.recordRelease.recordAllocation size = (none, after)

/-- A resize was counted as a new block and the release of the old one. -/
def Replaced (size : UInt64) (before after : Counters) : Prop :=
  ∃ both, before.Granted size both ∧ both.Released after

/-- A request is counted without a panic exactly where one more block can be counted. -/
theorem granted_iff {size : UInt64} {before after : Counters} :
    before.Granted size after ↔
      before.live.toNat + 1 < UInt64.size ∧
        after = ⟨before.allocations + 1, before.releases, before.bytes + size,
          before.live + 1, max before.peak (before.live + 1)⟩ := by
  unfold Granted recordAllocation Word.add?
  by_cases h : before.live.toNat + 1 < UInt64.size
  · have hone : before.live.toNat + (1 : UInt64).toNat < UInt64.size := h
    rw [if_pos hone]
    simp [h, countAllocation, countBytes, countLive, countPeak, eq_comm]
  · have hone : ¬ before.live.toNat + (1 : UInt64).toNat < UInt64.size := h
    rw [if_neg hone]
    simp [h]

/-- A swap is counted without a panic exactly where a block was counted before. -/
theorem swapped_iff {size : UInt64} {before after : Counters} :
    before.Swapped size after ↔
      before.live ≠ 0 ∧
        after = ⟨before.allocations + 1, before.releases + 1, before.bytes + size,
          before.live, max before.peak before.live⟩ := by
  have hlive : before.recordRelease.live = before.live - 1 := rfl
  have hback : before.live - 1 + 1 = before.live := by simp
  have hroom : before.recordRelease.live.toNat + 1 < UInt64.size ↔ before.live ≠ 0 := by
    rw [hlive]
    have hlt := before.live.toNat_lt
    have hsub : (before.live - 1).toNat = (2 ^ 64 - 1 + before.live.toNat) % 2 ^ 64 := by
      simp [UInt64.toNat_sub]
    have hzero : before.live ≠ 0 ↔ before.live.toNat ≠ 0 := by
      simp [← UInt64.toNat_inj]
    rw [hsub, hzero]
    simp only [UInt64.size]
    omega
  have hswap : before.Swapped size after ↔ before.recordRelease.Granted size after := Iff.rfl
  rw [hswap, granted_iff, hroom]
  simp [recordRelease, countRelease, countGone]

/-- A replacement is counted without a panic where one more block can be counted. -/
theorem replaced_iff {size : UInt64} {before after : Counters} :
    before.Replaced size after ↔
      before.live.toNat + 1 < UInt64.size ∧
        after = ⟨before.allocations + 1, before.releases + 1, before.bytes + size,
          before.live, max before.peak (before.live + 1)⟩ := by
  have hback : before.live + 1 - 1 = before.live := by simp
  constructor
  · rintro ⟨both, hgranted, rfl⟩
    obtain ⟨hroom, rfl⟩ := granted_iff.mp hgranted
    refine ⟨hroom, ?_⟩
    simp [recordRelease, countRelease, countGone, hback]
  · rintro ⟨hroom, rfl⟩
    refine ⟨_, granted_iff.mpr ⟨hroom, rfl⟩, ?_⟩
    simp [Released, recordRelease, countRelease, countGone, hback]

/-- A layer panics over a granted request only where it has no room for one more. -/
theorem not_lt_of_overflow {size : UInt64} {before after : Counters} {panic : Panic}
    (h : before.recordAllocation size = (some panic, after)) :
    ¬ before.live.toNat + 1 < UInt64.size := by
  intro hroom
  have hgranted : before.Granted size _ := granted_iff.mpr ⟨hroom, rfl⟩
  unfold Granted at hgranted
  rw [h] at hgranted
  simp at hgranted

/-- A layer panics over a swap only where it has counted no block. -/
theorem live_eq_zero_of_overflow {size : UInt64} {before after : Counters} {panic : Panic}
    (h : before.recordRelease.recordAllocation size = (some panic, after)) :
    before.live = 0 := by
  by_contra hlive
  have hswapped : before.Swapped size _ := swapped_iff.mpr ⟨hlive, rfl⟩
  unfold Swapped at hswapped
  rw [h] at hswapped
  simp at hswapped

end Counters

/-- A gate that has the same rule as another; its memory may differ. -/
def Gate.Akin (gate other : Gate) : Prop :=
  gate.rule = other.rule ∧ gate.forwardsResize = other.forwardsResize ∧
    gate.records = other.records

namespace Gate

theorem akin_refl (gate : Gate) : gate.Akin gate := ⟨rfl, rfl, rfl⟩

theorem Akin.trans {first second third : Gate} (h : first.Akin second)
    (h' : second.Akin third) : first.Akin third :=
  ⟨h.1.trans h'.1, h.2.1.trans h'.2.1, h.2.2.trans h'.2.2⟩

/-- Asking a gate changes its memory only. -/
theorem akin_ask {gate after : Gate} {thread : Thread} {size : UInt64} {verdict : Verdict}
    (h : gate.ask thread size = (verdict, after)) : gate.Akin after := by
  simp only [ask, Prod.mk.injEq] at h
  obtain ⟨-, rfl⟩ := h
  exact ⟨rfl, rfl, rfl⟩

/-- A verdict comes from the rule. -/
theorem verdict_ask {gate after : Gate} {thread : Thread} {size : UInt64} {verdict : Verdict}
    (h : gate.ask thread size = (verdict, after)) :
    verdict = gate.rule thread (gate.madeBy thread + 1) size := by
  simp only [ask, Prod.mk.injEq] at h
  exact h.1.symm

end Gate

/-- One layer before and after a request: counters have changed in a given way, and a
gate has only its memory changed. -/
inductive Layer.Changes (change : Counters → Counters → Prop) : Layer → Layer → Prop
  | counting {before after : Counters} (changed : change before after) :
      Changes change (.counting before) (.counting after)
  | gate {before after : Gate} (akin : before.Akin after) :
      Changes change (.gate before) (.gate after)

/-- All layers of a stack before and after a request. -/
abbrev Changed (change : Counters → Counters → Prop) (before after : List Layer) : Prop :=
  List.Forall₂ (Layer.Changes change) before after

section Changed

variable {change next : Counters → Counters → Prop} {layers after last : List Layer}

/-- Layers that nothing happened to. -/
theorem changed_refl (layers : List Layer) : Changed Eq layers layers := by
  apply List.forall₂_same.mpr
  intro layer _
  cases layer with
  | counting counters =>
      exact .counting rfl
  | gate gate =>
      exact .gate gate.akin_refl

theorem Changed.mono (h : Changed change layers after)
    (weaker : ∀ before after, change before after → next before after) :
    Changed next layers after := by
  apply List.Forall₂.imp _ h
  rintro _ _ (⟨changed⟩ | ⟨akin⟩)
  · exact .counting (weaker _ _ changed)
  · exact .gate akin

/-- Two changes one after the other. -/
theorem Changed.comp (h : Changed change layers after) (h' : Changed next after last) :
    Changed (fun before last => ∃ between, change before between ∧ next between last)
      layers last := by
  induction h generalizing last with
  | nil =>
      cases h'
      exact .nil
  | cons hd _ ih =>
      cases h' with
      | cons hd' tl' =>
          refine .cons ?_ (ih tl')
          cases hd with
          | counting changed =>
              cases hd' with
              | counting changed' => exact .counting ⟨_, changed, changed'⟩
          | gate akin =>
              cases hd' with
              | gate akin' => exact .gate (akin.trans akin')

end Changed

/-- No gate ever panics. -/
def Calm (layers : List Layer) : Prop :=
  ∀ gate, .gate gate ∈ layers → ∀ thread number size panic,
    (gate.rule thread number size).answer ≠ .panic panic

/-- Every counting layer can count one more block. -/
def HasRoom (layers : List Layer) : Prop :=
  ∀ counters, .counting counters ∈ layers → counters.live.toNat + 1 < UInt64.size

/-- Every counting layer has counted a block. -/
def HasBlock (layers : List Layer) : Prop :=
  ∀ counters, .counting counters ∈ layers → counters.live ≠ 0

/-- Whether a layer passes a resize on as one request. -/
def Layer.passesResize : Layer → Bool
  | .counting _ => true
  | .gate rule => rule.forwardsResize

/-- Every layer passes a resize on as one request. -/
def Forwards (layers : List Layer) : Prop :=
  ∀ layer ∈ layers, layer.passesResize = true

/-- The layers that see a resize from above as a resize. -/
def swapping (layers : List Layer) : List Layer :=
  layers.takeWhile Layer.passesResize

/-- The layers that see a resize from above as a new block and a release: those from
the first one on that does not pass it on. -/
def replacing (layers : List Layer) : List Layer :=
  layers.dropWhile Layer.passesResize

section Zones

variable {change : Counters → Counters → Prop} {layers after below : List Layer}
  {layer layer' : Layer}

theorem swapping_append_replacing (layers : List Layer) :
    swapping layers ++ replacing layers = layers :=
  List.takeWhile_append_dropWhile

theorem swapping_cons (h : layer.passesResize = true) :
    swapping (layer :: below) = layer :: swapping below :=
  List.takeWhile_cons_of_pos h

theorem replacing_cons (h : layer.passesResize = true) :
    replacing (layer :: below) = replacing below :=
  List.dropWhile_cons_of_pos h

theorem swapping_cons_of_not (h : ¬ layer.passesResize = true) :
    swapping (layer :: below) = [] :=
  List.takeWhile_cons_of_neg h

theorem replacing_cons_of_not (h : ¬ layer.passesResize = true) :
    replacing (layer :: below) = layer :: below :=
  List.dropWhile_cons_of_neg h

theorem replacing_of_forwards (h : Forwards layers) : replacing layers = [] :=
  List.dropWhile_eq_nil_iff.mpr h

theorem swapping_append_of_forwards (h : Forwards layers) :
    swapping (layers ++ below) = layers ++ swapping below :=
  List.takeWhile_append_of_pos h

theorem replacing_append_of_forwards (h : Forwards layers) :
    replacing (layers ++ below) = replacing below :=
  List.dropWhile_append_of_pos h

theorem replacing_append_of_not_forwards (h : ¬ Forwards layers) :
    replacing (layers ++ below) = replacing layers ++ below := by
  have hsome : ¬ (layers.dropWhile Layer.passesResize).isEmpty = true := by
    rw [List.isEmpty_iff, List.dropWhile_eq_nil_iff]
    exact h
  unfold replacing
  rw [List.dropWhile_append, if_neg hsome]

/-- No request changes how a layer treats a resize. -/
theorem Layer.Changes.passesResize_eq (h : layer.Changes change layer') :
    layer'.passesResize = layer.passesResize := by
  cases h with
  | counting _ => rfl
  | gate akin => exact akin.2.1.symm

theorem Changed.swapping (h : Changed change layers after) :
    Changed change (swapping layers) (swapping after) := by
  induction h with
  | nil => exact .nil
  | @cons layer layer' below below' hd tl ih =>
      by_cases hpass : layer.passesResize = true
      · rw [swapping_cons hpass, swapping_cons (hd.passesResize_eq.trans hpass)]
        exact .cons hd ih
      · rw [swapping_cons_of_not hpass,
          swapping_cons_of_not (by rw [hd.passesResize_eq]; exact hpass)]
        exact .nil

theorem Changed.replacing (h : Changed change layers after) :
    Changed change (replacing layers) (replacing after) := by
  induction h with
  | nil => exact .nil
  | @cons layer layer' below below' hd tl ih =>
      by_cases hpass : layer.passesResize = true
      · rw [replacing_cons hpass, replacing_cons (hd.passesResize_eq.trans hpass)]
        exact ih
      · rw [replacing_cons_of_not hpass,
          replacing_cons_of_not (by rw [hd.passesResize_eq]; exact hpass)]
        exact .cons hd tl

/-- Two changes, each in its part of the layers, are a change of all of them. -/
theorem Changed.of_zones {other : Counters → Counters → Prop}
    (h : Changed change (HeapFixtures.swapping layers) (HeapFixtures.swapping after))
    (h' : Changed other (HeapFixtures.replacing layers) (HeapFixtures.replacing after)) :
    Changed (fun before shown => change before shown ∨ other before shown) layers after := by
  rw [← swapping_append_replacing layers, ← swapping_append_replacing after]
  exact List.rel_append (h.mono fun _ _ => Or.inl) (h'.mono fun _ _ => Or.inr)

end Zones

section Site

variable {site after : Site} {thread : Thread} {size : UInt64} {block fresh : Block}
  {fault : Fault}

@[simp]
theorem Site.heap_mention (site : Site) (thread : Thread) (message : String) (size : UInt64) :
    (site.mention thread message size).heap = site.heap := by
  unfold mention
  split <;> rfl

@[simp]
theorem Stack.heap_heed (site : Site) (verdict : Verdict) :
    (heed site verdict).heap = site.heap := by
  unfold heed
  split <;> rfl

/-- A block that the heap hands out comes from one request of it. -/
theorem Site.grant_of_allocate (h : site.allocate thread size = (.ok block, after)) :
    site.heap.grant size = (some block, after.heap) := by
  unfold allocate at h
  split at h
  · simp at h
  · split at h
    · rename_i granted heap hgrant
      simp only [Prod.mk.injEq, Except.ok.injEq] at h
      obtain ⟨rfl, rfl⟩ := h
      rw [hgrant, Site.heap_mention]
    · simp at h

/-- A request that the heap refuses leaves it as it was, or was a request of it. -/
theorem Site.heap_of_allocate_refused
    (h : site.allocate thread size = (.error fault, after)) :
    after.heap = site.heap ∨ site.heap.grant size = (none, after.heap) := by
  unfold allocate at h
  split at h
  · simp only [Prod.mk.injEq] at h
    exact .inl (by rw [h.2])
  · split at h
    · simp at h
    · rename_i heap hgrant
      simp only [Prod.mk.injEq] at h
      rw [← h.2]
      exact .inr hgrant

@[simp]
theorem Site.heap_release (site : Site) (thread : Thread) (block : Block) :
    (site.release thread block).heap = site.heap.free block := by
  simp [release]

/-- A block that the heap moves comes from one move of it. -/
theorem Site.move_of_resize (h : site.resize thread block size = (.ok fresh, after)) :
    site.heap.move block size = (some fresh, after.heap) := by
  unfold resize at h
  split at h
  · simp at h
  · split at h
    · rename_i moved heap hmove
      simp only [Prod.mk.injEq, Except.ok.injEq] at h
      obtain ⟨rfl, rfl⟩ := h
      rw [hmove, Site.heap_mention]
    · simp at h

/-- A move that the heap refuses frees the old block all the same. -/
theorem Site.heap_of_resize_refused
    (h : site.resize thread block size = (.error fault, after)) :
    ∃ heap, (heap = site.heap ∨ site.heap.grant size = (none, heap)) ∧
      after.heap = heap.free block := by
  unfold resize at h
  split at h
  · simp only [Prod.mk.injEq] at h
    exact ⟨site.heap, .inl rfl, by rw [← h.2, Site.heap_release]⟩
  · split at h
    · simp at h
    · rename_i heap hmove
      simp only [Prod.mk.injEq] at h
      refine ⟨heap, .inr ?_, by rw [← h.2]⟩
      unfold Heap.move at hmove
      split at hmove
      · simp at hmove
      · rename_i refused hgrant
        simp only [Prod.mk.injEq, true_and] at hmove
        rw [hgrant, hmove]

end Site

namespace Stack

@[simp]
theorem layers_push (layer : Layer) (stack : Stack) :
    (stack.push layer).layers = layer :: stack.layers := rfl

@[simp]
theorem site_push (layer : Layer) (stack : Stack) : (stack.push layer).site = stack.site := rfl

@[simp]
theorem layers_note (stack : Stack) (records : Bool) (thread : Thread) (call : Call) :
    (stack.note records thread call).layers = stack.layers := by
  unfold note
  split <;> rfl

@[simp]
theorem heap_note (stack : Stack) (records : Bool) (thread : Thread) (call : Call) :
    (stack.note records thread call).site.heap = stack.site.heap := by
  unfold note
  split <;> rfl

/-- What a request for a new block can come to. -/
inductive Allocates (size : UInt64) (layers : List Layer) (site : Site) :
    Except Stop Block → Stack → Prop
  /-- All layers have counted it, and the heap was asked once. -/
  | granted {block : Block} {after : Stack}
      (counted : Changed (Counters.Granted size) layers after.layers)
      (heap : site.heap.grant size = (some block, after.site.heap)) :
      Allocates size layers site (.ok block) after
  /-- No layer has counted anything, and the heap refused if it was asked. -/
  | refused {fault : Fault} {after : Stack}
      (counted : Changed Eq layers after.layers)
      (heap : after.site.heap = site.heap ∨
        site.heap.grant size = (none, after.site.heap)) :
      Allocates size layers site (.error (.fault fault)) after
  /-- A gate panics, or a layer cannot count one more block. -/
  | panicked {panic : Panic} {after : Stack}
      (blame : Calm layers → ¬ HasRoom layers) :
      Allocates size layers site (.error (.panic panic)) after

/-- What becomes of a resize. -/
inductive Resizes (block : Block) (size : UInt64) (layers : List Layer) (site : Site) :
    Except Stop Block → Stack → Prop
  /-- The layers that see the resize have counted a swap, all others a new block and a
  release, and the heap has moved the block. -/
  | granted {fresh : Block} {after : Stack}
      (swapped : Changed (Counters.Swapped size) (swapping layers) (swapping after.layers))
      (replaced : Changed (Counters.Replaced size) (replacing layers)
        (replacing after.layers))
      (heap : site.heap.move block size = (some fresh, after.site.heap)) :
      Resizes block size layers site (.ok fresh) after
  /-- All layers have counted the release of the old block, and the heap has freed it. -/
  | refused {fault : Fault} {after : Stack}
      (counted : Changed Counters.Released layers after.layers)
      (heap : ∃ heap, (heap = site.heap ∨ site.heap.grant size = (none, heap)) ∧
        after.site.heap = heap.free block) :
      Resizes block size layers site (.error (.fault fault)) after
  /-- A gate panics, a layer has no block to swap, or a layer below a gate that does not
  pass a resize on cannot count one more block. -/
  | panicked {panic : Panic} {after : Stack}
      (blame : Calm layers → HasBlock layers → ¬ Forwards layers ∧ ¬ HasRoom layers) :
      Resizes block size layers site (.error (.panic panic)) after

/-- One more counting layer on top, below which a request was granted. -/
theorem allocates_counting {size : UInt64} {below : List Layer} {site : Site}
    {block : Block} {stack : Stack} {counters : Counters}
    (h : Allocates size below site (.ok block) stack) :
    Allocates size (.counting counters :: below) site
      (settle block (counters.recordAllocation size))
      (stack.push (.counting (counters.recordAllocation size).2)) := by
  cases h with
  | granted counted heap =>
      rcases hrecord : counters.recordAllocation size with ⟨overflow, after⟩
      cases overflow with
      | none =>
          exact .granted (.cons (.counting hrecord) counted) heap
      | some panic =>
          apply Allocates.panicked
          intro _ room
          exact Counters.not_lt_of_overflow hrecord (room counters List.mem_cons_self)

theorem calm_of_cons {layer : Layer} {below : List Layer} (h : Calm (layer :: below)) :
    Calm below :=
  fun gate hgate => h gate (List.mem_cons_of_mem _ hgate)

theorem hasRoom_of_cons {layer : Layer} {below : List Layer} (h : HasRoom (layer :: below)) :
    HasRoom below :=
  fun counters hcounters => h counters (List.mem_cons_of_mem _ hcounters)

theorem hasBlock_of_cons {layer : Layer} {below : List Layer}
    (h : HasBlock (layer :: below)) : HasBlock below :=
  fun counters hcounters => h counters (List.mem_cons_of_mem _ hcounters)

theorem forwards_of_cons {layer : Layer} {below : List Layer}
    (h : Forwards (layer :: below)) : Forwards below :=
  fun inner hinner => h inner (List.mem_cons_of_mem _ hinner)

/-- A calm gate does not answer with a panic. -/
theorem not_calm_of_panic {gate after : Gate} {thread : Thread} {size : UInt64}
    {verdict : Verdict} {panic : Panic} {below : List Layer}
    (hask : gate.ask thread size = (verdict, after)) (hanswer : verdict.answer = .panic panic) :
    ¬ Calm (.gate gate :: below) := by
  intro calm
  rw [Gate.verdict_ask hask] at hanswer
  exact calm gate List.mem_cons_self _ _ _ _ hanswer

/-- A request for a new block comes to one of the three outcomes. -/
theorem allocates (thread : Thread) (size : UInt64) (layers : List Layer) (site : Site) :
    Allocates size layers site (allocateThrough thread size layers site).1
      (allocateThrough thread size layers site).2 := by
  fun_induction allocateThrough thread size layers site with
  | case1 site block after h =>
      exact .granted .nil (Site.grant_of_allocate h)
  | case2 site fault after h =>
      exact .refused .nil (Site.heap_of_allocate_refused h)
  | case3 counters below site block stack h counted ih =>
      rw [h] at ih
      exact allocates_counting ih
  | case4 counters below site stop stack h ih =>
      rw [h] at ih
      cases ih with
      | refused counted heap =>
          exact .refused (.cons (.counting rfl) counted) heap
      | panicked blame =>
          exact .panicked fun calm room =>
            blame (calm_of_cons calm) (hasRoom_of_cons room)
  | case5 gate below site verdict gate' hask site' panic hanswer =>
      exact .panicked fun calm _ => not_calm_of_panic hask hanswer calm
  | case6 gate below site verdict gate' hask site' fault hanswer =>
      refine .refused ?_ (.inl ?_)
      · rw [layers_note]
        exact .cons (.gate (Gate.akin_ask hask)) (changed_refl below)
      · rw [heap_note]
        exact heap_heed site verdict
  | case7 gate below site verdict gate' hask site' hanswer block stack h ih =>
      rw [h] at ih
      cases ih with
      | granted counted heap =>
          apply Allocates.granted
          · rw [layers_note]
            exact .cons (.gate (Gate.akin_ask hask)) counted
          · rw [heap_note, site_push, ← heap, heap_heed]
  | case8 gate below site verdict gate' hask site' hanswer fault stack h ih =>
      rw [h] at ih
      cases ih with
      | refused counted heap =>
          rw [heap_heed] at heap
          apply Allocates.refused
          · rw [layers_note]
            exact .cons (.gate (Gate.akin_ask hask)) counted
          · rw [heap_note]
            exact heap
  | case9 gate below site verdict gate' hask site' hanswer stop stack hstop h ih =>
      rw [h] at ih
      cases ih with
      | refused _ _ =>
          exact (hstop _ rfl).elim
      | panicked blame =>
          exact .panicked fun calm room =>
            blame (calm_of_cons calm) (hasRoom_of_cons room)

/-- A block on its way back is counted by all layers and freed once. -/
theorem releases (thread : Thread) (block : Block) (layers : List Layer) (site : Site) :
    Changed Counters.Released layers (releaseThrough thread block layers site).layers ∧
      (releaseThrough thread block layers site).site.heap = site.heap.free block := by
  fun_induction releaseThrough thread block layers site with
  | case1 site =>
      exact ⟨.nil, Site.heap_release site thread block⟩
  | case2 counters below site ih =>
      exact ⟨.cons (.counting rfl) ih.1, ih.2⟩
  | case3 gate below site noted ih =>
      refine ⟨.cons (.gate gate.akin_refl) ih.1, ?_⟩
      rw [site_push, ih.2]
      exact congrArg (Heap.free · block) (heap_note _ _ _ _)

/-- The default way to resize through layers that begin with a gate that does not pass
a resize on. -/
theorem resizes_replaceThrough (thread : Thread) (block : Block) (size : UInt64)
    {gate : Gate} (hgate : gate.forwardsResize = false) (below : List Layer) (site : Site) :
    Resizes block size (.gate gate :: below) site
      (replaceThrough thread block size (.gate gate :: below) site).1
      (replaceThrough thread block size (.gate gate :: below) site).2 := by
  have hallocates := allocates thread size (.gate gate :: below) site
  unfold replaceThrough
  rcases h : allocateThrough thread size (.gate gate :: below) site with ⟨answer, stack⟩
  rw [h] at hallocates
  cases hallocates with
  | @granted fresh _ counted heap =>
      obtain ⟨released, hfree⟩ := releases thread block stack.layers
        { stack.site with heap := stack.site.heap.copy block fresh }
      have hreplaced := counted.comp released
      refine .granted ?_ hreplaced.replacing ?_
      · have hnone := hreplaced.swapping
        rw [swapping_cons_of_not (by simp [Layer.passesResize, hgate])] at hnone ⊢
        rw [List.forall₂_nil_left_iff.mp hnone]
        exact .nil
      · rw [hfree]
        simp [Heap.move, heap]
  | refused counted heap =>
      obtain ⟨released, hfree⟩ := releases thread block stack.layers stack.site
      refine .refused ?_ ⟨stack.site.heap, heap, hfree⟩
      apply (counted.comp released).mono
      rintro before after ⟨_, rfl, hreleased⟩
      exact hreleased
  | panicked blame =>
      apply Resizes.panicked
      intro calm _
      refine ⟨?_, blame calm⟩
      intro forwards
      have hforwards := forwards (.gate gate) List.mem_cons_self
      simp [Layer.passesResize, hgate] at hforwards

/-- One more layer on top that passes a resize on, below which it was granted. -/
theorem resizes_granted_cons {block fresh : Block} {size : UInt64} {below : List Layer}
    {site inner : Site} {stack after : Stack} {layer layer' : Layer}
    (h : Resizes block size below inner (.ok fresh) stack)
    (change : Layer.Changes (Counters.Swapped size) layer layer')
    (passes : layer.passesResize = true) (hinner : inner.heap = site.heap)
    (hlayers : after.layers = layer' :: stack.layers)
    (hafter : after.site.heap = stack.site.heap) :
    Resizes block size (layer :: below) site (.ok fresh) after := by
  have passes' := change.passesResize_eq.trans passes
  cases h with
  | granted swapped replaced heap =>
      apply Resizes.granted
      · rw [hlayers, swapping_cons passes, swapping_cons passes']
        exact .cons change swapped
      · rw [hlayers, replacing_cons passes, replacing_cons passes']
        exact replaced
      · rw [← hinner, hafter]
        exact heap

/-- One more counting layer on top, below which a resize was granted. -/
theorem resizes_counting {block fresh : Block} {size : UInt64} {below : List Layer}
    {site : Site} {stack : Stack} {counters : Counters}
    (h : Resizes block size below site (.ok fresh) stack) :
    Resizes block size (.counting counters :: below) site
      (settle fresh (counters.recordRelease.recordAllocation size))
      (stack.push (.counting (counters.recordRelease.recordAllocation size).2)) := by
  rcases hrecord : counters.recordRelease.recordAllocation size with ⟨overflow, after⟩
  cases overflow with
  | none =>
      exact resizes_granted_cons h (.counting hrecord) rfl rfl rfl rfl
  | some panic =>
      apply Resizes.panicked
      intro _ hasBlock
      exact (hasBlock counters List.mem_cons_self
        (Counters.live_eq_zero_of_overflow hrecord)).elim

/-- What is to blame for a panic below is to blame for it in the whole stack. -/
theorem blame_of_cons {layer : Layer} {below : List Layer}
    (blame : Calm below → HasBlock below → ¬ Forwards below ∧ ¬ HasRoom below)
    (calm : Calm (layer :: below)) (hasBlock : HasBlock (layer :: below)) :
    ¬ Forwards (layer :: below) ∧ ¬ HasRoom (layer :: below) := by
  obtain ⟨hforwards, hroom⟩ := blame (calm_of_cons calm) (hasBlock_of_cons hasBlock)
  exact ⟨fun forwards => hforwards (forwards_of_cons forwards),
    fun room => hroom (hasRoom_of_cons room)⟩

/-- A request to move a block comes to one of the three outcomes. -/
theorem resizes (thread : Thread) (block : Block) (size : UInt64) (layers : List Layer)
    (site : Site) :
    Resizes block size layers site (resizeThrough thread block size layers site).1
      (resizeThrough thread block size layers site).2 := by
  fun_induction resizeThrough thread block size layers site with
  | case1 site fresh after h =>
      exact .granted .nil .nil (Site.move_of_resize h)
  | case2 site fault after h =>
      exact .refused .nil (Site.heap_of_resize_refused h)
  | case3 counters below site fresh stack h counted ih =>
      rw [h] at ih
      exact resizes_counting ih
  | case4 counters below site fault stack h ih =>
      rw [h] at ih
      cases ih with
      | refused counted heap =>
          exact .refused (.cons (.counting rfl) counted) heap
  | case5 counters below site stop stack hstop h ih =>
      rw [h] at ih
      cases ih with
      | refused _ _ =>
          exact (hstop _ rfl).elim
      | panicked blame =>
          exact .panicked (blame_of_cons blame)
  | case6 gate below site hforwards verdict gate' hask site' panic hanswer =>
      exact .panicked fun calm _ => (not_calm_of_panic hask hanswer calm).elim
  | case7 gate below site hforwards verdict gate' hask site' fault hanswer =>
      obtain ⟨released, hfree⟩ := releases thread block below (heed site verdict)
      refine .refused ?_ ⟨site.heap, .inl rfl, ?_⟩
      · rw [layers_note]
        exact .cons (.gate (Gate.akin_ask hask)) released
      · rw [heap_note, site_push, hfree, heap_heed]
  | case8 gate below site hforwards verdict gate' hask site' hanswer fresh stack h ih =>
      rw [h] at ih
      exact resizes_granted_cons ih (.gate (Gate.akin_ask hask)) hforwards
        (heap_heed site verdict) (by simp) (by simp)
  | case9 gate below site hforwards verdict gate' hask site' hanswer fault stack h ih =>
      rw [h] at ih
      cases ih with
      | refused counted heap =>
          rw [heap_heed] at heap
          apply Resizes.refused
          · rw [layers_note]
            exact .cons (.gate (Gate.akin_ask hask)) counted
          · rw [heap_note]
            exact heap
  | case10 gate below site hforwards verdict gate' hask site' hanswer stop stack hstop h ih =>
      rw [h] at ih
      cases ih with
      | refused _ _ =>
          exact (hstop _ rfl).elim
      | panicked blame =>
          exact .panicked (blame_of_cons blame)
  | case11 gate below site hforwards =>
      exact resizes_replaceThrough thread block size (by simpa using hforwards) below site

end Stack
end HeapFixtures
