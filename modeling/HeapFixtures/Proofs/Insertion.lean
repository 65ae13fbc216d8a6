/-
# Counting layers added to a stack

Counting layers may be added to a stack at any places between its layers.  A list of tiers
says which layers were given and which were added; it stands for two stacks, one without the
added layers and one with them.

A request that is sent to both stacks has the same answer from both, whether that is a block,
a fault or a panic, and leaves both stacks as before: each given layer has the same state, the
heap and the journal are the same, and so is the list of calls up to the numbers of the layers
that noted them.  All that an added layer needs for it is room to count one more block where
the heap hands one out, and, for a resize, a block that it has counted.

What an added layer counts as live stays between two bounds.  It grows by no more than the
blocks that the heap has in use, and by no less than the blocks that the user holds; the two
differ where a panic loses a block on its way.
-/

import HeapFixtures.Proofs.InUse
import HeapFixtures.Proofs.Layering

namespace HeapFixtures

/-- A place in a stack, with the layer that was given there or a counting layer that was
added. -/
inductive Tier
  | given (layer : Layer)
  | added (counters : Counters)

namespace Tier

def isAdded : Tier → Bool
  | .given _ => false
  | .added _ => true

def layer : Tier → Layer
  | .given layer => layer
  | .added counters => .counting counters

def given? : Tier → Option Layer
  | .given layer => some layer
  | .added _ => none

/-- The layers that were given. -/
def bare (tiers : List Tier) : List Layer := tiers.filterMap given?

/-- The layers that were given and those that were added. -/
def full (tiers : List Tier) : List Layer := tiers.map layer

/-- The number of a given layer among all layers, by its number among the given ones.  Both
are counted from the heap. -/
def place : List Tier → Nat → Nat
  | [], number => number
  | .added _ :: below, number => place below number
  | .given _ :: below, number =>
    if number = (bare below).length + 1 then (full below).length + 1 else place below number

/-- A condition on all added layers. -/
def Everywhere (condition : Counters → Prop) (tiers : List Tier) : Prop :=
  ∀ counters, .added counters ∈ tiers → condition counters

/-- A numbering under which each given layer has its number among all layers. -/
def Fits (place : Nat → Nat) : List Tier → Prop
  | [] => True
  | .added _ :: below => Fits place below
  | .given _ :: below =>
    place ((bare below).length + 1) = (full below).length + 1 ∧ Fits place below

section Tiers

variable {layer : Layer} {counters : Counters} {tier : Tier} {tiers below : List Tier}
  {place other : Nat → Nat} {condition : Counters → Prop}

@[simp]
theorem bare_nil : bare [] = [] := rfl

@[simp]
theorem bare_given : bare (.given layer :: below) = layer :: bare below := rfl

@[simp]
theorem bare_added : bare (.added counters :: below) = bare below := rfl

@[simp]
theorem full_nil : full [] = [] := rfl

@[simp]
theorem full_given : full (.given layer :: below) = layer :: full below := rfl

@[simp]
theorem full_added : full (.added counters :: below) = .counting counters :: full below := rfl

theorem Everywhere.head (h : Everywhere condition (.added counters :: below)) :
    condition counters :=
  h counters List.mem_cons_self

theorem Everywhere.tail (h : Everywhere condition (tier :: below)) : Everywhere condition below :=
  fun counters hcounters => h counters (List.mem_cons_of_mem _ hcounters)

theorem Fits.tail (h : Fits place (tier :: below)) : Fits place below := by
  cases tier with
  | given layer => exact h.2
  | added counters => exact h

/-- Only the numbers of layers matter. -/
theorem Fits.congr (h : Fits place tiers)
    (agree : ∀ number ≤ (bare tiers).length, other number = place number) :
    Fits other tiers := by
  induction tiers with
  | nil => trivial
  | cons tier below ih =>
      cases tier with
      | added counters => exact ih h agree
      | given layer =>
          refine ⟨(agree _ (Nat.le_refl _)).trans h.1, ih h.2 ?_⟩
          intro number hnumber
          exact agree number (Nat.le_succ_of_le hnumber)

theorem fits_place (tiers : List Tier) : Fits (Tier.place tiers) tiers := by
  induction tiers with
  | nil => trivial
  | cons tier below ih =>
      cases tier with
      | added counters => exact ih
      | given layer =>
          refine ⟨by simp [Tier.place], ih.congr ?_⟩
          intro number hnumber
          have hother : number ≠ (bare below).length + 1 := by omega
          simp [Tier.place, hother]

end Tiers

/-- One tier before and after a request: what an added layer counts as live has changed by
some number between two bounds. -/
inductive Drifts (low high : Int) : Tier → Tier → Prop
  | given (before after : Layer) : Drifts low high (.given before) (.given after)
  | added {before after : Counters} (low_le : before.live.toNat + low ≤ after.live.toNat)
      (le_high : after.live.toNat ≤ before.live.toNat + high) :
      Drifts low high (.added before) (.added after)

/-- All tiers before and after a request. -/
abbrev Drifted (low high : Int) (tiers now : List Tier) : Prop :=
  List.Forall₂ (Drifts low high) tiers now

namespace Drifted

variable {low high low' high' : Int} {tiers now last : List Tier}

theorem refl (hlow : low ≤ 0) (hhigh : 0 ≤ high) (tiers : List Tier) :
    Drifted low high tiers tiers := by
  apply List.forall₂_same.2
  intro tier _
  cases tier with
  | given layer => exact .given layer layer
  | added counters => exact .added (by omega) (by omega)

theorem mono (h : Drifted low high tiers now) (hlow : low' ≤ low) (hhigh : high ≤ high') :
    Drifted low' high' tiers now := by
  apply List.Forall₂.imp _ h
  rintro _ _ (⟨before, after⟩ | ⟨low_le, le_high⟩)
  · exact .given before after
  · exact .added (by omega) (by omega)

theorem trans (h : Drifted low high tiers now) (h' : Drifted low' high' now last) :
    Drifted (low + low') (high + high') tiers last := by
  induction h generalizing last with
  | nil =>
      cases h'
      exact .nil
  | cons hd _ ih =>
      cases h' with
      | cons hd' tl' =>
          refine .cons ?_ (ih tl')
          cases hd with
          | given before between =>
              cases hd' with
              | given _ after => exact .given before after
          | added low_le le_high =>
              cases hd' with
              | added low_le' le_high' => exact .added (by omega) (by omega)

/-- The places of the added layers stay what they are. -/
theorem isAdded_eq (h : Drifted low high tiers now) :
    now.map isAdded = tiers.map isAdded := by
  induction h with
  | nil => rfl
  | cons hd _ ih =>
      cases hd with
      | given before after => simp [isAdded, ih]
      | added low_le le_high => simp [isAdded, ih]

theorem length_bare (h : Drifted low high tiers now) :
    (bare now).length = (bare tiers).length := by
  induction h with
  | nil => rfl
  | cons hd _ ih =>
      cases hd with
      | given before after => simp [ih]
      | added low_le le_high => simp [ih]

theorem length_full (h : Drifted low high tiers now) :
    (full now).length = (full tiers).length := by
  rw [full, full, List.length_map, List.length_map]
  exact (List.Forall₂.length_eq h).symm

theorem fits (h : Drifted low high tiers now) {place : Nat → Nat} (hfits : Fits place tiers) :
    Fits place now := by
  induction h with
  | nil => trivial
  | cons hd tl ih =>
      cases hd with
      | added low_le le_high => exact ih hfits
      | given before after =>
          refine ⟨?_, ih hfits.2⟩
          rw [length_bare tl, length_full tl]
          exact hfits.1

/-- An added layer afterwards is one from before. -/
theorem everywhere {condition next : Counters → Prop} (h : Drifted low high tiers now)
    (hall : Everywhere condition tiers)
    (step : ∀ before after : Counters, condition before →
      before.live.toNat + low ≤ after.live.toNat → after.live.toNat ≤ before.live.toNat + high →
      next after) :
    Everywhere next now := by
  induction h with
  | nil => exact fun _ hnone => absurd hnone List.not_mem_nil
  | cons hd tl ih =>
      intro counters hcounters
      rcases List.mem_cons.1 hcounters with hhead | htail
      · subst hhead
        cases hd with
        | added low_le le_high => exact step _ _ hall.head low_le le_high
      · exact ih hall.tail counters htail

end Drifted
end Tier

/-- A site under another numbering of the layers. -/
def Site.renumber (place : Nat → Nat) (site : Site) : Site :=
  { site with calls := site.calls.map fun record => { record with layer := place record.layer } }

namespace Site

variable (place : Nat → Nat) (site : Site) (thread : Thread) (block : Block) (size : UInt64)

@[simp]
theorem heap_renumber : (site.renumber place).heap = site.heap := rfl

@[simp]
theorem stopRequested_renumber : (site.renumber place).stopRequested = site.stopRequested := rfl

theorem note_renumber (layer : Nat) (call : Call) :
    (site.renumber place).note ⟨thread, place layer, call⟩ =
      (site.note ⟨thread, layer, call⟩).renumber place := by
  simp [note, renumber]

theorem mention_renumber (message : String) :
    (site.renumber place).mention thread message size =
      (site.mention thread message size).renumber place := by
  unfold mention
  rw [heap_renumber]
  split <;> rfl

theorem allocate_renumber :
    (site.renumber place).allocate thread size =
      ((site.allocate thread size).1, (site.allocate thread size).2.renumber place) := by
  unfold allocate
  rw [heap_renumber]
  split
  · rfl
  · split
    · rename_i granted heap hgrant
      exact Prod.ext rfl (mention_renumber place { site with heap := heap } thread size _)
    · rfl

theorem release_renumber :
    (site.renumber place).release thread block = (site.release thread block).renumber place := by
  simp only [release, mention_renumber]
  rfl

theorem resize_renumber :
    (site.renumber place).resize thread block size =
      ((site.resize thread block size).1, (site.resize thread block size).2.renumber place) := by
  unfold resize
  rw [heap_renumber]
  split
  · rw [release_renumber]
  · split
    · rename_i fresh heap hmove
      exact Prod.ext rfl (mention_renumber place { site with heap := heap } thread size _)
    · rfl

end Site

/-- Two stacks that are alike but for the added layers: one has the given layers, the other
has all, and they share everything else. -/
structure Tier.Mirrors (place : Nat → Nat) (tiers : List Tier) (plain counted : Stack) :
    Prop where
  bare : plain.layers = Tier.bare tiers
  full : counted.layers = Tier.full tiers
  site : counted.site = plain.site.renumber place

namespace Tier

/-- An added layer has room for one more block. -/
def Roomy (counters : Counters) : Prop := counters.live.toNat + 1 < UInt64.size

/-- An added layer has counted a block. -/
def Stocked (counters : Counters) : Prop := 0 < counters.live.toNat

namespace Mirrors

variable {place : Nat → Nat} {tiers below : List Tier} {plain counted : Stack} {layer : Layer}

theorem given (h : Mirrors place below plain counted) (layer : Layer) :
    Mirrors place (.given layer :: below) (plain.push layer) (counted.push layer) :=
  ⟨congrArg (layer :: ·) h.bare, congrArg (layer :: ·) h.full, h.site⟩

theorem added (h : Mirrors place below plain counted) (counters : Counters) :
    Mirrors place (.added counters :: below) plain (counted.push (.counting counters)) :=
  ⟨h.bare, congrArg (Layer.counting counters :: ·) h.full, h.site⟩

/-- A given layer on top notes a call under its own number. -/
theorem note (h : Mirrors place (.given layer :: below) plain counted)
    (fits : Fits place (.given layer :: below)) (records : Bool) (thread : Thread) (call : Call) :
    Mirrors place (.given layer :: below) (plain.note records thread call)
      (counted.note records thread call) := by
  refine ⟨?_, ?_, ?_⟩
  · rw [Stack.layers_note]
    exact h.bare
  · rw [Stack.layers_note]
    exact h.full
  · unfold Stack.note
    cases records with
    | false => exact h.site
    | true =>
        have hplain : plain.layers.length = (Tier.bare below).length + 1 := by
          rw [h.bare, bare_given, List.length_cons]
        have hcounted : counted.layers.length = place plain.layers.length := by
          rw [h.full, full_given, List.length_cons, hplain]
          exact fits.1.symm
        simp only [if_true]
        rw [h.site, hcounted, Site.note_renumber]

theorem answered (h : Mirrors place below plain counted) {gate : Gate}
    (fits : Fits place (.given (.gate gate) :: below)) (thread : Thread) (call : Bool → Call)
    (reply : Except Stop Block) :
    Mirrors place (.given (.gate gate) :: below) (plain.answered gate thread call reply)
      (counted.answered gate thread call reply) := by
  unfold Stack.answered
  split
  · exact (h.given _).note fits _ _ _
  · exact (h.given _).note fits _ _ _
  · exact h.given _

end Mirrors

section Requests

variable {place : Nat → Nat} {thread : Thread} {size : UInt64} {block : Block}
  {tiers below : List Tier} {site : Site} {answer reply : Except Stop Block}
  {plain counted : Stack}

theorem heed_renumber (place : Nat → Nat) (site : Site) (verdict : Verdict) :
    Stack.heed (site.renumber place) verdict = (Stack.heed site verdict).renumber place := by
  unfold Stack.heed
  split <;> rfl

/-- A gate that has said its verdict, before any layer below is asked. -/
theorem Mirrors.asked (place : Nat → Nat) (below : List Tier) (asked : Gate) (site : Site)
    (verdict : Verdict) :
    Mirrors place (.given (.gate asked) :: below)
      ⟨.gate asked :: Tier.bare below, Stack.heed site verdict⟩
      ⟨.gate asked :: Tier.full below, Stack.heed (site.renumber place) verdict⟩ :=
  ⟨rfl, rfl, heed_renumber place site verdict⟩

/-- A granted request through an added layer that has room. -/
theorem drifts_granted {counters : Counters} (roomy : Roomy counters) (size : UInt64) :
    ∃ after : Counters, counters.Granted size after ∧
      after.live.toNat = counters.live.toNat + 1 := by
  refine ⟨_, Counters.granted_iff.2 ⟨roomy, rfl⟩, ?_⟩
  show (counters.live + 1).toNat = _
  rw [UInt64.toNat_add]
  exact Nat.mod_eq_of_lt roomy

theorem live_recordRelease {counters : Counters} (stocked : Stocked counters) :
    counters.recordRelease.live.toNat + 1 = counters.live.toNat := by
  have hone : (1 : UInt64) ≤ counters.live := UInt64.le_iff_toNat_le.2 stocked
  have hlive : counters.recordRelease.live.toNat = counters.live.toNat - 1 :=
    UInt64.toNat_sub_of_le _ _ hone
  rw [hlive]
  exact Nat.sub_add_cancel stocked

/-- A panic or a fault hands out no block. -/
theorem gain_settle_le (block : Block) (counted : Option Panic × Counters) :
    Dealing.gain (Stack.settle block counted) ≤ 1 := by
  unfold Stack.settle
  split
  · exact Int.le_refl 1
  · exact Int.zero_le_ofNat 1

/-- A request for a new block has the same answer from all layers as from those that were
given. -/
def AllocatesAlike (place : Nat → Nat) (thread : Thread) (size : UInt64) (tiers : List Tier) :
    Prop :=
  ∀ ⦃site answer plain⦄, Stack.allocateThrough thread size (bare tiers) site = (answer, plain) →
    (site.heap.next < plain.site.heap.next → Everywhere Roomy tiers) →
    ∃ now counted, Stack.allocateThrough thread size (full tiers) (site.renumber place) =
        (answer, counted) ∧ Mirrors place now plain counted ∧
      Drifted (Dealing.gain answer) (plain.site.heap.next - site.heap.next) tiers now

namespace AllocatesAlike

theorem nil (place : Nat → Nat) (thread : Thread) (size : UInt64) :
    AllocatesAlike place thread size [] := by
  intro site answer plain h _
  rw [full_nil, Stack.allocateThrough, Site.allocate_renumber]
  rw [bare_nil, Stack.allocateThrough] at h
  rcases hcall : site.allocate thread size with ⟨reply, after⟩
  rw [hcall] at h
  cases reply with
  | ok block =>
      obtain ⟨rfl, rfl⟩ := h
      exact ⟨[], _, rfl, ⟨rfl, rfl, rfl⟩, .nil⟩
  | error fault =>
      obtain ⟨rfl, rfl⟩ := h
      exact ⟨[], _, rfl, ⟨rfl, rfl, rfl⟩, .nil⟩

/-- An added layer counts the block if there is one, for which it has room, and passes the
answer on. -/
theorem added (alike : AllocatesAlike place thread size below) (counters : Counters) :
    AllocatesAlike place thread size (.added counters :: below) := by
  intro site answer plain h roomy
  obtain ⟨now, counted, hcounted, mirrors, drifted⟩ := alike h fun hgrew => (roomy hgrew).tail
  have hserved : Stack.allocate ⟨bare below, site⟩ thread size = (answer, plain) := h
  have hgain := Stack.gain_le_next hserved
  cases answer with
  | ok block =>
      simp only [Dealing.gain] at hgain drifted ⊢
      obtain ⟨after, granted, hlive⟩ := drifts_granted (roomy (by omega)).head size
      exact ⟨.added after :: now, _, Stack.allocateThrough_counting_ok hcounted granted,
        mirrors.added after, .cons (.added (by omega) (by omega)) drifted⟩
  | error stop =>
      simp only [Dealing.gain] at hgain drifted ⊢
      exact ⟨.added counters :: now, _, Stack.allocateThrough_counting_error hcounted,
        mirrors.added counters, .cons (.added (by omega) (by omega)) drifted⟩

/-- A counting layer that was given may run out of room, as it does without the added ones. -/
theorem counting (alike : AllocatesAlike place thread size below) (counters : Counters) :
    AllocatesAlike place thread size (.given (.counting counters) :: below) := by
  intro site answer plain h roomy
  have hbelow := fun hgrew => (roomy hgrew).tail
  rw [bare_given, Stack.allocateThrough] at h
  rw [full_given, Stack.allocateThrough]
  rcases hcall : Stack.allocateThrough thread size (bare below) site with ⟨reply, under⟩
  rw [hcall] at h
  cases reply with
  | ok block =>
      obtain ⟨rfl, rfl⟩ := h
      obtain ⟨now, counted, hcounted, mirrors, drifted⟩ := alike hcall hbelow
      rw [hcounted]
      exact ⟨_, _, rfl, mirrors.given _,
        .cons (.given _ _) (drifted.mono (gain_settle_le _ _) (Int.le_refl _))⟩
  | error stop =>
      obtain ⟨rfl, rfl⟩ := h
      obtain ⟨now, counted, hcounted, mirrors, drifted⟩ := alike hcall hbelow
      rw [hcounted]
      exact ⟨_, _, rfl, mirrors.given _, .cons (.given _ _) drifted⟩

/-- A gate decides before it asks below, and notes the call under its own number. -/
theorem gate (alike : AllocatesAlike place thread size below) (gate : Gate)
    (fits : Fits place (.given (.gate gate) :: below)) :
    AllocatesAlike place thread size (.given (.gate gate) :: below) := by
  intro site answer plain h roomy
  have hbelow := fun hgrew => (roomy hgrew).tail
  rcases hask : gate.ask thread size with ⟨verdict, asked⟩
  have hheed : (Stack.heed site verdict).heap.next = site.heap.next :=
    congrArg Heap.next (Stack.heap_heed site verdict)
  have hstill : Drifted 0 ((Stack.heed site verdict).heap.next - site.heap.next) below below :=
    .refl (Int.le_refl 0) (by omega) below
  have hasked := Mirrors.asked place below asked site verdict
  rw [bare_given] at h
  rw [full_given]
  cases hanswer : verdict.answer with
  | panic panic =>
      rw [Stack.allocateThrough_gate_panic hask hanswer] at h ⊢
      obtain ⟨rfl, rfl⟩ := h
      exact ⟨_, _, rfl, hasked, .cons (.given _ _) hstill⟩
  | refuse fault =>
      rw [Stack.allocateThrough_gate_refuse hask hanswer] at h ⊢
      obtain ⟨rfl, rfl⟩ := h
      refine ⟨_, _, rfl, hasked.note fits _ _ _, ?_⟩
      rw [Stack.heap_note]
      exact .cons (.given _ _) hstill
  | pass =>
      rw [Stack.allocateThrough_gate_pass hask hanswer] at h ⊢
      rcases hcall : Stack.allocateThrough thread size (bare below) (Stack.heed site verdict)
        with ⟨reply, under⟩
      rw [hcall] at h
      obtain ⟨rfl, rfl⟩ := h
      rw [Stack.heap_answered] at hbelow ⊢
      rw [← hheed] at hbelow ⊢
      obtain ⟨now, counted, hcounted, mirrors, drifted⟩ := alike hcall hbelow
      have hdrifted := List.Forall₂.cons (.given (.gate gate) (.gate asked)) drifted
      rw [heed_renumber, hcounted]
      exact ⟨_, _, rfl, mirrors.answered (Drifted.fits hdrifted fits) _ _ _, hdrifted⟩

end AllocatesAlike

/-- A request for a new block has the same answer with the added layers as without. -/
theorem allocateThrough_full (fits : Fits place tiers) :
    AllocatesAlike place thread size tiers := by
  induction tiers with
  | nil => exact .nil place thread size
  | cons tier below ih =>
      have alike := ih fits.tail
      cases tier with
      | added counters => exact alike.added counters
      | given layer =>
          cases layer with
          | counting counters => exact alike.counting counters
          | gate gate => exact alike.gate gate fits

/-- A block on its way back is counted by the added layers and by those that were given. -/
theorem releaseThrough_full (thread : Thread) (block : Block) (fits : Fits place tiers)
    (stocked : Everywhere Stocked tiers) (site : Site) :
    ∃ now, Mirrors place now (Stack.releaseThrough thread block (bare tiers) site)
        (Stack.releaseThrough thread block (full tiers) (site.renumber place)) ∧
      Drifted (-1) (-1) tiers now := by
  induction tiers generalizing site with
  | nil =>
      refine ⟨[], ⟨rfl, rfl, ?_⟩, .nil⟩
      rw [full_nil, bare_nil, Stack.releaseThrough, Stack.releaseThrough, Site.release_renumber]
  | cons tier below ih =>
      have hbelow := stocked.tail
      cases tier with
      | added counters =>
          obtain ⟨now, mirrors, drifted⟩ := ih fits hbelow site
          have hlive := live_recordRelease stocked.head
          exact ⟨_, mirrors.added counters.recordRelease,
            .cons (.added (by omega) (by omega)) drifted⟩
      | given layer =>
          cases layer with
          | counting counters =>
              obtain ⟨now, mirrors, drifted⟩ := ih fits.2 hbelow site
              exact ⟨_, mirrors.given _, .cons (.given _ _) drifted⟩
          | gate gate =>
              have hmirrors : Mirrors place (.given (.gate gate) :: below)
                  ⟨.gate gate :: bare below, site⟩
                  ⟨.gate gate :: full below, site.renumber place⟩ :=
                ⟨rfl, rfl, rfl⟩
              have hnoted := hmirrors.note fits gate.records thread (.release block.size)
              obtain ⟨now, mirrors, drifted⟩ := ih fits.2 hbelow
                (Stack.note ⟨.gate gate :: bare below, site⟩ gate.records thread
                  (.release block.size)).site
              rw [← hnoted.site] at mirrors
              exact ⟨_, mirrors.given _, .cons (.given _ _) drifted⟩

/-- A request for a new block and the release of the old one, between which bytes may be
copied. -/
theorem replaced_full {start : Nat} {between : Stack} (block : Block) (begun : Site)
    (fits : Fits place tiers)
    (h : Stack.allocateThrough thread size (bare tiers) site = (reply, between))
    (tidy : site.heap.Tidy start) (stocked : Everywhere Stocked tiers)
    (roomy : site.heap.next < between.site.heap.next → Everywhere Roomy tiers)
    (htidy : begun.heap.Tidy start)
    (hsince : begun.heap.since start = between.site.heap.since start) :
    ∃ now counted, Stack.allocateThrough thread size (full tiers) (site.renumber place) =
        (reply, counted) ∧ counted.site = between.site.renumber place ∧
      Mirrors place now (Stack.releaseThrough thread block between.layers begun)
        (Stack.releaseThrough thread block counted.layers (begun.renumber place)) ∧
      Drifted (Dealing.gain reply - 1)
        (((Stack.releaseThrough thread block between.layers begun).site.heap.since start).length -
          (site.heap.since start).length) tiers now := by
  obtain ⟨granted, counted, hcounted, mirrors, drifted⟩ := allocateThrough_full fits h roomy
  have hserved : Stack.allocate ⟨bare tiers, site⟩ thread size = (reply, between) := h
  have hlength := (Stack.tidy_allocate tidy hserved).2
  have hfreed : (begun.heap.since start).length ≤
      ((Stack.releaseThrough thread block between.layers begun).site.heap.since start).length + 1 :=
    (Stack.tidy_release ⟨between.layers, begun⟩ htidy thread block).2
  have hgain : 0 ≤ Dealing.gain reply := by
    cases reply with
    | ok fresh => exact Int.zero_le_ofNat 1
    | error stop => exact Int.le_refl 0
  have hstocked : Everywhere Stocked granted := by
    refine drifted.everywhere stocked ?_
    intro before after hbefore hle _
    unfold Stocked at hbefore ⊢
    omega
  obtain ⟨now, hreleased, hdrifted⟩ :=
    releaseThrough_full thread block (drifted.fits fits) hstocked begun
  rw [← mirrors.bare, ← mirrors.full] at hreleased
  refine ⟨now, counted, hcounted, mirrors.site, hreleased, (drifted.trans hdrifted).mono ?_ ?_⟩
  · omega
  · rw [hsince] at hfreed
    dsimp only at hlength
    omega

/-- The default way to resize has the same answer with the added layers as without. -/
theorem replaceThrough_full {start : Nat} (fits : Fits place tiers)
    (h : Stack.replaceThrough thread block size (bare tiers) site = (answer, plain))
    (tidy : site.heap.Tidy start) (stocked : Everywhere Stocked tiers)
    (roomy : site.heap.next < plain.site.heap.next → Everywhere Roomy tiers) :
    ∃ now counted, Stack.replaceThrough thread block size (full tiers) (site.renumber place) =
        (answer, counted) ∧ Mirrors place now plain counted ∧
      Drifted (Dealing.swap answer)
        ((plain.site.heap.since start).length - (site.heap.since start).length) tiers now := by
  unfold Stack.replaceThrough at h ⊢
  rcases hcall : Stack.allocateThrough thread size (bare tiers) site with ⟨reply, between⟩
  have hserved : Stack.allocate ⟨bare tiers, site⟩ thread size = (reply, between) := hcall
  obtain ⟨htidy, hlength⟩ := Stack.tidy_allocate tidy hserved
  have hnext : ∀ begun : Site,
      (Stack.releaseThrough thread block between.layers begun).site.heap.next = begun.heap.next :=
    fun begun => Stack.next_release ⟨between.layers, begun⟩ thread block
  rw [hcall] at h
  cases reply with
  | ok fresh =>
      obtain ⟨rfl, rfl⟩ := h
      rw [hnext] at roomy
      obtain ⟨hcopied, hsince⟩ := htidy.store fresh
        ((between.site.heap.bytes block).take fresh.size.toNat)
      obtain ⟨now, counted, hcounted, hsite, mirrors, drifted⟩ := replaced_full block
        { between.site with heap := between.site.heap.copy block fresh } fits hcall tidy stocked
        roomy hcopied hsince
      rw [hcounted]
      dsimp only
      rw [hsite]
      exact ⟨now, _, rfl, mirrors, drifted⟩
  | error stop =>
      cases stop with
      | fault fault =>
          obtain ⟨rfl, rfl⟩ := h
          rw [hnext] at roomy
          obtain ⟨now, counted, hcounted, hsite, mirrors, drifted⟩ := replaced_full block
            between.site fits hcall tidy stocked roomy htidy rfl
          rw [hcounted]
          dsimp only
          rw [hsite]
          exact ⟨now, _, rfl, mirrors, drifted⟩
      | panic panic | exit panic =>
          obtain ⟨rfl, rfl⟩ := h
          obtain ⟨now, counted, hcounted, mirrors, drifted⟩ := allocateThrough_full fits hcall roomy
          rw [hcounted]
          refine ⟨now, _, rfl, mirrors, drifted.mono (Int.le_refl 0) ?_⟩
          dsimp only at hlength
          omega

/-- A swap through an added layer that has counted a block. -/
theorem drifts_swapped {counters : Counters} (stocked : Stocked counters) (size : UInt64) :
    ∃ after : Counters, counters.Swapped size after ∧ after.live = counters.live := by
  refine ⟨_, Counters.swapped_iff.2 ⟨?_, rfl⟩, rfl⟩
  intro hzero
  unfold Stocked at stocked
  rw [hzero] at stocked
  exact Nat.lt_irrefl _ stocked

/-- A fault or a panic of the layer on top has no more blocks in use than the answer from
below. -/
theorem swap_settle_le (block : Block) (counted : Option Panic × Counters) :
    Dealing.swap (Stack.settle block counted) ≤ 0 := by
  unfold Stack.settle
  split <;> exact Int.le_refl 0

/-- A request to move a block has the same answer from all layers as from those that were
given. -/
def ResizesAlike (place : Nat → Nat) (thread : Thread) (block : Block) (size : UInt64)
    (start : Nat) (tiers : List Tier) : Prop :=
  ∀ ⦃site answer plain⦄,
    Stack.resizeThrough thread block size (bare tiers) site = (answer, plain) →
    site.heap.Tidy start → Everywhere Stocked tiers →
    (¬ Forwards (bare tiers) → site.heap.next < plain.site.heap.next →
      Everywhere Roomy tiers) →
    ∃ now counted, Stack.resizeThrough thread block size (full tiers) (site.renumber place) =
        (answer, counted) ∧ Mirrors place now plain counted ∧
      Drifted (Dealing.swap answer)
        ((plain.site.heap.since start).length - (site.heap.since start).length) tiers now

namespace ResizesAlike

variable {start : Nat}

theorem nil (place : Nat → Nat) (thread : Thread) (block : Block) (size : UInt64) (start : Nat) :
    ResizesAlike place thread block size start [] := by
  intro site answer plain h _ _ _
  rw [full_nil, Stack.resizeThrough, Site.resize_renumber]
  rw [bare_nil, Stack.resizeThrough] at h
  rcases hcall : site.resize thread block size with ⟨reply, after⟩
  rw [hcall] at h
  cases reply with
  | ok block =>
      obtain ⟨rfl, rfl⟩ := h
      exact ⟨[], _, rfl, ⟨rfl, rfl, rfl⟩, .nil⟩
  | error fault =>
      obtain ⟨rfl, rfl⟩ := h
      exact ⟨[], _, rfl, ⟨rfl, rfl, rfl⟩, .nil⟩

/-- An added layer counts a swap for a block, and a release for a fault: for both it has
counted the old block. -/
theorem added (alike : ResizesAlike place thread block size start below) (counters : Counters) :
    ResizesAlike place thread block size start (.added counters :: below) := by
  intro site answer plain h tidy stocked roomy
  have hserved : Stack.resize ⟨bare below, site⟩ thread block size = (answer, plain) := h
  have hlength := (Stack.tidy_resize tidy hserved).2
  obtain ⟨now, counted, hcounted, mirrors, drifted⟩ := alike h tidy stocked.tail
    fun hforwards hgrew => (roomy hforwards hgrew).tail
  cases answer with
  | ok fresh =>
      obtain ⟨after, swapped, hlive⟩ := drifts_swapped stocked.head size
      simp only [Dealing.swap] at hlength drifted ⊢
      exact ⟨.added after :: now, _, Stack.resizeThrough_counting_ok hcounted swapped,
        mirrors.added after, .cons (.added (by rw [hlive]; omega) (by rw [hlive]; omega)) drifted⟩
  | error stop =>
      cases stop with
      | fault fault =>
          have hlive := live_recordRelease stocked.head
          simp only [Dealing.swap] at hlength drifted ⊢
          exact ⟨_, _, Stack.resizeThrough_counting_refused hcounted,
            mirrors.added counters.recordRelease, .cons (.added (by omega) (by omega)) drifted⟩
      | panic panic | exit exit =>
          simp only [Dealing.swap] at hlength drifted ⊢
          rw [full_added, Stack.resizeThrough, hcounted]
          exact ⟨_, _, rfl, mirrors.added counters,
            .cons (.added (by omega) (by omega)) drifted⟩

/-- Where one of the layers below does not forward a resize, neither do all layers, and there is
room. -/
theorem roomy_below {layer : Layer} {site : Site} {plain : Stack}
    (roomy : ¬ Forwards (bare (.given layer :: below)) →
      site.heap.next < plain.site.heap.next → Everywhere Roomy (.given layer :: below)) :
    ¬ Forwards (bare below) → site.heap.next < plain.site.heap.next → Everywhere Roomy below :=
  fun hforwards hgrew =>
    (roomy (fun forwards => hforwards (Stack.forwards_of_cons forwards)) hgrew).tail

/-- A counting layer that was given. -/
theorem counting (alike : ResizesAlike place thread block size start below) (counters : Counters) :
    ResizesAlike place thread block size start (.given (.counting counters) :: below) := by
  intro site answer plain h tidy stocked roomy
  have hbelow := roomy_below roomy
  rw [bare_given, Stack.resizeThrough] at h
  rw [full_given, Stack.resizeThrough]
  rcases hcall : Stack.resizeThrough thread block size (bare below) site with ⟨reply, under⟩
  rw [hcall] at h
  cases reply with
  | ok fresh =>
      obtain ⟨rfl, rfl⟩ := h
      obtain ⟨now, counted, hcounted, mirrors, drifted⟩ := alike hcall tidy stocked.tail hbelow
      rw [hcounted]
      exact ⟨_, _, rfl, mirrors.given _,
        .cons (.given _ _) (drifted.mono (swap_settle_le _ _) (Int.le_refl _))⟩
  | error stop =>
      cases stop with
      | fault fault | panic panic | exit exit =>
          obtain ⟨rfl, rfl⟩ := h
          obtain ⟨now, counted, hcounted, mirrors, drifted⟩ := alike hcall tidy stocked.tail hbelow
          rw [hcounted]
          exact ⟨_, _, rfl, mirrors.given _, .cons (.given _ _) drifted⟩

/-- A gate with its own way to resize decides first.  When it refuses it releases the block,
which all layers below count. -/
theorem gate_forwards (alike : ResizesAlike place thread block size start below) {gate : Gate}
    (forwards : gate.forwardsResize = true) (fits : Fits place (.given (.gate gate) :: below)) :
    ResizesAlike place thread block size start (.given (.gate gate) :: below) := by
  intro site answer plain h tidy stocked roomy
  have hbelow := roomy_below roomy
  have hserved : Stack.resize ⟨.gate gate :: bare below, site⟩ thread block size =
    (answer, plain) := h
  have hlength := (Stack.tidy_resize tidy hserved).2
  dsimp only at hlength
  rcases hask : gate.ask thread size with ⟨verdict, asked⟩
  have hheed := Stack.heap_heed site verdict
  rw [bare_given] at h
  rw [full_given]
  cases hanswer : verdict.answer with
  | panic panic =>
      rw [Stack.resizeThrough_gate_panic forwards hask hanswer] at h ⊢
      obtain ⟨rfl, rfl⟩ := h
      refine ⟨_, _, rfl, .asked place below asked site verdict, .cons (.given _ _) ?_⟩
      exact Drifted.refl (Int.le_refl 0) (by rw [hheed]; omega) below
  | refuse fault =>
      rw [Stack.resizeThrough_gate_refuse forwards hask hanswer] at h ⊢
      obtain ⟨rfl, rfl⟩ := h
      rw [heed_renumber]
      obtain ⟨now, mirrors, drifted⟩ := releaseThrough_full thread block fits.2
        stocked.tail (Stack.heed site verdict)
      have hdrifted := List.Forall₂.cons (.given (.gate gate) (.gate asked)) drifted
      refine ⟨_, _, rfl, (mirrors.given _).note (Drifted.fits hdrifted fits) _ _ _,
        Drifted.mono hdrifted (Int.le_refl _) ?_⟩
      simp only [Dealing.swap] at hlength
      omega
  | pass =>
      rw [Stack.resizeThrough_gate_pass forwards hask hanswer] at h ⊢
      rcases hcall : Stack.resizeThrough thread block size (bare below) (Stack.heed site verdict)
        with ⟨reply, under⟩
      rw [hcall] at h
      obtain ⟨rfl, rfl⟩ := h
      rw [Stack.heap_answered] at hbelow ⊢
      rw [← hheed] at hbelow tidy ⊢
      obtain ⟨now, counted, hcounted, mirrors, drifted⟩ := alike hcall tidy stocked.tail hbelow
      have hdrifted := List.Forall₂.cons (.given (.gate gate) (.gate asked)) drifted
      rw [heed_renumber, hcounted]
      exact ⟨_, _, rfl, mirrors.answered (Drifted.fits hdrifted fits) _ _ _, hdrifted⟩

/-- A gate without its own way to resize asks the layers below for a new block. -/
theorem gate_default {gate : Gate} (forwards : ¬ gate.forwardsResize = true)
    (fits : Fits place (.given (.gate gate) :: below)) :
    ResizesAlike place thread block size start (.given (.gate gate) :: below) := by
  intro site answer plain h tidy stocked roomy
  have hnot : ¬ Forwards (bare (.given (.gate gate) :: below)) := fun hall =>
    forwards (hall (.gate gate) List.mem_cons_self)
  rw [bare_given, Stack.resizeThrough, if_neg forwards] at h
  rw [full_given, Stack.resizeThrough, if_neg forwards]
  exact replaceThrough_full fits h tidy stocked (roomy hnot)

end ResizesAlike

/-- A request to move a block has the same answer with the added layers as without. -/
theorem resizeThrough_full {start : Nat} (fits : Fits place tiers) :
    ResizesAlike place thread block size start tiers := by
  induction tiers with
  | nil => exact .nil place thread block size start
  | cons tier below ih =>
      have alike := ih fits.tail
      cases tier with
      | added counters => exact alike.added counters
      | given layer =>
          cases layer with
          | counting counters => exact alike.counting counters
          | gate gate =>
              by_cases forwards : gate.forwardsResize = true
              · exact alike.gate_forwards forwards fits
              · exact .gate_default forwards fits

end Requests
end Tier

end HeapFixtures
