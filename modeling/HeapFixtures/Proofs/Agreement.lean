/-
# Counting layers of one stack agree

All counting layers of a stack watch the same blocks come and go, so after any sequence
of operations they show the same counts, whatever gates stand between them and whatever
is refused on the way.

Only the peak depends on where a layer stands.  Layers down to the first gate that does
not pass a resize on see a resize as one swap.  Layers from that gate on see a new block
first and the release of the old one afterwards, so their peak may be higher, by one at
most.  The invariant therefore is a pair of counters: one that every layer of the upper
part shows, and one that every layer of the lower part shows.
-/

import HeapFixtures.Proofs.Dealing
import Mathlib.Data.List.Basic
import Mathlib.Order.Lattice

namespace HeapFixtures

/-- What two counting layers show, of which the first stands above the second. -/
structure Counters.Agrees (upper lower : Counters) : Prop where
  allocations : lower.allocations = upper.allocations
  releases : lower.releases = upper.releases
  bytes : lower.bytes = upper.bytes
  live : lower.live = upper.live
  peak_le : upper.peak ≤ lower.peak
  peak_le_succ : lower.peak.toNat ≤ upper.peak.toNat + 1

/-- Any two counting layers agree, and show the same peak if every layer between them
passes a resize on. -/
def Agreement (layers : List Layer) : Prop :=
  ∀ above upper between lower below,
    layers = above ++ .counting upper :: (between ++ .counting lower :: below) →
      upper.Agrees lower ∧ (Forwards between → lower.peak = upper.peak)

instance decidableForwards (layers : List Layer) : Decidable (Forwards layers) :=
  inferInstanceAs (Decidable (∀ layer ∈ layers, layer.passesResize = true))

/-- The most blocks that there are at one moment of a dealing.  A request that is not
refused adds the new block to those held, and the default way to resize has the old block
and the new one at the same time. -/
def Dealing.atOnce (layers : List Layer) (held : List Block) : Dealing → Nat
  | .allocate _ _ (.error (.fault _)) => held.length
  | .allocate .. => held.length + 1
  | .release .. => held.length
  | .resize _ _ _ (.error (.fault _)) => held.length
  | .resize .. => if Forwards layers then held.length else held.length + 1

/-- There are fewer blocks at any moment of a dealing than a word can count. -/
def Dealing.Countable (layers : List Layer) (held : List Block) (dealing : Dealing) : Prop :=
  dealing.atOnce layers held < UInt64.size

instance Dealing.decidableCountable (layers : List Layer) (held : List Block)
    (dealing : Dealing) : Decidable (dealing.Countable layers held) :=
  inferInstanceAs (Decidable (_ < _))

/-- A resize that was not refused has all layers pass it on, or room for one more block. -/
theorem Dealing.forwards_or_room {layers : List Layer} {held : List Block} {thread : Thread}
    {block : Block} {size : UInt64} {answer : Except Stop Block}
    (countable : (Dealing.resize thread block size answer).Countable layers held)
    (unrefused : ∀ fault, answer ≠ .error (.fault fault)) :
    Forwards layers ∨ held.length + 1 < UInt64.size := by
  by_cases hforwards : Forwards layers
  · exact .inl hforwards
  · right
    unfold Countable at countable
    rwa [atOnce, if_neg hforwards] at countable
    exact unrefused

/-- How many blocks there are depends on the way in which layers treat a resize only. -/
theorem Dealing.Countable.congr {layers other : List Layer} {held : List Block}
    {dealing : Dealing} (same : Forwards layers ↔ Forwards other)
    (countable : dealing.Countable other held) : dealing.Countable layers held := by
  have hatOnce : dealing.atOnce layers held = dealing.atOnce other held := by
    unfold atOnce
    simp only [same]
  unfold Countable
  rwa [hatOnce]

/-- No counting layer has counted anything. -/
def Stack.Unused (stack : Stack) : Prop :=
  ∀ counters, .counting counters ∈ stack.layers → counters = .zero

/-- Every counting layer shows the same counters. -/
def Uniform (counters : Counters) (layers : List Layer) : Prop :=
  ∀ shown, .counting shown ∈ layers → shown = counters

section Uniform

variable {change : Counters → Counters → Prop} {counters counters' : Counters}
  {layers after : List Layer}

/-- A request that counts the same everywhere leaves all layers alike. -/
theorem Uniform.changed (uniform : Uniform counters layers)
    (changed : Changed change layers after)
    (functional : ∀ shown, change counters shown → shown = counters') :
    Uniform counters' after := by
  intro shown hshown
  induction changed with
  | nil => cases hshown
  | cons hd tl ih =>
      rcases List.mem_cons.mp hshown with hhead | htail
      · subst hhead
        cases hd with
        | counting hchange =>
            apply functional shown
            rw [uniform _ List.mem_cons_self] at hchange
            exact hchange
      · exact ih (fun inner hinner => uniform inner (List.mem_cons_of_mem _ hinner)) htail

end Uniform

/-- The gates of a stack have the same rules after a request. -/
theorem Changed.calm {change : Counters → Counters → Prop} {layers after : List Layer}
    (changed : Changed change layers after) (calm : Calm layers) : Calm after := by
  intro gate hgate
  induction changed with
  | nil => cases hgate
  | cons hd tl ih =>
      rcases List.mem_cons.mp hgate with hhead | htail
      · subst hhead
        cases hd with
        | gate akin =>
            rw [← akin.1]
            exact calm _ List.mem_cons_self
      · exact ih (fun inner hinner => calm inner (List.mem_cons_of_mem _ hinner)) htail

/-- A stack passes a resize on to the heap as long as it ever did. -/
theorem Changed.forwards_iff {change : Counters → Counters → Prop}
    {layers after : List Layer} (changed : Changed change layers after) :
    Forwards after ↔ Forwards layers := by
  induction changed with
  | nil => exact Iff.rfl
  | cons hd tl ih =>
      simp only [Forwards, List.forall_mem_cons, hd.passesResize_eq] at ih ⊢
      rw [ih]

/-- The invariant: the layers that see a resize show the counters `upper`, all others the
counters `lower`, and both have counted the blocks that the user holds. -/
structure Concord (upper lower : Counters) (held : List Block) (layers : List Layer) :
    Prop where
  swapping : Uniform upper (swapping layers)
  replacing : Uniform lower (replacing layers)
  counts : lower = { upper with peak := lower.peak }
  live : upper.live.toNat = held.length
  held_le : held.length ≤ upper.peak.toNat
  peak_le : upper.peak.toNat ≤ lower.peak.toNat
  peak_le_succ : lower.peak.toNat ≤ upper.peak.toNat + 1

namespace Concord

variable {upper lower : Counters} {held : List Block} {layers after : List Layer}

theorem live_lower (concord : Concord upper lower held layers) :
    lower.live = upper.live := by
  rw [concord.counts]

/-- Every counting layer shows one of the two counters. -/
theorem eq_or_eq (concord : Concord upper lower held layers) {shown : Counters}
    (hshown : .counting shown ∈ layers) : shown = upper ∨ shown = lower := by
  rw [← swapping_append_replacing layers] at hshown
  rcases List.mem_append.mp hshown with hupper | hlower
  · exact .inl (concord.swapping shown hupper)
  · exact .inr (concord.replacing shown hlower)

/-- What is counted as live is what the user holds. -/
theorem live_eq (concord : Concord upper lower held layers) {shown : Counters}
    (hshown : .counting shown ∈ layers) : shown.live.toNat = held.length := by
  rcases concord.eq_or_eq hshown with rfl | rfl
  · exact concord.live
  · rw [concord.live_lower]
    exact concord.live

theorem hasRoom (concord : Concord upper lower held layers)
    (room : held.length + 1 < UInt64.size) : HasRoom layers := by
  intro shown hshown
  rw [concord.live_eq hshown]
  exact room

theorem hasBlock (concord : Concord upper lower held layers) (holds : held ≠ []) :
    HasBlock layers := by
  intro shown hshown hzero
  have hlive := concord.live_eq hshown
  rw [hzero] at hlive
  exact holds (List.eq_nil_of_length_eq_zero hlive.symm)

/-- A request that counts nothing keeps the invariant. -/
theorem kept (concord : Concord upper lower held layers) (changed : Changed Eq layers after) :
    Concord upper lower held after := by
  exact { concord with
    swapping := concord.swapping.changed changed.swapping fun _ h => h.symm
    replacing := concord.replacing.changed changed.replacing fun _ h => h.symm }

/-- A granted request keeps the invariant. -/
theorem granted (concord : Concord upper lower held layers) {size : UInt64}
    {fresh : Block} (changed : Changed (Counters.Granted size) layers after)
    (room : held.length + 1 < UInt64.size) :
    ∃ upper' lower', Concord upper' lower' (fresh :: held) after := by
  obtain ⟨hswapping, hreplacing, hcounts, hlive, hheld, hpeak, hsucc⟩ := concord
  have hlive' : (upper.live + 1).toNat = held.length + 1 := by
    rw [UInt64.toNat_add, hlive]
    exact Nat.mod_eq_of_lt room
  refine ⟨⟨upper.allocations + 1, upper.releases, upper.bytes + size, upper.live + 1,
      max upper.peak (upper.live + 1)⟩,
    ⟨upper.allocations + 1, upper.releases, upper.bytes + size, upper.live + 1,
      max lower.peak (upper.live + 1)⟩, ?_, ?_, rfl, ?_, ?_, ?_, ?_⟩
  · exact hswapping.changed changed.swapping fun _ h => (Counters.granted_iff.mp h).2
  · apply hreplacing.changed changed.replacing
    intro _ h
    rw [(Counters.granted_iff.mp h).2, hcounts]
  · rw [hlive']
    rfl
  · simp only [UInt64.toNat_max, hlive', List.length_cons]
    omega
  · simp only [UInt64.toNat_max, hlive']
    omega
  · simp only [UInt64.toNat_max, hlive']
    omega

/-- The release of a block that the user holds keeps the invariant. -/
theorem released (concord : Concord upper lower held layers) {block : Block}
    (changed : Changed Counters.Released layers after) (holds : block ∈ held) :
    ∃ upper' lower', Concord upper' lower' (held.erase block) after := by
  obtain ⟨hswapping, hreplacing, hcounts, hlive, hheld, hpeak, hsucc⟩ := concord
  have hpos := List.length_pos_of_mem holds
  have hlive' : (upper.live - 1).toNat = held.length - 1 := by
    have hle : (1 : UInt64) ≤ upper.live := by
      rw [UInt64.le_iff_toNat_le, hlive]
      exact hpos
    rw [UInt64.toNat_sub_of_le _ _ hle, hlive]
    rfl
  refine ⟨upper.recordRelease, lower.recordRelease, ?_, ?_, ?_, ?_, ?_, hpeak, hsucc⟩
  · exact hswapping.changed changed.swapping fun _ h => h
  · exact hreplacing.changed changed.replacing fun _ h => h
  · rw [hcounts]
    rfl
  · rw [List.length_erase_of_mem holds]
    exact hlive'
  · have hlength := List.length_erase_of_mem holds
    have hpeak' : upper.recordRelease.peak = upper.peak := rfl
    rw [hlength, hpeak']
    omega

/-- A granted resize of a block that the user holds keeps the invariant. -/
theorem resized (concord : Concord upper lower held layers) {size : UInt64}
    {block fresh : Block}
    (swapped : Changed (Counters.Swapped size) (HeapFixtures.swapping layers)
      (HeapFixtures.swapping after))
    (replaced : Changed (Counters.Replaced size) (HeapFixtures.replacing layers)
      (HeapFixtures.replacing after))
    (holds : block ∈ held) (room : Forwards layers ∨ held.length + 1 < UInt64.size) :
    ∃ upper' lower', Concord upper' lower' (fresh :: held.erase block) after := by
  obtain ⟨hswapping, hreplacing, hcounts, hlive, hheld, hpeak, hsucc⟩ := concord
  have hlength : (fresh :: held.erase block).length = held.length := by
    rw [List.length_cons, List.length_erase_of_mem holds]
    exact Nat.sub_add_cancel (List.length_pos_of_mem holds)
  have hkept : max upper.peak upper.live = upper.peak := by
    rw [← UInt64.toNat_inj, UInt64.toNat_max]
    omega
  -- Without a gate that turns a resize into a replacement there are no lower layers, and
  -- the counters of the lower part are free to follow those of the upper one.
  by_cases hforwards : Forwards layers
  · refine ⟨⟨upper.allocations + 1, upper.releases + 1, upper.bytes + size, upper.live,
        upper.peak⟩,
      ⟨upper.allocations + 1, upper.releases + 1, upper.bytes + size, upper.live,
        upper.peak⟩, ?_, ?_, rfl, ?_, ?_, Nat.le_refl _, Nat.le_succ _⟩
    · apply hswapping.changed swapped
      intro _ h
      rw [(Counters.swapped_iff.mp h).2, hkept]
    · have hnone : HeapFixtures.replacing layers = [] :=
        replacing_of_forwards hforwards
      rw [hnone, Changed, List.forall₂_nil_left_iff] at replaced
      rw [replaced]
      intro _ h
      cases h
    · rw [hlength]
      exact hlive
    · rw [hlength]
      exact hheld
  · have room' : held.length + 1 < UInt64.size := room.resolve_left hforwards
    have hlive' : (upper.live + 1).toNat = held.length + 1 := by
      rw [UInt64.toNat_add, hlive]
      exact Nat.mod_eq_of_lt room'
    refine ⟨⟨upper.allocations + 1, upper.releases + 1, upper.bytes + size, upper.live,
        upper.peak⟩,
      ⟨upper.allocations + 1, upper.releases + 1, upper.bytes + size, upper.live,
        max lower.peak (upper.live + 1)⟩, ?_, ?_, rfl, ?_, ?_, ?_, ?_⟩
    · apply hswapping.changed swapped
      intro _ h
      rw [(Counters.swapped_iff.mp h).2, hkept]
    · apply hreplacing.changed replaced
      intro _ h
      rw [(Counters.replaced_iff.mp h).2, hcounts]
    · rw [hlength]
      exact hlive
    · rw [hlength]
      exact hheld
    · simp only [UInt64.toNat_max]
      omega
    · simp only [UInt64.toNat_max, hlive']
      omega

end Concord

/-- Layers that have counted nothing are in concord over no blocks. -/
theorem concord_of_unused {layers : List Layer}
    (unused : Uniform .zero layers) : Concord .zero .zero [] layers := by
  refine ⟨?_, ?_, rfl, rfl, Nat.le_refl _, Nat.le_refl _, Nat.le_succ _⟩
  · exact fun shown hshown => unused shown (List.takeWhile_subset _ hshown)
  · exact fun shown hshown => unused shown (List.dropWhile_subset _ hshown)

/-- One dealing with a calm stack is answered and keeps the invariant. -/
theorem Concord.serves {upper lower : Counters} {held : List Block} {stack after : Stack}
    {dealing : Dealing} (concord : Concord upper lower held stack.layers)
    (calm : Calm stack.layers) (served : stack.Serves dealing after)
    (lawful : dealing.Lawful held) (countable : dealing.Countable stack.layers held) :
    dealing.Returned ∧ Changed (fun _ _ => True) stack.layers after.layers ∧
      ∃ upper' lower', Concord upper' lower' (Dealing.hold held dealing) after.layers := by
  cases served with
  | allocate served =>
      cases Stack.allocates_of_allocate served with
      | granted counted heap =>
          refine ⟨by simp [Dealing.Returned], counted.mono fun _ _ _ => trivial, ?_⟩
          exact concord.granted counted countable
      | refused counted heap =>
          refine ⟨by simp [Dealing.Returned], counted.mono fun _ _ _ => trivial, ?_⟩
          exact ⟨upper, lower, concord.kept counted⟩
      | panicked blame =>
          exact (blame calm (concord.hasRoom countable)).elim
  | release thread block =>
      obtain ⟨released, -⟩ := Stack.releases thread block stack.layers stack.site
      refine ⟨trivial, released.mono fun _ _ _ => trivial, ?_⟩
      exact concord.released released (lawful block rfl)
  | @resize thread block size answer after served =>
      have holds : block ∈ held := lawful block rfl
      cases Stack.resizes_of_resize served with
      | granted swapped replaced heap =>
          refine ⟨by simp [Dealing.Returned],
            (swapped.of_zones replaced).mono fun _ _ _ => trivial, ?_⟩
          exact concord.resized swapped replaced holds
            (Dealing.forwards_or_room countable (by simp))
      | refused counted heap =>
          refine ⟨by simp [Dealing.Returned], counted.mono fun _ _ _ => trivial, ?_⟩
          exact concord.released counted holds
      | panicked blame =>
          have hasBlock := concord.hasBlock (List.ne_nil_of_mem holds)
          obtain ⟨hforwards, hroom⟩ := blame calm hasBlock
          rcases Dealing.forwards_or_room countable (by simp) with forwards | room
          · exact (hforwards forwards).elim
          · exact (hroom (concord.hasRoom room)).elim

/-- A sequence of dealings with a calm stack is answered and keeps the invariant. -/
theorem Concord.history {layers : List Layer} {stack after : Stack}
    {dealings : List Dealing} (history : stack.History dealings after)
    {upper lower : Counters} {held : List Block}
    (concord : Concord upper lower held stack.layers) (calm : Calm stack.layers)
    (same : Forwards stack.layers ↔ Forwards layers)
    (lawful : Dealing.Throughout Dealing.Lawful held dealings)
    (countable : Dealing.Throughout (Dealing.Countable layers) held dealings) :
    (∀ dealing ∈ dealings, dealing.Returned) ∧
      ∃ upper' lower', Concord upper' lower' (Dealing.holdAll held dealings) after.layers := by
  induction history generalizing upper lower held with
  | nil stack =>
      exact ⟨fun _ h => absurd h List.not_mem_nil, upper, lower, concord⟩
  | aside aside _ ih =>
      rw [← aside.1] at concord calm same
      exact ih concord calm same lawful countable
  | cons served _ ih =>
      obtain ⟨hlawful, lawful⟩ := lawful
      obtain ⟨hcountable, countable⟩ := countable
      obtain ⟨returned, changed, upper', lower', concord'⟩ :=
        concord.serves calm served hlawful (Dealing.Countable.congr same hcountable)
      obtain ⟨allReturned, result⟩ :=
        ih concord' (changed.calm calm) (changed.forwards_iff.trans same) lawful countable
      exact ⟨List.forall_mem_cons.mpr ⟨returned, allReturned⟩, result⟩

theorem Counters.agrees_refl (counters : Counters) : counters.Agrees counters :=
  ⟨rfl, rfl, rfl, rfl, UInt64.le_refl _, Nat.le_succ _⟩

theorem Concord.agrees {upper lower : Counters} {held : List Block} {layers : List Layer}
    (concord : Concord upper lower held layers) : upper.Agrees lower := by
  obtain ⟨-, -, hcounts, -, -, hpeak, hsucc⟩ := concord
  rw [hcounts]
  exact ⟨rfl, rfl, rfl, rfl, UInt64.le_iff_toNat_le.mpr hpeak, hsucc⟩

/-- Layers in concord agree, two by two. -/
theorem Concord.agreement {upper lower : Counters} {held : List Block} {layers : List Layer}
    (concord : Concord upper lower held layers) : Agreement layers := by
  intro above first between second below hlayers
  have hswapping := concord.swapping
  have hreplacing := concord.replacing
  rw [hlayers] at hswapping hreplacing
  by_cases habove : Forwards above
  · -- The first layer sees a resize, so where the second one stands decides.
    rw [swapping_append_of_forwards habove, swapping_cons rfl] at hswapping
    rw [replacing_append_of_forwards habove, replacing_cons rfl] at hreplacing
    have hfirst : first = upper := hswapping first (by simp)
    by_cases hbetween : Forwards between
    · rw [swapping_append_of_forwards hbetween, swapping_cons rfl] at hswapping
      have hsecond : second = upper := hswapping second (by simp)
      rw [hfirst, hsecond]
      exact ⟨upper.agrees_refl, fun _ => rfl⟩
    · rw [replacing_append_of_not_forwards hbetween] at hreplacing
      have hsecond : second = lower := hreplacing second (by simp)
      rw [hfirst, hsecond]
      exact ⟨concord.agrees, fun forwards => (hbetween forwards).elim⟩
  · rw [replacing_append_of_not_forwards habove] at hreplacing
    have hfirst : first = lower := hreplacing first (by simp)
    have hsecond : second = lower := hreplacing second (by simp)
    rw [hfirst, hsecond]
    exact ⟨lower.agrees_refl, fun _ => rfl⟩

/-- A block grows through both kinds of gate until a gate refuses it, a pair comes and goes,
and a request that is too large is refused before a last block is released. -/
def operationsThroughGates : List (Thread × Operation) :=
  [(.main, .allocate 8), (.main, .resize ⟨0, 8⟩ 16), (.main, .resize ⟨1, 16⟩ 48),
    (.main, .pair 4), (.main, .allocate 100), (.main, .allocate 3), (.main, .release ⟨3, 3⟩)]

/-- After every operation of any sequence, sent to an unused stack whose gates do not
panic, all counting layers agree.  The user gives back only blocks that it holds, and there
are never more blocks than a word can count.  No operation panics then. -/
theorem counting_layers_agree (stack : Stack) (operations : List (Thread × Operation))
    (unused : stack.Unused) (calm : Calm stack.layers)
    (lawful : Dealing.Throughout Dealing.Lawful [] (stack.operateAll operations).1)
    (countable : Dealing.Throughout (Dealing.Countable stack.layers) []
      (stack.operateAll operations).1) :
    ∀ done rest, operations = done ++ rest →
      Agreement (stack.operateAll done).2.layers ∧
        ∀ dealing ∈ (stack.operateAll done).1, dealing.Returned := by
  intro done rest hdone
  rw [hdone, Stack.dealings_operateAll_append, Dealing.throughout_append] at lawful countable
  obtain ⟨returned, upper, lower, concord⟩ :=
    Concord.history (stack.history_operateAll done) (concord_of_unused unused) calm
      Iff.rfl lawful.1 countable.1
  exact ⟨concord.agreement, returned⟩

/-- All three layers see four blocks come and go, and the lower two see two at once. -/
theorem layers_agree_on_four_blocks :
    Stack.layered.Unused ∧ Calm Stack.layered.layers ∧
      Dealing.Throughout Dealing.Lawful [] (Stack.layered.operateAll operationsThroughGates).1 ∧
      Dealing.Throughout (Dealing.Countable Stack.layered.layers) []
        (Stack.layered.operateAll operationsThroughGates).1 ∧
      (Stack.layered.operateAll operationsThroughGates).2.counters =
        [⟨4, 4, 31, 0, 2⟩, ⟨4, 4, 31, 0, 2⟩, ⟨4, 4, 31, 0, 1⟩] ∧
      ∀ done rest, operationsThroughGates = done ++ rest →
        Agreement (Stack.layered.operateAll done).2.layers ∧
          ∀ dealing ∈ (Stack.layered.operateAll done).1, dealing.Returned := by
  have unused : Stack.layered.Unused := by
    simp [Stack.Unused, Stack.layered]
  have lawful : Dealing.Throughout Dealing.Lawful []
      (Stack.layered.operateAll operationsThroughGates).1 := by decide
  have countable : Dealing.Throughout (Dealing.Countable Stack.layered.layers) []
      (Stack.layered.operateAll operationsThroughGates).1 := by decide
  refine ⟨unused, Stack.calm_layered, lawful, countable, by decide, ?_⟩
  exact counting_layers_agree Stack.layered operationsThroughGates unused Stack.calm_layered
    lawful countable

end HeapFixtures
