/-
# Counting is transparent

Counting layers may be added to an allocator at any places, and nobody but they will know.
A user that sends operations to the top and writes to its blocks has the same dealings with
both stacks, and each fixture has the same result and leaves the same output and journal.  The
given layers and the heap have been asked the same, so they are as they would be without the
added layers.

For a user of its own kind this takes two things.  It gives back only what it holds, and there
are never more blocks in use than a word can count.  The requests may be refused and may panic.
A block that is lost in a panic is held by no one, but the layers that have counted it go on
to do so; this is why the blocks in use are bounded, and not those that the user holds.  A
fixture holds one block at most and ends with the first panic, so it takes nothing at all.
-/

import HeapFixtures.Proofs.Agreement
import HeapFixtures.Proofs.Insertion
import HeapFixtures.Proofs.Settling

namespace HeapFixtures

namespace Dealing

/-- How many blocks more are in use after a dealing. -/
def drift : Dealing → Int
  | .allocate _ _ answer => gain answer
  | .release .. => -1
  | .resize _ _ _ answer => swap answer

/-- For a moment of a dealing there may be a block more than before: always for a new block,
and for a resize unless all layers pass it on. -/
def Stretches (layers : List Layer) : Dealing → Prop
  | .resize .. => ¬ Forwards layers
  | _ => True

/-- The blocks that a user holds grow by no more than the blocks in use. -/
theorem length_hold_le {held : List Block} {dealing : Dealing} (lawful : dealing.Lawful held) :
    (hold held dealing).length ≤ held.length + dealing.drift := by
  cases dealing with
  | allocate thread size answer =>
      cases answer with
      | ok block => exact Int.le_refl _
      | error stop => exact Int.le_of_eq (Int.add_zero _).symm
  | release thread block =>
      have holds : block ∈ held := lawful block rfl
      have hlength := List.length_erase_of_mem holds
      have hpos := List.length_pos_of_mem holds
      show ((held.erase block).length : Int) ≤ held.length + -1
      omega
  | resize thread block size answer =>
      have holds : block ∈ held := lawful block rfl
      have hlength := List.length_erase_of_mem holds
      have hpos := List.length_pos_of_mem holds
      cases answer with
      | ok fresh =>
          show ((held.erase block).length + 1 : Int) ≤ held.length + 0
          omega
      | error stop =>
          cases stop with
          | fault fault =>
              show ((held.erase block).length : Int) ≤ held.length + -1
              omega
          | panic panic | exit exit =>
              show ((held.erase block).length : Int) ≤ held.length + 0
              omega

end Dealing

namespace Tier

variable {place : Nat → Nat} {start : Nat} {tiers now : List Tier} {held : List Block}
  {plain counted after : Stack} {dealing : Dealing}

/-- A dealing with a stack is one with the stack that has the added layers as well. -/
theorem Mirrors.serves (mirrors : Mirrors place tiers plain counted) (fits : Fits place tiers)
    (tidy : plain.site.heap.Tidy start) (served : plain.Serves dealing after)
    (stocked : dealing.parted? ≠ none → Everywhere Stocked tiers)
    (roomy : dealing.Stretches plain.layers → plain.site.heap.next < after.site.heap.next →
      Everywhere Roomy tiers) :
    ∃ now counted', counted.Serves dealing counted' ∧ Mirrors place now after counted' ∧
      after.site.heap.Tidy start ∧
      Drifted dealing.drift
        ((after.site.heap.since start).length - (plain.site.heap.since start).length)
          tiers now := by
  obtain ⟨hbare, hfull, hsite⟩ := mirrors
  cases served with
  | @allocate thread size answer after served =>
      obtain ⟨htidy, hlength⟩ := Stack.tidy_allocate tidy served
      unfold Stack.allocate at served
      rw [hbare] at served
      obtain ⟨now, counted', hcounted, hmirrors, drifted⟩ :=
        allocateThrough_full fits served (roomy trivial)
      rw [← hfull, ← hsite] at hcounted
      exact ⟨now, counted', .allocate hcounted, hmirrors, htidy,
        drifted.mono (Int.le_refl _) (by omega)⟩
  | release thread block =>
      obtain ⟨htidy, hlength⟩ := Stack.tidy_release plain tidy thread block
      obtain ⟨now, hmirrors, drifted⟩ :=
        releaseThrough_full thread block fits (stocked (by simp [Dealing.parted?])) plain.site
      rw [← hbare, ← hfull, ← hsite] at hmirrors
      exact ⟨now, _, .release thread block, hmirrors, htidy,
        drifted.mono (Int.le_refl _) (by omega)⟩
  | @resize thread block size answer after served =>
      obtain ⟨htidy, -⟩ := Stack.tidy_resize tidy served
      unfold Stack.resize at served
      rw [hbare] at served roomy
      obtain ⟨now, counted', hcounted, hmirrors, drifted⟩ :=
        resizeThrough_full fits served tidy (stocked (by simp [Dealing.parted?])) roomy
      rw [← hfull, ← hsite] at hcounted
      exact ⟨now, counted', .resize hcounted, hmirrors, htidy, drifted⟩

/-- What the added layers count as live, against the blocks that the user holds and the blocks
in use. -/
structure Tallied (start : Nat) (held : List Block) (tiers : List Tier) (heap : Heap) : Prop where
  tidy : heap.Tidy start
  held_le : Everywhere (fun counters => held.length ≤ counters.live.toNat) tiers
  le_used : Everywhere (fun counters => counters.live.toNat ≤ (heap.since start).length) tiers

/-- A lawful dealing for which there is room is one with both stacks and keeps the tally. -/
theorem Tallied.serves (tallied : Tallied start held tiers plain.site.heap)
    (mirrors : Mirrors place tiers plain counted) (fits : Fits place tiers)
    (served : plain.Serves dealing after) (lawful : dealing.Lawful held)
    (room : dealing.Stretches plain.layers → plain.site.heap.next < after.site.heap.next →
      (plain.site.heap.since start).length + 1 < UInt64.size) :
    ∃ now counted', counted.Serves dealing counted' ∧ Mirrors place now after counted' ∧
      now.map isAdded = tiers.map isAdded ∧ Fits place now ∧
      Tallied start (dealing.hold held) now after.site.heap := by
  have hstocked : dealing.parted? ≠ none → Everywhere Stocked tiers := by
    intro hparted counters hcounters
    obtain ⟨block, hblock⟩ := Option.ne_none_iff_exists'.1 hparted
    exact Nat.lt_of_lt_of_le (List.length_pos_of_mem (lawful block hblock))
      (tallied.held_le counters hcounters)
  have hroomy : dealing.Stretches plain.layers →
      plain.site.heap.next < after.site.heap.next → Everywhere Roomy tiers := by
    intro hstretches hgrew counters hcounters
    have hle := tallied.le_used counters hcounters
    have hroom := room hstretches hgrew
    unfold Roomy
    omega
  obtain ⟨now, counted', hserved, hmirrors, htidy, drifted⟩ :=
    mirrors.serves fits tallied.tidy served hstocked hroomy
  have hhold := Dealing.length_hold_le lawful
  refine ⟨now, counted', hserved, hmirrors, drifted.isAdded_eq, drifted.fits fits, htidy, ?_, ?_⟩
  · refine drifted.everywhere tallied.held_le ?_
    intro before shown hheld hlow _
    omega
  · refine drifted.everywhere tallied.le_used ?_
    intro before shown hused _ hhigh
    omega

end Tier

/-- What the user of an allocator does: it asks for something, or it writes to a block. -/
inductive Use
  | ask (thread : Thread) (operation : Operation)
  | write (block : Block) (offset : Nat) (bytes : List UInt8)

namespace Stack

/-- One use of a stack, with its dealings. -/
def use (stack : Stack) : Use → List Dealing × Stack
  | .ask thread operation => stack.operate thread operation
  | .write block offset bytes =>
    let heap := stack.site.heap.write block offset bytes
    ([], { stack with site := { stack.site with heap := heap } })

/-- Uses of a stack, one after the other. -/
def useAll (stack : Stack) : List Use → List Dealing × Stack
  | [] => ([], stack)
  | use :: rest =>
    let (dealings, after) := stack.use use
    let (further, last) := after.useAll rest
    (dealings ++ further, last)

/-- The most blocks in use at one moment of a use, of those handed out from an address on.  A
resize that all layers pass on puts the new block in the place of the old one. -/
def mostInUse (start : Nat) (stack : Stack) (use : Use) : Nat :=
  let before := (stack.site.heap.since start).length
  let fresh := (stack.use use).2.site.heap.next - stack.site.heap.next
  match use with
  | .ask _ (.resize ..) => if Forwards stack.layers then before else before + fresh
  | _ => before + fresh

/-- At no moment of the uses are there as many blocks in use as there are words. -/
def Uncrowded (start : Nat) (stack : Stack) : List Use → Prop
  | [] => True
  | use :: rest =>
    stack.mostInUse start use < UInt64.size ∧ Uncrowded start (stack.use use).2 rest

instance decidableUncrowded (start : Nat) :
    ∀ (stack : Stack) (uses : List Use), Decidable (stack.Uncrowded start uses)
  | _, [] => .isTrue trivial
  | stack, use :: rest =>
    have := decidableUncrowded start (stack.use use).2 rest
    inferInstanceAs (Decidable
      (stack.mostInUse start use < UInt64.size ∧ Uncrowded start (stack.use use).2 rest))

end Stack

namespace Tier

variable {place : Nat → Nat} {start : Nat} {tiers now : List Tier} {held : List Block}
  {plain counted : Stack}

/-- Two stacks that are alike but for the added layers, while a user holds some blocks. -/
def Twins (tiers : List Tier) (start : Nat) (held : List Block) (plain counted : Stack) : Prop :=
  ∃ now, Mirrors (Tier.place tiers) now plain counted ∧ now.map isAdded = tiers.map isAdded ∧
    Fits (Tier.place tiers) now ∧ Tallied start held now plain.site.heap

section Uses

variable {dealing : Dealing} {after : Stack}

/-- One dealing with both stacks. -/
theorem Twins.serves (twins : Twins tiers start held plain counted)
    (served : plain.Serves dealing after) (lawful : dealing.Lawful held)
    (room : dealing.Stretches plain.layers → plain.site.heap.next < after.site.heap.next →
      (plain.site.heap.since start).length + 1 < UInt64.size) :
    ∃ counted', counted.Serves dealing counted' ∧
      Twins tiers start (dealing.hold held) after counted' := by
  obtain ⟨now, mirrors, hshape, fits, tallied⟩ := twins
  obtain ⟨later, counted', hserved, hmirrors, hsame, hfits, htallied⟩ :=
    tallied.serves mirrors fits served lawful room
  exact ⟨counted', hserved, later, hmirrors, hsame.trans hshape, hfits, htallied⟩

/-- A new block, for which there is room if the heap hands one out. -/
theorem Twins.allocate {thread : Thread} {size : UInt64} {answer : Except Stop Block}
    (twins : Twins tiers start held plain counted)
    (h : plain.allocate thread size = (answer, after))
    (room : plain.site.heap.next < after.site.heap.next →
      (plain.site.heap.since start).length + 1 < UInt64.size) :
    ∃ counted', counted.allocate thread size = (answer, counted') ∧
      Twins tiers start (Dealing.hold held (.allocate thread size answer)) after counted' := by
  have lawful : (Dealing.allocate thread size answer).Lawful held := fun _ hnone => nomatch hnone
  obtain ⟨counted', hserved, htwins⟩ := twins.serves (.allocate h) lawful fun _ => room
  cases hserved with
  | allocate hcounted => exact ⟨counted', hcounted, htwins⟩

/-- A block on its way back needs no room. -/
theorem Twins.release {thread : Thread} {block : Block}
    (twins : Twins tiers start held plain counted)
    (lawful : (Dealing.release thread block).Lawful held) :
    Twins tiers start (Dealing.hold held (.release thread block)) (plain.release thread block)
      (counted.release thread block) := by
  have hstill : ¬ plain.site.heap.next < (plain.release thread block).site.heap.next := by
    rw [Stack.next_release]
    exact Nat.lt_irrefl _
  obtain ⟨counted', hserved, htwins⟩ := twins.serves (.release thread block) lawful
    fun _ hgrew => absurd hgrew hstill
  cases hserved with
  | release _ _ => exact htwins

/-- An operation has the same dealings with both stacks. -/
theorem Twins.operate (twins : Twins tiers start held plain counted) (thread : Thread)
    (operation : Operation)
    (lawful : Dealing.Throughout Dealing.Lawful held (plain.operate thread operation).1)
    (room : plain.mostInUse start (.ask thread operation) < UInt64.size) :
    (counted.operate thread operation).1 = (plain.operate thread operation).1 ∧
      Twins tiers start (Dealing.holdAll held (plain.operate thread operation).1)
        (plain.operate thread operation).2 (counted.operate thread operation).2 := by
  cases operation with
  | allocate size =>
      rcases hcall : plain.allocate thread size with ⟨answer, after⟩
      simp only [Stack.mostInUse, Stack.use, Stack.operate, hcall] at room ⊢
      obtain ⟨counted', hcounted, htwins⟩ := twins.allocate hcall fun hgrew => by omega
      rw [hcounted]
      exact ⟨rfl, htwins⟩
  | release block => exact ⟨rfl, twins.release lawful.1⟩
  | resize block size =>
      rcases hcall : plain.resize thread block size with ⟨answer, after⟩
      simp only [Stack.mostInUse, Stack.use, Stack.operate, hcall] at lawful room ⊢
      obtain ⟨counted', hserved, htwins⟩ :=
        twins.serves (.resize hcall) lawful.1 fun hstretches hgrew => by
          rw [if_neg hstretches] at room
          omega
      cases hserved with
      | resize hcounted =>
          rw [hcounted]
          exact ⟨rfl, htwins⟩
  | pair size =>
      obtain ⟨block, between, hcall, hpair⟩ | ⟨stop, between, hcall, hpair⟩ :=
        Stack.pair_eq plain thread size
      · simp only [Stack.mostInUse, Stack.use, Stack.operate, hcall, hpair, Stack.next_release]
          at lawful room ⊢
        obtain ⟨counted', hcounted, hasked⟩ := twins.allocate hcall fun hgrew => by omega
        simp only [Stack.pair, hcounted]
        exact ⟨trivial, hasked.release lawful.2.1⟩
      · simp only [Stack.mostInUse, Stack.use, Stack.operate, hcall, hpair] at room ⊢
        obtain ⟨counted', hcounted, htwins⟩ := twins.allocate hcall fun hgrew => by omega
        simp only [Stack.pair, hcounted]
        exact ⟨trivial, htwins⟩

/-- A use has the same dealings with both stacks. -/
theorem Twins.use (twins : Twins tiers start held plain counted) (use : Use)
    (lawful : Dealing.Throughout Dealing.Lawful held (plain.use use).1)
    (room : plain.mostInUse start use < UInt64.size) :
    (counted.use use).1 = (plain.use use).1 ∧
      Twins tiers start (Dealing.holdAll held (plain.use use).1) (plain.use use).2
        (counted.use use).2 := by
  cases use with
  | ask thread operation => exact twins.operate thread operation lawful room
  | write block offset bytes =>
      obtain ⟨now, ⟨hbare, hfull, hsite⟩, hshape, fits, tidy, hheld, hused⟩ := twins
      obtain ⟨htidy, hsince⟩ := tidy.write block offset bytes
      refine ⟨rfl, now, ⟨hbare, hfull, ?_⟩, hshape, fits, htidy, hheld, ?_⟩
      · simp only [Stack.use, hsite]
        rfl
      · rw [← hsince] at hused
        exact hused

/-- Uses have the same dealings with both stacks. -/
theorem Twins.useAll {uses : List Use} (twins : Twins tiers start held plain counted)
    (lawful : Dealing.Throughout Dealing.Lawful held (plain.useAll uses).1)
    (uncrowded : plain.Uncrowded start uses) :
    (counted.useAll uses).1 = (plain.useAll uses).1 ∧
      ∃ last, Twins tiers start last (plain.useAll uses).2 (counted.useAll uses).2 := by
  induction uses generalizing plain counted held with
  | nil => exact ⟨rfl, held, twins⟩
  | cons use rest ih =>
      obtain ⟨room, uncrowded⟩ := uncrowded
      simp only [Stack.useAll, Dealing.throughout_append] at lawful ⊢
      obtain ⟨hdealings, htwins⟩ := twins.use use lawful.1 room
      obtain ⟨hfurther, hlast⟩ := ih htwins lawful.2 uncrowded
      rw [hdealings, hfurther]
      exact ⟨rfl, hlast⟩

end Uses
/-- Two stacks that are alike but for the added layers. -/
def Alike (tiers : List Tier) (plain counted : Stack) : Prop :=
  ∃ now, Mirrors (Tier.place tiers) now plain counted ∧ now.map isAdded = tiers.map isAdded

/-- Two stacks that are alike but for the added layers, each of which counts the blocks that a
user holds. -/
def Steady (tiers : List Tier) (held : List Block) (plain counted : Stack) : Prop :=
  ∃ now, Mirrors (Tier.place tiers) now plain counted ∧ now.map isAdded = tiers.map isAdded ∧
    Fits (Tier.place tiers) now ∧ plain.site.heap.Sound ∧
    Everywhere (fun counters => counters.live = UInt64.ofNat held.length) now

section Steady

variable {dealing : Dealing} {after : Stack} {thread : Thread} {size : UInt64}
  {block fresh : Block} {answer : Except Stop Block}

theorem Twins.alike (twins : Twins tiers start held plain counted) :
    Alike tiers plain counted := by
  obtain ⟨now, mirrors, hshape, -, -⟩ := twins
  exact ⟨now, mirrors, hshape⟩

theorem Steady.alike (steady : Steady tiers held plain counted) : Alike tiers plain counted := by
  obtain ⟨now, mirrors, hshape, -, -⟩ := steady
  exact ⟨now, mirrors, hshape⟩

/-- What all layers count, the added ones count. -/
theorem everywhere_shifted {count live : UInt64} (shape : now.map isAdded = tiers.map isAdded)
    (changed : Changed (Counters.Shifted count) (full tiers) (full now))
    (h : Everywhere (fun counters => counters.live = live) tiers) :
    Everywhere (fun counters => counters.live = live + count) now := by
  induction tiers generalizing now with
  | nil =>
      rw [List.map_eq_nil_iff.1 shape]
      exact fun _ hnone => absurd hnone List.not_mem_nil
  | cons tier below ih =>
      cases now with
      | nil => cases shape
      | cons tier' below' =>
          obtain ⟨hkind, hshape⟩ := List.cons.inj shape
          cases changed with
          | cons hd tl =>
              intro counters hcounters
              rcases List.mem_cons.1 hcounters with rfl | htail
              · cases tier with
                | given layer => cases hkind
                | added before =>
                    cases hd with
                    | counting shifted =>
                        rw [shifted.live, h.head]
              · exact ih hshape tl h.tail counters htail

/-- One dealing of a user that holds one block at most. -/
theorem Steady.serves (steady : Steady tiers held plain counted) (single : held.length ≤ 1)
    (served : plain.Serves dealing after) (lawful : dealing.Lawful held) :
    ∃ counted', counted.Serves dealing counted' ∧ Alike tiers after counted' ∧
      (dealing.Returned → Steady tiers (dealing.hold held) after counted') := by
  obtain ⟨now, mirrors, hshape, fits, sound, hlive⟩ := steady
  have htoNat : (UInt64.ofNat held.length).toNat = held.length :=
    UInt64.toNat_ofNat_of_lt' (Nat.lt_of_le_of_lt single (by decide))
  have hstocked : dealing.parted? ≠ none → Everywhere Stocked now := by
    intro hparted counters hcounters
    obtain ⟨block, hblock⟩ := Option.ne_none_iff_exists'.1 hparted
    have hpos := List.length_pos_of_mem (lawful block hblock)
    unfold Stocked
    rw [hlive counters hcounters, htoNat]
    exact hpos
  have hroomy : Everywhere Roomy now := by
    intro counters hcounters
    unfold Roomy
    rw [hlive counters hcounters, htoNat]
    exact Nat.lt_of_le_of_lt (Nat.succ_le_succ single) (by decide)
  obtain ⟨later, counted', hserved, hmirrors, htidy, drifted⟩ :=
    mirrors.serves fits sound.tidy served hstocked fun _ _ => hroomy
  have hsame := drifted.isAdded_eq
  refine ⟨counted', hserved, ⟨later, hmirrors, hsame.trans hshape⟩, ?_⟩
  intro returned
  obtain ⟨count, hshifted, hcount⟩ := hserved.shifted returned lawful
  rw [mirrors.full, hmirrors.full] at hshifted
  refine ⟨later, hmirrors, hsame.trans hshape, drifted.fits fits, htidy.sound, ?_⟩
  rw [hcount]
  exact everywhere_shifted hsame hshifted hlive

theorem Steady.allocate (steady : Steady tiers [] plain counted)
    (h : plain.allocate thread size = (answer, after)) :
    ∃ counted', counted.allocate thread size = (answer, counted') ∧ Alike tiers after counted' ∧
      ∀ block, answer = .ok block → Steady tiers [block] after counted' := by
  obtain ⟨counted', hserved, alike, hsteady⟩ :=
    steady.serves (Nat.zero_le 1) (.allocate h) fun _ hnone => by cases hnone
  cases hserved with
  | allocate hcounted =>
      refine ⟨counted', hcounted, alike, ?_⟩
      rintro block rfl
      exact hsteady (Returns.ok block)

theorem Steady.release (steady : Steady tiers [block] plain counted) (thread : Thread) :
    Steady tiers [] (plain.release thread block) (counted.release thread block) := by
  obtain ⟨counted', hserved, -, hsteady⟩ :=
    steady.serves (Nat.le_refl 1) (.release thread block) (Dealing.lawful_singleton rfl)
  cases hserved with
  | release _ _ =>
      have hafter := hsteady trivial
      rwa [Dealing.hold_singleton rfl] at hafter

theorem Steady.resize (steady : Steady tiers [block] plain counted)
    (h : plain.resize thread block size = (answer, after)) :
    ∃ counted', counted.resize thread block size = (answer, counted') ∧
      Alike tiers after counted' ∧
      ∀ fresh, answer = .ok fresh → Steady tiers [fresh] after counted' := by
  obtain ⟨counted', hserved, alike, hsteady⟩ :=
    steady.serves (Nat.le_refl 1) (.resize h) (Dealing.lawful_singleton rfl)
  cases hserved with
  | resize hcounted =>
      refine ⟨counted', hcounted, alike, ?_⟩
      rintro fresh rfl
      have hafter := hsteady (Returns.ok fresh)
      rwa [Dealing.hold_singleton rfl] at hafter

/-- What happens to the site aside from the heap and the calls happens on both sides. -/
theorem Steady.aside (steady : Steady tiers held plain counted) (act : Site → Site)
    (renumbered : ∀ place site, act (Site.renumber place site) = (act site).renumber place)
    (heap : ∀ site, (act site).heap = site.heap) :
    Steady tiers held { plain with site := act plain.site }
      { counted with site := act counted.site } := by
  obtain ⟨now, ⟨hbare, hfull, hsite⟩, hshape, fits, sound, hlive⟩ := steady
  refine ⟨now, ⟨hbare, hfull, ?_⟩, hshape, fits, ?_, hlive⟩
  · rw [hsite, renumbered]
  · rw [heap]
    exact sound

theorem Steady.emit (steady : Steady tiers held plain counted) (thread : Thread)
    (level : Log.Level) (origin : Log.Origin) (message : String)
    (fields : List (String × Log.Value)) :
    Steady tiers held (plain.emit thread level origin message fields)
      (counted.emit thread level origin message fields) :=
  steady.aside (fun site => site.emit thread level origin message fields) (fun _ _ => rfl)
    fun _ => rfl

theorem Steady.requestStop (steady : Steady tiers held plain counted) :
    Steady tiers held { plain with site := plain.site.requestStop }
      { counted with site := counted.site.requestStop } :=
  steady.aside Site.requestStop (fun _ _ => rfl) fun _ => rfl

theorem Steady.stopRequested_eq (steady : Steady tiers held plain counted) :
    counted.site.stopRequested = plain.site.stopRequested := by
  obtain ⟨now, mirrors, -, -⟩ := steady
  rw [mirrors.site, Site.stopRequested_renumber]

end Steady

/-- A call has the same result on both stacks and leaves them alike.  Where it succeeds, its
user holds nothing. -/
inductive Echoes {α : Type} (tiers : List Tier) :
    Except Stop α × Stack → Except Stop α × Stack → Prop
  | finished {plain counted : Stack} (value : α) (steady : Steady tiers [] plain counted) :
      Echoes tiers (.ok value, plain) (.ok value, counted)
  | stopped {plain counted : Stack} (stop : Stop) (alike : Alike tiers plain counted) :
      Echoes tiers (.error stop, plain) (.error stop, counted)

section Echoes

variable {α : Type} {block : Block} {thread : Thread} {size : UInt64}

theorem Echoes.same {plain counted : Except Stop α × Stack} (h : Echoes tiers plain counted) :
    counted.1 = plain.1 ∧ Alike tiers plain.2 counted.2 := by
  cases h with
  | finished value steady => exact ⟨rfl, steady.alike⟩
  | stopped stop alike => exact ⟨rfl, alike⟩

theorem Steady.pair (steady : Steady tiers [] plain counted) (thread : Thread) (size : UInt64) :
    Echoes tiers (plain.pair thread size) (counted.pair thread size) := by
  unfold Stack.pair
  rcases hcall : plain.allocate thread size with ⟨answer, after⟩
  obtain ⟨counted', hcounted, alike, hsteady⟩ := steady.allocate hcall
  rw [hcounted]
  cases answer with
  | ok block => exact .finished () ((hsteady block rfl).release thread)
  | error stop => exact .stopped stop alike

theorem Steady.cycles (steady : Steady tiers [] plain counted) (thread : Thread)
    (size : UInt64) (left : Nat) :
    Echoes tiers (Workers.cycles thread size left plain)
      (Workers.cycles thread size left counted) := by
  induction left generalizing plain counted with
  | zero => exact .finished () steady
  | succ left ih =>
      unfold Workers.cycles
      have hpair := steady.pair thread size
      generalize plain.pair thread size = bare, counted.pair thread size = full at hpair
      cases hpair with
      | finished _ after => exact ih after
      | stopped stop alike => exact .stopped stop alike

theorem Steady.runWorker (steady : Steady tiers [] plain counted) (thread : Thread)
    (index count size : UInt64) :
    Echoes tiers (Workers.runWorker thread index count size plain)
      (Workers.runWorker thread index count size counted) := by
  unfold Workers.runWorker
  have hbegun := steady.emit thread .trace .workers "worker started"
    [("index", .word index), ("cycles", .word count)]
  have hcycles := hbegun.cycles thread size count.toNat
  dsimp only
  generalize Workers.cycles thread size count.toNat (plain.emit ..) = bare,
    Workers.cycles thread size count.toNat (counted.emit ..) = full at hcycles
  cases hcycles with
  | finished _ after => exact .finished count after
  | stopped stop alike => exact .stopped stop alike

theorem Steady.growThrough (steady : Steady tiers [block] plain counted) (thread : Thread)
    (sizes : List UInt64) :
    Echoes tiers (Growth.growThrough thread sizes block plain)
      (Growth.growThrough thread sizes block counted) := by
  induction sizes generalizing block plain counted with
  | nil => exact .finished () (steady.release thread)
  | cons size rest ih =>
      unfold Growth.growThrough
      rcases hcall : plain.resize thread block size with ⟨answer, after⟩
      obtain ⟨counted', hcounted, alike, hsteady⟩ := steady.resize hcall
      rw [hcounted]
      cases answer with
      | ok fresh => exact ih (hsteady fresh rfl)
      | error stop => exact .stopped stop alike

theorem Steady.grow (steady : Steady tiers [] plain counted) (thread : Thread)
    (sizes : List UInt64) :
    Echoes tiers (Growth.grow thread sizes plain) (Growth.grow thread sizes counted) := by
  cases sizes with
  | nil => exact .finished () steady
  | cons first rest =>
      rcases hcall : plain.allocate thread first with ⟨answer, after⟩
      obtain ⟨counted', hcounted, alike, hsteady⟩ := steady.allocate hcall
      cases answer with
      | ok block =>
          simp only [Growth.grow, hcall, hcounted]
          exact (hsteady block rfl).growThrough thread rest
      | error stop =>
          simp only [Growth.grow, hcall, hcounted]
          exact .stopped stop alike

theorem Steady.rounds (steady : Steady tiers [] plain counted) (sizes : List UInt64)
    (left : Nat) (round requests : UInt64) :
    Echoes tiers (Growth.rounds sizes left round requests plain)
      (Growth.rounds sizes left round requests counted) := by
  induction left generalizing round requests plain counted with
  | zero => exact .finished requests steady
  | succ left ih =>
      unfold Growth.rounds
      have hgrow := steady.grow .main sizes
      generalize Growth.grow .main sizes plain = bare, Growth.grow .main sizes counted = full
        at hgrow
      cases hgrow with
      | stopped stop alike => exact .stopped stop alike
      | finished _ after =>
          dsimp only
          split
          · exact .stopped _ after.alike
          · exact ih (after.emit ..) _ _

theorem Steady.growth (steady : Steady tiers [] plain counted) (config : Growth.Config) :
    Echoes tiers (Growth.run config plain) (Growth.run config counted) := by
  unfold Growth.run
  split
  · exact .stopped _ steady.alike
  · exact (steady.emit ..).rounds _ _ _ _

end Echoes

end Tier

namespace Sequential

open Tier

/-- Two sessions whose stacks are alike but for the added layers. -/
structure Session.Alike (tiers : List Tier) (plain counted : Session) : Prop where
  sink : counted.sink = plain.sink
  completed : counted.completed = plain.completed
  stack : Tier.Alike tiers plain.stack counted.stack

/-- Two such sessions between two iterations. -/
structure Session.Steady (tiers : List Tier) (plain counted : Session) : Prop where
  sink : counted.sink = plain.sink
  completed : counted.completed = plain.completed
  stack : Tier.Steady tiers [] plain.stack counted.stack

/-- A part of the run has the same result in both sessions. -/
inductive Echoes {α : Type} (tiers : List Tier) :
    Except Stop α × Session → Except Stop α × Session → Prop
  | finished {plain counted : Session} (value : α) (steady : plain.Steady tiers counted) :
      Echoes tiers (.ok value, plain) (.ok value, counted)
  | stopped {plain counted : Session} (stop : Stop) (alike : plain.Alike tiers counted) :
      Echoes tiers (.error stop, plain) (.error stop, counted)

theorem Echoes.finished_or_stopped {α : Type} {tiers : List Tier}
    {bare full : Except Stop α × Session} (h : Echoes tiers bare full) :
    (∃ value plain counted, bare = (.ok value, plain) ∧ full = (.ok value, counted) ∧
        plain.Steady tiers counted) ∨
      ∃ stop plain counted, bare = (.error stop, plain) ∧ full = (.error stop, counted) ∧
        plain.Alike tiers counted := by
  cases h with
  | finished value steady => exact .inl ⟨value, _, _, rfl, rfl, steady⟩
  | stopped stop alike => exact .inr ⟨stop, _, _, rfl, rfl, alike⟩

/-- A turn of the loop has the same outcome in both sessions. -/
inductive Turn.Echoes (tiers : List Tier) : Turn → Turn → Prop
  | again {plain counted : Session} (steady : plain.Steady tiers counted) :
      Echoes tiers (.again plain) (.again counted)
  | ended {plain counted : Session} (cause : Cause) (steady : plain.Steady tiers counted) :
      Echoes tiers (.ended cause plain) (.ended cause counted)
  | stopped {plain counted : Session} (stop : Stop) (alike : plain.Alike tiers counted) :
      Echoes tiers (.stopped stop plain) (.stopped stop counted)

namespace Session.Steady

variable {tiers : List Tier} {plain counted : Session}

theorem alike (steady : plain.Steady tiers counted) : plain.Alike tiers counted :=
  ⟨steady.sink, steady.completed, steady.stack.alike⟩

theorem emit (steady : plain.Steady tiers counted) (level : Log.Level) (message : String)
    (fields : List (String × Log.Value)) :
    (plain.emit level message fields).Steady tiers (counted.emit level message fields) :=
  ⟨steady.sink, steady.completed, steady.stack.emit ..⟩

theorem requestStop (steady : plain.Steady tiers counted) :
    plain.requestStop.Steady tiers counted.requestStop :=
  ⟨steady.sink, steady.completed, steady.stack.requestStop⟩

theorem heedSink (steady : plain.Steady tiers counted) :
    plain.heedSink.Steady tiers counted.heedSink := by
  unfold Session.heedSink
  rw [steady.sink]
  split
  · exact steady.requestStop
  · exact steady

theorem withSink (steady : plain.Steady tiers counted)
    (action : Sink → Except IoError Unit × Sink) :
    Echoes tiers (plain.withSink action) (counted.withSink action) := by
  obtain ⟨stack, sink, completed⟩ := plain
  obtain ⟨stack', sink', completed'⟩ := counted
  obtain ⟨hsink, hcompleted, hstack⟩ := steady
  dsimp only at hsink hcompleted hstack
  subst hsink hcompleted
  unfold Session.withSink
  dsimp only
  rcases action sink' with ⟨answer, after⟩
  have hafter : Session.Steady tiers ⟨stack, after, completed'⟩ ⟨stack', after, completed'⟩ :=
    ⟨rfl, rfl, hstack⟩
  cases answer with
  | ok _ => exact .finished () hafter.heedSink
  | error error => exact .stopped _ hafter.heedSink.alike

theorem write (steady : plain.Steady tiers counted) (text : String) :
    Echoes tiers (plain.write text) (counted.write text) :=
  steady.withSink _

theorem step (steady : plain.Steady tiers counted) (size : UInt64) :
    Echoes tiers (plain.step size) (counted.step size) := by
  unfold Session.step
  have hpair := steady.stack.pair .main size
  generalize plain.stack.pair .main size = bare, counted.stack.pair .main size = full at hpair
  cases hpair with
  | stopped stop alike => exact .stopped stop ⟨steady.sink, steady.completed, alike⟩
  | @finished stack stack' _ after =>
      have hafter : Session.Steady tiers { plain with stack := stack }
          { counted with stack := stack' } := ⟨steady.sink, steady.completed, after⟩
      dsimp only
      rcases (hafter.write stepLine).finished_or_stopped with
        ⟨_, written, written', hbare, hfull, hwritten⟩ | ⟨stop, left, left', hbare, hfull, alike⟩
      · rw [hbare, hfull]
        dsimp only
        rcases (hwritten.write "\n").finished_or_stopped with
          ⟨_, ended, ended', hbare, hfull, hended⟩ | ⟨stop, left, left', hbare, hfull, alike⟩
        · rw [hbare, hfull]
          exact hended.withSink Sink.flush
        · rw [hbare, hfull]
          exact .stopped stop alike
      · rw [hbare, hfull]
        exact .stopped stop alike

theorem atLimit_eq (steady : plain.Steady tiers counted) (config : Config) :
    counted.atLimit config = plain.atLimit config := by
  unfold Session.atLimit
  rw [steady.completed]

theorem stopRequested_eq (steady : plain.Steady tiers counted) :
    counted.stopRequested = plain.stopRequested :=
  steady.stack.stopRequested_eq

/-- A signal does the same to both sessions. -/
theorem receive (steady : plain.Steady tiers counted) (signal : Signal) :
    (∃ received received', plain.receive signal = .ok received ∧
        counted.receive signal = .ok received' ∧ received.Steady tiers received') ∨
      ∃ stop, plain.receive signal = .error stop ∧ counted.receive signal = .error stop := by
  unfold Session.receive
  split
  · refine .inl ⟨_, _, rfl, rfl, requestStop ⟨steady.sink, steady.completed, ?_⟩⟩
    exact steady.stack.aside
      (fun site => { site with journal := StopRequest.report site.journal })
      (fun _ _ => rfl) fun _ => rfl
  · split
    · exact .inl ⟨plain, counted, rfl, rfl, steady⟩
    · exact .inr ⟨_, rfl, rfl⟩

/-- The end of a turn: another one, unless the run was asked to stop. -/
theorem paused (steady : plain.Steady tiers counted) :
    Turn.Echoes tiers (if plain.stopRequested then .ended .stopRequest plain else .again plain)
      (if counted.stopRequested then .ended .stopRequest counted else .again counted) := by
  rw [steady.stopRequested_eq]
  split
  · exact .ended .stopRequest steady
  · exact .again steady

theorem afterStep (steady : plain.Steady tiers counted) (config : Config) (pauses : Pauses) :
    Turn.Echoes tiers (afterStep config pauses plain) (afterStep config pauses counted) := by
  unfold Sequential.afterStep
  rw [steady.completed]
  split
  · exact .stopped _ steady.alike
  · rename_i completed _
    have hcounted : Session.Steady tiers { plain with completed := completed }
        { counted with completed := completed } := ⟨steady.sink, rfl, steady.stack⟩
    have hwritten := hcounted.emit .debug "step written" [("iteration", .word completed)]
    dsimp only
    generalize Session.emit { plain with completed := completed } .debug "step written"
        [("iteration", .word completed)] = reported,
      Session.emit { counted with completed := completed } .debug "step written"
        [("iteration", .word completed)] = reported' at hwritten ⊢
    rw [hwritten.atLimit_eq]
    split
    · exact .ended .iterationLimit hwritten
    · cases pauses completed with
      | none => exact hwritten.paused
      | some signal =>
          dsimp only
          rcases hwritten.receive signal with
            ⟨received, received', hplain, hfull, hreceived⟩ | ⟨stop, hplain, hfull⟩
          · rw [hplain, hfull]
            exact hreceived.paused
          · rw [hplain, hfull]
            exact .stopped stop hwritten.alike

theorem turn (steady : plain.Steady tiers counted) (config : Config) (pauses : Pauses) :
    Turn.Echoes tiers (turn config pauses plain) (turn config pauses counted) := by
  unfold Sequential.turn
  rw [steady.stopRequested_eq, steady.atLimit_eq]
  split
  · exact .ended .stopRequest steady
  · split
    · exact .ended .iterationLimit steady
    · rcases (steady.step config.blockSize).finished_or_stopped with
        ⟨_, after, after', hplain, hfull, hafter⟩ | ⟨stop, left, left', hplain, hfull, alike⟩
      · rw [hplain, hfull]
        exact hafter.afterStep config pauses
      · rw [hplain, hfull]
        exact .stopped stop alike

theorem loop (steady : plain.Steady tiers counted) (config : Config) (pauses : Pauses)
    (room : Nat) :
    Echoes tiers (loop config pauses room plain) (loop config pauses room counted) := by
  induction room generalizing plain counted with
  | zero => exact .stopped _ steady.alike
  | succ room ih =>
      unfold Sequential.loop
      have hturn := steady.turn config pauses
      generalize Sequential.turn config pauses plain = bare,
        Sequential.turn config pauses counted = full at hturn
      cases hturn with
      | again after => exact ih after
      | @ended last last' cause after =>
          dsimp only
          unfold Sequential.conclude
          rw [after.completed]
          exact .finished _ (after.emit ..)
      | stopped stop alike => exact .stopped stop alike

end Session.Steady

/-- The sequential fixture has the same result and leaves the same output. -/
theorem alike_run {tiers : List Tier} {plain counted : Stack}
    (steady : Tier.Steady tiers [] plain counted) (config : Config) (pauses : Pauses)
    (sink : Sink) :
    (run config pauses counted sink).1 = (run config pauses plain sink).1 ∧
      (run config pauses plain sink).2.Alike tiers (run config pauses counted sink).2 := by
  cases hvalid : config.validate with
  | error fault =>
      simp only [run, start, hvalid]
      exact ⟨trivial, rfl, rfl, steady.alike⟩
  | ok _ =>
      have hbegun : Session.Steady tiers ⟨plain, sink, 0⟩ ⟨counted, sink, 0⟩ := ⟨rfl, rfl, steady⟩
      simp only [run, start, hvalid]
      rcases ((hbegun.emit ..).loop config pauses UInt64.size).finished_or_stopped with
        ⟨_, last, last', hplain, hfull, hlast⟩ | ⟨stop, last, last', hplain, hfull, alike⟩
      · rw [hplain, hfull]
        exact ⟨rfl, hlast.alike⟩
      · rw [hplain, hfull]
        exact ⟨rfl, alike⟩

end Sequential

/-- A stack of tiers without the layers that were added. -/
def Stack.plain (tiers : List Tier) (site : Site) : Stack := ⟨Tier.bare tiers, site⟩

/-- A stack of tiers with all its layers.  Calls that were noted before carry the numbers that
the layers have now. -/
def Stack.counted (tiers : List Tier) (site : Site) : Stack :=
  ⟨Tier.full tiers, site.renumber (Tier.place tiers)⟩

/-- The layers that were added to a stack change nothing but themselves. -/
structure Transparent (tiers : List Tier) (site : Site) : Prop where
  uses : ∀ uses,
    Dealing.Throughout Dealing.Lawful [] ((Stack.plain tiers site).useAll uses).1 →
    (Stack.plain tiers site).Uncrowded site.heap.next uses →
      ((Stack.counted tiers site).useAll uses).1 = ((Stack.plain tiers site).useAll uses).1 ∧
        Tier.Alike tiers ((Stack.plain tiers site).useAll uses).2
          ((Stack.counted tiers site).useAll uses).2
  sequential : ∀ config pauses sink,
    (Sequential.run config pauses (Stack.counted tiers site) sink).1 =
        (Sequential.run config pauses (Stack.plain tiers site) sink).1 ∧
      (Sequential.run config pauses (Stack.plain tiers site) sink).2.Alike tiers
        (Sequential.run config pauses (Stack.counted tiers site) sink).2
  worker : ∀ thread index count size,
    (Workers.runWorker thread index count size (Stack.counted tiers site)).1 =
        (Workers.runWorker thread index count size (Stack.plain tiers site)).1 ∧
      Tier.Alike tiers (Workers.runWorker thread index count size (Stack.plain tiers site)).2
        (Workers.runWorker thread index count size (Stack.counted tiers site)).2
  growth : ∀ config,
    (Growth.run config (Stack.counted tiers site)).1 =
        (Growth.run config (Stack.plain tiers site)).1 ∧
      Tier.Alike tiers (Growth.run config (Stack.plain tiers site)).2
        (Growth.run config (Stack.counted tiers site)).2

/-- Four layers added to a stack of three: around a gate that does not pass a resize on, and
below one that panics over its fourth request. -/
def Tier.aroundGates : List Tier :=
  [.added .zero, .given (.gate (.ofRefusals (.capped 64) false true)), .added .zero, .added .zero,
    .given (.counting .zero),
    .given (.gate (.ofRefusals ⟨none, none, [4], [], none, none, none⟩ true true)), .added .zero]

/-- A block is written to, grows, and is lost in a panic as it grows again.  Another one is
refused as it grows too far. -/
def usesThroughGates : List Use :=
  [.ask .main (.allocate 8), .write ⟨0, 8⟩ 0 [1, 2, 3], .ask .main (.resize ⟨0, 8⟩ 16),
    .ask .main (.pair 4), .ask .main (.resize ⟨1, 16⟩ 20), .ask .main (.allocate 5),
    .ask .main (.resize ⟨3, 5⟩ 100)]

/-- Counting layers that have seen nothing may be added to any stack at any places. -/
theorem counting_is_transparent (tiers : List Tier) (site : Site)
    (unused : Tier.Everywhere (fun counters => counters = .zero) tiers)
    (sound : site.heap.Sound) : Transparent tiers site := by
  have hmirrors : Tier.Mirrors (Tier.place tiers) tiers (.plain tiers site)
      (.counted tiers site) := ⟨rfl, rfl, rfl⟩
  have htwins : Tier.Twins tiers site.heap.next [] (.plain tiers site) (.counted tiers site) := by
    refine ⟨tiers, hmirrors, rfl, Tier.fits_place tiers, sound.tidy, ?_, ?_⟩
    · exact fun counters _ => Nat.zero_le _
    · intro counters hcounters
      rw [unused counters hcounters]
      exact Nat.zero_le _
  have hsteady : Tier.Steady tiers [] (.plain tiers site) (.counted tiers site) := by
    refine ⟨tiers, hmirrors, rfl, Tier.fits_place tiers, sound, ?_⟩
    intro counters hcounters
    rw [unused counters hcounters]
    rfl
  constructor
  case uses =>
    intro uses lawful uncrowded
    obtain ⟨hdealings, last, hlast⟩ := htwins.useAll lawful uncrowded
    exact ⟨hdealings, hlast.alike⟩
  case sequential =>
    intro config pauses sink
    exact Sequential.alike_run hsteady config pauses sink
  case worker =>
    intro thread index count size
    exact (hsteady.runWorker thread index count size).same
  case growth =>
    intro config
    exact (hsteady.growth config).same

/-- No block is held in the end, but all layers count the one that was lost. -/
theorem five_layers_are_transparent :
    Tier.Everywhere (fun counters => counters = .zero) Tier.aroundGates ∧
      (Site.fresh .system (.start .silent)).heap.Sound ∧
      Dealing.Throughout Dealing.Lawful [] ((Stack.plain Tier.aroundGates
        (.fresh .system (.start .silent))).useAll usesThroughGates).1 ∧
      (Stack.plain Tier.aroundGates (.fresh .system (.start .silent))).Uncrowded 0
        usesThroughGates ∧
      ((Stack.counted Tier.aroundGates
        (.fresh .system (.start .silent))).useAll usesThroughGates).2.counters =
          List.replicate 5 ⟨4, 3, 33, 1, 2⟩ ∧
      Transparent Tier.aroundGates (.fresh .system (.start .silent)) := by
  have unused : Tier.Everywhere (fun counters => counters = .zero) Tier.aroundGates := by
    simp [Tier.Everywhere, Tier.aroundGates]
  have sound : (Site.fresh .system (.start .silent)).heap.Sound := fun _ hnone => nomatch hnone
  refine ⟨unused, sound, by decide, by decide, by decide, ?_⟩
  exact counting_is_transparent Tier.aroundGates (.fresh .system (.start .silent)) unused sound

end HeapFixtures
