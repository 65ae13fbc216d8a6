/-
# Blocks as arrays of bytes

To its user a block is an array of bytes of a fixed size, of which those are known that have
been written.  A shelf keeps such an array for each slot, and says for each action what its
answer makes of the array in the slot that is named: nothing else on the shelf changes, because
the shelf knows nothing of addresses, of layers or of copying.

A bench does what its shelf says.  This holds from empty slots on, through every sequence of
steps, granted, refused or turned down, at whatever layer of whatever stack on the system's
heap; it holds also where a layer panics.
-/

import HeapFixtures.Bench
import HeapFixtures.Proofs.Contents
import Mathlib.Logic.Function.Basic

namespace HeapFixtures

/-- A block as an array: its size and the bytes of it that are known. -/
structure Content where
  size : UInt64
  byte? : Nat → Option UInt8

namespace Content

/-- A new array, of which nothing is known. -/
def blank (size : UInt64) : Content := ⟨size, fun _ => none⟩

/-- The array at a new size.  What lies beyond is cut off. -/
def resize (content : Content) (size : UInt64) : Content :=
  ⟨size, fun i => if i < size.toNat then content.byte? i else none⟩

/-- The array with bytes written from an offset on. -/
def write (content : Content) (offset : Nat) (bytes : List UInt8) : Content :=
  { content with
    byte? := fun i =>
      if offset ≤ i ∧ i < offset + bytes.length then bytes[i - offset]? else content.byte? i }

/-- A block in memory has the size of the array and every known byte of it. -/
structure IsIn (content : Content) (heap : Heap) (block : Block) : Prop where
  size : block.size = content.size
  holds : heap.Holds block
  bytes : ∀ i byte, content.byte? i = some byte → (heap.bytes block)[i]? = some byte

section IsIn

variable {content : Content} {heap after : Heap} {block fresh : Block} {size : UInt64}

theorem IsIn.of_cell? (isIn : content.IsIn heap block)
    (h : after.cell? block.address = heap.cell? block.address) : content.IsIn after block := by
  refine ⟨isIn.size, isIn.holds.of_cell? h, ?_⟩
  rw [Heap.bytes_eq_of_cell? h]
  exact isIn.bytes

theorem isIn_blank (h : heap.grant size = (some fresh, after)) : (blank size).IsIn after fresh := by
  have hcell := Heap.cell?_granted h fresh.address
  rw [if_pos rfl] at hcell
  have hsize := Heap.size_granted h
  refine ⟨hsize, ⟨_, hcell, hsize.symm⟩, ?_⟩
  intro i byte hbyte
  cases hbyte

theorem IsIn.resize (isIn : content.IsIn heap block) (sound : heap.Sound)
    (h : heap.move block size = (some fresh, after)) : (content.resize size).IsIn after fresh := by
  obtain ⟨grown, hgrant⟩ := Heap.grant_of_move h
  have hsize := Heap.size_granted hgrant
  have hlt := sound.lt_next isIn.holds
  have hfresh := (Heap.grants_of_grant hgrant).2
  have hcell := Heap.cell?_moved h (by omega) fresh.address
  rw [if_pos rfl] at hcell
  refine ⟨hsize, ⟨_, hcell, hsize.symm⟩, ?_⟩
  intro i byte hbyte
  have hbytes : after.bytes fresh = (heap.bytes block).take size.toNat := by
    unfold Heap.bytes
    rw [hcell]
    rfl
  by_cases hi : i < size.toNat
  · simp only [Content.resize, hi, if_true] at hbyte
    rw [hbytes, List.getElem?_take_of_lt hi]
    exact isIn.bytes i byte hbyte
  · simp [Content.resize, hi] at hbyte

theorem IsIn.write (isIn : content.IsIn heap block) (offset : Nat) (bytes : List UInt8) :
    (content.write offset bytes).IsIn (heap.write block offset bytes) block := by
  refine ⟨isIn.size, Heap.holds_write isIn.holds offset bytes, ?_⟩
  intro i byte hbyte
  unfold Content.write at hbyte
  by_cases hi : offset ≤ i ∧ i < offset + bytes.length
  · simp only [hi, and_self, if_true] at hbyte
    rw [Heap.getElem?_bytes_write_inside isIn.holds hi.1 hi.2]
    exact hbyte
  · simp only [hi, if_false] at hbyte
    have hold := isIn.bytes i byte hbyte
    have hlt := (List.getElem?_eq_some_iff.1 hold).1
    rw [Heap.getElem?_bytes_write_outside isIn.holds hlt (by omega)]
    exact hold

end IsIn
end Content

/-- The array in each slot. -/
abbrev Shelf := String → Option Content

namespace Shelf

open Function (update)

/-- A shelf with nothing on it. -/
def empty : Shelf := fun _ => none

/-- The array in a slot after a write that took place. -/
def written (shelf : Shelf) (slot : String) (offset : Nat) (bytes : List UInt8) : Shelf :=
  update shelf slot ((shelf slot).map (·.write offset bytes))

/-- What an answer says about the shelf.  Only the slot that the action names is concerned, and
an action that was turned down is none. -/
def after (shelf : Shelf) : Bench.Action → Bench.Reply → Shelf
  | .allocate slot size, .size _ => update shelf slot (some (.blank size))
  | .release slot, .done => update shelf slot none
  | .resize slot size, .size _ => update shelf slot ((shelf slot).map (·.resize size))
  | .resize slot _, .stopped _ => update shelf slot none
  | .write slot offset bytes, .written _ => shelf.written slot offset bytes
  | .fill slot offset length start, .written _ =>
    shelf.written slot offset (Bench.ascending start length)
  | _, _ => shelf

/-- What the array in a slot says about the bytes that are read from it.  Bytes that are not
known may be anything. -/
def Reads (content : Content) (offset length : Nat) (reply : Bench.Reply) : Prop :=
  (∃ bytes, reply = .bytes bytes ∧ bytes.length = length ∧
      ∀ k < length, ∀ byte, content.byte? (offset + k) = some byte → bytes[k]? = some byte) ∨
    reply = .misuse .readOutOfRange ∧ (0 < length → ∃ k < length, content.byte? (offset + k) = none)

/-- The answers that a shelf leaves open.  A request may be refused, and may stop the run; but
what is granted is granted as asked for, and nothing else depends on more than the shelf. -/
def Admits (shelf : Shelf) : Bench.Action → Bench.Reply → Prop
  | .allocate slot size, reply =>
    if (shelf slot).isSome then reply = .misuse .slotInUse
    else reply = .size size ∨ ∃ stop, reply = .stopped stop
  | .release slot, reply =>
    if (shelf slot).isSome then reply = .done else reply = .misuse .emptySlot
  | .resize slot size, reply =>
    if (shelf slot).isSome then reply = .size size ∨ ∃ stop, reply = .stopped stop
    else reply = .misuse .emptySlot
  | .pair _, reply => reply = .done ∨ ∃ stop, reply = .stopped stop
  | .write slot offset bytes, reply =>
    match shelf slot with
    | none => reply = .misuse .emptySlot
    | some content =>
      if offset + bytes.length ≤ content.size.toNat then ∃ count, reply = .written count
      else reply = .misuse .writeOutOfRange
  | .fill slot offset length _, reply =>
    match shelf slot with
    | none => reply = .misuse .emptySlot
    | some content =>
      (offset + length ≤ content.size.toNat ∧ ∃ count, reply = .written count) ∨
        reply = .misuse .fillOutOfRange
  | .read slot offset length, reply =>
    match shelf slot with
    | none => reply = .misuse .emptySlot
    | some content => Reads content offset length reply

end Shelf

namespace Bench

/-- The slot that an action names. -/
def Action.slot? : Action → Option String
  | .allocate slot _ | .release slot | .resize slot _ | .write slot _ _ | .fill slot _ _ _
  | .read slot _ _ => some slot
  | .pair _ => none

/-- The heap under a bench. -/
def heap (bench : Bench) : Heap := bench.stack.site.heap

/-- A bench that has in its slots what the shelf says. -/
structure Shows (bench : Bench) (shelf : Shelf) : Prop where
  sound : bench.heap.Sound
  system : bench.heap.backing = .system
  /-- No block is in two slots. -/
  apart : ∀ slot other block again, bench.block? slot = some block →
    bench.block? other = some again → block.address = again.address → slot = other
  shown : ∀ slot, Option.Rel (fun block (content : Content) => content.IsIn bench.heap block)
    (bench.block? slot) (shelf slot)

/-- All slots but one hold the same blocks as before, with the same sizes and bytes. -/
def Spares (bench : Bench) (slot? : Option String) (after : Bench) : Prop :=
  ∀ other, slot? ≠ some other → after.block? other = bench.block? other ∧
    ∀ block ∈ bench.block? other, after.heap.cell? block.address = bench.heap.cell? block.address

section Slots

variable {bench after : Bench} {shelf : Shelf} {slot other : String} {block : Block}

theorem lookup_filter_ne (slots : List (String × Block)) (slot other : String) :
    (slots.filter fun entry => entry.1 ≠ slot).lookup other =
      if other = slot then none else slots.lookup other := by
  induction slots with
  | nil => simp
  | cons entry rest ih =>
      obtain ⟨name, block⟩ := entry
      by_cases hname : name = slot
      · subst hname
        by_cases hother : other = name
        · simpa [hother] using ih
        · have hne : (other == name) = false := by simpa using hother
          simpa [List.lookup_cons, hother, hne] using ih
      · by_cases hother : other = name
        · subst hother
          simp [hname]
        · have hne : (other == name) = false := by simpa using hother
          simpa [List.lookup_cons, hname, hne] using ih

theorem block?_vacate (bench : Bench) (slot other : String) :
    (bench.vacate slot).block? other = if other = slot then none else bench.block? other :=
  lookup_filter_ne bench.slots slot other

theorem block?_hold (bench : Bench) (slot : String) (block : Block) (other : String) :
    (bench.hold slot block).block? other = if other = slot then some block
      else bench.block? other := by
  unfold hold block?
  by_cases hother : other = slot
  · subst hother
    simp
  · have hne : (other == slot) = false := by simpa using hother
    rw [List.lookup_cons, hne, lookup_filter_ne, if_neg hother, if_neg hother]

theorem Shows.content (shows : bench.Shows shelf) (h : bench.block? slot = some block) :
    ∃ content, shelf slot = some content ∧ content.IsIn bench.heap block := by
  have hshown := shows.shown slot
  rw [h] at hshown
  rcases hcontent : shelf slot with _ | content
  · rw [hcontent] at hshown
    cases hshown
  · rw [hcontent] at hshown
    cases hshown with
    | some isIn => exact ⟨content, rfl, isIn⟩

theorem Shows.blank (shows : bench.Shows shelf) (h : bench.block? slot = none) :
    shelf slot = none := by
  have hshown := shows.shown slot
  rw [h] at hshown
  rcases hcontent : shelf slot with _ | content
  · rfl
  · rw [hcontent] at hshown
    cases hshown

/-- Something that happens to the heap reaches one slot at most. -/
theorem Shows.spares (shows : bench.Shows shelf) {touched : Option Block}
    (others : ∀ other, other ≠ slot → after.block? other = bench.block? other)
    (spares : bench.heap.Spares touched after.heap)
    (own : ∀ block ∈ touched, bench.block? slot = some block) :
    bench.Spares (some slot) after := by
  intro other hne
  have hother : other ≠ slot := fun heq => hne (congrArg some heq.symm)
  refine ⟨others other hother, ?_⟩
  intro block hblock
  obtain ⟨content, -, isIn⟩ := shows.content hblock
  apply spares.others block.address (shows.sound.lt_next isIn.holds)
  intro given hgiven haddress
  exact hother (shows.apart other slot block given hblock (own given hgiven) haddress)

/-- After something that reaches one slot at most, the bench shows a shelf on which only that
slot has changed. -/
theorem Shows.update (shows : bench.Shows shelf) {touched : Option Block}
    (left : bench.Spares (some slot) after) (spares : bench.heap.Spares touched after.heap)
    {content? : Option Content}
    (entry : Option.Rel (fun block (content : Content) => content.IsIn after.heap block)
      (after.block? slot) content?)
    (fresh : ∀ block ∈ after.block? slot,
      bench.heap.next ≤ block.address ∨ bench.block? slot = some block) :
    after.Shows (Function.update shelf slot content?) := by
  have hkept : ∀ other block, other ≠ slot → after.block? other = some block →
      bench.block? other = some block ∧ block.address < bench.heap.next ∧
        after.heap.cell? block.address = bench.heap.cell? block.address := by
    intro other block hother hblock
    obtain ⟨hsame, hcells⟩ := left other fun heq => hother (Option.some.inj heq).symm
    rw [hsame] at hblock
    obtain ⟨content, -, isIn⟩ := shows.content hblock
    exact ⟨hblock, shows.sound.lt_next isIn.holds, hcells block hblock⟩
  have hapart : ∀ other block again, other ≠ slot → after.block? other = some block →
      after.block? slot = some again → block.address ≠ again.address := by
    intro other block again hother hblock hagain haddress
    obtain ⟨hold, hlt, -⟩ := hkept other block hother hblock
    rcases fresh again hagain with hle | hown
    · omega
    · exact hother (shows.apart other slot block again hold hown haddress)
  refine ⟨spares.sound, spares.backing.trans shows.system, ?_, ?_⟩
  · intro first second block again hfirst hsecond haddress
    by_cases hone : first = slot
    · by_cases htwo : second = slot
      · rw [hone, htwo]
      · subst hone
        exact absurd haddress.symm (hapart second again block htwo hsecond hfirst)
    · by_cases htwo : second = slot
      · subst htwo
        exact absurd haddress (hapart first block again hone hfirst hsecond)
      · obtain ⟨hfirst', -⟩ := hkept first block hone hfirst
        obtain ⟨hsecond', -⟩ := hkept second again htwo hsecond
        exact shows.apart first second block again hfirst' hsecond' haddress
  · intro other
    by_cases hother : other = slot
    · subst hother
      rw [Function.update_self]
      exact entry
    · rw [Function.update_of_ne hother]
      rcases hblock : after.block? other with _ | block
      · have hsame := (left other fun heq => hother (Option.some.inj heq).symm).1
        rw [shows.blank (hsame ▸ hblock)]
        exact .none
      · obtain ⟨hold, -, hcell⟩ := hkept other block hother hblock
        obtain ⟨content, hcontent, isIn⟩ := shows.content hold
        rw [hcontent]
        exact .some (isIn.of_cell? hcell)

/-- Something that happens to the heap and reaches no slot. -/
theorem Shows.undisturbed (shows : bench.Shows shelf)
    (same : ∀ other, after.block? other = bench.block? other)
    (spares : bench.heap.Spares none after.heap) :
    after.Shows shelf ∧ bench.Spares none after := by
  have hcells : ∀ other block, bench.block? other = some block →
      after.heap.cell? block.address = bench.heap.cell? block.address := by
    intro other block hblock
    obtain ⟨content, -, isIn⟩ := shows.content hblock
    exact spares.others block.address (shows.sound.lt_next isIn.holds) (by simp)
  refine ⟨⟨spares.sound, spares.backing.trans shows.system, ?_, ?_⟩, ?_⟩
  · simp only [same]
    exact shows.apart
  · intro other
    rw [same]
    rcases hblock : bench.block? other with _ | block
    · rw [shows.blank hblock]
      exact .none
    · obtain ⟨content, hcontent, isIn⟩ := shows.content hblock
      rw [hcontent]
      exact .some (isIn.of_cell? (hcells other block hblock))
  · intro other _
    exact ⟨same other, fun block hblock => hcells other block hblock⟩

/-- The slot that something reaches now holds a new block. -/
theorem Shows.hold (shows : bench.Shows shelf) (same : after.slots = bench.slots)
    {touched : Option Block} (spares : bench.heap.Spares touched after.heap)
    (own : ∀ block ∈ touched, bench.block? slot = some block) {content : Content}
    (isIn : content.IsIn after.heap block) (new : bench.heap.next ≤ block.address) :
    (after.hold slot block).Shows (Function.update shelf slot (some content)) ∧
      bench.Spares (some slot) (after.hold slot block) := by
  have hleft : bench.Spares (some slot) (after.hold slot block) := by
    refine shows.spares ?_ spares own
    intro other hother
    rw [block?_hold, if_neg hother, block?, block?, same]
  refine ⟨shows.update hleft spares ?_ ?_, hleft⟩
  · rw [block?_hold, if_pos rfl]
    exact .some isIn
  · intro given hgiven
    rw [block?_hold, if_pos rfl] at hgiven
    obtain rfl := Option.some.inj hgiven
    exact .inl new

/-- The slot that something reaches is empty now. -/
theorem Shows.vacate (shows : bench.Shows shelf) (same : after.slots = bench.slots)
    {touched : Option Block} (spares : bench.heap.Spares touched after.heap)
    (own : ∀ block ∈ touched, bench.block? slot = some block) :
    (after.vacate slot).Shows (Function.update shelf slot none) ∧
      bench.Spares (some slot) (after.vacate slot) := by
  have hleft : bench.Spares (some slot) (after.vacate slot) := by
    refine shows.spares ?_ spares own
    intro other hother
    rw [block?_vacate, if_neg hother, block?, block?, same]
  refine ⟨shows.update hleft spares ?_ ?_, hleft⟩
  · rw [block?_vacate, if_pos rfl]
    exact .none
  · intro given hgiven
    rw [block?_vacate, if_pos rfl] at hgiven
    cases hgiven

end Slots

/-- An action has one of the answers that the shelf leaves open, does to its slot what the
answer says, and leaves all other slots alone. -/
structure Does (bench : Bench) (shelf : Shelf) (action : Action) (reply : Reply)
    (after : Bench) : Prop where
  shows : after.Shows (shelf.after action reply)
  admitted : shelf.Admits action reply
  spares : bench.Spares action.slot? after

section Actions

variable {bench : Bench} {shelf : Shelf}

/-- An action that is turned down. -/
theorem Shows.turnedDown (shows : bench.Shows shelf) {action : Action} {misuse : Misuse}
    (admitted : shelf.Admits action (.misuse misuse)) :
    Does bench shelf action (.misuse misuse) bench := by
  refine ⟨?_, admitted, fun other _ => ⟨rfl, fun _ _ => rfl⟩⟩
  cases action <;> exact shows

/-- A bench after a request to a part of its stack. -/
def served (bench : Bench) (layer : Nat) (under : Stack) : Bench :=
  { bench with
    stack :=
      { under with
        layers := bench.stack.layers.take (bench.stack.layers.length - layer) ++ under.layers } }

theorem slots_served (bench : Bench) (layer : Nat) (under : Stack) :
    (bench.served layer under).slots = bench.slots := rfl

theorem does_allocate (shows : bench.Shows shelf) (layer : Nat) (slot : String) (size : UInt64) :
    Does bench shelf (.allocate slot size) (bench.act layer (.allocate slot size)).1
      (bench.act layer (.allocate slot size)).2 := by
  rcases hblock : bench.block? slot with _ | block
  · have hblank := shows.blank hblock
    rcases hserved : (bench.stack.lower layer).allocate .main size with ⟨answer, under⟩
    have hasked := Stack.spares_allocate hserved shows.sound
    have hspares : bench.heap.Spares none (bench.served layer under).heap := hasked
    simp only [act, hblock, Stack.within, hserved]
    cases answer with
    | ok fresh =>
        have hgrant : bench.heap.grant size = (some fresh, under.site.heap) := by
          cases Stack.allocates_of_allocate hserved with
          | granted counted heap => exact heap
        have hnew := Nat.le_of_eq (Heap.grants_of_grant hgrant).2.symm
        have hnone : ∀ given ∈ (none : Option Block), bench.block? slot = some given := by simp
        have hblankIn : (Content.blank size).IsIn (bench.served layer under).heap fresh :=
          Content.isIn_blank hgrant
        obtain ⟨hshows, hleft⟩ := shows.hold (slots_served bench layer under) hspares hnone
          hblankIn hnew
        dsimp only
        rw [Heap.size_granted hgrant]
        exact ⟨hshows, by simp [Shelf.Admits, hblank], hleft⟩
    | error stop =>
        have hsame : ∀ other, (bench.served layer under).block? other = bench.block? other :=
          fun _ => rfl
        obtain ⟨hshows, hleft⟩ := shows.undisturbed hsame hspares
        exact ⟨hshows, by simp [Shelf.Admits, hblank], fun other _ => hleft other (by simp)⟩
  · obtain ⟨content, hcontent, -⟩ := shows.content hblock
    simp only [act, hblock]
    refine shows.turnedDown ?_
    simp [Shelf.Admits, hcontent]

theorem does_release (shows : bench.Shows shelf) (layer : Nat) (slot : String) :
    Does bench shelf (.release slot) (bench.act layer (.release slot)).1
      (bench.act layer (.release slot)).2 := by
  rcases hblock : bench.block? slot with _ | block
  · simp only [act, hblock]
    refine shows.turnedDown ?_
    simp [Shelf.Admits, shows.blank hblock]
  · obtain ⟨content, hcontent, -⟩ := shows.content hblock
    have hspares : bench.heap.Spares (some block)
        (bench.served layer ((bench.stack.lower layer).release .main block)).heap :=
      Stack.spares_release (bench.stack.lower layer) shows.sound .main block
    have hown : ∀ given ∈ some block, bench.block? slot = some given := by simpa using hblock
    obtain ⟨hshows, hleft⟩ := shows.vacate (slots_served bench layer _) hspares hown
    simp only [act, hblock]
    exact ⟨hshows, by simp [Shelf.Admits, hcontent], hleft⟩

theorem does_resize (shows : bench.Shows shelf) (layer : Nat) (slot : String) (size : UInt64) :
    Does bench shelf (.resize slot size) (bench.act layer (.resize slot size)).1
      (bench.act layer (.resize slot size)).2 := by
  rcases hblock : bench.block? slot with _ | block
  · simp only [act, hblock]
    refine shows.turnedDown ?_
    simp [Shelf.Admits, shows.blank hblock]
  · obtain ⟨content, hcontent, isIn⟩ := shows.content hblock
    rcases hserved : (bench.stack.lower layer).resize .main block size with ⟨answer, under⟩
    have hasked := Stack.spares_resize hserved shows.sound
    have hspares : bench.heap.Spares (some block) (bench.served layer under).heap := hasked
    have hown : ∀ given ∈ some block, bench.block? slot = some given := by simpa using hblock
    simp only [act, hblock, Stack.within, hserved]
    cases answer with
    | ok fresh =>
        have hmove : bench.heap.move block size = (some fresh, under.site.heap) := by
          cases Stack.resizes_of_resize hserved with
          | granted swapped replaced heap => exact heap
        obtain ⟨grown, hgrant⟩ := Heap.grant_of_move hmove
        have hnew := Nat.le_of_eq (Heap.grants_of_grant hgrant).2.symm
        have hresized : (content.resize size).IsIn (bench.served layer under).heap fresh :=
          isIn.resize shows.sound hmove
        obtain ⟨hshows, hleft⟩ := shows.hold (slots_served bench layer under) hspares hown
          hresized hnew
        dsimp only
        rw [Heap.size_granted hgrant]
        refine ⟨?_, by simp [Shelf.Admits, hcontent], hleft⟩
        simp only [Shelf.after, hcontent]
        exact hshows
    | error stop =>
        obtain ⟨hshows, hleft⟩ := shows.vacate (slots_served bench layer _) hspares hown
        exact ⟨hshows, by simp [Shelf.Admits, hcontent], hleft⟩

theorem does_pair (shows : bench.Shows shelf) (layer : Nat) (size : UInt64) :
    Does bench shelf (.pair size) (bench.act layer (.pair size)).1
      (bench.act layer (.pair size)).2 := by
  have hdoes : ∀ under reply, (reply = .done ∨ ∃ stop, reply = .stopped stop) →
      bench.heap.Spares none (bench.served layer under).heap →
      Does bench shelf (.pair size) reply (bench.served layer under) := by
    intro under reply hreply hspares
    have hsame : ∀ other, (bench.served layer under).block? other = bench.block? other :=
      fun _ => rfl
    obtain ⟨hshows, hleft⟩ := shows.undisturbed hsame hspares
    exact ⟨hshows, hreply, hleft⟩
  unfold act
  obtain ⟨block, between, hallocate, hpair⟩ | ⟨stop, between, hallocate, hpair⟩ :=
    Stack.pair_eq (bench.stack.lower layer) .main size
  · have hbetween := Stack.spares_allocate hallocate shows.sound
    have hgrant : bench.heap.grant size = (some block, between.site.heap) := by
      cases Stack.allocates_of_allocate hallocate with
      | granted counted heap => exact heap
    have hnew : ∀ given ∈ some block, bench.heap.next ≤ given.address := by
      intro given hgiven
      obtain rfl := Option.some.inj hgiven
      exact Nat.le_of_eq (Heap.grants_of_grant hgrant).2.symm
    simp only [Stack.within, hpair]
    exact hdoes (between.release .main block) .done (.inl rfl)
      (hbetween.trans (Stack.spares_release between hbetween.sound .main block) hnew)
  · simp only [Stack.within, hpair]
    have hasked := Stack.spares_allocate hallocate shows.sound
    exact hdoes between (.stopped stop) (.inr ⟨stop, rfl⟩) hasked

/-- Bytes that are put into the block of a slot. -/
theorem Shows.put (shows : bench.Shows shelf) {slot : String} {block : Block}
    (hblock : bench.block? slot = some block) (offset : Nat) (bytes : List UInt8) :
    (bench.put block offset bytes).2.Shows (shelf.written slot offset bytes) ∧
      bench.Spares (some slot) (bench.put block offset bytes).2 := by
  obtain ⟨content, hcontent, isIn⟩ := shows.content hblock
  have hspares : bench.heap.Spares (some block) (bench.put block offset bytes).2.heap :=
    shows.sound.spares_write block offset bytes
  have hown : ∀ given ∈ some block, bench.block? slot = some given := by simpa using hblock
  have hleft : bench.Spares (some slot) (bench.put block offset bytes).2 :=
    shows.spares (fun _ _ => rfl) hspares hown
  have hstill : (bench.put block offset bytes).2.block? slot = some block := hblock
  refine ⟨shows.update hleft hspares ?_ ?_, hleft⟩
  · rw [hstill, hcontent]
    exact .some (isIn.write offset bytes)
  · intro given hgiven
    exact .inr hgiven

theorem does_write (shows : bench.Shows shelf) (layer : Nat) (slot : String) (offset : Nat)
    (bytes : List UInt8) :
    Does bench shelf (.write slot offset bytes) (bench.act layer (.write slot offset bytes)).1
      (bench.act layer (.write slot offset bytes)).2 := by
  rcases hblock : bench.block? slot with _ | block
  · simp only [act, hblock]
    refine shows.turnedDown ?_
    simp [Shelf.Admits, shows.blank hblock]
  · obtain ⟨content, hcontent, isIn⟩ := shows.content hblock
    have hspace : bench.stack.site.heap.hasSpace block offset bytes.length = true ↔
        offset + bytes.length ≤ content.size.toNat := by
      have hsystem : bench.stack.site.heap.backing = .system := shows.system
      simp [Heap.hasSpace, hsystem, isIn.size]
    by_cases hfits : offset + bytes.length ≤ content.size.toNat
    · obtain ⟨hshows, hleft⟩ := shows.put hblock offset bytes
      simp only [act, hblock]
      rw [if_pos (hspace.2 hfits)]
      refine ⟨hshows, ?_, hleft⟩
      simp only [Shelf.Admits, hcontent, hfits, if_true]
      exact ⟨_, rfl⟩
    · simp only [act, hblock]
      rw [if_neg fun h => hfits (hspace.1 h)]
      refine shows.turnedDown ?_
      simp [Shelf.Admits, hcontent, hfits]

theorem does_fill (shows : bench.Shows shelf) (layer : Nat) (slot : String)
    (offset length start : Nat) :
    Does bench shelf (.fill slot offset length start)
      (bench.act layer (.fill slot offset length start)).1
      (bench.act layer (.fill slot offset length start)).2 := by
  rcases hblock : bench.block? slot with _ | block
  · simp only [act, hblock]
    refine shows.turnedDown ?_
    simp [Shelf.Admits, shows.blank hblock]
  · obtain ⟨content, hcontent, isIn⟩ := shows.content hblock
    by_cases hwritable : bench.stack.site.heap.isWritable block offset length = true
    · have hfits : offset + length ≤ content.size.toNat := by
        simp only [Heap.isWritable, Heap.hasSpace, Bool.and_eq_true, decide_eq_true_eq] at hwritable
        rw [← isIn.size]
        exact hwritable.1.2
      obtain ⟨hshows, hleft⟩ := shows.put hblock offset (ascending start length)
      simp only [act, hblock]
      rw [if_pos hwritable]
      refine ⟨hshows, ?_, hleft⟩
      simp only [Shelf.Admits, hcontent]
      exact .inl ⟨hfits, _, rfl⟩
    · simp only [act, hblock]
      rw [if_neg hwritable]
      refine shows.turnedDown ?_
      simp [Shelf.Admits, hcontent]

/-- What is read from a block is what its array says. -/
theorem reads {heap : Heap} {content : Content} {block : Block} (isIn : content.IsIn heap block)
    (offset length : Nat) :
    Shelf.Reads content offset length
      (match heap.read? block offset length with
        | none => .misuse .readOutOfRange
        | some bytes => .bytes bytes) := by
  unfold Heap.read?
  by_cases hfits : offset + length ≤ (heap.bytes block).length
  · simp only [hfits, if_true]
    refine .inl ⟨_, rfl, ?_, ?_⟩
    · rw [List.length_take, List.length_drop]
      omega
    · intro k hk byte hbyte
      rw [List.getElem?_take_of_lt hk, List.getElem?_drop]
      exact isIn.bytes _ byte hbyte
  · simp only [hfits, if_false]
    refine .inr ⟨rfl, ?_⟩
    intro hlength
    -- The last byte of the range lies beyond all that were written.
    refine ⟨length - 1, by omega, ?_⟩
    rcases hbyte : content.byte? (offset + (length - 1)) with _ | byte
    · rfl
    · have hlt := (List.getElem?_eq_some_iff.1 (isIn.bytes _ byte hbyte)).1
      omega

theorem does_read (shows : bench.Shows shelf) (layer : Nat) (slot : String)
    (offset length : Nat) :
    Does bench shelf (.read slot offset length) (bench.act layer (.read slot offset length)).1
      (bench.act layer (.read slot offset length)).2 := by
  rcases hblock : bench.block? slot with _ | block
  · simp only [act, hblock]
    refine shows.turnedDown ?_
    simp [Shelf.Admits, shows.blank hblock]
  · obtain ⟨content, hcontent, isIn⟩ := shows.content hblock
    have hreads := reads isIn offset length
    rcases hread : bench.stack.site.heap.read? block offset length with _ | bytes
    · simp only [heap, hread] at hreads
      simp only [act, hblock, hread]
      refine shows.turnedDown ?_
      simpa [Shelf.Admits, hcontent] using hreads
    · simp only [heap, hread] at hreads
      simp only [act, hblock, hread]
      refine ⟨shows, ?_, fun other _ => ⟨rfl, fun _ _ => rfl⟩⟩
      simpa [Shelf.Admits, hcontent] using hreads

/-- Every action does what the shelf says. -/
theorem Shows.act (shows : bench.Shows shelf) (layer : Nat) (action : Action) :
    Does bench shelf action (bench.act layer action).1 (bench.act layer action).2 := by
  cases action with
  | allocate slot size => exact does_allocate shows layer slot size
  | release slot => exact does_release shows layer slot
  | resize slot size => exact does_resize shows layer slot size
  | pair size => exact does_pair shows layer size
  | write slot offset bytes => exact does_write shows layer slot offset bytes
  | fill slot offset length start => exact does_fill shows layer slot offset length start
  | read slot offset length => exact does_read shows layer slot offset length

/-- Takes steps one after the other, and lists the actions with their answers. -/
def takeAll (bench : Bench) : List Step → List (Action × Reply) × Bench
  | [] => ([], bench)
  | step :: rest =>
    let (reply, after) := bench.step step
    let (trace, last) := after.takeAll rest
    ((step.action, reply) :: trace, last)

/-- A step is an action, or is turned down because there is no such layer. -/
theorem step_eq (bench : Bench) (step : Step) :
    bench.step step = (.misuse .noSuchLayer, bench) ∨
      ∃ layer, bench.step step = bench.act layer step.action := by
  unfold Bench.step
  dsimp only
  split
  · exact .inl rfl
  · exact .inr ⟨_, rfl⟩

/-- Every step keeps to the shelf. -/
theorem Shows.step (shows : bench.Shows shelf) (step : Step) :
    (bench.step step).2.Shows (shelf.after step.action (bench.step step).1) := by
  rcases step_eq bench step with hmisuse | ⟨layer, hact⟩
  · rw [hmisuse]
    cases step.action <;> exact shows
  · rw [hact]
    exact (shows.act layer step.action).shows

end Actions
end Bench

namespace Shelf

variable {shelf : Shelf} {slot : String} {i : Nat} {byte : UInt8}

/-- What a sequence of answers says about the shelf. -/
def afterAll (shelf : Shelf) (trace : List (Bench.Action × Bench.Reply)) : Shelf :=
  trace.foldl (fun shelf entry => shelf.after entry.1 entry.2) shelf

theorem afterAll_cons (shelf : Shelf) (entry : Bench.Action × Bench.Reply)
    (rest : List (Bench.Action × Bench.Reply)) :
    shelf.afterAll (entry :: rest) = (shelf.after entry.1 entry.2).afterAll rest := rfl

/-- The byte at a place of a slot, if it is known. -/
def byte? (shelf : Shelf) (slot : String) (i : Nat) : Option UInt8 :=
  (shelf slot).bind fun content => content.byte? i

/-- An action that has written a byte at a place of a slot. -/
def Sets (slot : String) (i : Nat) (byte : UInt8) : Bench.Action × Bench.Reply → Prop
  | (.write target offset bytes, .written _) =>
    target = slot ∧ offset ≤ i ∧ bytes[i - offset]? = some byte
  | (.fill target offset length start, .written _) =>
    target = slot ∧ offset ≤ i ∧ (Bench.ascending start length)[i - offset]? = some byte
  | _ => False

/-- An action that has not written to a place of a slot, has not cut it off, and has not taken
its block away. -/
def Keeps (slot : String) (i : Nat) : Bench.Action × Bench.Reply → Prop
  | (.allocate target _, .size _) | (.release target, .done) | (.resize target _, .stopped _) =>
    target ≠ slot
  | (.resize target size, .size _) => target = slot → i < size.toNat
  | (.write target offset bytes, .written _) =>
    target = slot → i < offset ∨ offset + bytes.length ≤ i
  | (.fill target offset length _, .written _) =>
    target = slot → i < offset ∨ offset + length ≤ i
  | _ => True

/-- A byte that was written at a place of a slot, and has been kept since. -/
def LastWritten (trace : List (Bench.Action × Bench.Reply)) (slot : String) (i : Nat)
    (byte : UInt8) : Prop :=
  ∃ done entry later, trace = done ++ entry :: later ∧ Sets slot i byte entry ∧
    ∀ other ∈ later, Keeps slot i other

theorem length_ascending (start length : Nat) :
    (Bench.ascending start length).length = length := by
  simp [Bench.ascending]

theorem byte?_update_ne {target : String} (h : target ≠ slot) (content? : Option Content) :
    byte? (Function.update shelf target content?) slot i = shelf.byte? slot i := by
  unfold byte?
  rw [Function.update_of_ne h.symm]

theorem byte?_update_self (content? : Option Content) :
    byte? (Function.update shelf slot content?) slot i =
      content?.bind fun content => content.byte? i := by
  unfold byte?
  rw [Function.update_self]

/-- A write keeps what is out of its range. -/
theorem byte?_written {target : String} {offset : Nat} {bytes : List UInt8}
    (out : target = slot → i < offset ∨ offset + bytes.length ≤ i)
    (known : shelf.byte? slot i = some byte) :
    (shelf.written target offset bytes).byte? slot i = some byte := by
  unfold written
  by_cases hslot : target = slot
  · subst hslot
    have hout : ¬ (offset ≤ i ∧ i < offset + bytes.length) := by
      have := out rfl
      omega
    rw [byte?_update_self]
    unfold byte? at known
    rcases hcontent : shelf target with _ | content
    · simp [hcontent] at known
    · simpa [hcontent, Content.write, hout] using known
  · rw [byte?_update_ne hslot]
    exact known

theorem byte?_after_of_keeps {entry : Bench.Action × Bench.Reply} (keeps : Keeps slot i entry)
    (known : shelf.byte? slot i = some byte) :
    (shelf.after entry.1 entry.2).byte? slot i = some byte := by
  obtain ⟨action, reply⟩ := entry
  cases action with
  | allocate target size =>
      cases reply with
      | size given => exact (byte?_update_ne keeps _).trans known
      | done | written count | bytes bytes | stopped stop | misuse misuse => exact known
  | release target =>
      cases reply with
      | done => exact (byte?_update_ne keeps _).trans known
      | size given | written count | bytes bytes | stopped stop | misuse misuse => exact known
  | resize target size =>
      cases reply with
      | size given =>
          by_cases hslot : target = slot
          · subst hslot
            have hlt : i < size.toNat := keeps rfl
            simp only [after]
            rw [byte?_update_self]
            unfold byte? at known
            rcases hcontent : shelf target with _ | content
            · simp [hcontent] at known
            · simpa [hcontent, Content.resize, hlt] using known
          · exact (byte?_update_ne hslot _).trans known
      | stopped stop => exact (byte?_update_ne keeps _).trans known
      | done | written count | bytes bytes | misuse misuse => exact known
  | pair size => exact known
  | write target offset bytes =>
      cases reply with
      | written count => exact byte?_written keeps known
      | size given | done | bytes bytes | stopped stop | misuse misuse => exact known
  | fill target offset length start =>
      cases reply with
      | written count =>
          refine byte?_written ?_ known
          rw [length_ascending]
          exact keeps
      | size given | done | bytes bytes | stopped stop | misuse misuse => exact known
  | read target offset length => exact known

theorem byte?_afterAll_of_keeps {trace : List (Bench.Action × Bench.Reply)}
    (keeps : ∀ entry ∈ trace, Keeps slot i entry) (known : shelf.byte? slot i = some byte) :
    (shelf.afterAll trace).byte? slot i = some byte := by
  induction trace generalizing shelf with
  | nil => exact known
  | cons entry rest ih =>
      obtain ⟨hentry, hrest⟩ := List.forall_mem_cons.1 keeps
      exact ih hrest (byte?_after_of_keeps hentry known)

/-- A write that took place was to a block that is there. -/
theorem isSome_of_admits {action : Bench.Action} {reply : Bench.Reply}
    (sets : Sets slot i byte (action, reply)) (admits : shelf.Admits action reply) :
    (shelf slot).isSome = true := by
  rcases hcontent : shelf slot with _ | content
  · cases action with
    | write target offset bytes =>
        cases reply with
        | written count =>
            obtain ⟨rfl, -⟩ := sets
            simp [Admits, hcontent] at admits
        | size given | done | bytes bytes | stopped stop | misuse misuse => exact sets.elim
    | fill target offset length start =>
        cases reply with
        | written count =>
            obtain ⟨rfl, -⟩ := sets
            simp [Admits, hcontent] at admits
        | size given | done | bytes bytes | stopped stop | misuse misuse => exact sets.elim
    | allocate target size | release target | resize target size | pair size
    | read target offset length => exact sets.elim
  · rfl

/-- What is written within its range. -/
theorem byte?_written_inside {offset : Nat} {bytes : List UInt8} (some : (shelf slot).isSome = true)
    (le : offset ≤ i) (set : bytes[i - offset]? = .some byte) :
    (shelf.written slot offset bytes).byte? slot i = .some byte := by
  obtain ⟨content, hcontent⟩ := Option.isSome_iff_exists.1 some
  have hlt := (List.getElem?_eq_some_iff.1 set).1
  have hin : offset ≤ i ∧ i < offset + bytes.length := by omega
  unfold written
  rw [byte?_update_self, hcontent]
  simp [Content.write, hin, set]

theorem byte?_after_of_sets {action : Bench.Action} {reply : Bench.Reply}
    (sets : Sets slot i byte (action, reply)) (some : (shelf slot).isSome = true) :
    (shelf.after action reply).byte? slot i = .some byte := by
  cases action with
  | write target offset bytes =>
      cases reply with
      | written count =>
          obtain ⟨rfl, hle, hset⟩ := sets
          exact byte?_written_inside some hle hset
      | size given | done | bytes bytes | stopped stop | misuse misuse => exact sets.elim
  | fill target offset length start =>
      cases reply with
      | written count =>
          obtain ⟨rfl, hle, hset⟩ := sets
          exact byte?_written_inside some hle hset
      | size given | done | bytes bytes | stopped stop | misuse misuse => exact sets.elim
  | allocate target size | release target | resize target size | pair size
  | read target offset length => exact sets.elim

end Shelf

namespace Bench

variable {bench : Bench} {shelf : Shelf}

theorem trace_takeAll (bench : Bench) (step : Step) (rest : List Step) :
    (bench.takeAll (step :: rest)).1 =
      (step.action, (bench.step step).1) :: ((bench.step step).2.takeAll rest).1 := rfl

theorem Shows.takeAll (shows : bench.Shows shelf) (steps : List Step) :
    (bench.takeAll steps).2.Shows (shelf.afterAll (bench.takeAll steps).1) := by
  induction steps generalizing bench shelf with
  | nil => exact shows
  | cons step rest ih => exact ih (shows.step step)

/-- The shelf knows what was written last. -/
theorem Shows.lastWritten (shows : bench.Shows shelf) (steps : List Step) {slot : String}
    {i : Nat} {byte : UInt8} (last : Shelf.LastWritten (bench.takeAll steps).1 slot i byte) :
    (shelf.afterAll (bench.takeAll steps).1).byte? slot i = some byte := by
  induction steps generalizing bench shelf with
  | nil =>
      obtain ⟨done, entry, later, htrace, -⟩ := last
      simp [Bench.takeAll] at htrace
  | cons step rest ih =>
      obtain ⟨done, entry, later, htrace, hsets, hkeeps⟩ := last
      have hstep := shows.step step
      have hsome : ∀ byte, Shelf.Sets slot i byte (step.action, (bench.step step).1) →
          (shelf slot).isSome = true := by
        intro byte hwrites
        rcases step_eq bench step with hmisuse | ⟨layer, hact⟩
        · rw [hmisuse] at hwrites
          cases haction : step.action <;> rw [haction] at hwrites <;> exact hwrites.elim
        · rw [hact] at hwrites
          exact Shelf.isSome_of_admits hwrites (shows.act layer step.action).admitted
      rw [trace_takeAll] at htrace ⊢
      rw [Shelf.afterAll_cons]
      cases done with
      | nil =>
          obtain ⟨rfl, rfl⟩ := List.cons.inj htrace
          exact Shelf.byte?_afterAll_of_keeps hkeeps
            (Shelf.byte?_after_of_sets hsets (hsome byte hsets))
      | cons first done =>
          obtain ⟨-, hrest⟩ := List.cons.inj htrace
          exact ih hstep ⟨done, entry, later, hrest, hsets, hkeeps⟩

/-- Empty slots over a heap. -/
theorem shows_empty {stack : Stack} (sound : stack.site.heap.Sound)
    (system : stack.site.heap.backing = .system) : Shows ⟨stack, []⟩ .empty := by
  refine ⟨sound, system, ?_, ?_⟩
  · intro slot other block again hblock
    cases hblock
  · intro slot
    exact .none

end Bench

/-- Blocks are arrays of bytes that know nothing of one another.  Take any stack over the
system's heap, and any steps from empty slots on.  Then the slots hold what the shelf says:
each block has the size that was asked for and the bytes that were written.  Whatever is done
next, at whatever layer, has an answer that the shelf leaves open, changes its own slot as the
answer says, and leaves the block, the size and the bytes of every other slot alone.  And bytes
that have been written and kept since are read as they were written last. -/
theorem blocks_are_arrays {stack : Stack} (sound : stack.site.heap.Sound)
    (system : stack.site.heap.backing = .system) (steps : List Bench.Step) :
    let trace := (Bench.takeAll ⟨stack, []⟩ steps).1
    let bench := (Bench.takeAll ⟨stack, []⟩ steps).2
    let shelf := Shelf.empty.afterAll trace
    bench.Shows shelf ∧
      (∀ layer action,
        bench.Does shelf action (bench.act layer action).1 (bench.act layer action).2) ∧
      ∀ layer slot offset (bytes : List UInt8), bytes ≠ [] →
        (∀ k byte, bytes[k]? = some byte → Shelf.LastWritten trace slot (offset + k) byte) →
        (bench.act layer (.read slot offset bytes.length)).1 = .bytes bytes := by
  intro trace bench shelf
  have hempty := Bench.shows_empty sound system
  have hshows : bench.Shows shelf := hempty.takeAll steps
  refine ⟨hshows, hshows.act, ?_⟩
  intro layer slot offset bytes hsome hlast
  have hknown : ∀ k byte, bytes[k]? = some byte → shelf.byte? slot (offset + k) = some byte :=
    fun k byte hbyte => hempty.lastWritten steps (hlast k byte hbyte)
  have hadmits := (hshows.act layer (.read slot offset bytes.length)).admitted
  simp only [Shelf.byte?] at hknown
  simp only [Shelf.Admits] at hadmits
  have hpos := List.length_pos_iff.2 hsome
  rcases hcontent : shelf slot with _ | content
  · have hfirst := hknown 0 bytes[0] (List.getElem?_eq_getElem hpos)
    simp [hcontent] at hfirst
  · simp only [hcontent, Option.bind_some] at hadmits hknown
    rcases hadmits with ⟨read, hreply, hlength, hread⟩ | ⟨-, hgap⟩
    · rw [hreply]
      congr 1
      apply List.ext_getElem?
      intro k
      by_cases hk : k < bytes.length
      · have hbyte := List.getElem?_eq_getElem hk
        rw [hbyte]
        exact hread k hk _ (hknown k _ hbyte)
      · rw [List.getElem?_eq_none (by omega), List.getElem?_eq_none (by omega)]
    · obtain ⟨k, hk, hnone⟩ := hgap hpos
      rw [hknown k _ (List.getElem?_eq_getElem hk)] at hnone
      cases hnone

/-- The layers of `Stack.layered` over the system's heap. -/
def Stack.layeredSystem : Stack := { Stack.layered with site := .fresh .system (.start .silent) }

/-- Three blocks are asked for and one is refused; another is written to, grown and shrunk while
a third is lost in a refused resize. -/
def Bench.mixedSteps : List Bench.Step :=
  [⟨none, .allocate "first" 8⟩, ⟨none, .allocate "second" 4⟩, ⟨none, .write "first" 2 [5, 6, 7]⟩,
    ⟨some 0, .write "second" 0 [9]⟩, ⟨none, .resize "first" 16⟩, ⟨none, .allocate "third" 40⟩,
    ⟨none, .resize "first" 4⟩, ⟨none, .resize "second" 50⟩]

/-- What the first block is written to at the third step, and keeps below its smallest size, is
read in the end. -/
theorem bytes_are_read_after_resizes :
    Stack.layeredSystem.site.heap.Sound ∧
      Stack.layeredSystem.site.heap.backing = .system ∧
      ((Bench.takeAll ⟨Stack.layeredSystem, []⟩ Bench.mixedSteps).2.act 5 (.read "first" 2 2)).1 =
        .bytes [5, 6] := by
  have sound : Stack.layeredSystem.site.heap.Sound := by decide
  refine ⟨sound, rfl, ?_⟩
  apply (blocks_are_arrays sound rfl Bench.mixedSteps).2.2 5 "first" 2 [5, 6] (by decide)
  intro k byte hbyte
  have hk : k < 2 := (List.getElem?_eq_some_iff.1 hbyte).1
  refine ⟨[(.allocate "first" 8, .size 8), (.allocate "second" 4, .size 4)],
    (.write "first" 2 [5, 6, 7], .written 5),
    [(.write "second" 0 [9], .written 1), (.resize "first" 16, .size 16),
      (.allocate "third" 40, .stopped (.fault (.allocationFailed 40))),
      (.resize "first" 4, .size 4),
      (.resize "second" 50, .stopped (.fault (.allocationFailed 50)))], rfl, ?_, ?_⟩
  · refine ⟨rfl, by omega, ?_⟩
    have hsame : ∀ k < 2, [(5 : UInt8), 6, 7][k]? = [(5 : UInt8), 6][k]? := by decide
    rw [Nat.add_sub_cancel_left, hsame k hk]
    exact hbyte
  · simp [Shelf.Keeps]
    omega

end HeapFixtures
