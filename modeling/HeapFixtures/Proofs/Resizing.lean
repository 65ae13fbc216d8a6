/-
# Two ways to resize

A heap can move a block itself.  An allocator that does not know of this way has another: it
asks for a new block, copies the bytes over, and gives the old block back, whether or not there
is a new one.

Both ways come to the same.  This holds for one resize, where the outcome is also said in full,
and it holds for whatever is built on top of the heap: an open gate right above the heap hides
the heap's own way from all layers above, and none of them can tell.  In particular the growing
fixture cannot.
-/

import HeapFixtures.Fixture.Growth
import HeapFixtures.Proofs.Contents
import HeapFixtures.Proofs.Layering

namespace HeapFixtures

/-- The answer to a resize, and what the answer says about the new block.  The heap may grant
or refuse any request for bytes; no bytes at all are no request. -/
inductive Heap.Answers (heap : Heap) (block : Block) (size : UInt64) (after : Heap) :
    Except Stop Block → Prop
  /-- The new block is where there was none, has the size asked for, and begins with the bytes
  of the old one, as far as both reach. -/
  | moved {fresh : Block} (asked : size ≠ 0) (granted : heap.grants heap.requests size = true)
      (sized : fresh.size = size) (holds : after.Holds fresh)
      (new : heap.cell? fresh.address = none)
      (kept : ∀ i < min block.size.toNat size.toNat,
        (after.bytes fresh)[i]? = (heap.bytes block)[i]?) :
      Answers heap block size after (.ok fresh)
  | empty (asked : size = 0) :
      Answers heap block size after
        (.error (.fault (.invalidArgument "block size must be non-zero")))
  | refused (asked : size ≠ 0) (refused : heap.grants heap.requests size = false) :
      Answers heap block size after (.error (.fault (.allocationFailed size)))

/-- What is left of a resize: the answer is right, the old block is gone, and every other block
is what it was. -/
structure Heap.Resized (heap : Heap) (block : Block) (size : UInt64)
    (answer : Except Stop Block) (after : Heap) : Prop where
  answer : heap.Answers block size after answer
  gone : after.cell? block.address = none
  others : ∀ address cell, address ≠ block.address → heap.cell? address = some cell →
    after.cell? address = some cell

namespace Heap

variable {heap after refused : Heap} {size : UInt64} {block fresh : Block}

/-- A block that the heap has moved. -/
theorem resized_moved (sound : heap.Sound) (holds : heap.Holds block) (asked : size ≠ 0)
    (h : heap.move block size = (some fresh, after)) :
    heap.Resized block size (.ok fresh) after := by
  obtain ⟨grown, hgrant⟩ := grant_of_move h
  obtain ⟨granted, haddress⟩ := grants_of_grant hgrant
  have hsize := size_granted hgrant
  have hlt := sound.lt_next holds
  have apart : block.address ≠ fresh.address := by omega
  have hcell := cell?_moved h apart
  have hfresh : after.cell? fresh.address =
      some ⟨fresh.address, size, (heap.bytes block).take size.toNat⟩ := by
    rw [hcell, if_pos rfl]
  have hnone : heap.cell? fresh.address = none := by
    rcases hfound : heap.cell? fresh.address with _ | cell
    · rfl
    · have hused := sound.lt_next_of_cell? hfound
      omega
  refine ⟨.moved asked granted hsize ⟨_, hfresh, hsize.symm⟩ hnone ?_, ?_, ?_⟩
  · intro i hi
    have hlt : i < size.toNat := Nat.lt_of_lt_of_le hi (Nat.min_le_right _ _)
    have hbytes : after.bytes fresh = (heap.bytes block).take size.toNat := by
      unfold bytes
      rw [hfresh]
      rfl
    rw [hbytes, List.getElem?_take_of_lt hlt]
  · rw [hcell, if_neg apart, if_pos rfl]
  · intro address cell hother hfound
    have hused := sound.lt_next_of_cell? hfound
    rw [hcell, if_neg (by omega), if_neg hother, hfound]

/-- A block that is freed because there is no new one. -/
theorem resized_freed {answer : Except Stop Block} (same : ∀ address, refused.cell? address =
      heap.cell? address) (answers : heap.Answers block size (refused.free block) answer) :
    heap.Resized block size answer (refused.free block) := by
  refine ⟨answers, ?_, ?_⟩
  · rw [cell?_free, if_pos rfl]
  · intro address cell hother hfound
    rw [cell?_free, if_neg hother, same, hfound]

end Heap

/-- A gate that lets everything pass and leaves a resize to the default way. -/
structure Gate.IsOpen (gate : Gate) : Prop where
  passes : ∀ thread number size, (gate.rule thread number size).answer = .pass
  replaces : gate.forwardsResize = false

/-- An open gate stays open. -/
theorem Gate.IsOpen.ask {gate after : Gate} (isOpen : gate.IsOpen) {thread : Thread}
    {size : UInt64} {verdict : Verdict} (h : gate.ask thread size = (verdict, after)) :
    verdict.answer = .pass ∧ after.IsOpen := by
  have akin := akin_ask h
  refine ⟨?_, ?_, ?_⟩
  · rw [verdict_ask h]
    exact isOpen.passes thread _ size
  · rw [← akin.1]
    exact isOpen.passes
  · rw [← akin.2.1]
    exact isOpen.replaces

namespace Site

variable {site other : Site} {thread : Thread} {size : UInt64} {block : Block}

/-- The answer to a request for a new block depends on the heap only. -/
theorem allocate_congr (h : other.heap = site.heap) (thread : Thread) (size : UInt64) :
    (other.allocate thread size).1 = (site.allocate thread size).1 ∧
      (other.allocate thread size).2.heap = (site.allocate thread size).2.heap := by
  unfold allocate
  rw [h]
  split
  · exact ⟨rfl, h⟩
  · split
    · exact ⟨rfl, by simp⟩
    · exact ⟨rfl, rfl⟩

/-- The default way right above the heap comes to the same as the own way of the heap. -/
theorem replace_eq_resize (site : Site) (thread : Thread) (block : Block) (size : UInt64) :
    (Stack.replaceThrough thread block size [] site).1 =
        (Stack.resizeThrough thread block size [] site).1 ∧
      (Stack.replaceThrough thread block size [] site).2.layers =
        (Stack.resizeThrough thread block size [] site).2.layers ∧
      (Stack.replaceThrough thread block size [] site).2.site.heap =
        (Stack.resizeThrough thread block size [] site).2.site.heap := by
  simp only [Stack.replaceThrough, Stack.allocateThrough, Stack.resizeThrough, allocate, resize]
  by_cases hsize : size = 0
  · simp [hsize, Stack.releaseThrough]
  · simp only [hsize, if_false, Heap.move]
    rcases hgrant : site.heap.grant size with ⟨granted, grown⟩
    cases granted with
    | none => simp [Stack.releaseThrough]
    | some fresh => simp [Stack.releaseThrough]

end Site

/-- Two stacks with the same layers on the same heap, between which the second has an open
gate.  The journals may differ, and so may the numbers of the layers that note a call. -/
structure Stack.Grounded (plain grounded : Stack) : Prop where
  layers : ∃ gate : Gate, gate.IsOpen ∧ grounded.layers = plain.layers ++ [.gate gate]
  heap : grounded.site.heap = plain.site.heap

/-- The same answer from both stacks, which leaves them alike. -/
structure Stack.Unshaken {α : Type} (plain grounded : α × Stack) : Prop where
  answer : grounded.1 = plain.1
  grounded : plain.2.Grounded grounded.2

namespace Stack

section Grounded

variable {α : Type} {thread : Thread} {size : UInt64} {block : Block} {gate : Gate}
  {plain grounded : Stack} {site other : Site} {below : List Layer}

theorem Unshaken.split {first second : α × Stack} (h : Unshaken first second) :
    ∃ reply under under', first = (reply, under) ∧ second = (reply, under') ∧
      under.Grounded under' :=
  ⟨first.1, first.2, second.2, rfl, Prod.ext h.answer rfl, h.grounded⟩

theorem Grounded.push (h : plain.Grounded grounded) (layer : Layer) :
    (plain.push layer).Grounded (grounded.push layer) := by
  obtain ⟨gate, isOpen, hlayers⟩ := h.layers
  exact ⟨⟨gate, isOpen, congrArg (layer :: ·) hlayers⟩, h.heap⟩

theorem Grounded.note (h : plain.Grounded grounded) (records : Bool) (thread : Thread)
    (call : Call) :
    (plain.note records thread call).Grounded (grounded.note records thread call) := by
  obtain ⟨gate, isOpen, hlayers⟩ := h.layers
  refine ⟨⟨gate, isOpen, ?_⟩, ?_⟩
  · rw [layers_note, layers_note]
    exact hlayers
  · rw [heap_note, heap_note]
    exact h.heap

theorem Grounded.answered (h : plain.Grounded grounded) (asked : Gate) (thread : Thread)
    (call : Bool → Call) (reply : Except Stop Block) :
    (plain.answered asked thread call reply).Grounded
      (grounded.answered asked thread call reply) := by
  unfold Stack.answered
  split
  · exact (h.push _).note _ _ _
  · exact (h.push _).note _ _ _
  · exact h.push _

/-- A layer that answers by itself. -/
theorem grounded_cons (isOpen : gate.IsOpen) (h : other.heap = site.heap) (layer : Layer)
    (below : List Layer) :
    Grounded ⟨layer :: below, site⟩ ⟨layer :: (below ++ [.gate gate]), other⟩ :=
  ⟨⟨gate, isOpen, rfl⟩, h⟩

theorem heap_heed_congr (h : other.heap = site.heap) (verdict : Verdict) :
    (heed other verdict).heap = (heed site verdict).heap := by
  rw [heap_heed, heap_heed, h]

/-- No layer can tell from a request for a new block whether there is an open gate below. -/
theorem unshaken_allocateThrough (isOpen : gate.IsOpen) (h : other.heap = site.heap)
    (thread : Thread) (size : UInt64) (layers : List Layer) :
    Unshaken (allocateThrough thread size layers site)
      (allocateThrough thread size (layers ++ [.gate gate]) other) := by
  induction layers generalizing site other with
  | nil =>
      rcases hask : gate.ask thread size with ⟨verdict, asked⟩
      obtain ⟨hpass, hasked⟩ := isOpen.ask hask
      obtain ⟨hanswer, hheap⟩ := Site.allocate_congr ((heap_heed other verdict).trans h) thread size
      rw [List.nil_append, allocateThrough_gate_pass hask hpass]
      simp only [allocateThrough]
      rcases hsite : site.allocate thread size with ⟨reply, after⟩
      rcases hother : (heed other verdict).allocate thread size with ⟨reply', after'⟩
      rw [hsite, hother] at hanswer hheap
      obtain rfl : reply' = reply := hanswer
      cases reply' with
      | ok fresh => exact ⟨rfl, ⟨asked, hasked, by simp⟩, by simpa using hheap⟩
      | error fault => exact ⟨rfl, ⟨asked, hasked, by simp⟩, by simpa using hheap⟩
  | cons layer below ih =>
      cases layer with
      | counting counters =>
          obtain ⟨reply, under, under', hplain, hgrounded, still⟩ := (ih h).split
          rw [List.cons_append, allocateThrough, allocateThrough, hplain, hgrounded]
          cases reply with
          | ok fresh => exact ⟨rfl, still.push _⟩
          | error stop => exact ⟨rfl, still.push _⟩
      | gate upper =>
          rcases hask : upper.ask thread size with ⟨verdict, asked⟩
          have hheed := heap_heed_congr h verdict
          have hasked := grounded_cons isOpen hheed (.gate asked) below
          rw [List.cons_append]
          cases hanswer : verdict.answer with
          | panic panic =>
              rw [allocateThrough_gate_panic hask hanswer, allocateThrough_gate_panic hask hanswer]
              exact ⟨rfl, hasked⟩
          | refuse fault =>
              rw [allocateThrough_gate_refuse hask hanswer,
                allocateThrough_gate_refuse hask hanswer]
              exact ⟨rfl, hasked.note _ _ _⟩
          | pass =>
              obtain ⟨hsame, hgrounded⟩ := ih hheed
              rw [allocateThrough_gate_pass hask hanswer, allocateThrough_gate_pass hask hanswer]
              dsimp only
              rw [hsame]
              exact ⟨rfl, hgrounded.answered _ _ _ _⟩

/-- Nor from a block on its way back. -/
theorem grounded_releaseThrough (isOpen : gate.IsOpen) (h : other.heap = site.heap)
    (thread : Thread) (block : Block) (layers : List Layer) :
    (releaseThrough thread block layers site).Grounded
      (releaseThrough thread block (layers ++ [.gate gate]) other) := by
  induction layers generalizing site other with
  | nil =>
      refine ⟨⟨gate, isOpen, by simp [releaseThrough]⟩, ?_⟩
      simp [releaseThrough, h]
  | cons layer below ih =>
      cases layer with
      | counting counters => exact (ih h).push _
      | gate upper =>
          apply Grounded.push
          apply ih
          rw [heap_note, heap_note]
          exact h

/-- Nor from the default way to resize. -/
theorem unshaken_replaceThrough (isOpen : gate.IsOpen) (h : other.heap = site.heap)
    (thread : Thread) (block : Block) (size : UInt64) (layers : List Layer) :
    Unshaken (replaceThrough thread block size layers site)
      (replaceThrough thread block size (layers ++ [.gate gate]) other) := by
  obtain ⟨reply, under, under', hplain, hgrounded, still⟩ :=
    (unshaken_allocateThrough isOpen h thread size layers).split
  obtain ⟨⟨asked, hasked, hlayers⟩, hheap⟩ := still
  unfold replaceThrough
  rw [hplain, hgrounded]
  cases reply with
  | ok fresh =>
      have hcopied : under'.site.heap.copy block fresh = under.site.heap.copy block fresh :=
        congrArg (Heap.copy · block fresh) hheap
      dsimp only
      rw [hlayers]
      exact ⟨rfl, grounded_releaseThrough hasked hcopied thread block under.layers⟩
  | error stop =>
      cases stop with
      | fault fault =>
          dsimp only
          rw [hlayers]
          exact ⟨rfl, grounded_releaseThrough hasked hheap thread block under.layers⟩
      | panic panic | exit exit => exact ⟨rfl, ⟨asked, hasked, hlayers⟩, hheap⟩

/-- Nor from a resize that the heap would carry out itself. -/
theorem unshaken_resizeThrough (isOpen : gate.IsOpen) (h : other.heap = site.heap)
    (thread : Thread) (block : Block) (size : UInt64) (layers : List Layer) :
    Unshaken (resizeThrough thread block size layers site)
      (resizeThrough thread block size (layers ++ [.gate gate]) other) := by
  induction layers generalizing site other with
  | nil =>
      obtain ⟨hanswer, hgrounded⟩ := unshaken_replaceThrough isOpen h thread block size []
      obtain ⟨hown, hlayers, hheap⟩ := Site.replace_eq_resize site thread block size
      have hdefault : resizeThrough thread block size [.gate gate] other =
          replaceThrough thread block size [.gate gate] other := by
        rw [resizeThrough, if_neg (by simp [isOpen.replaces])]
      rw [List.nil_append, hdefault]
      refine ⟨hanswer.trans hown, ?_, hgrounded.heap.trans hheap⟩
      rw [← hlayers]
      exact hgrounded.layers
  | cons layer below ih =>
      cases layer with
      | counting counters =>
          obtain ⟨reply, under, under', hplain, hgrounded, still⟩ := (ih h).split
          rw [List.cons_append, resizeThrough, resizeThrough, hplain, hgrounded]
          cases reply with
          | ok fresh => exact ⟨rfl, still.push _⟩
          | error stop =>
              cases stop with
              | fault fault | panic panic | exit exit => exact ⟨rfl, still.push _⟩
      | gate upper =>
          rw [List.cons_append]
          by_cases forwards : upper.forwardsResize = true
          · rcases hask : upper.ask thread size with ⟨verdict, asked⟩
            have hheed := heap_heed_congr h verdict
            cases hanswer : verdict.answer with
            | panic panic =>
                rw [resizeThrough_gate_panic forwards hask hanswer,
                  resizeThrough_gate_panic forwards hask hanswer]
                exact ⟨rfl, grounded_cons isOpen hheed (.gate asked) below⟩
            | refuse fault =>
                have hreleased := grounded_releaseThrough isOpen hheed thread block below
                rw [resizeThrough_gate_refuse forwards hask hanswer,
                  resizeThrough_gate_refuse forwards hask hanswer]
                exact ⟨rfl, (hreleased.push _).note _ _ _⟩
            | pass =>
                obtain ⟨hsame, hgrounded⟩ := ih hheed
                rw [resizeThrough_gate_pass forwards hask hanswer,
                  resizeThrough_gate_pass forwards hask hanswer]
                dsimp only
                rw [hsame]
                exact ⟨rfl, hgrounded.answered _ _ _ _⟩
          · rw [resizeThrough, if_neg forwards, resizeThrough, if_neg forwards]
            exact unshaken_replaceThrough isOpen h thread block size (.gate upper :: below)

theorem Grounded.allocate (h : plain.Grounded grounded) (thread : Thread) (size : UInt64) :
    Unshaken (plain.allocate thread size) (grounded.allocate thread size) := by
  obtain ⟨gate, isOpen, hlayers⟩ := h.layers
  unfold Stack.allocate
  rw [hlayers]
  exact unshaken_allocateThrough isOpen h.heap thread size plain.layers

theorem Grounded.release (h : plain.Grounded grounded) (thread : Thread) (block : Block) :
    (plain.release thread block).Grounded (grounded.release thread block) := by
  obtain ⟨gate, isOpen, hlayers⟩ := h.layers
  unfold Stack.release
  rw [hlayers]
  exact grounded_releaseThrough isOpen h.heap thread block plain.layers

theorem Grounded.resize (h : plain.Grounded grounded) (thread : Thread) (block : Block)
    (size : UInt64) :
    Unshaken (plain.resize thread block size) (grounded.resize thread block size) := by
  obtain ⟨gate, isOpen, hlayers⟩ := h.layers
  unfold Stack.resize
  rw [hlayers]
  exact unshaken_resizeThrough isOpen h.heap thread block size plain.layers

theorem Grounded.emit (h : plain.Grounded grounded) (thread : Thread) (level : Log.Level)
    (origin : Log.Origin) (message : String) (fields : List (String × Log.Value)) :
    (plain.emit thread level origin message fields).Grounded
      (grounded.emit thread level origin message fields) :=
  ⟨h.layers, h.heap⟩

end Grounded
end Stack

namespace Growth

open Stack (Unshaken)

variable {plain grounded : Stack}

theorem unshaken_growThrough (thread : Thread) (sizes : List UInt64) (block : Block)
    (h : plain.Grounded grounded) :
    Unshaken (growThrough thread sizes block plain) (growThrough thread sizes block grounded) := by
  induction sizes generalizing block plain grounded with
  | nil => exact ⟨rfl, h.release thread block⟩
  | cons size rest ih =>
      obtain ⟨reply, under, under', hplain, hgrounded, still⟩ := (h.resize thread block size).split
      rw [growThrough, growThrough, hplain, hgrounded]
      cases reply with
      | ok fresh => exact ih fresh still
      | error stop => exact ⟨rfl, still⟩

theorem unshaken_grow (thread : Thread) (sizes : List UInt64) (h : plain.Grounded grounded) :
    Unshaken (grow thread sizes plain) (grow thread sizes grounded) := by
  cases sizes with
  | nil => exact ⟨rfl, h⟩
  | cons first rest =>
      obtain ⟨reply, under, under', hplain, hgrounded, still⟩ := (h.allocate thread first).split
      rw [grow, grow, hplain, hgrounded]
      cases reply with
      | ok block => exact unshaken_growThrough thread rest block still
      | error stop => exact ⟨rfl, still⟩

theorem unshaken_rounds (sizes : List UInt64) (left : Nat) (round requests : UInt64)
    (h : plain.Grounded grounded) :
    Unshaken (rounds sizes left round requests plain)
      (rounds sizes left round requests grounded) := by
  induction left generalizing round requests plain grounded with
  | zero => exact ⟨rfl, h⟩
  | succ left ih =>
      obtain ⟨reply, under, under', hplain, hgrounded, still⟩ := (unshaken_grow .main sizes h).split
      rw [rounds, rounds, hplain, hgrounded]
      cases reply with
      | error stop => exact ⟨rfl, still⟩
      | ok done =>
          dsimp only
          cases Word.add? requests sizes.length.toUInt64 with
          | none => exact ⟨rfl, still⟩
          | some requests => exact ih _ requests (still.emit _ _ _ _ _)

/-- The growing fixture cannot tell which way of resizing is below its layers. -/
theorem unshaken_run (config : Config) (h : plain.Grounded grounded) :
    Unshaken (run config plain) (run config grounded) := by
  unfold run
  split
  · exact ⟨rfl, h⟩
  · exact unshaken_rounds _ _ _ _ (h.emit _ _ _ _ _)

end Growth

/-- The own way of the heap does what a resize is to do. -/
theorem Site.resized {site : Site} {block : Block} (sound : site.heap.Sound)
    (holds : site.heap.Holds block) (thread : Thread) (size : UInt64) :
    site.heap.Resized block size (Stack.resizeThrough thread block size [] site).1
      (Stack.resizeThrough thread block size [] site).2.site.heap := by
  simp only [Stack.resizeThrough, resize]
  by_cases hsize : size = 0
  · rw [if_pos hsize, Site.heap_release]
    exact Heap.resized_freed (fun _ => rfl) (.empty hsize)
  · rw [if_neg hsize]
    rcases hmove : site.heap.move block size with ⟨moved, after⟩
    cases moved with
    | some fresh =>
        dsimp only
        rw [Site.heap_mention]
        exact Heap.resized_moved sound holds hsize hmove
    | none =>
        have hgrant := Heap.grant_of_move_refused hmove
        exact Heap.resized_freed (Heap.cell?_refused hgrant)
          (.refused hsize (Heap.refuses_of_grant hgrant))

/-- The default way to resize a block has the same answer as the heap's own way and leaves the
same blocks, and that is what a resize is to do.  This is so for every block that the heap
holds and for every size.  An open gate above the heap replaces the heap's own way by the
default one, and the growing fixture has the same result with such a gate as without, whatever
layers it runs on. -/
theorem resize_either_way {site : Site} {gate : Gate} (sound : site.heap.Sound)
    (isOpen : gate.IsOpen) :
    (∀ thread block size, site.heap.Holds block →
      let own := Stack.resizeThrough thread block size [] site
      let default := Stack.replaceThrough thread block size [] site
      default.1 = own.1 ∧ default.2.site.heap = own.2.site.heap ∧
        site.heap.Resized block size own.1 own.2.site.heap ∧
        Stack.Unshaken own (Stack.resizeThrough thread block size [.gate gate] site)) ∧
      ∀ layers config,
        Stack.Unshaken (Growth.run config ⟨layers, site⟩)
          (Growth.run config ⟨layers ++ [.gate gate], site⟩) := by
  constructor
  · intro thread block size holds own default
    obtain ⟨hanswer, -, hheap⟩ := Site.replace_eq_resize site thread block size
    exact ⟨hanswer, hheap, Site.resized sound holds thread size,
      Stack.unshaken_resizeThrough isOpen rfl thread block size []⟩
  · intro layers config
    exact Growth.unshaken_run config ⟨⟨gate, isOpen, rfl⟩, rfl⟩

/-- A heap that has room for blocks of less than a hundred bytes, with two blocks in use. -/
def Heap.roomForSmall : Heap :=
  ⟨.system, fun _ size => size < 100, 2, 2, [⟨1, 4, [7, 8, 9]⟩, ⟨0, 3, [1, 2]⟩]⟩

/-- A gate that refuses nothing and does not forward a resize. -/
def Gate.idle : Gate := .ofRefusals ⟨none, none, [], [], none, none, none⟩ false false

theorem Gate.isOpen_idle : Gate.idle.IsOpen := by
  refine ⟨?_, rfl⟩
  intro thread number size
  simp [idle, ofRefusals, Refusals.rule]

/-- A block is made smaller, and then is to grow beyond what the heap has room for. -/
theorem refused_growth_either_way :
    let site := Site.fresh Heap.roomForSmall (.start .silent)
    Heap.roomForSmall.Sound ∧ Gate.idle.IsOpen ∧ site.heap.Holds ⟨1, 4⟩ ∧
      (Stack.replaceThrough .main ⟨1, 4⟩ 2 [] site).1 = .ok ⟨2, 2⟩ ∧
      (Stack.replaceThrough .main ⟨1, 4⟩ 2 [] site).2.site.heap.cells =
        [⟨2, 2, [7, 8]⟩, ⟨0, 3, [1, 2]⟩] ∧
      (Stack.resizeThrough .main ⟨1, 4⟩ 2 [] site).1 =
        (Stack.replaceThrough .main ⟨1, 4⟩ 2 [] site).1 ∧
      (Growth.run ⟨1, 30, 100⟩ ⟨[.counting .zero, .gate .idle], site⟩).1 =
        .error (.fault (.allocationFailed 100)) ∧
      (Growth.run ⟨1, 30, 100⟩ ⟨[.counting .zero], site⟩).1 =
        .error (.fault (.allocationFailed 100)) := by
  intro site
  have sound : site.heap.Sound := by decide
  have holds : site.heap.Holds ⟨1, 4⟩ := ⟨_, rfl, rfl⟩
  obtain ⟨hresize, hgrowth⟩ := resize_either_way sound Gate.isOpen_idle
  obtain ⟨hanswer, -⟩ := hresize .main ⟨1, 4⟩ 2 holds
  have hrun := (hgrowth [.counting .zero] ⟨1, 30, 100⟩).answer
  have hfault : (Growth.run ⟨1, 30, 100⟩ ⟨[.counting .zero], site⟩).1 =
      .error (.fault (.allocationFailed 100)) := by decide
  exact ⟨sound, Gate.isOpen_idle, holds, by decide, by decide, hanswer.symm,
    hrun.trans hfault, hfault⟩

end HeapFixtures
