/-
# What a journal hears of an allocator

The heap of the system tells the journal of its blocks; the layers above it tell it nothing,
and neither does a user that only asks for blocks and gives them back.  So whatever is asked of
an allocator, the journal has heard of blocks afterwards, or of nothing at all.

What the heap says is of the finest level.  A journal that writes everything but that level is
therefore the same after any such part of a run.
-/

import HeapFixtures.Fixture.Growth
import HeapFixtures.Fixture.Workers
import HeapFixtures.Proofs.Iteration
import HeapFixtures.Proofs.Passage

namespace HeapFixtures

namespace Log

/-- A journal that has heard of blocks since, any number of times. -/
inductive Journal.Hears : Journal → Journal → Prop
  | nothing (journal : Journal) : Hears journal journal
  | block {before after : Journal} (thread : Thread) (message : String) (size : UInt64)
      (heard : Hears before after) :
      Hears before
        (after.emit thread .trace .allocation message [("size", .word size), ("addr", .address)])

namespace Journal

variable {before between after : Journal}

theorem Hears.trans (h : before.Hears between) (h' : between.Hears after) :
    before.Hears after := by
  induction h' with
  | nothing => exact h
  | block thread message size _ ih => exact .block thread message size ih

/-- A journal that writes all events but those of the finest level. -/
def AtDebug (journal : Journal) : Prop := journal.filter = .upTo .debug

theorem AtDebug.enables (debug : before.AtDebug) (level : Level) (origin : Origin)
    (names : List String) : before.enables origin level names = decide (level ≠ .trace) := by
  unfold Journal.enables
  rw [debug, Filter.enables_upTo]
  cases level <;> rfl

/-- An event of the finest level is not written. -/
theorem AtDebug.emit_trace (debug : before.AtDebug) (thread : Thread) (origin : Origin)
    (message : String) (fields : List (String × Value)) :
    before.emit thread .trace origin message fields = before := by
  unfold emit
  rw [debug.enables]
  exact if_neg Bool.false_ne_true

/-- Nothing of what is said about blocks is written. -/
theorem Hears.eq_of_atDebug (h : before.Hears after) (debug : before.AtDebug) :
    after = before := by
  induction h with
  | nothing => rfl
  | block thread message size _ ih =>
      rw [ih]
      exact debug.emit_trace ..

end Journal
end Log

section Allocator

theorem Site.hears_mention (site : Site) (thread : Thread) (message : String) (size : UInt64) :
    site.journal.Hears (site.mention thread message size).journal := by
  unfold mention
  split
  · exact .block thread message size (.nothing _)
  · exact .nothing _

namespace Stack

/-- A verdict is no matter of the journal. -/
@[simp]
theorem journal_heed (site : Site) (verdict : Verdict) :
    (heed site verdict).journal = site.journal := by
  unfold heed
  split <;> rfl

/-- Neither is a call that is noted. -/
@[simp]
theorem journal_note (stack : Stack) (records : Bool) (thread : Thread) (call : Call) :
    (stack.note records thread call).site.journal = stack.site.journal := by
  unfold note
  split <;> rfl

/-- Of all the steps of a call, only those of the heap are told to the journal. -/
theorem carried_hears : Carried fun before after =>
    before.site.journal.Hears after.site.journal where
  refl _ := .nothing _
  trans h h' := h.trans h'
  heap _ _ := .nothing _
  mention site := site.hears_mention
  heed _ _ _ site verdict := by
    rw [journal_heed]
    exact .nothing _
  note stack records thread call := by
    rw [journal_note]
    exact .nothing _
  push _ _ h := h

theorem hears_allocate (stack : Stack) (thread : Thread) (size : UInt64) :
    stack.site.journal.Hears (stack.allocate thread size).2.site.journal :=
  carried_hears.allocate stack thread size

theorem hears_release (stack : Stack) (thread : Thread) (block : Block) :
    stack.site.journal.Hears (stack.release thread block).site.journal :=
  carried_hears.release stack thread block

theorem hears_resize (stack : Stack) (thread : Thread) (block : Block) (size : UInt64) :
    stack.site.journal.Hears (stack.resize thread block size).2.site.journal :=
  carried_hears.resize stack thread block size

theorem hears_pair (stack : Stack) (thread : Thread) (size : UInt64) :
    stack.site.journal.Hears (stack.pair thread size).2.site.journal :=
  carried_hears.pair stack thread size

end Stack
end Allocator

namespace Sequential

/-- The log of the session. -/
def Session.journal (session : Session) : Log.Journal := session.stack.site.journal

theorem hears_withSink (session : Session) (action : Sink → Except IoError Unit × Sink) :
    session.journal.Hears (session.withSink action).2.journal := by
  rw [withSink_eq]
  show session.journal.Hears (Session.heedSink _).journal
  unfold Session.heedSink
  split <;> exact .nothing _

/-- An iteration says nothing before it is counted. -/
theorem hears_step (session : Session) (size : UInt64) :
    session.journal.Hears (session.step size).2.journal := by
  have hpair := session.stack.hears_pair .main size
  unfold Session.step
  generalize session.stack.pair .main size = called at hpair ⊢
  obtain ⟨stop | _, stack⟩ := called
  · exact hpair
  · have hfirst : session.journal.Hears
        (Session.write { session with stack := stack } stepLine).2.journal :=
      hpair.trans (hears_withSink { session with stack := stack } _)
    dsimp only
    generalize Session.write { session with stack := stack } stepLine = first at hfirst ⊢
    obtain ⟨stop | _, between⟩ := first
    · exact hfirst
    · have hsecond : session.journal.Hears (between.write "\n").2.journal :=
        hfirst.trans (hears_withSink between _)
      dsimp only
      generalize between.write "\n" = second at hsecond ⊢
      obtain ⟨stop | _, after⟩ := second
      · exact hsecond
      · exact hsecond.trans (hears_withSink after _)

end Sequential
namespace Growth

theorem hears_growThrough (thread : Thread) (sizes : List UInt64) (block : Block)
    (stack : Stack) :
    stack.site.journal.Hears (growThrough thread sizes block stack).2.site.journal := by
  induction sizes generalizing block stack with
  | nil => exact stack.hears_release thread block
  | cons size rest ih =>
      have hresize := stack.hears_resize thread block size
      unfold growThrough
      generalize stack.resize thread block size = called at hresize ⊢
      obtain ⟨stop | fresh, after⟩ := called
      · exact hresize
      · exact hresize.trans (ih fresh after)

/-- A round says nothing itself. -/
theorem hears_grow (thread : Thread) (sizes : List UInt64) (stack : Stack) :
    stack.site.journal.Hears (grow thread sizes stack).2.site.journal := by
  unfold grow
  cases sizes with
  | nil => exact .nothing _
  | cons first rest =>
      have hallocate := stack.hears_allocate thread first
      dsimp only
      generalize stack.allocate thread first = called at hallocate ⊢
      obtain ⟨stop | block, after⟩ := called
      · exact hallocate
      · exact hallocate.trans (hears_growThrough ..)

end Growth

/-- The cycles of a worker say nothing themselves. -/
theorem Workers.hears_cycles (thread : Thread) (size : UInt64) (left : Nat) (stack : Stack) :
    stack.site.journal.Hears (cycles thread size left stack).2.site.journal := by
  induction left generalizing stack with
  | zero => exact .nothing _
  | succ left ih =>
      have hpair := stack.hears_pair thread size
      unfold cycles
      generalize stack.pair thread size = called at hpair ⊢
      obtain ⟨stop | _, after⟩ := called
      · exact hpair
      · exact hpair.trans (ih after)

end HeapFixtures
