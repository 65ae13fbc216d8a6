/-
# What a process prints beside its log

The error stream of a process carries two kinds of lines: those of its events, which the
filter may hold back, and the texts that the process prints itself.  An allocator prints
nothing, and neither does a fixture on top of it.  So the texts of a process are those that
it prints before its run and after it, and those of a hook.
-/

import HeapFixtures.Fixture.Growth
import HeapFixtures.Fixture.Sequential
import HeapFixtures.Fixture.Vectors
import HeapFixtures.Fixture.Workers
import HeapFixtures.Log.Line
import HeapFixtures.Proofs.DebugJournal

namespace HeapFixtures

namespace Log

/-- The entry's text, where the process printed it itself. -/
def Entry.text? : Entry → Option String
  | .event _ => none
  | .printed text => some text

/-- The texts that a process has printed itself, in the order of their appearance. -/
def Journal.texts (journal : Journal) : List String :=
  journal.entries.toList.filterMap Entry.text?

/-- The line's text, where the process printed it itself. -/
def Line.plain? : Line → Option String
  | .plain text => some text
  | .pretty _ | .record _ => none

/-- An event is no printed text, written or not. -/
@[simp]
theorem Journal.texts_emit (journal : Journal) (thread : Thread) (level : Level)
    (origin : Origin) (message : String) (fields : List (String × Value)) :
    (journal.emit thread level origin message fields).texts = journal.texts := by
  unfold emit
  split
  · simp [texts, Entry.text?]
  · rfl

@[simp]
theorem Journal.texts_print (journal : Journal) (text : String) :
    (journal.print text).texts = journal.texts ++ [text] := by
  simp [print, texts, Entry.text?]

/-- Texts are printed one after the other. -/
theorem Journal.texts_foldl_print (texts : List String) (journal : Journal) :
    (texts.foldl print journal).texts = journal.texts ++ texts := by
  induction texts generalizing journal with
  | nil => exact (List.append_nil _).symm
  | cons text rest ih =>
      rw [List.foldl_cons, ih, texts_print, List.append_assoc, List.singleton_append]

/-- Nor is anything that is said about blocks. -/
theorem Journal.Hears.texts_eq {before after : Journal} (h : before.Hears after) :
    after.texts = before.texts := by
  induction h with
  | nothing => rfl
  | block thread message size _ ih => exact (texts_emit ..).trans ih

/-- An event has no plain lines. -/
theorem filterMap_plain?_event (event : Event) (format : Format) (placed : Bool) :
    (event.lines format placed).filterMap Line.plain? = [] := by
  cases format with
  | pretty => simp [Event.lines, Line.plain?]
  | json => rfl

/-- The plain lines of the error stream are those of the printed texts. -/
theorem Journal.filterMap_plain?_console (journal : Journal) (format : Format) :
    (journal.console format).filterMap Line.plain? = journal.texts.flatMap Text.lines := by
  unfold console texts
  induction journal.entries.toList with
  | nil => rfl
  | cons entry rest ih =>
      rw [List.flatMap_cons, List.filterMap_append, ih]
      cases entry with
      | event event =>
          have hnone : ((Entry.event event).lines format).filterMap Line.plain? = [] :=
            filterMap_plain?_event event format false
          rw [hnone]
          rfl
      | printed text =>
          have hlines : ((Entry.printed text).lines format).filterMap Line.plain? =
              Text.lines text := by
            simp [Entry.lines, Line.plain?, Function.comp_def]
          rw [hlines]
          rfl

end Log

/-- The texts printed so far. -/
def Site.texts (site : Site) : List String := site.journal.texts

/-- The texts printed so far. -/
def Stack.texts (stack : Stack) : List String := stack.site.texts

namespace Stack

@[simp]
theorem texts_emit (stack : Stack) (thread : Thread) (level : Log.Level)
    (origin : Log.Origin) (message : String) (fields : List (String × Log.Value)) :
    (stack.emit thread level origin message fields).texts = stack.texts :=
  Log.Journal.texts_emit ..

@[simp]
theorem texts_allocate (stack : Stack) (thread : Thread) (size : UInt64) :
    (stack.allocate thread size).2.texts = stack.texts :=
  (stack.hears_allocate thread size).texts_eq

@[simp]
theorem texts_release (stack : Stack) (thread : Thread) (block : Block) :
    (stack.release thread block).texts = stack.texts :=
  (stack.hears_release thread block).texts_eq

end Stack

namespace Sequential

variable {config : Config} {pauses : Pauses}

/-- The texts printed so far. -/
def Session.texts (session : Session) : List String := session.stack.texts

/-- The session that a turn leaves behind. -/
def Turn.session : Turn → Session
  | .again session | .ended _ session | .stopped _ session => session

namespace Session

@[simp]
theorem texts_emit (session : Session) (level : Log.Level) (message : String)
    (fields : List (String × Log.Value)) :
    (session.emit level message fields).texts = session.texts :=
  Stack.texts_emit ..

/-- An iteration prints nothing on the error stream. -/
theorem texts_step (session : Session) (size : UInt64) :
    (session.step size).2.texts = session.texts :=
  (hears_step session size).texts_eq

/-- A signal that does not end the process is an event at most. -/
theorem texts_receive {session after : Session} {signal : Signal}
    (h : session.receive signal = .ok after) : after.texts = session.texts := by
  unfold receive at h
  split at h
  · obtain rfl := Except.ok.inj h
    exact Log.Journal.texts_emit ..
  · split at h
    · obtain rfl := Except.ok.inj h
      rfl
    · cases h

end Session

theorem texts_afterStep (session : Session) :
    (afterStep config pauses session).session.texts = session.texts := by
  unfold afterStep
  split
  · rfl
  · rename_i completed _
    have hemit := Session.texts_emit { session with completed := completed } .debug "step written"
      [("iteration", .word completed)]
    dsimp only
    split
    · exact hemit
    · split
      · rename_i stop _
        exact hemit
      · rename_i paused hpaused
        have hsame : paused.texts = session.texts := by
          split at hpaused
          · exact (congrArg Session.texts (Except.ok.inj hpaused)).symm.trans hemit
          · exact (Session.texts_receive hpaused).trans hemit
        split <;> exact hsame

theorem texts_turn (config : Config) (pauses : Pauses) (session : Session) :
    (turn config pauses session).session.texts = session.texts := by
  unfold turn
  split
  · rfl
  · split
    · rfl
    · have hstep := session.texts_step config.blockSize
      generalize session.step config.blockSize = called at hstep ⊢
      obtain ⟨stop | _, after⟩ := called
      · exact hstep
      · exact (texts_afterStep after).trans hstep

theorem texts_loop (room : Nat) (session : Session) :
    (loop config pauses room session).2.texts = session.texts := by
  induction room generalizing session with
  | zero => rfl
  | succ room ih =>
      have hturn := texts_turn config pauses session
      unfold loop
      generalize turn config pauses session = next at hturn ⊢
      cases next with
      | again after => exact (ih after).trans hturn
      | ended cause after => exact (Session.texts_emit ..).trans hturn
      | stopped stop after => exact hturn

/-- The sequential fixture prints nothing on the error stream. -/
theorem texts_run (config : Config) (pauses : Pauses) (stack : Stack) (sink : Sink) :
    (run config pauses stack sink).2.texts = stack.texts := by
  unfold run start
  cases config.validate with
  | error fault => rfl
  | ok _ => exact (texts_loop ..).trans (Session.texts_emit ..)

end Sequential

namespace Growth

theorem texts_rounds (sizes : List UInt64) (left : Nat) (round requests : UInt64)
    (stack : Stack) : (rounds sizes left round requests stack).2.texts = stack.texts := by
  induction left generalizing round requests stack with
  | zero => rfl
  | succ left ih =>
      have hgrow := (hears_grow .main sizes stack).texts_eq
      unfold rounds
      generalize grow .main sizes stack = called at hgrow ⊢
      obtain ⟨stop | _, after⟩ := called
      · exact hgrow
      · dsimp only
        cases Word.add? requests sizes.length.toUInt64 with
        | none => exact hgrow
        | some requests => exact (ih ..).trans ((Stack.texts_emit ..).trans hgrow)

/-- The growing fixture prints nothing. -/
theorem texts_run (config : Config) (stack : Stack) :
    (run config stack).2.texts = stack.texts := by
  unfold run
  cases config.validate with
  | error fault => rfl
  | ok _ => exact (texts_rounds ..).trans (Stack.texts_emit ..)

end Growth

/-- The vector fixture prints nothing. -/
theorem Vectors.texts_run (config : Config) (heap : Heap) (journal : Log.Journal) :
    (run config heap journal).2.texts = journal.texts := by
  unfold run
  cases config.validate with
  | error fault => rfl
  | ok _ =>
      dsimp only
      split <;> exact Log.Journal.texts_emit ..

namespace Workers

/-- A worker prints nothing. -/
theorem texts_runWorker (thread : Thread) (index count size : UInt64) (stack : Stack) :
    (runWorker thread index count size stack).2.texts = stack.texts := by
  have hcycles := (hears_cycles thread size count.toNat _).texts_eq.trans
    (Stack.texts_emit stack thread .trace .workers "worker started"
      [("index", .word index), ("cycles", .word count)])
  unfold runWorker
  dsimp only
  generalize cycles thread size count.toNat _ = called at hcycles ⊢
  obtain ⟨stop | _, after⟩ := called <;> exact hcycles

end Workers
end HeapFixtures
