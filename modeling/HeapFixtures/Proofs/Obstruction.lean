/-
# Writes in pieces are invisible

What a sequential run writes, and how it ends, does not depend on how much of a text its sink
takes at a time, nor on the writes that are interrupted.  A lost or a repeated character would
show.

Where a sink turns down all characters from a position on, a run that nothing else has ended
before ends there: the text is cut at that position, whether it lies within a word, before the
end of a line or between two lines, and the iteration that would have written the character is
the one that fails.
-/

import HeapFixtures.Proofs.Lockstep

namespace HeapFixtures
namespace Sequential

/-- A sink, as it is shown, after a number of lines that were flushed one by one. -/
def carrying (sink : Sink) (count : Nat) : Sink :=
  { sink.shown with
    taken := sink.taken ++ (lines count).toArray
    flushedAt := sink.flushedAt ++ (lineEnds sink.taken.size count).toArray
    flushes := sink.flushes + count }

section Carrying

variable {sink : Sink} {error : IoError} {count : Nat}

theorem carrying_zero (sink : Sink) : carrying sink 0 = sink.shown := by
  simp [carrying, lines, lineEnds, Sink.shown]

theorem position_carrying (sink : Sink) (count : Nat) :
    (carrying sink count).position = sink.position + 5 * count := by
  simp [carrying, Sink.position, length_lines]

/-- A line that no character of is turned down, and a flush that does not fail. -/
theorem deliver_carrying
    (clear : ∀ i < 5, sink.obstacle? (sink.position + (5 * count + i)) = none)
    (flushes : sink.failsFlush ≠ some (sink.flushes + count + 1)) :
    (carrying sink count).deliver line = (.ok (), carrying sink (count + 1)) := by
  have hput : (carrying sink count).put line = (.ok (), (carrying sink count).take line) := by
    apply Sink.put_of_clear
    intro i hi
    rw [position_carrying, Nat.add_assoc]
    exact clear i hi
  have hflushes : ((carrying sink count).take line).failsFlush ≠
      some (((carrying sink count).take line).flushes + 1) := flushes
  have hposition : ((carrying sink count).take line).position =
      sink.taken.size + 5 * (count + 1) := by
    rw [Sink.position_take, position_carrying]
    rfl
  simp only [Sink.deliver, hput, Sink.flush, if_neg hflushes, hposition]
  simp [carrying, Sink.take, Sink.notice, Sink.shown, lines_succ', lineEnds_succ, Nat.add_assoc]

/-- A line of which a character is turned down. -/
theorem deliver_obstructed {offset : Nat} (within : offset < 5)
    (clear : ∀ i < offset, sink.obstacle? (sink.position + (5 * count + i)) = none)
    (obstacle : sink.obstacle? (sink.position + (5 * count + offset)) = some error) :
    (carrying sink count).deliver line =
      (.error error, (carrying sink count).take (line.take offset)) := by
  have hput : (carrying sink count).put line =
      (.error error, (carrying sink count).take (line.take offset)) := by
    apply Sink.put_of_obstacle within
    · intro i hi
      rw [position_carrying, Nat.add_assoc]
      exact clear i hi
    · rw [position_carrying, Nat.add_assoc]
      exact obstacle
  simp only [Sink.deliver, hput]

end Carrying

section Step

variable {session : Session} {stack : Stack} {size : UInt64}

theorem sink_opened (config : Config) (stack : Stack) (sink : Sink) :
    (opened config stack sink).sink = sink := by
  unfold opened start
  cases config.validate <;> rfl

/-- What a write comes to is told by the text alone. -/
theorem write_put (session : Session) (willing : session.sink.Willing) (text : String) :
    ∃ asked sink, sink.Willing ∧ sink.shown = (session.sink.shown.put text.toList).2 ∧
      session.write text = (Effect.asStop (session.sink.shown.put text.toList).1,
        ⟨session.stack.asking asked, sink, session.completed⟩) := by
  obtain ⟨hput, hchunk⟩ := Sink.put_shown willing text.toList
  rw [Session.write, withSink_eq, heedSink_eq, hput]
  exact ⟨_, _, willing.of_chunk hchunk, rfl, rfl⟩

theorem flush_put (session : Session) (willing : session.sink.Willing) :
    ∃ asked sink, sink.Willing ∧ sink.shown = session.sink.shown.flush.2 ∧
      session.flush = (Effect.asStop session.sink.shown.flush.1,
        ⟨session.stack.asking asked, sink, session.completed⟩) := by
  obtain ⟨hflush, hchunk⟩ := Sink.flush_shown session.sink
  rw [Session.flush, withSink_eq, heedSink_eq, hflush]
  exact ⟨_, _, willing.of_chunk hchunk, rfl, rfl⟩

/-- An iteration that got its block delivers its line, in pieces or not. -/
theorem step_of_granted (willing : session.sink.Willing)
    (granted : session.stack.pair .main size = (.ok (), stack)) :
    ∃ asked sink, sink.Willing ∧ sink.shown = (session.sink.shown.deliver line).2 ∧
      session.step size = (Effect.asStop (session.sink.shown.deliver line).1,
        ⟨stack.asking asked, sink, session.completed⟩) := by
  obtain ⟨asked, first, hwilling, hfirst, hline⟩ :=
    write_put { session with stack := stack } willing stepLine
  have happend : session.sink.shown.put line = _ :=
    Sink.put_append session.sink.shown stepLine.toList "\n".toList
  -- The obstacle is in the word, in the end of the line, or in neither.
  simp only [Session.step, granted, hline]
  dsimp only at hfirst
  generalize session.sink.shown.put stepLine.toList = word at hfirst happend ⊢
  obtain ⟨error | _, shown⟩ := word
  · have hdeliver : session.sink.shown.deliver line = (.error error, shown) := by
      simp only [Sink.deliver, happend]
    rw [hdeliver]
    exact ⟨asked, first, hwilling, hfirst, rfl⟩
  · obtain rfl : first.shown = shown := hfirst
    obtain ⟨asked', second, hwilling', hsecond, hend⟩ :=
      write_put ⟨stack.asking asked, first, session.completed⟩ hwilling "\n"
    have hbetween : Effect.asStop (.ok ()) = .ok () := rfl
    simp only [hbetween, hend]
    dsimp only at hsecond happend
    generalize first.shown.put "\n".toList = rest at hsecond happend ⊢
    obtain ⟨error | _, shown⟩ := rest
    · have hdeliver : session.sink.shown.deliver line = (.error error, shown) := by
        simp only [Sink.deliver, happend]
      rw [hdeliver, Stack.asking_asking]
      exact ⟨_, second, hwilling', hsecond, rfl⟩
    · obtain rfl : second.shown = shown := hsecond
      have hdeliver : session.sink.shown.deliver line = second.shown.flush := by
        simp only [Sink.deliver, happend]
      obtain ⟨asked'', third, hwilling'', hthird, hflush⟩ :=
        flush_put ⟨(stack.asking asked).asking asked', second, session.completed⟩ hwilling'
      simp only [hbetween, hflush, hdeliver]
      rw [Stack.asking_asking, Stack.asking_asking]
      exact ⟨_, third, hwilling'', hthird, rfl⟩

end Step

/-- A run that nothing ends before its sink turns down the character after the first `count`. -/
structure Obstructed (config : Config) (pauses : Pauses) (begun : Session) (count : Nat)
    (error : IoError) : Prop where
  clear : ∀ earlier < count, begun.sink.obstacle? (begun.sink.position + earlier) = none
  obstacle : begun.sink.obstacle? (begun.sink.position + count) = some error
  /-- No flush fails before, -/
  flushes : ∀ number < count / 5, begun.sink.failsFlush ≠ some (begun.sink.flushes + number + 1)
  /-- no block is refused, -/
  granted : ∀ number ≤ count / 5,
    ((course config pauses begun number).stack.pair .main config.blockSize).1 = .ok ()
  /-- the run is not asked to stop, -/
  running : ∀ number ≤ count / 5, (course config pauses begun number).stopRequested = false
  /-- no signal ends the process, -/
  survives : ∀ completed : UInt64, completed.toNat ≤ count / 5 → pauses.fatal? completed = none
  /-- the limit lies further, -/
  below : ¬ config.limit ≤ (count / 5 : ℕ)
  /-- and words count the lines. -/
  words : count / 5 < UInt64.size

section Obstructed

variable {config : Config} {pauses : Pauses} {begun : Session} {count : Nat} {error : IoError}

namespace Obstructed

variable (h : Obstructed config pauses begun count error)

include h

/-- A limit beyond the obstacle is not reached in any iteration before. -/
theorem below_of_le {session : Session} {number : Nat}
    (completed : session.completed.toNat = number) (le : number ≤ count / 5) :
    ¬ session.atLimit config = true := by
  rw [atLimit_iff, completed]
  intro hlimit
  exact h.below (hlimit.trans (Nat.cast_le.2 le))

theorem exists_granted {number : Nat} (le : number ≤ count / 5) :
    ∃ stack, (course config pauses begun number).stack.pair .main config.blockSize =
      (.ok (), stack) :=
  ⟨_, Prod.ext (h.granted number le) rfl⟩

/-- The lines before the one with the obstacle are delivered. -/
theorem fine {number : Nat} (lt : number < count / 5)
    (willing : (course config pauses begun number).sink.Willing)
    (shown : (course config pauses begun number).sink.shown = carrying begun.sink number) :
    ((course config pauses begun number).step config.blockSize).1 = .ok () ∧
      (course config pauses begun (number + 1)).sink.Willing ∧
      (course config pauses begun (number + 1)).sink.shown = carrying begun.sink (number + 1) := by
  obtain ⟨stack, hgranted⟩ := h.exists_granted (Nat.le_of_lt lt)
  obtain ⟨asked, sink, hwilling, hshown, hstep⟩ := step_of_granted willing hgranted
  have hclear : ∀ i < 5, begun.sink.obstacle? (begun.sink.position + (5 * number + i)) = none := by
    intro i hi
    apply h.clear
    omega
  have hdeliver := deliver_carrying hclear (h.flushes number lt)
  rw [shown, hdeliver] at hshown hstep
  have hsink : (course config pauses begun (number + 1)).sink = sink := by
    rw [course, (aside_paused _).2, counted, hstep]
    rfl
  rw [hsink, hstep]
  exact ⟨rfl, hwilling, hshown⟩

/-- The course up to the line with the obstacle. -/
theorem course_carrying (willing : begun.sink.Willing) {number : Nat} (le : number ≤ count / 5) :
    (course config pauses begun number).sink.Willing ∧
      (course config pauses begun number).sink.shown = carrying begun.sink number := by
  induction number with
  | zero => exact ⟨willing, (carrying_zero begun.sink).symm⟩
  | succ number ih =>
      obtain ⟨hwilling, hshown⟩ := ih (Nat.le_of_succ_le le)
      exact (h.fine le hwilling hshown).2

/-- Every turn before the one with the obstacle is followed by another. -/
theorem again (willing : begun.sink.Willing) (zero : begun.completed = 0) {number : Nat}
    (lt : number < count / 5) :
    turn config pauses (course config pauses begun number) =
      .again (course config pauses begun (number + 1)) := by
  have hroom : number + 1 < UInt64.size := Nat.lt_of_le_of_lt lt h.words
  have hcompleted : (course config pauses begun number).completed.toNat = number :=
    completed_course zero (Nat.lt_of_succ_lt hroom)
  have hcounted : (counted config (course config pauses begun number)).completed.toNat =
      number + 1 := completed_counted_course zero hroom
  obtain ⟨hwilling, hshown⟩ := h.course_carrying willing (Nat.le_of_lt lt)
  have hnext : (paused pauses (counted config (course config pauses begun number))).stopRequested =
      false := h.running (number + 1) lt
  have hsurvives := h.survives (counted config (course config pauses begun number)).completed
    (hcounted.trans_le lt)
  rw [turn_eq_course, h.running number (Nat.le_of_lt lt), if_neg Bool.false_ne_true,
    if_neg (h.below_of_le hcompleted (Nat.le_of_lt lt)), (h.fine lt hwilling hshown).1]
  dsimp only
  rw [hcompleted, if_pos hroom, afterCounting, if_neg (h.below_of_le hcounted lt), hsurvives]
  dsimp only
  rw [hnext, if_neg Bool.false_ne_true]
  rfl

/-- The turn with the obstacle. -/
theorem stopped (willing : begun.sink.Willing) (zero : begun.completed = 0) :
    ∃ last, turn config pauses (course config pauses begun (count / 5)) =
        .stopped (.fault (.io error)) last ∧
      last.completed.toNat = count / 5 ∧
      last.sink.shown = (carrying begun.sink (count / 5)).take (line.take (count % 5)) := by
  obtain ⟨hwilling, hshown⟩ := h.course_carrying willing (Nat.le_refl _)
  obtain ⟨stack, hgranted⟩ := h.exists_granted (Nat.le_refl _)
  obtain ⟨asked, sink, -, hlast, hstep⟩ := step_of_granted hwilling hgranted
  have hcompleted : (course config pauses begun (count / 5)).completed.toNat = count / 5 :=
    completed_course zero h.words
  have hobstacle : begun.sink.obstacle? (begun.sink.position + (5 * (count / 5) + count % 5)) =
      some error := by
    rw [Nat.div_add_mod]
    exact h.obstacle
  have hclear : ∀ i < count % 5,
      begun.sink.obstacle? (begun.sink.position + (5 * (count / 5) + i)) = none := by
    intro i hi
    apply h.clear
    omega
  have hdeliver := deliver_obstructed (Nat.mod_lt count (Nat.succ_pos 4)) hclear hobstacle
  rw [hshown, hdeliver] at hlast hstep
  refine ⟨⟨stack.asking asked, sink, _⟩, ?_, hcompleted, hlast⟩
  rw [turn_eq_course, h.running _ (Nat.le_refl _), if_neg Bool.false_ne_true,
    if_neg (h.below_of_le hcompleted (Nat.le_refl _)), hstep]
  rfl

/-- The loop ends with the obstacle. -/
theorem loop (willing : begun.sink.Willing) (zero : begun.completed = 0) :
    ∃ last, Sequential.loop config pauses UInt64.size begun =
        (.error (.fault (.io error)), last) ∧
      begunIn config pauses UInt64.size begun = count / 5 + 1 ∧
      last.completed.toNat = count / 5 ∧
      last.sink.shown = (carrying begun.sink (count / 5)).take (line.take (count % 5)) := by
  obtain ⟨last, hturn, hcompleted, hshown⟩ := h.stopped willing zero
  have hagain : ∀ earlier < count / 5, turn config pauses (course config pauses begun earlier) =
      .again (course config pauses begun (earlier + 1)) :=
    fun earlier lt => h.again willing zero lt
  obtain ⟨further, hfurther⟩ := Nat.exists_eq_add_of_lt h.words
  have hunfinished := not_isAtEnd_of_turn hturn nofun
  refine ⟨last, ?_, ?_, hcompleted, hshown⟩
  · rw [hfurther, Nat.add_assoc, loop_of_again hagain, Sequential.loop, hturn]
  · rw [hfurther, Nat.add_assoc, begunIn_of_again hagain, begunIn, if_neg hunfinished, hturn]

end Obstructed

/-- The first lines and the beginning of one more. -/
theorem take_lines (count : Nat) :
    (lines (count / 5 + 1)).take count = lines (count / 5) ++ line.take (count % 5) := by
  have hlength : (lines (count / 5)).length ≤ count := by
    rw [length_lines]
    exact Nat.mul_div_le count 5
  have hrest : count - (lines (count / 5)).length = count % 5 := by
    rw [length_lines]
    omega
  rw [lines_succ', List.take_append, List.take_of_length_le hlength, hrest]

end Obstructed

/-- Two ends of runs that nobody can tell apart: the results are the same, the sinks show the
same, and the allocators have done the same.  Whether a run was asked to stop after its last test
makes no difference. -/
structure SameEnd (first second : Except Stop Summary × Session) : Prop where
  result : first.1 = second.1
  completed : first.2.completed = second.2.completed
  taken : first.2.sink.taken = second.2.sink.taken
  flushes : first.2.sink.flushes = second.2.sink.flushes
  flushedAt : first.2.sink.flushedAt = second.2.sink.flushedAt
  layers : first.2.stack.layers = second.2.stack.layers
  site : first.2.stack.site =
    { second.2.stack.site with stopRequested := first.2.stack.site.stopRequested }

theorem sameEnd_of_parallel {timed : Prop} {first second : Except Stop Summary × Session}
    (h : InStep (Session.Parallel timed) first second) : SameEnd first second := by
  cases h with
  | intro result sessions =>
      cases sessions with
      | intro stack completed together sinks =>
          exact {
            result := rfl
            completed := rfl
            taken := by simpa using congrArg Sink.taken sinks.shown
            flushes := by simpa using congrArg Sink.flushes sinks.shown
            flushedAt := by simpa using congrArg Sink.flushedAt sinks.shown
            layers := rfl
            site := rfl }

/-- Runs on two sinks that show the same, whatever they take at a time and wherever they are
interrupted, end in the same way, if they are asked to stop at the same tests; a run begins as many
iterations as the other.  A run that only its sink ends takes the beginning of its lines up to the
first character that is turned down, with the error of that character, and fails in the iteration
that the character belongs to. -/
theorem short_writes_are_invisible (config : Config) (pauses : Pauses) (stack : Stack) :
    (∀ first second : Sink, first.Willing → second.Willing → first.shown = second.shown →
        SameTiming config pauses (opened config stack first) (opened config stack second) →
        SameEnd (run config pauses stack first) (run config pauses stack second) ∧
          (config.validate = .ok () →
            begunIn config pauses UInt64.size (opened config stack first) =
              begunIn config pauses UInt64.size (opened config stack second))) ∧
      ∀ sink : Sink, sink.Willing → config.validate = .ok () → ∀ count error,
        Obstructed config pauses (opened config stack sink) count error →
        (run config pauses stack sink).1 = .error (.fault (.io error)) ∧
          (run config pauses stack sink).2.sink.taken.toList =
            sink.taken.toList ++ (lines (count / 5 + 1)).take count ∧
          (run config pauses stack sink).2.sink.flushes = sink.flushes + count / 5 ∧
          (run config pauses stack sink).2.completed.toNat = count / 5 ∧
          begunIn config pauses UInt64.size (opened config stack sink) = count / 5 + 1 := by
  constructor
  · intro first second willing willing' shown timing
    have sinks : first.Parallel False second := ⟨⟨willing, willing'⟩, shown, False.elim⟩
    obtain ⟨hrun, hbegun⟩ := parallel_run sinks timing
    exact ⟨sameEnd_of_parallel hrun, hbegun⟩
  · intro sink willing valid count error obstructed
    obtain ⟨hrun, hzero, -⟩ := run_of_valid valid pauses stack sink
    have hsink : (opened config stack sink).sink = sink := sink_opened config stack sink
    have hwilling : (opened config stack sink).sink.Willing := hsink.symm ▸ willing
    obtain ⟨last, hloop, hbegun, hcompleted, hshown⟩ := obstructed.loop hwilling hzero
    rw [hsink] at hshown
    have htaken : last.sink.taken.toList =
        sink.taken.toList ++ (lines (count / 5 + 1)).take count := by
      have htaken := congrArg (fun sink => sink.taken.toList) hshown
      rw [take_lines]
      simpa [Sink.take, carrying] using htaken
    have hflushes : last.sink.flushes = sink.flushes + count / 5 :=
      congrArg Sink.flushes hshown
    rw [hrun, hloop]
    exact ⟨rfl, htaken, hflushes, hcompleted, hbegun⟩

/-- A sink that takes one character at a time and is interrupted here and there. -/
def haltingSink : Sink := { Sink.endless with chunk := fun _ => 1, interrupts := [0, 3, 3, 5] }

/-- A sink that takes two characters at a time.  After seven it takes nothing more, and would fail
besides. -/
def narrowSink : Sink :=
  { Sink.endless with
    chunk := fun _ => 2
    interrupts := [6]
    fullFrom := some 7
    failsFrom := some 7 }

/-- Two iterations over three counting layers leave the same in a sink that halts as in one that
takes everything.  The word of the second line is cut after two characters, since the sink takes
nothing more. -/
theorem halting_sink_takes_the_same :
    SameEnd (run ⟨16, ⟨0, 0⟩, some 2⟩ .quiet .layered .endless)
        (run ⟨16, ⟨0, 0⟩, some 2⟩ .quiet .layered haltingSink) ∧
      Obstructed ⟨16, ⟨0, 0⟩, some 3⟩ .quiet (opened ⟨16, ⟨0, 0⟩, some 3⟩ .layered narrowSink) 7
        Sink.notTaken ∧
      (run ⟨16, ⟨0, 0⟩, some 3⟩ .quiet .layered narrowSink).1 =
        .error (.fault (.io Sink.notTaken)) ∧
      (run ⟨16, ⟨0, 0⟩, some 3⟩ .quiet .layered narrowSink).2.sink.taken.toList =
        "step\nst".toList := by
  have hsize : 0 < UInt64.size := by decide
  have hendless : Sink.endless.Willing := fun _ => hsize
  have hhalting : haltingSink.Willing := fun _ => Nat.one_pos
  have hnarrow : narrowSink.Willing := fun _ => Nat.two_pos
  have shown : Sink.endless.shown = haltingSink.shown := rfl
  have sinks : Sink.endless.Parallel True haltingSink :=
    ⟨⟨hendless, hhalting⟩, shown, fun _ => ⟨fun _ => rfl, rfl, rfl⟩⟩
  have timing : SameTiming ⟨16, ⟨0, 0⟩, some 2⟩ .quiet
      (opened ⟨16, ⟨0, 0⟩, some 2⟩ .layered .endless)
      (opened ⟨16, ⟨0, 0⟩, some 2⟩ .layered haltingSink) :=
    (parallel_opened sinks _ _).sameTiming
  have hone {number : Nat} (le : number ≤ 7 / 5) : number = 0 ∨ number = 1 := by omega
  have obstructed : Obstructed ⟨16, ⟨0, 0⟩, some 3⟩ .quiet
      (opened ⟨16, ⟨0, 0⟩, some 3⟩ .layered narrowSink) 7 Sink.notTaken := by
    constructor
    case clear => decide
    case obstacle => decide
    case flushes => exact fun _ _ => nofun
    case granted =>
      intro number le
      rcases hone le with rfl | rfl <;> cbv
    case running =>
      intro number le
      rcases hone le with rfl | rfl <;> cbv
    case survives => exact fun _ _ => rfl
    case below =>
      rw [limit_eq_toNat rfl, Nat.cast_le]
      decide
    case words => decide
  obtain ⟨hsame, -⟩ := (short_writes_are_invisible ⟨16, ⟨0, 0⟩, some 2⟩ .quiet .layered).1
    .endless haltingSink hendless hhalting shown timing
  obtain ⟨hresult, htaken, -⟩ := (short_writes_are_invisible ⟨16, ⟨0, 0⟩, some 3⟩ .quiet .layered).2
    narrowSink hnarrow (by decide) 7 Sink.notTaken obstructed
  exact ⟨hsame, obstructed, hresult, htaken⟩

end Sequential
end HeapFixtures
