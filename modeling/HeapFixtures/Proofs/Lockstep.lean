/-
# Sinks that are written to differently

Two sinks that differ in how many characters a write takes, and in where writes are interrupted,
take the same texts and turn down the same characters.  So two runs on them go through the same
iterations, in lockstep, as far as what is shown goes.

They may be asked to stop at different moments, since a write that only one of the sinks receives
may ask.  Only the tests between the iterations look at that; where these find the same, the runs
end in the same way.
-/

import HeapFixtures.Proofs.Writing
import HeapFixtures.Proofs.Unobserved
import HeapFixtures.Proofs.Filtering
import HeapFixtures.Proofs.Pairs

namespace HeapFixtures

namespace Sink

/-- A sink whose writes do not ask the run to stop.  Its flushes may. -/
def Reserved (sink : Sink) : Prop := ∀ position, sink.raisesStop (.write position) = false

/-- Two sinks that show the same, however they are written to.  If the requests to stop are to be
`timed` alike, they come from the flushes, and from the same. -/
structure Parallel (timed : Prop) (first second : Sink) : Prop where
  willing : first.Willing ∧ second.Willing
  shown : first.shown = second.shown
  reserved : timed → first.Reserved ∧ first.raisesStop = second.raisesStop ∧
    first.stopRaised = second.stopRaised

variable {timed : Prop} {sink next first second : Sink} {reply : WriteReply} {text : List Char}

theorem Reserved.raised_writeAll (h : sink.Reserved) (text : List Char) :
    (sink.writeAll text).2.raisesStop = sink.raisesStop ∧
      (sink.writeAll text).2.stopRaised = sink.stopRaised := by
  have hafter {sink next : Sink} {text : List Char} {reply : WriteReply} (h : sink.Reserved)
      (wrote : sink.write text = (reply, next)) :
      next.raisesStop = sink.raisesStop ∧ next.stopRaised = sink.stopRaised := by
    obtain ⟨hraises, hraised⟩ := raised_of_write wrote
    rw [h, Bool.or_false] at hraised
    exact ⟨hraises, hraised⟩
  fun_induction writeAll sink text with
  | case1 sink => exact ⟨rfl, rfl⟩
  | case2 sink c rest next wrote ih =>
      obtain ⟨hraises, hraised⟩ := hafter h wrote
      have hlast := ih fun position => by rw [hraises]; exact h position
      rw [hraises, hraised] at hlast
      exact hlast
  | case3 sink c rest error next wrote => exact hafter h wrote
  | case4 sink c rest next wrote => exact hafter h wrote
  | case5 sink c rest count next wrote ih =>
      obtain ⟨hraises, hraised⟩ := hafter h wrote
      have hlast := ih fun position => by rw [hraises]; exact h position
      rw [hraises, hraised] at hlast
      exact hlast

namespace Parallel

theorem writeAll (h : first.Parallel timed second) (text : List Char) :
    InStep (Parallel timed) (first.writeAll text) (second.writeAll text) := by
  obtain ⟨hput, hchunk⟩ := put_shown h.willing.1 text
  obtain ⟨hput', hchunk'⟩ := put_shown h.willing.2 text
  rw [h.shown, hput'] at hput
  obtain ⟨hanswer, hshown⟩ := Prod.mk.inj hput
  refine .of_eq hanswer.symm
    ⟨⟨h.willing.1.of_chunk hchunk, h.willing.2.of_chunk hchunk'⟩, hshown.symm, fun on => ?_⟩
  obtain ⟨hreserved, hraises, hraised⟩ := h.reserved on
  have hreserved' : second.Reserved := fun position => hraises ▸ hreserved position
  obtain ⟨hraises₁, hraised₁⟩ := hreserved.raised_writeAll text
  obtain ⟨hraises₂, hraised₂⟩ := hreserved'.raised_writeAll text
  refine ⟨fun position => ?_, ?_, ?_⟩
  · rw [hraises₁]
    exact hreserved position
  · rw [hraises₁, hraises₂, hraises]
  · rw [hraised₁, hraised₂, hraised]

theorem flush (h : first.Parallel timed second) :
    InStep (Parallel timed) first.flush second.flush := by
  obtain ⟨hflush, hchunk⟩ := flush_shown first
  obtain ⟨hflush', hchunk'⟩ := flush_shown second
  rw [h.shown, hflush'] at hflush
  obtain ⟨hanswer, hshown⟩ := Prod.mk.inj hflush
  refine .of_eq hanswer.symm
    ⟨⟨h.willing.1.of_chunk hchunk, h.willing.2.of_chunk hchunk'⟩, hshown.symm, fun on => ?_⟩
  obtain ⟨hreserved, hraises, hraised⟩ := h.reserved on
  have hflushes : first.shown.flushes = second.shown.flushes :=
    congrArg Sink.flushes h.shown
  obtain ⟨hraises₁, hraised₁⟩ := first.raised_flush
  obtain ⟨hraises₂, hraised₂⟩ := second.raised_flush
  refine ⟨fun position => ?_, ?_, ?_⟩
  · rw [hraises₁]
    exact hreserved position
  · rw [hraises₁, hraises₂, hraises]
  · rw [hraised₁, hraised₂, hraised, hraises]
    exact congrArg (fun flushes => second.stopRaised || second.raisesStop (.flush (flushes + 1)))
      hflushes

end Parallel
end Sink

namespace Sequential

/-- Two sessions that show the same.  Only the sinks are written to in different ways, and the
request to stop may have come at different moments. -/
inductive Session.Parallel (timed : Prop) : Session → Session → Prop
  | intro (stack : Stack) (completed : UInt64) {asked asked' : Bool} {first second : Sink}
      (together : timed → asked = asked') (sinks : first.Parallel timed second) :
      Parallel timed ⟨stack.asking asked, first, completed⟩ ⟨stack.asking asked', second, completed⟩

theorem heedSink_eq (stack : Stack) (sink : Sink) (completed : UInt64) :
    Session.heedSink ⟨stack, sink, completed⟩ =
      ⟨stack.asking sink.stopRaised, sink, completed⟩ := by
  unfold Session.heedSink
  cases sink.stopRaised <;> rfl

namespace Session.Parallel

variable {timed : Prop} {first second : Session}

theorem emit (h : first.Parallel timed second) (level : Log.Level) (message : String)
    (fields : List (String × Log.Value)) :
    (first.emit level message fields).Parallel timed (second.emit level message fields) := by
  cases h with
  | intro stack completed together sinks =>
      exact .intro (stack.emit .main level .sequential message fields) completed together sinks

theorem completed_eq (h : first.Parallel timed second) : first.completed = second.completed := by
  cases h with
  | intro => rfl

theorem atLimit_eq (h : first.Parallel timed second) (config : Config) :
    first.atLimit config = second.atLimit config := by
  cases h with
  | intro => rfl

theorem withSink (h : first.Parallel timed second) {action : Sink → Except IoError Unit × Sink}
    (alike : ∀ {first second : Sink}, first.Parallel timed second →
      InStep (Sink.Parallel timed) (action first) (action second)) :
    InStep (Parallel timed) (first.withSink action) (second.withSink action) := by
  cases h with
  | @intro stack completed asked asked' first second together sinks =>
      have hcall := alike sinks
      rw [withSink_eq, withSink_eq]
      dsimp only
      generalize action first = answered, action second = answered' at hcall
      cases hcall with
      | @intro answer after after' sinks =>
          rw [heedSink_eq, heedSink_eq, Stack.asking_asking, Stack.asking_asking]
          refine .intro _ (.intro stack completed (fun on => ?_) sinks)
          rw [together on, (sinks.reserved on).2.2]

theorem write (h : first.Parallel timed second) (text : String) :
    InStep (Parallel timed) (first.write text) (second.write text) :=
  h.withSink fun sinks => sinks.writeAll text.toList

theorem flush (h : first.Parallel timed second) :
    InStep (Parallel timed) first.flush second.flush :=
  h.withSink Sink.Parallel.flush

theorem step (h : first.Parallel timed second) (size : UInt64) :
    InStep (Parallel timed) (first.step size) (second.step size) := by
  cases h with
  | @intro stack completed asked asked' first second together sinks =>
      unfold Session.step
      dsimp only
      rw [Stack.pair_asking, Stack.pair_asking]
      obtain ⟨stop | _, stack⟩ := stack.pair .main size
      · exact .intro _ (.intro stack completed together sinks)
      · have hline : InStep (Parallel timed)
            (Session.write ⟨stack.asking asked, first, completed⟩ stepLine)
            (Session.write ⟨stack.asking asked', second, completed⟩ stepLine) :=
          write (.intro stack completed together sinks) _
        dsimp only
        generalize Session.write ⟨stack.asking asked, first, completed⟩ stepLine = line,
          Session.write ⟨stack.asking asked', second, completed⟩ stepLine = line' at hline
        cases hline with
        | @intro result first second sessions =>
            cases result with
            | error stop => exact .intro _ sessions
            | ok _ =>
                have hend : InStep (Parallel timed) (first.write "\n") (second.write "\n") :=
                  sessions.write _
                dsimp only
                generalize first.write "\n" = ended, second.write "\n" = ended' at hend
                cases hend with
                | intro result sessions =>
                    cases result with
                    | error stop => exact .intro _ sessions
                    | ok _ => exact sessions.flush

theorem counted (h : first.Parallel timed second) (config : Config) :
    (counted config first).Parallel timed (counted config second) := by
  have hstep := h.step config.blockSize
  unfold Sequential.counted
  generalize first.step config.blockSize = stepped,
    second.step config.blockSize = stepped' at hstep
  cases hstep with
  | intro result sessions =>
      cases sessions with
      | intro stack completed together sinks =>
          exact emit (.intro stack (completed + 1) together sinks) ..

/-- A signal asks both sessions to stop, or neither. -/
theorem received (h : first.Parallel timed second) (signal : Signal) :
    ((first.receive signal).toOption.getD first).Parallel timed
      ((second.receive signal).toOption.getD second) := by
  unfold Session.receive
  split
  · cases h with
    | @intro stack completed asked asked' first second together sinks =>
        let site : Site := { stack.site with journal := StopRequest.report stack.site.journal }
        let reported : Stack := { stack with site := site }
        have heeded : Parallel timed ⟨reported.asking true, first, completed⟩
            ⟨reported.asking true, second, completed⟩ :=
          .intro reported completed (fun _ => rfl) sinks
        exact heeded
  · split
    · exact h
    · exact h

theorem paused (h : first.Parallel timed second) (pauses : Pauses) :
    (paused pauses first).Parallel timed (paused pauses second) := by
  unfold Sequential.paused
  rw [h.completed_eq]
  cases pauses second.completed with
  | none => exact h
  | some signal => exact h.received signal

/-- Two courses that begin alike stay alike. -/
theorem course (h : first.Parallel timed second) (config : Config) (pauses : Pauses)
    (number : Nat) :
    (course config pauses first number).Parallel timed (course config pauses second number) := by
  induction number with
  | zero => exact h
  | succ number ih => exact (ih.counted config).paused pauses

end Session.Parallel

/-- What a signal in the pause after an iteration ends the process with. -/
def Pauses.fatal? (pauses : Pauses) (completed : UInt64) : Option Stop :=
  (pauses completed).bind fun signal =>
    if signal.asksToStop || signal.isHarmless then none else some (.exit (.signal signal))

/-- The tests after an iteration that was counted: for the limit, for a signal that ends the
process, and for a request to stop. -/
def afterCounting (config : Config) (pauses : Pauses) (counted : Session) : Turn :=
  if counted.atLimit config then .ended .iterationLimit counted
  else
    match pauses.fatal? counted.completed with
    | some stop => .stopped stop counted
    | none =>
      if (paused pauses counted).stopRequested then .ended .stopRequest (paused pauses counted)
      else .again (paused pauses counted)

section Turn

variable {config : Config} {pauses : Pauses}

theorem atLimit_paused (config : Config) (pauses : Pauses) (session : Session) :
    (paused pauses session).atLimit config = session.atLimit config := by
  unfold Session.atLimit
  rw [completed_paused]

theorem afterStep_eq (config : Config) (pauses : Pauses) {after : Session}
    (room : after.completed.toNat + 1 < UInt64.size) :
    afterStep config pauses after =
      afterCounting config pauses
        (Session.emit { after with completed := after.completed + 1 } .debug "step written"
          [("iteration", .word (after.completed + 1))]) := by
  have hadd : Word.add? after.completed 1 = some (after.completed + 1) :=
    Word.add?_eq_some_iff.2 ⟨room, rfl⟩
  have hcompleted : (Session.emit { after with completed := after.completed + 1 } .debug
      "step written" [("iteration", .word (after.completed + 1))]).completed =
        after.completed + 1 := rfl
  simp only [afterStep, hadd, afterCounting]
  generalize Session.emit { after with completed := after.completed + 1 } .debug "step written"
    [("iteration", .word (after.completed + 1))] = tallied at hcompleted ⊢
  rw [← hcompleted]
  split
  · rfl
  · unfold Pauses.fatal? paused
    cases pauses tallied.completed with
    | none => rfl
    | some signal =>
        unfold Session.receive
        by_cases hasks : signal.asksToStop = true
        · simp only [Option.bind_some, hasks, Bool.true_or, if_true]
          rfl
        · by_cases hharmless : signal.isHarmless = true
          · simp only [Option.bind_some, hasks, hharmless, Bool.or_true, if_true]
            rfl
          · simp only [Option.bind_some, hasks, hharmless]
            rfl

/-- A turn, told by what the course makes of its session. -/
theorem turn_eq_course (config : Config) (pauses : Pauses) (session : Session) :
    turn config pauses session =
      if session.stopRequested then .ended .stopRequest session
      else if session.atLimit config then .ended .iterationLimit session
      else
        match (session.step config.blockSize).1 with
        | .error stop => .stopped stop (session.step config.blockSize).2
        | .ok () =>
          if session.completed.toNat + 1 < UInt64.size then
            afterCounting config pauses (counted config session)
          else .stopped (.panic .addOverflow) (session.step config.blockSize).2 := by
  have hcompleted := session.completed_step config.blockSize
  unfold turn counted
  generalize session.step config.blockSize = called at hcompleted ⊢
  obtain ⟨stop | _, after⟩ := called
  · rfl
  · dsimp only at hcompleted ⊢
    rw [← hcompleted]
    split
    · rfl
    · split
      · rfl
      · split
        next room => exact afterStep_eq config pauses room
        next full =>
          have hadd : Word.add? after.completed 1 = none := if_neg full
          simp only [afterStep, hadd]

/-- A turn that is followed by another has tried all tests, and goes on with the course. -/
theorem course_of_again {session next : Session} (h : turn config pauses session = .again next) :
    next = paused pauses (counted config session) ∧ session.stopRequested = false ∧
      (session.step config.blockSize).1 = .ok () ∧ next.atLimit config = false := by
  rw [turn_eq_course] at h
  split at h
  · cases h
  next running =>
    split at h
    · cases h
    next below =>
      split at h
      · cases h
      next fine =>
        split at h
        next room =>
          unfold afterCounting at h
          split at h
          · cases h
          next further =>
            split at h
            · cases h
            · split at h
              · cases h
              · obtain rfl := Turn.again.inj h
                refine ⟨rfl, Bool.eq_false_iff.2 running, fine, Bool.eq_false_iff.2 ?_⟩
                rw [atLimit_paused]
                exact further
        next full => cases h

end Turn

/-- Two turns that come to the same, in sessions that show the same. -/
inductive Turn.Parallel (timed : Prop) : Turn → Turn → Prop
  | again {first second : Session} (sessions : first.Parallel timed second) :
      Parallel timed (.again first) (.again second)
  | ended (cause : Cause) {first second : Session} (sessions : first.Parallel timed second) :
      Parallel timed (.ended cause first) (.ended cause second)
  | stopped (stop : Stop) {first second : Session} (sessions : first.Parallel timed second) :
      Parallel timed (.stopped stop first) (.stopped stop second)

/-- A course whose first iterations met no error, none of them after a request to stop. -/
def Smooth (config : Config) (pauses : Pauses) (begun : Session) (number : Nat) : Prop :=
  ∀ earlier < number, (course config pauses begun earlier).stopRequested = false ∧
    ((course config pauses begun earlier).step config.blockSize).1 = .ok ()

theorem smooth_zero (config : Config) (pauses : Pauses) (begun : Session) :
    Smooth config pauses begun 0 := fun _ h => absurd h (Nat.not_lt_zero _)

theorem Smooth.succ {config : Config} {pauses : Pauses} {begun : Session} {number : Nat}
    (h : Smooth config pauses begun number)
    (running : (course config pauses begun number).stopRequested = false)
    (fine : ((course config pauses begun number).step config.blockSize).1 = .ok ()) :
    Smooth config pauses begun (number + 1) := by
  intro earlier hearlier
  rcases Nat.lt_succ_iff_lt_or_eq.1 hearlier with hlt | rfl
  · exact h earlier hlt
  · exact ⟨running, fine⟩

/-- Two courses that show the same at the tests for a request to stop, as long as the first goes
smoothly and below its limit. -/
def SameTiming (config : Config) (pauses : Pauses) (first second : Session) : Prop :=
  ∀ number, Smooth config pauses first number →
    (course config pauses first number).atLimit config = false →
    (course config pauses first number).stopRequested =
      (course config pauses second number).stopRequested

section Parallel

variable {config : Config} {pauses : Pauses} {timed : Prop} {first second : Session}

/-- Where only flushes ask to stop, the timing is the same. -/
theorem Session.Parallel.sameTiming (h : first.Parallel True second) :
    SameTiming config pauses first second := by
  intro number _ _
  have hcourse := h.course config pauses number
  generalize Sequential.course config pauses first number = reached,
    Sequential.course config pauses second number = reached' at hcourse ⊢
  cases hcourse with
  | intro stack completed together sinks =>
      obtain rfl := together trivial
      rfl

theorem parallel_afterCounting (h : first.Parallel timed second) (config : Config)
    (pauses : Pauses)
    (same : first.atLimit config = false →
      (paused pauses first).stopRequested = (paused pauses second).stopRequested) :
    Turn.Parallel timed (afterCounting config pauses first)
      (afterCounting config pauses second) := by
  have hpaused := h.paused pauses
  unfold afterCounting
  rw [← h.atLimit_eq, ← h.completed_eq]
  split
  · exact .ended _ h
  next below =>
    split
    · exact .stopped _ h
    · rw [← same (Bool.eq_false_iff.2 below)]
      split
      · exact .ended _ hpaused
      · exact .again hpaused

/-- Two turns with the same timing come to the same. -/
theorem parallel_turn (h : first.Parallel timed second)
    (now : first.stopRequested = second.stopRequested)
    (later : first.stopRequested = false → (first.step config.blockSize).1 = .ok () →
      (paused pauses (counted config first)).atLimit config = false →
      (paused pauses (counted config first)).stopRequested =
        (paused pauses (counted config second)).stopRequested) :
    Turn.Parallel timed (turn config pauses first) (turn config pauses second) := by
  have hstep := h.step config.blockSize
  have hresult : (first.step config.blockSize).1 = (second.step config.blockSize).1 :=
    hstep.result_eq
  have hstates : (first.step config.blockSize).2.Parallel timed (second.step config.blockSize).2 :=
    hstep.states
  rw [turn_eq_course, turn_eq_course, ← now, ← h.atLimit_eq, ← h.completed_eq, ← hresult]
  split
  · exact .ended _ h
  next running =>
    split
    · exact .ended _ h
    next below =>
      split
      · exact .stopped _ hstates
      next fine =>
        split
        · apply parallel_afterCounting (h.counted config)
          intro further
          apply later (Bool.eq_false_iff.2 running) fine
          rw [atLimit_paused]
          exact further
        · exact .stopped _ hstates

theorem parallel_conclude (h : first.Parallel timed second) (cause : Cause) :
    InStep (Session.Parallel timed) (conclude cause first) (conclude cause second) := by
  unfold conclude
  rw [h.completed_eq]
  exact .intro _ (h.emit ..)

/-- Two loops with the same timing come to the same, and begin as many iterations. -/
theorem parallel_loop (h : first.Parallel timed second)
    (timing : SameTiming config pauses first second) (room : Nat) {number : Nat}
    (smooth : Smooth config pauses first number)
    (below : (course config pauses first number).atLimit config = false) :
    InStep (Session.Parallel timed) (loop config pauses room (course config pauses first number))
        (loop config pauses room (course config pauses second number)) ∧
      begunIn config pauses room (course config pauses first number) =
        begunIn config pauses room (course config pauses second number) := by
  -- The loops are followed along their courses, since the timing is told by those.
  induction room generalizing number with
  | zero => exact ⟨.intro _ (h.course config pauses number), rfl⟩
  | succ room ih =>
      have hnow := timing number smooth below
      have hcourse := h.course config pauses number
      have hturn := parallel_turn hcourse hnow fun running fine =>
        timing (number + 1) (smooth.succ running fine)
      have hend : isAtEnd config (course config pauses first number) =
          isAtEnd config (course config pauses second number) := by
        unfold isAtEnd
        rw [hnow, hcourse.atLimit_eq]
      unfold loop begunIn
      rw [hend]
      generalize hfirst : turn config pauses (course config pauses first number) = made,
        hsecond : turn config pauses (course config pauses second number) = made' at hturn
      cases hturn with
      | again sessions =>
          obtain ⟨rfl, running, fine, further⟩ := course_of_again hfirst
          obtain ⟨rfl, -⟩ := course_of_again hsecond
          obtain ⟨hloop, hbegun⟩ := ih (smooth.succ running fine) further
          refine ⟨hloop, ?_⟩
          dsimp only [course] at hbegun ⊢
          rw [hbegun]
      | ended cause sessions => exact ⟨parallel_conclude sessions cause, rfl⟩
      | stopped stop sessions => exact ⟨.intro _ sessions, rfl⟩

/-- A limit of an accepted run lies ahead when the run begins. -/
theorem below_opened (valid : config.validate = .ok ()) (stack : Stack) (sink : Sink) :
    (opened config stack sink).atLimit config = false := by
  have hzero := (start_of_valid valid stack sink).2
  have hpositive := iterations_ne_zero valid
  unfold Session.atLimit
  rw [hzero]
  cases hlimit : config.iterations with
  | none => rfl
  | some limit =>
      have hlimit' : limit ≠ 0 := fun h => hpositive (hlimit.trans (congrArg some h))
      simpa using hlimit'

theorem parallel_opened {first second : Sink} (sinks : first.Parallel timed second)
    (config : Config) (stack : Stack) :
    (opened config stack first).Parallel timed (opened config stack second) := by
  have hbegun : Session.Parallel timed ⟨stack.asking false, first, 0⟩
      ⟨stack.asking false, second, 0⟩ :=
    .intro stack 0 (fun _ => rfl) sinks
  unfold opened start
  cases config.validate with
  | error fault => exact hbegun
  | ok _ => exact hbegun.emit ..

/-- Two runs with the same timing come to the same. -/
theorem parallel_run {first second : Sink} (sinks : first.Parallel timed second) {stack : Stack}
    (timing : SameTiming config pauses (opened config stack first) (opened config stack second)) :
    InStep (Session.Parallel timed) (run config pauses stack first)
        (run config pauses stack second) ∧
      (config.validate = .ok () →
        begunIn config pauses UInt64.size (opened config stack first) =
          begunIn config pauses UInt64.size (opened config stack second)) := by
  have hopened := parallel_opened sinks config stack
  cases hvalid : config.validate with
  | error fault =>
      have hfirst : opened config stack first = ⟨stack, first, 0⟩ := by
        unfold opened start
        rw [hvalid]
        rfl
      have hsecond : opened config stack second = ⟨stack, second, 0⟩ := by
        unfold opened start
        rw [hvalid]
        rfl
      rw [hfirst, hsecond] at hopened
      unfold run start
      rw [hvalid]
      exact ⟨.intro _ hopened, nofun⟩
  | ok _ =>
      obtain ⟨hloop, hbegun⟩ := parallel_loop hopened timing UInt64.size (smooth_zero _ _ _)
        (below_opened hvalid stack first)
      rw [(run_of_valid hvalid pauses stack first).1, (run_of_valid hvalid pauses stack second).1]
      exact ⟨hloop, fun _ => hbegun⟩

end Parallel
end Sequential
end HeapFixtures
