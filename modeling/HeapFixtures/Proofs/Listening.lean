/-
# What listening changes

A fixture goes the same way whatever filter its journal has: it has the same result, leaves
the same stack and the same output, shows the same faults to its hook, and says the same
things.

One fixture makes an exception.  At its end a pool adds up the cycles of its workers for an
event, and only where the event is written.  So a sum that is no word is noticed by those who
listen, and the pool that has panicked for them returns its summary to all others.
-/

import HeapFixtures.Proofs.Filtering

namespace HeapFixtures

namespace Sequential

/-- Two sessions that differ in their journals alone. -/
inductive Session.IsFiltered (filters : Log.FilterPair) : Session → Session → Prop
  | intro (sink : Sink) (completed : UInt64) {quiet loud : Stack}
      (alike : quiet.IsFiltered filters loud) :
      IsFiltered filters ⟨quiet, sink, completed⟩ ⟨loud, sink, completed⟩

/-- Two turns that come to the same, in sessions that differ in their journals alone. -/
inductive Turn.IsFiltered (filters : Log.FilterPair) : Turn → Turn → Prop
  | again {quiet loud : Session} (sessions : quiet.IsFiltered filters loud) :
      IsFiltered filters (.again quiet) (.again loud)
  | ended (cause : Cause) {quiet loud : Session} (sessions : quiet.IsFiltered filters loud) :
      IsFiltered filters (.ended cause quiet) (.ended cause loud)
  | stopped (stop : Stop) {quiet loud : Session} (sessions : quiet.IsFiltered filters loud) :
      IsFiltered filters (.stopped stop quiet) (.stopped stop loud)

namespace Session.IsFiltered

variable {filters : Log.FilterPair} {quiet loud : Session}

theorem emit (h : quiet.IsFiltered filters loud) (level : Log.Level) (message : String)
    (fields : List (String × Log.Value)) :
    (quiet.emit level message fields).IsFiltered filters (loud.emit level message fields) := by
  cases h with
  | intro sink completed alike => exact .intro sink completed (alike.emit ..)

theorem requestStop (h : quiet.IsFiltered filters loud) :
    quiet.requestStop.IsFiltered filters loud.requestStop := by
  cases h with
  | intro sink completed alike =>
      cases alike with
      | intro layers sites => exact .intro sink completed (.intro layers sites.requestStop)

theorem stopRequested_eq (h : quiet.IsFiltered filters loud) :
    quiet.stopRequested = loud.stopRequested := by
  cases h with
  | intro sink completed alike =>
      cases alike with
      | intro layers sites => cases sites with | intro => rfl

theorem atLimit_eq (h : quiet.IsFiltered filters loud) (config : Config) :
    quiet.atLimit config = loud.atLimit config := by
  cases h with
  | intro => rfl

theorem withSink (h : quiet.IsFiltered filters loud) (action : Sink → Except IoError Unit × Sink) :
    InStep (IsFiltered filters) (quiet.withSink action) (loud.withSink action) := by
  cases h with
  | @intro sink completed quiet loud alike =>
      unfold Session.withSink
      dsimp only
      obtain ⟨answer, after⟩ := action sink
      have hheeded : (heedSink ⟨quiet, after, completed⟩).IsFiltered filters
          (heedSink ⟨loud, after, completed⟩) := by
        unfold heedSink
        split
        · exact requestStop (.intro after completed alike)
        · exact .intro after completed alike
      cases answer <;> exact .intro _ hheeded

theorem step (h : quiet.IsFiltered filters loud) (size : UInt64) :
    InStep (IsFiltered filters) (quiet.step size) (loud.step size) := by
  cases h with
  | @intro sink completed quiet loud alike =>
      unfold Session.step
      have hpair := alike.pair .main size
      dsimp only
      generalize quiet.pair .main size = calm, loud.pair .main size = full at hpair
      cases hpair with
      | @intro result quiet loud alike =>
          cases result with
          | error stop => exact .intro _ (.intro sink completed alike)
          | ok _ =>
              have hline : InStep (IsFiltered filters)
                  (Session.write ⟨quiet, sink, completed⟩ stepLine)
                  (Session.write ⟨loud, sink, completed⟩ stepLine) :=
                withSink (.intro sink completed alike) _
              dsimp only
              generalize Session.write ⟨quiet, sink, completed⟩ stepLine = calm,
                Session.write ⟨loud, sink, completed⟩ stepLine = full at hline
              cases hline with
              | @intro result quiet loud sessions =>
                  cases result with
                  | error stop => exact .intro _ sessions
                  | ok _ =>
                      have hend :
                          InStep (IsFiltered filters) (quiet.write "\n") (loud.write "\n") :=
                        sessions.withSink _
                      dsimp only
                      generalize quiet.write "\n" = calm, loud.write "\n" = full at hend
                      cases hend with
                      | intro result sessions =>
                          cases result with
                          | error stop => exact .intro _ sessions
                          | ok _ => exact sessions.withSink _

/-- A signal does the same to both sessions. -/
theorem receive (h : quiet.IsFiltered filters loud) (signal : Signal) :
    (∃ received received', quiet.receive signal = .ok received ∧
        loud.receive signal = .ok received' ∧ received.IsFiltered filters received') ∨
      ∃ stop, quiet.receive signal = .error stop ∧ loud.receive signal = .error stop := by
  unfold Session.receive
  split
  · refine .inl ⟨_, _, rfl, rfl, requestStop ?_⟩
    cases h with
    | intro sink completed alike =>
        cases alike with
        | intro layers sites =>
            cases sites with
            | intro heap calls stopRequested journals =>
                exact .intro sink completed (.intro layers
                  (.intro heap calls stopRequested (journals.emit ..)))
  · split
    · exact .inl ⟨quiet, loud, rfl, rfl, h⟩
    · exact .inr ⟨_, rfl, rfl⟩

/-- The end of a turn: another one, unless the run was asked to stop. -/
theorem paused (h : quiet.IsFiltered filters loud) :
    Turn.IsFiltered filters
      (if quiet.stopRequested then .ended .stopRequest quiet else .again quiet)
      (if loud.stopRequested then .ended .stopRequest loud else .again loud) := by
  rw [h.stopRequested_eq]
  split
  · exact .ended .stopRequest h
  · exact .again h

theorem afterStep (h : quiet.IsFiltered filters loud) (config : Config) (pauses : Pauses) :
    Turn.IsFiltered filters (afterStep config pauses quiet) (afterStep config pauses loud) := by
  unfold Sequential.afterStep
  have hcompleted : quiet.completed = loud.completed := by cases h with | intro => rfl
  rw [hcompleted]
  split
  · exact .stopped _ h
  next completed _ =>
    have hcounted : IsFiltered filters { quiet with completed := completed }
        { loud with completed := completed } := by
      cases h with
      | intro sink _ alike => exact .intro sink completed alike
    have hwritten := hcounted.emit .debug "step written" [("iteration", .word completed)]
    dsimp only
    generalize Session.emit { quiet with completed := completed } .debug "step written"
        [("iteration", .word completed)] = reported,
      Session.emit { loud with completed := completed } .debug "step written"
        [("iteration", .word completed)] = reported' at hwritten ⊢
    rw [hwritten.atLimit_eq]
    split
    · exact .ended .iterationLimit hwritten
    · cases pauses completed with
      | none => exact hwritten.paused
      | some signal =>
          dsimp only
          rcases hwritten.receive signal with
            ⟨received, received', hquiet, hloud, hreceived⟩ | ⟨stop, hquiet, hloud⟩
          · rw [hquiet, hloud]
            exact hreceived.paused
          · rw [hquiet, hloud]
            exact .stopped stop hwritten

theorem turn (h : quiet.IsFiltered filters loud) (config : Config) (pauses : Pauses) :
    Turn.IsFiltered filters (turn config pauses quiet) (turn config pauses loud) := by
  unfold Sequential.turn
  rw [h.stopRequested_eq, h.atLimit_eq]
  split
  · exact .ended .stopRequest h
  · split
    · exact .ended .iterationLimit h
    · have hstep := h.step config.blockSize
      generalize quiet.step config.blockSize = calm,
        loud.step config.blockSize = full at hstep
      cases hstep with
      | intro result sessions =>
          cases result with
          | error stop => exact .stopped stop sessions
          | ok _ => exact sessions.afterStep config pauses

theorem loop (h : quiet.IsFiltered filters loud) (config : Config) (pauses : Pauses) (room : Nat) :
    InStep (IsFiltered filters) (loop config pauses room quiet) (loop config pauses room loud) := by
  induction room generalizing quiet loud with
  | zero => exact .intro _ h
  | succ room ih =>
      unfold Sequential.loop
      have hturn := h.turn config pauses
      generalize Sequential.turn config pauses quiet = calm,
        Sequential.turn config pauses loud = full at hturn
      cases hturn with
      | again sessions => exact ih sessions
      | ended cause sessions =>
          have hlast := sessions.emit .info "sequential fixture stopped"
          cases sessions with
          | intro sink completed alike => exact .intro _ (hlast _)
      | stopped stop sessions => exact .intro _ sessions

end Session.IsFiltered

/-- The sequential fixture goes the same way. -/
theorem inStep_run {filters : Log.FilterPair} {quiet loud : Stack} (config : Config)
    (pauses : Pauses) (sink : Sink) (h : quiet.IsFiltered filters loud) :
    InStep (Session.IsFiltered filters) (run config pauses quiet sink)
      (run config pauses loud sink) := by
  have hsessions : Session.IsFiltered filters ⟨quiet, sink, 0⟩ ⟨loud, sink, 0⟩ := .intro sink 0 h
  unfold run start
  cases config.validate with
  | error fault => exact .intro _ hsessions
  | ok _ => exact (hsessions.emit ..).loop config pauses UInt64.size

end Sequential
namespace Workers

/-- Two pools that differ in their journals alone. -/
inductive Pool.IsFiltered (filters : Log.FilterPair) : Pool → Pool → Prop
  | intro (shown : Array (Thread × Fault)) {quiet loud : Stack}
      (alike : quiet.IsFiltered filters loud) : IsFiltered filters ⟨quiet, shown⟩ ⟨loud, shown⟩

/-- A hook that comes back or not, and says what it says, whatever is in the journal. -/
def Hook.Discreet (hook : Hook) : Prop :=
  ∀ thread fault, ∃ reaction said, ∀ journal,
    hook thread fault journal = (reaction, journal.sayAll said)

theorem Hook.discreet_none : Hook.none.Discreet :=
  fun _ _ => ⟨Option.none, [], fun _ => rfl⟩

namespace Pool.IsFiltered

variable {filters : Log.FilterPair} {quiet loud : Pool} {hook : Hook}

theorem emit (h : quiet.IsFiltered filters loud) (thread : Thread) (level : Log.Level)
    (message : String) (fields : List (String × Log.Value)) :
    (quiet.emit thread level message fields).IsFiltered filters
      (loud.emit thread level message fields) := by
  cases h with
  | intro shown alike => exact .intro shown (alike.emit ..)

theorem journal (h : quiet.IsFiltered filters loud) :
    quiet.stack.site.journal.IsFiltered filters loud.stack.site.journal := by
  cases h with
  | intro shown alike =>
      cases alike with
      | intro layers sites =>
          cases sites with
          | intro heap calls stopRequested journals => exact journals

theorem print (h : quiet.IsFiltered filters loud) (text : String) :
    (quiet.print text).IsFiltered filters (loud.print text) := by
  cases h with
  | intro shown alike =>
      cases alike with
      | intro layers sites =>
          cases sites with
          | intro heap calls stopRequested journals =>
              exact .intro shown (.intro layers
                (.intro heap calls stopRequested (journals.say (.printed text))))

theorem present (h : quiet.IsFiltered filters loud) (discreet : hook.Discreet) (thread : Thread)
    (fault : Fault) :
    InStep (IsFiltered filters) (quiet.present hook thread fault)
      (loud.present hook thread fault) := by
  obtain ⟨reaction, said, hsaid⟩ := discreet thread fault
  cases h with
  | intro shown alike =>
      cases alike with
      | intro layers sites =>
          cases sites with
          | intro heap calls stopRequested journals =>
              simp only [Pool.present, hsaid]
              exact .intro reaction (.intro _ (.intro layers
                (.intro heap calls stopRequested (journals.sayAll said))))

theorem work (h : quiet.IsFiltered filters loud) (config : Config) (discreet : hook.Discreet)
    (index : UInt64) :
    InStep (IsFiltered filters) (quiet.work config hook index) (loud.work config hook index) := by
  cases h with
  | @intro shown quiet loud alike =>
      have hrun := inStep_runWorker (.worker index) index config.cycles config.blockSize alike
      unfold Pool.work
      dsimp only
      generalize runWorker (.worker index) index config.cycles config.blockSize quiet = calm,
        runWorker (.worker index) index config.cycles config.blockSize loud = full at hrun
      cases hrun with
      | @intro answer quiet loud alike =>
          obtain ⟨fault | panic | exit⟩ | count := answer
          · have hnoted : IsFiltered filters
                (Pool.emit ⟨quiet, shown⟩ (.worker index) .error "worker failed"
                  [("index", .word index), ("error", .shown fault.message)])
                (Pool.emit ⟨loud, shown⟩ (.worker index) .error "worker failed"
                  [("index", .word index), ("error", .shown fault.message)]) :=
              emit (.intro shown alike) ..
            dsimp only
            split
            · have hpresent := hnoted.present discreet (.worker index) fault
              generalize Pool.present (Pool.emit ⟨quiet, shown⟩ _ _ _ _) _ _ _ = calm,
                Pool.present (Pool.emit ⟨loud, shown⟩ _ _ _ _) _ _ _ = full at hpresent
              cases hpresent with
              | intro reaction pools => cases reaction <;> exact .intro _ pools
            · exact .intro _ hnoted
          · exact .intro _ (.intro shown alike)
          · exact .intro _ (.intro shown alike)
          · exact .intro _ (.intro shown alike)

theorem workAll (h : quiet.IsFiltered filters loud) (config : Config) (discreet : hook.Discreet)
    (order : List Nat) (noted : Outcomes) :
    InStep (IsFiltered filters) (workAll config hook order noted quiet)
      (workAll config hook order noted loud) := by
  induction order generalizing noted quiet loud with
  | nil => exact .intro _ h
  | cons index rest ih =>
      have hwork := h.work config discreet index.toUInt64
      unfold Pool.workAll
      generalize quiet.work config hook index.toUInt64 = calm,
        loud.work config hook index.toUInt64 = full at hwork
      cases hwork with
      | intro outcome pools =>
          obtain ⟨fault | panic | exit⟩ | count := outcome
          · exact ih pools _
          · exact ih pools _
          · exact .intro _ pools
          · exact ih pools _

theorem join (h : quiet.IsFiltered filters loud) (outcomes : Outcomes) (indices : List Nat)
    (first : Option Fault) (done : List UInt64) :
    InStep (IsFiltered filters) (join outcomes indices first done quiet)
      (join outcomes indices first done loud) := by
  induction indices generalizing first done quiet loud with
  | nil => exact .intro _ h
  | cons index rest ih =>
      unfold Pool.join
      split
      · exact ih (h.emit ..) _ _
      · exact ih h _ _
      · exact ih h _ _

theorem reportRefusal (h : quiet.IsFiltered filters loud) (discreet : hook.Discreet) (index : Nat)
    (error : IoError) :
    InStep (IsFiltered filters) (reportRefusal hook index error quiet)
      (reportRefusal hook index error loud) := by
  have hpresent := (h.emit .main .error "failed to spawn worker"
    [("index", .word index.toUInt64), ("error", .shown error.message)]).present discreet .main
    (.threadCreateFailed index.toUInt64 error)
  simp only [Workers.reportRefusal]
  generalize Pool.present (quiet.emit ..) _ _ _ = calm,
    Pool.present (loud.emit ..) _ _ _ = full at hpresent
  cases hpresent with
  | intro reaction pools => cases reaction <;> exact .intro _ pools

end Pool.IsFiltered

/-- Whether a filter lets the last event of a run through. -/
def writesTotal (filter : Log.Filter) : Bool :=
  filter.enables .workers .info (Log.valueNames (totals ⟨[]⟩ 0))

/-- What becomes of a result where the last event is written. -/
def totalled (written : Bool) : Except Stop Summary → Except Stop Summary
  | .ok summary =>
    if written then
      match summary.totalCycles with
      | .ok _ => .ok summary
      | .error panic => .error (.panic panic)
    else .ok summary
  | .error stop => .error stop

/-- Two runs that come to the same, but for a total that may be computed for one of them and
not for the other. -/
inductive Parts (filters : Log.FilterPair) :
    Except Stop Summary × Pool → Except Stop Summary × Pool → Prop
  | intro (result : Except Stop Summary) {quiet loud : Pool}
      (pools : quiet.IsFiltered filters loud) :
      Parts filters (totalled (writesTotal filters.quiet) result, quiet)
        (totalled (writesTotal filters.loud) result, loud)

section Run

variable {filters : Log.FilterPair} {quiet loud : Pool} {surroundings : Surroundings}

/-- A run that was cut short has no total. -/
theorem Parts.stopped (stop : Stop) (h : quiet.IsFiltered filters loud) :
    Parts filters (.error stop, quiet) (.error stop, loud) :=
  .intro (.error stop) h

theorem Parts.pools {quiet loud : Except Stop Summary × Pool} (parts : Parts filters quiet loud) :
    quiet.2.IsFiltered filters loud.2 := by
  cases parts with
  | intro result pools => exact pools

/-- The result of a run, and what it has left. -/
theorem conclude_eq (cycles : List UInt64) (pool : Pool) :
    conclude cycles pool =
      (totalled (writesTotal pool.stack.site.journal.filter) (.ok ⟨cycles⟩),
        match Summary.totalCycles ⟨cycles⟩ with
        | .ok total => pool.emit .main .info "threaded fixture finished" (totals ⟨cycles⟩ total)
        | .error _ => pool) := by
  unfold conclude totalled
  by_cases written : writesTotal pool.stack.site.journal.filter = true
  · have henabled : pool.stack.site.journal.enables .workers .info
        (Log.valueNames (totals ⟨cycles⟩ 0)) = true := written
    simp only [henabled, written, if_true]
    cases Summary.totalCycles ⟨cycles⟩ <;> rfl
  · have henabled (total : UInt64) : ¬ pool.stack.site.journal.enables .workers .info
        (Log.valueNames (totals ⟨cycles⟩ total)) = true := written
    have hsilent (total : UInt64) :
        pool.emit .main .info "threaded fixture finished" (totals ⟨cycles⟩ total) = pool := by
      unfold Pool.emit Stack.emit Site.emit Log.Journal.emit
      rw [if_neg (henabled total)]
    simp only [if_neg (henabled 0), if_neg written, hsilent]
    cases Summary.totalCycles ⟨cycles⟩ <;> rfl

theorem parts_conclude (cycles : List UInt64) (h : quiet.IsFiltered filters loud) :
    Parts filters (conclude cycles quiet) (conclude cycles loud) := by
  rw [conclude_eq, conclude_eq, h.journal.quiet_eq, h.journal.loud_eq]
  apply Parts.intro
  cases Summary.totalCycles ⟨cycles⟩ with
  | ok total => exact h.emit ..
  | error panic => exact h

theorem parts_finish (config : Config) (discreet : surroundings.hook.Discreet) (count : Nat)
    (first : Option Fault) (h : quiet.IsFiltered filters loud) :
    Parts filters (finish config surroundings count first quiet)
      (finish config surroundings count first loud) := by
  have hwork := h.workAll config discreet (surroundings.order count) []
  unfold finish
  generalize Pool.workAll config surroundings.hook (surroundings.order count) [] quiet = calm,
    Pool.workAll config surroundings.hook (surroundings.order count) [] loud = full at hwork
  cases hwork with
  | @intro answer quiet loud pools =>
      cases answer with
      | error exit => exact .stopped _ pools
      | ok outcomes =>
          have hjoin := pools.join outcomes (List.range count) first []
          dsimp only
          generalize Pool.join outcomes (List.range count) first [] quiet = calm,
            Pool.join outcomes (List.range count) first [] loud = full at hjoin
          cases hjoin with
          | intro collected pools =>
              obtain ⟨_ | fault, cycles⟩ := collected
              · exact parts_conclude cycles pools
              · exact .stopped _ pools

/-- The worker fixture goes the same way, up to the total. -/
theorem parts_run {quiet loud : Stack} (config : Config) (discreet : surroundings.hook.Discreet)
    (h : quiet.IsFiltered filters loud) :
    Parts filters (run config surroundings quiet) (run config surroundings loud) := by
  have hpools : Pool.IsFiltered filters ⟨quiet, #[]⟩ ⟨loud, #[]⟩ := .intro #[] h
  unfold run
  cases config.validate with
  | error fault => exact .stopped _ hpools
  | ok _ =>
      have hopened := hpools.emit .main .info "threaded fixture started"
        [("workers", .word config.workers), ("cycles", .word config.cycles),
          ("block_size", .word config.blockSize)]
      dsimp only
      generalize Pool.emit ⟨quiet, #[]⟩ .main .info "threaded fixture started" _ = quiet,
        Pool.emit ⟨loud, #[]⟩ .main .info "threaded fixture started" _ = loud at hopened ⊢
      split
      · exact .stopped _ hopened
      · split
        · exact .stopped _ (hopened.print _)
        · split
          next count _ => exact parts_finish config discreet count none hopened
          next count error _ =>
            have hreport := hopened.reportRefusal discreet count error
            generalize reportRefusal surroundings.hook count error quiet = calm,
              reportRefusal surroundings.hook count error loud = full at hreport
            cases hreport with
            | intro answer pools =>
                cases answer with
                | error stop => exact .stopped stop pools
                | ok fault => exact parts_finish config discreet count (some fault) pools

end Run

end Workers
end HeapFixtures
