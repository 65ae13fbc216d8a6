/-
# What runs on one thread say of themselves

At the level of debugging a journal has all events of a fixture and none of its allocator.  A
sequential run says that it starts, counts its iterations one by one, and says how it ends
unless a fault ends it.  A growing run counts its rounds.  So whoever reads the log knows the
result, and how far the run came without one.

A signal in the last pause is the one thing that a sequential run does not say itself: it is
noted by the thread that receives signals, after the last iteration and before the end.
-/

import HeapFixtures.Proofs.Asking
import HeapFixtures.Proofs.DebugJournal
import HeapFixtures.Proofs.Rounds

namespace HeapFixtures

namespace Log.Journal

/-- A journal that has been written these events since. -/
structure Writes (before : Journal) (said : List Event) (after : Journal) : Prop where
  filter : after.filter = before.filter
  events : after.events = before.events ++ said

variable {before between after : Journal} {first rest said : List Event}

theorem Writes.nothing (journal : Journal) : journal.Writes [] journal :=
  ⟨rfl, (List.append_nil _).symm⟩

theorem Writes.append (h : before.Writes first between) (h' : between.Writes rest after) :
    before.Writes (first ++ rest) after := by
  refine ⟨h'.filter.trans h.filter, ?_⟩
  rw [h'.events, h.events, List.append_assoc]

theorem Writes.atDebug (h : before.Writes said after) (debug : before.AtDebug) : after.AtDebug :=
  h.filter.trans debug

/-- An event that is no trace is written. -/
theorem AtDebug.writes (debug : before.AtDebug) (event : Event)
    (loud : decide (event.level ≠ .trace) = true) :
    before.Writes [event]
      (before.emit event.thread event.level event.origin event.message event.fields) := by
  refine ⟨filter_emit .., ?_⟩
  rw [events_emit, debug.enables, if_pos loud]

end Log.Journal

/-- The thread that receives signals notes one that asks the process to stop. -/
def StopRequest.noted : Log.Event :=
  ⟨.signals, .info, .stopRequest, "shutdown signal received", []⟩

namespace Sequential

/-- The event that begins a run. -/
def Config.opening (config : Config) : Log.Event :=
  ⟨.main, .info, .sequential, "sequential fixture started",
    [("block_size", .word config.blockSize), ("interval_ms", .word config.interval.millis),
      ("iterations", .shown (showLimit config.iterations))]⟩

/-- The event of an iteration of a number, the first being 1. -/
def written (number : Nat) : Log.Event :=
  ⟨.main, .debug, .sequential, "step written", [("iteration", .word number.toUInt64)]⟩

/-- The event that ends a run. -/
def Summary.ending (summary : Summary) : Log.Event :=
  ⟨.main, .info, .sequential, "sequential fixture stopped",
    [("iterations", .word summary.iterations), ("stopped_by", .shown summary.cause.name)]⟩

/-- The events of a number of iterations, after those that came before. -/
def steps (before count : Nat) : List Log.Event :=
  (List.range count).map fun number => written (before + number + 1)

/-- A loop that ends for a cause may have been sent a signal in its last pause. -/
def Cause.Follows (cause : Cause) (signaled : List Log.Event) : Prop :=
  signaled = [] ∨ signaled = [StopRequest.noted] ∧ cause = .stopRequest

/-- What is said after the iterations of a run. -/
inductive Closes : Except Stop Summary → List Log.Event → Prop
  | ended {summary : Summary} {signaled : List Log.Event}
      (follows : summary.cause.Follows signaled) :
      Closes (.ok summary) (signaled ++ [summary.ending])
  | stopped (stop : Stop) : Closes (.error stop) []

/-- What a turn says: the number of its iteration, if there is one, and perhaps a signal. -/
inductive Tells (session : Session) : Turn → Prop
  | again {next : Session}
      (writes : session.journal.Writes (steps session.completed.toNat 1) next.journal)
      (counted : next.completed.toNat = session.completed.toNat + 1) :
      Tells session (.again next)
  | ended {next : Session} {cause : Cause} {signaled : List Log.Event} (count : Nat)
      (follows : cause.Follows signaled)
      (writes : session.journal.Writes (steps session.completed.toNat count ++ signaled)
        next.journal)
      (counted : next.completed.toNat = session.completed.toNat + count) :
      Tells session (.ended cause next)
  | stopped {next : Session} (stop : Stop) (count : Nat)
      (writes : session.journal.Writes (steps session.completed.toNat count) next.journal)
      (counted : next.completed.toNat = session.completed.toNat + count) :
      Tells session (.stopped stop next)

section Turn

variable {config : Config} {pauses : Pauses} {session : Session}

/-- Iterations are counted on. -/
theorem steps_add (before first rest : Nat) :
    steps before (first + rest) = steps before first ++ steps (before + first) rest := by
  rw [steps, List.range_add, List.map_append, List.map_map]
  refine congrArg (steps before first ++ ·) (List.map_congr_left fun number _ => ?_)
  exact congrArg written (congrArg (· + 1) (Nat.add_assoc before first number).symm)

/-- A signal is noted if it asks the run to stop. -/
theorem writes_receive {signal : Signal} {after : Session} (debug : session.journal.AtDebug)
    (h : session.receive signal = .ok after) :
    after.completed = session.completed ∧
      (after = session ∨
        session.journal.Writes [StopRequest.noted] after.journal ∧ after.stopRequested = true) := by
  unfold Session.receive at h
  split at h
  · obtain rfl := Except.ok.inj h
    exact ⟨rfl, .inr ⟨debug.writes StopRequest.noted rfl, rfl⟩⟩
  · split at h
    · obtain rfl := Except.ok.inj h
      exact ⟨rfl, .inl rfl⟩
    · cases h

/-- After an iteration the loop ends or goes on. -/
theorem tells_afterStep {after : Session} (debug : session.journal.AtDebug)
    (silent : after.journal = session.journal) (same : after.completed = session.completed) :
    Tells session (afterStep config pauses after) := by
  unfold afterStep
  split
  · refine .stopped _ 0 ?_ (congrArg UInt64.toNat same)
    rw [silent]
    exact .nothing _
  · rename_i completed hcompleted
    have hcounted : completed.toNat = session.completed.toNat + 1 := by
      rw [Word.toNat_of_add? hcompleted, same]
      rfl
    have hnumber : (session.completed.toNat + 1).toUInt64 = completed := by
      rw [← hcounted]
      exact UInt64.ofNat_toNat
    have hwrites : session.journal.Writes (steps session.completed.toNat 1)
        (Session.emit { after with completed := completed } .debug "step written"
          [("iteration", .word completed)]).journal := by
      have hemit := debug.writes (written (session.completed.toNat + 1)) rfl
      rw [← silent, written, hnumber] at hemit
      rw [steps, List.range_one, List.map_singleton, Nat.add_zero, written, hnumber, ← silent]
      exact hemit
    dsimp only
    generalize hreported : Session.emit { after with completed := completed } .debug
      "step written" [("iteration", .word completed)] = reported at hwrites ⊢
    have hnext : reported.completed.toNat = session.completed.toNat + 1 := by
      rw [← hreported]
      exact hcounted
    split
    · exact .ended 1 (.inl rfl) (by rw [List.append_nil]; exact hwrites) hnext
    · split
      · exact .stopped _ 1 hwrites hnext
      · rename_i paused hpaused
        have hpause : paused.completed = reported.completed ∧
            (paused = reported ∨ reported.journal.Writes [StopRequest.noted] paused.journal ∧
              paused.stopRequested = true) := by
          split at hpaused
          · obtain rfl := Except.ok.inj hpaused
            exact ⟨rfl, .inl rfl⟩
          · exact writes_receive (hwrites.atDebug debug) hpaused
        obtain ⟨hsame, rfl | ⟨hnoted, hasked⟩⟩ := hpause
        · split
          · exact .ended 1 (.inl rfl) (by rw [List.append_nil]; exact hwrites) hnext
          · exact .again hwrites hnext
        · rw [if_pos hasked]
          exact .ended 1 (.inr ⟨rfl, rfl⟩) (hwrites.append hnoted) (by rw [hsame]; exact hnext)

theorem tells_turn (config : Config) (pauses : Pauses) (debug : session.journal.AtDebug) :
    Tells session (turn config pauses session) := by
  unfold turn
  split
  · exact .ended 0 (.inl rfl) (.nothing _) rfl
  · split
    · exact .ended 0 (.inl rfl) (.nothing _) rfl
    · have hjournal := (hears_step session config.blockSize).eq_of_atDebug debug
      have hcompleted := session.completed_step config.blockSize
      generalize session.step config.blockSize = called at hjournal hcompleted ⊢
      obtain ⟨stop | _, after⟩ := called
      · refine .stopped stop 0 ?_ (congrArg UInt64.toNat hcompleted)
        show session.journal.Writes [] after.journal
        rw [show after.journal = session.journal from hjournal]
        exact .nothing _
      · exact tells_afterStep debug hjournal hcompleted

/-- A loop counts its iterations, and closes. -/
theorem writes_loop (config : Config) (pauses : Pauses) (room : Nat)
    (debug : session.journal.AtDebug) :
    ∃ count closing,
      session.journal.Writes (steps session.completed.toNat count ++ closing)
        (loop config pauses room session).2.journal ∧
      (loop config pauses room session).2.completed.toNat =
        session.completed.toNat + count ∧
      Closes (loop config pauses room session).1 closing := by
  induction room generalizing session with
  | zero => exact ⟨0, [], .nothing _, rfl, .stopped _⟩
  | succ room ih =>
      have htells := tells_turn config pauses debug
      unfold loop
      generalize turn config pauses session = next at htells
      cases htells with
      | @again next writes counted =>
          obtain ⟨count, closing, hwrites, hcompleted, hcloses⟩ := ih (writes.atDebug debug)
          refine ⟨1 + count, closing, ?_, ?_, hcloses⟩
          · rw [steps_add, List.append_assoc, ← counted]
            exact writes.append hwrites
          · rw [hcompleted, counted, Nat.add_assoc]
      | @ended next cause signaled count follows writes counted =>
          have hending := (writes.atDebug debug).writes
            (Summary.ending ⟨next.completed, cause⟩) rfl
          refine ⟨count, signaled ++ [Summary.ending ⟨next.completed, cause⟩], ?_, counted,
            .ended follows⟩
          rw [← List.append_assoc]
          exact writes.append hending
      | stopped stop count writes counted =>
          exact ⟨count, [], by rw [List.append_nil]; exact writes, counted, .stopped stop⟩

end Turn

/-- What a run says of itself: as many iterations as it has completed, numbered from 1, and how
it ends.  The effects of the run are those of its iterations and of one that a fault cut short;
that tells how many it has completed. -/
structure Reports (config : Config) (stack : Stack) (sink : Sink)
    (ended : Except Stop Summary × Session) (iterations : List (List Effect))
    (last : List Effect) (closing : List Log.Event) : Prop where
  whole : ∀ iteration ∈ iterations, Whole config.blockSize iteration
  acts : Session.Acts ⟨stack, sink, 0⟩ (iterations.flatten ++ last) ended.2
  closed : Closed config.blockSize iterations.length ended.1 ended.2.completed last
  counted : ended.2.completed.toNat = iterations.length
  writes : stack.site.journal.Writes (config.opening :: steps 0 iterations.length ++ closing)
    ended.2.journal
  closes : Closes ended.1 closing

theorem exists_reports {config : Config} (valid : config.validate = .ok ()) (pauses : Pauses)
    {stack : Stack} (debug : stack.site.journal.AtDebug) (sink : Sink)
    (returns : Returns (run config pauses stack sink).1) :
    ∃ iterations last closing,
      Reports config stack sink (run config pauses stack sink) iterations last closing := by
  obtain ⟨begun, hbegun, haside, hzero, hopened⟩ : ∃ begun, start config stack sink = .ok begun ∧
      Session.Acts ⟨stack, sink, 0⟩ [] begun ∧ begun.completed = 0 ∧
      stack.site.journal.Writes [config.opening] begun.journal := by
    rw [start, valid]
    exact ⟨_, rfl, .of_aside (Stack.aside_emit ..) rfl, rfl, debug.writes config.opening rfl⟩
  have hrun : run config pauses stack sink = loop config pauses UInt64.size begun := by
    rw [run, hbegun]
  obtain ⟨iterations, last, hwhole, hacts, hclosed⟩ :=
    acts_loop config pauses UInt64.size begun
  obtain ⟨count, closing, hwrites, hcompleted, hcloses⟩ :=
    writes_loop config pauses UInt64.size (hopened.atDebug debug)
  rw [hrun] at returns ⊢
  rw [hzero, show (0 : UInt64).toNat = 0 from rfl, Nat.zero_add] at hclosed hcompleted
  rw [hzero, show (0 : UInt64).toNat = 0 from rfl] at hwrites
  have hcount : count = iterations.length := by
    rw [← hcompleted]
    generalize loop config pauses UInt64.size begun = ended at returns hclosed
    obtain ⟨result, final⟩ := ended
    cases hclosed with
    | finished reported counted => exact counted
    | cut cut counted => exact counted
    | lost completed isLost =>
        obtain ⟨fault, hfault⟩ := returns _ rfl
        exact absurd hfault (isLost fault)
  subst hcount
  exact ⟨iterations, last, closing, hwhole, haside.append hacts, hclosed, hcompleted,
    hopened.append hwrites, hcloses⟩

end Sequential
namespace Growth

open Script

/-- The event that begins a run. -/
def Config.opening (config : Config) : Log.Event :=
  ⟨.main, .info, .growth, "realloc fixture started",
    [("rounds", .word config.rounds),
      ("requests_per_round", .word (config.roundSizes?.getD []).length.toUInt64)]⟩

/-- The event of a round of a number, the first being 0. -/
def released (number : UInt64) : Log.Event :=
  ⟨.main, .debug, .growth, "round released", [("round", .word number)]⟩

/-- The events of a number of rounds from one on. -/
def releases (first : UInt64) (count : Nat) : List Log.Event :=
  (List.range count).map fun number => released (first + number.toUInt64)

theorem releases_succ (first : UInt64) (count : Nat) :
    releases first (count + 1) = released first :: releases (first + 1) count := by
  rw [releases, List.range_succ_eq_map, List.map_cons, List.map_map]
  congr 1
  · exact congrArg released (UInt64.add_zero first)
  · refine List.map_congr_left fun number _ => congrArg released ?_
    show first + (number + 1).toUInt64 = first + 1 + number.toUInt64
    rw [show (number + 1).toUInt64 = number.toUInt64 + 1 from UInt64.ofNat_add number 1,
      UInt64.add_comm number.toUInt64, UInt64.add_assoc]

/-- What is said of rounds: all of them were completed, or those before one that was broken off.
What there is `said` depends on the number of the completed ones alone. -/
inductive Reports (sizes : List UInt64) (count : Nat) (said : Nat → List Log.Event)
    (before after : Stack) : Except Stop UInt64 → Prop
  | complete (total : UInt64) {dealings : List Dealing} (history : before.History dealings after)
      (performed : Performed .main none (Script.rounds sizes count) dealings none)
      (writes : before.site.journal.Writes (said count) after.site.journal) :
      Reports sizes count said before after (.ok total)
  | cut {completed number : Nat} {stop : Stop} {done rest : List Dealing}
      (fewer : completed < count) (history : before.History (done ++ rest) after)
      (performed : Performed .main none (Script.rounds sizes completed) done none)
      (brokenOff : BrokenOff .main stop none (Script.round sizes) number rest)
      (writes : before.site.journal.Writes (said completed) after.site.journal) :
      Reports sizes count said before after (.error stop)

section Reports

variable {sizes : List UInt64} {count : Nat} {said : Nat → List Log.Event}
  {before between after : Stack} {result : Except Stop UInt64}

/-- What is said before the rounds belongs to it. -/
theorem Reports.aside {opening : List Log.Event} (aside : before.Aside between)
    (writes : before.site.journal.Writes opening between.site.journal)
    (h : Reports sizes count said between after result) :
    Reports sizes count (fun completed => opening ++ said completed) before after result := by
  cases h with
  | complete total history performed writes' =>
      exact .complete total (.aside aside history) performed (writes.append writes')
  | cut fewer history performed brokenOff writes' =>
      exact .cut fewer (.aside aside history) performed brokenOff (writes.append writes')

/-- A round that was completed comes before the others. -/
theorem Reports.succ {first : UInt64} {dealings : List Dealing}
    (history : before.History dealings between)
    (performed : Performed .main none (Script.round sizes) dealings none)
    (same : between.site.journal = before.site.journal)
    (h : Reports sizes count (fun completed => released first :: releases (first + 1) completed)
      between after result) :
    Reports sizes (count + 1) (releases first) before after result := by
  cases h with
  | complete total history' performed' writes =>
      refine .complete total (history.append history') ?_ ?_
      · rw [rounds_succ]
        exact performed.append performed'
      · rw [releases_succ, ← same]
        exact writes
  | @cut completed number stop done rest fewer history' performed' brokenOff writes =>
      have hhistory : before.History ((dealings ++ done) ++ rest) after := by
        rw [List.append_assoc]
        exact history.append history'
      refine .cut (Nat.succ_lt_succ fewer) hhistory ?_ brokenOff ?_
      · rw [rounds_succ]
        exact performed.append performed'
      · rw [releases_succ, ← same]
        exact writes

theorem reports_rounds (sizes : List UInt64) (left : Nat) (round requests : UInt64)
    {stack : Stack} (debug : stack.site.journal.AtDebug)
    (returns : Returns (rounds sizes left round requests stack).1) :
    Reports sizes left (releases round) stack (rounds sizes left round requests stack).2
      (rounds sizes left round requests stack).1 := by
  induction left generalizing round requests stack with
  | zero => exact .complete requests (.nil stack) (.nil none) (.nothing _)
  | succ left ih =>
      have hgrow := played_grow .main sizes stack
      have hjournal := (hears_grow .main sizes stack).eq_of_atDebug debug
      rcases hcall : grow .main sizes stack with ⟨stop | _, between⟩
      all_goals
        rw [hcall] at hgrow hjournal
        have hsame : between.site.journal = stack.site.journal := hjournal
      · simp only [rounds, hcall]
        cases hgrow with
        | cut history brokenOff =>
            refine .cut (Nat.succ_pos left) ((List.nil_append _).symm ▸ history) (.nil none)
              brokenOff ?_
            rw [hsame]
            exact .nothing _
      · cases hadd : Word.add? requests sizes.length.toUInt64 with
        | none =>
            simp only [rounds, hcall, hadd] at returns
            obtain ⟨fault, ⟨⟩⟩ := returns _ rfl
        | some counted =>
            rw [← hsame] at debug
            have hwrites : between.site.journal.Writes [released round]
                (between.emit .main .debug .growth "round released"
                  [("round", .word round)]).site.journal := debug.writes (released round) rfl
            rw [rounds_of_counted left hcall hadd] at returns ⊢
            have hrest := ih _ counted (hwrites.atDebug debug) returns
            cases hgrow with
            | whole _ history performed =>
                exact .succ history performed hsame (.aside (Stack.aside_emit ..) hwrites hrest)

/-- A run says that it begins, and then counts its rounds from 0. -/
theorem reports_run {config : Config} (valid : config.validate = .ok ()) {stack : Stack}
    (debug : stack.site.journal.AtDebug) (returns : Returns (run config stack).1) :
    Reports (config.roundSizes?.getD []) config.rounds.toNat
      (fun completed => config.opening :: releases 0 completed) stack (run config stack).2
      (run config stack).1 := by
  have hopened : stack.site.journal.Writes [config.opening] (opened config stack).site.journal :=
    debug.writes config.opening rfl
  have hrun : run config stack =
      rounds (config.roundSizes?.getD []) config.rounds.toNat 0 0 (opened config stack) := by
    simp only [run, valid]
    rfl
  rw [hrun] at returns ⊢
  exact .aside (Stack.aside_emit ..) hopened
    (reports_rounds _ _ 0 0 (hopened.atDebug debug) returns)

end Reports

end Growth
end HeapFixtures
