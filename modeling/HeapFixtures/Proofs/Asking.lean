/-
# Requests to stop

A run may be asked to stop by a gate, by its sink or by a signal.  A request to the allocator
asks through the gates that it reaches, and the text and the flush of an iteration ask through
the calls that the sink receives.

Nothing that a run does takes the request back: not a request to the allocator, whatever its
layers answer, not a release, and not a call of the sink.  So an iteration that was asked to
stop, or began after that, ends with the request in place.
-/

import HeapFixtures.Proofs.Iteration

namespace HeapFixtures

section Asked

variable {site : Site}

@[simp]
theorem Site.stopRequested_mention (site : Site) (thread : Thread) (message : String)
    (size : UInt64) : (site.mention thread message size).stopRequested = site.stopRequested := by
  unfold mention
  split <;> rfl

theorem Site.stopRequested_allocate (site : Site) (thread : Thread) (size : UInt64) :
    (site.allocate thread size).2.stopRequested = site.stopRequested := by
  unfold allocate
  split
  · rfl
  · split
    · exact stopRequested_mention ..
    · rfl

@[simp]
theorem Stack.stopRequested_note (stack : Stack) (records : Bool) (thread : Thread) (call : Call) :
    (stack.note records thread call).site.stopRequested = stack.site.stopRequested := by
  unfold note
  split <;> rfl

end Asked

/-- Whether a request to the allocator reaches a gate that asks the run to stop. -/
def Stack.gatesAsk (thread : Thread) (size : UInt64) : List Layer → Bool
  | [] => false
  | .counting _ :: below => gatesAsk thread size below
  | .gate gate :: below =>
    let verdict := (gate.ask thread size).1
    verdict.raisesStop || (verdict.answer = .pass && gatesAsk thread size below)

theorem Stack.stopRequested_heed (site : Site) (verdict : Verdict) :
    (heed site verdict).stopRequested = (site.stopRequested || verdict.raisesStop) := by
  unfold heed
  cases verdict.raisesStop with
  | true => exact (Bool.or_true _).symm
  | false => exact (Bool.or_false _).symm

/-- A request to the allocator asks the run to stop through its gates alone. -/
theorem Stack.stopRequested_allocateThrough (thread : Thread) (size : UInt64)
    (layers : List Layer) (site : Site) :
    (allocateThrough thread size layers site).2.site.stopRequested =
      (site.stopRequested || gatesAsk thread size layers) := by
  induction layers generalizing site with
  | nil =>
      rw [gatesAsk, Bool.or_false, allocateThrough, ← site.stopRequested_allocate thread size]
      generalize site.allocate thread size = called
      obtain ⟨fault | block, after⟩ := called <;> rfl
  | cons layer below ih =>
      cases layer with
      | counting counters =>
          have hbelow := ih site
          unfold allocateThrough
          generalize allocateThrough thread size below site = called at hbelow ⊢
          obtain ⟨stop | block, after⟩ := called <;> exact hbelow
      | gate gate =>
          have hbelow := ih (heed site (gate.ask thread size).1)
          have hheed := stopRequested_heed site (gate.ask thread size).1
          rw [hheed, Bool.or_assoc] at hbelow
          simp only [allocateThrough, gatesAsk]
          cases hanswer : (gate.ask thread size).1.answer with
          | panic panic => simpa using hheed
          | refuse fault => simpa using hheed
          | pass =>
              simp only [decide_true, Bool.true_and]
              generalize allocateThrough thread size below _ = called at hbelow ⊢
              obtain ⟨(fault | panic | exit) | block, after⟩ := called
              · exact (stopRequested_note ..).trans hbelow
              · exact hbelow
              · exact hbelow
              · exact (stopRequested_note ..).trans hbelow

/-- A release asks nothing. -/
theorem Stack.stopRequested_releaseThrough (thread : Thread) (block : Block)
    (layers : List Layer) (site : Site) :
    (releaseThrough thread block layers site).site.stopRequested = site.stopRequested := by
  induction layers generalizing site with
  | nil => exact site.stopRequested_mention ..
  | cons layer below ih =>
      cases layer with
      | counting counters => exact ih site
      | gate gate => exact (ih _).trans (stopRequested_note ..)

theorem Stack.stopRequested_pair (stack : Stack) (thread : Thread) (size : UInt64) :
    (stack.pair thread size).2.site.stopRequested =
      (stack.site.stopRequested || gatesAsk thread size stack.layers) := by
  have hallocate : (stack.allocate thread size).2.site.stopRequested = _ :=
    stopRequested_allocateThrough thread size stack.layers stack.site
  unfold pair
  generalize stack.allocate thread size = called at hallocate ⊢
  obtain ⟨stop | block, after⟩ := called
  · exact hallocate
  · exact (stopRequested_releaseThrough ..).trans hallocate

namespace Sequential

/-- Everything that the sink has asked for is known to the run. -/
def Session.Heeded (session : Session) : Prop :=
  session.sink.stopRaised = true → session.stopRequested = true

/-- A session after calls of its sink: the run is asked to stop if it was, or if the sink asks. -/
structure Session.Heeds (before after : Session) : Prop where
  asked : after.stopRequested = (before.stopRequested || after.sink.stopRaised)
  raised : before.sink.stopRaised = true → after.sink.stopRaised = true

section Session

variable {session before between after : Session}

theorem Session.Heeds.trans (h : before.Heeds between) (h' : between.Heeds after) :
    before.Heeds after := by
  refine ⟨?_, fun raised => h'.raised (h.raised raised)⟩
  rw [h'.asked, h.asked, Bool.or_assoc]
  cases hraised : between.sink.stopRaised with
  | false => rw [Bool.false_or]
  | true => rw [h'.raised hraised, Bool.or_true]

theorem Session.sink_heedSink (session : Session) : session.heedSink.sink = session.sink := by
  unfold heedSink
  split <;> rfl

theorem Session.stopRequested_heedSink (session : Session) :
    session.heedSink.stopRequested = (session.stopRequested || session.sink.stopRaised) := by
  unfold heedSink
  cases session.sink.stopRaised with
  | true => exact (Bool.or_true _).symm
  | false => exact (Bool.or_false _).symm

theorem Session.heeds_withSink {action : Sink → Except IoError Unit × Sink}
    (raised : session.sink.stopRaised = true → (action session.sink).2.stopRaised = true) :
    session.Heeds (session.withSink action).2 := by
  rw [withSink_eq]
  refine ⟨?_, ?_⟩
  · rw [stopRequested_heedSink, sink_heedSink]
    rfl
  · rw [sink_heedSink]
    exact raised

theorem Session.heeds_write (session : Session) (text : String) :
    session.Heeds (session.write text).2 := by
  refine heeds_withSink fun raised => ?_
  obtain ⟨writes, acts, -⟩ :=
    acts_writeAll session.stack session.completed session.sink text.toList
  have hraised := acts.raised.2
  dsimp only at hraised
  rw [hraised, raised, Bool.true_or]

theorem Session.heeds_flush (session : Session) : session.Heeds session.flush.2 := by
  refine heeds_withSink fun raised => ?_
  rw [session.sink.raised_flush.2, raised, Bool.true_or]

/-- An iteration comes to nothing after its pair of dealings, or it goes on with its sink. -/
theorem Session.heeds_step (session : Session) (size : UInt64) :
    (session.step size).2 = { session with stack := (session.stack.pair .main size).2 } ∨
      Heeds { session with stack := (session.stack.pair .main size).2 } (session.step size).2 := by
  unfold step
  rcases session.stack.pair .main size with ⟨stop | _, stack⟩
  · exact .inl rfl
  · right
    have hfirst := Session.heeds_write { session with stack := stack } stepLine
    dsimp only
    generalize Session.write { session with stack := stack } stepLine = first at hfirst ⊢
    obtain ⟨stop | _, between⟩ := first
    · exact hfirst
    · have hsecond := hfirst.trans (between.heeds_write "\n")
      dsimp only
      generalize between.write "\n" = second at hsecond ⊢
      obtain ⟨stop | _, after⟩ := second
      · exact hsecond
      · exact hsecond.trans after.heeds_flush

/-- An iteration does not take back a request to stop. -/
theorem Session.asked_step {size : UInt64}
    (asked : session.stopRequested = true ∨
      Stack.gatesAsk .main size session.stack.layers = true) :
    (session.step size).2.stopRequested = true := by
  have hpair : Session.stopRequested
      { session with stack := (session.stack.pair .main size).2 } = true :=
    (session.stack.stopRequested_pair .main size).trans (Bool.or_eq_true_iff.2 asked)
  rcases session.heeds_step size with hsame | heeds
  · rw [hsame]
    exact hpair
  · rw [heeds.asked, hpair, Bool.true_or]

theorem Session.Heeded.step (heeded : session.Heeded) (size : UInt64) :
    (session.step size).2.Heeded := by
  intro raised
  rcases session.heeds_step size with hsame | heeds
  · rw [hsame] at raised
    exact asked_step (.inl (heeded raised))
  · rw [heeds.asked, raised, Bool.or_true]

/-- An iteration asks the run to stop through a gate that its request reaches, or through a call
that the sink receives. -/
theorem Session.Heeded.asked_step_iff (heeded : session.Heeded) (size : UInt64) :
    (session.step size).2.stopRequested = true ↔
      session.stopRequested = true ∨ Stack.gatesAsk .main size session.stack.layers = true ∨
        ∃ effects, session.Acts effects (session.step size).2 ∧
          ∃ call ∈ Effect.sinkCalls session.sink.position session.sink.flushes effects,
            session.sink.raisesStop call = true := by
  constructor
  · intro asked
    obtain ⟨effects, acts, -⟩ := acts_step session size
    have hbefore {wanted : Prop}
        (hpair : (session.stack.pair .main size).2.site.stopRequested = true) :
        session.stopRequested = true ∨
          Stack.gatesAsk .main size session.stack.layers = true ∨ wanted := by
      rw [Stack.stopRequested_pair, Bool.or_eq_true_iff] at hpair
      exact hpair.imp_right .inl
    rcases session.heeds_step size with hsame | heeds
    · rw [hsame] at asked
      exact hbefore asked
    · rw [heeds.asked, Bool.or_eq_true_iff, acts.raised.2, Bool.or_eq_true_iff,
        List.any_eq_true] at asked
      rcases asked with asked | raised | ⟨call, mem, raises⟩
      · exact hbefore asked
      · exact .inl (heeded raised)
      · exact .inr (.inr ⟨effects, acts, call, mem, raises⟩)
  · rintro (asked | gates | ⟨effects, acts, call, mem, raises⟩)
    · exact asked_step (.inl asked)
    · exact asked_step (.inr gates)
    · refine heeded.step size ?_
      rw [acts.raised.2, List.any_eq_true.2 ⟨call, mem, raises⟩, Bool.or_true]

theorem Session.completed_step (session : Session) (size : UInt64) :
    (session.step size).2.completed = session.completed := by
  obtain ⟨effects, -, hcompleted, -⟩ := acts_step session size
  exact hcompleted

end Session

end Sequential
end HeapFixtures
