/-
# Pairs up to the first refusal

A worker and a sequential run use their allocators in the same way: they ask for a block, give
it back, and begin the next pair, until they have begun as many as they are to, or a block is
refused.  A refused block ends the pairs at once, and nothing is given back for it.

A worker begins as many pairs as it has cycles.  A sequential run begins a pair with each of its
iterations, and what ends the iterations has nothing to do with the allocator: a limit, a request
to stop, a sink that fails, or a signal.  So its pairs are counted beside the loop.
-/

import HeapFixtures.Proofs.Bookkeeping
import HeapFixtures.Proofs.Recording
import HeapFixtures.Proofs.Sturdiness
import HeapFixtures.Proofs.Working
import HeapFixtures.Proofs.Ending
import Mathlib.Algebra.BigOperators.Group.List.Basic
import Mathlib.Algebra.Group.Action.Defs

namespace HeapFixtures

/-- The counters of a layer through which so many blocks of a size have come and gone, one at a
time. -/
def Counters.ofPairs (size : UInt64) (count : Nat) : Counters :=
  { allocations := UInt64.ofNat count
    releases := UInt64.ofNat count
    bytes := UInt64.ofNat (count * size.toNat)
    live := 0
    peak := if count = 0 then 0 else 1 }

theorem Script.sizes_pairs (size : UInt64) (count : Nat) :
    (pairs size count).sizes = List.replicate count size := by
  rw [pairs, sizes_rounds, List.flatten_replicate_singleton]

theorem Counters.ofSizes_pairs (size : UInt64) (count : Nat) :
    ofSizes (Script.pairs size count).sizes = ofPairs size count := by
  have hsizes := Script.sizes_pairs size count
  have hnone : List.replicate count size = [] ↔ count = 0 := List.replicate_eq_nil_iff size
  simp only [ofSizes, ofPairs, hsizes, List.length_replicate, List.map_replicate,
    List.sum_replicate, smul_eq_mul, hnone]

namespace Script

/-- A user begins a number of pairs and makes so many of them.  Either these are all, or the
block of one more is refused, which is the last thing that the user asks for. -/
inductive Pairs (thread : Thread) (size : UInt64) (before after : Stack) :
    Nat → Nat → Except Stop Unit → Prop
  | granted {count : Nat} {dealings : List Dealing} (history : before.History dealings after)
      (performed : Performed thread none (pairs size count) dealings none) :
      Pairs thread size before after count count (.ok ())
  | refused {made : Nat} {stop : Stop} {done : List Dealing}
      (history : before.History (done ++ [.allocate thread size (.error stop)]) after)
      (performed : Performed thread none (pairs size made) done none) :
      Pairs thread size before after (made + 1) made (.error stop)

/-- A block that is refused after some pairs breaks off a script of one pair more. -/
theorem brokenOff_pairs {thread : Thread} {size : UInt64} {made : Nat} {done : List Dealing}
    (performed : Performed thread none (pairs size made) done none) (stop : Stop) :
    BrokenOff thread stop none (pairs size (made + 1)) (made + 1)
      (done ++ [.allocate thread size (.error stop)]) := by
  have hlength : (pairs size made).sizes.length = made := by
    rw [sizes_pairs, List.length_replicate]
  exact .intro (rounds_succ' [size] made) performed (.allocate size)
    (congrArg (· + 1) hlength.symm)

namespace Pairs

variable {thread : Thread} {size : UInt64} {before between after : Stack} {block : Block}
  {begun made : Nat} {answer : Except Stop Unit} {first : List Dealing}

theorem none (aside : before.Aside after) : Pairs thread size before after 0 0 (.ok ()) :=
  .granted aside.history (.nil Option.none)

/-- The first block is refused. -/
theorem atOnce {stop : Stop} (h : before.History [.allocate thread size (.error stop)] after) :
    Pairs thread size before after 1 0 (.error stop) := by
  have history : before.History ([] ++ [.allocate thread size (.error stop)]) after := h
  exact .refused history (.nil Option.none)

/-- A pair is made before the others. -/
theorem after_pair (history : before.History first between)
    (performed : Performed thread Option.none (round [size]) first Option.none)
    (h : Pairs thread size between after begun made answer) :
    Pairs thread size before after (begun + 1) (made + 1) answer := by
  cases h with
  | granted history' performed' =>
      refine .granted (history.append history') ?_
      rw [pairs, rounds_succ]
      exact performed.append performed'
  | refused history' performed' =>
      have hhistory := history.append history'
      rw [← List.append_assoc] at hhistory
      refine .refused hhistory ?_
      rw [pairs, rounds_succ]
      exact performed.append performed'

theorem cons (h : before.allocate thread size = (.ok block, between))
    (rest : Pairs thread size (between.release thread block) after begun made answer) :
    Pairs thread size before after (begun + 1) (made + 1) answer :=
  rest.after_pair (.cons (.allocate h) (.cons (.release thread block) (.nil _)))
    (.allocate (.release (.nil Option.none)))

theorem aside (aside : before.Aside between)
    (h : Pairs thread size between after begun made answer) :
    Pairs thread size before after begun made answer := by
  cases h with
  | granted history performed => exact .granted (.aside aside history) performed
  | refused history performed => exact .refused (.aside aside history) performed

/-- Where nothing was refused, all pairs that were begun were made. -/
theorem made_eq (h : Pairs thread size before after begun made (.ok ())) : made = begun := by
  cases h with
  | granted => rfl

/-- A layer on top that counts shows the pairs that were made. -/
theorem shows (h : Pairs thread size before after begun made answer) (returns : Returns answer)
    (fresh : before.Shows .zero) : after.Shows (.ofPairs size made) := by
  rw [← Counters.ofSizes_pairs]
  cases h with
  | granted history performed => exact performed.shows history fresh
  | refused history performed =>
      obtain ⟨fault, rfl⟩ := returns _ rfl
      have hshows := (brokenOff_pairs performed (.fault fault)).shows history fresh
      rw [sizes_pairs, Nat.add_sub_cancel, List.take_replicate,
        Nat.min_eq_left (Nat.le_succ _), ← sizes_pairs] at hshows
      exact hshows

/-- A layer on top that records notes the pairs that were begun. -/
theorem noted (h : Pairs thread size before after begun made answer) (returns : Returns answer)
    (records : before.Records) :
    after.noted = before.noted ++ ((pairs size begun).calls made 0).map (thread, ·) := by
  cases h with
  | granted history performed =>
      have hnoted := performed.noted history records
      rw [sizes_pairs, List.length_replicate] at hnoted
      exact hnoted
  | refused history performed =>
      obtain ⟨fault, rfl⟩ := returns _ rfl
      exact (brokenOff_pairs performed (.fault fault)).noted history records

/-- An allocator that does not panic comes back. -/
theorem returns (h : Pairs thread size before after begun made answer)
    (sturdy : before.Sturdy 0) : Returns answer := by
  cases h with
  | granted history performed => exact .ok ()
  | @refused made stop done history performed =>
      have hcareful := (brokenOff_pairs performed stop).careful
      have hreturned := (hcareful.answered (Nat.zero_le 1) sturdy history).1
      have hlast : Returns (.error stop : Except Stop Block) :=
        hreturned (.allocate thread size (.error stop))
          (List.mem_append_right _ List.mem_cons_self)
      exact hlast.of_error

end Pairs

/-- What the layers on top of an allocator tell of pairs, unless a panic cuts these short, which
sturdy layers rule out: a counting layer that is new shows those that were made, and a recording
layer notes those that were begun. -/
structure ToldPairs (thread : Thread) (size : UInt64) (before after : Stack) (begun made : Nat)
    (answer : Except Stop Unit) : Prop where
  pairs : Pairs thread size before after begun made answer
  returns : before.Sturdy 0 → Returns answer
  shows : Returns answer → before.Shows .zero → after.Shows (.ofPairs size made)
  noted : Returns answer → before.Records →
    after.noted = before.noted ++ ((Script.pairs size begun).calls made 0).map (thread, ·)

theorem Pairs.told {thread : Thread} {size : UInt64} {before after : Stack} {begun made : Nat}
    {answer : Except Stop Unit} (h : Pairs thread size before after begun made answer) :
    ToldPairs thread size before after begun made answer :=
  ⟨h, h.returns, h.shows, h.noted⟩

end Script

open Script

namespace Workers

/-- A worker begins as many pairs as it has cycles, or up to the first block that is refused, and
its result is their number or what refused the block. -/
structure Completes (count : UInt64) (begun : Nat) (answer : Except Stop Unit)
    (result : Except Stop UInt64) : Prop where
  begun_le : begun ≤ count.toNat
  all : answer = .ok () → begun = count.toNat
  result_eq : result = answer.map fun _ => count

/-- A worker begins one pair after the other, all of them or up to the first refused. -/
theorem pairs_cycles (thread : Thread) (size : UInt64) (left : Nat) (stack : Stack) :
    ∃ begun made, Pairs thread size stack (cycles thread size left stack).2 begun made
        (cycles thread size left stack).1 ∧ begun ≤ left ∧
      ((cycles thread size left stack).1 = .ok () → begun = left) := by
  induction left generalizing stack with
  | zero => exact ⟨0, 0, .none ⟨rfl, rfl, rfl⟩, Nat.le_refl 0, fun _ => rfl⟩
  | succ left ih =>
      rcases hcall : stack.allocate thread size with ⟨answer, between⟩
      cases answer with
      | ok block =>
          rw [cycles_of_granted left hcall]
          obtain ⟨begun, made, hpairs, hbegun, hall⟩ := ih (between.release thread block)
          exact ⟨begun + 1, made + 1, .cons hcall hpairs, Nat.succ_le_succ hbegun,
            fun hok => congrArg (· + 1) (hall hok)⟩
      | error stop =>
          rw [cycles_of_stopped left hcall]
          exact ⟨1, 0, .atOnce (.cons (.allocate hcall) (.nil between)),
            Nat.succ_le_succ (Nat.zero_le left), nofun⟩

end Workers

namespace Sequential

/-- The pairs of a fixture are the pairs of a script. -/
theorem performed_of_paired {size : UInt64} {count : Nat} {dealings : List Dealing}
    (h : Dealing.Paired size [] count dealings) :
    Performed .main none (pairs size count) dealings none := by
  induction h with
  | nil => exact .nil none
  | cons block _ ih =>
      rw [pairs, rounds_succ]
      exact .allocate (.release ih)

section Loop

variable {config : Config} {pauses : Pauses} {session after : Session}
  {counted begun made : Nat}

/-- What a turn that begins an iteration comes to, as far as the allocator and the count are
concerned. -/
inductive Begins (size : UInt64) (session : Session) : Turn → Prop
  | again {next : Session} {dealings : List Dealing}
      (history : session.stack.History dealings next.stack)
      (performed : Performed .main none (round [size]) dealings none)
      (counted : next.completed.toNat = session.completed.toNat + 1) :
      Begins size session (.again next)
  | ended {next : Session} {dealings : List Dealing} (cause : Cause)
      (history : session.stack.History dealings next.stack)
      (performed : Performed .main none (round [size]) dealings none)
      (counted : next.completed.toNat = session.completed.toNat + 1) :
      Begins size session (.ended cause next)
  | refused {next : Session} {stop : Stop}
      (history : session.stack.History [.allocate .main size (.error stop)] next.stack)
      (same : next.completed = session.completed) : Begins size session (.stopped stop next)
  /-- Something else than the allocator ends the run.  A fault comes before the count. -/
  | stopped {next : Session} {dealings : List Dealing} {stop : Stop}
      (history : session.stack.History dealings next.stack)
      (performed : Performed .main none (round [size]) dealings none)
      (same : ∀ fault, stop = .fault fault → next.completed = session.completed) :
      Begins size session (.stopped stop next)

section Made

variable {size : UInt64} {dealings : List Dealing}

theorem begins_paused {paused : Session} (history : session.stack.History dealings paused.stack)
    (performed : Performed .main none (round [size]) dealings none)
    (counted : paused.completed.toNat = session.completed.toNat + 1) :
    Begins size session
      (if paused.stopRequested then .ended .stopRequest paused else .again paused) := by
  split
  · exact .ended .stopRequest history performed counted
  · exact .again history performed counted

theorem begins_afterStep (config : Config) (pauses : Pauses)
    (history : session.stack.History dealings after.stack)
    (performed : Performed .main none (round [size]) dealings none)
    (same : after.completed = session.completed) :
    Begins size session (afterStep config pauses after) := by
  unfold afterStep
  split
  · exact .stopped history performed nofun
  · rename_i completed hcompleted
    dsimp only
    generalize hemit : Session.emit { after with completed := completed } .debug "step written"
      [("iteration", .word completed)] = reported
    have hreported : session.stack.History dealings reported.stack := by
      have haside : after.stack.Aside reported.stack := hemit ▸ Stack.aside_emit ..
      simpa using history.append haside.history
    have hcounted : reported.completed.toNat = session.completed.toNat + 1 := by
      rw [← hemit, ← same]
      exact Word.toNat_of_add? hcompleted
    split
    · exact .ended .iterationLimit hreported performed hcounted
    · cases pauses completed with
      | none => exact begins_paused hreported performed hcounted
      | some signal =>
          have hreceives := receives_receive reported signal
          dsimp only
          generalize reported.receive signal = answer at hreceives ⊢
          cases hreceives with
          | ignored => exact begins_paused hreported performed hcounted
          | @heeded stack aside asked =>
              let heeded : Session := { reported with stack := stack }
              have hheeded : session.stack.History dealings heeded.stack := by
                simpa using hreported.append aside.history
              exact begins_paused hheeded performed hcounted
          | ended exit => exact .stopped hreported performed nofun

end Made

/-- An iteration begins one pair, and a refused block is what stops it. -/
theorem pairs_step (session : Session) (size : UInt64) :
    (∃ stop, (session.step size).1 = .error stop ∧
        session.stack.History [.allocate .main size (.error stop)] (session.step size).2.stack) ∨
      ∃ dealings, session.stack.History dealings (session.step size).2.stack ∧
        Performed .main none (round [size]) dealings none := by
  have hround {dealings : List Dealing} (hpaired : Dealing.Paired size [] 1 dealings) :
      Performed .main none (round [size]) dealings none := by
    have hperformed := performed_of_paired hpaired
    rw [pairs, rounds_succ] at hperformed
    exact hperformed
  obtain ⟨effects, acts, -, hstep⟩ := acts_step session size
  rcases hstep with ⟨-, whole⟩ | ⟨stop, herror, cut⟩
  · exact .inr ⟨_, acts.history, hround whole.tally.paired⟩
  · rcases cut.dealings_eq with hrefused | hpaired
    · exact .inl ⟨stop, herror, hrefused ▸ acts.history⟩
    · exact .inr ⟨_, acts.history, hround hpaired⟩

/-- Whether a turn ends the loop before an iteration begins. -/
def isAtEnd (config : Config) (session : Session) : Bool :=
  session.stopRequested || session.atLimit config

theorem turn_of_isAtEnd (pauses : Pauses) (atEnd : isAtEnd config session = true) :
    ∃ cause, turn config pauses session = .ended cause session := by
  unfold turn
  split
  next => exact ⟨_, rfl⟩
  next running =>
    have hlimit : session.atLimit config = true := by simpa [isAtEnd, running] using atEnd
    rw [if_pos hlimit]
    exact ⟨_, rfl⟩

theorem not_isAtEnd_of_turn {made : Turn}
    (h : turn config pauses session = made) (goesOn : ∀ cause, made ≠ .ended cause session) :
    ¬ isAtEnd config session = true := by
  intro atEnd
  obtain ⟨cause, hended⟩ := turn_of_isAtEnd pauses atEnd
  exact goesOn cause (h.symm.trans hended)

/-- A turn that does not end the loop begins an iteration. -/
theorem begins_turn (pauses : Pauses) (unfinished : ¬ isAtEnd config session = true) :
    Begins config.blockSize session (turn config pauses session) := by
  obtain ⟨running, below⟩ : ¬ session.stopRequested = true ∧ ¬ session.atLimit config = true := by
    simpa [isAtEnd] using unfinished
  have hcompleted := session.completed_step config.blockSize
  have hpairs := pairs_step session config.blockSize
  rw [turn, if_neg running, if_neg below]
  generalize session.step config.blockSize = called at hcompleted hpairs ⊢
  obtain ⟨stop | _, after⟩ := called
  · obtain ⟨other, hother, history⟩ | ⟨dealings, history, performed⟩ := hpairs
    · obtain rfl := Except.error.inj hother
      exact .refused history hcompleted
    · exact .stopped history performed fun _ _ => hcompleted
  · obtain ⟨other, hother, -⟩ | ⟨dealings, history, performed⟩ := hpairs
    · cases hother
    · exact begins_afterStep config pauses history performed hcompleted

/-- What the pairs of a loop, which has counted some iterations and begins so many more, say of
its end.  A refused block is passed on.  The iterations that are reported have each made a pair,
and an iteration that ends in a fault has begun one. -/
structure Accounts (counted begun made : Nat) (answer : Except Stop Unit)
    (result : Except Stop Summary) (last : Session) : Prop where
  refused : ∀ stop, answer = .error stop → result = .error stop
  finished : ∀ summary, result = .ok summary →
    begun = made ∧ summary.iterations.toNat = counted + made
  failed : ∀ fault, result = .error (.fault fault) → last.completed.toNat + 1 = counted + begun

theorem accounts_ended {last : Session} (cause : Cause)
    (h : last.completed.toNat = counted + made) :
    Accounts counted made made (.ok ()) (conclude cause last).1 (conclude cause last).2 := by
  refine ⟨nofun, ?_, nofun⟩
  intro summary hsummary
  obtain rfl := Except.ok.inj hsummary
  exact ⟨rfl, h⟩

theorem accounts_stopped {stop : Stop} {last : Session} {answer : Except Stop Unit}
    (passedOn : ∀ other, answer = .error other → other = stop)
    (h : ∀ fault, stop = .fault fault → last.completed.toNat + 1 = counted + begun) :
    Accounts counted begun made answer (.error stop) last := by
  refine ⟨?_, nofun, ?_⟩
  · intro other hother
    rw [passedOn other hother]
  · intro fault hfault
    exact h fault (Except.error.inj hfault)

theorem Accounts.succ {last : Session} {answer : Except Stop Unit} {result : Except Stop Summary}
    (h : Accounts (counted + 1) begun made answer result last) :
    Accounts counted (begun + 1) (made + 1) answer result last := by
  refine ⟨h.refused, ?_, ?_⟩
  · intro summary hsummary
    obtain ⟨hbegun, hiterations⟩ := h.finished summary hsummary
    omega
  · intro fault hfault
    have hlast := h.failed fault hfault
    omega

/-- The iterations that a loop begins, with room for a number of turns. -/
def begunIn (config : Config) (pauses : Pauses) : Nat → Session → Nat
  | 0, _ => 0
  | room + 1, session =>
    if isAtEnd config session then 0
    else
      match turn config pauses session with
      | .again next => begunIn config pauses room next + 1
      | .ended .. | .stopped .. => 1

/-- Turns that are followed by others each begin an iteration. -/
theorem begunIn_of_again {begun : Session} {number : Nat}
    (again : ∀ earlier < number, turn config pauses (course config pauses begun earlier) =
      .again (course config pauses begun (earlier + 1))) (room : Nat) :
    begunIn config pauses (number + room) begun =
      number + begunIn config pauses room (course config pauses begun number) := by
  induction number generalizing room with
  | zero =>
      rw [Nat.zero_add, Nat.zero_add]
      rfl
  | succ number ih =>
      have hearlier := ih (fun earlier h => again earlier (Nat.lt_succ_of_lt h)) (room + 1)
      have hlast := again number (Nat.lt_succ_self number)
      have hunfinished := not_isAtEnd_of_turn hlast nofun
      rw [Nat.add_assoc, Nat.add_comm 1 room, hearlier, begunIn, if_neg hunfinished, hlast]
      dsimp only
      omega

/-- A loop begins a pair with each iteration, up to the first block that is refused. -/
theorem pairs_loop (config : Config) (pauses : Pauses) (room : Nat) (session : Session) :
    ∃ made answer,
      Pairs .main config.blockSize session.stack (loop config pauses room session).2.stack
        (begunIn config pauses room session) made answer ∧
      Accounts session.completed.toNat (begunIn config pauses room session) made answer
        (loop config pauses room session).1 (loop config pauses room session).2 := by
  -- The first turn of the loop comes before the pairs that the induction knows of.
  induction room generalizing session with
  | zero => exact ⟨0, .ok (), .none ⟨rfl, rfl, rfl⟩, accounts_stopped nofun nofun⟩
  | succ room ih =>
      unfold loop begunIn
      by_cases atEnd : isAtEnd config session = true
      · obtain ⟨cause, hturn⟩ := turn_of_isAtEnd pauses atEnd
        simp only [hturn, if_pos atEnd]
        exact ⟨0, .ok (), .none (Stack.aside_emit ..), accounts_ended cause rfl⟩
      · have hbegins := begins_turn pauses atEnd
        rw [if_neg atEnd]
        generalize turn config pauses session = made at hbegins ⊢
        cases hbegins with
        | @again next dealings history performed counted =>
            obtain ⟨made, answer, hpairs, haccounts⟩ := ih next
            rw [counted] at haccounts
            exact ⟨made + 1, answer, hpairs.after_pair history performed, haccounts.succ⟩
        | @ended next dealings cause history performed counted =>
            have hlast : Pairs .main config.blockSize next.stack (conclude cause next).2.stack
                0 0 (.ok ()) := .none (Stack.aside_emit ..)
            exact ⟨1, .ok (), hlast.after_pair history performed, accounts_ended cause counted⟩
        | refused history same =>
            refine ⟨0, _, .atOnce history,
              accounts_stopped (fun _ hother => (Except.error.inj hother).symm) fun _ _ => ?_⟩
            rw [same]
        | @stopped next dealings stop history performed same =>
            have hlast : Pairs .main config.blockSize next.stack next.stack 0 0 (.ok ()) :=
              .none ⟨rfl, rfl, rfl⟩
            refine ⟨1, .ok (), hlast.after_pair history performed,
              accounts_stopped nofun fun fault hfault => ?_⟩
            rw [same fault hfault]

/-- A run with accepted settings is a loop after an event. -/
theorem run_of_valid (valid : config.validate = .ok ()) (pauses : Pauses) (stack : Stack)
    (sink : Sink) :
    run config pauses stack sink =
        loop config pauses UInt64.size (opened config stack sink) ∧
      (opened config stack sink).completed = 0 ∧
      stack.Aside (opened config stack sink).stack := by
  obtain ⟨hstart, hzero⟩ := start_of_valid valid stack sink
  refine ⟨?_, hzero, ?_⟩
  · rw [run, hstart]
  · simp only [opened, start, valid]
    exact Stack.aside_emit ..

end Loop
end Sequential

theorem ok_of_map {answer : Except Stop Unit} {count : UInt64}
    (h : answer.map (fun _ => count) = .ok count) : answer = .ok () := by
  cases answer with
  | error stop => cases h
  | ok _ => rfl

/-- A worker asks for a block and gives it back as often as it has cycles, or up to the first block
that is refused.  A sequential run does the same with the iterations that it begins. -/
theorem pairs_until_refused (stack : Stack) :
    (∀ thread index count size, ∃ begun made answer,
        ToldPairs thread size stack (Workers.runWorker thread index count size stack).2 begun made
          answer ∧
        Workers.Completes count begun answer
          (Workers.runWorker thread index count size stack).1) ∧
      ∀ config : Sequential.Config, config.validate = .ok () → ∀ pauses sink, ∃ made answer,
        ToldPairs .main config.blockSize stack (Sequential.run config pauses stack sink).2.stack
          (Sequential.begunIn config pauses UInt64.size (Sequential.opened config stack sink))
          made answer ∧
        Sequential.Accounts 0
          (Sequential.begunIn config pauses UInt64.size (Sequential.opened config stack sink))
          made answer (Sequential.run config pauses stack sink).1
          (Sequential.run config pauses stack sink).2 := by
  constructor
  · intro thread index count size
    obtain ⟨begun, made, hcycles, hbegun, hall⟩ := Workers.pairs_cycles thread size count.toNat
      (Workers.announced thread index count stack)
    have hpairs := hcycles.aside (Stack.aside_emit stack ..)
    rw [Workers.runWorker_eq]
    exact ⟨begun, made, _, hpairs.told, hbegun, hall, rfl⟩
  · intro config valid pauses sink
    obtain ⟨hrun, hzero, haside⟩ := Sequential.run_of_valid valid pauses stack sink
    obtain ⟨made, answer, hloop, haccounts⟩ :=
      Sequential.pairs_loop config pauses UInt64.size (Sequential.opened config stack sink)
    rw [hzero] at haccounts
    rw [hrun]
    exact ⟨made, answer, (hloop.aside haside).told, haccounts⟩

/-- On three counting layers two blocks of a worker come and go, and a recording layer on top of
them notes both.  A sink without room ends a run in its first iteration, after the pair. -/
theorem two_pairs_are_counted_and_noted :
    (Workers.runWorker .main 0 2 16 .layered).1 = .ok 2 ∧
      Pairs .main 16 .layered (Workers.runWorker .main 0 2 16 .layered).2 2 2 (.ok ()) ∧
      (Workers.runWorker .main 0 2 16 .layered).2.Shows ⟨2, 2, 32, 0, 1⟩ ∧
      (Workers.runWorker .main 0 2 16 (Stack.layered.push (.gate .recorder))).2.noted =
        [(.main, .allocate 16 true), (.main, .release 16),
          (.main, .allocate 16 true), (.main, .release 16)] ∧
      Sequential.Config.validate ⟨16, ⟨0, 0⟩, some 2⟩ = .ok () ∧
      (Sequential.run ⟨16, ⟨0, 0⟩, some 2⟩ .quiet .layered .full).1 =
        .error (.fault (.io (.os 28))) ∧
      ∃ made answer,
        Pairs .main 16 .layered (Sequential.run ⟨16, ⟨0, 0⟩, some 2⟩ .quiet .layered .full).2.stack
          1 made answer ∧
        Sequential.Accounts 0 1 made answer
          (Sequential.run ⟨16, ⟨0, 0⟩, some 2⟩ .quiet .layered .full).1
          (Sequential.run ⟨16, ⟨0, 0⟩, some 2⟩ .quiet .layered .full).2 := by
  have valid : Sequential.Config.validate ⟨16, ⟨0, 0⟩, some 2⟩ = .ok () := by decide
  have hbegun : Sequential.begunIn ⟨16, ⟨0, 0⟩, some 2⟩ .quiet UInt64.size
      (Sequential.opened ⟨16, ⟨0, 0⟩, some 2⟩ .layered .full) = 1 := by cbv
  have hworker : (Workers.runWorker .main 0 2 16 .layered).1 = .ok 2 := by decide
  have hrecorded : (Workers.runWorker .main 0 2 16 (Stack.layered.push (.gate .recorder))).1 =
      .ok 2 := by decide
  obtain ⟨hworkers, hsequential⟩ := pairs_until_refused .layered
  obtain ⟨begun, made, answer, htold, -, hall, hresult⟩ := hworkers .main 0 2 16
  obtain ⟨begun', made', answer', htold', -, hall', hresult'⟩ :=
    (pairs_until_refused (Stack.layered.push (.gate .recorder))).1 .main 0 2 16
  obtain ⟨made'', answer'', htold'', haccounts⟩ := hsequential _ valid .quiet .full
  rw [hbegun] at htold'' haccounts
  obtain rfl : answer = .ok () := ok_of_map (hresult.symm.trans hworker)
  obtain rfl : answer' = .ok () := ok_of_map (hresult'.symm.trans hrecorded)
  obtain rfl : begun = 2 := hall rfl
  obtain rfl : begun' = 2 := hall' rfl
  obtain rfl := htold.pairs.made_eq
  obtain rfl := htold'.pairs.made_eq
  exact ⟨hworker, htold.pairs, htold.shows (.ok ()) rfl,
    htold'.noted (.ok ()) (Stack.records_recorder .layered), valid, by cbv, made'', answer'',
    htold''.pairs, haccounts⟩

end HeapFixtures
