/-
# Which end comes first

A sequential run without errors ends in one of two ways: it reaches its limit, or it is
asked to stop.  Four tests in each turn decide between them, and the request may come at
any moment: before the run, in a request to the allocator, in a write or a flush, or in a
pause.  What counts is only the number of iterations that have begun by then.

The course of a run is what its iterations and pauses make of a session when no test is
looked at.  A request is never taken back, so there is one first place in the course where
it shows, or none; the run ends there or at the limit, whichever comes first, and at the
limit if both come together.
-/

import HeapFixtures.Proofs.Asking
import Mathlib.Computability.Primrec.List
import Mathlib.Data.ENat.Basic
import Mathlib.Data.List.Permutation

namespace HeapFixtures
namespace Sequential

/-- The limit of a run as a number, or infinity. -/
def Config.limit (config : Config) : ℕ∞ :=
  match config.iterations with
  | none => ⊤
  | some limit => limit.toNat

/-- A session after one more iteration, counted and reported. -/
def counted (config : Config) (session : Session) : Session :=
  let after := (session.step config.blockSize).2
  let completed := after.completed + 1
  Session.emit { after with completed := completed } .debug "step written"
    [("iteration", .word completed)]

/-- A session after a pause.  A signal that ends the process is of no account here. -/
def paused (pauses : Pauses) (session : Session) : Session :=
  match pauses session.completed with
  | none => session
  | some signal => (session.receive signal).toOption.getD session

/-- The session after a number of iterations and pauses, whatever the tests of the loop
would say. -/
def course (config : Config) (pauses : Pauses) (begun : Session) : Nat → Session
  | 0 => begun
  | number + 1 => paused pauses (counted config (course config pauses begun number))

/-- No signal that arrives in a pause ends the process. -/
def Pauses.Survivable (pauses : Pauses) : Prop :=
  ∀ completed signal, pauses completed = some signal →
    signal.asksToStop = true ∨ signal.isHarmless = true

section Course

variable {config : Config} {pauses : Pauses} {begun session : Session}

/-- A pause leaves a session as it is, or asks it to stop. -/
theorem paused_eq_or (session : Session) : paused pauses session = session ∨
    ∃ stack, session.stack.Aside stack ∧ stack.site.stopRequested = true ∧
      paused pauses session = { session with stack := stack } := by
  unfold paused
  cases pauses session.completed with
  | none => exact .inl rfl
  | some signal =>
      have hreceives := receives_receive session signal
      dsimp only
      generalize session.receive signal = answer at hreceives ⊢
      cases hreceives with
      | ignored => exact .inl rfl
      | heeded aside asked => exact .inr ⟨_, aside, asked, rfl⟩
      | ended exit => exact .inl rfl

theorem asked_paused (asked : session.stopRequested = true) :
    (paused pauses session).stopRequested = true := by
  rcases paused_eq_or session with hsame | ⟨stack, -, hstack, hpaused⟩
  · rw [hsame]
    exact asked
  · rw [hpaused]
    exact hstack

/-- A request that shows in the course shows ever after. -/
theorem asked_course {number : Nat}
    (asked : (course config pauses begun number).stopRequested = true) :
    (course config pauses begun (number + 1)).stopRequested = true :=
  asked_paused (Session.asked_step (.inl asked))

theorem completed_paused (session : Session) :
    (paused pauses session).completed = session.completed := by
  rcases paused_eq_or session with hsame | ⟨stack, -, -, hpaused⟩
  · rw [hsame]
  · rw [hpaused]

theorem aside_paused (session : Session) : session.stack.Aside (paused pauses session).stack ∧
    (paused pauses session).sink = session.sink := by
  rcases paused_eq_or session with hsame | ⟨stack, haside, -, hpaused⟩
  · rw [hsame]
    exact ⟨⟨rfl, rfl, rfl⟩, rfl⟩
  · rw [hpaused]
    exact ⟨haside, rfl⟩

/-- The course counts its iterations as long as words can. -/
theorem completed_course (zero : begun.completed = 0) {number : Nat} (h : number < UInt64.size) :
    (course config pauses begun number).completed.toNat = number := by
  induction number with
  | zero => exact congrArg UInt64.toNat zero
  | succ number ih =>
      have hnumber := ih (Nat.lt_of_succ_lt h)
      have hstep := Session.completed_step (course config pauses begun number) config.blockSize
      have hcounted : (course config pauses begun (number + 1)).completed =
          (course config pauses begun number).completed + 1 := by
        show (paused pauses _).completed = _
        rw [completed_paused]
        exact congrArg (· + 1) hstep
      rw [hcounted, UInt64.toNat_add, hnumber]
      exact Nat.mod_eq_of_lt h

theorem completed_counted_course (zero : begun.completed = 0) {number : Nat}
    (room : number + 1 < UInt64.size) :
    (counted config (course config pauses begun number)).completed.toNat = number + 1 := by
  have hcourse : (course config pauses begun (number + 1)).completed.toNat = number + 1 :=
    completed_course zero room
  rw [course, completed_paused] at hcourse
  exact hcourse

theorem atLimit_iff (session : Session) :
    session.atLimit config = true ↔ config.limit ≤ session.completed.toNat := by
  simp only [Session.atLimit, Config.limit]
  cases config.iterations with
  | none => simp
  | some limit => simp [UInt64.le_iff_toNat_le]

theorem exists_receive {signal : Signal}
    (h : signal.asksToStop = true ∨ signal.isHarmless = true) (session : Session) :
    ∃ next, session.receive signal = .ok next := by
  unfold Session.receive
  by_cases hasks : signal.asksToStop = true
  · rw [if_pos hasks]
    exact ⟨_, rfl⟩
  · rw [if_neg hasks, if_pos (h.resolve_left hasks)]
    exact ⟨_, rfl⟩

/-- A turn that no test keeps from its iteration, and that meets no error. -/
theorem turn_of_running (running : session.stopRequested = false)
    (below : ¬ config.limit ≤ session.completed.toNat)
    (fine : (session.step config.blockSize).1 = .ok ()) :
    turn config pauses session = afterStep config pauses (session.step config.blockSize).2 := by
  have hlimit : ¬ session.atLimit config = true := fun h => below ((atLimit_iff session).1 h)
  unfold turn
  rw [running, if_neg Bool.false_ne_true, if_neg hlimit]
  generalize session.step config.blockSize = called at fine ⊢
  obtain ⟨answer, after⟩ := called
  have hanswer : answer = .ok () := fine
  subst hanswer
  rfl

/-- A turn that meets no error counts one iteration, and three tests decide what follows. -/
theorem turn_eq (survivable : pauses.Survivable) (running : session.stopRequested = false)
    (below : ¬ config.limit ≤ session.completed.toNat)
    (fine : (session.step config.blockSize).1 = .ok ())
    (room : session.completed.toNat + 1 < UInt64.size) :
    turn config pauses session =
      if (counted config session).atLimit config then
        .ended .iterationLimit (counted config session)
      else if (paused pauses (counted config session)).stopRequested then
        .ended .stopRequest (paused pauses (counted config session))
      else .again (paused pauses (counted config session)) := by
  have hcompleted := session.completed_step config.blockSize
  rw [turn_of_running running below fine]
  unfold counted
  generalize (session.step config.blockSize).2 = after at hcompleted ⊢
  have hadd : Word.add? after.completed 1 = some (after.completed + 1) := by
    rw [Word.add?_eq_some_iff, hcompleted]
    exact ⟨room, rfl⟩
  simp only [afterStep, hadd]
  have htallied : (Session.emit { after with completed := after.completed + 1 } .debug
      "step written" [("iteration", .word (after.completed + 1))]).completed =
        after.completed + 1 := rfl
  generalize Session.emit { after with completed := after.completed + 1 } .debug
    "step written" [("iteration", .word (after.completed + 1))] = tallied at htallied ⊢
  by_cases hend : tallied.atLimit config = true
  · rw [if_pos hend, if_pos hend]
  · rw [if_neg hend, if_neg hend]
    rw [← htallied]
    cases hpause : pauses tallied.completed with
    | none =>
        have hsame : paused pauses tallied = tallied := by
          simp only [paused, hpause]
        rw [hsame]
    | some signal =>
        obtain ⟨next, hnext⟩ := exists_receive (survivable _ _ hpause) tallied
        have hsame : paused pauses tallied = next := by
          simp only [paused, hpause, hnext]
          rfl
        rw [hsame]
        simp only [hnext]

/-- A turn that the words have no room for is the last one, and no end. -/
theorem turn_overflow (running : session.stopRequested = false)
    (below : ¬ config.limit ≤ session.completed.toNat)
    (fine : (session.step config.blockSize).1 = .ok ())
    (full : ¬ session.completed.toNat + 1 < UInt64.size) :
    ∃ last, turn config pauses session = .stopped (.panic .addOverflow) last := by
  have hcompleted := session.completed_step config.blockSize
  rw [turn_of_running running below fine]
  generalize (session.step config.blockSize).2 = after at hcompleted ⊢
  have hadd : Word.add? after.completed 1 = none := by
    rw [Word.add?, hcompleted]
    exact if_neg full
  exact ⟨after, by simp only [afterStep, hadd]⟩

/-- Turns that are followed by others only use up room. -/
theorem loop_of_again {number : Nat}
    (again : ∀ earlier < number, turn config pauses (course config pauses begun earlier) =
      .again (course config pauses begun (earlier + 1))) (room : Nat) :
    loop config pauses (number + room) begun =
      loop config pauses room (course config pauses begun number) := by
  induction number generalizing room with
  | zero =>
      rw [Nat.zero_add]
      rfl
  | succ number ih =>
      have hearlier := ih (fun earlier h => again earlier (Nat.lt_succ_of_lt h)) (room + 1)
      rw [Nat.add_assoc, Nat.add_comm 1 room, hearlier, loop,
        again number (Nat.lt_succ_self number)]

/-- The session that ends a loop, where the last of its turns says so. -/
theorem loop_of_ended {number : Nat} {cause : Cause} {last : Session}
    (again : ∀ earlier < number, turn config pauses (course config pauses begun earlier) =
      .again (course config pauses begun (earlier + 1)))
    (ended : turn config pauses (course config pauses begun number) = .ended cause last)
    (room : number < UInt64.size) :
    loop config pauses UInt64.size begun = conclude cause last := by
  obtain ⟨further, hfurther⟩ := Nat.exists_eq_add_of_lt room
  rw [hfurther, Nat.add_assoc, loop_of_again again, loop, ended]

end Course

/-- The course of a run without errors, and the number of iterations that have begun when
the run is asked to stop: infinity if it never is. -/
structure Untroubled (config : Config) (pauses : Pauses) (begun : Session) (asked : ℕ∞) :
    Prop where
  zero : begun.completed = 0
  survivable : pauses.Survivable
  asked_iff : ∀ number : ℕ, (course config pauses begun number).stopRequested = true ↔
    asked ≤ number
  /-- Every iteration that begins is finished. -/
  fine : ∀ number : ℕ, ¬ asked ≤ number → ¬ config.limit ≤ number →
    ((course config pauses begun number).step config.blockSize).1 = .ok ()

namespace Untroubled

variable {config : Config} {pauses : Pauses} {begun : Session} {asked : ℕ∞} {number : ℕ}

theorem running (h : Untroubled config pauses begun asked) (hasked : ¬ asked ≤ number) :
    (course config pauses begun number).stopRequested = false := by
  rw [← Bool.not_eq_true, h.asked_iff]
  exact hasked

/-- A turn before either end counts the iteration it has begun. -/
theorem turn_course (h : Untroubled config pauses begun asked) (hasked : ¬ asked ≤ number)
    (hlimit : ¬ config.limit ≤ number) (room : number + 1 < UInt64.size) :
    turn config pauses (course config pauses begun number) =
      if (counted config (course config pauses begun number)).atLimit config then
        .ended .iterationLimit (counted config (course config pauses begun number))
      else if (course config pauses begun (number + 1)).stopRequested then
        .ended .stopRequest (course config pauses begun (number + 1))
      else .again (course config pauses begun (number + 1)) := by
  have hcompleted : (course config pauses begun number).completed.toNat = number :=
    completed_course h.zero (Nat.lt_of_succ_lt room)
  have hbelow : ¬ config.limit ≤ (course config pauses begun number).completed.toNat := by
    rw [hcompleted]
    exact hlimit
  have hroom : (course config pauses begun number).completed.toNat + 1 < UInt64.size := by
    rw [hcompleted]
    exact room
  exact turn_eq h.survivable (h.running hasked) hbelow (h.fine number hasked hlimit) hroom

theorem atLimit_counted (h : Untroubled config pauses begun asked)
    (room : number + 1 < UInt64.size) :
    (counted config (course config pauses begun number)).atLimit config = true ↔
      config.limit ≤ (number + 1 : ℕ) := by
  rw [atLimit_iff, completed_counted_course h.zero room]

/-- Before either end one turn is followed by another. -/
theorem again (h : Untroubled config pauses begun asked) (hasked : ¬ asked ≤ (number + 1 : ℕ))
    (hlimit : ¬ config.limit ≤ (number + 1 : ℕ)) (room : number + 1 < UInt64.size) :
    turn config pauses (course config pauses begun number) =
      .again (course config pauses begun (number + 1)) := by
  have hlater : (number : ℕ∞) ≤ (number + 1 : ℕ) := Nat.cast_le.2 (Nat.le_succ number)
  have hnow : ¬ asked ≤ number := fun hle => hasked (hle.trans hlater)
  have hbelow : ¬ config.limit ≤ number := fun hle => hlimit (hle.trans hlater)
  rw [h.turn_course hnow hbelow room, if_neg (mt (h.atLimit_counted room).1 hlimit),
    if_neg (mt (h.asked_iff (number + 1)).1 hasked)]

/-- The turn in which the run is asked to stop is the last one, unless it reaches the
limit. -/
theorem ended_request (h : Untroubled config pauses begun asked)
    (hasked : asked = (number + 1 : ℕ)) (hlimit : asked < config.limit)
    (room : number + 1 < UInt64.size) :
    turn config pauses (course config pauses begun number) =
      .ended .stopRequest (course config pauses begun (number + 1)) := by
  have hnow : ¬ asked ≤ number := by
    rw [hasked, Nat.cast_le]
    exact Nat.not_succ_le_self number
  have hlater : ¬ config.limit ≤ (number + 1 : ℕ) := by
    rw [← hasked]
    exact not_le.2 hlimit
  have hbelow : ¬ config.limit ≤ number := by
    intro hle
    exact hlater (hle.trans (Nat.cast_le.2 (Nat.le_succ number)))
  rw [h.turn_course hnow hbelow room, if_neg (mt (h.atLimit_counted room).1 hlater),
    if_pos ((h.asked_iff (number + 1)).2 (le_of_eq hasked))]

/-- The turn that reaches the limit is the last one, asked to stop or not. -/
theorem ended_limit (h : Untroubled config pauses begun asked)
    (hlimit : config.limit = (number + 1 : ℕ)) (hasked : config.limit ≤ asked)
    (room : number + 1 < UInt64.size) :
    turn config pauses (course config pauses begun number) =
      .ended .iterationLimit (counted config (course config pauses begun number)) := by
  have hbelow : ¬ config.limit ≤ number := by
    rw [hlimit, Nat.cast_le]
    exact Nat.not_succ_le_self number
  have hnow : ¬ asked ≤ number := fun hle => hbelow (hasked.trans hle)
  rw [h.turn_course hnow hbelow room, if_pos ((h.atLimit_counted room).2 (le_of_eq hlimit))]

/-- Every turn is followed by another until one of the ends is near. -/
theorem again_before (h : Untroubled config pauses begun asked) (hasked : (number : ℕ∞) < asked)
    (hlimit : (number : ℕ∞) < config.limit) (room : number < UInt64.size) :
    ∀ earlier < number, turn config pauses (course config pauses begun earlier) =
      .again (course config pauses begun (earlier + 1)) := by
  intro earlier hearlier
  have hle : ((earlier + 1 : ℕ) : ℕ∞) ≤ number := Nat.cast_le.2 hearlier
  have hasked' : ¬ asked ≤ (earlier + 1 : ℕ) := not_le.2 (hle.trans_lt hasked)
  have hlimit' : ¬ config.limit ≤ (earlier + 1 : ℕ) := not_le.2 (hle.trans_lt hlimit)
  exact h.again hasked' hlimit' (Nat.lt_of_le_of_lt hearlier room)

/-- A run that is asked to stop before its limit ends with the iterations that have begun. -/
theorem loop_request (h : Untroubled config pauses begun asked) (hasked : asked = number)
    (hlimit : asked < config.limit) (room : number < UInt64.size) :
    loop config pauses UInt64.size begun =
      conclude .stopRequest (course config pauses begun number) := by
  cases number with
  | zero =>
      have hnow : begun.stopRequested = true := (h.asked_iff 0).2 (le_of_eq hasked)
      have hturn : turn config pauses (course config pauses begun 0) =
          .ended .stopRequest (course config pauses begun 0) := if_pos hnow
      exact loop_of_ended (fun earlier hearlier => absurd hearlier (Nat.not_lt_zero earlier))
        hturn room
  | succ number =>
      have hlt : (number : ℕ∞) < asked := by
        rw [hasked]
        exact Nat.cast_lt.2 (Nat.lt_succ_self number)
      have hagain := h.again_before hlt (hlt.trans hlimit) (Nat.lt_of_succ_lt room)
      exact loop_of_ended hagain (h.ended_request hasked hlimit room) (Nat.lt_of_succ_lt room)

/-- A run that reaches its limit ends there. -/
theorem loop_limit (h : Untroubled config pauses begun asked)
    (hlimit : config.limit = (number + 1 : ℕ)) (hasked : config.limit ≤ asked)
    (room : number + 1 < UInt64.size) :
    loop config pauses UInt64.size begun =
      conclude .iterationLimit (counted config (course config pauses begun number)) := by
  have hlt : (number : ℕ∞) < config.limit := by
    rw [hlimit]
    exact Nat.cast_lt.2 (Nat.lt_succ_self number)
  have hagain := h.again_before (hlt.trans_le hasked) hlt (Nat.lt_of_succ_lt room)
  exact loop_of_ended hagain (h.ended_limit hlimit hasked room) (Nat.lt_of_succ_lt room)

/-- A run without any end goes on until words no longer count its iterations. -/
theorem loop_endless (h : Untroubled config pauses begun asked) (hlimit : config.limit = ⊤)
    (hasked : (UInt64.size : ℕ∞) ≤ asked) :
    ∃ last, loop config pauses UInt64.size begun = (.error (.panic .addOverflow), last) := by
  obtain ⟨number, hsize⟩ : ∃ number, UInt64.size = number + 1 := ⟨UInt64.size - 1, rfl⟩
  have hroom : number < UInt64.size := by
    rw [hsize]
    exact Nat.lt_succ_self number
  have hlt : (number : ℕ∞) < asked := (Nat.cast_lt.2 hroom).trans_le hasked
  have hbelow : (number : ℕ∞) < config.limit := by
    rw [hlimit]
    exact ENat.natCast_lt_top number
  have hcompleted : (course config pauses begun number).completed.toNat = number :=
    completed_course h.zero hroom
  have hopen : ¬ config.limit ≤ (course config pauses begun number).completed.toNat := by
    rw [hcompleted]
    exact not_le.2 hbelow
  have hfull : ¬ (course config pauses begun number).completed.toNat + 1 < UInt64.size := by
    rw [hcompleted, hsize]
    exact Nat.lt_irrefl (number + 1)
  obtain ⟨last, hlast⟩ := turn_overflow (h.running (not_le.2 hlt)) hopen
    (h.fine number (not_le.2 hlt) (not_le.2 hbelow)) hfull
  use last
  rw [hsize, loop_of_again (h.again_before hlt hbelow hroom), loop, hlast]

end Untroubled

/-- How a run ends that meets no error and was asked to stop after a number of iterations
had begun. -/
structure EndsAt (config : Config) (pauses : Pauses) (begun : Session) (asked : ℕ∞)
    (result : Except Stop Summary) (last : Session) : Prop where
  /-- Asked to stop before the limit, it ends with the iterations that have begun. -/
  onRequest : ∀ count : UInt64, asked = count.toNat → asked < config.limit →
    result = .ok ⟨count, .stopRequest⟩ ∧ last.stopRequested = true
  /-- Otherwise it ends at the limit, asked to stop in the last iteration or not. -/
  atLimit : ∀ limit, config.iterations = some limit → (limit.toNat : ℕ∞) ≤ asked →
    result = .ok ⟨limit, .iterationLimit⟩
  /-- Without a limit and without a request that a word can number, one turn follows another
  as long as words count them, and nothing is returned. -/
  endless : config.iterations = none → (UInt64.size : ℕ∞) ≤ asked →
    (∀ number, number + 1 < UInt64.size →
        turn config pauses (course config pauses begun number) =
          .again (course config pauses begun (number + 1))) ∧
      result = .error (.panic .addOverflow)
  /-- What is left is the work of whole iterations, as many as are reported. -/
  finished : ∀ summary, result = .ok summary →
    (course config pauses begun summary.iterations.toNat).stack.Aside last.stack ∧
      last.sink = (course config pauses begun summary.iterations.toNat).sink
  /-- Without a limit only a request ends the run. -/
  unlimited : config.iterations = none → ∀ summary, result = .ok summary →
    summary.cause = .stopRequest ∧ last.stopRequested = true
  /-- With a limit the count never leaves the words. -/
  limited : config.iterations ≠ none → ∃ summary, result = .ok summary

theorem limit_eq_top {config : Config} (h : config.iterations = none) : config.limit = ⊤ := by
  simp only [Config.limit, h]

theorem limit_eq_toNat {config : Config} {limit : UInt64} (h : config.iterations = some limit) :
    config.limit = limit.toNat := by
  simp only [Config.limit, h]

section EndsAt

variable {config : Config} {pauses : Pauses} {begun : Session} {asked : ℕ∞}

theorem not_size_le {count : UInt64} : ¬ (UInt64.size : ℕ∞) ≤ count.toNat := by
  rw [Nat.cast_le]
  exact Nat.not_le_of_lt count.toNat_lt

theorem exists_word (h : ¬ (UInt64.size : ℕ∞) ≤ asked) :
    ∃ count : UInt64, asked = count.toNat := by
  have hfinite : asked ≠ ⊤ := by
    intro htop
    rw [htop] at h
    exact h le_top
  obtain ⟨number, rfl⟩ := ENat.ne_top_iff_exists.1 hfinite
  rw [Nat.cast_le, Nat.not_le] at h
  use UInt64.ofNat number
  rw [UInt64.toNat_ofNat_of_lt' h]

theorem endsAt_request (h : Untroubled config pauses begun asked) {count : UInt64}
    (hasked : asked = count.toNat) (hlimit : asked < config.limit) :
    EndsAt config pauses begun asked (loop config pauses UInt64.size begun).1
      (loop config pauses UInt64.size begun).2 := by
  have hcompleted : (course config pauses begun count.toNat).completed = count :=
    UInt64.toNat_inj.1 (completed_course h.zero count.toNat_lt)
  have hstopped : (course config pauses begun count.toNat).stopRequested = true :=
    (h.asked_iff count.toNat).2 (le_of_eq hasked)
  have hresult : (conclude .stopRequest (course config pauses begun count.toNat)).1 =
      .ok ⟨count, .stopRequest⟩ := by
    rw [conclude, hcompleted]
  rw [h.loop_request hasked hlimit count.toNat_lt, hresult]
  constructor
  case onRequest =>
    intro other hother _
    rw [hasked, Nat.cast_inj, UInt64.toNat_inj] at hother
    rw [← hother]
    exact ⟨rfl, hstopped⟩
  case atLimit =>
    intro limit hsome hle
    rw [limit_eq_toNat hsome] at hlimit
    exact absurd hlimit (not_lt.2 hle)
  case endless =>
    intro _ hle
    rw [hasked] at hle
    exact absurd hle not_size_le
  case finished =>
    intro summary hsummary
    obtain rfl := Except.ok.inj hsummary
    exact ⟨Stack.aside_emit .., rfl⟩
  case unlimited =>
    intro _ summary hsummary
    obtain rfl := Except.ok.inj hsummary
    exact ⟨rfl, hstopped⟩
  case limited =>
    intro _
    exact ⟨_, rfl⟩

theorem endsAt_limit (h : Untroubled config pauses begun asked) {limit : UInt64}
    (hsome : config.iterations = some limit) (positive : limit ≠ 0)
    (hasked : config.limit ≤ asked) :
    EndsAt config pauses begun asked (loop config pauses UInt64.size begun).1
      (loop config pauses UInt64.size begun).2 := by
  have hlimit := limit_eq_toNat hsome
  have hpositive : limit.toNat ≠ 0 := fun hzero => positive (UInt64.toNat_inj.1 hzero)
  obtain ⟨number, hnumber⟩ := Nat.exists_eq_add_one_of_ne_zero hpositive
  have hroom : number + 1 < UInt64.size := hnumber ▸ limit.toNat_lt
  have hsession : (course config pauses begun limit.toNat) =
      paused pauses (counted config (course config pauses begun number)) := by
    rw [hnumber, course]
  have hcompleted : (counted config (course config pauses begun number)).completed = limit := by
    have hcourse : (course config pauses begun limit.toNat).completed.toNat = limit.toNat :=
      completed_course h.zero limit.toNat_lt
    rw [hsession, completed_paused] at hcourse
    exact UInt64.toNat_inj.1 hcourse
  have hresult : (conclude .iterationLimit (counted config (course config pauses begun number))).1 =
      .ok ⟨limit, .iterationLimit⟩ := by
    rw [conclude, hcompleted]
  rw [h.loop_limit (hlimit.trans (congrArg Nat.cast hnumber)) hasked hroom, hresult]
  constructor
  case onRequest =>
    intro count _ hlt
    exact absurd hlt (not_lt.2 hasked)
  case atLimit =>
    intro other hother _
    rw [hsome] at hother
    rw [Option.some.inj hother]
  case endless =>
    intro hnone
    rw [hsome] at hnone
    cases hnone
  case finished =>
    intro summary hsummary
    obtain rfl := Except.ok.inj hsummary
    obtain ⟨⟨hlayers, hheap, hcalls⟩, hsink⟩ :
        _ ∧ (course config pauses begun limit.toNat).sink = _ :=
      hsession ▸ aside_paused (counted config (course config pauses begun number))
    exact ⟨⟨hlayers.symm, hheap.symm, hcalls.symm⟩, hsink.symm⟩
  case unlimited =>
    intro hnone
    rw [hsome] at hnone
    cases hnone
  case limited =>
    intro _
    exact ⟨_, rfl⟩

theorem endsAt_endless (h : Untroubled config pauses begun asked)
    (hnone : config.iterations = none) (hasked : (UInt64.size : ℕ∞) ≤ asked) :
    EndsAt config pauses begun asked (loop config pauses UInt64.size begun).1
      (loop config pauses UInt64.size begun).2 := by
  have hlimit := limit_eq_top hnone
  obtain ⟨last, hloop⟩ := h.loop_endless hlimit hasked
  rw [hloop]
  constructor
  case onRequest =>
    intro count hcount _
    rw [hcount] at hasked
    exact absurd hasked not_size_le
  case atLimit =>
    intro limit hsome
    rw [hnone] at hsome
    cases hsome
  case endless =>
    intro _ _
    refine ⟨?_, rfl⟩
    intro number hroom
    have hlt : ((number + 1 : ℕ) : ℕ∞) < asked := (Nat.cast_lt.2 hroom).trans_le hasked
    have hopen : ¬ config.limit ≤ (number + 1 : ℕ) := by
      rw [hlimit]
      exact not_le.2 (ENat.natCast_lt_top (number + 1))
    exact h.again (not_le.2 hlt) hopen hroom
  case finished =>
    intro summary hsummary
    cases hsummary
  case unlimited =>
    intro _ summary hsummary
    cases hsummary
  case limited =>
    intro hsome
    exact absurd hnone hsome

/-- The limit and the request decide between them how a run ends that meets no error. -/
theorem endsAt_of_untroubled (valid : config.iterations ≠ some 0)
    (h : Untroubled config pauses begun asked) :
    EndsAt config pauses begun asked (loop config pauses UInt64.size begun).1
      (loop config pauses UInt64.size begun).2 := by
  cases hiterations : config.iterations with
  | none =>
      by_cases hasked : (UInt64.size : ℕ∞) ≤ asked
      · exact endsAt_endless h hiterations hasked
      · obtain ⟨count, hcount⟩ := exists_word hasked
        apply endsAt_request h hcount
        rw [limit_eq_top hiterations, hcount]
        exact ENat.natCast_lt_top count.toNat
  | some limit =>
      have positive : limit ≠ 0 := fun hzero => valid (hzero ▸ hiterations)
      by_cases hasked : config.limit ≤ asked
      · exact endsAt_limit h hiterations positive hasked
      · have hword : ¬ (UInt64.size : ℕ∞) ≤ asked := by
          intro hle
          have hlt := hle.trans_lt (not_le.1 hasked)
          rw [limit_eq_toNat hiterations] at hlt
          exact not_size_le hlt.le
        obtain ⟨count, hcount⟩ := exists_word hword
        exact endsAt_request h hcount (not_le.1 hasked)

end EndsAt

/-- What holds ever after it first holds has a first place, perhaps at infinity. -/
theorem exists_first {holds : ℕ → Prop} (after : ∀ number, holds number → holds (number + 1)) :
    ∃ first : ℕ∞, ∀ number : ℕ, holds number ↔ first ≤ number := by
  classical
  by_cases hever : ∃ number, holds number
  · use (Nat.find hever : ℕ)
    intro number
    rw [Nat.cast_le]
    constructor
    · exact Nat.find_min' hever
    · intro hle
      exact Nat.le_induction (Nat.find_spec hever) (fun later _ => after later) number hle
  · use ⊤
    intro number
    constructor
    · intro hnumber
      exact absurd ⟨number, hnumber⟩ hever
    · intro htop
      exact absurd htop (not_le.2 (ENat.natCast_lt_top number))

/-- What asks the run to stop in an iteration, or in the pause after it. -/
inductive Asks (config : Config) (pauses : Pauses) (session : Session) : Prop
  /-- A gate that the request to the allocator reaches. -/
  | gate (asks : Stack.gatesAsk .main config.blockSize session.stack.layers = true)
  /-- A call that the sink receives. -/
  | sink {effects : List Effect} (acts : session.Acts effects (session.step config.blockSize).2)
      {call : SinkCall}
      (mem : call ∈ Effect.sinkCalls session.sink.position session.sink.flushes effects)
      (raises : session.sink.raisesStop call = true)
  /-- A signal that arrives in the pause. -/
  | signal {signal : Signal} (arrives : pauses (session.completed + 1) = some signal)
      (asks : signal.asksToStop = true)

section Asks

variable {config : Config} {pauses : Pauses} {begun session : Session}

theorem asked_paused_iff (session : Session) :
    (paused pauses session).stopRequested = true ↔ session.stopRequested = true ∨
      ∃ signal, pauses session.completed = some signal ∧ signal.asksToStop = true := by
  unfold paused
  cases pauses session.completed with
  | none => simp
  | some signal =>
      dsimp only
      unfold Session.receive
      by_cases asks : signal.asksToStop = true
      · rw [if_pos asks]
        exact iff_of_true rfl (.inr ⟨signal, rfl, asks⟩)
      · rw [if_neg asks]
        split <;> simp [Except.toOption, asks]

theorem asked_counted (session : Session) :
    (counted config session).stopRequested = (session.step config.blockSize).2.stopRequested := rfl

theorem completed_counted (session : Session) :
    (counted config session).completed = session.completed + 1 :=
  congrArg (· + 1) (session.completed_step config.blockSize)

/-- An iteration and its pause ask the run to stop for one of three reasons. -/
theorem asked_paused_counted_iff (heeded : session.Heeded) :
    (paused pauses (counted config session)).stopRequested = true ↔
      session.stopRequested = true ∨ Asks config pauses session := by
  rw [asked_paused_iff, asked_counted, heeded.asked_step_iff, completed_counted]
  constructor
  · rintro ((asked | gates | ⟨effects, acts, call, mem, raises⟩) | ⟨signal, arrives, asks⟩)
    · exact .inl asked
    · exact .inr (.gate gates)
    · exact .inr (.sink acts mem raises)
    · exact .inr (.signal arrives asks)
  · rintro (asked | gates | ⟨acts, mem, raises⟩ | ⟨arrives, asks⟩)
    · exact .inl (.inl asked)
    · exact .inl (.inr (.inl gates))
    · exact .inl (.inr (.inr ⟨_, acts, _, mem, raises⟩))
    · exact .inr ⟨_, arrives, asks⟩

theorem heeded_course (heeded : begun.Heeded) (number : ℕ) :
    (course config pauses begun number).Heeded := by
  induction number with
  | zero => exact heeded
  | succ number ih =>
      intro raised
      have hsink : (course config pauses begun (number + 1)).sink =
          (counted config (course config pauses begun number)).sink := (aside_paused _).2
      rw [hsink] at raised
      exact asked_paused (ih.step config.blockSize raised)

/-- A run has been asked to stop when a number of iterations had begun if it was asked before the
first one, or in one of these iterations. -/
theorem asked_course_iff (heeded : begun.Heeded) (number : ℕ) :
    (course config pauses begun number).stopRequested = true ↔
      begun.stopRequested = true ∨
        ∃ earlier < number, Asks config pauses (course config pauses begun earlier) := by
  induction number with
  | zero => simp [course]
  | succ number ih =>
      rw [course, asked_paused_counted_iff (heeded_course heeded number), ih, or_assoc]
      refine or_congr_right ⟨?_, ?_⟩
      · rintro (⟨earlier, hlt, asks⟩ | asks)
        · exact ⟨earlier, Nat.lt_succ_of_lt hlt, asks⟩
        · exact ⟨number, Nat.lt_succ_self number, asks⟩
      · rintro ⟨earlier, hlt, asks⟩
        rcases Nat.lt_succ_iff_lt_or_eq.1 hlt with hlt | rfl
        · exact .inl ⟨earlier, hlt, asks⟩
        · exact .inr asks

end Asks

/-- The session with which a run begins. -/
def opened (config : Config) (stack : Stack) (sink : Sink) : Session :=
  (start config stack sink).toOption.getD ⟨stack, sink, 0⟩

theorem start_of_valid {config : Config} (valid : config.validate = .ok ()) (stack : Stack)
    (sink : Sink) : start config stack sink = .ok (opened config stack sink) ∧
      (opened config stack sink).completed = 0 := by
  simp only [opened, start, valid]
  exact ⟨rfl, rfl⟩

theorem opened_eq (config : Config) (stack : Stack) (sink : Sink) :
    (opened config stack sink).sink = sink ∧
      (opened config stack sink).stopRequested = stack.site.stopRequested := by
  unfold opened start
  split <;> exact ⟨rfl, rfl⟩

/-- The iterations that have begun when a run is asked to stop: none if it was asked before the
first one, and else those up to the first in which a gate, the sink or a signal asks. -/
theorem asked_le_iff {config : Config} {pauses : Pauses} {stack : Stack} {sink : Sink}
    (fresh : sink.stopRaised = false) {asked : ℕ∞}
    (hasked : ∀ number : ℕ,
      (course config pauses (opened config stack sink) number).stopRequested = true ↔
        asked ≤ number) (number : ℕ) :
    asked ≤ number ↔ stack.site.stopRequested = true ∨
      ∃ earlier < number,
        Asks config pauses (course config pauses (opened config stack sink) earlier) := by
  obtain ⟨hsink, hstopped⟩ := opened_eq config stack sink
  have heeded : (opened config stack sink).Heeded := by
    intro raised
    rw [hsink, fresh] at raised
    cases raised
  rw [← hasked, asked_course_iff heeded, hstopped]

theorem iterations_ne_zero {config : Config} (valid : config.validate = .ok ()) :
    config.iterations ≠ some 0 := by
  intro hzero
  rw [Config.validate, if_pos hzero] at valid
  split at valid
  · cases valid
  · cases valid

/-- A run whose iterations meet no error and whose signals do not end the process ends with
the iterations that have begun when it is asked to stop, or with its limit, whichever comes
first; at the limit if both come together. -/
theorem run_ends_at_first {config : Config} (valid : config.validate = .ok ())
    {pauses : Pauses} (survivable : pauses.Survivable) (stack : Stack) (sink : Sink)
    (fine : ∀ number : ℕ,
      (course config pauses (opened config stack sink) number).stopRequested = false →
        ¬ config.limit ≤ number →
          ((course config pauses (opened config stack sink) number).step config.blockSize).1 =
            .ok ()) :
    ∃ asked : ℕ∞,
      (∀ number : ℕ,
        (course config pauses (opened config stack sink) number).stopRequested = true ↔
          asked ≤ number) ∧
      EndsAt config pauses (opened config stack sink) asked (run config pauses stack sink).1
        (run config pauses stack sink).2 := by
  obtain ⟨hstart, hzero⟩ := start_of_valid valid stack sink
  have hrun : run config pauses stack sink =
      loop config pauses UInt64.size (opened config stack sink) := by
    rw [run, hstart]
  rw [hrun]
  generalize opened config stack sink = begun at fine hzero ⊢
  have hafter : ∀ number, (course config pauses begun number).stopRequested = true →
      (course config pauses begun (number + 1)).stopRequested = true := fun _ => asked_course
  obtain ⟨asked, hasked⟩ := exists_first hafter
  have huntroubled : Untroubled config pauses begun asked := by
    refine ⟨hzero, survivable, hasked, ?_⟩
    intro number hnot
    apply fine number
    rw [← Bool.not_eq_true, hasked]
    exact hnot
  exact ⟨asked, hasked, endsAt_of_untroubled (iterations_ne_zero valid) huntroubled⟩

/-- A signal in the pause after an iteration, and none in all others. -/
def Pauses.once (iteration : UInt64) (signal : Signal) : Pauses := fun completed =>
  if completed = iteration then some signal else none

/-- A run of three iterations at most is interrupted after the second. -/
theorem run_ends_at_interrupt :
    Config.validate ⟨16, ⟨0, 0⟩, some 3⟩ = .ok () ∧
      (Pauses.once 2 .interrupt).Survivable ∧
      (∀ number < 3, ((course ⟨16, ⟨0, 0⟩, some 3⟩ (.once 2 .interrupt)
        (opened ⟨16, ⟨0, 0⟩, some 3⟩ .layered .endless) number).step 16).1 = .ok ()) ∧
      (run ⟨16, ⟨0, 0⟩, some 3⟩ (.once 2 .interrupt) .layered .endless).1 =
        .ok ⟨2, .stopRequest⟩ ∧
      ∃ asked : ℕ∞,
        (∀ number : ℕ, (course ⟨16, ⟨0, 0⟩, some 3⟩ (.once 2 .interrupt)
          (opened ⟨16, ⟨0, 0⟩, some 3⟩ .layered .endless) number).stopRequested = true ↔
            asked ≤ number) ∧
        EndsAt ⟨16, ⟨0, 0⟩, some 3⟩ (.once 2 .interrupt)
          (opened ⟨16, ⟨0, 0⟩, some 3⟩ .layered .endless) asked
          (run ⟨16, ⟨0, 0⟩, some 3⟩ (.once 2 .interrupt) .layered .endless).1
          (run ⟨16, ⟨0, 0⟩, some 3⟩ (.once 2 .interrupt) .layered .endless).2 := by
  have valid : Config.validate ⟨16, ⟨0, 0⟩, some 3⟩ = .ok () := by decide
  have survivable : (Pauses.once 2 .interrupt).Survivable := by
    intro completed signal hsignal
    simp only [Pauses.once] at hsignal
    split at hsignal
    · obtain rfl := Option.some.inj hsignal
      exact .inl (by decide)
    · cases hsignal
  have fine : ∀ number < 3, ((course ⟨16, ⟨0, 0⟩, some 3⟩ (.once 2 .interrupt)
      (opened ⟨16, ⟨0, 0⟩, some 3⟩ .layered .endless) number).step 16).1 = .ok () := by
    intro number hnumber
    have hcases : number = 0 ∨ number = 1 ∨ number = 2 := by omega
    rcases hcases with rfl | rfl | rfl
    · cbv
    · cbv
    · cbv
  refine ⟨valid, survivable, fine, by cbv, run_ends_at_first valid survivable _ _ ?_⟩
  intro number _ hlimit
  apply fine number
  rw [limit_eq_toNat rfl, Nat.cast_le] at hlimit
  exact Nat.lt_of_not_le hlimit

end Sequential
end HeapFixtures
