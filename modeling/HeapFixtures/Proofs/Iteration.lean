/-
# The iterations of a sequential run

An iteration is either whole, with a pair of dealings, a full line and a flush that
succeeded, or it is cut short: by a refused block, by a line that the sink did not take,
or by a failed flush.  A turn of the loop is one iteration at most, and each that is
followed by another is a whole one.

The line is written in two texts, and each of them in any number of writes, which may be
short or interrupted.
-/

import HeapFixtures.Proofs.Effect

namespace HeapFixtures
namespace Sequential

/-- The text of one iteration. -/
def line : List Char := stepLine.toList ++ "\n".toList

end Sequential

/-- The error that an answer to a write means for the text. -/
def WriteReply.Blames : WriteReply → IoError → Prop
  | .accepted count, error => count = 0 ∧ error = Sink.notTaken
  | .interrupted, _ => False
  | .failed reason, error => error = reason

namespace Sequential
namespace Effect

/-- Whether the effect is a write, whatever the answer. -/
def isWrite : Effect → Bool
  | .write .. => true
  | .dealing _ | .flush _ => false

/-- Writes that take a text between them. -/
structure Takes (text : List Char) (writes : List Effect) : Prop where
  only : ∀ effect ∈ writes, effect.isWrite = true
  text : Effect.text writes = text

/-- What an attempt to write a text in full comes to: all of it is taken, or less than
that and the last write is to blame. -/
inductive Written (text : List Char) : Except IoError Unit → List Effect → Prop
  | full {writes : List Effect} (takes : Takes text writes) : Written text (.ok ()) writes
  | broken {part : List Char} {writes : List Effect} {error : IoError} (rest : List Char)
      (reply : WriteReply) (takes : Takes part writes) (isBeginning : part <+: text)
      (isProper : part ≠ text) (blames : reply.Blames error) :
      Written text (.error error) (writes ++ [.write rest reply])

section Writes

variable {text first part : List Char} {writes front effects rest : List Effect}
  {result : Except IoError Unit} {error : IoError} {reply : WriteReply}

theorem Takes.nil : Takes [] [] := ⟨by simp, rfl⟩

theorem Takes.append (h : Takes first front) (h' : Takes text writes) :
    Takes (first ++ text) (front ++ writes) := by
  refine ⟨?_, by rw [text_append, h.text, h'.text]⟩
  intro effect heffect
  rcases List.mem_append.1 heffect with hfront | hwrites
  · exact h.only effect hfront
  · exact h'.only effect hwrites

/-- A single write takes what its answer says. -/
theorem takes_write (rest : List Char) (reply : WriteReply) :
    Takes (Effect.write rest reply).accepted [.write rest reply] := by
  refine ⟨?_, by simp [Effect.text]⟩
  intro effect heffect
  rw [List.mem_singleton.1 heffect]
  rfl

/-- An answer that is to blame for an error takes nothing. -/
theorem accepted_of_blames (h : reply.Blames error) (rest : List Char) :
    (Effect.write rest reply).accepted = [] := by
  cases reply with
  | accepted count =>
      obtain ⟨rfl, -⟩ := h
      simp [accepted]
  | interrupted => rfl
  | failed _ => rfl

/-- Writes that went well may come before an attempt. -/
theorem Written.after (h : Written text result writes) (takes : Takes first front) :
    Written (first ++ text) result (front ++ writes) := by
  cases h with
  | full h => exact .full (takes.append h)
  | broken rest reply h isBeginning isProper blames =>
      rw [← List.append_assoc]
      refine .broken rest reply (takes.append h) ?_ ?_ blames
      · exact (List.prefix_append_right_inj first).2 isBeginning
      · exact fun heq => isProper (List.append_cancel_left heq)

/-- An attempt that failed has also failed to write a longer text. -/
theorem Written.of_error (h : Written text (.error error) writes) (more : List Char) :
    Written (text ++ more) (.error error) writes := by
  cases h with
  | broken rest reply takes isBeginning isProper blames =>
      refine .broken rest reply takes (isBeginning.trans (List.prefix_append _ _)) ?_ blames
      intro heq
      apply isProper (isBeginning.eq_of_length_le _)
      simp [heq]

/-- The text of an attempt is a beginning of what was to be written. -/
theorem Written.text_begins (h : Written text result writes) : Effect.text writes <+: text := by
  cases h with
  | full takes =>
      exact ⟨[], (List.append_nil _).trans takes.text⟩
  | broken rest reply takes isBeginning isProper blames =>
      rw [text_append, takes.text]
      simpa [Effect.text, accepted_of_blames blames] using isBeginning

end Writes
end Effect

/-- What a failed call of the sink means for the run. -/
def Effect.asStop (result : Except IoError Unit) : Except Stop Unit :=
  result.mapError fun error => .fault (.io error)

section Step

open Effect

variable {session after : Session} {effects : List Effect}

/-- A sink that writes a text in full does nothing but write. -/
theorem acts_writeAll (stack : Stack) (completed : UInt64) (sink : Sink) (text : List Char) :
    ∃ writes, Session.Acts ⟨stack, sink, completed⟩ writes
        ⟨stack, (sink.writeAll text).2, completed⟩ ∧
      Written text (sink.writeAll text).1 writes := by
  fun_induction Sink.writeAll sink text with
  | case1 sink => exact ⟨[], .nil _, .full .nil⟩
  | case2 sink c rest next wrote ih =>
      obtain ⟨writes, hacts, hwritten⟩ := ih
      exact ⟨_, .write wrote hacts, hwritten.after (takes_write (c :: rest) .interrupted)⟩
  | case3 sink c rest error next wrote =>
      refine ⟨_, .write wrote (.nil _), ?_⟩
      exact .broken (c :: rest) (.failed error) .nil List.nil_prefix (by simp) rfl
  | case4 sink c rest next wrote =>
      refine ⟨_, .write wrote (.nil _), ?_⟩
      exact .broken (c :: rest) (.accepted 0) .nil List.nil_prefix (by simp) ⟨rfl, rfl⟩
  | case5 sink c rest count next wrote ih =>
      obtain ⟨writes, hacts, hwritten⟩ := ih
      refine ⟨_, .write wrote hacts, ?_⟩
      have h := hwritten.after (takes_write (c :: rest) (.accepted (count + 1)))
      simpa [accepted, List.take_append_drop] using h

/-- A session that passes on a request to stop has done nothing else. -/
theorem acts_heedSink (h : session.Acts effects after) :
    session.Acts effects after.heedSink := by
  by_cases hraised : after.sink.stopRaised = true
  · have hasked : after.Acts [] after.requestStop := .of_aside ⟨rfl, rfl, rfl⟩ rfl
    simpa [Session.heedSink, hraised] using h.append hasked
  · simpa [Session.heedSink, hraised] using h

@[simp]
theorem completed_heedSink (session : Session) :
    session.heedSink.completed = session.completed := by
  by_cases hraised : session.sink.stopRaised = true
  · simp [Session.heedSink, Session.requestStop, hraised]
  · simp [Session.heedSink, hraised]

/-- A call of the sink, and the request to stop that it may have made. -/
theorem withSink_eq (session : Session) (action : Sink → Except IoError Unit × Sink) :
    session.withSink action = (asStop (action session.sink).1,
      Session.heedSink { session with sink := (action session.sink).2 }) := by
  obtain ⟨stack, sink, completed⟩ := session
  simp only [Session.withSink]
  rcases action sink with ⟨_ | _, next⟩ <;> rfl

/-- A session that writes a text in full does nothing but write. -/
theorem acts_write (session : Session) (text : String) :
    ∃ result writes, (session.write text).1 = asStop result ∧
      session.Acts writes (session.write text).2 ∧
      (session.write text).2.completed = session.completed ∧
      Written text.toList result writes := by
  obtain ⟨writes, hacts, hwritten⟩ :=
    acts_writeAll session.stack session.completed session.sink text.toList
  rw [Session.write, withSink_eq]
  exact ⟨_, writes, rfl, acts_heedSink hacts, completed_heedSink _, hwritten⟩

/-- A session that flushes does nothing else. -/
theorem acts_flush (session : Session) :
    ∃ result, session.flush.1 = asStop result ∧
      session.Acts [.flush result] session.flush.2 ∧
      session.flush.2.completed = session.completed := by
  rw [Session.flush, withSink_eq]
  exact ⟨_, rfl, acts_heedSink (.flush rfl (.nil _)), completed_heedSink _⟩

/-- The line of an iteration is written in two parts. -/
theorem acts_writeLine (session : Session) :
    (∃ between, session.write stepLine = (.ok (), between) ∧
        ∃ result writes, (between.write "\n").1 = asStop result ∧
          session.Acts writes (between.write "\n").2 ∧
          (between.write "\n").2.completed = session.completed ∧ Written line result writes) ∨
      ∃ error after writes, session.write stepLine = (.error (.fault (.io error)), after) ∧
        session.Acts writes after ∧ after.completed = session.completed ∧
        Written line (.error error) writes := by
  obtain ⟨result, writes, hresult, hacts, hcompleted, hwritten⟩ := acts_write session stepLine
  rcases hcall : session.write stepLine with ⟨answer, between⟩
  rw [hcall] at hresult hacts hcompleted
  subst hresult
  cases result with
  | error error =>
      exact .inr ⟨error, between, writes, rfl, hacts, hcompleted, hwritten.of_error _⟩
  | ok _ =>
      obtain ⟨result, ending, hresult, hacts', hcompleted', hwritten'⟩ :=
        acts_write between "\n"
      cases hwritten with
      | full takes =>
          exact .inl ⟨between, rfl, result, writes ++ ending, hresult, hacts.append hacts',
            hcompleted'.trans hcompleted, hwritten'.after takes⟩

end Step

/-- A pair of dealings, as the effects of an iteration begin. -/
def Effect.pair (size : UInt64) (block : Block) : List Effect :=
  [.dealing (.allocate .main size (.ok block)), .dealing (.release .main block)]

/-- The effects of an iteration without a fault. -/
inductive Whole (size : UInt64) : List Effect → Prop
  | mk {writes : List Effect} (block : Block) (takes : Effect.Takes line writes) :
      Whole size (Effect.pair size block ++ (writes ++ [.flush (.ok ())]))

/-- The effects of an iteration that is cut short. -/
inductive Cut (size : UInt64) : Stop → List Effect → Prop
  /-- The allocator gave no block. -/
  | refused (stop : Stop) : Cut size stop [.dealing (.allocate .main size (.error stop))]
  /-- The sink did not take the line. -/
  | unwritten {error : IoError} {writes : List Effect} (block : Block)
      (written : Effect.Written line (.error error) writes) :
      Cut size (.fault (.io error)) (Effect.pair size block ++ writes)
  /-- The sink took the line and failed to flush it. -/
  | unflushed {writes : List Effect} (error : IoError) (block : Block)
      (takes : Effect.Takes line writes) :
      Cut size (.fault (.io error)) (Effect.pair size block ++ (writes ++ [.flush (.error error)]))

section Iteration

open Effect

variable {session : Session}

/-- A pair of dealings and what comes after it. -/
theorem acts_pair {size : UInt64} {block : Block} {between : Stack} {effects : List Effect}
    {after : Session} (h : session.stack.allocate .main size = (.ok block, between))
    (h' : Session.Acts { session with stack := between.release .main block } effects after) :
    session.Acts (pair size block ++ effects) after :=
  .dealing (.allocate h) (.dealing (.release .main block) h')

/-- An iteration is whole, or it is cut short. -/
theorem acts_step (session : Session) (size : UInt64) :
    ∃ effects, session.Acts effects (session.step size).2 ∧
      (session.step size).2.completed = session.completed ∧
      ((session.step size).1 = .ok () ∧ Whole size effects ∨
        ∃ stop, (session.step size).1 = .error stop ∧ Cut size stop effects) := by
  obtain ⟨block, between, hallocate, hpair⟩ | ⟨stop, between, hallocate, hpair⟩ :=
    session.stack.pair_eq .main size
  · rw [Session.step, hpair]
    obtain ⟨middle, hwrite, result, writes, hresult, hacts, hcompleted, hwritten⟩ |
        ⟨error, after, writes, hwrite, hacts, hcompleted, hwritten⟩ :=
      acts_writeLine { session with stack := between.release .main block }
    · simp only [hwrite]
      rcases hend : middle.write "\n" with ⟨answer, ended⟩
      rw [hend] at hresult hacts hcompleted
      subst hresult
      cases hwritten with
      | broken rest reply takes isBeginning isProper blames =>
          exact ⟨_, acts_pair hallocate hacts, hcompleted,
            .inr ⟨_, rfl, .unwritten block (.broken rest reply takes isBeginning isProper blames)⟩⟩
      | full takes =>
          obtain ⟨reply, hreply, hflush, hsame⟩ := acts_flush ended
          refine ⟨_, acts_pair hallocate (hacts.append hflush), hsame.trans hcompleted, ?_⟩
          cases reply with
          | ok _ => exact .inl ⟨hreply, .mk block takes⟩
          | error error => exact .inr ⟨_, hreply, .unflushed error block takes⟩
    · simp only [hwrite]
      exact ⟨_, acts_pair hallocate hacts, hcompleted, .inr ⟨_, rfl, .unwritten block hwritten⟩⟩
  · rw [Session.step, hpair]
    exact ⟨_, .dealing (.allocate hallocate) (.nil _), rfl, .inr ⟨stop, rfl, .refused stop⟩⟩

/-- What a signal comes to. -/
inductive Session.Receives (session : Session) : Except Stop Session → Prop
  /-- It is of the harmless sort. -/
  | ignored : Receives session (.ok session)
  /-- It is reported, and the run is asked to stop. -/
  | heeded {stack : Stack} (aside : session.stack.Aside stack)
      (asked : stack.site.stopRequested = true) :
      Receives session (.ok { session with stack := stack })
  /-- It ends the process. -/
  | ended (exit : Exit) : Receives session (.error (.exit exit))

theorem receives_receive (session : Session) (signal : Signal) :
    session.Receives (session.receive signal) := by
  unfold Session.receive
  split
  · exact .heeded ⟨rfl, rfl, rfl⟩ rfl
  · split
    · exact .ignored
    · exact .ended _

/-- What a turn of the loop comes to. -/
inductive Turned (size : UInt64) (session : Session) : Turn → Prop
  | again {next : Session} {iteration : List Effect} (whole : Whole size iteration)
      (acts : session.Acts iteration next)
      (counted : next.completed.toNat = session.completed.toNat + 1) :
      Turned size session (.again next)
  /-- The loop ends before an iteration or after it. -/
  | ended {next : Session} (cause : Cause) (iterations : List (List Effect))
      (whole : ∀ iteration ∈ iterations, Whole size iteration)
      (acts : session.Acts iterations.flatten next)
      (counted : next.completed.toNat = session.completed.toNat + iterations.length) :
      Turned size session (.ended cause next)
  | cut {next : Session} {effects : List Effect} {stop : Stop} (cut : Cut size stop effects)
      (acts : session.Acts effects next) (counted : next.completed = session.completed) :
      Turned size session (.stopped stop next)
  /-- The run is lost after an iteration without a fault. -/
  | lost {next : Session} {iteration : List Effect} {stop : Stop}
      (whole : Whole size iteration) (acts : session.Acts iteration next)
      (isLost : ∀ fault, stop ≠ .fault fault) : Turned size session (.stopped stop next)

/-- After a pause the loop ends or goes on. -/
theorem turned_paused {size : UInt64} {paused : Session} {iteration : List Effect}
    (whole : Whole size iteration) (acts : session.Acts iteration paused)
    (counted : paused.completed.toNat = session.completed.toNat + 1) :
    Turned size session
      (if paused.stopRequested then .ended .stopRequest paused else .again paused) := by
  by_cases hasked : paused.stopRequested = true
  · rw [if_pos hasked]
    exact .ended .stopRequest [iteration] (by simpa using whole) (by simpa using acts) counted
  · rw [if_neg hasked]
    exact .again whole acts counted

theorem turned_afterStep {config : Config} {pauses : Pauses} {size : UInt64}
    {after : Session} {iteration : List Effect} (whole : Whole size iteration)
    (acts : session.Acts iteration after) (same : after.completed = session.completed) :
    Turned size session (afterStep config pauses after) := by
  unfold afterStep
  split
  · exact .lost whole acts fun _ => Stop.noConfusion
  · rename_i completed hcompleted
    have hcounted : completed.toNat = session.completed.toNat + 1 := by
      rw [Word.toNat_of_add? hcompleted, same]
      rfl
    dsimp only
    generalize hemit : Session.emit { after with completed := completed } .debug "step written"
      [("iteration", .word completed)] = reported
    have haside : after.Acts [] reported := by
      rw [← hemit]
      exact .of_aside (Stack.aside_emit ..) rfl
    have hacts : session.Acts iteration reported := by simpa using acts.append haside
    have hreported : reported.completed.toNat = session.completed.toNat + 1 := by
      rw [← hemit]
      exact hcounted
    by_cases hlimit : reported.atLimit config = true
    · rw [if_pos hlimit]
      exact .ended .iterationLimit [iteration] (by simpa using whole) (by simpa using hacts)
        hreported
    · rw [if_neg hlimit]
      cases pauses completed with
      | none => exact turned_paused whole hacts hreported
      | some signal =>
          have hreceives := receives_receive reported signal
          dsimp only
          generalize reported.receive signal = answer at hreceives ⊢
          cases hreceives with
          | ignored => exact turned_paused whole hacts hreported
          | @heeded stack aside asked =>
              have haside : reported.Acts [] { reported with stack := stack } :=
                .of_aside aside rfl
              have hheeded : session.Acts iteration { reported with stack := stack } := by
                simpa using hacts.append haside
              exact turned_paused whole hheeded hreported
          | ended exit => exact .lost whole hacts fun _ => Stop.noConfusion

/-- A turn is an iteration at most. -/
theorem turned_turn (config : Config) (pauses : Pauses) (session : Session) :
    Turned config.blockSize session (turn config pauses session) := by
  unfold turn
  split
  · exact .ended _ [] (by simp) (.nil session) rfl
  · split
    · exact .ended _ [] (by simp) (.nil session) rfl
    · obtain ⟨effects, hacts, hcompleted, hstep⟩ := acts_step session config.blockSize
      rcases hcall : session.step config.blockSize with ⟨answer, after⟩
      rw [hcall] at hacts hcompleted hstep
      rcases hstep with ⟨rfl, whole⟩ | ⟨stop, rfl, cut⟩
      · exact turned_afterStep whole hacts hcompleted
      · exact .cut cut hacts hcompleted

end Iteration

end Sequential
end HeapFixtures
