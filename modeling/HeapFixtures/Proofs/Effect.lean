/-
# What a sequential run does

A sequential run deals with its allocator, writes to its sink and flushes it.  An effect
is one of these three, and a run is a sequence of effects in the order in which they
happen.  The order between the allocator and the sink is part of it, which neither the
stack nor the sink keeps by itself.

From its effects one can tell what a run has left in the sink: the text taken, the
flushes made, and the length of the text at each flush that succeeded.
-/

import HeapFixtures.Fixture.Sequential
import HeapFixtures.Proofs.Dealing

namespace HeapFixtures

namespace Sink

variable {sink next : Sink} {reply : WriteReply} {text : List Char}

/-- A write asks the run to stop where the sink says so. -/
theorem raised_of_write (h : sink.write text = (reply, next)) :
    next.raisesStop = sink.raisesStop ∧
      next.stopRaised = (sink.stopRaised || sink.raisesStop (.write sink.position)) := by
  unfold write at h
  dsimp only at h
  repeat' split at h
  all_goals
    obtain ⟨-, rfl⟩ := Prod.mk.inj h
    exact ⟨rfl, rfl⟩

/-- A flush does, too. -/
theorem raised_flush (sink : Sink) :
    sink.flush.2.raisesStop = sink.raisesStop ∧
      sink.flush.2.stopRaised =
        (sink.stopRaised || sink.raisesStop (.flush (sink.flushes + 1))) := by
  unfold flush
  dsimp only
  split
  · exact ⟨rfl, rfl⟩
  · exact ⟨rfl, rfl⟩

end Sink

namespace Sequential

/-- One thing that a sequential run does, with the answer to it. -/
inductive Effect
  | dealing (dealing : Dealing)
  | write (text : List Char) (reply : WriteReply)
  | flush (reply : Except IoError Unit)

namespace Effect

/-- The dealing with the allocator, where the effect is one. -/
def dealing? : Effect → Option Dealing
  | .dealing made => some made
  | .write .. | .flush _ => none

/-- The text that the sink takes. -/
def accepted : Effect → List Char
  | .write text (.accepted count) => text.take count
  | _ => []

/-- Whether the effect is a flush, successful or not. -/
def isFlush : Effect → Bool
  | .flush _ => true
  | .dealing _ | .write .. => false

/-- Whether the effect is a flush that succeeds. -/
def isFlushed : Effect → Bool
  | .flush (.ok ()) => true
  | _ => false

/-- All dealings with the allocator. -/
def dealings (effects : List Effect) : List Dealing := effects.filterMap dealing?

/-- All text that the sink takes. -/
def text (effects : List Effect) : List Char := effects.flatMap accepted

/-- The number of flushes, failed ones included. -/
def flushes (effects : List Effect) : Nat := effects.countP isFlush

/-- The lengths of the text at the flushes that succeed, from a length on. -/
def flushedAt : Nat → List Effect → List Nat
  | _, [] => []
  | length, effect :: rest =>
    let further := flushedAt (length + effect.accepted.length) rest
    if effect.isFlushed then length :: further else further

/-- The calls that the sink receives, from a position and a number of flushes on. -/
def sinkCalls : Nat → Nat → List Effect → List SinkCall
  | _, _, [] => []
  | position, flushes, .dealing _ :: rest => sinkCalls position flushes rest
  | position, flushes, .write text reply :: rest =>
    .write position :: sinkCalls (position + (Effect.write text reply).accepted.length) flushes rest
  | position, flushes, .flush _ :: rest =>
    .flush (flushes + 1) :: sinkCalls position (flushes + 1) rest

section Append

variable (first rest : List Effect)

@[simp]
theorem dealings_append : dealings (first ++ rest) = dealings first ++ dealings rest :=
  List.filterMap_append

@[simp]
theorem text_append : text (first ++ rest) = text first ++ text rest :=
  List.flatMap_append

@[simp]
theorem flushes_append : flushes (first ++ rest) = flushes first + flushes rest :=
  List.countP_append

theorem flushedAt_append (length : Nat) :
    flushedAt length (first ++ rest) =
      flushedAt length first ++ flushedAt (length + (text first).length) rest := by
  induction first generalizing length with
  | nil => rfl
  | cons effect first ih =>
      have hlength : length + effect.accepted.length + (text first).length =
          length + (text (effect :: first)).length := by
        simp [text, Nat.add_assoc]
      simp only [List.cons_append, flushedAt, ih, hlength]
      split <;> rfl

end Append
end Effect

/-- What a session does from one moment to a later one.  Aside from its effects a session
writes events, counts its iterations and is asked to stop. -/
inductive Session.Acts : Session → List Effect → Session → Prop
  | nil (session : Session) : Acts session [] session
  | aside {session last : Session} {stack : Stack} {completed : UInt64}
      {effects : List Effect} (aside : session.stack.Aside stack)
      (rest : Acts ⟨stack, session.sink, completed⟩ effects last) : Acts session effects last
  | dealing {session last : Session} {stack : Stack} {dealing : Dealing}
      {effects : List Effect} (served : session.stack.Serves dealing stack)
      (rest : Acts ⟨stack, session.sink, session.completed⟩ effects last) :
      Acts session (.dealing dealing :: effects) last
  | write {session last : Session} {sink : Sink} {text : List Char} {reply : WriteReply}
      {effects : List Effect} (wrote : session.sink.write text = (reply, sink))
      (rest : Acts ⟨session.stack, sink, session.completed⟩ effects last) :
      Acts session (.write text reply :: effects) last
  | flush {session last : Session} {sink : Sink} {reply : Except IoError Unit}
      {effects : List Effect} (flushed : session.sink.flush = (reply, sink))
      (rest : Acts ⟨session.stack, sink, session.completed⟩ effects last) :
      Acts session (.flush reply :: effects) last

section Sink

variable {sink next : Sink} {text : List Char} {reply : WriteReply}

/-- One write adds to the text what its answer says, and nothing else. -/
theorem write_eq (h : sink.write text = (reply, next)) :
    next.taken.toList = sink.taken.toList ++ (Effect.write text reply).accepted ∧
      next.flushes = sink.flushes ∧ next.flushedAt = sink.flushedAt := by
  unfold Sink.write at h
  dsimp only at h
  split at h
  · simp only [Prod.mk.injEq] at h
    obtain ⟨rfl, rfl⟩ := h
    simp [Effect.accepted, Sink.notice]
  · split at h
    · simp only [Prod.mk.injEq] at h
      obtain ⟨rfl, rfl⟩ := h
      simp [Effect.accepted, Sink.notice]
    · split at h
      · simp only [Prod.mk.injEq] at h
        obtain ⟨rfl, rfl⟩ := h
        simp [Effect.accepted, Sink.notice]
      · simp only [Prod.mk.injEq] at h
        obtain ⟨rfl, rfl⟩ := h
        simp [Effect.accepted, Sink.notice, Sink.take]

/-- A flush is counted, and the length of the text is noted if it succeeds. -/
theorem flush_eq {reply : Except IoError Unit} (h : sink.flush = (reply, next)) :
    next.taken = sink.taken ∧ next.flushes = sink.flushes + 1 ∧
      next.flushedAt.toList = sink.flushedAt.toList ++
        Effect.flushedAt sink.taken.size [.flush reply] := by
  unfold Sink.flush at h
  dsimp only at h
  split at h
  · simp only [Prod.mk.injEq] at h
    obtain ⟨rfl, rfl⟩ := h
    simp [Effect.flushedAt, Effect.isFlushed, Sink.notice]
  · simp only [Prod.mk.injEq] at h
    obtain ⟨rfl, rfl⟩ := h
    simp [Effect.flushedAt, Effect.isFlushed, Sink.notice, Sink.position]

end Sink

namespace Session.Acts

variable {session after last : Session} {effects rest : List Effect}

theorem append (h : session.Acts effects after) (h' : after.Acts rest last) :
    session.Acts (effects ++ rest) last := by
  induction h with
  | nil _ => exact h'
  | aside aside _ ih => exact .aside aside (ih h')
  | dealing served _ ih => exact .dealing served (ih h')
  | write wrote _ ih => exact .write wrote (ih h')
  | flush flushed _ ih => exact .flush flushed (ih h')

/-- A session whose sink is the same, and whose stack has changed aside, has no effect. -/
theorem of_aside (aside : session.stack.Aside after.stack) (same : after.sink = session.sink) :
    session.Acts [] after := by
  obtain ⟨stack, sink, completed⟩ := after
  subst same
  exact .aside aside (.nil _)

/-- The dealings of a session are a history of its stack. -/
theorem history (h : session.Acts effects last) :
    session.stack.History (Effect.dealings effects) last.stack := by
  induction h with
  | nil session => exact .nil session.stack
  | aside aside _ ih => exact .aside aside ih
  | dealing served _ ih => exact .cons served ih
  | write _ _ ih => exact ih
  | flush _ _ ih => exact ih

/-- The text in the sink grows by what its answers say. -/
theorem taken (h : session.Acts effects last) :
    last.sink.taken.toList = session.sink.taken.toList ++ Effect.text effects := by
  induction h with
  | nil session => simp [Effect.text]
  | aside _ _ ih => exact ih
  | dealing _ _ ih => exact ih
  | write wrote _ ih =>
      rw [ih, (write_eq wrote).1, List.append_assoc]
      rfl
  | flush flushed _ ih =>
      rw [ih, (flush_eq flushed).1]
      rfl

/-- The sink counts the flushes. -/
theorem flushes (h : session.Acts effects last) :
    last.sink.flushes = session.sink.flushes + Effect.flushes effects := by
  induction h with
  | nil session => rfl
  | aside _ _ ih => exact ih
  | dealing _ _ ih => exact ih
  | write wrote _ ih =>
      rw [ih, (write_eq wrote).2.1]
      rfl
  | @flush _ _ _ reply effects flushed _ ih =>
      have hcons : Effect.flushes (.flush reply :: effects) = Effect.flushes effects + 1 :=
        List.countP_cons_of_pos rfl
      rw [ih, (flush_eq flushed).2.1, hcons]
      omega

/-- The sink notes the length of the text at each flush that succeeds. -/
theorem flushedAt (h : session.Acts effects last) :
    last.sink.flushedAt.toList = session.sink.flushedAt.toList ++
      Effect.flushedAt session.sink.taken.size effects := by
  induction h with
  | nil session => simp [Effect.flushedAt]
  | aside _ _ ih => exact ih
  | dealing _ _ ih => exact ih
  | write wrote _ ih =>
      obtain ⟨htaken, -, hflushedAt⟩ := write_eq wrote
      have hsize := congrArg List.length htaken
      rw [Array.length_toList, List.length_append, Array.length_toList] at hsize
      rw [ih, hflushedAt, hsize]
      rfl
  | flush flushed _ ih =>
      obtain ⟨htaken, -, hflushedAt⟩ := flush_eq flushed
      rw [ih, hflushedAt, htaken, List.append_assoc]
      congr 1
      exact (Effect.flushedAt_append [_] _ _).symm

/-- The sink has asked the run to stop if it had, or if one of its calls has. -/
theorem raised (h : session.Acts effects last) :
    last.sink.raisesStop = session.sink.raisesStop ∧
      last.sink.stopRaised = (session.sink.stopRaised ||
        (Effect.sinkCalls session.sink.position session.sink.flushes effects).any
          session.sink.raisesStop) := by
  induction h with
  | nil session => exact ⟨rfl, (Bool.or_false _).symm⟩
  | aside _ _ ih => exact ih
  | dealing _ _ ih => exact ih
  | @write session last sink text reply effects wrote _ ih =>
      obtain ⟨hraises, hraised⟩ := Sink.raised_of_write wrote
      obtain ⟨htaken, hflushes, -⟩ := write_eq wrote
      have hposition : sink.position =
          session.sink.position + (Effect.write text reply).accepted.length := by
        have hsize := congrArg List.length htaken
        rwa [Array.length_toList, List.length_append, Array.length_toList] at hsize
      dsimp only at ih
      rw [hposition, hflushes, hraises, hraised, Bool.or_assoc] at ih
      exact ih
  | @flush session last sink reply effects flushed _ ih =>
      obtain ⟨hraises, hraised⟩ := session.sink.raised_flush
      obtain ⟨htaken, hflushes, -⟩ := flush_eq flushed
      have hposition : sink.position = session.sink.position := congrArg Array.size htaken
      rw [flushed] at hraises hraised
      dsimp only at ih hraises hraised
      rw [hposition, hflushes, hraises, hraised, Bool.or_assoc] at ih
      exact ih

end Session.Acts

end Sequential
end HeapFixtures
