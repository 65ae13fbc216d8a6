/-
# Sinks

A sink is described by what it does at each position of the text.  A write never crosses a
position at which something happens, so everything before it is taken.  At one position an
interruption comes first, then the refusal to take anything, then the failure.

Writing a text in full tries again after an interruption and goes on after a short
write.  Each interruption happens once, so this ends.
-/

import HeapFixtures.IoError

namespace HeapFixtures

inductive SinkCall
  | write (position : Nat)
  | flush (number : Nat)
  deriving DecidableEq

/-- A sink and what it has taken so far. -/
structure Sink where
  /-- The most characters that one write at a position takes. -/
  chunk : Nat → Nat
  /-- The positions at which a write is interrupted, each time once. -/
  interrupts : List Nat
  fullFrom : Option Nat
  failsFrom : Option Nat
  failsFlush : Option Nat
  error : IoError
  /-- Whether a call asks the run to stop. -/
  raisesStop : SinkCall → Bool
  taken : Array Char
  /-- The length of the text at each flush that succeeded. -/
  flushedAt : Array Nat
  /-- The flushes so far, failed ones included. -/
  flushes : Nat
  stopRaised : Bool

inductive WriteReply
  | accepted (count : Nat)
  | interrupted
  | failed (error : IoError)
  deriving DecidableEq

namespace Sink

def endless : Sink :=
  { chunk := fun _ => UInt64.size
    interrupts := []
    fullFrom := none
    failsFrom := none
    failsFlush := none
    error := .simple .other
    raisesStop := fun _ => false
    taken := #[]
    flushedAt := #[]
    flushes := 0
    stopRaised := false }

/-- A device without room: every write fails. -/
def full : Sink := { endless with failsFrom := some 0, error := .os 28 }

def position (sink : Sink) : Nat := sink.taken.size

/-- Takes note of a call, which may ask the run to stop. -/
def notice (sink : Sink) (call : SinkCall) : Sink :=
  { sink with stopRaised := sink.stopRaised || sink.raisesStop call }

def reached (boundary : Option Nat) (position : Nat) : Bool :=
  boundary.any (· ≤ position)

/-- How far a write of a length may go from a position without crossing a boundary that
lies ahead. -/
def reach (boundaries : List Nat) (position length : Nat) : Nat :=
  boundaries.foldl
    (fun length boundary =>
      if position < boundary then min length (boundary - position) else length)
    length

/-- How many of `length` characters the sink takes in one write, nothing being in the
way at its position. -/
def room (sink : Sink) (length : Nat) : Nat :=
  let boundaries := sink.interrupts ++ sink.fullFrom.toList ++ sink.failsFrom.toList
  min (reach boundaries sink.position length) (sink.chunk sink.position)

def take (sink : Sink) (text : List Char) : Sink :=
  { sink with taken := sink.taken ++ text.toArray }

/-- One write of a text that is not empty. -/
def write (sink : Sink) (text : List Char) : WriteReply × Sink :=
  let noticed := sink.notice (.write sink.position)
  if sink.interrupts.contains sink.position then
    (.interrupted, { noticed with interrupts := sink.interrupts.erase sink.position })
  else if reached sink.fullFrom sink.position then (.accepted 0, noticed)
  else if reached sink.failsFrom sink.position then (.failed sink.error, noticed)
  else
    let count := sink.room text.length
    (.accepted count, noticed.take (text.take count))

/-- The error of a text that a sink no longer takes. -/
def notTaken : IoError := .described .writeZero "failed to write whole buffer"

/-- An interruption uses itself up. -/
theorem length_interrupts_of_write {sink next : Sink} {text : List Char}
    (h : sink.write text = (.interrupted, next)) :
    next.interrupts.length < sink.interrupts.length := by
  unfold write at h
  split at h
  · rename_i hmem
    simp only [Prod.mk.injEq, true_and] at h
    subst h
    have hin : sink.position ∈ sink.interrupts := by simpa using hmem
    have hpos := List.length_pos_of_mem hin
    simp only [List.length_erase_of_mem hin]
    omega
  · split at h
    · simp at h
    · split at h <;> simp at h

/-- No other answer touches the interruptions. -/
theorem interrupts_of_write {sink next : Sink} {text : List Char} {count : Nat}
    (h : sink.write text = (.accepted count, next)) : next.interrupts = sink.interrupts := by
  unfold write at h
  split at h
  · simp at h
  · split at h
    · simp only [Prod.mk.injEq] at h
      rw [← h.2]
      rfl
    · split at h
      · simp at h
      · simp only [Prod.mk.injEq] at h
        rw [← h.2]
        rfl

def writeAll (sink : Sink) (text : List Char) : Except IoError Unit × Sink :=
  match text with
  | [] => (.ok (), sink)
  | c :: rest =>
    match _ : sink.write (c :: rest) with
    | (.interrupted, next) => writeAll next (c :: rest)
    | (.failed error, next) => (.error error, next)
    | (.accepted 0, next) => (.error notTaken, next)
    | (.accepted (count + 1), next) => writeAll next (rest.drop count)
termination_by (sink.interrupts.length, text.length)
decreasing_by
  · exact Prod.Lex.left _ _ (length_interrupts_of_write (by assumption))
  · rw [interrupts_of_write (by assumption)]
    refine Prod.Lex.right _ ?_
    simp only [List.length_drop, List.length_cons]
    omega

def flush (sink : Sink) : Except IoError Unit × Sink :=
  let number := sink.flushes + 1
  let flushed := { sink.notice (.flush number) with flushes := number }
  if sink.failsFlush = some number then (.error sink.error, flushed)
  else (.ok (), { flushed with flushedAt := sink.flushedAt.push sink.position })

end Sink
end HeapFixtures
