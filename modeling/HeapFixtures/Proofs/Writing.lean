/-
# Writes in pieces

A text that is written in full goes into the sink piece by piece, as much at a time as the sink
takes, and a piece that was interrupted is tried again.  What comes of it does not depend on the
pieces: it is the same as if the sink had been given one character at a time and had either taken
it or turned it down for good.

A sink turns a character down where it takes nothing any more, and where it fails.  At a position
where it would do both it takes nothing, which has an error of its own.
-/

import HeapFixtures.Sink
import Mathlib.Data.List.Basic

namespace HeapFixtures
namespace Sink

/-- A sink without the things that decide how a text is cut into pieces, and without those that
ask the run to stop. -/
def shown (sink : Sink) : Sink :=
  { sink with
    chunk := fun _ => 1
    interrupts := []
    raisesStop := fun _ => false
    stopRaised := false }

@[simp]
theorem taken_shown (sink : Sink) : sink.shown.taken = sink.taken := rfl

@[simp]
theorem flushes_shown (sink : Sink) : sink.shown.flushes = sink.flushes := rfl

@[simp]
theorem flushedAt_shown (sink : Sink) : sink.shown.flushedAt = sink.flushedAt := rfl

/-- A sink of which every write that is not turned down takes at least a character. -/
def Willing (sink : Sink) : Prop := ∀ position, 0 < sink.chunk position

theorem Willing.of_chunk {sink next : Sink} (willing : sink.Willing)
    (same : next.chunk = sink.chunk) : next.Willing := by
  intro position
  rw [same]
  exact willing position

/-- The error of a character that the sink turns down at a position. -/
def obstacle? (sink : Sink) (position : Nat) : Option IoError :=
  if reached sink.fullFrom position then some notTaken
  else if reached sink.failsFrom position then some sink.error
  else none

/-- Writes one character after the other, up to the first that is turned down. -/
def put (sink : Sink) : List Char → Except IoError Unit × Sink
  | [] => (.ok (), sink)
  | c :: rest =>
    match sink.obstacle? sink.position with
    | some error => (.error error, sink)
    | none => (sink.take [c]).put rest

section Put

variable {sink : Sink} {text part rest : List Char} {error : IoError}

@[simp]
theorem position_take (sink : Sink) (text : List Char) :
    (sink.take text).position = sink.position + text.length := by
  simp [take, position]

@[simp]
theorem obstacle?_take (sink : Sink) (text : List Char) :
    (sink.take text).obstacle? = sink.obstacle? := rfl

theorem take_nil (sink : Sink) : sink.take [] = sink := by
  simp [take]

theorem take_take (sink : Sink) (part rest : List Char) :
    (sink.take part).take rest = sink.take (part ++ rest) := by
  simp [take, Array.append_assoc]

theorem put_of_turned_down (h : sink.obstacle? sink.position = some error) (c : Char)
    (rest : List Char) : sink.put (c :: rest) = (.error error, sink) := by
  rw [put, h]

/-- A text may be put in two parts, the second after the first. -/
theorem put_append (sink : Sink) (part rest : List Char) :
    sink.put (part ++ rest) =
      match sink.put part with
      | (.ok (), next) => next.put rest
      | (.error error, next) => (.error error, next) := by
  induction part generalizing sink with
  | nil => rfl
  | cons c part ih =>
      rw [List.cons_append, put, put]
      cases sink.obstacle? sink.position with
      | none => exact ih (sink.take [c])
      | some error => rfl

/-- What follows the beginning of a text is put after it. -/
theorem put_of_part {count : Nat} {next : Sink}
    (h : sink.put (text.take count) = (.ok (), next)) :
    sink.put text = next.put (text.drop count) := by
  have happend := put_append sink (text.take count) (text.drop count)
  rw [List.take_append_drop, h] at happend
  exact happend

/-- A text whose characters are not turned down is taken. -/
theorem put_of_clear (clear : ∀ i < text.length, sink.obstacle? (sink.position + i) = none) :
    sink.put text = (.ok (), sink.take text) := by
  induction text generalizing sink with
  | nil => rw [take_nil, put]
  | cons c rest ih =>
      have hfirst : sink.obstacle? sink.position = none := clear 0 (Nat.succ_pos _)
      have hrest := @ih (sink.take [c]) fun i hi => by
        have hnext := clear (i + 1) (Nat.succ_lt_succ hi)
        rw [position_take, obstacle?_take, List.length_singleton, Nat.add_assoc, Nat.add_comm 1]
        exact hnext
      rw [put, hfirst, hrest, take_take]
      rfl

/-- A text is taken up to the first character that is turned down. -/
theorem put_of_obstacle {count : Nat} (within : count < text.length)
    (clear : ∀ i < count, sink.obstacle? (sink.position + i) = none)
    (obstacle : sink.obstacle? (sink.position + count) = some error) :
    sink.put text = (.error error, sink.take (text.take count)) := by
  have hlength : (text.take count).length = count :=
    List.length_take_of_le (Nat.le_of_lt within)
  have htaken : sink.put (text.take count) = (.ok (), sink.take (text.take count)) := by
    apply put_of_clear
    rw [hlength]
    exact clear
  have hdown : (sink.take (text.take count)).obstacle?
      (sink.take (text.take count)).position = some error := by
    rw [position_take, obstacle?_take, hlength]
    exact obstacle
  rw [put_of_part htaken, List.drop_eq_getElem_cons within]
  exact put_of_turned_down hdown _ _

end Put

section Reach

variable {boundaries : List Nat} {position length boundary : Nat}

theorem reach_cons (boundary : Nat) (boundaries : List Nat) (position length : Nat) :
    reach (boundary :: boundaries) position length =
      reach boundaries position
        (if position < boundary then min length (boundary - position) else length) := rfl

theorem reach_le_length (boundaries : List Nat) (position length : Nat) :
    reach boundaries position length ≤ length := by
  induction boundaries generalizing length with
  | nil => exact Nat.le_refl length
  | cons boundary boundaries ih =>
      rw [reach_cons]
      refine Nat.le_trans (ih _) ?_
      split
      · exact Nat.min_le_left ..
      · exact Nat.le_refl length

/-- A write does not cross a boundary. -/
theorem reach_le (h : boundary ∈ boundaries) (ahead : position < boundary) :
    reach boundaries position length ≤ boundary - position := by
  induction boundaries generalizing length with
  | nil => cases h
  | cons first boundaries ih =>
      rw [reach_cons]
      rcases List.mem_cons.1 h with rfl | hrest
      · rw [if_pos ahead]
        exact Nat.le_trans (reach_le_length ..) (Nat.min_le_right ..)
      · exact ih hrest

/-- A write goes as far as the next character. -/
theorem reach_pos (boundaries : List Nat) (position : Nat) (positive : 0 < length) :
    0 < reach boundaries position length := by
  induction boundaries generalizing length with
  | nil => exact positive
  | cons boundary boundaries ih =>
      rw [reach_cons]
      apply ih
      split
      · omega
      · exact positive

end Reach

section Write

variable {sink next : Sink} {text : List Char} {reply : WriteReply}

/-- What one write comes to.  The characters that it takes are not turned down. -/
inductive Writes (sink : Sink) (text : List Char) : WriteReply → Sink → Prop
  | interrupted {next : Sink} (same : next.shown = sink.shown) :
      Writes sink text .interrupted next
  | full {next : Sink} (obstacle : sink.obstacle? sink.position = some notTaken)
      (same : next.shown = sink.shown) : Writes sink text (.accepted 0) next
  | failed {next : Sink} (obstacle : sink.obstacle? sink.position = some sink.error)
      (same : next.shown = sink.shown) : Writes sink text (.failed sink.error) next
  | taken {count : Nat} {next : Sink} (positive : 0 < count) (within : count ≤ text.length)
      (clear : ∀ i < count, sink.obstacle? (sink.position + i) = none)
      (shows : next.shown = sink.shown.take (text.take count)) :
      Writes sink text (.accepted count) next

/-- A boundary that lies ahead is not reached within a write. -/
theorem not_reached_of_room {boundary? : Option Nat} {i length : Nat}
    (among : ∀ boundary ∈ boundary?,
      boundary ∈ sink.interrupts ++ sink.fullFrom.toList ++ sink.failsFrom.toList)
    (ahead : reached boundary? sink.position = false) (within : i < sink.room length) :
    reached boundary? (sink.position + i) = false := by
  cases boundary? with
  | none => rfl
  | some boundary =>
      have hlt : sink.position < boundary := by simpa [reached] using ahead
      have hreach := @reach_le _ _ length _ (among boundary rfl) hlt
      have hroom : sink.room length ≤ boundary - sink.position :=
        Nat.le_trans (Nat.min_le_left ..) hreach
      simp only [reached, Option.any_some, decide_eq_false_iff_not]
      omega

theorem writes_of_write (willing : sink.Willing) (some : text ≠ [])
    (h : sink.write text = (reply, next)) :
    Writes sink text reply next ∧ next.chunk = sink.chunk := by
  unfold write at h
  dsimp only at h
  split at h
  · obtain ⟨rfl, rfl⟩ := Prod.mk.inj h
    exact ⟨.interrupted rfl, rfl⟩
  · split at h
    next full =>
      obtain ⟨rfl, rfl⟩ := Prod.mk.inj h
      exact ⟨.full (by rw [obstacle?, if_pos full]) rfl, rfl⟩
    next open' =>
      split at h
      next fails =>
        obtain ⟨rfl, rfl⟩ := Prod.mk.inj h
        exact ⟨.failed (by rw [obstacle?, if_neg open', if_pos fails]) rfl, rfl⟩
      next fine =>
        obtain ⟨rfl, rfl⟩ := Prod.mk.inj h
        have hpositive : 0 < sink.room text.length :=
          Nat.lt_min.2 ⟨reach_pos _ _ (List.length_pos_of_ne_nil some), willing _⟩
        have hwithin : sink.room text.length ≤ text.length :=
          Nat.le_trans (Nat.min_le_left ..) (reach_le_length ..)
        refine ⟨.taken hpositive hwithin ?_ rfl, rfl⟩
        intro i hi
        have hfull : reached sink.fullFrom (sink.position + i) = false :=
          not_reached_of_room (by simp +contextual) (Bool.eq_false_iff.2 open') hi
        have hfails : reached sink.failsFrom (sink.position + i) = false :=
          not_reached_of_room (by simp +contextual) (Bool.eq_false_iff.2 fine) hi
        rw [obstacle?, hfull, hfails]
        rfl

end Write

/-- Writing a text in full comes to the same as putting its characters one by one. -/
theorem put_shown {sink : Sink} (willing : sink.Willing) (text : List Char) :
    sink.shown.put text = ((sink.writeAll text).1, (sink.writeAll text).2.shown) ∧
      (sink.writeAll text).2.chunk = sink.chunk := by
  -- One case for each answer of the sink.  Only an interruption and a part that was taken are
  -- followed by another write.
  fun_induction writeAll sink text with
  | case1 sink => exact ⟨rfl, rfl⟩
  | case2 sink c rest next wrote ih =>
      obtain ⟨hwrites, hchunk⟩ := writes_of_write willing (List.cons_ne_nil c rest) wrote
      obtain ⟨hput, hlast⟩ := ih (willing.of_chunk hchunk)
      cases hwrites with
      | interrupted same =>
          rw [← same]
          exact ⟨hput, hlast.trans hchunk⟩
  | case3 sink c rest error next wrote =>
      obtain ⟨hwrites, hchunk⟩ := writes_of_write willing (List.cons_ne_nil c rest) wrote
      cases hwrites with
      | failed obstacle same =>
          have hdown : sink.shown.obstacle? sink.shown.position = some sink.error := obstacle
          rw [put_of_turned_down hdown, same]
          exact ⟨rfl, hchunk⟩
  | case4 sink c rest next wrote =>
      obtain ⟨hwrites, hchunk⟩ := writes_of_write willing (List.cons_ne_nil c rest) wrote
      cases hwrites with
      | full obstacle same =>
          have hdown : sink.shown.obstacle? sink.shown.position = some notTaken := obstacle
          rw [put_of_turned_down hdown, same]
          exact ⟨rfl, hchunk⟩
      | taken positive => exact absurd positive (Nat.lt_irrefl 0)
  | case5 sink c rest count next wrote ih =>
      obtain ⟨hwrites, hchunk⟩ := writes_of_write willing (List.cons_ne_nil c rest) wrote
      obtain ⟨hput, hlast⟩ := ih (willing.of_chunk hchunk)
      refine ⟨?_, hlast.trans hchunk⟩
      cases hwrites with
      | taken positive within clear shows =>
          have hlength : ((c :: rest).take (count + 1)).length = count + 1 :=
            List.length_take_of_le within
          have hpart : sink.shown.put ((c :: rest).take (count + 1)) = (.ok (), next.shown) := by
            rw [shows]
            apply put_of_clear
            rw [hlength]
            exact clear
          exact (put_of_part hpart).trans hput

/-- Puts a text and flushes it. -/
def deliver (sink : Sink) (text : List Char) : Except IoError Unit × Sink :=
  match sink.put text with
  | (.ok (), next) => next.flush
  | (.error error, next) => (.error error, next)

/-- A flush has nothing to do with pieces. -/
theorem flush_shown (sink : Sink) :
    sink.shown.flush = (sink.flush.1, sink.flush.2.shown) ∧ sink.flush.2.chunk = sink.chunk := by
  have hfails : sink.shown.failsFlush = some (sink.shown.flushes + 1) ↔
      sink.failsFlush = some (sink.flushes + 1) := Iff.rfl
  unfold flush
  dsimp only
  by_cases fails : sink.failsFlush = some (sink.flushes + 1)
  · rw [if_pos fails, if_pos (hfails.2 fails)]
    exact ⟨rfl, rfl⟩
  · rw [if_neg fails, if_neg (mt hfails.1 fails)]
    exact ⟨rfl, rfl⟩

end Sink
end HeapFixtures
