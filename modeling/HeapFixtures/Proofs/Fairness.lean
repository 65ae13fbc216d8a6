/-
# Schedules that let everyone have turns

Agents take turns on a shared state.  If each turn ends the matter, leaves less to do or changes
nothing, and if there is always an agent whose turn is not for nothing, then the matter comes to
its end in every schedule of enough rounds, where a round lets every agent have a turn.  Nothing
is asked of the order of the turns in a round, or of how many turns an agent has in it.
-/

import Mathlib.Data.List.Basic
import Mathlib.Data.List.Induction

namespace HeapFixtures

/-- Turns on a state that is live until it is settled, with a measure of what is left to do. -/
structure Progresses {State Agent : Type} (turn : State → Agent → State)
    (takesPart : Agent → Prop) (live settled : State → Prop) (left : State → Nat) : Prop where
  step : ∀ {state}, live state → ∀ agent, settled (turn state agent) ∨
    live (turn state agent) ∧ (left (turn state agent) < left state ∨ turn state agent = state)
  someone : ∀ {state}, live state → ∃ agent, takesPart agent ∧
    (settled (turn state agent) ∨ left (turn state agent) < left state)
  stays : ∀ {state}, settled state → ∀ agent, settled (turn state agent)

namespace Progresses

variable {State Agent : Type} {turn : State → Agent → State} {takesPart : Agent → Prop}
  {live settled : State → Prop} {left : State → Nat} {state : State}

theorem settled_foldl (progresses : Progresses turn takesPart live settled left)
    (ended : settled state) (schedule : List Agent) : settled (schedule.foldl turn state) := by
  induction schedule generalizing state with
  | nil => exact ended
  | cons agent rest ih => exact ih (progresses.stays ended agent)

/-- Turns end the matter, leave less to do, or change nothing, any of them. -/
theorem foldl_cases (progresses : Progresses turn takesPart live settled left)
    (alive : live state) (schedule : List Agent) :
    settled (schedule.foldl turn state) ∨ live (schedule.foldl turn state) ∧
      (left (schedule.foldl turn state) < left state ∨
        schedule.foldl turn state = state ∧ ∀ agent ∈ schedule, turn state agent = state) := by
  induction schedule using List.reverseRecOn with
  | nil => exact .inr ⟨alive, .inr ⟨rfl, List.forall_mem_nil _⟩⟩
  | append_singleton schedule agent ih =>
      rw [List.foldl_concat]
      rcases ih with ended | ⟨between, hless⟩
      · exact .inl (progresses.stays ended agent)
      · refine (progresses.step between agent).imp_right fun ⟨after, hturn⟩ => ⟨after, ?_⟩
        rcases hless with hless | ⟨hsame, hstill⟩
        · refine .inl ?_
          rcases hturn with hturn | hturn
          · exact Nat.lt_trans hturn hless
          · rwa [hturn]
        · rw [hsame] at hturn ⊢
          refine hturn.imp_right fun hturn => ⟨hturn, fun other hother => ?_⟩
          rcases List.mem_append.1 hother with hmem | hmem
          · exact hstill other hmem
          · rwa [List.mem_singleton.1 hmem]

/-- A round ends the matter or leaves less to do. -/
theorem round (progresses : Progresses turn takesPart live settled left) (alive : live state)
    {round : List Agent} (everyone : ∀ agent, takesPart agent → agent ∈ round) :
    settled (round.foldl turn state) ∨
      live (round.foldl turn state) ∧ left (round.foldl turn state) < left state := by
  rcases progresses.foldl_cases alive round with ended | ⟨after, hless | ⟨hsame, hstill⟩⟩
  · exact .inl ended
  · exact .inr ⟨after, hless⟩
  · -- The turn of someone would have left less to do, or ended the matter.
    obtain ⟨agent, hpart, hturn⟩ := progresses.someone alive
    rw [hstill agent (everyone agent hpart)] at hturn
    rw [hsame]
    exact .inl (hturn.resolve_right (Nat.lt_irrefl _))

/-- More rounds than there is to do end the matter. -/
theorem rounds (progresses : Progresses turn takesPart live settled left) (alive : live state)
    {rounds : List (List Agent)}
    (everyone : ∀ round ∈ rounds, ∀ agent, takesPart agent → agent ∈ round)
    (enough : left state < rounds.length) : settled (rounds.flatten.foldl turn state) := by
  induction rounds generalizing state with
  | nil => cases enough
  | cons round rest ih =>
      obtain ⟨hround, hrest⟩ := List.forall_mem_cons.1 everyone
      rw [List.flatten_cons, List.foldl_append]
      rcases progresses.round alive hround with ended | ⟨after, hless⟩
      · exact progresses.settled_foldl ended _
      · exact ih after hrest (by rw [List.length_cons] at enough; omega)

end Progresses

end HeapFixtures
