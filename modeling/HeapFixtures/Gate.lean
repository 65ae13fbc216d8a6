/-
# Gates

A gate is a layer that may refuse a request, or panic over it, before the layers below hear of it.
It either forwards a resize as one request, or leaves it to the default way: a new block, a copy,
and the release of the old block, all through the gate itself.
-/

import HeapFixtures.Stop
import HeapFixtures.Thread

namespace HeapFixtures

/-- What a gate does with a request. -/
inductive Answer
  | pass
  | refuse (fault : Fault)
  | panic (panic : Panic)
  deriving DecidableEq

/-- A gate's decision about one request. -/
structure Verdict where
  raisesStop : Bool
  answer : Answer
  deriving DecidableEq

/-- The rule and the memory of a gate. -/
structure Gate where
  rule : Thread → Nat → UInt64 → Verdict
  forwardsResize : Bool
  records : Bool
  made : List (Thread × Nat)

namespace Gate

def madeBy (gate : Gate) (thread : Thread) : Nat :=
  (gate.made.lookup thread).getD 0

/-- Counts a request of a thread and decides about it. -/
def ask (gate : Gate) (thread : Thread) (size : UInt64) : Verdict × Gate :=
  let number := gate.madeBy thread + 1
  (gate.rule thread number size,
    { gate with made := (thread, number) :: gate.made.filter fun entry => entry.1 ≠ thread })

/-- Taking the entries of one thread out of a list leaves those of all others. -/
theorem lookup_filter_of_ne {entries : List (Thread × Nat)} {thread other : Thread}
    (h : other ≠ thread) :
    (entries.filter fun entry => entry.1 ≠ thread).lookup other = entries.lookup other := by
  induction entries with
  | nil => rfl
  | cons entry rest ih =>
    obtain ⟨key, count⟩ := entry
    by_cases hkey : key = thread
    · subst hkey
      have hne : (other == key) = false := by simpa using h
      simpa [List.lookup_cons, hne] using ih
    · simp only [ne_eq, decide_not] at ih
      simp [List.lookup_cons, hkey, ih]

theorem madeBy_ask_self (gate : Gate) (thread : Thread) (size : UInt64) :
    (gate.ask thread size).2.madeBy thread = gate.madeBy thread + 1 := by
  simp [ask, madeBy]

/-- A request counts for no other thread, so threads do not disturb one another. -/
theorem madeBy_ask_of_ne (gate : Gate) {thread other : Thread} (size : UInt64)
    (h : other ≠ thread) : (gate.ask thread size).2.madeBy other = gate.madeBy other := by
  have hne : (other == thread) = false := by simpa using h
  simp only [ask, madeBy, List.lookup_cons, hne, lookup_filter_of_ne h]

end Gate

/-- A rule for gates in terms of request numbers and sizes. -/
structure Refusals where
  /-- The names of the threads concerned; all threads if there is no list. -/
  threads : Option (List String)
  stopAt : Option Nat
  panicAt : List Nat
  refuseAt : List Nat
  /-- The fault of those refusals, in place of a failed allocation. -/
  refuseWith : Option Fault
  cap : Option UInt64
  budget : Option Nat

def Panic.mock : Panic := .raised "mock panic"

/-- The rule that a description stands for.  Of several reasons a panic counts before
a refusal by number, and that before the cap and the budget. -/
def Refusals.rule (refusals : Refusals) (thread : Thread) (number : Nat) (size : UInt64) :
    Verdict :=
  let concerned := match refusals.threads with
    | none => true
    | some names => names.contains thread.name
  if !concerned then ⟨false, .pass⟩
  else
    let failed := Fault.allocationFailed size
    let answer :=
      if refusals.panicAt.contains number then .panic .mock
      else if refusals.refuseAt.contains number then .refuse (refusals.refuseWith.getD failed)
      else if refusals.cap.any (· < size) || refusals.budget.any (· < number) then
        .refuse failed
      else .pass
    ⟨refusals.stopAt = some number, answer⟩

/-- A gate that follows a description and has seen no request. -/
def Gate.ofRefusals (refusals : Refusals) (forwardsResize records : Bool) : Gate :=
  ⟨refusals.rule, forwardsResize, records, []⟩

end HeapFixtures
