/-
# One more layer

What a layer on top of others does with a request, given what the others do with it.  These
are the branches of the three requests one by one, under the conditions that lead to them, so
that a walk through the layers can say which branch it takes and need not look for it.
-/

import HeapFixtures.Proofs.Outcome

namespace HeapFixtures

namespace Stack

section Counting

variable {thread : Thread} {size : UInt64} {block fresh : Block} {below : List Layer}
  {site : Site} {stack : Stack} {shown after : Counters} {stop : Stop} {fault : Fault}

/-- A counting layer hands a granted block on once it has counted it. -/
theorem allocateThrough_counting_ok
    (h : allocateThrough thread size below site = (.ok block, stack))
    (granted : shown.Granted size after) :
    allocateThrough thread size (.counting shown :: below) site =
      (.ok block, stack.push (.counting after)) := by
  have hrecord : shown.recordAllocation size = (none, after) := granted
  simp only [allocateThrough, h, hrecord, settle]

/-- A counting layer hands a refusal or a panic on and counts nothing. -/
theorem allocateThrough_counting_error
    (h : allocateThrough thread size below site = (.error stop, stack)) :
    allocateThrough thread size (.counting shown :: below) site =
      (.error stop, stack.push (.counting shown)) := by
  simp only [allocateThrough, h]

/-- A counting layer hands a moved block on once it has counted the swap. -/
theorem resizeThrough_counting_ok
    (h : resizeThrough thread block size below site = (.ok fresh, stack))
    (swapped : shown.Swapped size after) :
    resizeThrough thread block size (.counting shown :: below) site =
      (.ok fresh, stack.push (.counting after)) := by
  have hrecord : shown.recordRelease.recordAllocation size = (none, after) := swapped
  simp only [resizeThrough, h, hrecord, settle]

/-- A counting layer hands a refused resize on once it has counted that the old block is
gone. -/
theorem resizeThrough_counting_refused
    (h : resizeThrough thread block size below site = (.error (.fault fault), stack)) :
    resizeThrough thread block size (.counting shown :: below) site =
      (.error (.fault fault), stack.push (.counting shown.recordRelease)) := by
  simp only [resizeThrough, h]

end Counting

/-- Below all layers there is none. -/
@[simp]
theorem layers_allocateThrough_nil (thread : Thread) (size : UInt64) (site : Site) :
    (allocateThrough thread size [] site).2.layers = [] := by
  unfold allocateThrough
  split <;> rfl

/-- The stack after a gate has passed on the answer from below: blocks and faults are noted,
and panics are not. -/
def answered (gate : Gate) (thread : Thread) (call : Bool → Call) (reply : Except Stop Block)
    (under : Stack) : Stack :=
  match reply with
  | .ok _ => (under.push (.gate gate)).note gate.records thread (call true)
  | .error (.fault _) => (under.push (.gate gate)).note gate.records thread (call false)
  | .error _ => under.push (.gate gate)

section Gate

variable {gate asked : Gate} {thread : Thread} {size : UInt64} {block : Block}
  {verdict : Verdict} {below : List Layer} {site : Site} {fault : Fault} {panic : Panic}

@[simp]
theorem heap_answered (gate : Gate) (thread : Thread) (call : Bool → Call)
    (reply : Except Stop Block) (under : Stack) :
    (under.answered gate thread call reply).site.heap = under.site.heap := by
  unfold answered
  split
  · exact heap_note _ _ _ _
  · exact heap_note _ _ _ _
  · rfl

@[simp]
theorem layers_answered (gate : Gate) (thread : Thread) (call : Bool → Call)
    (reply : Except Stop Block) (under : Stack) :
    (under.answered gate thread call reply).layers = .gate gate :: under.layers := by
  unfold answered
  split
  · exact layers_note _ _ _ _
  · exact layers_note _ _ _ _
  · rfl

theorem allocateThrough_gate_panic (hask : gate.ask thread size = (verdict, asked))
    (hanswer : verdict.answer = .panic panic) :
    allocateThrough thread size (.gate gate :: below) site =
      (.error (.panic panic), ⟨.gate asked :: below, heed site verdict⟩) := by
  rw [allocateThrough, hask]
  simp only [hanswer]

theorem allocateThrough_gate_refuse (hask : gate.ask thread size = (verdict, asked))
    (hanswer : verdict.answer = .refuse fault) :
    allocateThrough thread size (.gate gate :: below) site =
      (.error (.fault fault),
        note ⟨.gate asked :: below, heed site verdict⟩ asked.records thread
          (.allocate size false)) := by
  rw [allocateThrough, hask]
  simp only [hanswer]

theorem allocateThrough_gate_pass (hask : gate.ask thread size = (verdict, asked))
    (hanswer : verdict.answer = .pass) :
    allocateThrough thread size (.gate gate :: below) site =
      let (reply, under) := allocateThrough thread size below (heed site verdict)
      (reply, under.answered asked thread (.allocate size) reply) := by
  rw [allocateThrough, hask]
  simp only [hanswer]
  rcases allocateThrough thread size below (heed site verdict) with ⟨reply, under⟩
  cases reply with
  | ok block => rfl
  | error stop => cases stop <;> rfl

theorem resizeThrough_gate_panic (forwards : gate.forwardsResize = true)
    (hask : gate.ask thread size = (verdict, asked)) (hanswer : verdict.answer = .panic panic) :
    resizeThrough thread block size (.gate gate :: below) site =
      (.error (.panic panic), ⟨.gate asked :: below, heed site verdict⟩) := by
  rw [resizeThrough, if_pos forwards, hask]
  simp only [hanswer]

theorem resizeThrough_gate_refuse (forwards : gate.forwardsResize = true)
    (hask : gate.ask thread size = (verdict, asked)) (hanswer : verdict.answer = .refuse fault) :
    resizeThrough thread block size (.gate gate :: below) site =
      (.error (.fault fault),
        ((releaseThrough thread block below (heed site verdict)).push (.gate asked)).note
          asked.records thread (.resize block.size size false)) := by
  rw [resizeThrough, if_pos forwards, hask]
  simp only [hanswer]

theorem resizeThrough_gate_pass (forwards : gate.forwardsResize = true)
    (hask : gate.ask thread size = (verdict, asked)) (hanswer : verdict.answer = .pass) :
    resizeThrough thread block size (.gate gate :: below) site =
      let (reply, under) := resizeThrough thread block size below (heed site verdict)
      (reply, under.answered asked thread (.resize block.size size) reply) := by
  rw [resizeThrough, if_pos forwards, hask]
  simp only [hanswer]
  rcases resizeThrough thread block size below (heed site verdict) with ⟨reply, under⟩
  cases reply with
  | ok block => rfl
  | error stop => cases stop <;> rfl

end Gate

end Stack
end HeapFixtures
