/-
# What a recording layer notes

A gate that records notes every request that comes by with its answer, unless that is a panic,
and every release.  If it stands on top and hands resizes on as such, its notes are what the user
of the allocator has done: a history can be read off the list of calls, and no request is left
out of it or made up.

The layers below note under numbers of their own, which are smaller.
-/

import HeapFixtures.Proofs.Contents
import HeapFixtures.Proofs.Passage
import HeapFixtures.Proofs.Privacy
import HeapFixtures.Proofs.Script

namespace HeapFixtures

/-- What the layer of a number has noted. -/
def Site.notedAt (site : Site) (layer : Nat) : List (Thread × Call) :=
  site.calls.toList.filterMap fun record =>
    if record.layer = layer then some (record.thread, record.call) else none

/-- What the topmost layer has noted. -/
def Stack.noted (stack : Stack) : List (Thread × Call) := stack.site.notedAt stack.layers.length

/-- The topmost layer notes every call, and resizes as such. -/
def Stack.Records (stack : Stack) : Prop :=
  ∃ gate, stack.layers.head? = some (.gate gate) ∧ gate.records = true ∧
    gate.forwardsResize = true

/-- A gate that lets everything pass and notes it. -/
def Gate.recorder : Gate := ⟨fun _ _ _ => ⟨false, .pass⟩, true, true, []⟩

theorem Stack.records_recorder (stack : Stack) : (stack.push (.gate .recorder)).Records :=
  ⟨.recorder, rfl, rfl, rfl⟩

/-- The note that is made of a dealing. -/
def Dealing.record? (dealing : Dealing) : Option (Thread × Call) :=
  dealing.call?.map (dealing.thread, ·)

/-- A block that is handed out has the size that was asked for. -/
def Dealing.Exact : Dealing → Prop
  | .allocate _ size (.ok block) | .resize _ _ size (.ok block) => block.size = size
  | _ => True

namespace Site

variable (site : Site) (thread : Thread) (size : UInt64)

theorem notedAt_note (record : CallRecord) (layer : Nat) :
    (site.note record).notedAt layer =
      site.notedAt layer ++
        if record.layer = layer then [(record.thread, record.call)] else [] := by
  unfold notedAt note
  rw [Array.toList_push, List.filterMap_append]
  split <;> simp [*]

@[simp]
theorem calls_mention (message : String) :
    (site.mention thread message size).calls = site.calls := by
  unfold mention
  split <;> rfl

end Site

namespace Stack

@[simp]
theorem calls_heed (site : Site) (verdict : Verdict) : (heed site verdict).calls = site.calls := by
  unfold heed
  split <;> rfl

/-- A part of a call that keeps the number of layers, and notes nothing in the name of a layer
above them. -/
structure Under (before after : Stack) : Prop where
  length : after.layers.length = before.layers.length
  notedAt : ∀ layer, before.layers.length < layer →
    after.site.notedAt layer = before.site.notedAt layer

section Under

variable {below : List Layer} {site : Site} {before between after : Stack}

theorem under_of_calls (length : after.layers.length = before.layers.length)
    (calls : after.site.calls = before.site.calls) : before.Under after := by
  refine ⟨length, fun layer _ => ?_⟩
  unfold Site.notedAt
  rw [calls]

theorem Under.trans (h : before.Under between) (h' : between.Under after) : before.Under after :=
  ⟨h'.length.trans h.length,
    fun layer above => (h'.notedAt layer (h.length.trans_lt above)).trans (h.notedAt layer above)⟩

/-- What is under the layers below is under one more. -/
theorem Under.push (h : Under ⟨below, site⟩ after) (layer layer' : Layer) :
    Under ⟨layer :: below, site⟩ (after.push layer') :=
  ⟨congrArg (· + 1) h.length, fun number above => h.notedAt number (Nat.lt_of_succ_lt above)⟩

/-- A layer notes under its own number. -/
theorem Under.note (h : before.Under after) (records : Bool) (thread : Thread) (call : Call) :
    before.Under (after.note records thread call) := by
  refine ⟨(congrArg List.length (layers_note ..)).trans h.length, fun layer above => ?_⟩
  have hother : after.layers.length ≠ layer := (h.length.trans_lt above).ne
  unfold Stack.note
  split
  · rw [Site.notedAt_note, if_neg hother, List.append_nil]
    exact h.notedAt layer above
  · exact h.notedAt layer above

/-- Every step of a call is such a part. -/
theorem carried_under : Carried Under where
  refl _ := under_of_calls rfl rfl
  trans h h' := h.trans h'
  heap _ _ := under_of_calls rfl rfl
  mention site thread message size := under_of_calls rfl (site.calls_mention thread size message)
  heed _ _ _ site verdict := under_of_calls rfl (calls_heed site verdict)
  note _ := (under_of_calls rfl rfl).note
  push layer layer' h := h.push layer layer'

end Under

section Gate

variable {gate asked : Gate} {below : List Layer} {site : Site} {verdict : Verdict}
  {thread : Thread} {size : UInt64}

/-- A gate on top makes its note of an answer, its own or one from below. -/
theorem allocateThrough_gate (hask : gate.ask thread size = (verdict, asked)) :
    ∃ reply under, Under ⟨below, heed site verdict⟩ under ∧
      allocateThrough thread size (.gate gate :: below) site =
        (reply, under.answered asked thread (.allocate size) reply) := by
  cases hanswer : verdict.answer with
  | panic panic =>
      exact ⟨_, ⟨below, heed site verdict⟩, under_of_calls rfl rfl,
        allocateThrough_gate_panic hask hanswer⟩
  | refuse fault =>
      exact ⟨_, ⟨below, heed site verdict⟩, under_of_calls rfl rfl,
        allocateThrough_gate_refuse hask hanswer⟩
  | pass =>
      exact ⟨_, _, carried_under.allocateThrough .., allocateThrough_gate_pass hask hanswer⟩

theorem resizeThrough_gate (forwards : gate.forwardsResize = true) (block : Block)
    (hask : gate.ask thread size = (verdict, asked)) :
    ∃ reply under, Under ⟨below, heed site verdict⟩ under ∧
      resizeThrough thread block size (.gate gate :: below) site =
        (reply, under.answered asked thread (.resize block.size size) reply) := by
  cases hanswer : verdict.answer with
  | panic panic =>
      exact ⟨_, ⟨below, heed site verdict⟩, under_of_calls rfl rfl,
        resizeThrough_gate_panic forwards hask hanswer⟩
  | refuse fault =>
      exact ⟨_, _, carried_under.releaseThrough .., resizeThrough_gate_refuse forwards hask hanswer⟩
  | pass =>
      exact ⟨_, _, carried_under.resizeThrough .., resizeThrough_gate_pass forwards hask hanswer⟩

end Gate

section Noted

variable {gate asked : Gate} {below : List Layer} {site : Site} {under : Stack}
  {stack after : Stack} {dealing : Dealing} {dealings : List Dealing}

theorem noted_note (stack : Stack) (thread : Thread) (call : Call) :
    (stack.note true thread call).noted = stack.noted ++ [(thread, call)] := by
  unfold noted
  rw [layers_note]
  show (stack.site.note _).notedAt _ = _
  rw [Site.notedAt_note, if_pos rfl]

/-- What comes back through a gate that records is noted beside what was noted before. -/
theorem noted_answered {verdict : Verdict} (h : Under ⟨below, heed site verdict⟩ under)
    (records : asked.records = true) (gate : Gate) (thread : Thread) (call : Bool → Call)
    (reply : Except Stop Block) :
    (under.answered asked thread call reply).noted = noted ⟨.gate gate :: below, site⟩ ++
      match reply with
      | .ok _ => [(thread, call true)]
      | .error (.fault _) => [(thread, call false)]
      | .error _ => [] := by
  have hheed (layer : Nat) : (heed site verdict).notedAt layer = site.notedAt layer := by
    unfold Site.notedAt
    rw [calls_heed]
  have hpushed : (under.push (.gate asked)).noted = noted ⟨.gate gate :: below, site⟩ := by
    unfold noted
    rw [layers_push, List.length_cons, h.length]
    exact (h.notedAt _ (Nat.lt_succ_self _)).trans (hheed _)
  unfold answered
  rw [records]
  obtain (fault | panic | exit) | block := reply
  · exact (noted_note ..).trans (congrArg (· ++ _) hpushed)
  · exact hpushed.trans (List.append_nil _).symm
  · exact hpushed.trans (List.append_nil _).symm
  · exact (noted_note ..).trans (congrArg (· ++ _) hpushed)

theorem records_of_akin (akin : gate.Akin asked) (records : gate.records = true)
    (forwards : gate.forwardsResize = true) (h : stack.layers = .gate asked :: below) :
    stack.Records :=
  ⟨asked, congrArg List.head? h, akin.2.2.symm.trans records, akin.2.1.symm.trans forwards⟩

/-- A layer on top that records notes each dealing. -/
theorem Serves.noted (served : stack.Serves dealing after) (h : stack.Records) :
    after.Records ∧ after.noted = stack.noted ++ dealing.record?.toList := by
  obtain ⟨gate, htop, records, forwards⟩ := h
  obtain ⟨layers, site⟩ := stack
  obtain ⟨below, rfl⟩ : ∃ below, layers = .gate gate :: below := List.head?_eq_some_iff.1 htop
  cases served with
  | @allocate thread size answer after served =>
      rcases hask : gate.ask thread size with ⟨verdict, asked⟩
      have hakin := Gate.akin_ask hask
      obtain ⟨reply, under, hunder, hcall⟩ := allocateThrough_gate hask
      rw [Stack.allocate, hcall] at served
      obtain ⟨rfl, rfl⟩ := Prod.mk.inj served
      refine ⟨records_of_akin hakin records forwards (layers_answered ..), ?_⟩
      rw [noted_answered hunder (hakin.2.2.symm.trans records) gate]
      obtain (fault | panic | exit) | block := reply <;> rfl
  | release thread block =>
      let marked := note ⟨.gate gate :: below, site⟩ gate.records thread (.release block.size)
      have hunder := carried_under.releaseThrough thread block below marked.site
      have hmarked : marked.noted = Stack.noted ⟨.gate gate :: below, site⟩ ++
          [(thread, .release block.size)] := by
        show (note _ gate.records _ _).noted = _
        rw [records, noted_note]
      refine ⟨records_of_akin gate.akin_refl records forwards rfl, Eq.trans ?_ hmarked⟩
      unfold Stack.noted
      rw [layers_note]
      show (releaseThrough thread block below marked.site).site.notedAt
        ((releaseThrough thread block below marked.site).layers.length + 1) = _
      rw [hunder.length]
      exact hunder.notedAt _ (Nat.lt_succ_self _)
  | @resize thread block size answer after served =>
      rcases hask : gate.ask thread size with ⟨verdict, asked⟩
      have hakin := Gate.akin_ask hask
      obtain ⟨reply, under, hunder, hcall⟩ := resizeThrough_gate forwards block hask
      rw [Stack.resize, hcall] at served
      obtain ⟨rfl, rfl⟩ := Prod.mk.inj served
      refine ⟨records_of_akin hakin records forwards (layers_answered ..), ?_⟩
      rw [noted_answered hunder (hakin.2.2.symm.trans records) gate]
      obtain (fault | panic | exit) | block := reply <;> rfl

/-- A layer on top that records notes a whole history. -/
theorem History.noted (history : stack.History dealings after) (h : stack.Records) :
    after.Records ∧ after.noted = stack.noted ++ dealings.filterMap Dealing.record? := by
  induction history with
  | nil => exact ⟨h, (List.append_nil _).symm⟩
  | @aside stack between _ _ aside _ ih =>
      have hbetween : between.Records ∧ between.noted = stack.noted := by
        unfold Records Stack.noted Site.notedAt
        rw [aside.1, aside.2.2]
        exact ⟨h, rfl⟩
      rw [← hbetween.2]
      exact ih hbetween.1
  | @cons _ _ _ dealing rest served _ ih =>
      obtain ⟨hrecords, hnoted⟩ := served.noted h
      obtain ⟨hlast, hrest⟩ := ih hrecords
      refine ⟨hlast, ?_⟩
      rw [hrest, hnoted, List.append_assoc]
      cases hrecord : dealing.record? with
      | none => rw [List.filterMap_cons_none hrecord]; rfl
      | some record => rw [List.filterMap_cons_some hrecord]; rfl

/-- Blocks that are handed out have the sizes that were asked for. -/
theorem History.exact (history : stack.History dealings after) :
    ∀ dealing ∈ dealings, dealing.Exact := by
  induction history with
  | nil => exact List.forall_mem_nil _
  | aside _ _ ih => exact ih
  | cons served _ ih =>
      refine List.forall_mem_cons.2 ⟨?_, ih⟩
      cases served with
      | @allocate thread size answer after served =>
          cases answer with
          | error stop => trivial
          | ok block =>
              cases allocates_of_allocate served with
              | granted counted heap => exact Heap.size_granted heap
      | release thread block => trivial
      | @resize thread block size answer after served =>
          cases answer with
          | error stop => trivial
          | ok fresh =>
              cases resizes_of_resize served with
              | granted swapped replaced heap =>
                  obtain ⟨grown, hgrant⟩ := Heap.grant_of_move heap
                  exact Heap.size_granted hgrant

end Noted
end Stack

namespace Script

/-- The calls of a script of which so many requests are granted, with a block of a size in hand.
The next request is the last call. -/
def calls : Nat → UInt64 → Script → List Call
  | _, _, [] => []
  | granted, held, .release :: rest => .release held :: calls granted 0 rest
  | 0, _, .allocate size :: _ => [.allocate size false]
  | 0, held, .resize size :: _ => [.resize held size false]
  | granted + 1, _, .allocate size :: rest => .allocate size true :: calls granted size rest
  | granted + 1, held, .resize size :: rest => .resize held size true :: calls granted size rest

/-- The size of the block in hand. -/
def sizeOf (held : Option Block) : UInt64 := held.elim 0 Block.size

section Noted

variable {thread : Thread} {held last : Option Block} {script : Script} {dealings : List Dealing}
  {number : Nat} {fault : Fault} {before after : Stack}

/-- The calls of the beginning of a script, all of whose requests are granted, come first. -/
theorem Performed.calls_append (h : Performed thread held script dealings last)
    (exact : ∀ dealing ∈ dealings, dealing.Exact) (granted : Nat) (more : Script) :
    (calls (script.sizes.length + granted) (sizeOf held) (script ++ more)).map (thread, ·) =
      dealings.filterMap Dealing.record? ++
        (calls granted (sizeOf last) more).map (thread, ·) := by
  induction h with
  | nil held => rw [sizes, List.filterMap_nil, List.length_nil, Nat.zero_add]; rfl
  | @allocate size block script dealings last _ ih =>
      obtain ⟨hsize, hrest⟩ := List.forall_mem_cons.1 exact
      have hlength : (sizes (.allocate size :: script)).length + granted =
          script.sizes.length + granted + 1 := Nat.add_right_comm ..
      obtain rfl : block.size = size := hsize
      rw [hlength, List.cons_append, calls, List.map_cons]
      exact congrArg (_ :: ·) (ih hrest)
  | @resize size block fresh script dealings last _ ih =>
      obtain ⟨hsize, hrest⟩ := List.forall_mem_cons.1 exact
      have hlength : (sizes (.resize size :: script)).length + granted =
          script.sizes.length + granted + 1 := Nat.add_right_comm ..
      obtain rfl : fresh.size = size := hsize
      rw [hlength, List.cons_append, calls, List.map_cons]
      exact congrArg (_ :: ·) (ih hrest)
  | @release block script dealings last _ ih =>
      obtain ⟨-, hrest⟩ := List.forall_mem_cons.1 exact
      rw [List.cons_append, calls, List.map_cons]
      exact congrArg (_ :: ·) (ih hrest)

/-- What a recording layer on top notes of a script that is performed. -/
theorem Performed.noted (h : Performed thread held script dealings last)
    (history : before.History dealings after) (records : before.Records) :
    after.noted = before.noted ++
      (calls script.sizes.length (sizeOf held) script).map (thread, ·) := by
  have hcalls := h.calls_append history.exact 0 []
  rw [List.append_nil, Nat.add_zero] at hcalls
  rw [(history.noted records).2, hcalls]
  exact congrArg (before.noted ++ ·) (List.append_nil _).symm

/-- What a recording layer on top notes of a script that is broken off. -/
theorem BrokenOff.noted (h : BrokenOff thread (.fault fault) held script number dealings)
    (history : before.History dealings after) (records : before.Records) :
    after.noted = before.noted ++ (calls (number - 1) (sizeOf held) script).map (thread, ·) := by
  have hexact := history.exact
  rw [(history.noted records).2]
  cases h with
  | @intro front rest ask done between denial splits performed denied numbered =>
      have hdone := (List.forall_mem_append.1 hexact).1
      have hcalls := performed.calls_append hdone 0 (ask :: rest)
      rw [splits, numbered, Nat.add_sub_cancel]
      rw [Nat.add_zero] at hcalls
      rw [hcalls, List.filterMap_append]
      cases denied with
      | allocate => rfl
      | resize => rfl

end Noted
end Script
end HeapFixtures
