/-
# The steps of a worker

A worker of a pool, step by step.  The pool's allocator is a counting layer on another
allocator.  Each request of the allocator below is a step, and so is each update of a counter,
so that the steps of other workers may come between any two of them: the counters are torn
while a worker is at one of its updates.

A worker that is left alone comes to what its run on the whole allocator comes to, and it
comes to its end: a cycle takes eight steps.
-/

import HeapFixtures.Proofs.Privacy
import HeapFixtures.Proofs.Working
import Mathlib.Algebra.Group.Prod
import Mathlib.Data.UInt
import Mathlib.Logic.Function.Iterate

namespace HeapFixtures

/-- The counters that only grow: requests, releases and bytes. -/
def Counters.sums (c : Counters) : UInt64 × UInt64 × UInt64 := (c.allocations, c.releases, c.bytes)

/-- The counters of the topmost layer that counts. -/
def Stack.shown (stack : Stack) : Counters :=
  (stack.layers.findSome? Layer.counters?).getD .zero

@[simp]
theorem Stack.shown_push_counting (stack : Stack) (counters : Counters) :
    (stack.push (.counting counters)).shown = counters := rfl

/-- One more is a word if there is room for it. -/
theorem Word.add?_one {word : UInt64} (room : word.toNat + 1 < UInt64.size) :
    Word.add? word 1 = some (word + 1) :=
  Word.add?_eq_some_iff.2 ⟨room, rfl⟩

namespace Workers

/-- A worker's run with an allocator to itself. -/
def alone (config : Config) (index : UInt64) (stack : Stack) : Except Stop UInt64 × Stack :=
  runWorker (.worker index) index config.cycles config.blockSize stack

/-- What a worker does next, with the cycles that are left after the present one. -/
inductive Phase
  | begins
  /-- Asks the allocator below for a block. -/
  | asks (left : Nat)
  | countsAllocation (left : Nat) (block : Block)
  | countsBytes (left : Nat) (block : Block)
  | countsLive (left : Nat) (block : Block)
  /-- Takes the peak from the number of live blocks that it has just made. -/
  | countsPeak (left : Nat) (block : Block) (live : UInt64)
  /-- Gives the block back to the allocator below. -/
  | releases (left : Nat) (block : Block)
  | countsRelease (left : Nat)
  | countsGone (left : Nat)
  | ended (result : Except Stop UInt64)

namespace Phase

/-- Begins the next cycle, if there is one left. -/
def next (count : UInt64) : Nat → Phase
  | 0 => .ended (.ok count)
  | left + 1 => .asks left

/-- Goes on with the answer of the allocator below. -/
def answered (left : Nat) : Except Stop Block → Phase
  | .ok block => .countsAllocation left block
  | .error stop => .ended (.error stop)

/-- Goes on with the number of live blocks, if that is a word. -/
def counted (left : Nat) (block : Block) : Option UInt64 → Phase
  | some live => .countsPeak left block live
  | none => .ended (.error (.panic .addOverflow))

/-- The worker's block is among the live blocks: it has been counted in and not yet out. -/
def isCountedIn : Phase → Bool
  | .countsPeak .. | .releases .. | .countsRelease _ | .countsGone _ => true
  | _ => false

/-- What the step adds to the counters that only grow. -/
def adds (size : UInt64) : Phase → UInt64 × UInt64 × UInt64
  | .countsAllocation .. => (1, 0, 0)
  | .countsRelease _ => (0, 1, 0)
  | .countsBytes .. => (0, 0, size)
  | _ => 0

/-- Phases of one worker in two runs, which differ in what it cannot decide: the address of
its block, and the number of blocks that are live. -/
inductive Akin : Phase → Phase → Prop
  | begins : Akin .begins .begins
  | asks (left : Nat) : Akin (.asks left) (.asks left)
  | countsAllocation (left : Nat) {block other : Block} (size : block.size = other.size) :
      Akin (.countsAllocation left block) (.countsAllocation left other)
  | countsBytes (left : Nat) {block other : Block} (size : block.size = other.size) :
      Akin (.countsBytes left block) (.countsBytes left other)
  | countsLive (left : Nat) {block other : Block} (size : block.size = other.size) :
      Akin (.countsLive left block) (.countsLive left other)
  | countsPeak (left : Nat) {block other : Block} (size : block.size = other.size)
      (live live' : UInt64) : Akin (.countsPeak left block live) (.countsPeak left other live')
  | releases (left : Nat) {block other : Block} (size : block.size = other.size) :
      Akin (.releases left block) (.releases left other)
  | countsRelease (left : Nat) : Akin (.countsRelease left) (.countsRelease left)
  | countsGone (left : Nat) : Akin (.countsGone left) (.countsGone left)
  | ended (result : Except Stop UInt64) : Akin (.ended result) (.ended result)

variable {phase other : Phase}

@[simp]
theorem isCountedIn_next (count : UInt64) (left : Nat) :
    (next count left).isCountedIn = false := by
  cases left <;> rfl

@[simp]
theorem isCountedIn_answered (left : Nat) (answer : Except Stop Block) :
    (answered left answer).isCountedIn = false := by
  cases answer <;> rfl

theorem akin_next (count : UInt64) (left : Nat) : (next count left).Akin (next count left) := by
  cases left with
  | zero => exact .ended _
  | succ left => exact .asks left

/-- Akin phases add the same. -/
theorem Akin.adds_eq (akin : phase.Akin other) (size : UInt64) :
    phase.adds size = other.adds size := by
  cases akin <;> rfl

/-- Of akin phases both are ends or none is. -/
theorem Akin.ended_iff (akin : phase.Akin other) (result : Except Stop UInt64) :
    phase = .ended result ↔ other = .ended result := by
  cases akin <;> simp only [reduceCtorEq]

end Phase

/-- A worker in its work: what it does next, and the calls that it has made so far of the
allocator below. -/
structure WorkerState where
  phase : Phase
  calls : List Call

/-- A worker that has not begun. -/
def WorkerState.first : WorkerState := ⟨.begins, []⟩

/-- One worker in two runs, where it has made the same calls. -/
structure WorkerState.Akin (state other : WorkerState) : Prop where
  phase : state.phase.Akin other.phase
  calls : state.calls = other.calls

/-- A worker, the counters, and the allocator below them. -/
structure WorkerView where
  counters : Counters
  inner : Stack
  state : WorkerState

namespace WorkerView

/-- One step of a worker. -/
def step (config : Config) (index : UInt64) : WorkerView → WorkerView
  | ⟨counters, inner, .begins, calls⟩ =>
    ⟨counters, announced (.worker index) index config.cycles inner,
      .next config.cycles config.cycles.toNat, calls⟩
  | ⟨counters, inner, .asks left, calls⟩ =>
    let (answer, after) := inner.allocate (.worker index) config.blockSize
    let dealing := Dealing.allocate (.worker index) config.blockSize answer
    ⟨counters, after, .answered left answer, calls ++ dealing.call?.toList⟩
  | ⟨counters, inner, .countsAllocation left block, calls⟩ =>
    ⟨counters.countAllocation, inner, .countsBytes left block, calls⟩
  | ⟨counters, inner, .countsBytes left block, calls⟩ =>
    ⟨counters.countBytes config.blockSize, inner, .countsLive left block, calls⟩
  | ⟨counters, inner, .countsLive left block, calls⟩ =>
    ⟨counters.countLive, inner, .counted left block (Word.add? counters.live 1), calls⟩
  | ⟨counters, inner, .countsPeak left block live, calls⟩ =>
    ⟨counters.countPeak live, inner, .releases left block, calls⟩
  | ⟨counters, inner, .releases left block, calls⟩ =>
    ⟨counters, inner.release (.worker index) block, .countsRelease left,
      calls ++ [.release block.size]⟩
  | ⟨counters, inner, .countsRelease left, calls⟩ =>
    ⟨counters.countRelease, inner, .countsGone left, calls⟩
  | ⟨counters, inner, .countsGone left, calls⟩ =>
    ⟨counters.countGone, inner, .next config.cycles left, calls⟩
  | ⟨counters, inner, .ended result, calls⟩ => ⟨counters, inner, .ended result, calls⟩

/-- There is a word for the live blocks after the step. -/
structure HasRoom (view : WorkerView) : Prop where
  above {left : Nat} {block : Block} (phase : view.state.phase = .countsLive left block) :
    view.counters.live.toNat + 1 < UInt64.size
  below {left : Nat} (phase : view.state.phase = .countsGone left) :
    0 < view.counters.live.toNat

section Step

variable {config : Config} {index : UInt64} {view other : WorkerView}

theorem step_first (config : Config) (index : UInt64) (counters : Counters) (inner : Stack) :
    step config index ⟨counters, inner, .first⟩ =
      ⟨counters, announced (.worker index) index config.cycles inner,
        .next config.cycles config.cycles.toNat, []⟩ := rfl

/-- Nothing comes after the end. -/
theorem step_of_ended (config : Config) (index : UInt64) {result : Except Stop UInt64}
    (h : view.state.phase = .ended result) :
    view.step config index = view := by
  obtain ⟨counters, inner, phase, calls⟩ := view
  subst h
  rfl

/-- What a step adds depends on the phase alone. -/
theorem sums_step (config : Config) (index : UInt64) (view : WorkerView) :
    (view.step config index).counters.sums =
      view.counters.sums + view.state.phase.adds config.blockSize := by
  obtain ⟨⟨allocations, releases, bytes, live, peak⟩, inner, phase, calls⟩ := view
  cases phase <;>
    simp [step, Counters.sums, Phase.adds, Counters.countAllocation, Counters.countBytes,
      Counters.countLive, Counters.countPeak, Counters.countRelease, Counters.countGone]

/-- The live blocks go up where the worker's block is counted in, and down where it is counted
out. -/
theorem live_step (room : view.HasRoom) :
    (view.step config index).counters.live.toNat + view.state.phase.isCountedIn.toNat =
      view.counters.live.toNat + (view.step config index).state.phase.isCountedIn.toNat := by
  obtain ⟨counters, inner, phase, calls⟩ := view
  cases phase with
  | countsLive left block =>
      have hword : Word.add? counters.live 1 = some (counters.live + 1) :=
        Word.add?_one (room.above rfl)
      have hlive : (counters.live + 1).toNat = counters.live.toNat + 1 := Word.toNat_of_add? hword
      simp only [step, hword]
      exact hlive
  | countsGone left =>
      have hpos : 0 < counters.live.toNat := room.below rfl
      have hlive : (counters.live - 1).toNat = counters.live.toNat - 1 :=
        UInt64.toNat_sub_of_le _ _ (UInt64.le_iff_toNat_le.2 hpos)
      simp only [step, Phase.isCountedIn_next, Bool.toNat_false]
      show (counters.live - 1).toNat + 1 = _
      omega
  | begins =>
      simp only [step, Phase.isCountedIn_next]
      rfl
  | asks left =>
      simp only [step, Phase.isCountedIn_answered]
      rfl
  | countsAllocation left block => rfl
  | countsBytes left block => rfl
  | countsPeak left block live => rfl
  | releases left block => rfl
  | countsRelease left => rfl
  | ended result => rfl

/-- A worker in two runs does the same if it has the same reply. -/
theorem akin_step (akin : view.state.Akin other.state) (room : view.HasRoom)
    (room' : other.HasRoom)
    (reply : SameReply (view.inner.allocate (.worker index) config.blockSize).1
      (other.inner.allocate (.worker index) config.blockSize).1) :
    (view.step config index).state.Akin (other.step config index).state := by
  obtain ⟨counters, inner, phase, calls⟩ := view
  obtain ⟨counters', inner', phase', calls'⟩ := other
  obtain ⟨hphase, hcalls⟩ := akin
  dsimp only at hphase hcalls
  subst hcalls
  cases hphase with
  | begins => exact ⟨Phase.akin_next _ _, rfl⟩
  | asks left =>
      rcases hcall : inner.allocate (.worker index) config.blockSize with ⟨answer, after⟩
      rcases hcall' : inner'.allocate (.worker index) config.blockSize with ⟨answer', after'⟩
      rw [hcall, hcall'] at reply
      simp only [step, hcall, hcall']
      cases reply with
      | granted size => exact ⟨.countsAllocation left size, rfl⟩
      | refused fault => exact ⟨.ended _, rfl⟩
  | countsAllocation left size => exact ⟨.countsBytes left size, rfl⟩
  | countsBytes left size => exact ⟨.countsLive left size, rfl⟩
  | countsLive left size =>
      have hword : Word.add? counters.live 1 = some (counters.live + 1) :=
        Word.add?_one (room.above rfl)
      have hword' : Word.add? counters'.live 1 = some (counters'.live + 1) :=
        Word.add?_one (room'.above rfl)
      simp only [step, hword, hword']
      exact ⟨.countsPeak left size _ _, rfl⟩
  | countsPeak left size live live' => exact ⟨.releases left size, rfl⟩
  | @releases left block other size =>
      exact ⟨.countsRelease left, congrArg (fun size => calls ++ [Call.release size]) size⟩
  | countsRelease left => exact ⟨.countsGone left, rfl⟩
  | countsGone left => exact ⟨Phase.akin_next _ _, rfl⟩
  | ended result => exact ⟨.ended result, rfl⟩

/-- What a step asks of the allocator below is in the worker's calls. -/
theorem history_step (config : Config) (index : UInt64) (view : WorkerView) :
    ∃ dealings, view.inner.History dealings (view.step config index).inner ∧
      (∀ dealing ∈ dealings, ¬ dealing.IsResize ∧ dealing.thread = .worker index) ∧
      (view.step config index).state.calls =
        view.state.calls ++ Dealing.callsBy (.worker index) dealings := by
  obtain ⟨counters, inner, phase, calls⟩ := view
  have idle : ∃ dealings, inner.History dealings inner ∧
      (∀ dealing ∈ dealings, ¬ dealing.IsResize ∧ dealing.thread = .worker index) ∧
      calls = calls ++ Dealing.callsBy (.worker index) dealings :=
    ⟨[], .nil inner, List.forall_mem_nil _, (List.append_nil calls).symm⟩
  cases phase with
  | begins =>
      exact ⟨[], (Stack.aside_emit ..).history, List.forall_mem_nil _, (List.append_nil calls).symm⟩
  | asks left =>
      rcases hcall : inner.allocate (.worker index) config.blockSize with ⟨answer, after⟩
      simp only [step, hcall]
      refine ⟨[.allocate (.worker index) config.blockSize answer],
        .cons (.allocate hcall) (.nil after), ?_, ?_⟩
      · intro dealing hdealing
        obtain rfl := List.mem_singleton.1 hdealing
        exact ⟨not_false, rfl⟩
      · exact congrArg (calls ++ ·)
          (Dealing.callsBy_self (.allocate (.worker index) config.blockSize answer)).symm
  | releases left block =>
      refine ⟨[.release (.worker index) block],
        .cons (.release (.worker index) block) (.nil _), ?_, ?_⟩
      · intro dealing hdealing
        obtain rfl := List.mem_singleton.1 hdealing
        exact ⟨not_false, rfl⟩
      · exact congrArg (calls ++ ·)
          (Dealing.callsBy_self (.release (.worker index) block)).symm
  | countsAllocation left block => exact idle
  | countsBytes left block => exact idle
  | countsLive left block => exact idle
  | countsPeak left block live => exact idle
  | countsRelease left => exact idle
  | countsGone left => exact idle
  | ended result => exact idle

end Step

/-- The allocator that the worker works on: the counting layer, and what is below it. -/
def stack (view : WorkerView) : Stack := view.inner.push (.counting view.counters)

@[simp]
theorem stack_mk (counters : Counters) (inner : Stack) (state : WorkerState) :
    stack ⟨counters, inner, state⟩ = inner.push (.counting counters) := rfl

/-- The worker has ended as its last cycles on the allocator end.  If they were granted, each
of them is in the counters. -/
structure Completes (config : Config) (index : UInt64) (left : Nat) (view last : WorkerView) :
    Prop where
  phase : last.state.phase =
    .ended ((cycles (.worker index) config.blockSize left view.stack).1.map fun _ => config.cycles)
  stack : last.stack = (cycles (.worker index) config.blockSize left view.stack).2
  calls : last.state.calls = view.state.calls ++
    Dealing.callsBy (.worker index)
      (dealings (.worker index) config.blockSize left view.stack)
  sums : (cycles (.worker index) config.blockSize left view.stack).1 = .ok () →
    last.counters.sums = view.counters.sums + left • (1, 1, config.blockSize)

/-- The worker has come to what its run on the allocator comes to. -/
structure Finishes (config : Config) (index : UInt64) (counters : Counters) (inner : Stack)
    (last : WorkerView) : Prop where
  phase : last.state.phase =
    .ended (alone config index (inner.push (.counting counters))).1
  stack : last.stack = (alone config index (inner.push (.counting counters))).2
  calls : last.state.calls = Dealing.callsBy (.worker index)
    (requests (.worker index) index config.cycles config.blockSize
      (inner.push (.counting counters)))
  sums (done : UInt64)
    (granted : (alone config index (inner.push (.counting counters))).1 = .ok done) :
    last.counters.sums = counters.sums + config.cycles.toNat • (1, 1, config.blockSize)

section Alone

variable {config : Config} {index : UInt64} {counters after : Counters} {inner between : Stack}
  {calls : List Call} {block : Block} {left : Nat}

/-- A cycle that nobody disturbs. -/
theorem iterate_granted
    (h : inner.allocate (.worker index) config.blockSize = (.ok block, between))
    (granted : counters.Granted config.blockSize after) :
    (step config index)^[8] ⟨counters, inner, .asks left, calls⟩ =
      ⟨after.recordRelease, between.release (.worker index) block, .next config.cycles left,
        calls ++ [.allocate config.blockSize true] ++ [.release block.size]⟩ := by
  obtain ⟨hroom, rfl⟩ := Counters.granted_iff.1 granted
  have hword := Word.add?_one hroom
  have hcounted : ((counters.countAllocation).countBytes config.blockSize).live = counters.live :=
    rfl
  simp only [Function.iterate_succ_apply, Function.iterate_zero, id, step, h, Phase.answered,
    hcounted, hword, Phase.counted]
  rfl

/-- What a cycle adds to the counters that only grow. -/
theorem sums_of_granted (granted : counters.Granted config.blockSize after) :
    after.recordRelease.sums = counters.sums + (1, 1, config.blockSize) := by
  obtain ⟨-, rfl⟩ := Counters.granted_iff.1 granted
  rfl

/-- A worker whose cycle was granted and that completes the others completes all. -/
theorem Completes.granted {last : WorkerView}
    (h : inner.allocate (.worker index) config.blockSize = (.ok block, between))
    (granted : counters.Granted config.blockSize after)
    (completes : Completes config index left
      ⟨after.recordRelease, between.release (.worker index) block, .next config.cycles left,
        calls ++ [.allocate config.blockSize true] ++ [.release block.size]⟩ last) :
    Completes config index (left + 1) ⟨counters, inner, .asks left, calls⟩ last := by
  have hwhole : (inner.push (.counting counters)).allocate (.worker index) config.blockSize =
      (.ok block, between.push (.counting after)) := Stack.allocateThrough_counting_ok h granted
  have hcycles := cycles_of_granted left hwhole
  refine ⟨?_, ?_, ?_, ?_⟩
  · exact completes.phase.trans
      (congrArg (fun run => Phase.ended (run.1.map fun _ => config.cycles)) hcycles.symm)
  · exact completes.stack.trans (congrArg Prod.snd hcycles.symm)
  · have hasked := Dealing.callsBy_cons_self
      (.allocate (.worker index) config.blockSize (.ok block))
    have hreleased := Dealing.callsBy_cons_self (.release (.worker index) block)
    simp only [Dealing.thread] at hasked hreleased
    rw [completes.calls]
    simp only [stack_mk, dealings_of_granted left hwhole, hasked, hreleased, List.append_assoc]
    rfl
  · intro hok
    rw [completes.sums ((congrArg Prod.fst hcycles.symm).trans hok), sums_of_granted granted,
      succ_nsmul', add_assoc]

/-- A worker whose request is not granted completes nothing more. -/
theorem Completes.stopped {stop : Stop}
    (h : inner.allocate (.worker index) config.blockSize = (.error stop, between)) :
    Completes config index (left + 1) ⟨counters, inner, .asks left, calls⟩
      (step config index ⟨counters, inner, .asks left, calls⟩) := by
  have hwhole : (inner.push (.counting counters)).allocate (.worker index) config.blockSize =
      (.error stop, between.push (.counting counters)) := Stack.allocateThrough_counting_error h
  have hcycles := cycles_of_stopped left hwhole
  simp only [step, h]
  refine ⟨?_, ?_, ?_, ?_⟩
  · exact congrArg (fun run => Phase.ended (run.1.map fun _ => config.cycles)) hcycles.symm
  · exact congrArg Prod.snd hcycles.symm
  · have hasked := Dealing.callsBy_self
      (.allocate (.worker index) config.blockSize (.error stop))
    simp only [Dealing.thread] at hasked
    simp only [stack_mk, dealings_of_stopped left hwhole, hasked]
  · intro hok
    cases (congrArg Prod.fst hcycles).symm.trans hok

/-- A worker that nobody disturbs completes its cycles. -/
theorem exists_completes (config : Config) (index : UInt64) (left : Nat) (counters : Counters)
    (inner : Stack) (calls : List Call) (room : counters.live.toNat + 1 < UInt64.size) :
    ∃ n ≤ 8 * left,
      Completes config index left ⟨counters, inner, .next config.cycles left, calls⟩
        ((step config index)^[n] ⟨counters, inner, .next config.cycles left, calls⟩) := by
  induction left generalizing counters inner calls with
  | zero =>
      refine ⟨0, le_rfl, rfl, rfl, (List.append_nil calls).symm, ?_⟩
      intro _
      rw [zero_nsmul, add_zero]
      rfl
  | succ left ih =>
      rcases hcall : inner.allocate (.worker index) config.blockSize with ⟨answer, between⟩
      cases answer with
      | ok block =>
          obtain ⟨after, granted⟩ : ∃ after, counters.Granted config.blockSize after :=
            ⟨_, Counters.granted_iff.2 ⟨room, rfl⟩⟩
          have hlive : after.recordRelease.live = counters.live := by
            obtain ⟨-, rfl⟩ := Counters.granted_iff.1 granted
            exact UInt64.add_sub_cancel counters.live 1
          obtain ⟨n, hn, completes⟩ := ih after.recordRelease
            (between.release (.worker index) block)
            (calls ++ [.allocate config.blockSize true] ++ [.release block.size])
            (by rw [hlive]; exact room)
          refine ⟨n + 8, by omega, ?_⟩
          rw [Function.iterate_add_apply, Phase.next, iterate_granted hcall granted]
          exact completes.granted hcall granted
      | error stop => exact ⟨1, by omega, .stopped hcall⟩

/-- A worker that nobody disturbs has come to the end of its run after eight steps for each
cycle and one to begin. -/
theorem finishes (config : Config) (index : UInt64) (counters : Counters) (inner : Stack)
    (room : counters.live.toNat + 1 < UInt64.size) {n : Nat}
    (hn : 8 * config.cycles.toNat + 1 ≤ n) :
    Finishes config index counters inner ((step config index)^[n] ⟨counters, inner, .first⟩) := by
  obtain ⟨m, hm, completes⟩ := exists_completes config index config.cycles.toNat counters
    (announced (.worker index) index config.cycles inner) [] room
  obtain ⟨rest, rfl⟩ : ∃ rest, n = rest + (m + 1) := ⟨n - (m + 1), by omega⟩
  have hrun : alone config index (inner.push (.counting counters)) = _ :=
    runWorker_eq (.worker index) index config.cycles config.blockSize
      (inner.push (.counting counters))
  have hlast := Function.iterate_fixed (step_of_ended config index completes.phase) rest
  rw [Function.iterate_add_apply, Function.iterate_succ_apply, step_first, hlast]
  refine ⟨?_, ?_, ?_, ?_⟩
  · rw [completes.phase, hrun]
    rfl
  · rw [completes.stack, hrun]
    rfl
  · rw [completes.calls]
    rfl
  · intro done hok
    exact completes.sums (cycles_of_runWorker _ _ _ _ _ hok)

end Alone
end WorkerView
end Workers
end HeapFixtures
