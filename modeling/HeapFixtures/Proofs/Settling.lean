/-
# Fixtures settle their accounts

Each fixture is a careful user of its allocator, on every way out of it: a limit, a
request to stop, a refused block, a block that does not grow, a line that cannot be
written.  A part of a fixture that returns while the caller holds some blocks has dealt
with the allocator so that all of them are back; parts compose like the calls they
describe.

A panic is the one way out on which a block may be lost, and no call returns from it.
-/

import HeapFixtures.Fixture.Growth
import HeapFixtures.Fixture.Workers
import HeapFixtures.Proofs.Custody
import HeapFixtures.Proofs.SinkText

namespace HeapFixtures

/-- A result that comes back to the caller: an answer or a fault. -/
def Returns {α : Type} (result : Except Stop α) : Prop :=
  ∀ stop, result = .error stop → ∃ fault, stop = .fault fault

namespace Returns

theorem ok {α : Type} (value : α) : Returns (.ok value : Except Stop α) := by
  intro stop hstop
  cases hstop

theorem fault {α : Type} (fault : Fault) : Returns (.error (.fault fault) : Except Stop α) := by
  intro stop hstop
  exact ⟨fault, (Except.error.inj hstop).symm⟩

/-- Whether a stop comes back does not depend on the answer that it stands in for. -/
theorem of_error {α β : Type} {stop : Stop} (h : Returns (.error stop : Except Stop α)) :
    Returns (.error stop : Except Stop β) := by
  intro other hother
  exact h other (congrArg _ (Except.error.inj hother))

end Returns

/-- A part of a call that begins with some blocks in hand and, if it returns, has been a
careful user of the stack. -/
def Settles {α : Type} (held : List Block) (before : Stack) (result : Except Stop α)
    (after : Stack) : Prop :=
  Returns result → ∃ dealings, before.History dealings after ∧
    (∀ dealing ∈ dealings, dealing.Returned) ∧ Dealing.Careful held dealings

namespace Settles

variable {α β : Type} {before between after : Stack} {held : List Block} {block fresh : Block}
  {thread : Thread} {size : UInt64} {result : Except Stop α} {stop : Stop}

theorem of_aside (aside : before.Aside after) : Settles [] before result after := by
  intro _
  exact ⟨[], aside.history, fun _ h => absurd h List.not_mem_nil, .nil⟩

theorem of_panic (panic : Panic) :
    Settles held before (.error (.panic panic) : Except Stop α) after := by
  intro returns
  exact absurd (returns _ rfl) panic.not_fault

theorem aside (aside : before.Aside between) (rest : Settles held between result after) :
    Settles held before result after := by
  intro returns
  obtain ⟨dealings, history, hreturned, careful⟩ := rest returns
  exact ⟨dealings, .aside aside history, hreturned, careful⟩

/-- A part of a call passes its stop on to the whole. -/
theorem passOn (h : Settles held before (.error stop : Except Stop β) after) :
    Settles held before (.error stop : Except Stop α) after := by
  intro returns
  exact h returns.of_error

/-- One dealing first, and then the rest of the call. -/
theorem cons {dealing : Dealing} (served : before.Serves dealing between)
    (returned : dealing.Returned) (lawful : dealing.Lawful held)
    (single : (Dealing.hold held dealing).length ≤ 1)
    (h : Settles (Dealing.hold held dealing) between result after) :
    Settles held before result after := by
  intro returns
  obtain ⟨dealings, history, hreturned, careful⟩ := h returns
  refine ⟨dealing :: dealings, .cons served history, ?_, careful.cons lawful single⟩
  exact List.forall_mem_cons.2 ⟨returned, hreturned⟩

/-- One part of a call that goes well, and then another. -/
theorem append {value : β} (h : Settles held before (.ok value : Except Stop β) between)
    (h' : Settles [] between result after) : Settles held before result after := by
  intro returns
  obtain ⟨dealings, history, hreturned, careful⟩ := h (.ok value)
  obtain ⟨rest, history', hreturned', careful'⟩ := h' returns
  refine ⟨dealings ++ rest, history.append history', ?_, careful.append careful'⟩
  exact List.forall_mem_append.2 ⟨hreturned, hreturned'⟩

/-- A granted block is in hand afterwards. -/
theorem allocate (h : before.allocate thread size = (.ok block, between))
    (rest : Settles [block] between result after) : Settles [] before result after := by
  have hlawful : Dealing.Lawful [] (.allocate thread size (.ok block)) := by
    intro given hgiven
    cases hgiven
  exact cons (.allocate h) (Returns.ok block) hlawful (Nat.le_refl 1) rest

/-- A refused block leaves nothing in hand. -/
theorem refused (h : before.allocate thread size = (.error stop, after)) :
    Settles [] before (.error stop : Except Stop α) after := by
  intro returns
  have hlawful : Dealing.Lawful [] (.allocate thread size (.error stop)) := by
    intro given hgiven
    cases hgiven
  have hreturned : Returns (.error stop : Except Stop Block) := returns.of_error
  exact cons (.allocate h) hreturned hlawful (Nat.zero_le 1) (of_aside ⟨rfl, rfl, rfl⟩) returns

/-- A dealing that takes back the block in hand leaves the one that it hands out. -/
theorem exchange {dealing : Dealing} (served : before.Serves dealing between)
    (returned : dealing.Returned) (given : dealing.parted? = some block)
    (rest : Settles dealing.gained?.toList between result after) :
    Settles [block] before result after := by
  have hheld := Dealing.hold_singleton given
  apply cons served returned (Dealing.lawful_singleton given)
  · rw [hheld]
    exact Option.length_toList_le
  · rw [hheld]
    exact rest

/-- A block in hand may be given back. -/
theorem release (thread : Thread) (block : Block)
    (rest : Settles [] (before.release thread block) result after) :
    Settles [block] before result after :=
  exchange (.release thread block) trivial rfl rest

/-- A block in hand may be moved to a new size. -/
theorem resize (h : before.resize thread block size = (.ok fresh, between))
    (rest : Settles [fresh] between result after) : Settles [block] before result after :=
  exchange (.resize h) (Returns.ok fresh) rfl rest

/-- A refused resize leaves nothing in hand: the block is gone all the same. -/
theorem unresized (h : before.resize thread block size = (.error stop, after)) :
    Settles [block] before (.error stop : Except Stop α) after := by
  intro returns
  have hreturned : Returns (.error stop : Except Stop Block) := returns.of_error
  exact exchange (.resize h) hreturned rfl (of_aside ⟨rfl, rfl, rfl⟩) returns

/-- A call that settles leaves nothing behind. -/
theorem custody (h : Settles [] before result after) (returns : Returns result) :
    ∃ dealings, Custody before after dealings := by
  obtain ⟨dealings, history, hreturned, careful⟩ := h returns
  exact ⟨dealings, custody_of_careful history hreturned careful⟩

end Settles

/-- A pair settles, granted or not. -/
theorem Stack.settles_pair (stack : Stack) (thread : Thread) (size : UInt64) :
    Settles [] stack (stack.pair thread size).1 (stack.pair thread size).2 := by
  obtain ⟨block, between, hallocate, hpair⟩ | ⟨stop, between, hallocate, hpair⟩ :=
    pair_eq stack thread size
  · rw [hpair]
    exact .allocate hallocate (.release thread block (.of_aside ⟨rfl, rfl, rfl⟩))
  · rw [hpair]
    exact .refused hallocate

namespace Workers

theorem settles_cycles (thread : Thread) (size : UInt64) (left : Nat) (stack : Stack) :
    Settles [] stack (cycles thread size left stack).1 (cycles thread size left stack).2 := by
  induction left generalizing stack with
  | zero => exact .of_aside ⟨rfl, rfl, rfl⟩
  | succ left ih =>
      have hpair := stack.settles_pair thread size
      unfold cycles
      rcases hcall : stack.pair thread size with ⟨answer, after⟩
      rw [hcall] at hpair
      cases answer with
      | ok _ => exact hpair.append (ih after)
      | error stop => exact hpair

/-- A worker settles, whichever request of it is refused. -/
theorem settles_runWorker (thread : Thread) (index count size : UInt64) (stack : Stack) :
    Settles [] stack (runWorker thread index count size stack).1
      (runWorker thread index count size stack).2 := by
  unfold runWorker
  apply Settles.aside (Stack.aside_emit stack thread .trace .workers "worker started"
    [("index", .word index), ("cycles", .word count)])
  dsimp only
  generalize stack.emit thread .trace .workers "worker started"
    [("index", .word index), ("cycles", .word count)] = begun
  have hcycles := settles_cycles thread size count.toNat begun
  rcases hcall : cycles thread size count.toNat begun with ⟨answer, after⟩
  rw [hcall] at hcycles
  cases answer with
  | ok _ => exact hcycles.append (.of_aside ⟨rfl, rfl, rfl⟩)
  | error stop => exact hcycles.passOn

end Workers

namespace Growth

theorem settles_growThrough (thread : Thread) (sizes : List UInt64) (block : Block)
    (stack : Stack) :
    Settles [block] stack (growThrough thread sizes block stack).1
      (growThrough thread sizes block stack).2 := by
  induction sizes generalizing block stack with
  | nil => exact .release thread block (.of_aside ⟨rfl, rfl, rfl⟩)
  | cons size rest ih =>
      unfold growThrough
      rcases hcall : stack.resize thread block size with ⟨answer, after⟩
      cases answer with
      | ok fresh => exact .resize hcall (ih fresh after)
      | error stop => exact .unresized hcall

theorem settles_grow (thread : Thread) (sizes : List UInt64) (stack : Stack) :
    Settles [] stack (grow thread sizes stack).1 (grow thread sizes stack).2 := by
  cases sizes with
  | nil => exact .of_aside ⟨rfl, rfl, rfl⟩
  | cons first rest =>
      rcases hcall : stack.allocate thread first with ⟨answer, after⟩
      cases answer with
      | ok block =>
          simp only [grow, hcall]
          exact .allocate hcall (settles_growThrough thread rest block after)
      | error stop =>
          simp only [grow, hcall]
          exact .refused hcall

theorem settles_rounds (sizes : List UInt64) (left : Nat) (round requests : UInt64)
    (stack : Stack) :
    Settles [] stack (rounds sizes left round requests stack).1
      (rounds sizes left round requests stack).2 := by
  induction left generalizing round requests stack with
  | zero => exact .of_aside ⟨rfl, rfl, rfl⟩
  | succ left ih =>
      have hgrow := settles_grow .main sizes stack
      unfold rounds
      rcases hcall : grow .main sizes stack with ⟨answer, after⟩
      rw [hcall] at hgrow
      cases answer with
      | error stop => exact hgrow.passOn
      | ok _ =>
          dsimp only
          split
          · exact .of_panic .addOverflow
          · exact hgrow.append (.aside (Stack.aside_emit ..) (ih _ _ _))

/-- The growing fixture settles, whichever size is refused. -/
theorem settles_run (config : Config) (stack : Stack) :
    Settles [] stack (run config stack).1 (run config stack).2 := by
  unfold run
  split
  · exact .of_aside ⟨rfl, rfl, rfl⟩
  · exact .aside (Stack.aside_emit ..) (settles_rounds _ _ _ _ _)

end Growth
namespace Sequential

/-- Pairs are careful dealings. -/
theorem careful_of_paired {size : UInt64} {count : Nat} {dealings : List Dealing}
    (h : Dealing.Paired size [] count dealings) :
    (∀ dealing ∈ dealings, dealing.Returned) ∧ Dealing.Careful [] dealings := by
  induction h with
  | nil => exact ⟨fun _ h => absurd h List.not_mem_nil, .nil⟩
  | @cons count rest block _ ih =>
      obtain ⟨hreturned, hcareful⟩ := ih
      have hgranted : Dealing.Returned (.allocate .main size (.ok block)) := Returns.ok block
      constructor
      · exact List.forall_mem_cons.2 ⟨hgranted, List.forall_mem_cons.2 ⟨trivial, hreturned⟩⟩
      · exact hcareful.cycle .main size block

/-- What an iteration that was cut short has dealt with the allocator. -/
theorem Cut.dealings_eq {size : UInt64} {stop : Stop} {effects : List Effect}
    (cut : Cut size stop effects) :
    Effect.dealings effects = [.allocate .main size (.error stop)] ∨
      Dealing.Paired size [] 1 (Effect.dealings effects) := by
  cases cut with
  | refused stop => exact .inl rfl
  | unwritten block written =>
      obtain ⟨part, front, rest, reply, -, -, takes, -⟩ := written.unfinished
      exact .inr (Effect.tally_writes block takes).paired
  | unflushed error block takes =>
      exact .inr (Effect.tally_flush block (.error error) takes).paired

theorem settles_loop (config : Config) (pauses : Pauses) (room : Nat) (session : Session) :
    Settles [] session.stack (loop config pauses room session).1
      (loop config pauses room session).2.stack := by
  obtain ⟨iterations, last, hwhole, hacts, hclosed⟩ := acts_loop config pauses room session
  generalize loop config pauses room session = ended at hacts hclosed
  obtain ⟨result, final⟩ := ended
  have hhistory := hacts.history
  obtain ⟨hreturned, hcareful⟩ := careful_of_paired (tally_iterations hwhole).paired
  rw [Effect.dealings_append] at hhistory
  intro returns
  have hlast : (∀ dealing ∈ Effect.dealings last, dealing.Returned) ∧
      Dealing.Careful [] (Effect.dealings last) := by
    cases hclosed with
    | finished reported counted => exact ⟨fun _ h => absurd h List.not_mem_nil, .nil⟩
    | @cut _ stop _ cut counted =>
        rcases cut.dealings_eq with hrefused | hpaired
        · rw [hrefused]
          have hreturned : Dealing.Returned (.allocate .main config.blockSize (.error stop)) :=
            Returns.of_error returns
          exact ⟨List.forall_mem_singleton.2 hreturned, .ungranted .main config.blockSize stop⟩
        · exact careful_of_paired hpaired
    | lost completed isLost =>
        obtain ⟨fault, hfault⟩ := returns _ rfl
        exact (isLost fault hfault).elim
  exact ⟨_, hhistory, List.forall_mem_append.2 ⟨hreturned, hlast.1⟩, hcareful.append hlast.2⟩

/-- The sequential fixture settles, whatever its sink does and whenever it is asked to
stop. -/
theorem settles_run (config : Config) (pauses : Pauses) (stack : Stack) (sink : Sink) :
    Settles [] stack (run config pauses stack sink).1 (run config pauses stack sink).2.stack := by
  unfold run
  split
  · exact .of_aside ⟨rfl, rfl, rfl⟩
  · rename_i begun hstart
    unfold start at hstart
    split at hstart
    · cases hstart
    · obtain rfl := Except.ok.inj hstart
      exact .aside (Stack.aside_emit ..) (settles_loop config pauses UInt64.size _)

end Sequential

/-- Whichever fixture returns, with an answer or with a fault, every block that it was
handed out is back, once, and the stack has in use what it had before. -/
theorem fixtures_give_back_every_block (stack : Stack) :
    (∀ config pauses sink, Returns (Sequential.run config pauses stack sink).1 →
        ∃ dealings, Custody stack (Sequential.run config pauses stack sink).2.stack dealings) ∧
      (∀ thread index count size, Returns (Workers.runWorker thread index count size stack).1 →
        ∃ dealings, Custody stack (Workers.runWorker thread index count size stack).2 dealings) ∧
      ∀ config, Returns (Growth.run config stack).1 →
        ∃ dealings, Custody stack (Growth.run config stack).2 dealings := by
  refine ⟨?_, ?_, ?_⟩
  · intro config pauses sink
    exact (Sequential.settles_run config pauses stack sink).custody
  · intro thread index count size
    exact (Workers.settles_runWorker thread index count size stack).custody
  · intro config
    exact (Growth.settles_run config stack).custody

/-- Three layers count nothing in use after a line that the sink does not take, after two
cycles of a worker, and after a block that the lower gate keeps from growing. -/
theorem three_runs_hold_no_block :
    (Sequential.run ⟨16, ⟨0, 0⟩, some 2⟩ .quiet .layered .full).1 =
        .error (.fault (.io (.os 28))) ∧
      (Workers.runWorker .main 0 2 16 .layered).1 = .ok 2 ∧
      (Growth.run ⟨1, 8, 64⟩ .layered).1 = .error (.fault (.allocationFailed 64)) ∧
      (∃ dealings, Custody .layered
        (Sequential.run ⟨16, ⟨0, 0⟩, some 2⟩ .quiet .layered .full).2.stack dealings) ∧
      (∃ dealings, Custody .layered (Workers.runWorker .main 0 2 16 .layered).2 dealings) ∧
      ∃ dealings, Custody .layered (Growth.run ⟨1, 8, 64⟩ .layered).2 dealings := by
  have hline : (Sequential.run ⟨16, ⟨0, 0⟩, some 2⟩ .quiet .layered .full).1 =
      .error (.fault (.io (.os 28))) := by cbv
  have hcycles : (Workers.runWorker .main 0 2 16 .layered).1 = .ok 2 := by decide
  have hgrowth : (Growth.run ⟨1, 8, 64⟩ .layered).1 =
      .error (.fault (.allocationFailed 64)) := by decide
  obtain ⟨hsequential, hworker, hgrowing⟩ := fixtures_give_back_every_block .layered
  refine ⟨hline, hcycles, hgrowth, hsequential _ _ _ ?_, hworker _ _ _ _ ?_, hgrowing _ ?_⟩
  · intro stop hstop
    rw [hline] at hstop
    exact ⟨_, (Except.error.inj hstop).symm⟩
  · intro stop hstop
    rw [hcycles] at hstop
    cases hstop
  · intro stop hstop
    rw [hgrowth] at hstop
    exact ⟨_, (Except.error.inj hstop).symm⟩

end HeapFixtures
