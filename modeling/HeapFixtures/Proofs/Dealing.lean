/-
# Dealings with an allocator

A dealing is one request of an allocator's user together with its answer.  The user
holds a block from the dealing that hands it out to the dealing that takes it back; a
resize does both.  A history is a sequence of dealings with one stack, between which
events may be written and a stop may be requested, but nothing else happens to the
layers or the heap.

Histories say what a user did, not what the stack keeps in mind: they name the blocks,
which no recorded call does, and they need no layer that records.  A list of operations
sent to the top of a stack is a history of its own making.
-/

import HeapFixtures.Proofs.Outcome

namespace HeapFixtures

/-- A panic does not come back to the caller. -/
theorem Panic.not_fault (panic : Panic) : ¬ ∃ fault, Stop.panic panic = .fault fault := by
  rintro ⟨fault, hfault⟩
  cases hfault

/-- A request and its answer. -/
inductive Dealing
  | allocate (thread : Thread) (size : UInt64) (answer : Except Stop Block)
  | release (thread : Thread) (block : Block)
  | resize (thread : Thread) (block : Block) (size : UInt64) (answer : Except Stop Block)

namespace Dealing

def thread : Dealing → Thread
  | .allocate thread .. | .release thread _ | .resize thread .. => thread

/-- The block that a dealing hands out. -/
def gained? : Dealing → Option Block
  | .allocate _ _ (.ok block) | .resize _ _ _ (.ok block) => some block
  | _ => none

/-- The block that a dealing takes back.  A resize takes it back whatever its answer. -/
def parted? : Dealing → Option Block
  | .release _ block | .resize _ block _ _ => some block
  | .allocate .. => none

/-- What the user keeps of the blocks that it held before a dealing. -/
def keep (dealing : Dealing) (held : List Block) : List Block :=
  match dealing.parted? with
  | none => held
  | some block => held.erase block

/-- The blocks that the user holds after a dealing. -/
def hold (held : List Block) (dealing : Dealing) : List Block :=
  match dealing.gained? with
  | none => dealing.keep held
  | some block => block :: dealing.keep held

/-- The user gives away only what it holds. -/
def Lawful (held : List Block) (dealing : Dealing) : Prop :=
  ∀ block ∈ dealing.parted?, block ∈ held

/-- The answer came back to the user: it is a block or a fault, and not a panic. -/
def Returned : Dealing → Prop
  | .allocate _ _ answer | .resize _ _ _ answer =>
    ∀ stop, answer = .error stop → ∃ fault, stop = .fault fault
  | .release .. => True

/-- The blocks held after a sequence of dealings. -/
def holdAll (held : List Block) (dealings : List Dealing) : List Block :=
  dealings.foldl hold held

/-- A condition on each dealing of a sequence and on the blocks held before it. -/
def Throughout (condition : List Block → Dealing → Prop) : List Block → List Dealing → Prop
  | _, [] => True
  | held, dealing :: rest => condition held dealing ∧ Throughout condition (hold held dealing) rest

/-- The blocks handed out by a sequence of dealings. -/
def gained (dealings : List Dealing) : List Block := dealings.filterMap gained?

/-- The blocks taken back by a sequence of dealings. -/
def parted (dealings : List Dealing) : List Block := dealings.filterMap parted?

section Throughout

variable {condition other : List Block → Dealing → Prop} {held : List Block}
  {dealings rest : List Dealing}

theorem holdAll_append (held : List Block) (dealings rest : List Dealing) :
    holdAll held (dealings ++ rest) = holdAll (holdAll held dealings) rest :=
  List.foldl_append

theorem throughout_append :
    Throughout condition held (dealings ++ rest) ↔
      Throughout condition held dealings ∧ Throughout condition (holdAll held dealings) rest := by
  induction dealings generalizing held with
  | nil => simp [Throughout, holdAll]
  | cons dealing dealings ih => simp [Throughout, holdAll, ih, and_assoc]

end Throughout

instance decidableLawful (held : List Block) (dealing : Dealing) :
    Decidable (Lawful held dealing) :=
  inferInstanceAs (Decidable (∀ block ∈ dealing.parted?, block ∈ held))

instance decidableThroughout (condition : List Block → Dealing → Prop)
    [decidable : ∀ held dealing, Decidable (condition held dealing)] :
    ∀ held dealings, Decidable (Throughout condition held dealings)
  | _, [] => .isTrue trivial
  | held, dealing :: rest =>
    have := decidableThroughout condition (hold held dealing) rest
    inferInstanceAs
      (Decidable (condition held dealing ∧ Throughout condition (hold held dealing) rest))

end Dealing

/-- What a user asks of an allocator. -/
inductive Operation
  | allocate (size : UInt64)
  | release (block : Block)
  | resize (block : Block) (size : UInt64)
  /-- A block asked for and given back at once. -/
  | pair (size : UInt64)

namespace Stack

variable {stack after last : Stack}

/-- One dealing with a stack. -/
inductive Serves (stack : Stack) : Dealing → Stack → Prop
  | allocate {thread : Thread} {size : UInt64} {answer : Except Stop Block} {after : Stack}
      (served : stack.allocate thread size = (answer, after)) :
      Serves stack (.allocate thread size answer) after
  | release (thread : Thread) (block : Block) :
      Serves stack (.release thread block) (stack.release thread block)
  | resize {thread : Thread} {block : Block} {size : UInt64} {answer : Except Stop Block}
      {after : Stack} (served : stack.resize thread block size = (answer, after)) :
      Serves stack (.resize thread block size answer) after

/-- Nothing has happened to the layers, the heap and the list of calls. -/
def Aside (stack after : Stack) : Prop :=
  after.layers = stack.layers ∧ after.site.heap = stack.site.heap ∧
    after.site.calls = stack.site.calls

/-- A sequence of dealings with a stack, and what happens aside. -/
inductive History : Stack → List Dealing → Stack → Prop
  | nil (stack : Stack) : History stack [] stack
  | aside {stack after last : Stack} {dealings : List Dealing} (aside : stack.Aside after)
      (rest : History after dealings last) : History stack dealings last
  | cons {stack after last : Stack} {dealing : Dealing} {dealings : List Dealing}
      (served : stack.Serves dealing after) (rest : History after dealings last) :
      History stack (dealing :: dealings) last

theorem History.append {dealings rest : List Dealing} (h : stack.History dealings after)
    (h' : after.History rest last) : stack.History (dealings ++ rest) last := by
  induction h with
  | nil _ => exact h'
  | aside aside _ ih => exact .aside aside (ih h')
  | cons served _ ih => exact .cons served (ih h')

theorem Aside.history (h : stack.Aside after) : stack.History [] after :=
  .aside h (.nil after)

theorem aside_emit (stack : Stack) (thread : Thread) (level : Log.Level)
    (origin : Log.Origin) (message : String) (fields : List (String × Log.Value)) :
    stack.Aside (stack.emit thread level origin message fields) := ⟨rfl, rfl, rfl⟩

/-- What a request for a new block comes to. -/
theorem allocates_of_allocate {thread : Thread} {size : UInt64} {answer : Except Stop Block}
    (h : stack.allocate thread size = (answer, after)) :
    Allocates size stack.layers stack.site answer after := by
  have hallocates := allocates thread size stack.layers stack.site
  unfold allocate at h
  rw [h] at hallocates
  exact hallocates

/-- What a request to move a block comes to. -/
theorem resizes_of_resize {thread : Thread} {block : Block} {size : UInt64}
    {answer : Except Stop Block} (h : stack.resize thread block size = (answer, after)) :
    Resizes block size stack.layers stack.site answer after := by
  have hresizes := resizes thread block size stack.layers stack.site
  unfold resize at h
  rw [h] at hresizes
  exact hresizes

/-- A pair is a request and, where it was granted, the release of its block. -/
theorem pair_eq (stack : Stack) (thread : Thread) (size : UInt64) :
    (∃ block between, stack.allocate thread size = (.ok block, between) ∧
        stack.pair thread size = (.ok (), between.release thread block)) ∨
      ∃ stop between, stack.allocate thread size = (.error stop, between) ∧
        stack.pair thread size = (.error stop, between) := by
  unfold pair
  rcases h : stack.allocate thread size with ⟨answer, between⟩
  cases answer with
  | ok block => exact .inl ⟨block, between, rfl, rfl⟩
  | error stop => exact .inr ⟨stop, between, rfl, rfl⟩

/-- Sends an operation to the top of a stack, and lists its dealings. -/
def operate (stack : Stack) (thread : Thread) : Operation → List Dealing × Stack
  | .allocate size =>
    let (answer, after) := stack.allocate thread size
    ([.allocate thread size answer], after)
  | .release block => ([.release thread block], stack.release thread block)
  | .resize block size =>
    let (answer, after) := stack.resize thread block size
    ([.resize thread block size answer], after)
  | .pair size =>
    let after := (stack.pair thread size).2
    match (stack.allocate thread size).1 with
    | .ok block => ([.allocate thread size (.ok block), .release thread block], after)
    | .error stop => ([.allocate thread size (.error stop)], after)

/-- Sends operations to the top of a stack, one after the other. -/
def operateAll (stack : Stack) : List (Thread × Operation) → List Dealing × Stack
  | [] => ([], stack)
  | (thread, operation) :: rest =>
    let (dealings, after) := stack.operate thread operation
    let (further, last) := after.operateAll rest
    (dealings ++ further, last)

/-- The dealings of the first operations come first. -/
theorem dealings_operateAll_append (stack : Stack) (first rest : List (Thread × Operation)) :
    (stack.operateAll (first ++ rest)).1 =
      (stack.operateAll first).1 ++ ((stack.operateAll first).2.operateAll rest).1 := by
  induction first generalizing stack with
  | nil => rfl
  | cons entry first ih =>
      obtain ⟨thread, operation⟩ := entry
      simp only [List.cons_append, operateAll, ih, List.append_assoc]

/-- An operation is what its dealings say. -/
theorem history_operate (stack : Stack) (thread : Thread) (operation : Operation) :
    stack.History (stack.operate thread operation).1 (stack.operate thread operation).2 := by
  cases operation with
  | allocate size =>
      exact .cons (.allocate rfl) (.nil _)
  | release block =>
      exact .cons (.release thread block) (.nil _)
  | resize block size =>
      exact .cons (.resize rfl) (.nil _)
  | pair size =>
      obtain ⟨block, between, hallocate, hpair⟩ | ⟨stop, between, hallocate, hpair⟩ :=
        pair_eq stack thread size
      · simp only [operate, hallocate, hpair]
        exact .cons (.allocate hallocate) (.cons (.release thread block) (.nil _))
      · simp only [operate, hallocate, hpair]
        exact .cons (.allocate hallocate) (.nil _)

/-- A list of operations is what its dealings say. -/
theorem history_operateAll (stack : Stack) (operations : List (Thread × Operation)) :
    stack.History (stack.operateAll operations).1 (stack.operateAll operations).2 := by
  induction operations generalizing stack with
  | nil => exact .nil stack
  | cons entry rest ih =>
      obtain ⟨thread, operation⟩ := entry
      exact (history_operate stack thread operation).append (ih _)

end Stack

/-- Requests beyond a size are refused, and nothing else. -/
def Refusals.capped (cap : UInt64) : Refusals := ⟨none, none, [], [], none, some cap, none⟩

/-- A gate panics only where its description says so. -/
theorem Refusals.rule_ne_panic {refusals : Refusals} (h : refusals.panicAt = [])
    (thread : Thread) (number : Nat) (size : UInt64) (panic : Panic) :
    (refusals.rule thread number size).answer ≠ .panic panic := by
  unfold rule
  grind

/-- Three counting layers over a heap that grants anything.  Between the upper two stands
a gate that does not pass a resize on, between the lower two one that does. -/
def Stack.layered : Stack :=
  ⟨[.counting .zero, .gate (.ofRefusals (.capped 64) false false), .counting .zero,
      .gate (.ofRefusals (.capped 32) true false), .counting .zero],
    .fresh .claimed (.start .silent)⟩

/-- The gates of this stack only refuse. -/
theorem Stack.calm_layered : Calm Stack.layered.layers := by
  intro gate hgate
  simp only [layered, List.mem_cons, reduceCtorEq, Layer.gate.injEq, List.not_mem_nil,
    or_false, false_or] at hgate
  rcases hgate with rfl | rfl
  · exact Refusals.rule_ne_panic rfl
  · exact Refusals.rule_ne_panic rfl

end HeapFixtures
