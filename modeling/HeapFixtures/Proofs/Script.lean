/-
# Scripts

What a fixture is going to ask of its allocator is settled before it asks for anything: a
script of requests and releases.  A script names no block, since its user has one in hand at
most; the answers decide which block that is.

A script is performed if every request of it is granted, and broken off at the first request
that is not.  After that nothing more is asked: neither the rest of the script nor a release,
since a block that was not granted need not be given back, and a block that did not move is
gone.
-/

import HeapFixtures.Proofs.Reckoning
import HeapFixtures.Proofs.Settling

namespace HeapFixtures

/-- What a user with one block at most asks of an allocator. -/
inductive Ask
  | allocate (size : UInt64)
  /-- The block in hand is moved. -/
  | resize (size : UInt64)
  /-- The block in hand is given back. -/
  | release
  deriving DecidableEq

/-- The size that is asked for.  A release is no request. -/
def Ask.size? : Ask → Option UInt64
  | .allocate size | .resize size => some size
  | .release => none

/-- What is asked of an allocator, in this order. -/
abbrev Script := List Ask

namespace Script

/-- The sizes of all requests. -/
def sizes (script : Script) : List UInt64 := script.filterMap Ask.size?

/-- A block is moved from size to size and given back. -/
def growth (sizes : List UInt64) : Script := sizes.map .resize ++ [.release]

/-- A block of the first size that is moved to all others and given back. -/
def round : List UInt64 → Script
  | [] => []
  | first :: rest => .allocate first :: growth rest

/-- A number of rounds. -/
def rounds (sizes : List UInt64) (count : Nat) : Script :=
  (List.replicate count (round sizes)).flatten

/-- A number of blocks, each of them given back before the next. -/
def pairs (size : UInt64) (count : Nat) : Script := rounds [size] count

theorem sizes_append (front rest : Script) : sizes (front ++ rest) = sizes front ++ sizes rest :=
  List.filterMap_append

theorem sizes_growth (sizes : List UInt64) : (growth sizes).sizes = sizes := by
  induction sizes with
  | nil => rfl
  | cons size rest ih => exact congrArg (size :: ·) ih

theorem sizes_round (sizes : List UInt64) : (round sizes).sizes = sizes := by
  cases sizes with
  | nil => rfl
  | cons first rest => exact congrArg (first :: ·) (sizes_growth rest)

theorem rounds_succ (sizes : List UInt64) (count : Nat) :
    rounds sizes (count + 1) = round sizes ++ rounds sizes count := by
  rw [rounds, List.replicate_succ, List.flatten_cons]
  rfl

theorem rounds_succ' (sizes : List UInt64) (count : Nat) :
    rounds sizes (count + 1) = rounds sizes count ++ round sizes := by
  rw [rounds, List.replicate_succ', List.flatten_append, List.flatten_singleton]
  rfl

theorem sizes_rounds (sizes : List UInt64) (count : Nat) :
    (rounds sizes count).sizes = (List.replicate count sizes).flatten := by
  induction count with
  | zero => rfl
  | succ count ih =>
      rw [rounds_succ, sizes_append, sizes_round, ih, List.replicate_succ, List.flatten_cons]

/-- Dealings that do what a script asks for, each of them with the block in hand.  Every
request is granted. -/
inductive Performed (thread : Thread) :
    Option Block → Script → List Dealing → Option Block → Prop
  | nil (held : Option Block) : Performed thread held [] [] held
  | allocate {size : UInt64} {block : Block} {script : Script} {dealings : List Dealing}
      {last : Option Block} (rest : Performed thread (some block) script dealings last) :
      Performed thread none (.allocate size :: script)
        (.allocate thread size (.ok block) :: dealings) last
  | resize {size : UInt64} {block fresh : Block} {script : Script} {dealings : List Dealing}
      {last : Option Block} (rest : Performed thread (some fresh) script dealings last) :
      Performed thread (some block) (.resize size :: script)
        (.resize thread block size (.ok fresh) :: dealings) last
  | release {block : Block} {script : Script} {dealings : List Dealing}
      {last : Option Block} (rest : Performed thread none script dealings last) :
      Performed thread (some block) (.release :: script) (.release thread block :: dealings) last

/-- A request that is not granted. -/
inductive Denied (thread : Thread) (stop : Stop) : Option Block → Ask → Dealing → Prop
  | allocate (size : UInt64) :
      Denied thread stop none (.allocate size) (.allocate thread size (.error stop))
  | resize (block : Block) (size : UInt64) :
      Denied thread stop (some block) (.resize size) (.resize thread block size (.error stop))

/-- Dealings that do what a script asks for up to its request of a number, the first being 1.
That request is not granted, and it is the last of the dealings. -/
inductive BrokenOff (thread : Thread) (stop : Stop) (held : Option Block) (script : Script)
    (number : Nat) : List Dealing → Prop
  | intro {front rest : Script} {ask : Ask} {done : List Dealing} {between : Option Block}
      {last : Dealing} (splits : script = front ++ ask :: rest)
      (performed : Performed thread held front done between)
      (denied : Denied thread stop between ask last)
      (numbered : number = front.sizes.length + 1) :
      BrokenOff thread stop held script number (done ++ [last])

section Composition

variable {thread : Thread} {stop : Stop} {held between last : Option Block}
  {front script : Script} {number : Nat} {done dealings : List Dealing}

theorem Performed.append (h : Performed thread held front done between)
    (h' : Performed thread between script dealings last) :
    Performed thread held (front ++ script) (done ++ dealings) last := by
  induction h with
  | nil => exact h'
  | allocate _ ih => exact .allocate (ih h')
  | resize _ ih => exact .resize (ih h')
  | release _ ih => exact .release (ih h')

/-- What is broken off after a part that was performed is broken off so much later. -/
theorem Performed.brokenOff (h : Performed thread held front done between)
    (h' : BrokenOff thread stop between script number dealings) :
    BrokenOff thread stop held (front ++ script) (front.sizes.length + number)
      (done ++ dealings) := by
  obtain ⟨rfl, performed, denied, rfl⟩ := h'
  rw [← List.append_assoc, ← List.append_assoc]
  refine .intro rfl (h.append performed) denied ?_
  rw [sizes_append, List.length_append]
  rfl

/-- What would have come after a request that is not granted does not matter. -/
theorem BrokenOff.extend (h : BrokenOff thread stop held script number dealings)
    (more : Script) : BrokenOff thread stop held (script ++ more) number dealings := by
  obtain ⟨rfl, performed, denied, rfl⟩ := h
  exact .intro (List.append_assoc ..) performed denied rfl

end Composition

section Facts

variable {thread : Thread} {stop : Stop} {held between last : Option Block} {ask : Ask}
  {script : Script} {number : Nat} {dealing : Dealing} {dealings rest : List Dealing}

/-- A script that is performed is granted the sizes that it asks for. -/
theorem Performed.granted (h : Performed thread held script dealings last) :
    dealings.filterMap Dealing.granted? = script.sizes := by
  induction h with
  | nil => rfl
  | @allocate size _ _ _ _ _ ih => exact congrArg (size :: ·) ih
  | @resize size _ _ _ _ _ _ ih => exact congrArg (size :: ·) ih
  | release _ ih => exact ih

theorem Performed.returned (h : Performed thread held script dealings last) :
    ∀ dealing ∈ dealings, dealing.Returned := by
  induction h with
  | nil => exact List.forall_mem_nil _
  | allocate _ ih => exact List.forall_mem_cons.2 ⟨Returns.ok _, ih⟩
  | resize _ ih => exact List.forall_mem_cons.2 ⟨Returns.ok _, ih⟩
  | release _ ih => exact List.forall_mem_cons.2 ⟨trivial, ih⟩

/-- A careful user may part with its only block, for another or for none. -/
theorem careful_exchange {given : Block} (hgiven : dealing.parted? = some given)
    (h : Dealing.Careful dealing.gained?.toList rest) :
    Dealing.Careful [given] (dealing :: rest) := by
  have hheld := Dealing.hold_singleton hgiven
  have single : dealing.gained?.toList.length ≤ 1 := Option.length_toList_le
  rw [← hheld] at single h
  exact .cons (Dealing.lawful_singleton hgiven) single h

/-- The user of a script is careful, if it is careful with what the script leaves in hand. -/
theorem Performed.careful (h : Performed thread held script dealings last)
    (careful : Dealing.Careful last.toList rest) :
    Dealing.Careful held.toList (dealings ++ rest) := by
  induction h with
  | nil => exact careful
  | allocate _ ih => exact .cons (fun _ hgiven => by cases hgiven) (Nat.le_refl 1) (ih careful)
  | resize _ ih => exact careful_exchange rfl (ih careful)
  | release _ ih => exact careful_exchange rfl (ih careful)

/-- A request that is not granted leaves nothing in hand. -/
theorem Denied.careful (h : Denied thread stop held ask dealing) :
    Dealing.Careful held.toList [dealing] := by
  cases h with
  | allocate size => exact .ungranted thread size stop
  | resize block size => exact careful_exchange rfl .nil

/-- A script that is broken off is granted the sizes before the one that it stops at. -/
theorem BrokenOff.granted (h : BrokenOff thread stop held script number dealings) :
    dealings.filterMap Dealing.granted? = script.sizes.take (number - 1) := by
  obtain ⟨rfl, performed, denied, rfl⟩ := h
  rw [List.filterMap_append, performed.granted, sizes_append, Nat.add_sub_cancel,
    List.take_left']
  · cases denied with
    | allocate => exact List.append_nil _
    | resize => exact List.append_nil _
  · rfl

/-- A script is broken off at one of its requests. -/
theorem BrokenOff.bounds (h : BrokenOff thread stop held script number dealings) :
    0 < number ∧ number ≤ script.sizes.length := by
  obtain ⟨rfl, performed, denied, rfl⟩ := h
  rw [sizes_append, List.length_append]
  cases denied with
  | allocate size => exact ⟨Nat.succ_pos _, by simp [sizes, Ask.size?]⟩
  | resize block size => exact ⟨Nat.succ_pos _, by simp [sizes, Ask.size?]⟩

theorem BrokenOff.returned {fault : Fault}
    (h : BrokenOff thread (.fault fault) held script number dealings) :
    ∀ dealing ∈ dealings, dealing.Returned := by
  obtain ⟨-, performed, denied, -⟩ := h
  refine List.forall_mem_append.2 ⟨performed.returned, List.forall_mem_singleton.2 ?_⟩
  cases denied with
  | allocate => exact Returns.fault fault
  | resize => exact Returns.fault fault

theorem BrokenOff.careful (h : BrokenOff thread stop held script number dealings) :
    Dealing.Careful held.toList dealings := by
  obtain ⟨-, performed, denied, -⟩ := h
  exact performed.careful denied.careful

end Facts

/-- A part of a call that begins with a block in hand, or without one, and follows a script:
to its end, and then nothing is in hand, or up to a request that is not granted, and then what
was the answer to that is the result. -/
inductive Played {α : Type} (thread : Thread) (held : Option Block) (script : Script)
    (before : Stack) : Except Stop α → Stack → Prop
  | whole {after : Stack} {dealings : List Dealing} (value : α)
      (history : before.History dealings after)
      (performed : Performed thread held script dealings none) :
      Played thread held script before (.ok value) after
  | cut {after : Stack} {dealings : List Dealing} {stop : Stop} {number : Nat}
      (history : before.History dealings after)
      (brokenOff : BrokenOff thread stop held script number dealings) :
      Played thread held script before (.error stop) after

namespace Played

variable {α β : Type} {thread : Thread} {size : UInt64} {block : Block} {held : Option Block}
  {front script : Script} {before between after : Stack} {result : Except Stop α} {stop : Stop}
  {dealings : List Dealing}

theorem nil (value : α) (aside : before.Aside after) :
    Played thread none [] before (.ok value) after :=
  .whole value aside.history (.nil none)

theorem aside (aside : before.Aside between) (h : Played thread held script between result after) :
    Played thread held script before result after := by
  cases h with
  | whole value history performed => exact .whole value (.aside aside history) performed
  | cut history brokenOff => exact .cut (.aside aside history) brokenOff

/-- A script may be played in two parts. -/
theorem after_performed {last : Option Block} (history : before.History dealings between)
    (performed : Performed thread held front dealings last)
    (h : Played thread last script between result after) :
    Played thread held (front ++ script) before result after := by
  cases h with
  | whole value history' performed' =>
      exact .whole value (history.append history') (performed.append performed')
  | cut history' brokenOff =>
      exact .cut (history.append history') (performed.brokenOff brokenOff)

/-- A granted block is in hand for the rest of the script. -/
theorem allocate (h : before.allocate thread size = (.ok block, between))
    (rest : Played thread (some block) script between result after) :
    Played thread none (.allocate size :: script) before result after :=
  rest.after_performed (.cons (.allocate h) (.nil between)) (.allocate (.nil (some block)))

/-- A block that was moved is in hand for the rest of the script. -/
theorem resize {fresh : Block} (h : before.resize thread block size = (.ok fresh, between))
    (rest : Played thread (some fresh) script between result after) :
    Played thread (some block) (.resize size :: script) before result after :=
  rest.after_performed (.cons (.resize h) (.nil between)) (.resize (.nil (some fresh)))

theorem append {value : β} (h : Played thread held front before (.ok value) between)
    (h' : Played thread none script between result after) :
    Played thread held (front ++ script) before result after := by
  cases h with
  | whole _ history performed => exact h'.after_performed history performed

/-- A part of a script that stops is where the whole of it stops. -/
theorem stopped (h : Played thread held front before (.error stop : Except Stop β) after)
    (more : Script) :
    Played thread held (front ++ more) before (.error stop : Except Stop α) after := by
  cases h with
  | cut history brokenOff => exact .cut history (brokenOff.extend more)

/-- A request that is not granted is the last one. -/
theorem denied {ask : Ask} {dealing : Dealing} (served : before.Serves dealing after)
    (h : Denied thread stop held ask dealing) (more : Script) :
    Played thread held (ask :: more) before (.error stop : Except Stop α) after :=
  .cut (.cons served (.nil after)) (.intro rfl (.nil held) h rfl)

end Played
end Script
end HeapFixtures
