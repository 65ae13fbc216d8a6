/-
# The bench

An allocator with a set of named slots, each of which may hold a block.  A step that makes no
sense, such as the release of an empty slot, is turned down and changes nothing.  A step can go to
a lower layer than the topmost, and so give a block back to a layer that never handed it out.
-/

import HeapFixtures.Stack

namespace HeapFixtures

/-- An allocator and the blocks that its user holds. -/
structure Bench where
  stack : Stack
  slots : List (String × Block)

namespace Bench

inductive Action
  | allocate (slot : String) (size : UInt64)
  | release (slot : String)
  | resize (slot : String) (size : UInt64)
  | pair (size : UInt64)
  /-- Writes bytes from an offset on, anywhere in the block. -/
  | write (slot : String) (offset : Nat) (bytes : List UInt8)
  /-- Writes ascending bytes from an offset on, without a gap. -/
  | fill (slot : String) (offset length : Nat) (start : Nat)
  | read (slot : String) (offset length : Nat)
  deriving DecidableEq

/-- An action and the layer it goes to, the topmost if none is named. -/
structure Step where
  layer : Option Nat
  action : Action
  deriving DecidableEq

/-- Why a step makes no sense. -/
inductive Misuse
  | noSuchLayer
  | slotInUse
  | emptySlot
  | writeOutOfRange
  | fillOutOfRange
  | readOutOfRange
  deriving DecidableEq

def Misuse.message : Misuse → String
  | .noSuchLayer => "no such layer"
  | .slotInUse => "slot in use"
  | .emptySlot => "empty slot"
  | .writeOutOfRange => "write out of range"
  | .fillOutOfRange => "fill out of range"
  | .readOutOfRange => "read out of range"

inductive Reply
  | size (size : UInt64)
  | done
  | written (count : Nat)
  | bytes (bytes : List UInt8)
  | stopped (stop : Stop)
  | misuse (misuse : Misuse)

def block? (bench : Bench) (slot : String) : Option Block :=
  bench.slots.lookup slot

def hold (bench : Bench) (slot : String) (block : Block) : Bench :=
  { bench with slots := (slot, block) :: bench.slots.filter fun entry => entry.1 ≠ slot }

def vacate (bench : Bench) (slot : String) : Bench :=
  { bench with slots := bench.slots.filter fun entry => entry.1 ≠ slot }

/-- The bytes that a fill writes: each is one more than the one before it, modulo 256. -/
def ascending (start length : Nat) : List UInt8 :=
  (List.range length).map fun i => (start + i).toUInt8

/-- Writes bytes to a block, and says how many of its bytes are written then. -/
def put (bench : Bench) (block : Block) (offset : Nat) (bytes : List UInt8) : Reply × Bench :=
  let heap := bench.stack.site.heap.write block offset bytes
  let stack := { bench.stack with site := { bench.stack.site with heap := heap } }
  (.written (heap.bytes block).length, { bench with stack := stack })

def act (bench : Bench) (layer : Nat) : Action → Reply × Bench
  | .allocate slot size =>
    match bench.block? slot with
    | some _ => (.misuse .slotInUse, bench)
    | none =>
      match bench.stack.within layer (·.allocate .main size) with
      | (.ok block, stack) => (.size block.size, { bench with stack := stack }.hold slot block)
      | (.error stop, stack) => (.stopped stop, { bench with stack := stack })
  | .release slot =>
    match bench.block? slot with
    | none => (.misuse .emptySlot, bench)
    | some block =>
      let (_, stack) := bench.stack.within layer fun lower => ((), lower.release .main block)
      (.done, { bench with stack := stack }.vacate slot)
  | .resize slot size =>
    match bench.block? slot with
    | none => (.misuse .emptySlot, bench)
    | some block =>
      match bench.stack.within layer (·.resize .main block size) with
      | (.ok fresh, stack) => (.size fresh.size, { bench with stack := stack }.hold slot fresh)
      | (.error stop, stack) => (.stopped stop, { bench with stack := stack }.vacate slot)
  | .pair size =>
    match bench.stack.within layer (·.pair .main size) with
    | (.ok (), stack) => (.done, { bench with stack := stack })
    | (.error stop, stack) => (.stopped stop, { bench with stack := stack })
  | .write slot offset bytes =>
    match bench.block? slot with
    | none => (.misuse .emptySlot, bench)
    | some block =>
      if bench.stack.site.heap.hasSpace block offset bytes.length then
        bench.put block offset bytes
      else (.misuse .writeOutOfRange, bench)
  | .fill slot offset length start =>
    match bench.block? slot with
    | none => (.misuse .emptySlot, bench)
    | some block =>
      if bench.stack.site.heap.isWritable block offset length then
        bench.put block offset (ascending start length)
      else (.misuse .fillOutOfRange, bench)
  | .read slot offset length =>
    match bench.block? slot with
    | none => (.misuse .emptySlot, bench)
    | some block =>
      match bench.stack.site.heap.read? block offset length with
      | none => (.misuse .readOutOfRange, bench)
      | some bytes => (.bytes bytes, bench)

/-- Takes a step.  Whether the layer exists is asked before anything else. -/
def step (bench : Bench) (step : Step) : Reply × Bench :=
  let layer := step.layer.getD bench.stack.layers.length
  if bench.stack.layers.length < layer then (.misuse .noSuchLayer, bench)
  else bench.act layer step.action

def sorted (bench : Bench) : List (String × Block) :=
  bench.slots.mergeSort fun a b => a.1 ≤ b.1

/-- Gives the blocks that are left straight back to the heap, slot by slot. -/
def clear (bench : Bench) : Bench :=
  let site := bench.sorted.foldl
    (fun (site : Site) (entry : String × Block) => site.release .main entry.2) bench.stack.site
  { stack := { bench.stack with site := site }, slots := [] }

end Bench
end HeapFixtures
