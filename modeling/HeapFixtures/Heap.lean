/-
# The heap

A heap is described from outside: which requests it grants, and which blocks it holds at the
moment.  Of the bytes of a block only the leading ones are ever written, so the contents of a
block are a list no longer than the block.
-/

import HeapFixtures.Fault

namespace HeapFixtures

/-- A block as its owner sees it.  Two blocks of one heap never share an address. -/
structure Block where
  address : Nat
  size : UInt64
  deriving DecidableEq

/-- A block as the heap sees it: with the bytes written to it so far. -/
structure Cell where
  address : Nat
  size : UInt64
  bytes : List UInt8
  deriving DecidableEq

/-- Where the bytes of a block are kept. -/
inductive Backing
  /-- In memory, and every block is mentioned in the journal. -/
  | system
  /-- Nowhere: a block merely claims its size. -/
  | claimed
  deriving DecidableEq

structure Heap where
  backing : Backing
  /-- Whether the request of a number, for a number of bytes, is granted. -/
  grants : Nat → UInt64 → Bool
  requests : Nat
  next : Nat
  cells : List Cell

namespace Heap

/-- The system's heap before the first request, with room for every block. -/
def system : Heap := ⟨.system, fun _ _ => true, 0, 0, []⟩

def bounded (limit : Nat) : Heap := { system with grants := fun _ size => size.toNat < limit }

def claimed : Heap := ⟨.claimed, fun _ _ => true, 0, 0, []⟩

def grant (heap : Heap) (size : UInt64) : Option Block × Heap :=
  let answered := { heap with requests := heap.requests + 1 }
  if heap.grants heap.requests size then
    (some ⟨heap.next, size⟩,
      { answered with next := heap.next + 1, cells := ⟨heap.next, size, []⟩ :: heap.cells })
  else (none, answered)

def free (heap : Heap) (block : Block) : Heap :=
  { heap with cells := heap.cells.filter fun cell => cell.address ≠ block.address }

def cell? (heap : Heap) (address : Nat) : Option Cell :=
  heap.cells.find? fun cell => cell.address = address

/-- The bytes written to a block so far. -/
def bytes (heap : Heap) (block : Block) : List UInt8 :=
  match heap.cell? block.address with
  | some cell => cell.bytes
  | none => []

def store (heap : Heap) (block : Block) (bytes : List UInt8) : Heap :=
  { heap with
    cells := heap.cells.map fun cell =>
      if cell.address = block.address then { cell with bytes := bytes } else cell }

/-- Copies the leading bytes of one block to another, as far as the second reaches. -/
def copy (heap : Heap) (source target : Block) : Heap :=
  heap.store target ((heap.bytes source).take target.size.toNat)

/-- Moves a block to a new size and keeps its leading bytes.  If the heap refuses, the
old block stays where it is. -/
def move (heap : Heap) (block : Block) (size : UInt64) : Option Block × Heap :=
  match heap.grant size with
  | (some fresh, heap) => (some fresh, (heap.copy block fresh).free block)
  | (none, heap) => (none, heap)

/-- Whether a run of bytes fits into a block, on a heap that keeps bytes at all. -/
def hasSpace (heap : Heap) (block : Block) (offset length : Nat) : Bool :=
  heap.backing = .system && offset + length ≤ block.size.toNat

/-- Whether a run of bytes can be written to a block without a gap after the bytes that are
there. -/
def isWritable (heap : Heap) (block : Block) (offset length : Nat) : Bool :=
  heap.hasSpace block offset length && offset ≤ (heap.bytes block).length

/-- Writes bytes to a block from an offset on.  Zeros stand for the bytes of a gap before
them, of which nothing is known. -/
def write (heap : Heap) (block : Block) (offset : Nat) (bytes : List UInt8) : Heap :=
  let old := heap.bytes block
  let gap := List.replicate (offset - old.length) 0
  heap.store block (old.take offset ++ gap ++ bytes ++ old.drop (offset + bytes.length))

/-- Reads bytes that were written before. -/
def read? (heap : Heap) (block : Block) (offset length : Nat) : Option (List UInt8) :=
  let old := heap.bytes block
  if offset + length ≤ old.length then some ((old.drop offset).take length) else none

end Heap
end HeapFixtures
