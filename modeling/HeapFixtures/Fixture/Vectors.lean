/-
# The vector fixture

Builds zero-filled vectors, one after another, and drops each at once.  The vectors come
straight from the heap and not through the layers of the other fixtures, so nothing
counts them and the journal hears only of the start.
-/

import HeapFixtures.Heap
import HeapFixtures.Log.Journal
import HeapFixtures.Stop

namespace HeapFixtures
namespace Vectors

structure Config where
  iterations : UInt64
  blockSize : UInt64
  deriving DecidableEq

def Config.default : Config := ⟨1024, 1048576⟩

def Config.validate (config : Config) : Except Fault Unit :=
  if config.iterations = 0 then .error (.invalidArgument "iteration count must be non-zero")
  else if config.blockSize = 0 then .error .zeroSize
  else .ok ()

/-- Builds and drops the vectors that are left.  A vector without elements needs no
memory. -/
def build (size : UInt64) : Nat → Heap → Except Fault Unit × Heap
  | 0, heap => (.ok (), heap)
  | left + 1, heap =>
    if size = 0 then build size left heap
    else
      match heap.grant size with
      | (some block, heap) => build size left (heap.free block)
      | (none, heap) => (.error (.allocationFailed size), heap)

/-- Runs the fixture and returns the number of vectors built. -/
def run (config : Config) (heap : Heap) (journal : Log.Journal) :
    Except Stop UInt64 × Log.Journal :=
  match config.validate with
  | .error fault => (.error (.fault fault), journal)
  | .ok () =>
    let journal := journal.emit .main .info .vectors "vectors fixture started"
      [("iterations", .word config.iterations), ("block_size", .word config.blockSize)]
    match (build config.blockSize config.iterations.toNat heap).1 with
    | .ok () => (.ok config.iterations, journal)
    | .error fault => (.error (.fault fault), journal)

end Vectors
end HeapFixtures
