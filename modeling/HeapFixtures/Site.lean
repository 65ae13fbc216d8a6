/-
# Sites

A site is what all layers of an allocator share with one another and with the fixture
that runs on them: the heap at the bottom, the journal, the list of recorded calls, and
the request to stop.
-/

import HeapFixtures.Heap
import HeapFixtures.Log.Journal
import HeapFixtures.Stop

namespace HeapFixtures

/-- A request as a recording layer notes it, with its outcome. -/
inductive Call
  | allocate (size : UInt64) (granted : Bool)
  | release (size : UInt64)
  | resize (old new : UInt64) (granted : Bool)
  deriving DecidableEq

/-- A noted call, with its thread and the number of the layer counted from the heap. -/
structure CallRecord where
  thread : Thread
  layer : Nat
  call : Call
  deriving DecidableEq

/-- What the layers share. -/
structure Site where
  heap : Heap
  journal : Log.Journal
  calls : Array CallRecord
  stopRequested : Bool

namespace Site

def fresh (heap : Heap) (journal : Log.Journal) : Site :=
  ⟨heap, journal, #[], false⟩

def requestStop (site : Site) : Site := { site with stopRequested := true }

def emit (site : Site) (thread : Thread) (level : Log.Level) (origin : Log.Origin)
    (message : String) (fields : List (String × Log.Value)) : Site :=
  { site with journal := site.journal.emit thread level origin message fields }

def note (site : Site) (record : CallRecord) : Site :=
  { site with calls := site.calls.push record }

/-- Tells the journal about a block, if the heap is one that does so. -/
def mention (site : Site) (thread : Thread) (message : String) (size : UInt64) : Site :=
  match site.heap.backing with
  | .system =>
    site.emit thread .trace .allocation message [("size", .word size), ("addr", .address)]
  | .claimed => site

def allocate (site : Site) (thread : Thread) (size : UInt64) : Except Fault Block × Site :=
  if size = 0 then (.error .zeroSize, site)
  else
    match site.heap.grant size with
    | (some block, heap) =>
      (.ok block, { site with heap := heap }.mention thread "allocated block" size)
    | (none, heap) => (.error (.allocationFailed size), { site with heap := heap })

def release (site : Site) (thread : Thread) (block : Block) : Site :=
  let site := site.mention thread "releasing block" block.size
  { site with heap := site.heap.free block }

/-- Moves a block within the heap.  The old block is gone whatever the answer: a size
of zero releases it, and after a refusal it is freed without a word to the journal. -/
def resize (site : Site) (thread : Thread) (block : Block) (size : UInt64) :
    Except Fault Block × Site :=
  if size = 0 then (.error .zeroSize, site.release thread block)
  else
    match site.heap.move block size with
    | (some fresh, heap) =>
      (.ok fresh, { site with heap := heap }.mention thread "resized block" size)
    | (none, heap) => (.error (.allocationFailed size), { site with heap := heap.free block })

end Site
end HeapFixtures
