/-
# Counters

Requests, releases and bytes only grow and wrap at the end of the word range; the live blocks wrap
at both ends.  The one sum that is checked is the number of live blocks after a request, from
which the peak is taken: where it has no room, the counters before it are counted already and the
peak is not.
-/

import HeapFixtures.Stop
import HeapFixtures.Word

namespace HeapFixtures

/-- What a counting layer has seen. -/
structure Counters where
  /-- Requests granted, a resize being one of them. -/
  allocations : UInt64
  /-- Blocks given back, the old block of a resize being one of them. -/
  releases : UInt64
  bytes : UInt64
  live : UInt64
  peak : UInt64
  deriving DecidableEq

namespace Counters

def zero : Counters := ⟨0, 0, 0, 0, 0⟩

/-- Every block handed out has been given back. -/
def isBalanced (c : Counters) : Bool :=
  c.allocations = c.releases && c.live = 0

def render (c : Counters) : String :=
  let ⟨allocations, releases, bytes, live, peak⟩ := c
  s!"allocations={allocations} releases={releases} bytes={bytes} live={live} peak_live={peak}"

def countAllocation (c : Counters) : Counters := { c with allocations := c.allocations + 1 }

def countBytes (c : Counters) (size : UInt64) : Counters := { c with bytes := c.bytes + size }

def countLive (c : Counters) : Counters := { c with live := c.live + 1 }

def countPeak (c : Counters) (live : UInt64) : Counters := { c with peak := max c.peak live }

def countRelease (c : Counters) : Counters := { c with releases := c.releases + 1 }

def countGone (c : Counters) : Counters := { c with live := c.live - 1 }

/-- Counts a granted request: four updates in this order, of which the last needs the
checked number of live blocks. -/
def recordAllocation (c : Counters) (size : UInt64) : Option Panic × Counters :=
  let counted := ((c.countAllocation).countBytes size).countLive
  match Word.add? c.live 1 with
  | some live => (none, counted.countPeak live)
  | none => (some .addOverflow, counted)

def recordRelease (c : Counters) : Counters :=
  c.countRelease.countGone

end Counters
end HeapFixtures
