/-
# Allocator stacks

A request enters at the topmost layer and goes down as far as the layers let it; the answer comes
back up, and each layer takes note of it in its own way.  The three requests are defined by
recursion on the layers, so that a fact about an allocator is an induction over its layers.

A layer that unwinds with a panic takes no note of the request, and the block that the
request was about is lost.
-/

import HeapFixtures.Counters
import HeapFixtures.Gate
import HeapFixtures.Site

namespace HeapFixtures

/-- A layer of an allocator, with its state. -/
inductive Layer
  | counting (counters : Counters)
  | gate (gate : Gate)

def Layer.counters? : Layer → Option Counters
  | .counting counters => some counters
  | .gate _ => none

/-- An allocator: its layers, the topmost first, and what they stand on. -/
structure Stack where
  layers : List Layer
  site : Site

namespace Stack

def push (layer : Layer) (stack : Stack) : Stack :=
  { stack with layers := layer :: stack.layers }

/-- Notes a call of the topmost layer, if that layer records. -/
def note (stack : Stack) (records : Bool) (thread : Thread) (call : Call) : Stack :=
  if records then { stack with site := stack.site.note ⟨thread, stack.layers.length, call⟩ }
  else stack

/-- The site after a gate's verdict. -/
def heed (site : Site) (verdict : Verdict) : Site :=
  if verdict.raisesStop then site.requestStop else site

/-- The answer of a counting layer to a request that was granted below. -/
def settle (block : Block) : Option Panic × Counters → Except Stop Block
  | (none, _) => .ok block
  | (some panic, _) => .error (.panic panic)

/-- A request for a new block. -/
def allocateThrough (thread : Thread) (size : UInt64) :
    List Layer → Site → Except Stop Block × Stack
  | [], site =>
    match site.allocate thread size with
    | (.ok block, site) => (.ok block, ⟨[], site⟩)
    | (.error fault, site) => (.error (.fault fault), ⟨[], site⟩)
  | .counting counters :: below, site =>
    match allocateThrough thread size below site with
    | (.ok block, stack) =>
      let counted := counters.recordAllocation size
      (settle block counted, stack.push (.counting counted.2))
    | (.error stop, stack) => (.error stop, stack.push (.counting counters))
  | .gate gate :: below, site =>
    let (verdict, gate) := gate.ask thread size
    let site := heed site verdict
    match verdict.answer with
    | .panic panic => (.error (.panic panic), ⟨.gate gate :: below, site⟩)
    | .refuse fault =>
      (.error (.fault fault),
        note ⟨.gate gate :: below, site⟩ gate.records thread (.allocate size false))
    | .pass =>
      match allocateThrough thread size below site with
      | (.ok block, stack) =>
        (.ok block, (stack.push (.gate gate)).note gate.records thread (.allocate size true))
      | (.error (.fault fault), stack) =>
        (.error (.fault fault),
          (stack.push (.gate gate)).note gate.records thread (.allocate size false))
      | (.error stop, stack) => (.error stop, stack.push (.gate gate))

/-- A block on its way back.  Nothing can stop it. -/
def releaseThrough (thread : Thread) (block : Block) : List Layer → Site → Stack
  | [], site => ⟨[], site.release thread block⟩
  | .counting counters :: below, site =>
    (releaseThrough thread block below site).push (.counting counters.recordRelease)
  | .gate gate :: below, site =>
    let noted := note ⟨.gate gate :: below, site⟩ gate.records thread (.release block.size)
    (releaseThrough thread block below noted.site).push (.gate gate)

/-- The default way to resize, through the layers given: a new block, a copy, and the
release of the old block, which is released also if there is no new one. -/
def replaceThrough (thread : Thread) (block : Block) (size : UInt64)
    (layers : List Layer) (site : Site) : Except Stop Block × Stack :=
  match allocateThrough thread size layers site with
  | (.ok fresh, stack) =>
    let copied := { stack.site with heap := stack.site.heap.copy block fresh }
    (.ok fresh, releaseThrough thread block stack.layers copied)
  | (.error (.fault fault), stack) =>
    (.error (.fault fault), releaseThrough thread block stack.layers stack.site)
  | (.error stop, stack) => (.error stop, stack)

/-- A request to move a block to a new size.  The old block is gone afterwards, whether
or not there is a new one. -/
def resizeThrough (thread : Thread) (block : Block) (size : UInt64) :
    List Layer → Site → Except Stop Block × Stack
  | [], site =>
    match site.resize thread block size with
    | (.ok fresh, site) => (.ok fresh, ⟨[], site⟩)
    | (.error fault, site) => (.error (.fault fault), ⟨[], site⟩)
  | .counting counters :: below, site =>
    match resizeThrough thread block size below site with
    | (.ok fresh, stack) =>
      let counted := counters.recordRelease.recordAllocation size
      (settle fresh counted, stack.push (.counting counted.2))
    | (.error (.fault fault), stack) =>
      (.error (.fault fault), stack.push (.counting counters.recordRelease))
    | (.error stop, stack) => (.error stop, stack.push (.counting counters))
  | .gate gate :: below, site =>
    if gate.forwardsResize then
      let (verdict, gate) := gate.ask thread size
      let site := heed site verdict
      match verdict.answer with
      | .panic panic => (.error (.panic panic), ⟨.gate gate :: below, site⟩)
      | .refuse fault =>
        (.error (.fault fault),
          ((releaseThrough thread block below site).push (.gate gate)).note
            gate.records thread (.resize block.size size false))
      | .pass =>
        match resizeThrough thread block size below site with
        | (.ok fresh, stack) =>
          (.ok fresh,
            (stack.push (.gate gate)).note gate.records thread (.resize block.size size true))
        | (.error (.fault fault), stack) =>
          (.error (.fault fault),
            (stack.push (.gate gate)).note gate.records thread (.resize block.size size false))
        | (.error stop, stack) => (.error stop, stack.push (.gate gate))
    else replaceThrough thread block size (.gate gate :: below) site

def allocate (stack : Stack) (thread : Thread) (size : UInt64) : Except Stop Block × Stack :=
  allocateThrough thread size stack.layers stack.site

def release (stack : Stack) (thread : Thread) (block : Block) : Stack :=
  releaseThrough thread block stack.layers stack.site

def resize (stack : Stack) (thread : Thread) (block : Block) (size : UInt64) :
    Except Stop Block × Stack :=
  resizeThrough thread block size stack.layers stack.site

/-- A block asked for and given back at once. -/
def pair (stack : Stack) (thread : Thread) (size : UInt64) : Except Stop Unit × Stack :=
  match stack.allocate thread size with
  | (.ok block, stack) => (.ok (), stack.release thread block)
  | (.error stop, stack) => (.error stop, stack)

def emit (stack : Stack) (thread : Thread) (level : Log.Level) (origin : Log.Origin)
    (message : String) (fields : List (String × Log.Value)) : Stack :=
  { stack with site := stack.site.emit thread level origin message fields }

/-- The part of a stack up to a layer, counted from the heap as number zero. -/
def lower (stack : Stack) (layer : Nat) : Stack :=
  { stack with layers := stack.layers.drop (stack.layers.length - layer) }

/-- Lets something happen to the part of a stack up to a layer; the layers above do not
hear of it. -/
def within (stack : Stack) (layer : Nat) (act : Stack → α × Stack) : α × Stack :=
  let above := stack.layers.take (stack.layers.length - layer)
  let (result, lower) := act (stack.lower layer)
  (result, { lower with layers := above ++ lower.layers })

/-- The counters of all counting layers, the lowest first. -/
def counters (stack : Stack) : List Counters :=
  (stack.layers.filterMap Layer.counters?).reverse

end Stack
end HeapFixtures
