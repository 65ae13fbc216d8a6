/-
# Room for threads

A process may ask that the stacks of its threads be of some least size.
-/

import HeapFixtures.Bindings
import HeapFixtures.Linux.Machine
import HeapFixtures.Thread.Refusal
import HeapFixtures.Word

namespace HeapFixtures
namespace Linux

def stackVariable : String := "RUST_MIN_STACK"

/-- The bytes that lie between a stack and what is below it. -/
def guardSize : Nat := 4096

namespace Machine

/-- The answer to a request for a stack: with the bytes below it, it must not reach the end
of all addresses. -/
def refusalOf (machine : Machine) (size : UInt64) : Option Thread.Refusal :=
  if UInt64.size ≤ size.toNat + guardSize then some .badSize
  else if machine.memory ≤ size.toNat then some .noRoom
  else none

/-- The answer to each thread of a process, by its environment.  A variable that holds no
number does not count. -/
def refusal (machine : Machine) (bindings : Bindings) : Option Thread.Refusal :=
  match (bindings.text? stackVariable).map Word.read with
  | some (.ok size) => machine.refusalOf size
  | _ => none

end Machine
end Linux
end HeapFixtures
