/-
# What a command line sets
-/

import HeapFixtures.Command.Program

namespace HeapFixtures
namespace Command

inductive Value
  | number (n : UInt64)
  | policy (policy : Policy)
  | given
  deriving DecidableEq

/-- What a command line sets, by option. -/
abbrev Values := List (Key × Value)

/-- What a command line comes to. -/
inductive Reading
  | run (values : Values)
  | informs (text : String)
  | rejected (message : String)
  deriving DecidableEq

namespace Values

def number? (values : Values) (key : Key) : Option UInt64 :=
  match values.lookup key with
  | some (.number n) => some n
  | _ => none

/-- The policy that was chosen, or the one in its absence. -/
def policy (values : Values) : Policy :=
  match values.lookup .onFault with
  | some (.policy policy) => policy
  | _ => .default

def report (values : Values) : Bool :=
  (values.lookup .report).isSome

def sequential (values : Values) : Sequential.Config :=
  let absent := Sequential.Config.default
  { blockSize := (values.number? .blockSize).getD absent.blockSize
    interval := ((values.number? .intervalMs).map .ofMillis).getD absent.interval
    iterations := values.number? .iterations }

def workers (values : Values) : Workers.Config :=
  let absent := Workers.Config.default
  { workers := (values.number? .workers).getD absent.workers
    cycles := (values.number? .cycles).getD absent.cycles
    blockSize := (values.number? .blockSize).getD absent.blockSize }

def growth (values : Values) : Growth.Config :=
  let absent := Growth.Config.default
  { rounds := (values.number? .rounds).getD absent.rounds
    initialSize := (values.number? .initialSize).getD absent.initialSize
    maxSize := (values.number? .maxSize).getD absent.maxSize }

def vectors (values : Values) : Vectors.Config :=
  let absent := Vectors.Config.default
  { iterations := (values.number? .iterations).getD absent.iterations
    blockSize := (values.number? .blockSize).getD absent.blockSize }

end Values

end Command
end HeapFixtures
