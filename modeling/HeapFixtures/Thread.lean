/-
# Threads
-/

namespace HeapFixtures

inductive Thread
  | main
  | worker (index : UInt64)
  | signals
  | named (name : String)
  deriving DecidableEq

namespace Thread

def name : Thread → String
  | .main => "main"
  | .worker index => s!"worker-{index}"
  | .signals => "ctrl-c"
  | .named name => name

/-- The place of a thread in a report that goes thread by thread: the main thread,
then the workers by number, then all others. -/
def rank : Thread → Nat
  | .main => 0
  | .worker index => index.toNat + 1
  | .signals | .named _ => UInt64.size + 1

/-- Whether `a` is reported before `b` or along with it. -/
def inOrder (a b : Thread) : Bool :=
  a.rank < b.rank || (a.rank = b.rank && a.name ≤ b.name)

/-- Groups items by thread and keeps the order within each thread. -/
def group (threadOf : α → Thread) (items : List α) : List α :=
  items.mergeSort fun a b => inOrder (threadOf a) (threadOf b)

end Thread
end HeapFixtures
