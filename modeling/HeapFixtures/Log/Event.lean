/-
# Events

Addresses and process numbers differ from run to run; an event says only that it carries one.
-/

import HeapFixtures.Log.Level
import HeapFixtures.Thread

namespace HeapFixtures
namespace Log

inductive Value
  | word (n : UInt64)
  | int (i : Int)
  | flag (b : Bool)
  /-- A text, shown between quotation marks. -/
  | text (s : String)
  /-- The text of some other thing, shown as it is. -/
  | shown (s : String)
  | address
  | processId
  deriving DecidableEq

/-- The parts of the fixtures that events come from. -/
inductive Origin
  | allocation
  | sequential
  | workers
  | growth
  | vectors
  | stopRequest
  | fault
  | command
  | other (path : String)
  deriving DecidableEq

/-- The path that names an origin in the log, which is also what a filter matches. -/
def Origin.path : Origin → String
  | .allocation => "tracee_core::alloc"
  | .sequential => "tracee_core::sequential"
  | .workers => "tracee_core::threaded"
  | .growth => "tracee_core::realloc"
  | .vectors => "tracee_core::vectors"
  | .stopRequest => "tracee_core::shutdown"
  | .fault => "tracee_core::fault"
  | .command => "tracee::cli"
  | .other path => path

/-- The names of the values that an event with these fields carries; its message is one
of them. -/
def valueNames (fields : List (String × Value)) : List String :=
  "message" :: fields.map Prod.fst

structure Event where
  thread : Thread
  level : Level
  origin : Origin
  message : String
  fields : List (String × Value)
  deriving DecidableEq

end Log
end HeapFixtures
