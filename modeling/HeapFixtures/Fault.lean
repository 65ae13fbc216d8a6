/-
# Faults of a fixture

The first two are resource faults.  They have exit statuses of their own, which tell an outside
observer that the machine, and not the command line, was at fault.
-/

import HeapFixtures.IoError

namespace HeapFixtures

/-- An error that a fixture reports to its caller. -/
inductive Fault
  | allocationFailed (size : UInt64)
  | threadCreateFailed (index : UInt64) (source : IoError)
  | workerPanicked (index : UInt64)
  /-- A setting or a request that makes no sense. -/
  | invalidArgument (reason : String)
  | signalHandler (reason : String)
  | io (source : IoError)
  deriving DecidableEq

namespace Fault

def message : Fault → String
  | .allocationFailed size => s!"Allocation of {size} bytes failed"
  | .threadCreateFailed index source =>
    let cause := source.message
    s!"Failed to create worker thread {index}: {cause}"
  | .workerPanicked index => s!"Worker thread {index} panicked"
  | .invalidArgument reason => s!"Invalid argument: {reason}"
  | .signalHandler reason => s!"Failed to install signal handler: {reason}"
  | .io source =>
    let cause := source.message
    s!"IO error: {cause}"

/-- The exit status of a process that fails fast on a fault. -/
def exitCode : Fault → Nat
  | .allocationFailed _ => 2
  | .threadCreateFailed _ _ => 3
  | .workerPanicked _ => 4
  | .invalidArgument _ | .signalHandler _ | .io _ => 1

/-- Whether the machine ran out of memory or of threads. -/
def isResource : Fault → Bool
  | .allocationFailed _ | .threadCreateFailed _ _ => true
  | _ => false

def source? : Fault → Option IoError
  | .threadCreateFailed _ source | .io source => some source
  | _ => none

/-- The heap answers a request for no bytes with this fault, and so does every
configuration whose block size is zero. -/
def zeroSize : Fault := .invalidArgument "block size must be non-zero"

end Fault

/-- Why the stop signals could not be routed to a handler. -/
inductive HandlerError
  | noSuchSignal
  | alreadyRegistered
  | system (source : IoError)
  deriving DecidableEq

/-- The text of a handler error.  The system's own error is not part of it. -/
def HandlerError.message : HandlerError → String
  | .noSuchSignal => "Ctrl-C error: Signal could not be found from the system"
  | .alreadyRegistered => "Ctrl-C error: Ctrl-C signal handler already registered"
  | .system _ => "Ctrl-C error: Unexpected system error"

/-- A handler error as a fault of the fixture keeps its text only. -/
def Fault.ofHandlerError (error : HandlerError) : Fault :=
  .signalHandler error.message

end HeapFixtures
