/-
# How a run is cut short

A run that does not reach its end stops in one of three ways.  A fault is returned to
the caller.  A panic unwinds to the edge of its thread, and blocks held on the way are
lost.  An exit ends the whole process, from whatever thread it happens on.
-/

import HeapFixtures.Fault
import HeapFixtures.Text.Slice
import HeapFixtures.Thread.Refusal

namespace HeapFixtures

/-- A broken promise of the program itself. -/
inductive Panic
  /-- A checked sum needs a 65th bit. -/
  | addOverflow
  | mulOverflow
  /-- More room is reserved than an address space holds. -/
  | capacityOverflow
  | miscut (cut : Text.Miscut)
  | writerRefused (refusal : Thread.Refusal)
  | raised (text : String)
  deriving DecidableEq

def Panic.message : Panic → String
  | .addOverflow => "attempt to add with overflow"
  | .mulOverflow => "attempt to multiply with overflow"
  | .capacityOverflow => "capacity overflow"
  | .miscut cut => cut.message
  | .writerRefused refusal =>
    "failed to spawn `tracing-appender` non-blocking worker thread: " ++ refusal.details
  | .raised text => text

structure Signal where
  number : Nat
  deriving DecidableEq

namespace Signal

def hangup : Signal := ⟨1⟩

def interrupt : Signal := ⟨2⟩

def abort : Signal := ⟨6⟩

def kill : Signal := ⟨9⟩

def terminate : Signal := ⟨15⟩

/-- The three signals that ask a process to stop and that a handler receives. -/
def asksToStop (signal : Signal) : Bool :=
  signal = interrupt || signal = terminate || signal = hangup

/-- The numbers of the signals that a process without a handler for them survives:
those that the system ignores by default, and the one for a closed pipe, which the
fixtures ignore. -/
def isHarmless (signal : Signal) : Bool :=
  [13, 17, 18, 23, 28].contains signal.number

def named : List (String × Signal) :=
  [("SIGHUP", hangup), ("SIGINT", interrupt), ("SIGQUIT", ⟨3⟩), ("SIGABRT", abort),
   ("SIGKILL", kill), ("SIGUSR1", ⟨10⟩), ("SIGSEGV", ⟨11⟩), ("SIGUSR2", ⟨12⟩),
   ("SIGPIPE", ⟨13⟩), ("SIGALRM", ⟨14⟩), ("SIGTERM", terminate), ("SIGCHLD", ⟨17⟩),
   ("SIGCONT", ⟨18⟩), ("SIGWINCH", ⟨28⟩)]

end Signal

/-- How a process ends. -/
inductive Exit
  | code (status : Nat)
  | signal (signal : Signal)
  deriving DecidableEq

/-- Why a run did not reach its end. -/
inductive Stop
  | fault (fault : Fault)
  | panic (panic : Panic)
  | exit (exit : Exit)
  deriving DecidableEq

end HeapFixtures
