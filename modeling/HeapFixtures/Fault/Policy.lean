/-
# What becomes of a process with a fault

No fault can be repaired.  A process leaves with a diagnostic, or it aborts and shows up as a
crash.  A crash is kept for resource faults; a wrong setting or a closed pipe fails fast under
either policy.
-/

import HeapFixtures.Log.Journal
import HeapFixtures.Stop

namespace HeapFixtures

/-- How a process goes down. -/
inductive Policy
  | failFast
  | crash
  deriving DecidableEq

namespace Policy

/-- Without a wish of the user a process fails fast. -/
def default : Policy := .failFast

def keywords : List (String × Policy) :=
  [("fail-fast", .failFast), ("failfast", .failFast), ("fail_fast", .failFast),
   ("crash", .crash), ("abort", .crash)]

/-- Reads a policy, or says which words there are. -/
def parse (text : String) : Except String Policy :=
  match Text.keyword? keywords text with
  | some policy => .ok policy
  | none => .error s!"Unknown fault policy: {text}. Use 'fail-fast' or 'crash'"

def name : Policy → String
  | .failFast => "fail-fast"
  | .crash => "crash"

/-- Whether a fault ends the process with an abort. -/
def abortsOn (policy : Policy) (fault : Fault) : Bool :=
  policy = .crash && fault.isResource

def exit (policy : Policy) (fault : Fault) : Exit :=
  if policy.abortsOn fault then .signal .abort else .code fault.exitCode

/-- Takes the process down from one thread: an event says how, and a process that does
not abort prints the fault as its last line.  Whoever comes later finds the process
gone, so one fault at most is reported. -/
def handle (policy : Policy) (thread : Thread) (fault : Fault) (journal : Log.Journal) :
    Exit × Log.Journal :=
  let message := fault.message
  if policy.abortsOn fault then
    (policy.exit fault,
      journal.emit thread .error .fault "fixture aborting" [("error", .shown message)])
  else
    let journal := journal.emit thread .error .fault "fixture failed"
      [("error", .shown message), ("code", .word fault.exitCode.toUInt64)]
    (policy.exit fault, journal.print s!"fatal: {message}")

end Policy
end HeapFixtures
