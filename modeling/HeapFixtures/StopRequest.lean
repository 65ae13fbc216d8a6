/-
# Requests to stop

A flag that many holders share, and that is never lowered.  A process has at most one handler for
the signals that ask it to stop; the first installation makes a flag of its own for it, and every
later one hands out the same flag.
-/

import HeapFixtures.Log.Journal
import HeapFixtures.Stop

namespace HeapFixtures
namespace StopRequest

/-- A flag, by the order in which flags were made.  Holders of the same flag see the
same request. -/
structure Handle where
  flag : Nat
  deriving DecidableEq

/-- Who receives the signals that ask the process to stop. -/
inductive Handler
  | none
  | raising (handle : Handle)
  /-- A handler of another making. -/
  | foreign
  deriving DecidableEq

/-- All flags of a process and its signal handler. -/
structure Registry where
  raised : Array Bool
  handler : Handler
  deriving DecidableEq

/-- The event of a signal that asks the process to stop, by the thread that receives
signals. -/
def report (journal : Log.Journal) : Log.Journal :=
  journal.emit .signals .info .stopRequest "shutdown signal received" []

namespace Registry

def empty : Registry := ⟨#[], .none⟩

/-- A flag that nobody has raised yet. -/
def create (registry : Registry) : Handle × Registry :=
  (⟨registry.raised.size⟩, { registry with raised := registry.raised.push false })

def isRequested (registry : Registry) (handle : Handle) : Bool :=
  registry.raised.getD handle.flag false

def request (registry : Registry) (handle : Handle) : Registry :=
  { registry with raised := registry.raised.setIfInBounds handle.flag true }

/-- Waits for a request for a limited time and tells whether there is one.  Nothing else
raises the flag meanwhile, so the answer is that of the beginning. -/
def wait (registry : Registry) (handle : Handle) : Bool :=
  registry.isRequested handle

/-- Routes the signals that ask the process to stop to a flag.  The first call installs
the handler and says so; later calls return the same flag.  A handler of another making
cannot be displaced, and a handler needs a thread, which the system may refuse. -/
def install (registry : Registry) (refusal : Option Thread.Refusal) (journal : Log.Journal) :
    Except Fault Handle × Registry × Log.Journal :=
  match registry.handler, refusal with
  | .raising handle, _ => (.ok handle, registry, journal)
  | .foreign, _ => (.error (.ofHandlerError .alreadyRegistered), registry, journal)
  | .none, some refusal =>
    (.error (.ofHandlerError (.system refusal.error)), registry, journal)
  | .none, none =>
    let (handle, registry) := registry.create
    (.ok handle, { registry with handler := .raising handle },
      journal.emit .main .debug .stopRequest "signal handler installed" [])

/-- Tries to install a handler of another making; there is room for one handler only, and
it, too, needs a thread. -/
def installForeign (registry : Registry) (refusal : Option Thread.Refusal) :
    Bool × Registry :=
  match registry.handler, refusal with
  | .none, none => (true, { registry with handler := .foreign })
  | _, _ => (false, registry)

/-- A signal arrives that asks the process to stop. -/
def receive (registry : Registry) (journal : Log.Journal) : Registry × Log.Journal :=
  match registry.handler with
  | .raising handle =>
    (registry.request handle, report journal)
  | _ => (registry, journal)

end Registry

/-- What a user of flags can do.  Handles are named by the order in which the user came
by them. -/
inductive Action
  | create
  | share (holder : Nat)
  | request (holder : Nat)
  | isRequested (holder : Nat)
  | wait (holder : Nat)
  | install
  | installForeign
  /-- A signal is sent to the process, and its effect on a flag is waited for. -/
  | signal (holder : Nat)
  deriving DecidableEq

inductive Reply
  | handle (holder : Nat)
  | installed (holder : Nat)
  | done
  | answer (value : Bool)
  | refused (fault : Fault)
  | noSuchHandle
  deriving DecidableEq

structure Session where
  registry : Registry
  journal : Log.Journal
  handles : Array Handle
  refusal : Option Thread.Refusal

namespace Session

/-- A user of a process in which nothing has happened but what is in the journal. -/
def start (journal : Log.Journal) (refusal : Option Thread.Refusal) : Session :=
  ⟨.empty, journal, #[], refusal⟩

/-- What all handles show, in the order in which the user came by them. -/
def flags (session : Session) : List Bool :=
  session.handles.toList.map session.registry.isRequested

/-- Does something with one of the user's handles. -/
def withHandle (session : Session) (holder : Nat) (act : Handle → Reply × Session) :
    Reply × Session :=
  match session.handles[holder]? with
  | some handle => act handle
  | none => (.noSuchHandle, session)

def step (session : Session) : Action → Reply × Session
  | .create =>
    let (handle, registry) := session.registry.create
    (.handle session.handles.size,
      { session with registry := registry, handles := session.handles.push handle })
  | .share holder => session.withHandle holder fun handle =>
    (.handle session.handles.size, { session with handles := session.handles.push handle })
  | .request holder => session.withHandle holder fun handle =>
    (.done, { session with registry := session.registry.request handle })
  | .isRequested holder => session.withHandle holder fun handle =>
    (.answer (session.registry.isRequested handle), session)
  | .wait holder => session.withHandle holder fun handle =>
    (.answer (session.registry.wait handle), session)
  | .install =>
    match session.registry.install session.refusal session.journal with
    | (.ok handle, registry, journal) =>
      (.installed session.handles.size,
        { session with
          registry := registry
          journal := journal
          handles := session.handles.push handle })
    | (.error fault, registry, journal) =>
      (.refused fault, { session with registry := registry, journal := journal })
  | .installForeign =>
    let (accepted, registry) := session.registry.installForeign session.refusal
    (.answer accepted, { session with registry := registry })
  | .signal holder => session.withHandle holder fun handle =>
    let (registry, journal) := session.registry.receive session.journal
    (.answer (registry.wait handle),
      { session with registry := registry, journal := journal })

end Session
end StopRequest
end HeapFixtures
