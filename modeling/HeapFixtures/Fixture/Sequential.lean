/-
# The sequential fixture

One thread, one block per iteration, one line per iteration, one pause between iterations.

A request to stop is looked for before an iteration and after the pause, never within, so an
iteration once begun is finished; and the limit is looked for before the pause, so the last
iteration has none.
-/

import HeapFixtures.StopRequest
import HeapFixtures.Sink
import HeapFixtures.Stack

namespace HeapFixtures
namespace Sequential

/-- A length of time: whole seconds, and less than a second in nanoseconds. -/
structure Interval where
  seconds : UInt64
  nanos : UInt64
  deriving DecidableEq

def Interval.ofMillis (millis : UInt64) : Interval :=
  ⟨millis / 1000, (millis % 1000) * 1000000⟩

/-- A length of time in milliseconds, or the largest word if there are more. -/
def Interval.millis (interval : Interval) : UInt64 :=
  let millis := interval.seconds.toNat * 1000 + interval.nanos.toNat / 1000000
  if millis < UInt64.size then millis.toUInt64 else Word.largest

structure Config where
  blockSize : UInt64
  interval : Interval
  /-- The number of iterations, or none for a run without a limit. -/
  iterations : Option UInt64
  deriving DecidableEq

def Config.default : Config := ⟨1048576, ⟨1, 0⟩, none⟩

def Config.validate (config : Config) : Except Fault Unit :=
  if config.blockSize = 0 then .error .zeroSize
  else if config.iterations = some 0 then
    .error (.invalidArgument "iteration limit must be non-zero")
  else .ok ()

/-- The text of the line, without its end. -/
def stepLine : String := "step"

inductive Cause
  | stopRequest
  | iterationLimit
  deriving DecidableEq

def Cause.name : Cause → String
  | .stopRequest => "Shutdown"
  | .iterationLimit => "IterationLimit"

structure Summary where
  iterations : UInt64
  cause : Cause
  deriving DecidableEq

/-- Everything that the loop works on. -/
structure Session where
  stack : Stack
  sink : Sink
  completed : UInt64

/-- The signal that reaches the process in the pause after an iteration, if any. -/
abbrev Pauses := UInt64 → Option Signal

def Pauses.quiet : Pauses := fun _ => none

namespace Session

def emit (session : Session) (level : Log.Level) (message : String)
    (fields : List (String × Log.Value)) : Session :=
  { session with stack := session.stack.emit .main level .sequential message fields }

def stopRequested (session : Session) : Bool := session.stack.site.stopRequested

def requestStop (session : Session) : Session :=
  { session with stack := { session.stack with site := session.stack.site.requestStop } }

/-- Passes on the request to stop that the calls of the sink may have made. -/
def heedSink (session : Session) : Session :=
  if session.sink.stopRaised then session.requestStop else session

/-- Lets the sink do something. -/
def withSink (session : Session) (action : Sink → Except IoError Unit × Sink) :
    Except Stop Unit × Session :=
  match session with
  | ⟨stack, sink, completed⟩ =>
    match action sink with
    | (.ok (), sink) => (.ok (), heedSink ⟨stack, sink, completed⟩)
    | (.error error, sink) => (.error (.fault (.io error)), heedSink ⟨stack, sink, completed⟩)

def write (session : Session) (text : String) : Except Stop Unit × Session :=
  session.withSink fun sink => sink.writeAll text.toList

def flush (session : Session) : Except Stop Unit × Session :=
  session.withSink Sink.flush

/-- One iteration: a block, then a line in two writes, then a flush. -/
def step (session : Session) (blockSize : UInt64) : Except Stop Unit × Session :=
  match session.stack.pair .main blockSize with
  | (.error stop, stack) => (.error stop, { session with stack := stack })
  | (.ok (), stack) =>
    match { session with stack := stack }.write stepLine with
    | (.error stop, session) => (.error stop, session)
    | (.ok (), session) =>
      match session.write "\n" with
      | (.error stop, session) => (.error stop, session)
      | (.ok (), session) => session.flush

def atLimit (session : Session) (config : Config) : Bool :=
  config.iterations.any (· ≤ session.completed)

/-- A signal arrives.  One that asks the process to stop is reported by the thread that
receives signals and raises the request; any other ends the process, unless it is of
the harmless sort. -/
def receive (session : Session) (signal : Signal) : Except Stop Session :=
  if signal.asksToStop then
    let site := session.stack.site
    let site := { site with journal := StopRequest.report site.journal }
    .ok { session with stack := { session.stack with site := site } }.requestStop
  else if signal.isHarmless then .ok session
  else .error (.exit (.signal signal))

end Session

inductive Turn
  | again (session : Session)
  | ended (cause : Cause) (session : Session)
  /-- Less than the end. -/
  | stopped (stop : Stop) (session : Session)

/-- The second half of a turn: what follows a line that was written and flushed. -/
def afterStep (config : Config) (pauses : Pauses) (session : Session) : Turn :=
  match Word.add? session.completed 1 with
  | none => .stopped (.panic .addOverflow) session
  | some completed =>
    let session := { session with completed := completed }.emit .debug "step written"
      [("iteration", .word completed)]
    if session.atLimit config then .ended .iterationLimit session
    else
      let paused : Except Stop Session := match pauses completed with
        | none => .ok session
        | some signal => session.receive signal
      match paused with
      | .error stop => .stopped stop session
      | .ok session =>
        if session.stopRequested then .ended .stopRequest session else .again session

def turn (config : Config) (pauses : Pauses) (session : Session) : Turn :=
  if session.stopRequested then .ended .stopRequest session
  else if session.atLimit config then .ended .iterationLimit session
  else
    match session.step config.blockSize with
    | (.error stop, session) => .stopped stop session
    | (.ok (), session) => afterStep config pauses session

/-- The end of a run: the last event and the summary. -/
def conclude (cause : Cause) (session : Session) : Except Stop Summary × Session :=
  (.ok ⟨session.completed, cause⟩,
    session.emit .info "sequential fixture stopped"
      [("iterations", .word session.completed), ("stopped_by", .shown cause.name)])

/-- The loop, with room for a number of turns.  Each turn that is followed by another
counts an iteration, so as many turns as there are words are always enough. -/
def loop (config : Config) (pauses : Pauses) : Nat → Session → Except Stop Summary × Session
  | 0, session => (.error (.panic .addOverflow), session)
  | room + 1, session =>
    match turn config pauses session with
    | .again session => loop config pauses room session
    | .ended cause session => conclude cause session
    | .stopped stop session => (.error stop, session)

def showLimit : Option UInt64 → String
  | none => "None"
  | some limit => s!"Some({limit})"

/-- The beginning of a run: the settings are looked at, and the first event is written.
Nothing at all happens with settings that are turned down. -/
def start (config : Config) (stack : Stack) (sink : Sink) : Except Fault Session :=
  match config.validate with
  | .error fault => .error fault
  | .ok () =>
    .ok (Session.emit ⟨stack, sink, 0⟩ .info "sequential fixture started"
      [("block_size", .word config.blockSize),
       ("interval_ms", .word config.interval.millis),
       ("iterations", .shown (showLimit config.iterations))])

def run (config : Config) (pauses : Pauses) (stack : Stack) (sink : Sink) :
    Except Stop Summary × Session :=
  match start config stack sink with
  | .error fault => (.error (.fault fault), ⟨stack, sink, 0⟩)
  | .ok session => loop config pauses UInt64.size session

end Sequential
end HeapFixtures
