/-
# Command lines

Reads the arguments of a program from left to right; the first problem ends the reading, and so do
the requests for help and version.  A value behind an equals sign is looked at once; one that
follows its option is looked at when the next option begins or the line ends, so that an argument
that fits nowhere is reported in its place.
-/

import HeapFixtures.Command.Help
import HeapFixtures.Command.Values

namespace HeapFixtures
namespace Command

/-- What is wrong with a command line. -/
inductive UsageError
  | unexpectedArgument (shown : String)
  /-- A long name that means nothing, what it may have been meant to be, and what the line
  has set before it. -/
  | unknownName (name : String) (similar : Option Topic) (before : List Topic)
  | valueRequired (key : Key)
  | invalidValue (value : String) (key : Key) (reason : String)
  | repeated (key : Key)
  /-- A value for something that takes none, and what the line has set before it. -/
  | unexpectedValue (value : String) (topic : Topic) (before : List Topic)
  deriving DecidableEq

def UsageError.reason : UsageError → String
  | .unexpectedArgument shown =>
    let argument := Looks.wrong.on shown
    s!"unexpected argument '{argument}' found"
  | .unknownName name _ _ =>
    let argument := Looks.wrong.on ("--" ++ name)
    s!"unexpected argument '{argument}' found"
  | .valueRequired key =>
    let option := Looks.wrong.on key.shown
    s!"a value is required for '{option}' but none was supplied"
  | .invalidValue value key reason =>
    let value := Looks.wrong.on value
    let option := Looks.literal.on key.shown
    s!"invalid value '{value}' for '{option}': {reason}"
  | .repeated key =>
    let option := Looks.wrong.on key.shown
    s!"the argument '{option}' cannot be used multiple times"
  | .unexpectedValue value topic _ =>
    let value := Looks.wrong.on value
    let option := Looks.literal.on topic.shown
    s!"unexpected value '{value}' for '{option}' found; no more were expected"

/-- What may have been meant instead. -/
def UsageError.hint? : UsageError → Option String
  | .unknownName _ similar _ => similar.map fun topic =>
    let hint := Looks.right.on "tip:"
    let option := Looks.right.on topic.typed
    s!"  {hint} a similar argument exists: '{option}'"
  | _ => none

/-- A list of topics with one more, unless it is there already. -/
def withTopic (topics : List Topic) (topic : Topic) : List Topic :=
  if topics.contains topic then topics else topics ++ [topic]

/-- The reminder of how the program is called, if there is one.  It names what the line has
set, together with what seems to be meant.  Only a value that has no place brings up groups:
one of which the line has set an option stands for it, behind all else. -/
def UsageError.usage? (program : Program) : UsageError → Option String
  | .unexpectedArgument _ | .repeated _ => some (program.usage [] [])
  | .unknownName _ similar before =>
    some (program.usage (similar.toList.foldl withTopic before) [])
  | .unexpectedValue _ topic before =>
    let (groups, topics) := before.partition Topic.isGroup
    let topics := if groups.contains topic then topics else withTopic topics topic
    some (program.usage topics groups)
  | .valueRequired _ | .invalidValue _ _ _ => none

def UsageError.message (error : UsageError) (program : Program) : String :=
  let help := Looks.literal.on "--help"
  "\n\n".intercalate <|
    [Looks.alarm.on "error:" ++ " " ++ error.reason] ++ error.hint?.toList ++
      (error.usage? program).toList ++ [s!"For more information, try '{help}'."]

/-- What a command line asks for. -/
inductive Wish
  | run (values : Values)
  | help
  | version
  deriving DecidableEq

/-- Reads the value of an option, or says what is wrong with it. -/
def Key.readValue (key : Key) (text : String) : Except String Value :=
  match key with
  | .onFault => (Policy.parse text).map .policy
  | .report => .ok .given
  | _ =>
    match Word.read text with
    | .ok n => .ok (.number n)
    | .error error => .error error.message

/-- An option that was begun. -/
inductive Pending
  | none
  | awaiting (key : Key)
  | holding (key : Key) (text : String)
  deriving DecidableEq

/-- Sets an option.  That it was set before counts more than what is wrong with the
value. -/
def accept (values : Values) (key : Key) (text : String) : Except UsageError Values :=
  if values.any (·.1 = key) then .error (.repeated key)
  else
    match key.readValue text with
    | .ok value => .ok (values ++ [(key, value)])
    | .error reason => .error (.invalidValue text key reason)

def settle (values : Values) : Pending → Except UsageError Values
  | .none => .ok values
  | .awaiting key => .error (.valueRequired key)
  | .holding key text => accept values key text

def Values.topics (values : Values) : List Topic := values.map (.option ·.1)

/-- What a line has set with an option that was begun.  A wrong value counts, too; an option
that was set before is not counted at all. -/
def Values.topicsWith (values : Values) : Pending → List Topic
  | .none | .awaiting _ => values.topics
  | .holding key _ =>
    if values.topics.contains (.option key) then values.topics.erase (.option key)
    else values.topics ++ [.option key]

/-- What an argument looks like. -/
inductive Shape
  /-- Two dashes alone: no options follow. -/
  | terminator
  /-- A long name, and what stands behind the first equals sign. -/
  | long (name : String) (value : Option String)
  | short (first : Char) (rest : List Char)
  | bare (text : String)
  deriving DecidableEq

/-- Tells what an argument looks like.  A single dash is an ordinary text. -/
def Shape.of (argument : String) : Shape :=
  match argument.toList with
  | ['-', '-'] => .terminator
  | '-' :: '-' :: body =>
    let name := String.ofList (body.takeWhile (· ≠ '='))
    match body.dropWhile (· ≠ '=') with
    | [] => .long name none
    | _ :: value => .long name (some (String.ofList value))
  | '-' :: first :: rest => .short first rest
  | _ => .bare argument

def readAll (program : Program) : List String → Values → Pending → Except UsageError Wish
  | [], values, pending => (settle values pending).map .run
  | argument :: rest, values, pending =>
    match Shape.of argument with
    | .terminator =>
      match rest with
      | [] => (settle values pending).map .run
      | trailing :: _ => .error (.unexpectedArgument trailing)
    | .long name value =>
      match program.topic? name, value with
      | none, _ =>
        .error (.unknownName name (program.similar? name) (values.topicsWith pending))
      | some (.option key), none => do
        let values ← settle values pending
        if key.takesValue then readAll program rest values (.awaiting key)
        else
          let values ← accept values key ""
          readAll program rest values .none
      | some .help, none => (settle values pending).map fun _ => .help
      | some .version, none => (settle values pending).map fun _ => .version
      | some topic, some text =>
        match topic.valued? with
        | some key => do
          let values ← settle values pending
          let values ← accept values key text
          readAll program rest values .none
        | none => .error (.unexpectedValue text topic values.topics)
    | .short first _ =>
      if first = 'h' then (settle values pending).map fun _ => .help
      else if first = 'V' then (settle values pending).map fun _ => .version
      else .error (.unexpectedArgument (String.ofList ['-', first]))
    | .bare text =>
      match pending with
      | .awaiting key => readAll program rest values (.holding key text)
      | _ => .error (.unexpectedArgument text)

def read (program : Program) (arguments : List String) : Except UsageError Wish :=
  readAll program arguments [] .none

/-- What the arguments of a program come to, and how it is written in an environment. -/
def reading (program : Program) (arguments : List String) (bindings : Bindings) : Reading :=
  match read program arguments with
  | .error error => .rejected (marked bindings (error.message program))
  | .ok .help => .informs (marked bindings program.help)
  | .ok .version => .informs (marked bindings program.version)
  | .ok (.run values) => .run values

end Command
end HeapFixtures
