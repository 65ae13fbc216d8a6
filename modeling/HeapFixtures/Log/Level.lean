/-
# Levels
-/

import HeapFixtures.Text.Keyword

namespace HeapFixtures
namespace Log

inductive Level
  | error
  | warn
  | info
  | debug
  | trace
  deriving DecidableEq

namespace Level

/-- The verbosity at which events of a level begin to appear. -/
def verbosity : Level → Nat
  | .error => 1
  | .warn => 2
  | .info => 3
  | .debug => 4
  | .trace => 5

def name : Level → String
  | .error => "ERROR"
  | .warn => "WARN"
  | .info => "INFO"
  | .debug => "DEBUG"
  | .trace => "TRACE"

def keywords : List (String × Level) :=
  [("error", .error), ("err", .error), ("warn", .warn), ("warning", .warn),
   ("info", .info), ("debug", .debug), ("dbg", .debug), ("trace", .trace)]

def parse (text : String) : Except String Level :=
  match Text.keyword? keywords text with
  | some level => .ok level
  | none => .error
      s!"Unknown log level: {text}. Use 'error', 'warn', 'info', 'debug', or 'trace'"

end Level
end Log
end HeapFixtures
