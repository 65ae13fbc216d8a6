/-
# The looks of messages

The help text and the messages about a wrong command line set some of their pieces off by marks.
No stream of a program counts as a terminal, but the environment can ask for the marks.
-/

import HeapFixtures.Bindings
import HeapFixtures.Text.Terminal

namespace HeapFixtures
namespace Command

inductive Looks
  | heading
  | literal
  | alarm
  | wrong
  | right
  deriving DecidableEq

/-- The marks in front of a piece: bold, underlined or in a colour. -/
def Looks.mark : Looks → String
  | .heading => "\x1b[1m\x1b[4m"
  | .literal => "\x1b[1m"
  | .alarm => "\x1b[1m\x1b[31m"
  | .wrong => "\x1b[33m"
  | .right => "\x1b[32m"

def Looks.on (looks : Looks) (text : String) : String :=
  looks.mark ++ text ++ "\x1b[0m"

def plainVariable : String := "NO_COLOR"

def markedVariable : String := "CLICOLOR_FORCE"

/-- Whether texts are written with their marks. -/
def isMarked (bindings : Bindings) : Bool :=
  bindings.holds markedVariable && !bindings.holds plainVariable

def marked (bindings : Bindings) (text : String) : String :=
  if isMarked bindings then text else Text.withoutControls text

end Command
end HeapFixtures
