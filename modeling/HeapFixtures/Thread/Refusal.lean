/-
# Threads that are refused
-/

import HeapFixtures.IoError

namespace HeapFixtures
namespace Thread

inductive Refusal
  | noRoom
  | badSize
  deriving DecidableEq

namespace Refusal

def error : Refusal → IoError
  | .noRoom => .tryAgain
  | .badSize => .invalidArgument

/-- A refusal in the words of a program that cannot go on without its thread: the number
of the error, its class and its text. -/
def details : Refusal → String
  | .noRoom =>
    "Os \x7b code: 11, kind: WouldBlock, message: \"" ++ osErrorText 11 ++ "\" \x7d"
  | .badSize =>
    "Os \x7b code: 22, kind: InvalidInput, message: \"" ++ osErrorText 22 ++ "\" \x7d"

end Refusal

end Thread
end HeapFixtures
