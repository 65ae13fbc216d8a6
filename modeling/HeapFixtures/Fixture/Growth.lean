/-
# The growing fixture

Each round begins with a small block, doubles it until it has the largest size of the run, and
gives it back.  The last step of a round is cut to that size.
-/

import HeapFixtures.Stack

namespace HeapFixtures
namespace Growth

structure Config where
  rounds : UInt64
  initialSize : UInt64
  maxSize : UInt64
  deriving DecidableEq

def Config.default : Config := ⟨2, 1024, 524288⟩

def Config.validate (config : Config) : Except Fault Unit :=
  if config.rounds = 0 then .error (.invalidArgument "round count must be non-zero")
  else if config.initialSize = 0 then
    .error (.invalidArgument "initial size must be non-zero")
  else if config.maxSize < config.initialSize then
    let (initial, largest) := (config.initialSize, config.maxSize)
    .error (.invalidArgument s!"max size {largest} is below initial size {initial}")
  else .ok ()

/-- The size after a size that is still below the largest. -/
def grown (size maxSize : UInt64) : UInt64 :=
  min (Word.saturatingMul size 2) maxSize

/-- The sizes after a size, with room for a number of them.  A size that is not zero
reaches any other within 64 doublings; zero never grows, and has no such list. -/
def sizesAfter (maxSize : UInt64) : Nat → UInt64 → Option (List UInt64)
  | room, size =>
    if size < maxSize then
      match room with
      | 0 => none
      | room + 1 =>
        let next := grown size maxSize
        (sizesAfter maxSize room next).map (next :: ·)
    else some []

/-- The sizes asked for in one round, the first among them, unless they never end. -/
def Config.roundSizes? (config : Config) : Option (List UInt64) :=
  (sizesAfter config.maxSize 64 config.initialSize).map (config.initialSize :: ·)

/-- Grows a block through sizes and gives it back. -/
def growThrough (thread : Thread) : List UInt64 → Block → Stack → Except Stop Unit × Stack
  | [], block, stack => (.ok (), stack.release thread block)
  | size :: rest, block, stack =>
    match stack.resize thread block size with
    | (.ok block, stack) => growThrough thread rest block stack
    | (.error stop, stack) => (.error stop, stack)

def grow (thread : Thread) : List UInt64 → Stack → Except Stop Unit × Stack
  | [], stack => (.ok (), stack)
  | first :: rest, stack =>
    match stack.allocate thread first with
    | (.ok block, stack) => growThrough thread rest block stack
    | (.error stop, stack) => (.error stop, stack)

/-- The rounds that are left, with the number of the next one and the requests so far. -/
def rounds (sizes : List UInt64) :
    Nat → UInt64 → UInt64 → Stack → Except Stop UInt64 × Stack
  | 0, _, requests, stack => (.ok requests, stack)
  | left + 1, round, requests, stack =>
    match grow .main sizes stack with
    | (.error stop, stack) => (.error stop, stack)
    | (.ok (), stack) =>
      match Word.add? requests sizes.length.toUInt64 with
      | none => (.error (.panic .addOverflow), stack)
      | some requests =>
        let stack := stack.emit .main .debug .growth "round released"
          [("round", .word round)]
        rounds sizes left (round + 1) requests stack

/-- Runs the fixture and returns the number of requests made. -/
def run (config : Config) (stack : Stack) : Except Stop UInt64 × Stack :=
  match config.validate with
  | .error fault => (.error (.fault fault), stack)
  | .ok () =>
    let sizes := config.roundSizes?.getD []
    let stack := stack.emit .main .info .growth "realloc fixture started"
      [("rounds", .word config.rounds),
       ("requests_per_round", .word sizes.length.toUInt64)]
    rounds sizes config.rounds.toNat 0 0 stack

end Growth
end HeapFixtures
