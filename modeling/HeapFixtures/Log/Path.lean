/-
# Paths of log files

Empty pieces between slashes do not count, and neither does a dot anywhere but at the front.  The
last component of a path names the log file if it is an ordinary name; a path that ends in the
root, in a dot or in two dots names no file.
-/

import HeapFixtures.Fault

namespace HeapFixtures

/-- The names on the way from the top of all directories to a place. -/
abbrev Names := List String

namespace Log

inductive Component
  | root
  | here
  | up
  | normal (name : String)
  deriving DecidableEq

namespace Component

/-- A piece between slashes that is neither empty nor a dot. -/
def ofPiece (piece : String) : Component :=
  if piece = ".." then .up else .normal piece

def text : Component → String
  | .root => ""
  | .here => "."
  | .up => ".."
  | .normal name => name

end Component

abbrev Path := List Component

namespace Path

def ofText (text : String) : Path :=
  let pieces := text.splitOn "/"
  let front : Path :=
    match pieces with
    | "" :: _ :: _ => [.root]
    | "." :: _ => [.here]
    | _ => []
  front ++ (pieces.filter fun piece => piece ≠ "" && piece ≠ ".").map Component.ofPiece

/-- The bytes of a text that starts at a byte, up to the end of each of its pieces between
slashes that stands for a component. -/
def extentsFrom (start : Nat) : List String → List Nat
  | [] => []
  | piece :: rest =>
    let stop := start + piece.utf8ByteSize
    if piece ≠ "" && piece ≠ "." then stop :: extentsFrom (stop + 1) rest
    else extentsFrom (stop + 1) rest

/-- The bytes of a path that is written out, up to the end of each of its components. -/
def extents (text : String) : List Nat :=
  let pieces := text.splitOn "/"
  let front :=
    match pieces with
    | "" :: _ :: _ | "." :: _ => [1]
    | _ => []
  front ++ extentsFrom 0 pieces

def toText (path : Path) : String :=
  match path with
  | [.root] => "/"
  | _ => "/".intercalate (path.map Component.text)

end Path

/-- The place of a log file: its directory, never empty, and its name. -/
structure Location where
  directory : Path
  name : String
  deriving DecidableEq

/-- The place that a path names, if it names a file.  A name alone stands for a file in
the directory in which the process runs. -/
def Location.ofText? (text : String) : Option Location :=
  match (Path.ofText text).reverse with
  | .normal name :: [] => some ⟨[.here], name⟩
  | .normal name :: above => some ⟨above.reverse, name⟩
  | _ => none

/-- The bytes of the directory that a path names, as it is written there, up to the end of
each of its components. -/
def Location.extents (text : String) : List Nat :=
  match (Path.extents text).dropLast with
  | [] => [1]
  | extents => extents

def Location.path (location : Location) : Path :=
  location.directory ++ [.normal location.name]

end Log
end HeapFixtures
