/-
# Directories

The folders and files that are made in the directory of a process or elsewhere, beside those
that the machine has of its own.
-/

import HeapFixtures.Linux.Machine

namespace HeapFixtures
namespace Linux

structure Entry where
  place : Names
  kind : Kind
  /-- How many names lead to it; only entries of one depth need to be compared by name. -/
  depth : Nat := place.length
  depth_eq : depth = place.length := by rfl
  deriving DecidableEq

/-- A machine with what was made on it. -/
structure Directory where
  machine : Machine
  entries : List Entry
  deriving DecidableEq

namespace Directory

def made? (directory : Directory) (place : Names) : Option Kind :=
  let depth := place.length
  (directory.entries.find? fun entry => entry.depth = depth && entry.place = place).map
    Entry.kind

def kind? (directory : Directory) (place : Names) : Option Kind :=
  match directory.made? place with
  | some kind => some kind
  | none => directory.machine.kind? place

/-- A directory with one more thing in it, unless something is there already. -/
def add (directory : Directory) (place : Names) (kind : Kind) : Directory :=
  match directory.kind? place with
  | some _ => directory
  | none =>
    { directory with entries := directory.entries ++ [{ place := place, kind := kind }] }

/-- The name of something in a listing: folders end in a slash. -/
def listedName (path : Names) (kind : Kind) : String :=
  let name := "/".intercalate path
  match kind with
  | .folder => name ++ "/"
  | .file | .closed => name

def listing (directory : Directory) : List (String × Names) :=
  let home := directory.machine.home
  let inside := directory.entries.filter fun entry => home.isPrefixOf entry.place
  inside.map fun entry => (listedName (entry.place.drop home.length) entry.kind, entry.place)

/-- The longest name of a file or folder in bytes. -/
def nameLimit : Nat := 255

/-- The number of bytes that a path must stay below. -/
def pathLimit : Nat := 4096

/-- Whether a name with so many bytes cannot be looked up in a folder. -/
def isTooLong (directory : Directory) (folder : Names) (size : Nat) : Bool :=
  nameLimit < size && (directory.machine.realm folder).boundsNames

/-- Whether paths go on from a place: only a folder lets them through. -/
def passes (directory : Directory) (place : Names) : Except IoError Unit :=
  match directory.kind? place with
  | none => .error .notFound
  | some .file => .error .notFolder
  | some .closed => .error .permissionDenied
  | some .folder => .ok ()

/-- How far a path has been followed. -/
structure Walk where
  place : Names
  links : Nat
  deriving DecidableEq

/-- The start of every path that does not begin at the root. -/
def start (directory : Directory) : Walk := ⟨directory.machine.home, 0⟩

def linkLimit : Nat := 40

/-- Goes to a name in a folder, and through the link that may stand there. -/
def enter (directory : Directory) (walk : Walk) (name : String) : Except IoError Walk :=
  if directory.isTooLong walk.place name.utf8ByteSize then .error .nameTooLong
  else
    let place := walk.place ++ [name]
    match directory.machine.link? place with
    | none => .ok ⟨place, walk.links⟩
    | some link =>
      let links := walk.links + link.count
      if linkLimit < links then .error .tooManyLinks else .ok ⟨link.target, links⟩

def step (directory : Directory) (walk : Walk) (component : Log.Component) :
    Except IoError Walk :=
  match directory.passes walk.place with
  | .error error => .error error
  | .ok () =>
    match component with
    | .root => .ok ⟨[], walk.links⟩
    | .here => .ok walk
    | .up => .ok ⟨walk.place.dropLast, walk.links⟩
    | .normal name => directory.enter walk name

def follow (directory : Directory) (path : Log.Path) : Except IoError Walk :=
  path.foldlM directory.step directory.start

/-- Follows a path that takes so many bytes as it is written. -/
def resolve (directory : Directory) (path : Log.Path) (extent : Nat) : Except IoError Walk :=
  if pathLimit ≤ extent then .error .nameTooLong else directory.follow path

end Directory
end Linux
end HeapFixtures
