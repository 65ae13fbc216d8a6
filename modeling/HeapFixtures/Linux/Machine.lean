/-
# A machine and its tree of files

What a process finds outside its own directory: folders and files that are there from the
beginning, links between them, and realms in which nothing can be made, or not everything.
-/

import HeapFixtures.IoError
import HeapFixtures.Log.Path

namespace HeapFixtures
namespace Linux

inductive Kind
  | folder
  | file
  /-- Something that is there and lets nobody through. -/
  | closed
  deriving DecidableEq

/-- The names in a text of one or more lines, with blanks between them. -/
def names (text : String) : List String :=
  ((text.splitOn "\n").flatMap fun line => line.splitOn " ").filter fun name => name ≠ ""

/-- A folder and the names of what is in it. -/
structure Listing where
  folder : Names
  folders : List String
  files : List String
  closed : List String
  deriving DecidableEq

namespace Listing

/-- A folder with folders and files in it, their names being separated by blanks. -/
def of (folder : Names) (folders files : String) : Listing :=
  ⟨folder, names folders, names files, []⟩

def kind? (listing : Listing) (name : String) : Option Kind :=
  if listing.folders.contains name then some .folder
  else if listing.files.contains name then some .file
  else if listing.closed.contains name then some .closed
  else none

end Listing

structure Link where
  place : Names
  /-- The place that it leads to, possibly through other links. -/
  target : Names
  /-- The links on the way there, this one included. -/
  count : Nat
  deriving DecidableEq

/-- A part of the tree with rules of its own for making things. -/
inductive Realm
  | ordinary
  /-- Nothing is there that the system does not show, and nothing can be. -/
  | view
  | objects
  | terminals
  /-- Groups of processes: a folder makes a group, and its files come with it. -/
  | groups
  deriving DecidableEq

namespace Realm

def refusesFolder : Realm → Option IoError
  | .ordinary | .groups => none
  | .view => some .notFound
  | .objects | .terminals => some .notPermitted

def refusesFile : Realm → Option IoError
  | .ordinary => none
  | .view => some .notFound
  | .objects | .terminals | .groups => some .permissionDenied

/-- Whether a name can be too long to be looked up. -/
def boundsNames : Realm → Bool
  | .ordinary | .terminals => true
  | .view | .objects | .groups => false

end Realm

/-- A machine, as far as a process can tell. -/
structure Machine where
  home : Names
  listings : List Listing
  links : List Link
  /-- The folders with which realms begin, the inner ones first. -/
  realms : List (Names × Realm)
  /-- The smallest piece of memory that is refused, in bytes. -/
  memory : Nat
  /-- The smallest block that the heap refuses, in bytes. -/
  blockLimit : Nat
  deriving DecidableEq

namespace Machine

/-- What lies at a place, if one of the listings tells.  The root is a folder. -/
def kind? (machine : Machine) (place : Names) : Option Kind :=
  if place = machine.home then some .folder
  else
    match place.getLast? with
    | none => some .folder
    | some name =>
      let folder := place.dropLast
      match machine.listings.find? fun listing => listing.folder = folder with
      | some listing => listing.kind? name
      | none => none

def link? (machine : Machine) (place : Names) : Option Link :=
  machine.links.find? fun link => link.place = place

def realm (machine : Machine) (folder : Names) : Realm :=
  ((machine.realms.find? fun (top, _) => top.isPrefixOf folder).map Prod.snd).getD .ordinary

end Machine
end Linux
end HeapFixtures
