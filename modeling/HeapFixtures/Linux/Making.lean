/-
# Making folders and files

To make all folders on a path, the longest part of it is tried first; what is missing is then made
on the way down.  The folders that were made stay, even where a later one is refused.
-/

import HeapFixtures.Linux.Directory

namespace HeapFixtures
namespace Linux
namespace Directory

/-- Makes something at a place where there is nothing, unless it is refused. -/
def make (directory : Directory) (place : Names) (kind : Kind) (refusal : Option IoError) :
    Except IoError Unit × Directory :=
  match refusal with
  | some error => (.error error, directory)
  | none => (.ok (), directory.add place kind)

/-- Sees to it that there is a folder at a place. -/
def makeFolder (directory : Directory) (place : Names) : Except IoError Unit × Directory :=
  match directory.kind? place with
  | some .folder => (.ok (), directory)
  | some .file | some .closed => (.error .alreadyThere, directory)
  | none =>
    directory.make place .folder (directory.machine.realm place.dropLast).refusesFolder

/-- Sees to it that there is a file at a place at which there is no folder. -/
def makeFile (directory : Directory) (place : Names) : Except IoError Unit × Directory :=
  match directory.kind? place with
  | some _ => (.ok (), directory)
  | none => directory.make place .file (directory.machine.realm place.dropLast).refusesFile

/-- The error for one who makes a folder at the end of a path that cannot be followed.  A
link at the very end need not be followed to see that it is there. -/
def unreachable (directory : Directory) (path : Log.Path) (error : IoError) : IoError :=
  if error = .tooManyLinks then
    match directory.follow path.dropLast with
    | .ok _ => .alreadyThere
    | .error error => error
  else error

/-- Sees to it that there is a folder where a path leads to; the folders on the way must be
there. -/
def reachFolder (directory : Directory) (path : Log.Path) (extent : Nat) :
    Except IoError Unit × Directory :=
  match directory.resolve path extent with
  | .error error => (.error (directory.unreachable path error), directory)
  | .ok walk => directory.makeFolder walk.place

/-- The number of components, at most so many, behind which a path has a folder after an
attempt to make it.  The attempts begin with the longest part of the path; each makes
way for a shorter one only if something on the part is missing.  In front of a path there
is a folder. -/
def climb (directory : Directory) (path : Log.Path) (extents : List Nat) :
    Nat → Except IoError Nat × Directory
  | 0 => (.ok 0, directory)
  | count + 1 =>
    match directory.reachFolder (path.take (count + 1)) (extents.getD count 0) with
    | (.ok (), directory) => (.ok (count + 1), directory)
    | (.error error, directory) =>
      if error = IoError.notFound then directory.climb path extents count
      else (.error error, directory)

/-- Follows the rest of a path and makes the folders on it that are missing. -/
def descend (directory : Directory) (walk : Walk) : Log.Path → Except IoError Unit × Directory
  | [] => (.ok (), directory)
  | component :: rest =>
    match directory.step walk component with
    | .error error =>
      (.error (if error = .tooManyLinks then .alreadyThere else error), directory)
    | .ok further =>
      match directory.makeFolder further.place with
      | (.error error, directory) => (.error error, directory)
      | (.ok (), directory) => directory.descend further rest

/-- Makes the folders on a path that are missing.  The extents are the bytes up to the end
of each component as the path is written. -/
def makeAll (directory : Directory) (path : Log.Path) (extents : List Nat) :
    Except IoError Unit × Directory :=
  match directory.climb path extents path.length with
  | (.error error, directory) => (.error error, directory)
  | (.ok count, directory) =>
    match directory.follow (path.take count) with
    | .error error => (.error error, directory)
    | .ok walk => directory.descend walk (path.drop count)

/-- A directory with an empty file, and the folders on the way to it. -/
def withFile (directory : Directory) (text : String) : Directory :=
  let path := Log.Path.ofText text
  let (_, directory) := directory.makeAll path.dropLast []
  match directory.follow path with
  | .ok walk => directory.add walk.place .file
  | .error _ => directory

def withFolder (directory : Directory) (text : String) : Directory :=
  (directory.makeAll (Log.Path.ofText text) []).2

/-- The directory of a process that holds empty files and folders. -/
def ofLists (machine : Machine) (files folders : List String) : Directory :=
  files.foldl withFile (folders.foldl withFolder ⟨machine, []⟩)

end Directory
end Linux
end HeapFixtures
