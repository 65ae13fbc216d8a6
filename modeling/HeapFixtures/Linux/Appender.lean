/-
# Log files

A log file is opened on its day, in a folder that is made if need be.  It is opened first
and the folders are made only if that fails; then it is opened again.
-/

import HeapFixtures.Linux.Making

namespace HeapFixtures
namespace Linux
namespace Directory

/-- The name under which a log file is found on its day. -/
def dated (name day : String) : String := name ++ "." ++ day

/-- Opens the log file with a name in the folder that a path leads to, and makes it if it
is not there.  The answer is the place of the file. -/
def openDated (directory : Directory) (day : String) (folder : Log.Path) (extent : Nat)
    (name : String) : Except IoError Names × Directory :=
  let slash := if folder = [.root] then 0 else 1
  if pathLimit ≤ extent + slash + (dated name day).utf8ByteSize then
    (.error .nameTooLong, directory)
  else
    match directory.resolve folder extent with
    | .error error => (.error error, directory)
    | .ok walk =>
      match directory.step walk (.normal (dated name day)) with
      | .error error => (.error error, directory)
      | .ok file =>
        match directory.makeFile file.place with
        | (.error error, directory) => (.error error, directory)
        | (.ok (), directory) => (.ok file.place, directory)

/-- Opens a log file, if need be after making the folders on the way to it.  The extents
are those of its folder.  The text of an error says which of the two failed. -/
def openLog (directory : Directory) (day : String) (location : Log.Location)
    (extents : List Nat) : Except String Names × Directory :=
  let openFile (directory : Directory) :=
    directory.openDated day location.directory (extents.getLastD 0) location.name
  match openFile directory with
  | (.ok file, directory) => (.ok file, directory)
  | (.error _, directory) =>
    match directory.makeAll location.directory extents with
    | (.error error, directory) =>
      let reason := error.message
      (.error s!"failed to create log directory: {reason}", directory)
    | (.ok (), directory) =>
      match openFile directory with
      | (.error error, directory) =>
        let reason := error.message
        (.error s!"failed to create log file: {reason}", directory)
      | (.ok file, directory) => (.ok file, directory)

end Directory
end Linux
end HeapFixtures
