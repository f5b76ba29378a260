import PeerMesh.Files.Disk

/-!
# Files below a root directory

A local file system serves the files below its root. A requested path is taken relative to the
root, whether it begins with a slash or not, and its way is followed name by name. Nothing is served
where a step would lead elsewhere: up to a parent, or to the root of the disk.
-/

set_option autoImplicit false

namespace PeerMesh.Files

/-- A read-only view of the directory at `root`. -/
structure LocalFiles where
  root : String
  deriving DecidableEq, Repr

namespace LocalFiles

def name : String := "local"

/-- A path without the slashes at its beginning. -/
def relative (path : String) : String :=
  String.ofList (path.toList.dropWhile (· == '/'))

/-- The place after one more step, unless the step may lead away from below the root. -/
def enter? (place : String) : Step → Option String
  | .entry name => some (joined place name)
  | .here => some place
  | .parent => none
  | .root => none

/-- The place that a requested path leads to. -/
def resolve? (files : LocalFiles) (path : String) : Option String :=
  (way (relative path)).foldlM enter? files.root

def read (files : LocalFiles) (disk : Disk) (path : String) : Option Bytes :=
  (files.resolve? path).bind disk.read

end LocalFiles

end PeerMesh.Files
