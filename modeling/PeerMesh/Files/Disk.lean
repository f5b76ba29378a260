import PeerMesh.Files.Path
import PeerMesh.Text.Utf8

/-!
# A disk of plain files

A disk holds files, each under the components that lead to it from the root; the directories are
the places above files. A path is followed part by part: every step needs a directory to start
from, also the step of an empty part or a dot, and two dots go up. Nothing but a file can be read.
-/

set_option autoImplicit false

namespace PeerMesh.Files

/-- The files of a disk with the components that lead to them. -/
structure Disk where
  files : List (List String × Bytes)
  deriving Repr

namespace Disk

def empty : Disk := ⟨[]⟩

/-- Whether a place is a directory. The root is one even if the disk is empty. -/
def isDirectory (disk : Disk) (place : List String) : Bool :=
  place.isEmpty || disk.files.any fun file =>
    decide (place.length < file.1.length) && place.isPrefixOf file.1

/-- The place that the parts of a path lead to from a place, if every step starts from a
directory. -/
def follow (disk : Disk) (place : List String) : List String → Option (List String)
  | [] => some place
  | part :: rest =>
    if !disk.isDirectory place then none
    else if !isComponent part then disk.follow place rest
    else if part = ".." then disk.follow place.dropLast rest
    else disk.follow (place ++ [part]) rest

/-- The least number of bytes that is too many for a path. -/
def pathLimit : Nat := 4096

def place? (disk : Disk) (path : String) : Option (List String) :=
  if path.utf8ByteSize < pathLimit then disk.follow [] (parts path) else none

def read (disk : Disk) (path : String) : Option Bytes :=
  (disk.place? path).bind fun place => disk.files.lookup place

def hasDirectory (disk : Disk) (path : String) : Bool :=
  (disk.place? path).any disk.isDirectory

def ofFiles (directory : String) (files : List (String × Bytes)) : Disk :=
  ⟨files.map fun file => (components directory ++ components file.1, file.2)⟩

end Disk

end PeerMesh.Files
