import PeerMesh.Text.Parts

/-!
# Paths

A path is a text cut at its slashes. Empty parts and parts that are a single dot say nothing; the
parts that remain are its components, and `..` is one of them like any other. Two paths that begin
alike, with a slash or without, lead to the same place if their components agree. The way that a
path describes says how it begins as well: a slash leads to the root, and a dot stays here.
-/

set_option autoImplicit false

namespace PeerMesh.Files

/-- The parts of a path between its slashes. -/
def parts (path : String) : List String :=
  Text.parts '/' path

def isComponent (part : String) : Bool :=
  part != "" && part != "."

def components (path : String) : List String :=
  (parts path).filter isComponent

def isAbsolute (path : String) : Bool :=
  path.toList.head? == some '/'

/-- One step of the way that a path describes. -/
inductive Step where
  | root
  | here
  | parent
  | entry (name : String)
  deriving DecidableEq, Repr

def Step.ofComponent (component : String) : Step :=
  if component = ".." then .parent else .entry component

/-- The way that a path describes. A dot is a step only where it is the first part. -/
def way (path : String) : List Step :=
  let start :=
    if isAbsolute path then [Step.root]
    else if (parts path).head? == some "." then [.here]
    else []
  start ++ (components path).map Step.ofComponent

/-- The path to `path` from a directory, which is followed by a slash unless it ends in one or is
empty. An absolute path stays as it is. -/
def joined (directory path : String) : String :=
  if isAbsolute path then path
  else if directory.toList.getLast?.all (· == '/') then directory ++ path
  else directory ++ "/" ++ path

end PeerMesh.Files
