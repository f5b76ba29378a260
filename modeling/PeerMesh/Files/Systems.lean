import PeerMesh.Files.Local
import PeerMesh.Files.Message

/-!
# Shared lists of file systems

The nodes of a context that are rooted at the same place share one list of file systems: the
context's message file system, then the local one if there is a root. Roots are compared by their
components, after a relative root has been taken from the working directory. Lists are told apart
by a number, so that sharing a list and having an equal one are different things.
-/

set_option autoImplicit false

namespace PeerMesh.Files

/-- One file system of a list. -/
inductive FileSystem where
  /-- The message file system of the context. -/
  | messages
  | below (files : LocalFiles)
  deriving DecidableEq, Repr

def FileSystem.name : FileSystem → String
  | .messages => MessageFiles.name
  | .below _ => LocalFiles.name

def FileSystem.localFiles? : FileSystem → Option LocalFiles
  | .messages => none
  | .below files => some files

/-- One shared list. Requests go through it from the front, which the messages have. -/
structure Systems where
  number : Nat
  members : List FileSystem
  led : members.head? = some .messages
  deriving DecidableEq, Repr

namespace Systems

/-- The names of the file systems of a list, in order. -/
def names (systems : Systems) : List String :=
  systems.members.map FileSystem.name

/-- The local file system of a list, if there is one. -/
def localFiles (systems : Systems) : Option LocalFiles :=
  systems.members.findSome? FileSystem.localFiles?

/-- A list of the messages alone. -/
def unrooted (number : Nat) : Systems := ⟨number, [.messages], rfl⟩

end Systems

/-- The lists that were made, by the components of their roots. -/
structure SystemsCache where
  lists : List (Option (List String) × Systems)
  /-- How many lists were made, those since forgotten included. -/
  made : Nat
  deriving DecidableEq, Repr

namespace SystemsCache

def empty : SystemsCache := ⟨[], 0⟩

/-- The list for a root, made on first use. -/
def load (cache : SystemsCache) (workingDirectory : String) (root : Option String) :
    SystemsCache × Systems :=
  let place := root.map (joined workingDirectory)
  let key := place.map components
  match cache.lists.lookup key with
  | some systems => (cache, systems)
  | none =>
    let systems : Systems :=
      { number := cache.made
        members := .messages :: (place.map fun root => .below ⟨root⟩).toList
        led := rfl }
    (⟨cache.lists ++ [(key, systems)], cache.made + 1⟩, systems)

def clear (cache : SystemsCache) : SystemsCache :=
  { cache with lists := [] }

end SystemsCache

end PeerMesh.Files
