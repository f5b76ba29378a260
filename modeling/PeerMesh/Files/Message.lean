import PeerMesh.NameMap
import PeerMesh.Text.Quoted

/-!
# Registered paths

A message file system serves paths that were registered with a handler, each path by the handler
registered last. The paths are listed in ascending order. A request carries named options.
-/

set_option autoImplicit false

namespace PeerMesh.Files

/-- The options of a request, by name. -/
abbrev PathOptions := NameMap String

/-- Handlers by path. -/
structure MessageFiles (Handler : Type) where
  handlers : NameMap Handler

namespace MessageFiles

variable {Handler : Type}

def name : String := "messages"

def empty : MessageFiles Handler := ⟨.empty⟩

/-- Registers a handler for a path, in place of any handler there. -/
def add (files : MessageFiles Handler) (path : String) (handler : Handler) :
    MessageFiles Handler :=
  ⟨files.handlers.insert path handler⟩

def remove (files : MessageFiles Handler) (path : String) : MessageFiles Handler :=
  ⟨files.handlers.erase path⟩

def contains (files : MessageFiles Handler) (path : String) : Bool :=
  files.handlers.contains path

def handler? (files : MessageFiles Handler) (path : String) : Option Handler :=
  files.handlers.get? path

def paths (files : MessageFiles Handler) : List String :=
  files.handlers.names

def description (files : MessageFiles Handler) : String :=
  "MessageFileSystem \x7b paths: " ++ Text.bracketed (files.paths.map Text.quoted) ++ " \x7d"

end MessageFiles

end PeerMesh.Files
