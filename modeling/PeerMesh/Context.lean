import PeerMesh.Blocklist
import PeerMesh.Catalog
import PeerMesh.Control
import PeerMesh.Files.Systems

/-!
# What the nodes of a process share

A context holds what its nodes have in common: the base of their identifiers, the catalog of the
host's addresses, the blocklist, the message file system with the lists of file systems, the count
of placeholders given out, and the nodes started on it.
-/

set_option autoImplicit false

namespace PeerMesh

structure Context where
  base : String
  /-- The catalog of the host; none until it is first needed. -/
  catalog : Option Catalog
  blocklist : Blocklist
  messages : Files.MessageFiles Control.Served
  systems : Files.SystemsCache
  /-- How many placeholders were given out. -/
  sessions : Nat
  /-- The numbers of the nodes started on the context, in order, without those that are gone. -/
  nodes : List Nat

namespace Context

def initial (base : String) (catalog : Option Catalog) : Context :=
  { base, catalog, blocklist := .empty, messages := .empty, systems := .empty, sessions := 0,
    nodes := [] }

/-- The placeholder for the connection that is numbered `session`. -/
def placeholder (session : Nat) : String :=
  "temp-uuid-" ++ toString session

def nextPlaceholder (context : Context) : Context × String :=
  ({ context with sessions := context.sessions + 1 }, placeholder (context.sessions + 1))

def loadSystems (context : Context) (workingDirectory : String) (root : Option String) :
    Context × Files.Systems :=
  let (systems, loaded) := context.systems.load workingDirectory root
  ({ context with systems }, loaded)

/-- Forgets the catalog, the blocklist, the registered paths and the lists of file systems. The
nodes stay, and placeholders go on where they were. -/
def reset (context : Context) : Context :=
  { context with
    catalog := none, blocklist := .empty, messages := .empty, systems := context.systems.clear }

end Context

end PeerMesh
