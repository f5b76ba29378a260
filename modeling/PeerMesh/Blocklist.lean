import PeerMesh.NameMap

/-!
# Blocked peers

The identifiers that no node of a context may connect to or be connected from. Identifiers are only
ever added; the list is emptied only together with all other state of its context.
-/

set_option autoImplicit false

namespace PeerMesh

/-- A set of peer identifiers, listed in ascending order. -/
structure Blocklist where
  peers : NameMap Unit
  deriving DecidableEq

namespace Blocklist

def empty : Blocklist := ⟨.empty⟩

instance : Inhabited Blocklist := ⟨empty⟩

def contains (blocklist : Blocklist) (peer : String) : Bool :=
  blocklist.peers.contains peer

def insert (blocklist : Blocklist) (peer : String) : Blocklist :=
  ⟨blocklist.peers.insert peer ()⟩

def list (blocklist : Blocklist) : List String :=
  blocklist.peers.names

def size (blocklist : Blocklist) : Nat :=
  blocklist.peers.size

theorem contains_insert (blocklist : Blocklist) (peer other : String) :
    (blocklist.insert peer).contains other = (peer == other || blocklist.contains other) :=
  blocklist.peers.contains_insert peer () other

end Blocklist

end PeerMesh
