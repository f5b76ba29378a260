/-!
# Control paths

A node is watched and administered by reading paths: the last stats lines of its group, the
counters of its realm, and the blocklist. The first lies under the node's identifier; the other
two belong to the realm, the first component of them all.
-/

set_option autoImplicit false

namespace PeerMesh.Control

def statsPath (realm id : String) : String :=
  "/" ++ realm ++ "/" ++ id ++ "/stats"

def statsMapPath (realm : String) : String :=
  "/" ++ realm ++ "/statsMap"

/-- The path that lists the blocklist, or blocks a peer. -/
def banPath (realm : String) : String :=
  "/" ++ realm ++ "/host/ban"

def hostOption : String := "host"

/-- What registered paths serve. Groups are given by their numbers. -/
inductive Served where
  /-- The last stats lines of a group. -/
  | statsLines (group : Nat)
  /-- The counters of the newest open node of a realm, or of the registering node's group. -/
  | statsMap (realm : String) (fallback : Nat)
  | ban
  deriving DecidableEq, Repr

/-- The blocked identifiers as text, one per line. -/
def blockedLines (peers : List String) : String :=
  String.join (peers.map fun peer => peer ++ "\n")

/-- The report on blocking a peer: whether it was blocked before, and whether a connection was
closed. -/
def banReport (host : String) (known dropped : Bool) : String :=
  host ++ (if known then " already in blocked peers\n" else " added to blocked peers\n") ++
    host ++ (if dropped then " connection closed (async)\n" else " connection not found\n")

end PeerMesh.Control
