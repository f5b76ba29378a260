/-!
# Node configuration

What a node may be told before it starts. Every setting has a default, and the defaults describe a
node that listens on all addresses, on a port of the system's choice.
-/

set_option autoImplicit false

namespace PeerMesh

/-- The settings of one node. -/
structure MeshConfig where
  /-- The first part of the node's identifier, in place of the one that its context gives. -/
  baseId : Option String
  /-- The listening port; zero leaves the choice to the system. -/
  port : UInt16
  rootDir : Option String
  /-- The interfaces to listen on; none means all addresses. -/
  interfaces : List String
  allowPeerLocal : Bool
  /-- How long a dial may take, in milliseconds. -/
  connectTimeout : Nat
  /-- The first component of the node's control paths. -/
  realm : String
  installExitHook : Bool
  deriving DecidableEq, Repr

def MeshConfig.standard : MeshConfig where
  baseId := none
  port := 0
  rootDir := none
  interfaces := []
  allowPeerLocal := true
  connectTimeout := 30000
  realm := "mesh"
  installExitHook := true

def MeshConfig.withPort (port : UInt16) : MeshConfig :=
  { MeshConfig.standard with port }

end PeerMesh
