import PeerMesh.Node.Basic

/-!
# Requests to dial

A node is asked to dial an address, perhaps with the identifier of the peer that is expected
there. It declines for the first reason that applies, and otherwise marks identifier and address
and begins one dial. The order of the reasons is part of the answer: a blocked peer is declined
before anything is noted, and the closed table comes before what is registered or marked in it.
-/

set_option autoImplicit false

namespace PeerMesh.Node

/-- Whether an address is one of the node's own: its port, on an unspecified or loopback address, on
an address of the host, or on one to which a listener is bound. -/
def isOwnAddress (node : Node) (address : SocketAddress) : Bool :=
  address.port == node.profile.port &&
    (address.ip.isUnspecified || address.ip.isLoopback || node.profile.catalog.isHost address.ip ||
      node.profile.localAddresses.any fun own => own.ip == address.ip)

/-- Whether the node declines an address for lying on the local segment. -/
def declinesSegment (node : Node) (address : SocketAddress) : Bool :=
  !node.profile.allowPeerLocal && node.profile.catalog.isLocal address.ip

/-- The first reason to decline a request, if there is one. -/
def refusal? (node : Node) (around : Surroundings) (peer : Option String)
    (address : SocketAddress) : Option RejectReason :=
  if peer.any around.blocks then some .blocked
  else if peer.any around.isMember then some .selfPeer
  else if node.isOwnAddress address then some .selfAddress
  else if node.declinesSegment address then some .localSegment
  else if node.table.closed then some .shutDown
  else if peer.any node.table.registry.containsName ||
      node.table.registry.containsAddress address then some .alreadyConnected
  else if peer.any node.table.inFlight.isDialing ||
      node.table.inFlight.hasPending address then some .alreadyDialing
  else none

inductive Decision where
  /-- A dial was begun, under this number. -/
  | dialing (dial : Nat)
  | rejected (reason : RejectReason)
  deriving DecidableEq, Repr

/-- Begins a dial: marks identifier and address, and gives the connection attempt its deadline. -/
def beginDial (node : Node) (peer : Option String) (address : SocketAddress) (now : Nat) : Node :=
  let marked := node.updateInFlight fun inFlight => inFlight.begin peer address
  { marked with
    dials := marked.dials ++
      [⟨marked.dialCount, peer, address, now + marked.profile.connectTimeout⟩]
    dialCount := marked.dialCount + 1 }

/-- Answers a request to dial. Activity is noted unless the peer is blocked. -/
def requestPeering (node : Node) (around : Surroundings) (peer : Option String)
    (address : SocketAddress) (now moment : Nat) : Node × Decision :=
  match node.refusal? around peer address with
  | some .blocked => (node, .rejected .blocked)
  | some reason => (node.touch moment, .rejected reason)
  | none => ((node.touch moment).beginDial peer address now, .dialing node.dialCount)

def dial? (node : Node) (number : Nat) : Option Dial :=
  node.dials.find? fun dial => dial.number == number

def withoutDial (node : Node) (number : Nat) : Node :=
  { node with dials := node.dials.filter fun dial => dial.number != number }

/-- Ends a dial that did not connect, and takes its marks away. -/
def dialFailed (node : Node) (dial : Dial) : Node :=
  (node.withoutDial dial.number).updateInFlight fun inFlight =>
    inFlight.release dial.peer dial.address

end PeerMesh.Node
