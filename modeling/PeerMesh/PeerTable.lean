import PeerMesh.Distinct
import PeerMesh.Registry

/-!
# What a node decides on

Besides the registry a node remembers which dials are under way: the identifiers that it is
dialing, and the addresses whose connection it opens and on which it will start the handshake.
Both marks are made together when a dial begins. The marks name identifiers and addresses, not
dials. Registry, marks and the closed flag together form the table on which the node decides.
-/

set_option autoImplicit false

namespace PeerMesh

structure InFlight where
  dialing : List String
  /-- Addresses on whose connection this node starts the handshake. -/
  pending : List SocketAddress
  deriving DecidableEq, Repr

namespace InFlight

def empty : InFlight := ⟨[], []⟩

def isDialing (inFlight : InFlight) (peer : String) : Bool :=
  decide (peer ∈ inFlight.dialing)

def hasPending (inFlight : InFlight) (address : SocketAddress) : Bool :=
  decide (address ∈ inFlight.pending)

def begin (inFlight : InFlight) (peer : Option String) (address : SocketAddress) : InFlight :=
  { dialing := peer.elim inFlight.dialing (Distinct.add inFlight.dialing)
    pending := Distinct.add inFlight.pending address }

/-- Takes away the mark of an address, and tells whether it was there. -/
def takePending (inFlight : InFlight) (address : SocketAddress) : InFlight × Bool :=
  ({ inFlight with pending := Distinct.remove inFlight.pending address },
    inFlight.hasPending address)

def finishDialing (inFlight : InFlight) (peer : String) : InFlight :=
  { inFlight with dialing := Distinct.remove inFlight.dialing peer }

/-- Takes away the mark of an identifier, if there is one to take away. -/
def finishDialing? (inFlight : InFlight) (peer : Option String) : InFlight :=
  peer.elim inFlight inFlight.finishDialing

/-- Undoes `begin` when a dial has failed. -/
def release (inFlight : InFlight) (peer : Option String) (address : SocketAddress) : InFlight :=
  ((inFlight.finishDialing? peer).takePending address).1

end InFlight

/-- Everything that a node's decisions on peers rest on. -/
structure PeerTable where
  registry : Registry
  inFlight : InFlight
  /-- Whether the teardown has begun to empty the table; nothing is admitted from then on. -/
  closed : Bool
  deriving DecidableEq, Repr

def PeerTable.empty : PeerTable := ⟨.empty, .empty, false⟩

end PeerMesh
