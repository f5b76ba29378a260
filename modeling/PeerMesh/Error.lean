import PeerMesh.Address.Printer
import PeerMesh.Network.OsError
import PeerMesh.Registry
import PeerMesh.Text.Duration

/-!
# What can go wrong

Declining to dial is an ordinary answer and has a reason; the failures of starting, dialing,
sending, identifying and of the stats codec are errors. Each prints as one line of text.
-/

set_option autoImplicit false

namespace PeerMesh

/-- Why a node declines to dial, or to accept a name. -/
inductive RejectReason where
  | blocked
  | selfPeer
  | selfAddress
  /-- The address lies on the local segment, and peering there is turned off. -/
  | localSegment
  | alreadyConnected
  | alreadyDialing
  | shutDown
  deriving DecidableEq, Repr

def RejectReason.text : RejectReason → String
  | .blocked => "blocked"
  | .selfPeer => "same process"
  | .selfAddress => "own address"
  | .localSegment => "local segment"
  | .alreadyConnected => "already connected"
  | .alreadyDialing => "already dialing"
  | .shutDown => "shut down"

inductive MeshError where
  | interfaceEnumeration (detail : String)
  | bind (address : SocketAddress) (source : OsError)
  | noListeners (port : UInt16)
  | dial (address : SocketAddress) (source : OsError)
  | dialTimeout (address : SocketAddress) (milliseconds : Nat)
  | dialAborted
  | unknownConnection (slot : Slot)
  | nameCollision (name : String)
  | nameRejected (name : String) (reason : RejectReason)
  | connectionClosed (slot : Slot)
  | shutDown
  | statsEncode (detail : String)
  | statsDecode (detail : String)
  deriving DecidableEq, Repr

namespace MeshError

def message : MeshError → String
  | .interfaceEnumeration detail => "Failed to enumerate network interfaces: " ++ detail
  | .bind address source => "Failed to bind " ++ address.text ++ ": " ++ source.text
  | .noListeners port =>
    "No listening address could be bound on port " ++ toString port.toNat
  | .dial address source => "Dial to " ++ address.text ++ " failed: " ++ source.text
  | .dialTimeout address milliseconds =>
    "Dial to " ++ address.text ++ " timed out after " ++ Text.durationText milliseconds
  | .dialAborted => "Dial task ended without reporting a result"
  | .unknownConnection slot => "Unknown connection " ++ slot.text
  | .nameCollision name => "Peer name " ++ name ++ " is already bound to another connection"
  | .nameRejected name reason => "Peer name " ++ name ++ " rejected: " ++ reason.text
  | .connectionClosed slot => "Connection " ++ slot.text ++ " is closed"
  | .shutDown => "Node is shut down"
  | .statsEncode detail => "Stats map cannot be encoded: " ++ detail
  | .statsDecode detail => "Malformed stats map: " ++ detail

/-- The error of the operating system behind an error, if there is one. -/
def source? : MeshError → Option OsError
  | .bind _ source => some source
  | .dial _ source => some source
  | _ => none

end MeshError

end PeerMesh
