import PeerMesh.Blocklist
import PeerMesh.Catalog
import PeerMesh.Error
import PeerMesh.Handle
import PeerMesh.Hello
import PeerMesh.Network.Stream
import PeerMesh.PeerTable
import PeerMesh.Shutdown
import PeerMesh.Text.Quoted

/-!
# Nodes

A node has a profile, fixed when it starts, and a state: the table it decides on, the hello
exchange if it takes part in one, its dials under way, the tasks that pump its connections, its
listeners, and how far its teardown has come. Every operation of this folder is one step that
nothing interrupts; what happens between two steps of one task may be any steps of other tasks. Three
operations begin a task or wait for the other end half-way: a node starts, a connection is taken in,
and bytes are written. They are made of parts, and finer courses of events, in which other steps come
between the parts, are followed where that makes a difference.

Time is counted twice. The clock, in milliseconds, decides when a dial or a pause is over. Moments
number the steps of the whole process, and activity is noted by the moment at which it happens.
-/

set_option autoImplicit false

namespace PeerMesh

/-- What a node is from its start on. -/
structure Profile where
  /-- The identifier by which other nodes know this one. -/
  id : String
  port : UInt16
  /-- The last configured interface that the host has, if listening goes by interface. -/
  interface : Option String
  localAddresses : List SocketAddress
  rootDir : Option String
  /-- The first component of the node's control paths. -/
  realm : String
  allowPeerLocal : Bool
  /-- How long a dial may take, in milliseconds. -/
  connectTimeout : Nat
  catalog : Catalog
  deriving Repr

structure Dial where
  number : Nat
  peer : Option String
  address : SocketAddress
  deadline : Nat
  deriving DecidableEq, Repr

/-- The task that pumps one connection: it writes what is queued on the handle and takes in what
arrives, until one side closes the connection. -/
structure Link where
  slot : Slot
  handle : Handle
  socket : Endpoint
  deriving DecidableEq, Repr

/-- What a listener finds when it accepts. -/
inductive Arrival where
  | connection (remote : SocketAddress) (socket : Endpoint)
  | failure (error : OsError)
  deriving DecidableEq, Repr

/-- A listening socket with the task that accepts on it. -/
structure Listener where
  address : SocketAddress
  /-- What has arrived and has not been accepted. -/
  queue : List Arrival
  /-- The time at which the task goes on after a failure, if it pauses. -/
  pausedUntil : Option Nat
  /-- Whether the task has ended and the socket is closed. -/
  stopped : Bool
  deriving DecidableEq, Repr

def Listener.fresh (address : SocketAddress) : Listener := ⟨address, [], none, false⟩

/-- The task that closes a node when the process is told to exit. -/
structure ExitHook where
  /-- Whether the signal to exit has not come. -/
  awaiting : Bool
  /-- Whether the application holds the signal; otherwise it comes from the terminal. -/
  scripted : Bool
  deriving DecidableEq, Repr

/-- Who asks for the teardown of a node. -/
inductive Closer where
  /-- A call of the application, by the number of its task. -/
  | application (task : Nat)
  | exitHook
  deriving DecidableEq, Repr

structure Node where
  profile : Profile
  table : PeerTable
  /-- The state of the hello exchange; none if the node leaves every connection unidentified. -/
  hello : Option Hello
  dials : List Dial
  dialCount : Nat
  links : List Link
  listeners : List Listener
  stopping : Bool
  hook : Option ExitHook
  closers : Shutdown.Coordinator Closer
  /-- Whether the teardown has ended. -/
  closed : Bool
  /-- The moment of the last accepted request or new connection. -/
  lastActivity : Nat
  deriving Repr

/-- What a node sees of its context and its group. -/
structure Surroundings where
  blocklist : Blocklist
  /-- The identifiers of all nodes that ever joined the group. -/
  members : List String

namespace Surroundings

def blocks (around : Surroundings) (peer : String) : Bool :=
  around.blocklist.contains peer

def isMember (around : Surroundings) (peer : String) : Bool :=
  around.members.contains peer

end Surroundings

namespace Node

def link? (node : Node) (slot : Slot) : Option Link :=
  node.links.find? fun link => link.slot == slot

def isOpen (node : Node) (slot : Slot) : Bool :=
  (node.link? slot).any fun link => link.handle.isOpen

def updateHandle (node : Node) (slot : Slot) (change : Handle → Handle) : Node :=
  { node with
    links := node.links.map fun link =>
      if link.slot = slot then { link with handle := change link.handle } else link }

def closeHandle (node : Node) (slot : Slot) : Node :=
  node.updateHandle slot fun handle => handle.close.1

def touch (node : Node) (moment : Nat) : Node :=
  { node with lastActivity := moment }

def updateInFlight (node : Node) (change : InFlight → InFlight) : Node :=
  { node with table := { node.table with inFlight := change node.table.inFlight } }

def withRegistry (node : Node) (registry : Registry) : Node :=
  { node with table := { node.table with registry } }

/-- Takes away the mark of an identifier, if there is one to take away. -/
def finishDialing? (node : Node) (peer : Option String) : Node :=
  node.updateInFlight fun inFlight => inFlight.finishDialing? peer

def connectionCount (node : Node) : Nat :=
  node.table.registry.size

def peeredCount (node : Node) : Nat :=
  node.table.registry.identifiedCount

def dialingCount (node : Node) : Nat :=
  node.table.inFlight.dialing.length

def isConnectedTo (node : Node) (peer : String) : Bool :=
  node.table.registry.containsName peer

def hasExitHook (node : Node) : Bool :=
  node.hook.isSome

/-- The summary line of a node: port, identifier, and how many connections it has in all and to
identified peers. -/
def summary (node : Node) : String :=
  "MS:\x7b" ++ toString node.profile.port.toNat ++ "," ++ node.profile.id ++
    ",all=" ++ toString node.connectionCount ++ ",sm=" ++ toString node.peeredCount ++ "\x7d"

def description (node : Node) : String :=
  "MeshNode \x7b id: " ++ Text.quoted node.profile.id ++
    ", port: " ++ toString node.profile.port.toNat ++
    ", local_addrs: " ++ Text.bracketed (node.profile.localAddresses.map SocketAddress.text) ++
    " \x7d"

end Node

end PeerMesh
