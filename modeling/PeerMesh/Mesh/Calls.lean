import PeerMesh.Mesh.Run

/-!
# Calls on nodes

What the application may ask of a node, and what may come to it from outside. A call takes effect at
once as far as it can; what it sets going is left to events.
-/

set_option autoImplicit false

namespace PeerMesh.Mesh

def requestPeering (mesh : Mesh) (node : Nat) (peer : Option String) (address : SocketAddress) :
    Mesh × Option Node.Decision :=
  mesh.stepNode node fun node around =>
    node.requestPeering around peer address mesh.now mesh.moment

def identify (mesh : Mesh) (node : Nat) (slot : Slot) (name : String) :
    Mesh × Option (Except MeshError Unit) :=
  mesh.stepNode node fun node around => node.identify around slot name

def send (mesh : Mesh) (node : Nat) (slot : Slot) (bytes : Bytes) :
    Mesh × Option (Except MeshError Unit) :=
  mesh.stepNode node fun node _ => node.send slot bytes

/-- Asks a node to dial an address of an unknown peer, and waits for the connection. The result is
the number of the call, and of the dial if there is one. -/
def connectPeer (mesh : Mesh) (node : Nat) (address : SocketAddress) :
    Mesh × Option (Nat × Option Nat) :=
  match mesh.requestPeering node none address with
  | (_, none) => (mesh, none)
  | (asked, some (.dialing dial)) =>
    let (waiting, task) := asked.addTask (.connectPeer node dial) none
    (waiting, some (task, some dial))
  | (asked, some (.rejected _)) =>
    let (answered, task) := asked.addTask (.connectPeer node 0) (some (.flag false))
    (answered, some (task, none))

/-- Asks a node for its teardown, and waits for the answer. -/
def close (mesh : Mesh) (node : Nat) : Mesh × Nat :=
  let (asked, task) := mesh.addTask (.close node) none
  (asked.updateNode node fun node => node.askClose (.application task), task)

def fireExit (mesh : Mesh) (node : Nat) : Mesh × Option Bool :=
  mesh.stepNode node fun node _ => node.fireExit

/-- Connects a dial to a new stream. The result is the stream; there is none if the dial is not
under way. -/
def connectDial (mesh : Mesh) (node dial : Nat) : Mesh × Option Nat :=
  match mesh.dial? node dial with
  | none => (mesh, none)
  | some found =>
    let (opened, stream) := mesh.openStream
    (opened.finishDial node found ⟨stream, .caller⟩, some stream)

/-- Lets a dial fail for a reason that the system gives. Tells whether the dial was under way. -/
def refuseDial (mesh : Mesh) (node dial : Nat) (error : OsError) : Mesh × Bool :=
  match mesh.dial? node dial with
  | none => (mesh, false)
  | some found => (mesh.failDial node found (.dial found.address error), true)

def listens (mesh : Mesh) (node position : Nat) : Bool :=
  (mesh.listener? node position).any fun listener => !listener.stopped

def arrive (mesh : Mesh) (node position : Nat) (arrival : Arrival) : Mesh :=
  mesh.updateNode node fun node =>
    node.updateListener position fun listener =>
      { listener with queue := listener.queue ++ [arrival] }

def advance (mesh : Mesh) (milliseconds : Nat) : Mesh :=
  { mesh with now := mesh.now + milliseconds }

end PeerMesh.Mesh
