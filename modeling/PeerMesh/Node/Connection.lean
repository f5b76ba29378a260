import PeerMesh.Node.Peering

/-!
# The life of a connection

A connected socket is registered under a placeholder, whichever side opened it, and a task begins
to pump it. If its remote address was marked, the node then opens the handshake. Received bytes go
through the hello exchange, which may identify the connection. When the pumping task ends it gives
the close signal and removes the entry, if that is still there; an unidentified entry takes the
mark of the identifier it was dialed under with it.

Identification makes the name given by the remote side the name of the connection. A blocked name
and a name of the group close the connection. If another connection holds the name, one of the two
is closed: of two connections of opposite direction the one that was dialed by the node with the
smaller identifier stays, so that both ends keep the same one; of two of the same direction the
holder stays.
-/

set_option autoImplicit false

namespace PeerMesh.Node

def send (node : Node) (slot : Slot) (bytes : Bytes) : Node × Except MeshError Unit :=
  match node.table.registry.get? slot with
  | none => (node, .error (.unknownConnection slot))
  | some _ =>
    match node.link? slot with
    | none => (node, .error (.connectionClosed slot))
    | some link =>
      if (link.handle.send bytes).2 then
        (node.updateHandle slot fun handle => (handle.send bytes).1, .ok ())
      else (node, .error (.connectionClosed slot))

/-- Opens the handshake on a connection. Whether the line could be queued does not matter. -/
def startHandshake (node : Node) (slot : Slot) : Node :=
  match node.hello with
  | none => node
  | some hello =>
    (({ node with hello := some (hello.initiate slot) } : Node).send slot
      (Hello.line node.profile.id)).1

/-- A socket that has just been connected. -/
structure Arrived where
  placeholder : String
  remote : SocketAddress
  direction : Direction
  dialedAs : Option String
  socket : Endpoint
  deriving DecidableEq, Repr

/-- What becomes of a node that refuses a connected socket: the marks of a dial are taken away. -/
def turnAway (node : Node) (arrived : Arrived) : Node :=
  match arrived.direction with
  | .outbound => node.updateInFlight fun inFlight =>
      inFlight.release arrived.dialedAs arrived.remote
  | .inbound => node

/-- Registers a connected socket and starts the task that pumps it. A node whose teardown has begun
to empty the table refuses. Tells the slot, and whether the remote address was marked. -/
def registerSocket (node : Node) (arrived : Arrived) (moment : Nat) :
    Node × Except MeshError (Slot × Bool) :=
  if node.table.closed then (node.turnAway arrived, .error .shutDown)
  else
    let (registry, slot) := node.table.registry.insert
      ⟨arrived.placeholder, arrived.remote, arrived.direction, arrived.dialedAs⟩ moment
    let (inFlight, initiator) := node.table.inFlight.takePending arrived.remote
    ({ node with
        table := { node.table with registry, inFlight }
        links := node.links ++ [⟨slot, .fresh, arrived.socket⟩]
        lastActivity := moment },
      .ok (slot, initiator))

/-- Takes in a connected socket: registers it, which starts the task that pumps it, and then opens the
handshake if its address was marked. Here nothing comes in between. -/
def connected (node : Node) (arrived : Arrived) (moment : Nat) : Node × Except MeshError Slot :=
  match node.registerSocket arrived moment with
  | (refusing, .error error) => (refusing, .error error)
  | (registered, .ok (slot, initiator)) =>
    (if initiator then registered.startHandshake slot else registered, .ok slot)

/-- Removes the entry under a slot and gives the close signal on its connection. -/
def evict (node : Node) (slot : Slot) : Node × Option Connection :=
  match node.table.registry.remove slot with
  | (_, none) => (node, none)
  | (registry, some entry) => ((node.withRegistry registry).closeHandle slot, some entry)

/-- Removes and closes a connection, and takes away the mark of the identifier that it was dialed
under, unless the connection was identified. -/
def discard (node : Node) (slot : Slot) : Node :=
  match node.evict slot with
  | (rest, none) => rest
  | (rest, some entry) => if entry.identified then rest else rest.finishDialing? entry.dialedAs

/-- Why a connection may not take a name, if it may not. -/
def nameRefusal? (around : Surroundings) (name : String) : Option RejectReason :=
  if around.blocks name then some .blocked
  else if around.isMember name then some .selfPeer
  else none

/-- The direction of the connection that stays when two of opposite direction have one name. -/
def preferredDirection (node : Node) (name : String) : Direction :=
  if node.profile.id < name then .outbound else .inbound

/-- Whether a connection of the given direction takes a name from its holder. -/
def takesName (node : Node) (holder : Slot) (direction : Direction) (name : String) : Bool :=
  match node.table.registry.get? holder with
  | none => false
  | some held =>
    held.direction != direction && direction == node.preferredDirection name

/-- What follows when a connection has got its name: neither the name nor the identifier that the
connection was dialed under is being dialed any more. -/
def concludeIdentification (node : Node) (slot : Slot) (name : String) : Node :=
  (node.finishDialing? ((node.table.registry.get? slot).bind (·.dialedAs))).finishDialing?
    (some name)

def identify (node : Node) (around : Surroundings) (slot : Slot) (name : String) :
    Node × Except MeshError Unit :=
  match node.table.registry.get? slot with
  | none => (node, .error (.unknownConnection slot))
  | some entry =>
    match nameRefusal? around name with
    | some reason =>
      let (rest, removed) := node.evict slot
      (rest.finishDialing? (removed.bind (·.dialedAs)), .error (.nameRejected name reason))
    | none =>
      match node.table.registry.rename slot name with
      | .ok registry => ((node.withRegistry registry).concludeIdentification slot name, .ok ())
      | .error holder =>
        if node.takesName holder entry.direction name then
          let rest := node.discard holder
          match rest.table.registry.rename slot name with
          | .ok registry => ((rest.withRegistry registry).concludeIdentification slot name, .ok ())
          | .error _ => (rest, .error (.nameCollision name))
        else (node.discard slot, .error (.nameCollision name))

/-- Answers a hello that has identified a connection, unless this node spoke first. -/
def answerHello (node : Node) (slot : Slot) (initiated : Bool) : Node :=
  if initiated then node else (node.send slot (Hello.line node.profile.id)).1

def received (node : Node) (around : Surroundings) (slot : Slot) (bytes : Bytes) (moment : Nat) :
    Node :=
  let touched := node.withRegistry (node.table.registry.touch slot moment)
  match touched.hello with
  | none => touched
  | some hello =>
    let (hello, reception) := hello.receive slot bytes
    let updated : Node := { touched with hello := some hello }
    match reception with
    | .greeted name initiated =>
      match updated.identify around slot name with
      | (identified, .ok ()) => identified.answerHello slot initiated
      | (refused, .error _) => refused
    | _ => updated

/-- Removes the entry of a connection whose pumping task ends. -/
def reportClosed (node : Node) (slot : Slot) : Node :=
  let (registry, removed) := node.table.registry.remove slot
  let rest := node.withRegistry registry
  match removed with
  | none => rest
  | some entry => if entry.identified then rest else rest.finishDialing? entry.dialedAs

def linkEnded (node : Node) (slot : Slot) : Node :=
  let closed := (node.closeHandle slot).reportClosed slot
  { closed with
    hello := closed.hello.map fun hello => hello.forget slot
    links := closed.links.filter fun link => link.slot != slot }

/-- Closes the open connection that goes under the name `peer`, and tells whether there was one. -/
def dropPeer (node : Node) (peer : String) : Node × Bool :=
  match node.table.registry.removeOpenNamed node.isOpen peer with
  | (_, none) => (node, false)
  | (registry, some entry) => ((node.withRegistry registry).closeHandle entry.slot, true)

end PeerMesh.Node
