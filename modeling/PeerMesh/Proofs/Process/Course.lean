import PeerMesh.Mesh.Calls
import PeerMesh.Mesh.Start

/-!
# The course of a process

All that can happen to a process, as moves that come in any order: calls of the application, the
world outside, the clock, and the events by which its own tasks go on. A call is one move, with all
that it does before it returns; only who holds a node can call it. A move that cannot happen leaves
the process as it is.
-/

set_option autoImplicit false

namespace PeerMesh.Mesh

/-- A call of the application on a node that it holds. -/
inductive NodeCall where
  | requests (peer : Option String) (address : SocketAddress)
  | connects (address : SocketAddress)
  | awaitsDial (dial : Nat)
  | identifies (slot : Slot) (name : String)
  | sends (slot : Slot) (bytes : Bytes)
  /-- The close signal is given on the handle of a connection. -/
  | closesHandle (slot : Slot)
  | drops (peer : String)
  | reads (path : String) (options : Files.PathOptions)
  | refreshesEvery (period : Nat)
  | firesExit
  | closes
  | waitsClosed

inductive Move where
  | addsContext (base : String) (catalog : Option Catalog) (permanent : Bool)
  | addsGroup
  | installsCatalog (context : Nat) (catalog : Catalog)
  /-- A context is reset, and perhaps given a catalog at once. -/
  | resets (context : Nat) (catalog : Option Catalog)
  | starts (request : StartRequest)
  | letsGoNode (node : Nat)
  | letsGoContext (context : Nat)
  | letsGoGroup (group : Nat)
  | lists (context : Nat) (peer : String)
  | blocks (context : Nat) (peer : String)
  | drops (context : Nat) (peer : String)
  | bans (context : Nat) (host : Option String)
  | reads (context : Nat) (path : String) (options : Files.PathOptions)
  | refreshesStats (group : Nat)
  | updatesStats (group : Nat) (lines : List String) (counters : StatsMap)
  | calls (node : Nat) (call : NodeCall)
  /-- A dial of a node reaches a peer, on a stream of its own. -/
  | connectsDial (node dial : Nat)
  | refusesDial (node dial : Nat) (error : OsError)
  | opensStream
  /-- What is under way on a stream changes. -/
  | carries (endpoint : Endpoint) (change : Flow → Flow)
  | arrives (node listener : Nat) (arrival : Arrival)
  /-- From now on an address cannot be bound. -/
  | forbids (address : Ip) (error : OsError)
  | passes (milliseconds moments : Nat)
  | proceeds (event : Event)

def performCall (mesh : Mesh) (node : Nat) : NodeCall → Mesh
  | .requests peer address => (mesh.requestPeering node peer address).1
  | .connects address => (mesh.connectPeer node address).1
  | .awaitsDial dial => (mesh.addTask (.awaitDial node dial) none).1
  | .identifies slot name => (mesh.identify node slot name).1
  | .sends slot bytes => (mesh.send node slot bytes).1
  | .closesHandle slot => mesh.updateNode node fun node => node.closeHandle slot
  | .drops peer => (mesh.dropPeer node peer).1
  | .reads path options =>
    (mesh.nodes[node]?).elim mesh fun entry => (mesh.readThrough entry path options).1
  | .refreshesEvery period => (mesh.addTask (.refreshStats node period mesh.now) none).1
  | .firesExit => (mesh.fireExit node).1
  | .closes => (mesh.close node).1
  | .waitsClosed => (mesh.addTask (.waitClosed node) none).1

/-- The process after a move. -/
def perform (mesh : Mesh) : Move → Mesh
  | .addsContext base catalog permanent =>
    (mesh.addContext (.initial base catalog) permanent).1
  | .addsGroup => (mesh.addGroup true).1
  | .installsCatalog context catalog =>
    mesh.updateContext context fun context => { context with catalog := some catalog }
  | .resets context catalog =>
    mesh.updateContext context fun context => { context.reset with catalog }
  | .starts request => (mesh.start request).1
  | .letsGoNode node => mesh.letGoNode node
  | .letsGoContext context => mesh.letGoContext context
  | .letsGoGroup group => mesh.letGoGroup group
  | .lists context peer => mesh.addToBlocklist context peer
  | .blocks context peer => (mesh.blockPeer context peer).1
  | .drops context peer => (mesh.dropPeerEverywhere context peer).1
  | .bans context host => (mesh.ban context host).1
  | .reads context path options => (mesh.readMessage context path options).1
  | .refreshesStats group => mesh.refreshStats group
  | .updatesStats group lines counters =>
    mesh.updateGroup group fun members => members.updateStats lines counters
  | .calls node call => if mesh.nodeAlive node then mesh.performCall node call else mesh
  | .connectsDial node dial => (mesh.connectDial node dial).1
  | .refusesDial node dial error => (mesh.refuseDial node dial error).1
  | .opensStream => mesh.openStream.1
  | .carries endpoint change => mesh.changeFlowTo endpoint change
  | .arrives node listener arrival =>
    if mesh.listens node listener then mesh.arrive node listener arrival else mesh
  | .forbids address error => { mesh with unbindable := (address, error) :: mesh.unbindable }
  | .passes milliseconds moments =>
    { mesh.advance milliseconds with moment := mesh.moment + moments }
  | .proceeds event => mesh.step event

def course (mesh : Mesh) (moves : List Move) : Mesh :=
  moves.foldl perform mesh

@[simp] theorem course_cons (mesh : Mesh) (move : Move) (moves : List Move) :
    mesh.course (move :: moves) = (mesh.perform move).course moves := rfl

end PeerMesh.Mesh
