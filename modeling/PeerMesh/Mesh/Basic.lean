import PeerMesh.Context
import PeerMesh.Group
import PeerMesh.Node.Teardown

/-!
# The state of a process and its network

A mesh is one process as a whole: its contexts, groups and nodes, the calls of the application
that have not returned or whose answers are kept, and the network that joins the nodes to one
another and to the world outside. Contexts, groups, nodes, calls and streams are known by their
places in the lists that hold them; nothing is ever taken out of these lists.

What nobody holds any more is gone, although its record stays: a context or a group is alive while
the application or a living node holds it; a node is alive while the application holds it, while a
listener or a connection of it is served, while it has a dial under way, while its exit hook goes
about the teardown, or while a call on it has not returned.
-/

set_option autoImplicit false

namespace PeerMesh

/-- A context, with who holds it besides its nodes. -/
structure ContextEntry where
  context : Context
  held : Bool
  /-- Whether the context lasts as long as the process. -/
  permanent : Bool

/-- A group, with whether the application holds it. -/
structure GroupEntry where
  group : Group
  held : Bool

/-- A node, with the context and the group that it holds, and whether the application holds it. -/
structure NodeEntry where
  node : Node
  context : Nat
  group : Nat
  files : Files.Systems
  held : Bool

/-- A call of the application that takes time. Nodes are given by their numbers. -/
inductive Call where
  | awaitDial (node dial : Nat)
  /-- Waits for a dial of a node and tells whether it connected. -/
  | connectPeer (node dial : Nat)
  | close (node : Nat)
  | waitClosed (node : Nat)
  /-- Refreshes the stats of a node's group, every `period` milliseconds, until the node is
  closed. -/
  | refreshStats (node period next : Nat)
  deriving DecidableEq, Repr

/-- Whether a call holds on to a node until it returns. -/
def Call.holds (call : Call) (node : Nat) : Bool :=
  match call with
  | .close target => target == node
  | .waitClosed target => target == node
  | .refreshStats target _ _ => target == node
  | .awaitDial _ _ => false
  | .connectPeer _ _ => false

inductive Answer where
  /-- The dial connected, and the connection has this slot. -/
  | connected (slot : Slot)
  | failed (error : MeshError)
  | flag (value : Bool)
  | closed
  deriving DecidableEq, Repr

/-- A call with its answer, once it has returned. -/
structure Task where
  call : Call
  answer : Option Answer
  deriving DecidableEq, Repr

/-- A process and its network. -/
structure Mesh where
  /-- The time in milliseconds. -/
  now : Nat
  /-- The number of the present step of the application. -/
  moment : Nat
  contexts : List ContextEntry
  groups : List GroupEntry
  nodes : List NodeEntry
  tasks : List Task
  streams : List Stream
  host : List Interface
  /-- The port that is tried first when the system chooses one. -/
  nextPort : Nat
  /-- The addresses that cannot be bound, with the reason. -/
  unbindable : List (Ip × OsError)
  /-- The addresses on which the system does not tell the port that it chose, with the reason. -/
  untold : List (Ip × OsError)
  workingDirectory : String
  disk : Files.Disk

namespace Mesh

def initial (host : List Interface) (workingDirectory : String) (disk : Files.Disk) : Mesh :=
  { now := 0, moment := 0, contexts := [], groups := [], nodes := [], tasks := [], streams := [],
    host, nextPort := 40000, unbindable := [], untold := [], workingDirectory, disk }

def updateContext (mesh : Mesh) (context : Nat) (change : Context → Context) : Mesh :=
  { mesh with
    contexts := mesh.contexts.modify context fun entry =>
      { entry with context := change entry.context } }

def updateGroup (mesh : Mesh) (group : Nat) (change : Group → Group) : Mesh :=
  { mesh with
    groups := mesh.groups.modify group fun entry => { entry with group := change entry.group } }

def updateNode (mesh : Mesh) (node : Nat) (change : Node → Node) : Mesh :=
  { mesh with
    nodes := mesh.nodes.modify node fun entry => { entry with node := change entry.node } }

def updateStream (mesh : Mesh) (stream : Nat) (change : Stream → Stream) : Mesh :=
  { mesh with streams := mesh.streams.modify stream change }

def node? (mesh : Mesh) (node : Nat) : Option Node :=
  (mesh.nodes[node]?).map (·.node)

def blocklistOf (mesh : Mesh) (context : Nat) : Blocklist :=
  (mesh.contexts[context]?).elim .empty (·.context.blocklist)

/-- What the node of an entry sees of its context and its group. -/
def surroundings (mesh : Mesh) (entry : NodeEntry) : Surroundings :=
  ⟨mesh.blocklistOf entry.context, (mesh.groups[entry.group]?).elim [] (·.group.ids)⟩

/-- Lets one node take a step that has a result. There is no result if there is no such node. -/
def stepNode {α : Type} (mesh : Mesh) (node : Nat) (step : Node → Surroundings → Node × α) :
    Mesh × Option α :=
  match mesh.nodes[node]? with
  | none => (mesh, none)
  | some entry =>
    let (changed, result) := step entry.node (mesh.surroundings entry)
    (mesh.updateNode node fun _ => changed, some result)

/-- Whether tasks of its own keep a node alive. -/
def isServing (node : Node) : Bool :=
  node.hook.any (fun hook => !hook.awaiting) ||
    node.listeners.any (fun listener => !listener.stopped) || !node.dials.isEmpty ||
    !node.links.isEmpty

/-- Whether a call that has not returned holds on to a node. -/
def isCalled (mesh : Mesh) (node : Nat) : Bool :=
  mesh.tasks.any fun task => task.answer.isNone && task.call.holds node

def nodeAlive (mesh : Mesh) (node : Nat) : Bool :=
  (mesh.nodes[node]?).any fun entry =>
    entry.held || isServing entry.node || mesh.isCalled node

def livingNodes (mesh : Mesh) : List Nat :=
  (List.range mesh.nodes.length).filter mesh.nodeAlive

def contextAlive (mesh : Mesh) (context : Nat) : Bool :=
  (mesh.contexts[context]?).any (fun entry => entry.held || entry.permanent) ||
    mesh.livingNodes.any fun node =>
      (mesh.nodes[node]?).any fun entry => entry.context == context

def groupAlive (mesh : Mesh) (group : Nat) : Bool :=
  (mesh.groups[group]?).any (fun entry => entry.held) ||
    mesh.livingNodes.any fun node =>
      (mesh.nodes[node]?).any fun entry => entry.group == group

/-- The open nodes of a context, in the order in which they were started. -/
def openNodes (mesh : Mesh) (context : Nat) : List Nat :=
  ((mesh.contexts[context]?).elim [] (·.context.nodes)).filter fun node =>
    mesh.nodeAlive node && !((mesh.node? node).any (·.closed))

/-- The living members of a group, in the order in which they joined. -/
def livingMembers (mesh : Mesh) (group : Nat) : List Nat :=
  ((mesh.groups[group]?).elim [] fun entry => entry.group.members.map (·.node)).filter
    mesh.nodeAlive

def addContext (mesh : Mesh) (context : Context) (permanent : Bool) : Mesh × Nat :=
  ({ mesh with contexts := mesh.contexts ++ [⟨context, true, permanent⟩] }, mesh.contexts.length)

def addGroup (mesh : Mesh) (held : Bool) : Mesh × Nat :=
  ({ mesh with groups := mesh.groups ++ [⟨.empty, held⟩] }, mesh.groups.length)

def addTask (mesh : Mesh) (call : Call) (answer : Option Answer) : Mesh × Nat :=
  ({ mesh with tasks := mesh.tasks ++ [⟨call, answer⟩] }, mesh.tasks.length)

def letGoNode (mesh : Mesh) (node : Nat) : Mesh :=
  { mesh with nodes := mesh.nodes.modify node fun entry => { entry with held := false } }

def letGoContext (mesh : Mesh) (context : Nat) : Mesh :=
  { mesh with contexts := mesh.contexts.modify context fun entry => { entry with held := false } }

def letGoGroup (mesh : Mesh) (group : Nat) : Mesh :=
  { mesh with groups := mesh.groups.modify group fun entry => { entry with held := false } }

end Mesh

end PeerMesh
