import PeerMesh.Mesh.Event

/-!
# Running until nothing is left to do

Of the events that can happen in a state one is chosen: a listener that can go on comes first,
then what is due by the clock, the earliest first, then teardowns, then connections, each writing
before it reads. Choosing and stepping is repeated until nothing can happen before the clock moves
on.
-/

set_option autoImplicit false

namespace PeerMesh.Mesh

def numberedNodes (mesh : Mesh) : List (Nat × Node) :=
  mesh.nodes.mapIdx fun number entry => (number, entry.node)

def listenerEvent? (node : Nat) (stopping : Bool) (position : Nat) (listener : Listener) :
    Option Event :=
  if listener.stopped || listener.pausedUntil.isSome then none
  else if stopping then some (.listenerStopped node position)
  else if listener.queue.isEmpty then none
  else some (.accepted node position)

def listenerEvents (node : Nat × Node) : List Event :=
  (node.2.listeners.mapIdx (listenerEvent? node.1 node.2.stopping)).filterMap id

/-- What the clock brings about at some time. -/
structure Timer where
  due : Nat
  event : Event
  deriving DecidableEq, Repr

/-- The timers of a node: its dials and the pauses of its listeners. -/
def nodeTimers (node : Nat × Node) : List Timer :=
  node.2.dials.map (fun dial => ⟨dial.deadline, .dialTimedOut node.1 dial.number⟩) ++
    (node.2.listeners.mapIdx fun position listener =>
      listener.pausedUntil.map fun due => ⟨due, .pauseEnded node.1 position⟩).filterMap id

def taskTimer? (number : Nat) (task : Task) : Option Timer :=
  match task with
  | ⟨.refreshStats _ _ next, none⟩ => some ⟨next, .refreshed number⟩
  | _ => none

def timers (mesh : Mesh) : List Timer :=
  mesh.numberedNodes.flatMap nodeTimers ++ (mesh.tasks.mapIdx taskTimer?).filterMap id

/-- The timer that is due first; of several, the one that comes first in the list. -/
def earliest : List Timer → Option Timer
  | [] => none
  | timer :: rest =>
    match earliest rest with
    | none => some timer
    | some other => if other.due < timer.due then some other else some timer

def dueEvent? (mesh : Mesh) : Option Event :=
  ((earliest mesh.timers).filter fun timer => timer.due ≤ mesh.now).map (·.event)

def teardownEvent? (node : Nat × Node) : Option Event :=
  if node.2.canFinishTeardown then some (.teardownFinished node.1)
  else if node.2.closers.running?.isNone && node.2.closers.hasWaiting then
    some (.permitGranted node.1)
  else none

def linkEvent? (mesh : Mesh) (node : Nat) (link : Link) : Option Event :=
  if link.handle.closed then some (.linkClosed node link.slot)
  else if link.handle.receive.2.isSome then some (.linkWrote node link.slot)
  else
    match mesh.flowTo link.socket with
    | none => none
    | some flow =>
      if !flow.pending.isEmpty then
        some (.linkRead node link.slot (min readLimit flow.pending.length))
      else if flow.ended then some (.linkFinished node link.slot)
      else none

def linkEvents (mesh : Mesh) (node : Nat × Node) : List Event :=
  node.2.links.filterMap (mesh.linkEvent? node.1)

/-- The event by which a call returns that waited for the end of a node. -/
def taskEvent? (mesh : Mesh) (number : Nat) (task : Task) : Option Event :=
  match task with
  | ⟨.waitClosed node, none⟩ =>
    if (mesh.node? node).any (·.closed) then some (.closedNoticed number) else none
  | _ => none

/-- The event that happens next, if there is one that need not wait for the clock. -/
def nextEvent? (mesh : Mesh) : Option Event :=
  let nodes := mesh.numberedNodes
  (nodes.findSome? fun node => (listenerEvents node).head?).or <|
  mesh.dueEvent?.or <|
  (nodes.findSome? teardownEvent?).or <|
  (nodes.findSome? fun node => (mesh.linkEvents node).head?).or <|
  (mesh.tasks.mapIdx mesh.taskEvent?).findSome? id

/-- Lets at most `steps` events happen, as long as there is one to happen. -/
def runFor (mesh : Mesh) : (steps : Nat) → Mesh
  | 0 => mesh
  | steps + 1 =>
    match mesh.nextEvent? with
    | none => mesh
    | some event => (mesh.step event).runFor steps

def total (counts : List Nat) : Nat :=
  counts.foldl (fun sum count => sum + count) 0

/-- The number of things that may still give rise to events: each connection or arrival to a few,
each byte under way to at most one. -/
def workload (mesh : Mesh) : Nat :=
  let things := mesh.nodes.map fun entry =>
    1 + entry.node.links.length + entry.node.dials.length + entry.node.closers.callers.length +
      total (entry.node.listeners.map fun listener => 1 + listener.queue.length)
  let bytes := mesh.streams.map fun stream =>
    stream.toCaller.pending.length + stream.toCallee.pending.length
  1000 + 200 * (total things + mesh.tasks.length + mesh.streams.length) + total bytes

/-- Lets everything happen that need not wait for the clock. -/
def settle (mesh : Mesh) : Mesh :=
  mesh.runFor mesh.workload

end PeerMesh.Mesh
