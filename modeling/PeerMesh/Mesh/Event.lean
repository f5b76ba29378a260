import PeerMesh.Mesh.Administration

/-!
# What happens by itself

Between the calls of the application the tasks of a process go on: dials time out, listeners
accept or stop, connections are pumped, teardowns proceed, stats are refreshed, calls return. Each
such step is an event, and events may come in any order. An event that cannot happen in a state
leaves it as it is.
-/

set_option autoImplicit false

namespace PeerMesh.Mesh

/-- The greatest number of bytes that a connection takes in at once. -/
def readLimit : Nat := 16384

/-- How long a listener pauses after a failed accept, in milliseconds. -/
def acceptPause : Nat := 100

/-! ## Streams -/

def openStream (mesh : Mesh) : Mesh × Nat :=
  ({ mesh with streams := mesh.streams ++ [.fresh] }, mesh.streams.length)

def flowTo (mesh : Mesh) (endpoint : Endpoint) : Option Flow :=
  (mesh.streams[endpoint.stream]?).map fun stream => stream.flowTo endpoint.side

def changeFlowTo (mesh : Mesh) (endpoint : Endpoint) (change : Flow → Flow) : Mesh :=
  mesh.updateStream endpoint.stream fun stream => stream.changeFlowTo endpoint.side change

/-- Gives up one end of a stream: it finishes writing and reads no more. -/
def dropEndpoint (mesh : Mesh) (endpoint : Endpoint) : Mesh :=
  (mesh.changeFlowTo endpoint.peer .finish).changeFlowTo endpoint .abandon

def writeFrom (mesh : Mesh) (endpoint : Endpoint) (bytes : Bytes) : Mesh :=
  mesh.changeFlowTo endpoint.peer fun flow => flow.write bytes

/-! ## Connections -/

/-- Registers a connected socket with a node, under the next placeholder of its context. A socket
that the node refuses is given up. -/
def connectNode (mesh : Mesh) (node : Nat) (remote : SocketAddress) (direction : Direction)
    (dialedAs : Option String) (socket : Endpoint) : Mesh × Option (Except MeshError Slot) :=
  match (mesh.nodes[node]?).bind fun entry =>
      (mesh.contexts[entry.context]?).map fun found => (entry.context, found.context) with
  | none => (mesh, none)
  | some (number, context) =>
    let (context, placeholder) := context.nextPlaceholder
    let named := mesh.updateContext number fun _ => context
    match named.stepNode node fun node _ =>
        node.connected ⟨placeholder, remote, direction, dialedAs, socket⟩ mesh.moment with
    | (connected, some (.ok slot)) => (connected, some (.ok slot))
    | (refused, some (.error error)) => (refused.dropEndpoint socket, some (.error error))
    | (unchanged, none) => (unchanged, none)

def endLink (mesh : Mesh) (node : Nat) (link : Link) : Mesh :=
  (mesh.dropEndpoint link.socket).updateNode node fun node => node.linkEnded link.slot

/-- Whether nobody reads at the other end of a connection any more. -/
def readerGone (mesh : Mesh) (link : Link) : Bool :=
  (mesh.flowTo link.socket.peer).any (·.abandoned)

/-- A connection takes out the byte string that was queued first; `handle` is what it leaves. -/
def takeQueued (mesh : Mesh) (node : Nat) (link : Link) (handle : Handle) : Mesh :=
  mesh.updateNode node fun node => node.updateHandle link.slot fun _ => handle

/-- A connection writes the byte string that was queued first, as a reader that takes all of it at
once lets it. If there is something to write and the other end is gone, the connection ends. -/
def writeLink (mesh : Mesh) (node : Nat) (link : Link) : Mesh :=
  match link.handle.receive with
  | (_, none) => mesh
  | (handle, some bytes) =>
    if !bytes.isEmpty && mesh.readerGone link then mesh.endLink node link
    else (mesh.takeQueued node link handle).writeFrom link.socket bytes

def readLink (mesh : Mesh) (node : Nat) (link : Link) (count : Nat) : Mesh :=
  match mesh.flowTo link.socket with
  | none => mesh
  | some flow =>
    if count = 0 || readLimit < count || flow.pending.length < count then mesh
    else
      ((mesh.changeFlowTo link.socket fun flow => flow.advance count).stepNode node
        fun node around =>
          (node.received around link.slot (flow.pending.take count) mesh.moment, ())).1

/-- A connection finds that the other end has finished, and ends. -/
def finishLink (mesh : Mesh) (node : Nat) (link : Link) : Mesh :=
  match mesh.flowTo link.socket with
  | some flow => if flow.pending.isEmpty && flow.ended then mesh.endLink node link else mesh
  | none => mesh

/-! ## Dials -/

def dialAnswer (call : Call) (outcome : Except MeshError Slot) : Answer :=
  match call, outcome with
  | .connectPeer _ _, .ok _ => .flag true
  | .connectPeer _ _, .error _ => .flag false
  | _, .ok slot => .connected slot
  | _, .error error => .failed error

def awaitsDial (call : Call) (node dial : Nat) : Bool :=
  call == .awaitDial node dial || call == .connectPeer node dial

def reportDial (mesh : Mesh) (node dial : Nat) (outcome : Except MeshError Slot) : Mesh :=
  { mesh with
    tasks := mesh.tasks.map fun task =>
      if task.answer.isNone && awaitsDial task.call node dial then
        { task with answer := some (dialAnswer task.call outcome) }
      else task }

/-- The dial of a node under a number, while it is under way. -/
def dial? (mesh : Mesh) (node dial : Nat) : Option Dial :=
  (mesh.node? node).bind fun node => node.dial? dial

def failDial (mesh : Mesh) (node : Nat) (dial : Dial) (error : MeshError) : Mesh :=
  (mesh.updateNode node fun node => node.dialFailed dial).reportDial node dial.number (.error error)

/-- A dial connects, and the node takes its end of the stream. -/
def finishDial (mesh : Mesh) (node : Nat) (dial : Dial) (socket : Endpoint) : Mesh :=
  let ended := mesh.updateNode node fun node => node.withoutDial dial.number
  match ended.connectNode node dial.address .outbound dial.peer socket with
  | (connected, some outcome) => connected.reportDial node dial.number outcome
  | (unchanged, none) => unchanged

/-! ## Listeners -/

def listener? (mesh : Mesh) (node position : Nat) : Option Listener :=
  (mesh.node? node).bind fun node => node.listeners[position]?

def dropArrivals (mesh : Mesh) (arrivals : List Arrival) : Mesh :=
  arrivals.foldl (fun mesh arrival =>
    match arrival with
    | .connection _ socket => mesh.dropEndpoint socket
    | .failure _ => mesh) mesh

/-- A listener takes what arrived first: it hands a connection to the node, or pauses after a
failure. A listener that has been told to stop may still do so once. -/
def acceptNext (mesh : Mesh) (node position : Nat) : Mesh :=
  match (mesh.listener? node position).bind fun listener =>
      if listener.stopped || listener.pausedUntil.isSome then none else listener.queue.head? with
  | none => mesh
  | some arrival =>
    let taken := mesh.updateNode node fun node =>
      node.updateListener position fun listener => { listener with queue := listener.queue.tail }
    match arrival with
    | .connection remote socket => (taken.connectNode node remote .inbound none socket).1
    | .failure _ =>
      taken.updateNode node fun node =>
        node.updateListener position fun listener =>
          { listener with pausedUntil := some (mesh.now + acceptPause) }

/-- A listener that was told to stop does so, and whatever has arrived is given up. -/
def stopListener (mesh : Mesh) (node position : Nat) : Mesh :=
  match mesh.node? node, mesh.listener? node position with
  | some owner, some listener =>
    if owner.stopping && !listener.stopped && listener.pausedUntil.isNone then
      (mesh.dropArrivals listener.queue).updateNode node fun node =>
        node.updateListener position fun listener => { listener with queue := [], stopped := true }
    else mesh
  | _, _ => mesh

/-! ## Teardowns -/

/-- The answers of the calls to close a node, as far as its coordinator has them. -/
def reportClosers (mesh : Mesh) (node : Nat) : Mesh :=
  match mesh.node? node with
  | none => mesh
  | some owner =>
    { mesh with
      tasks := mesh.tasks.mapIdx fun number task =>
        if task.answer.isNone && task.call == .close node then
          { task with
            answer := owner.closers.callers.findSome? fun caller =>
              match caller.name, caller.status with
              | .application asker, .returned performed =>
                if asker = number then some (.flag performed) else none
              | _, _ => none }
        else task }

/-- The permit for the teardown of a node passes on. -/
def grantPermit (mesh : Mesh) (node : Nat) : Mesh :=
  (mesh.updateNode node fun node => node.grantPermit).reportClosers node

/-- A node leaves its context, and the path of its group's stats lines goes. -/
def deregister (mesh : Mesh) (node : Nat) (entry : NodeEntry) : Mesh :=
  let living := mesh.nodeAlive
  mesh.updateContext entry.context fun context =>
    { context with
      nodes := context.nodes.filter fun other => living other && other != node
      messages := context.messages.remove
        (Control.statsPath entry.node.profile.realm entry.node.profile.id) }

/-- The teardown of a node ends, once all its listeners have stopped. -/
def finishTeardown (mesh : Mesh) (node : Nat) : Mesh :=
  match mesh.nodes[node]? with
  | none => mesh
  | some entry =>
    if entry.node.canFinishTeardown then
      ((mesh.updateNode node fun node => node.finishTeardown).deregister node entry).reportClosers
        node
    else mesh

/-! ## Calls -/

def answerTask (mesh : Mesh) (task : Nat) (answer : Answer) : Mesh :=
  { mesh with tasks := mesh.tasks.modify task fun entry => { entry with answer := some answer } }

/-- The next time after `now` at which a refresh is due that was due at `next`. -/
def nextRefresh (now next period : Nat) : Nat :=
  if now < next then next else next + ((now - next) / period + 1) * period

/-- A refresh of stats that is due takes place, together with all that were missed since; refreshing
again at once would change nothing. Once the node is closed, the call returns instead. -/
def refreshDue (mesh : Mesh) (task : Nat) : Mesh :=
  match mesh.tasks[task]? with
  | some ⟨.refreshStats node period next, none⟩ =>
    match mesh.nodes[node]? with
    | none => mesh
    | some entry =>
      if mesh.now < next then mesh
      else if entry.node.closed then mesh.answerTask task (.flag true)
      else
        let refreshed := mesh.refreshStats entry.group
        { refreshed with
          tasks := refreshed.tasks.modify task fun entry =>
            { entry with
              call := .refreshStats node period (nextRefresh mesh.now next period) } }
  | _ => mesh

/-- A call that waits for the end of a node returns once the node is closed. -/
def closedNoticed (mesh : Mesh) (task : Nat) : Mesh :=
  match mesh.tasks[task]? with
  | some ⟨.waitClosed node, none⟩ =>
    if (mesh.node? node).any (·.closed) then mesh.answerTask task .closed else mesh
  | _ => mesh

/-! ## Events -/

/-- A step that some task of the process takes by itself. Nodes and calls are given by number,
listeners by position. -/
inductive Event where
  | dialTimedOut (node dial : Nat)
  | pauseEnded (node listener : Nat)
  | refreshed (task : Nat)
  /-- A connection finds its handle closed, and ends. -/
  | linkClosed (node : Nat) (slot : Slot)
  | linkWrote (node : Nat) (slot : Slot)
  | linkRead (node : Nat) (slot : Slot) (count : Nat)
  | linkFinished (node : Nat) (slot : Slot)
  | accepted (node listener : Nat)
  | listenerStopped (node listener : Nat)
  | permitGranted (node : Nat)
  | teardownFinished (node : Nat)
  | closedNoticed (task : Nat)
  /-- The exit hook of a node hears that the process is interrupted. -/
  | interrupted (node : Nat)
  deriving DecidableEq, Repr

def link? (mesh : Mesh) (node : Nat) (slot : Slot) : Option Link :=
  (mesh.node? node).bind fun node => node.link? slot

def step (mesh : Mesh) : Event → Mesh
  | .dialTimedOut node dial =>
    match mesh.dial? node dial, mesh.node? node with
    | some found, some owner =>
      if found.deadline ≤ mesh.now then
        mesh.failDial node found (.dialTimeout found.address owner.profile.connectTimeout)
      else mesh
    | _, _ => mesh
  | .pauseEnded node listener =>
    if ((mesh.listener? node listener).bind (·.pausedUntil)).any (· ≤ mesh.now) then
      (mesh.updateNode node fun node =>
        node.updateListener listener fun entry => { entry with pausedUntil := none }).stopListener
        node listener
    else mesh
  | .refreshed task => mesh.refreshDue task
  | .linkClosed node slot =>
    match mesh.link? node slot with
    | some link => if link.handle.closed then mesh.endLink node link else mesh
    | none => mesh
  | .linkWrote node slot => (mesh.link? node slot).elim mesh (mesh.writeLink node)
  | .linkRead node slot count =>
    (mesh.link? node slot).elim mesh fun link => mesh.readLink node link count
  | .linkFinished node slot => (mesh.link? node slot).elim mesh (mesh.finishLink node)
  | .accepted node listener => (mesh.acceptNext node listener).stopListener node listener
  | .listenerStopped node listener => mesh.stopListener node listener
  | .permitGranted node => mesh.grantPermit node
  | .teardownFinished node => mesh.finishTeardown node
  | .closedNoticed task => mesh.closedNoticed task
  | .interrupted node =>
    if mesh.nodeAlive node then mesh.updateNode node fun node => node.interrupt else mesh

end PeerMesh.Mesh
