import PeerMesh.Scenario.Script

/-!
# Playing a script

A world is a process and its network with the names that a script has given. Playing a step makes
the call, lets everything happen that need not wait for the clock, and looks at what has changed.
A step that uses a name that was never given cannot be played.
-/

set_option autoImplicit false

namespace PeerMesh.Scenario

/-- A channel: the script's end of a stream, and whether it is open. -/
structure Channel where
  endpoint : Endpoint
  isOpen : Bool
  deriving DecidableEq, Repr

/-- A process with the names of a script. -/
structure World where
  mesh : Mesh
  contexts : List (String × Nat)
  groups : List (String × Nat)
  nodes : List (String × Nat)
  /-- The dials that a step may end, each by its node and its number there. -/
  dials : List (String × Nat × Nat)
  /-- The calls that have not been seen to return. -/
  tasks : List (String × Nat)
  channels : List (String × Channel)
  /-- The state of each node when it was last shown. -/
  shown : List (String × NodeView)

/-- The directory in which a script's files lie. -/
def rootDirectory : String := "/root-files"

/-- The directory from which relative paths lead. -/
def workingDirectory : String := "/working-directory"

def hostInterfaces : List Interface :=
  [⟨"lo", .v4 ⟨127, 0, 0, 1⟩, true, false⟩]

/-- Gives a name, in place of whatever had it. -/
def rename {α : Type} (names : List (String × α)) (name : String) (value : α) :
    List (String × α) :=
  names.filter (fun entry => entry.1 != name) ++ [(name, value)]

def unname {α : Type} (names : List (String × α)) (name : String) : List (String × α) :=
  names.filter fun entry => entry.1 != name

namespace World

/-- The world before the first step, with the files of the script. -/
def initial (files : List (String × Bytes)) : World :=
  { mesh := .initial hostInterfaces workingDirectory (.ofFiles rootDirectory files)
    contexts := [], groups := [], nodes := [], dials := [], tasks := [], channels := [],
    shown := [] }

/-! ## Looking -/

def viewConnection (node : Node) (entry : Connection) : ConnectionView :=
  ⟨entry, node.isOpen entry.slot⟩

def viewNode (node : Node) : NodeView :=
  { summary := node.summary
    connections := node.table.registry.entries.map (viewConnection node)
    dialing := node.dialingCount
    closed := node.closed
    hook := node.hasExitHook }

/-- Whether a node looks the same as before, the times of its connections aside. -/
def sameView (before after : NodeView) : Bool :=
  before.summary == after.summary && before.dialing == after.dialing &&
    before.closed == after.closed && before.hook == after.hook &&
    before.connections.map (fun view => ({ view.entry with lastActivity := 0 }, view.isOpen)) ==
      after.connections.map (fun view => ({ view.entry with lastActivity := 0 }, view.isOpen))

def namedNodes (world : World) : List (String × Nat × Node) :=
  world.nodes.filterMap fun entry =>
    (world.mesh.node? entry.2).map fun node => (entry.1, entry.2, node)

/-- The nodes that look different from when they were last shown. -/
def changedNodes (world : World) : List (String × NodeView) :=
  world.namedNodes.filterMap fun (name, _, node) =>
    let view := viewNode node
    match world.shown.lookup name with
    | some before => if sameView before view then none else some (name, view)
    | none => some (name, view)

def returnedTasks (world : World) : List (String × Answer) :=
  world.tasks.filterMap fun entry =>
    ((world.mesh.tasks[entry.2]?).bind (·.answer)).map fun answer => (entry.1, answer)

/-- What an open channel has received, if anything, and whether its stream has ended. -/
def receivedOn (world : World) (channel : Channel) : Option (Bytes × Bool) :=
  if channel.isOpen then
    (world.mesh.flowTo channel.endpoint).bind fun flow =>
      if flow.pending.isEmpty && !flow.ended then none else some (flow.pending, flow.ended)
  else none

def receivedAll (world : World) : List (String × Bytes × Bool) :=
  world.channels.filterMap fun entry =>
    (world.receivedOn entry.2).map fun received => (entry.1, received)

/-- Takes in what a channel has received. A channel whose stream has ended is closed. -/
def drainChannel (world : World) (name : String) (channel : Channel) : World :=
  match world.receivedOn channel with
  | none => world
  | some (bytes, ended) =>
    let read := world.mesh.changeFlowTo channel.endpoint fun flow => flow.advance bytes.length
    if ended then
      { world with
        mesh := read.dropEndpoint channel.endpoint
        channels := world.channels.map fun entry =>
          if entry.1 = name then (name, { channel with isOpen := false }) else entry }
    else { world with mesh := read }

/-- The names of the nodes and connections, there before and after a step, on which activity was
noted in the step. -/
def touchedSince (before after : World) : List String :=
  after.namedNodes.flatMap fun (name, number, node) =>
    match before.namedNodes.find? fun entry => entry.1 == name && entry.2.1 == number with
    | none => []
    | some (_, _, earlier) =>
      (if node.lastActivity = after.mesh.moment then [name] else []) ++
        (node.table.registry.entries.filter fun entry =>
          entry.lastActivity == after.mesh.moment &&
            (earlier.table.registry.get? entry.slot).isSome).map fun entry =>
            name ++ entry.slot.text

/-- Looks at a world after a step that began in `before`, and notes what has been seen. -/
def observe (before world : World) (reply : Reply) : World × Entry :=
  let entry : Entry :=
    { reply
      returned := world.returnedTasks
      received := world.receivedAll
      nodes := world.changedNodes
      touched := before.touchedSince world }
  let drained := world.channels.foldl (fun world entry => world.drainChannel entry.1 entry.2) world
  ({ drained with
     tasks := world.tasks.filter fun task => !entry.returned.any fun seen => seen.1 == task.1
     shown := entry.nodes.foldl (fun shown seen => rename shown seen.1 seen.2) world.shown },
    entry)

/-! ## Names -/

def context? (world : World) (name : String) : Option Nat :=
  world.contexts.lookup name

def contextEntry? (world : World) (name : String) : Option (Nat × Context) := do
  let number ← world.context? name
  let entry ← world.mesh.contexts[number]?
  return (number, entry.context)

def group? (world : World) (name : String) : Option Nat :=
  world.groups.lookup name

def groupEntry? (world : World) (name : String) : Option (Nat × Group) := do
  let number ← world.group? name
  let entry ← world.mesh.groups[number]?
  return (number, entry.group)

def node? (world : World) (name : String) : Option Nat :=
  world.nodes.lookup name

def nodeEntry? (world : World) (name : String) : Option (Nat × NodeEntry) := do
  let number ← world.node? name
  let entry ← world.mesh.nodes[number]?
  return (number, entry)

def withMesh (world : World) (mesh : Mesh) : World :=
  { world with mesh }

def nameChannel (world : World) (name : String) (endpoint : Endpoint) : World :=
  let mesh :=
    match world.channels.lookup name with
    | some channel =>
      if channel.isOpen then world.mesh.dropEndpoint channel.endpoint else world.mesh
    | none => world.mesh
  { world with mesh, channels := rename world.channels name ⟨endpoint, true⟩ }

def nameTask (world : World) (name : String) (task : Nat) : World :=
  { world with tasks := rename world.tasks name task }

/-! ## Steps -/

abbrev Played := Option (World × Reply)

def playContext (world : World) (name base : String) (interfaces : Option (List Interface)) :
    World :=
  let (mesh, number) :=
    world.mesh.addContext (.initial base (interfaces.map Catalog.ofInterfaces)) false
  { world with mesh, contexts := rename world.contexts name number }

/-- Resets the lasting context, or makes it, and names it. -/
def playSharedContext (world : World) (name : String) (interfaces : Option (List Interface)) :
    World :=
  let catalog := interfaces.map Catalog.ofInterfaces
  match world.mesh.contexts.findIdx? (·.permanent) with
  | some number =>
    { world with
      mesh := world.mesh.updateContext number fun context => { context.reset with catalog }
      contexts := rename world.contexts name number }
  | none =>
    let (mesh, number) := world.mesh.addContext (.initial "" catalog) true
    { world with mesh, contexts := rename world.contexts name number }

/-- Puts the directory of the script's files in place of its mark at the front of a path. -/
def placeRoot (path : String) : String :=
  if path.startsWith "@root" then rootDirectory ++ String.ofList (path.toList.drop 5) else path

def viewStarted (entry : NodeEntry) : Started :=
  { id := entry.node.profile.id
    port := entry.node.profile.port
    interface := entry.node.profile.interface
    addresses := entry.node.profile.localAddresses
    realm := entry.node.profile.realm
    rooted := entry.node.profile.rootDir.isSome
    files := entry.files.names }

/-- Starts a node and names it. A node that had the name is let go. -/
def playNode (world : World) (name context : String) (group : Option String)
    (hello scriptedExit : Bool) (config : MeshConfig) : Played := do
  let context ← world.context? context
  let group ←
    match group with
    | none => some none
    | some group => (world.group? group).map some
  let config := { config with rootDir := config.rootDir.map placeRoot }
  match world.mesh.start ⟨config, context, group, hello, scriptedExit⟩ with
  | (mesh, .error error) => return (world.withMesh mesh, .error error)
  | (mesh, .ok number) =>
    let entry ← mesh.nodes[number]?
    let mesh := (world.nodes.lookup name).elim mesh mesh.letGoNode
    return ({ world with
              mesh
              nodes := rename world.nodes name number
              shown := unname world.shown name },
      .started (viewStarted entry))

def playRequest (world : World) (node : String) (peer : Option String) (address : SocketAddress)
    (name : Option String) : Played := do
  let number ← world.node? node
  match world.mesh.requestPeering number peer address with
  | (_, none) => none
  | (mesh, some (.rejected reason)) => return (world.withMesh mesh, .rejected reason)
  | (mesh, some (.dialing dial)) =>
    match name with
    | none => return (world.withMesh mesh, .dialing address)
    | some name =>
      let (mesh, task) := mesh.addTask (.awaitDial number dial) none
      return ({ world with mesh, dials := rename world.dials name (number, dial) }.nameTask name
          task, .dialing address)

/-- Asks a node to connect to an address, and names the call and its dial. -/
def playConnectPeer (world : World) (node : String) (address : SocketAddress) (name : String) :
    Played := do
  let number ← world.node? node
  match world.mesh.connectPeer number address with
  | (_, none) => none
  | (mesh, some (task, dial)) =>
    let named := (world.withMesh mesh).nameTask name task
    match dial with
    | none => return (named, .nothing)
    | some dial =>
      return ({ named with dials := rename named.dials name (number, dial) }, .nothing)

def failDial (world : World) (dial : Nat × Nat) (error : OsError) (reply : String) :
    World × Reply :=
  match world.mesh.refuseDial dial.1 dial.2 error with
  | (mesh, true) => (world.withMesh mesh, .text reply)
  | (_, false) => (world, .text "not pending")

/-- Ends a dial. Where it reaches a node, the dialing side goes first. -/
def playComplete (world : World) (name : String) (ending : DialEnd) : Played :=
  match world.dials.lookup name with
  | none => some (world, .text "not pending")
  | some dial =>
    if (world.mesh.dial? dial.1 dial.2).isNone then some (world, .text "not pending")
    else
      match ending with
      | .failure error => some (world.failDial dial error "failed")
      | .channel channel =>
        match world.mesh.connectDial dial.1 dial.2 with
        | (_, none) => some (world, .text "not pending")
        | (mesh, some stream) =>
          some ((world.withMesh mesh).nameChannel channel ⟨stream, .callee⟩, .text "connected")
      | .node target remote listener => do
        let target ← world.node? target
        if world.mesh.listens target listener then
          match world.mesh.connectDial dial.1 dial.2 with
          | (_, none) => return (world, .text "not pending")
          | (mesh, some stream) =>
            return (world.withMesh (mesh.settle.arrive target listener
              (.connection remote ⟨stream, .callee⟩)), .text "connected")
        else return world.failDial dial .connectionRefused "refused"

def playInbound (world : World) (node : String) (remote : SocketAddress) (channel : String)
    (listener : Nat) : Played := do
  let number ← world.node? node
  if world.mesh.listens number listener then
    let (mesh, stream) := world.mesh.openStream
    return ((world.withMesh (mesh.arrive number listener
      (.connection remote ⟨stream, .callee⟩))).nameChannel channel ⟨stream, .caller⟩,
      .text "connected")
  else return (world, .text "refused")

def playAcceptError (world : World) (node : String) (error : OsError) (listener : Nat) :
    Played := do
  let number ← world.node? node
  if world.mesh.listens number listener then
    return (world.withMesh (world.mesh.arrive number listener (.failure error)), .flag true)
  else return (world, .text "refused")

def playRemoteSend (world : World) (name : String) (bytes : Bytes) : World × Reply :=
  match (world.channels.lookup name).filter (·.isOpen) with
  | some channel => (world.withMesh (world.mesh.writeFrom channel.endpoint bytes), .flag true)
  | none => (world, .flag false)

def playRemoteClose (world : World) (name : String) : World × Reply :=
  match world.channels.lookup name with
  | none => (world, .flag false)
  | some channel =>
    if channel.isOpen then
      ({ world with
         mesh := world.mesh.dropEndpoint channel.endpoint
         channels := rename world.channels name { channel with isOpen := false } }, .flag true)
    else (world, .flag true)

/-- Stops reading on a channel, which ends what it receives. -/
def playRemoteStopReading (world : World) (name : String) : World × Reply :=
  match world.channels.lookup name with
  | none => (world, .flag false)
  | some channel =>
    if channel.isOpen then
      (world.withMesh
        (world.mesh.changeFlowTo channel.endpoint fun flow => flow.finish.abandon), .flag true)
    else (world, .flag true)

def replyOf : Except MeshError Unit → Reply
  | .ok () => .done
  | .error error => .error error

def playDropNode (world : World) (name : String) : World × Reply :=
  match world.node? name with
  | none => (world, .flag false)
  | some number =>
    ({ world with
       mesh := world.mesh.letGoNode number
       nodes := unname world.nodes name
       shown := unname world.shown name }, .flag true)

/-- Lets go of a context. Its name still serves to read its paths. -/
def playDropContext (world : World) (name : String) : World × Reply :=
  match world.context? name with
  | none => (world, .flag false)
  | some number =>
    (world.withMesh (world.mesh.letGoContext number),
      .flag ((world.mesh.contexts[number]?).any (·.held)))

def playDropGroup (world : World) (name : String) : World × Reply :=
  match world.group? name with
  | none => (world, .flag false)
  | some number =>
    ({ world with mesh := world.mesh.letGoGroup number, groups := unname world.groups name },
      .flag true)

def playRefreshEvery (world : World) (node : String) (seconds : Nat) (name : String) : Played := do
  let number ← world.node? node
  if seconds = 0 then return (world, .text "disabled")
  else
    let (mesh, task) :=
      world.mesh.addTask (.refreshStats number (seconds * 1000) world.mesh.now) none
    return ((world.withMesh mesh).nameTask name task, .text "running")

def viewGroup (world : World) (number : Nat) (group : Group) : GroupView :=
  { ids := group.ids
    alive := (world.mesh.livingMembers number).filterMap fun node =>
      (world.mesh.node? node).map (·.profile.id)
    description := group.description }

def askNode (world : World) (node : String) (question : NodeEntry → Reply) : Played := do
  let (_, entry) ← world.nodeEntry? node
  return (world, question entry)

def act (world : World) : Step → Played
  | .context name base interfaces => some (world.playContext name base interfaces, .nothing)
  | .sharedContext name interfaces => some (world.playSharedContext name interfaces, .nothing)
  | .group name =>
    let (mesh, number) := world.mesh.addGroup true
    let mesh := (world.groups.lookup name).elim mesh mesh.letGoGroup
    some ({ world with mesh, groups := rename world.groups name number }, .nothing)
  | .failBind ip error =>
    some (world.withMesh
      { world.mesh with unbindable := (ip, error) :: world.mesh.unbindable }, .nothing)
  | .node name context group hello scriptedExit config =>
    world.playNode name context group hello scriptedExit config
  | .dropNode name => some (world.playDropNode name)
  | .dropContext name => some (world.playDropContext name)
  | .dropGroup name => some (world.playDropGroup name)
  | .request node peer address dial => world.playRequest node peer address dial
  | .connectPeer node address task => world.playConnectPeer node address task
  | .complete dial ending => world.playComplete dial ending
  | .advance milliseconds => some (world.withMesh (world.mesh.advance milliseconds), .nothing)
  | .inbound node remote channel listener => world.playInbound node remote channel listener
  | .remoteSend channel bytes => some (world.playRemoteSend channel bytes)
  | .remoteClose channel => some (world.playRemoteClose channel)
  | .remoteStopReading channel => some (world.playRemoteStopReading channel)
  | .acceptError node error listener => world.playAcceptError node error listener
  | .identify node slot peer => do
    let (mesh, result) := world.mesh.identify (← world.node? node) slot peer
    return (world.withMesh mesh, replyOf (← result))
  | .send node slot bytes => do
    let (mesh, result) := world.mesh.send (← world.node? node) slot bytes
    return (world.withMesh mesh, replyOf (← result))
  | .block node peer => do
    let (_, entry) ← world.nodeEntry? node
    let (mesh, found) := world.mesh.blockPeer entry.context peer
    return (world.withMesh mesh, .flag found)
  | .drop node peer => do
    let (mesh, found) := world.mesh.dropPeer (← world.node? node) peer
    return (world.withMesh mesh, .flag found)
  | .isConnected node peer => world.askNode node fun entry => .flag (entry.node.isConnectedTo peer)
  | .isDialing node peer =>
    world.askNode node fun entry => .flag (entry.node.table.inFlight.isDialing peer)
  | .isPending node address =>
    world.askNode node fun entry => .flag (entry.node.table.inFlight.hasPending address)
  | .counts node =>
    world.askNode node fun entry =>
      .counts entry.node.connectionCount entry.node.peeredCount entry.node.dialingCount
  | .connection node slot =>
    world.askNode node fun entry =>
      .connection ((entry.node.table.registry.get? slot).map (viewConnection entry.node))
  | .nodeRead node path options => do
    let (_, entry) ← world.nodeEntry? node
    let (mesh, found) := world.mesh.readThrough entry path options
    return (world.withMesh mesh, .served found)
  | .sameFiles node other => do
    let (_, first) ← world.nodeEntry? node
    let (_, second) ← world.nodeEntry? other
    return (world, .flag (first.context == second.context &&
      first.files.number == second.files.number))
  | .close node task => do
    let (mesh, number) := world.mesh.close (← world.node? node)
    return ((world.withMesh mesh).nameTask task number, .nothing)
  | .waitClosed node task => do
    let (mesh, number) := world.mesh.addTask (.waitClosed (← world.node? node)) none
    return ((world.withMesh mesh).nameTask task number, .nothing)
  | .fireExit node => do
    let (mesh, fired) := world.mesh.fireExit (← world.node? node)
    return (world.withMesh mesh, .flag (← fired))
  | .refreshEvery node seconds task => world.playRefreshEvery node seconds task
  | .describeNode node => world.askNode node fun entry => .text entry.node.description
  | .contextBlock context peer => do
    let (mesh, found) := world.mesh.blockPeer (← world.context? context) peer
    return (world.withMesh mesh, .flag found)
  | .contextDrop context peer => do
    let (mesh, found) := world.mesh.dropPeerEverywhere (← world.context? context) peer
    return (world.withMesh mesh, .flag found)
  | .contextNodes context => do
    let number ← world.context? context
    return (world, .texts ((world.mesh.openNodes number).filterMap fun node =>
      (world.mesh.node? node).map (·.profile.id)))
  | .contextBase context => do
    let (_, entry) ← world.contextEntry? context
    return (world, .text entry.base)
  | .contextReset context interfaces => do
    let number ← world.context? context
    return (world.withMesh (world.mesh.updateContext number fun entry =>
      { entry.reset with catalog := some (.ofInterfaces interfaces) }), .nothing)
  | .blocklist context => do
    let (_, entry) ← world.contextEntry? context
    return (world, .texts entry.blocklist.list)
  | .blocklistInsert context peer => do
    let (number, entry) ← world.contextEntry? context
    return (world.withMesh (world.mesh.addToBlocklist number peer),
      .flag (!entry.blocklist.contains peer))
  | .ban context host => do
    let (mesh, report) := world.mesh.ban (← world.context? context) host
    return (world.withMesh mesh, .text report)
  | .paths context => do
    let (_, entry) ← world.contextEntry? context
    return (world, .texts entry.messages.paths)
  | .read context path options => do
    let (mesh, bytes) := world.mesh.readMessage (← world.context? context) path options
    return (world.withMesh mesh, .contents bytes)
  | .groupInfo group => do
    let (number, entry) ← world.groupEntry? group
    return (world, .group (world.viewGroup number entry))
  | .groupHas group peer => do
    let (_, entry) ← world.groupEntry? group
    return (world, .flag (entry.hasIdentifier peer))
  | .groupRefresh group => do
    let refreshed := world.withMesh (world.mesh.refreshStats (← world.group? group))
    let (_, entry) ← refreshed.groupEntry? group
    return (refreshed, .stats entry.lastLines entry.lastCounters)
  | .groupStats group => do
    let (_, entry) ← world.groupEntry? group
    return (world, .stats entry.lastLines entry.lastCounters)
  | .groupUpdate group lines counters => do
    let number ← world.group? group
    return (world.withMesh (world.mesh.updateGroup number fun entry =>
      entry.updateStats lines counters), .nothing)

/-- Plays one step: makes its call, lets everything happen, and looks. -/
def play (world : World) (step : Step) : Option (World × Entry) := do
  let before := { world with mesh := { world.mesh with moment := world.mesh.moment + 1 } }
  let (acted, reply) ← before.act step
  return before.observe (acted.withMesh acted.mesh.settle) reply

end World

end PeerMesh.Scenario
