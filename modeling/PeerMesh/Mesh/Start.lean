import PeerMesh.Config
import PeerMesh.Mesh.Basic

/-!
# Starting a node

A node listens on all addresses, or on the IPv4 addresses of the configured interfaces that the host
has. Where the port is left to the system, the first socket gets one and the others share it. If one
address cannot be bound, the system does not tell the port that it chose, or there is nothing to
bind, the start fails and the sockets bound so far are given up; nothing else has been touched by
then, except that the catalog of the context is known.
-/

set_option autoImplicit false

namespace PeerMesh.Mesh

/-- What a node is started with, besides its settings. -/
structure StartRequest where
  config : MeshConfig
  context : Nat
  /-- The group to join; none for a new one. -/
  group : Option Nat
  hello : Bool
  /-- Whether the application holds the signal to exit. -/
  scriptedExit : Bool
  deriving Repr

/-- The exit hook of the node, if it is to have one. -/
def StartRequest.hook? (request : StartRequest) : Option ExitHook :=
  if request.config.installExitHook then some ⟨true, request.scriptedExit⟩ else none

/-- The catalog of a context. A context that has none takes stock of the host's interfaces. -/
def catalogFor (mesh : Mesh) (context : Context) : Except MeshError Catalog :=
  match context.catalog with
  | some catalog => .ok catalog
  | none =>
    if mesh.host.isEmpty then .error (.interfaceEnumeration "no network interfaces reported")
    else .ok (.ofInterfaces mesh.host)

def boundAddresses (mesh : Mesh) : List SocketAddress :=
  mesh.nodes.flatMap fun entry =>
    (entry.node.listeners.filter fun listener => !listener.stopped).map (·.address)

/-- Whether a listening socket keeps an address from being bound: it has the same port, and the same
internet address unless one of the two is the wildcard. -/
def conflicts (address : Ipv4) (port : Nat) (bound : SocketAddress) : Bool :=
  bound.port.toNat == port &&
    (bound.ip == .v4 address || address == .wildcard || bound.ip == .v4 .wildcard)

/-- The first free port from `port` on, looking at so many ports. -/
def freePort (bound : List SocketAddress) (address : Ipv4) : (tries port : Nat) → Nat
  | 0, port => port
  | tries + 1, port =>
    if bound.any (conflicts address port) then freePort bound address tries (port + 1) else port

/-- The sockets bound in one attempt to start. -/
structure Binding where
  bound : List SocketAddress
  /-- The port asked for, or the one that the system chose. -/
  port : UInt16
  nextPort : Nat

def bindOne (mesh : Mesh) (binding : Binding) (address : Ipv4) : Except MeshError Binding :=
  let wanted : SocketAddress := .v4 address binding.port
  let taken := mesh.boundAddresses ++ binding.bound
  match mesh.unbindable.lookup (.v4 address) with
  | some error => .error (.bind wanted error)
  | none =>
    if binding.port = 0 then
      let port := freePort taken address taken.length binding.nextPort
      .ok { bound := binding.bound ++ [.v4 address port.toUInt16], port := port.toUInt16,
            nextPort := port + 1 }
    else if taken.any (conflicts address binding.port.toNat) then
      .error (.bind wanted .addressInUse)
    else .ok { binding with bound := binding.bound ++ [wanted] }

/-- Why the port of a socket that was just bound on an address cannot be told, if it has to be asked
for and cannot. -/
def portFault? (mesh : Mesh) (binding : Binding) (address : Ipv4) : Option OsError :=
  if binding.port = 0 then mesh.untold.lookup (.v4 address) else none

/-- Binds addresses one after the other, and tells how the choice of ports goes on even if one of
them fails. -/
def bindAll (mesh : Mesh) (binding : Binding) : List Ipv4 → Except MeshError Binding × Nat
  | [] => (.ok binding, binding.nextPort)
  | address :: rest =>
    match mesh.bindOne binding address with
    | .error error => (.error error, binding.nextPort)
    | .ok next =>
      match mesh.portFault? binding address with
      | some error => (.error (.bind (.v4 .wildcard 0) error), next.nextPort)
      | none => mesh.bindAll next rest

/-- The configured interfaces that the host has, with their addresses. -/
def knownInterfaces (catalog : Catalog) (names : List String) : List (String × List Ipv4) :=
  names.filterMap fun name => (catalog.addressesOf? name).map fun addresses => (name, addresses)

def listenAddresses (catalog : Catalog) (config : MeshConfig) : List Ipv4 :=
  if config.interfaces.isEmpty then [.wildcard]
  else (knownInterfaces catalog config.interfaces).flatMap (·.2)

/-- The interface that a node goes by: the last configured one that the host has. -/
def nodeInterface? (catalog : Catalog) (config : MeshConfig) : Option String :=
  ((knownInterfaces catalog config.interfaces).getLast?).map (·.1)

/-- The identifier of a node: its base, its port, and the interface it goes by. -/
def nodeId (base : String) (port : UInt16) (interface : Option String) : String :=
  base ++ "-" ++ toString port.toNat ++ interface.elim "" fun name => "-" ++ name

def freshNode (profile : Profile) (request : StartRequest) (moment : Nat) : Node :=
  { profile
    table := .empty
    hello := if request.hello then some .initial else none
    dials := []
    dialCount := 0
    links := []
    listeners := profile.localAddresses.map Listener.fresh
    stopping := false
    hook := request.hook?
    closers := .initial
    closed := false
    lastActivity := moment }

def registerPaths (context : Context) (realm id : String) (group : Nat) : Context :=
  { context with
    messages :=
      ((context.messages.add (Control.statsPath realm id) (.statsLines group)).add
        (Control.statsMapPath realm) (.statsMap realm group)).add
        (Control.banPath realm) .ban }

/-- Binds the sockets of a start, and tells what the node is to be. -/
def prepare (mesh : Mesh) (request : StartRequest) : Mesh × Except MeshError Profile :=
  match mesh.contexts[request.context]? with
  | none => (mesh, .error (.interfaceEnumeration "no network interfaces reported"))
  | some entry =>
    match mesh.catalogFor entry.context with
    | .error error => (mesh, .error error)
    | .ok catalog =>
      let config := request.config
      let known := mesh.updateContext request.context fun context =>
        { context with catalog := some catalog }
      match known.bindAll ⟨[], config.port, known.nextPort⟩ (listenAddresses catalog config) with
      | (.error error, nextPort) => ({ known with nextPort }, .error error)
      | (.ok binding, nextPort) =>
        let listening := { known with nextPort }
        if binding.bound.isEmpty then (listening, .error (.noListeners binding.port))
        else
          let interface := nodeInterface? catalog config
          (listening, .ok
            { id := nodeId (config.baseId.getD entry.context.base) binding.port interface
              port := binding.port
              interface
              localAddresses := binding.bound
              rootDir := config.rootDir
              realm := config.realm
              allowPeerLocal := config.allowPeerLocal
              connectTimeout := config.connectTimeout
              catalog })

/-! ## What follows when the sockets are bound

The node is there and its listeners are served before the rest of the start has been done: its exit
hook goes about its work before it is stored, and the context and the group learn of the node last.
-/

/-- Puts a node that listens into the process, with its file systems loaded. Its hook is not stored
yet. -/
def enlist (mesh : Mesh) (request : StartRequest) (profile : Profile) : Mesh × Nat :=
  let (mesh, group) :=
    match request.group with
    | some group => (mesh, group)
    | none => mesh.addGroup false
  let files := ((mesh.contexts[request.context]?).map fun entry =>
    (entry.context.loadSystems mesh.workingDirectory profile.rootDir).2).getD (.unrooted 0)
  let loaded := mesh.updateContext request.context fun context =>
    (context.loadSystems mesh.workingDirectory profile.rootDir).1
  let node : Node := { freshNode profile request mesh.moment with hook := none }
  ({ loaded with nodes := loaded.nodes ++ [⟨node, request.context, group, files, true⟩] },
    mesh.nodes.length)

def storeHook (mesh : Mesh) (node : Nat) (hook : Option ExitHook) : Mesh :=
  match hook with
  | none => mesh
  | some hook => mesh.updateNode node fun node => node.storeHook hook

/-- The context of a node lists it as its last one, and forgets the nodes that are gone. -/
def registerNode (mesh : Mesh) (node : Nat) : Mesh :=
  match mesh.nodes[node]? with
  | none => mesh
  | some entry =>
    let living := mesh.nodeAlive
    mesh.updateContext entry.context fun context =>
      { context with
        nodes := (context.nodes.filter fun other => living other && other != node) ++ [node] }

/-- The context of a node serves its control paths. -/
def openPaths (mesh : Mesh) (node : Nat) : Mesh :=
  match mesh.nodes[node]? with
  | none => mesh
  | some entry =>
    mesh.updateContext entry.context fun context =>
      registerPaths context entry.node.profile.realm entry.node.profile.id entry.group

def joinGroup (mesh : Mesh) (node : Nat) : Mesh :=
  match mesh.nodes[node]? with
  | none => mesh
  | some entry =>
    mesh.updateGroup entry.group fun members => members.join ⟨entry.node.profile.id, node⟩

/-- All that follows, without a break. -/
def launch (mesh : Mesh) (request : StartRequest) (profile : Profile) : Mesh × Nat :=
  let (enlisted, node) := mesh.enlist request profile
  let registered := (enlisted.storeHook node request.hook?).registerNode node
  ((registered.openPaths node).joinGroup node, node)

def start (mesh : Mesh) (request : StartRequest) : Mesh × Except MeshError Nat :=
  match mesh.prepare request with
  | (failed, .error error) => (failed, .error error)
  | (listening, .ok profile) =>
    let (started, node) := listening.launch request profile
    (started, .ok node)

end PeerMesh.Mesh
