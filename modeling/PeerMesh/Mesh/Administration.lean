import PeerMesh.Mesh.Basic

/-!
# Blocking, dropping, stats and control paths

Dropping a peer closes its open connection on every open node of a context; blocking it puts it on
the blocklist first. The stats of a group are taken from its living members. Registered paths are
served from the state at the time of the request, and reading the ban path with a host blocks that
host.
-/

set_option autoImplicit false

namespace PeerMesh.Mesh

/-- Closes the open connection of a node that goes under the name `peer`, and tells whether there
was one. -/
def dropPeer (mesh : Mesh) (node : Nat) (peer : String) : Mesh × Bool :=
  match mesh.stepNode node fun node _ => node.dropPeer peer with
  | (dropped, found) => (dropped, found == some true)

/-- Drops a peer on several nodes, one after the other, and tells whether one of them had it. -/
def dropPeerOn (mesh : Mesh) (peer : String) : List Nat → Mesh × Bool
  | [] => (mesh, false)
  | node :: rest =>
    let (first, found) := mesh.dropPeer node peer
    let (last, foundLater) := first.dropPeerOn peer rest
    (last, found || foundLater)

def dropPeerEverywhere (mesh : Mesh) (context : Nat) (peer : String) : Mesh × Bool :=
  mesh.dropPeerOn peer (mesh.openNodes context)

def addToBlocklist (mesh : Mesh) (context : Nat) (peer : String) : Mesh :=
  mesh.updateContext context fun entry => { entry with blocklist := entry.blocklist.insert peer }

/-- Blocks a peer for a context and drops it on every open node, and tells whether one had it. -/
def blockPeer (mesh : Mesh) (context : Nat) (peer : String) : Mesh × Bool :=
  (mesh.addToBlocklist context peer).dropPeerEverywhere context peer

/-- The answer to a request to ban: the blocked identifiers, or a report on blocking `host`. -/
def ban (mesh : Mesh) (context : Nat) (host : Option String) : Mesh × String :=
  match host with
  | none => (mesh, Control.blockedLines (mesh.blocklistOf context).list)
  | some host =>
    let known := (mesh.blocklistOf context).contains host
    let (dropped, found) := (mesh.addToBlocklist context host).dropPeerEverywhere context host
    (dropped, Control.banReport host known found)

/-- What the living members of a group contribute to its stats. -/
def samples (mesh : Mesh) (group : Nat) : List Stats.Sample :=
  (mesh.livingMembers group).filterMap fun node =>
    (mesh.nodes[node]?).map fun entry =>
      Stats.Sample.ofNode entry.node (mesh.blocklistOf entry.context)

def refreshStats (mesh : Mesh) (group : Nat) : Mesh :=
  mesh.updateGroup group fun entry => entry.refresh (mesh.samples group)

/-- The group of the newest open node of a context that serves a realm. -/
def realmGroup? (mesh : Mesh) (context : Nat) (realm : String) : Option Nat :=
  ((mesh.openNodes context).reverse.filterMap fun node =>
    (mesh.nodes[node]?).filter fun entry => entry.node.profile.realm == realm).head?.map
      (·.group)

/-- The group whose counters stand for a realm: that of the newest open node while the context is
alive, and else the one that was registered, while that is alive. -/
def countersGroup? (mesh : Mesh) (context : Nat) (realm : String) (fallback : Nat) :
    Option Nat :=
  ((if mesh.contextAlive context then mesh.realmGroup? context realm else none)).or
    (if mesh.groupAlive fallback then some fallback else none)

/-- The last stats lines of a group on the wire; nothing if the group is gone. -/
def statsLinesBody (mesh : Mesh) (group : Nat) : Bytes :=
  if mesh.groupAlive group then
    (mesh.groups[group]?).elim [] fun entry => Stats.encodeLines entry.group.lastLines
  else []

/-- The counters of a realm on the wire; nothing if no group stands for it. -/
def statsMapBody (mesh : Mesh) (context : Nat) (realm : String) (fallback : Nat) : Bytes :=
  match (mesh.countersGroup? context realm fallback).bind fun group => mesh.groups[group]? with
  | none => []
  | some entry =>
    match Stats.encode entry.group.lastCounters with
    | .ok bytes => bytes
    | .error _ => []

def serve (mesh : Mesh) (context : Nat) (served : Control.Served) (options : Files.PathOptions) :
    Mesh × Bytes :=
  match served with
  | .statsLines group => (mesh, mesh.statsLinesBody group)
  | .statsMap realm fallback => (mesh, mesh.statsMapBody context realm fallback)
  | .ban =>
    if mesh.contextAlive context then
      let (changed, report) := mesh.ban context (options.get? Control.hostOption)
      (changed, Utf8.encode report)
    else (mesh, [])

def readMessage (mesh : Mesh) (context : Nat) (path : String) (options : Files.PathOptions) :
    Mesh × Option Bytes :=
  match (mesh.contexts[context]?).bind fun entry => entry.context.messages.handler? path with
  | none => (mesh, none)
  | some served =>
    let (changed, bytes) := mesh.serve context served options
    (changed, some bytes)

/-- Reads a path from one file system, of a node on a context. -/
def readFrom (mesh : Mesh) (context : Nat) (path : String) (options : Files.PathOptions) :
    Files.FileSystem → Mesh × Option Bytes
  | .messages => mesh.readMessage context path options
  | .below files => (mesh, files.read mesh.disk path)

/-- Reads a path from the first file system that serves it. The result names the file system. -/
def readFirst (mesh : Mesh) (context : Nat) (path : String) (options : Files.PathOptions) :
    List Files.FileSystem → Mesh × Option (String × Bytes)
  | [] => (mesh, none)
  | files :: rest =>
    match mesh.readFrom context path options files with
    | (changed, some bytes) => (changed, some (files.name, bytes))
    | (_, none) => mesh.readFirst context path options rest

/-- Reads a path from the first file system of a node that serves it. -/
def readThrough (mesh : Mesh) (entry : NodeEntry) (path : String) (options : Files.PathOptions) :
    Mesh × Option (String × Bytes) :=
  mesh.readFirst entry.context path options entry.files.members

end PeerMesh.Mesh
