import PeerMesh.Mesh.Calls
import PeerMesh.Mesh.Start

/-!
# Scripts for a process and its network

A script builds contexts, groups and nodes, calls them, and plays the world outside: it decides
how each dial ends, opens connections of its own, and moves the clock. Contexts, groups, nodes,
dials, calls and channels go by names. A channel is the script's end of a connection.
-/

set_option autoImplicit false

namespace PeerMesh.Scenario

/-- How a script lets a dial end. -/
inductive DialEnd where
  | failure (error : OsError)
  | channel (name : String)
  /-- It reaches a listener of a node, which sees it come from the given address. -/
  | node (name : String) (remote : SocketAddress) (listener : Nat)
  deriving DecidableEq, Repr

inductive Step where
  /-- Makes a context. Without interfaces, it takes stock of the host's when it first needs them. -/
  | context (name base : String) (interfaces : Option (List Interface))
  /-- Takes the context that lasts as long as the process, after resetting it. -/
  | sharedContext (name : String) (interfaces : Option (List Interface))
  | group (name : String)
  | failBind (ip : Ip) (error : OsError)
  | node (name context : String) (group : Option String) (hello scriptedExit : Bool)
      (config : MeshConfig)
  | dropNode (name : String)
  | dropContext (name : String)
  | dropGroup (name : String)
  | request (node : String) (peer : Option String) (address : SocketAddress)
      (dial : Option String)
  | connectPeer (node : String) (address : SocketAddress) (task : String)
  | complete (dial : String) (ending : DialEnd)
  | advance (milliseconds : Nat)
  | inbound (node : String) (remote : SocketAddress) (channel : String) (listener : Nat)
  | remoteSend (channel : String) (bytes : Bytes)
  | remoteClose (channel : String)
  | remoteStopReading (channel : String)
  | acceptError (node : String) (error : OsError) (listener : Nat)
  | identify (node : String) (slot : Slot) (peer : String)
  | send (node : String) (slot : Slot) (bytes : Bytes)
  | block (node peer : String)
  | drop (node peer : String)
  | isConnected (node peer : String)
  | isDialing (node peer : String)
  | isPending (node : String) (address : SocketAddress)
  | counts (node : String)
  | connection (node : String) (slot : Slot)
  | nodeRead (node path : String) (options : Files.PathOptions)
  | sameFiles (node other : String)
  | close (node task : String)
  | waitClosed (node task : String)
  | fireExit (node : String)
  | refreshEvery (node : String) (seconds : Nat) (task : String)
  | describeNode (node : String)
  | contextBlock (context peer : String)
  | contextDrop (context peer : String)
  | contextNodes (context : String)
  | contextBase (context : String)
  | contextReset (context : String) (interfaces : List Interface)
  | blocklist (context : String)
  | blocklistInsert (context peer : String)
  | ban (context : String) (host : Option String)
  | paths (context : String)
  | read (context path : String) (options : Files.PathOptions)
  | groupInfo (group : String)
  | groupHas (group peer : String)
  | groupRefresh (group : String)
  | groupStats (group : String)
  | groupUpdate (group : String) (lines : List String) (counters : StatsMap)

/-- What is shown of a node that has just started. -/
structure Started where
  id : String
  port : UInt16
  interface : Option String
  addresses : List SocketAddress
  realm : String
  rooted : Bool
  files : List String
  deriving DecidableEq, Repr

structure GroupView where
  ids : List String
  alive : List String
  description : String
  deriving DecidableEq, Repr

/-- What is shown of a connection: its entry, and whether its handle is open. -/
structure ConnectionView where
  entry : Connection
  isOpen : Bool
  deriving DecidableEq, Repr

structure NodeView where
  summary : String
  connections : List ConnectionView
  dialing : Nat
  closed : Bool
  hook : Bool
  deriving Repr

inductive Reply where
  | nothing
  | done
  | flag (value : Bool)
  | text (value : String)
  | texts (values : List String)
  | error (error : MeshError)
  | started (node : Started)
  | dialing (address : SocketAddress)
  | rejected (reason : RejectReason)
  | counts (connections peered dialing : Nat)
  | connection (view : Option ConnectionView)
  | contents (bytes : Option Bytes)
  | served (found : Option (String × Bytes))
  | group (view : GroupView)
  | stats (lines : List String) (counters : StatsMap)

/-- What is seen after a step, when everything has gone as far as it can. -/
structure Entry where
  reply : Reply
  /-- The calls that have returned, by name. -/
  returned : List (String × Answer)
  /-- What the channels have received, and whether they have reached the end of the stream. -/
  received : List (String × Bytes × Bool)
  nodes : List (String × NodeView)
  /-- The names of the nodes and connections on which activity was noted. -/
  touched : List String

end PeerMesh.Scenario
