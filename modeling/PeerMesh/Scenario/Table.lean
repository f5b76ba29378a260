import PeerMesh.Handle
import PeerMesh.PeerTable

/-!
# A table under script

A script plays with one table that belongs to no node. Every connection that it registers gets an
open handle of its own, which outlives the entry; nobody notes the time.
-/

set_option autoImplicit false

namespace PeerMesh.Scenario

/-- A table, and the handles of all connections that were ever registered in it. -/
structure Table where
  table : PeerTable
  handles : List (Slot × Handle)
  deriving DecidableEq, Repr

inductive TableStep where
  | insert (new : NewConnection)
  | get (slot : Slot)
  | slotForName (name : String)
  | containsName (name : String)
  | containsAddress (address : SocketAddress)
  | rename (slot : Slot) (name : String)
  | touch (slot : Slot)
  | close (slot : Slot)
  | remove (slot : Slot)
  | removeOpenNamed (name : String)
  | drain
  | begin (peer : Option String) (address : SocketAddress)
  | release (peer : Option String) (address : SocketAddress)
  | takePending (address : SocketAddress)
  | finishDialing (peer : String)
  | isDialing (peer : String)
  | hasPending (address : SocketAddress)
  | clear
  deriving DecidableEq, Repr

inductive TableReply where
  | nothing
  | flag (value : Bool)
  | registered (slot : Slot)
  | slot (found : Option Slot)
  | renamed
  | holder (slot : Slot)
  | entry (found : Option Connection)
  | entries (removed : List Connection)
  deriving DecidableEq, Repr

namespace Table

def initial : Table := ⟨.empty, []⟩

def isOpen (state : Table) (slot : Slot) : Bool :=
  (state.handles.lookup slot).any (·.isOpen)

def withRegistry (state : Table) (registry : Registry) : Table :=
  { state with table := { state.table with registry } }

def withInFlight (state : Table) (inFlight : InFlight) : Table :=
  { state with table := { state.table with inFlight } }

/-- Gives the close signal on the connection under a slot, if it is registered. -/
def close (state : Table) (slot : Slot) : Table × TableReply :=
  match state.table.registry.get? slot, state.handles.lookup slot with
  | some _, some handle =>
    let (closed, first) := handle.close
    ({ state with handles := (slot, closed) :: state.handles }, .flag first)
  | _, _ => (state, .nothing)

def step (state : Table) : TableStep → Table × TableReply
  | .insert new =>
    let (registry, slot) := state.table.registry.insert new 0
    ({ state.withRegistry registry with handles := (slot, .fresh) :: state.handles },
      .registered slot)
  | .get slot => (state, .entry (state.table.registry.get? slot))
  | .slotForName name => (state, .slot (state.table.registry.slotForName? name))
  | .containsName name => (state, .flag (state.table.registry.containsName name))
  | .containsAddress address => (state, .flag (state.table.registry.containsAddress address))
  | .rename slot name =>
    match state.table.registry.rename slot name with
    | .ok registry => (state.withRegistry registry, .renamed)
    | .error holder => (state, .holder holder)
  | .touch slot =>
    (state.withRegistry (state.table.registry.touch slot 0),
      if (state.table.registry.get? slot).isSome then .flag true else .nothing)
  | .close slot => state.close slot
  | .remove slot =>
    let (registry, removed) := state.table.registry.remove slot
    (state.withRegistry registry, .entry removed)
  | .removeOpenNamed name =>
    let (registry, removed) := state.table.registry.removeOpenNamed state.isOpen name
    (state.withRegistry registry, .entry removed)
  | .drain =>
    let (registry, removed) := state.table.registry.drain
    (state.withRegistry registry, .entries removed)
  | .begin peer address => (state.withInFlight (state.table.inFlight.begin peer address), .nothing)
  | .release peer address =>
    (state.withInFlight (state.table.inFlight.release peer address), .nothing)
  | .takePending address =>
    let (inFlight, found) := state.table.inFlight.takePending address
    (state.withInFlight inFlight, .flag found)
  | .finishDialing peer =>
    (state.withInFlight (state.table.inFlight.finishDialing peer),
      .flag (state.table.inFlight.isDialing peer))
  | .isDialing peer => (state, .flag (state.table.inFlight.isDialing peer))
  | .hasPending address => (state, .flag (state.table.inFlight.hasPending address))
  | .clear => (state.withInFlight .empty, .nothing)

end Table

end PeerMesh.Scenario
