import PeerMesh.Address

/-!
# The connection registry of a node

A connection is registered under a slot that it keeps, and under a name that changes: first a
placeholder, then the identifier that the remote side gives. Slots are numbered from one in the
order of registration and never reused. The name index resolves a name to at most one slot; it is
kept apart from the entries, and an entry that comes under a name already in the index does not
displace the holder.

Whether the handle of a connection is open is no part of the registry; the one operation that asks
for it takes the answer as a function of the slot.
-/

set_option autoImplicit false

namespace PeerMesh

/-- The key that a registered connection keeps. -/
structure Slot where
  number : Nat
  deriving DecidableEq, Repr

def Slot.text (slot : Slot) : String :=
  "#" ++ toString slot.number

/-- Which side opened a connection, seen from this node. -/
inductive Direction where
  | inbound
  | outbound
  deriving DecidableEq, Repr

structure Connection where
  slot : Slot
  /-- A placeholder until the connection is identified. -/
  name : String
  identified : Bool
  remote : SocketAddress
  direction : Direction
  /-- The identifier under which this node dialed the connection, if it did and had one. -/
  dialedAs : Option String
  /-- The moment of registration or of the last received bytes. -/
  lastActivity : Nat
  deriving DecidableEq, Repr

/-- What is known of a connection before it has a slot. -/
structure NewConnection where
  name : String
  remote : SocketAddress
  direction : Direction
  dialedAs : Option String
  deriving DecidableEq, Repr

/-- The registered connections in the order of their slots, and the name index. -/
structure Registry where
  lastSlot : Nat
  entries : List Connection
  index : List (String × Slot)
  deriving DecidableEq, Repr

namespace Registry

/-- The registry of a node that has not had a connection. -/
def empty : Registry := ⟨0, [], []⟩

def get? (registry : Registry) (slot : Slot) : Option Connection :=
  registry.entries.find? fun entry => entry.slot == slot

def slotForName? (registry : Registry) (name : String) : Option Slot :=
  registry.index.lookup name

def containsName (registry : Registry) (name : String) : Bool :=
  (registry.slotForName? name).isSome

def containsAddress (registry : Registry) (address : SocketAddress) : Bool :=
  registry.entries.any fun entry => entry.remote == address

def unindex (index : List (String × Slot)) (name : String) : List (String × Slot) :=
  index.filter fun pair => pair.1 != name

/-- The index without `name`, if it resolves to `slot`; another holder keeps the name. -/
def release (index : List (String × Slot)) (name : String) (slot : Slot) : List (String × Slot) :=
  if index.lookup name = some slot then unindex index name else index

/-- Registers a connection under the next slot. The name index is left as it is if the name resolves
to a slot already. -/
def insert (registry : Registry) (new : NewConnection) (moment : Nat) : Registry × Slot :=
  let slot : Slot := ⟨registry.lastSlot + 1⟩
  let entry : Connection :=
    { slot, name := new.name, identified := false, remote := new.remote,
      direction := new.direction, dialedAs := new.dialedAs, lastActivity := moment }
  ({ lastSlot := slot.number
     entries := registry.entries ++ [entry]
     index :=
      if registry.containsName new.name then registry.index
      else registry.index ++ [(new.name, slot)] }, slot)

/-- Changes the entry under a slot, if there is one. -/
def update (registry : Registry) (slot : Slot) (change : Connection → Connection) : Registry :=
  { registry with
    entries := registry.entries.map fun entry => if entry.slot = slot then change entry else entry }

/-- Gives the connection under `slot` the name of its peer, and so identifies it. The outcome is the
holder's slot if the name resolves to another one; a slot that is not registered changes nothing. -/
def rename (registry : Registry) (slot : Slot) (name : String) : Except Slot Registry :=
  match (registry.slotForName? name).filter (· ≠ slot) with
  | some holder => .error holder
  | none =>
    match registry.get? slot with
    | none => .ok registry
    | some entry =>
      let renamed := registry.update slot fun entry => { entry with name, identified := true }
      .ok { renamed with
            index := unindex (release registry.index entry.name slot) name ++ [(name, slot)] }

def touch (registry : Registry) (slot : Slot) (moment : Nat) : Registry :=
  registry.update slot fun entry => { entry with lastActivity := moment }

/-- Removes the entry under `slot`, and its name from the index if the name resolves to that slot.
-/
def remove (registry : Registry) (slot : Slot) : Registry × Option Connection :=
  match registry.get? slot with
  | none => (registry, none)
  | some entry =>
    ({ registry with
       entries := registry.entries.filter fun other => other.slot != slot
       index := release registry.index entry.name slot }, some entry)

/-- Removes the entry that `name` resolves to, if its connection is open. -/
def removeOpenNamed (registry : Registry) (isOpen : Slot → Bool) (name : String) :
    Registry × Option Connection :=
  match registry.slotForName? name with
  | none => (registry, none)
  | some slot =>
    if (registry.get? slot).isSome && isOpen slot then registry.remove slot
    else (registry, none)

/-- Removes all entries, in the order of their slots. -/
def drain (registry : Registry) : Registry × List Connection :=
  ({ registry with entries := [], index := [] }, registry.entries)

def size (registry : Registry) : Nat :=
  registry.entries.length

def identifiedCount (registry : Registry) : Nat :=
  (registry.entries.filter (·.identified)).length

end Registry

end PeerMesh
