import PeerMesh.Mesh.Calls
import PeerMesh.Mesh.Start
import PeerMesh.Proofs.Crossing.Sockets
import PeerMesh.Proofs.Hello.Line

/-!
# The course of two nodes that dial each other

Two nodes of a process, and all that can happen between them, as moves that come in any order. A
dial of one of them is joined to the other by a socket; from then on the dial may connect, or be
given up, and the socket may arrive at a listener of the other node, be accepted there, and carry
bytes. Nothing of this waits for anything else than what has to be there for it.
-/

set_option autoImplicit false

namespace PeerMesh.Crossing

def Party.number : Party → Nat
  | .left => 0
  | .right => 1

/-- A socket between the two nodes. -/
structure Opening where
  dialer : Party
  /-- The number of the dial that the socket was opened for. -/
  dial : Nat
  /-- The listener of the other node at which the socket has arrived. -/
  listener : Option Nat
  connected : Bool
  deriving DecidableEq, Repr

/-- The process, and the sockets between the two nodes in the order in which they were opened. The
stream of a socket is the one with its number. -/
structure State where
  mesh : Mesh
  openings : List Opening

inductive Move where
  | requests (party : Party) (peer : Option String) (address : SocketAddress)
  /-- The network joins a dial to the other node. -/
  | opens (party : Party) (dial : Nat)
  | connects (socket : Nat)
  /-- A dial fails, whether or not a socket was opened for it. -/
  | fails (party : Party) (dial : Nat) (error : MeshError)
  | arrives (socket listener : Nat) (remote : SocketAddress)
  | accepts (party : Party) (listener : Nat)
  | writes (party : Party) (slot : Slot)
  /-- Some of the bytes that have arrived are read. -/
  | reads (party : Party) (slot : Slot) (count : Nat)
  /-- A connection that was closed ends. -/
  | closes (party : Party) (slot : Slot)
  /-- A connection finds that the other end has finished. -/
  | finishes (party : Party) (slot : Slot)
  | waits (milliseconds moments : Nat)

def remote? : Arrival → Option SocketAddress
  | .connection remote _ => some remote
  | .failure _ => none

namespace State

/-- The socket that was opened for a dial. -/
def socketOf? (state : State) (party : Party) (dial : Nat) : Option Nat :=
  state.openings.findIdx? fun opening => opening.dialer == party && opening.dial == dial

def withMesh (state : State) (mesh : Mesh) : State :=
  { state with mesh }

/-- The state after a move. A move that cannot happen leaves the state as it is. -/
def step (state : State) : Move → State
  | .requests party peer address =>
    state.withMesh (state.mesh.requestPeering party.number peer address).1
  | .opens party dial =>
    if (state.mesh.dial? party.number dial).isSome && (state.socketOf? party dial).isNone then
      ⟨state.mesh.openStream.1, state.openings ++ [⟨party, dial, none, false⟩]⟩
    else state
  | .connects socket =>
    match state.openings[socket]? with
    | none => state
    | some opening =>
      match state.mesh.dial? opening.dialer.number opening.dial with
      | none => state
      | some dial =>
        ⟨state.mesh.finishDial opening.dialer.number dial ⟨socket, .caller⟩,
          state.openings.set socket { opening with connected := true }⟩
  | .fails party number error =>
    match state.mesh.dial? party.number number with
    | none => state
    | some dial =>
      match state.socketOf? party number with
      | none => state.withMesh (state.mesh.failDial party.number dial error)
      | some socket =>
        state.withMesh
          ((state.mesh.dropEndpoint ⟨socket, .caller⟩).failDial party.number dial error)
  | .arrives socket listener remote =>
    match state.openings[socket]? with
    | none => state
    | some opening =>
      if opening.listener.isNone && state.mesh.listens opening.dialer.other.number listener then
        ⟨state.mesh.arrive opening.dialer.other.number listener
            (.connection remote ⟨socket, .callee⟩),
          state.openings.set socket { opening with listener := some listener }⟩
      else state
  | .accepts party listener => state.withMesh (state.mesh.step (.accepted party.number listener))
  | .writes party slot => state.withMesh (state.mesh.step (.linkWrote party.number slot))
  | .reads party slot count => state.withMesh (state.mesh.step (.linkRead party.number slot count))
  | .closes party slot => state.withMesh (state.mesh.step (.linkClosed party.number slot))
  | .finishes party slot => state.withMesh (state.mesh.step (.linkFinished party.number slot))
  | .waits milliseconds moments =>
    state.withMesh
      { state.mesh.advance milliseconds with moment := state.mesh.moment + moments }

def run (state : State) (moves : List Move) : State :=
  moves.foldl step state

/-- No connection is accepted from an address that the accepting node dials. -/
def Permits (state : State) : Move → Prop
  | .accepts party listener =>
    ∀ node ∈ state.mesh.node? party.number, ∀ found ∈ node.listeners[listener]?,
      ∀ arrival ∈ found.queue.head?, ∀ dial ∈ node.dials, remote? arrival ≠ some dial.address
  | _ => True

/-- Every move is permitted in the state in which it happens. -/
def Permitted : State → List Move → Prop
  | _, [] => True
  | state, move :: rest => state.Permits move ∧ (state.step move).Permitted rest

/-- Nothing is left to happen: no dial is under way, every socket has arrived, and no listener and
no connection has anything to do. -/
structure Quiet (state : State) : Prop where
  arrived : ∀ opening ∈ state.openings, opening.listener.isSome = true
  still : ∀ (party : Party) (node : Node), state.mesh.node? party.number = some node →
    node.dials = [] ∧ Mesh.listenerEvents (party.number, node) = [] ∧
      state.mesh.linkEvents (party.number, node) = []

def SomeConnected (state : State) : Prop :=
  ∃ opening ∈ state.openings, opening.connected = true

instance (state : State) : DecidablePred state.Permits
  | .accepts party listener =>
    inferInstanceAs (Decidable (∀ node ∈ state.mesh.node? party.number,
      ∀ found ∈ node.listeners[listener]?, ∀ arrival ∈ found.queue.head?, ∀ dial ∈ node.dials,
        remote? arrival ≠ some dial.address))
  | .requests .. | .opens .. | .connects .. | .fails .. | .arrives .. | .writes .. | .reads ..
  | .closes .. | .finishes .. | .waits .. => isTrue trivial

instance decidablePermitted : (state : State) → DecidablePred state.Permitted
  | _, [] => isTrue trivial
  | state, move :: rest =>
    have := decidablePermitted (state.step move) rest
    inferInstanceAs (Decidable (state.Permits move ∧ (state.step move).Permitted rest))

instance (state : State) : Decidable state.Quiet :=
  decidable_of_iff
    ((∀ opening ∈ state.openings, opening.listener.isSome = true) ∧
      ∀ party ∈ [Party.left, .right], ∀ node ∈ state.mesh.node? party.number,
        node.dials = [] ∧ Mesh.listenerEvents (party.number, node) = [] ∧
          state.mesh.linkEvents (party.number, node) = [])
    ⟨fun quiet => ⟨quiet.1, fun party => quiet.2 party (by cases party <;> simp)⟩,
      fun quiet => ⟨quiet.arrived, fun party _ => quiet.still party⟩⟩

instance (state : State) : Decidable state.SomeConnected :=
  inferInstanceAs (Decidable (∃ opening ∈ state.openings, opening.connected = true))

@[simp] theorem run_nil (state : State) : state.run [] = state := rfl

@[simp] theorem run_cons (state : State) (move : Move) (rest : List Move) :
    state.run (move :: rest) = (state.step move).run rest := rfl

end State

/-! ## The beginning -/

/-- A node has just been started under the identifier `id`, with the hello exchange, by a context that
does not block `peer` and in a group that `peer` does not belong to. -/
structure Started (mesh : Mesh) (number : Nat) (id peer : String) (entry : NodeEntry) : Prop where
  found : mesh.nodes[number]? = some entry
  fresh : ∃ profile request moment, profile.id = id ∧ request.hello = true ∧
    entry.node = Mesh.freshNode profile request moment
  context : (mesh.contexts[entry.context]?).isSome = true
  unblocked : (mesh.surroundings entry).blocks peer = false
  foreign : (mesh.surroundings entry).isMember peer = false

/-- An identifier of a node that the hello exchange can carry: it has the form that every node's
identifier has, is not surrounded by blanks, has no line feed, is no placeholder, and its line fits
the limit. -/
structure Presentable (id : String) : Prop where
  formed : ∃ base port interface, id = Mesh.nodeId base port interface
  trimmed : Text.trim id.toList = id.toList
  oneLine : '\n' ∉ id.toList
  unplaced : ∀ session, id ≠ Context.placeholder session
  fits : (Hello.line id).length ≤ Hello.lineLimit

/-- Two nodes with different identifiers have just been started, and no socket was opened. -/
structure State.Ready (state : State) (ids : Party → String) : Prop where
  presentable : ∀ party, Presentable (ids party)
  different : ids .left ≠ ids .right
  started : ∀ party : Party, ∃ entry,
    Started state.mesh party.number (ids party) (ids party.other) entry
  unopened : state.openings = []
  unstreamed : state.mesh.streams = []

theorem Presentable.sayable {id : String} (presentable : Presentable id) : Hello.Sayable id where
  filled := by
    obtain ⟨base, port, interface, rfl⟩ := presentable.formed
    simp [Mesh.nodeId]
  trimmed := presentable.trimmed
  oneLine := presentable.oneLine
  fits := presentable.fits

end PeerMesh.Crossing
