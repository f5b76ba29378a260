import PeerMesh.Node.Connection

/-!
# How a connection is registered

A connected socket that the node admits gets the next slot, and a mark of its address goes. If there
was one, the handshake is started on the new connection.
-/

set_option autoImplicit false

namespace PeerMesh.Node

/-- The slot that the next connection gets. -/
def nextSlot (node : Node) : Slot := ⟨node.table.registry.lastSlot + 1⟩

/-- The node after it has registered a connected socket, before any handshake. -/
def admitted (node : Node) (arrived : Arrived) (moment : Nat) : Node :=
  { node with
    table :=
      { node.table with
        registry := (node.table.registry.insert
          ⟨arrived.placeholder, arrived.remote, arrived.direction, arrived.dialedAs⟩ moment).1
        inFlight := (node.table.inFlight.takePending arrived.remote).1 }
    links := node.links ++ [⟨node.nextSlot, .fresh, arrived.socket⟩]
    lastActivity := moment }

theorem registerSocket_of_open {node : Node} (admitting : node.table.closed = false)
    (arrived : Arrived) (moment : Nat) :
    node.registerSocket arrived moment = (node.admitted arrived moment,
      .ok (node.nextSlot, node.table.inFlight.hasPending arrived.remote)) := by
  unfold registerSocket
  rw [if_neg (by simp [admitting])]
  rfl

theorem registerSocket_of_closed {node : Node} (refusing : node.table.closed = true)
    (arrived : Arrived) (moment : Nat) :
    node.registerSocket arrived moment = (node.turnAway arrived, .error .shutDown) := by
  rw [registerSocket, if_pos refusing]

theorem connected_of_open {node : Node} (admitting : node.table.closed = false) (arrived : Arrived)
    (moment : Nat) :
    (node.connected arrived moment).1 =
      if node.table.inFlight.hasPending arrived.remote then
        (node.admitted arrived moment).startHandshake node.nextSlot
      else node.admitted arrived moment := by
  rw [connected, registerSocket_of_open admitting]

theorem connected_eq_ok {node : Node} (admitting : node.table.closed = false) (arrived : Arrived)
    (moment : Nat) : (node.connected arrived moment).2 = .ok node.nextSlot := by
  rw [connected, registerSocket_of_open admitting]

/-- What a node keeps that takes in a connected socket: what refusing, registering and opening the
handshake keep. -/
theorem connected_induction {node : Node} {motive : Node → Prop} {arrived : Arrived} {moment : Nat}
    (refuses : motive (node.turnAway arrived)) (registers : motive (node.admitted arrived moment))
    (starts : ∀ later slot, motive later → motive (later.startHandshake slot)) :
    motive (node.connected arrived moment).1 := by
  cases closed : node.table.closed with
  | true =>
      rw [connected, registerSocket_of_closed closed]
      exact refuses
  | false =>
      rw [connected_of_open closed]
      split
      · exact starts _ _ registers
      · exact registers

theorem connected_of_closed {node : Node} (refusing : node.table.closed = true) (arrived : Arrived)
    (moment : Nat) :
    node.connected arrived moment = (node.turnAway arrived, .error .shutDown) := by
  rw [connected, registerSocket_of_closed refusing]

end PeerMesh.Node
