import PeerMesh.Text.Utf8

/-!
# Byte streams between two ends

A stream joins two ends, each of which may write to the other. A flow is one direction of a stream:
the bytes written and not yet read, whether the writer has finished, and whether the reader is gone.
What was written before the end is still read; a write to a reader that is gone fails. A flow takes
any number of bytes at once: that a writer waits while its reader does not read is the writer's state.
-/

set_option autoImplicit false

namespace PeerMesh

/-- One of the two ends of a stream. -/
inductive Side where
  /-- The end that asked for the connection. -/
  | caller
  /-- The end that accepted it. -/
  | callee
  deriving DecidableEq, Repr

def Side.other : Side → Side
  | .caller => .callee
  | .callee => .caller

theorem Side.other_other (side : Side) : side.other.other = side := by
  cases side <;> rfl

theorem Side.other_ne (side : Side) : side.other ≠ side := by
  cases side <;> decide

theorem Side.eq_or_eq_other (side third : Side) : third = side ∨ third = side.other := by
  cases side <;> cases third <;> decide

structure Endpoint where
  stream : Nat
  side : Side
  deriving DecidableEq, Repr

def Endpoint.peer (endpoint : Endpoint) : Endpoint :=
  { endpoint with side := endpoint.side.other }

structure Flow where
  /-- The bytes written and not yet read. -/
  pending : Bytes
  /-- Whether the writer has finished. -/
  ended : Bool
  /-- Whether the reader is gone. -/
  abandoned : Bool
  deriving DecidableEq, Repr

namespace Flow

def fresh : Flow := ⟨[], false, false⟩

def write (flow : Flow) (bytes : Bytes) : Flow :=
  { flow with pending := flow.pending ++ bytes }

def finish (flow : Flow) : Flow :=
  { flow with ended := true }

def abandon (flow : Flow) : Flow :=
  { flow with abandoned := true }

/-- The flow after a number of bytes were read. -/
def advance (flow : Flow) (count : Nat) : Flow :=
  { flow with pending := flow.pending.drop count }

end Flow

/-- Both directions of a stream, each named for the end that reads it. -/
structure Stream where
  toCaller : Flow
  toCallee : Flow
  deriving DecidableEq, Repr

namespace Stream

def fresh : Stream := ⟨.fresh, .fresh⟩

def flowTo (stream : Stream) : Side → Flow
  | .caller => stream.toCaller
  | .callee => stream.toCallee

def changeFlowTo (stream : Stream) (side : Side) (change : Flow → Flow) : Stream :=
  match side with
  | .caller => { stream with toCaller := change stream.toCaller }
  | .callee => { stream with toCallee := change stream.toCallee }

@[simp] theorem flowTo_changeFlowTo (stream : Stream) (side : Side) (change : Flow → Flow) :
    (stream.changeFlowTo side change).flowTo side = change (stream.flowTo side) := by
  cases side <;> rfl

@[simp] theorem flowTo_changeFlowTo_other (stream : Stream) (side : Side)
    (change : Flow → Flow) :
    (stream.changeFlowTo side change).flowTo side.other = stream.flowTo side.other := by
  cases side <;> rfl

@[simp] theorem flowTo_changeFlowTo_of_other (stream : Stream) (side : Side)
    (change : Flow → Flow) :
    (stream.changeFlowTo side.other change).flowTo side = stream.flowTo side := by
  cases side <;> rfl

end Stream

end PeerMesh
