import PeerMesh.Shutdown

/-!
# Teardowns under script

A script starts callers of one coordinator. The teardown of a caller waits at a gate until the
script opens it, or finds the gate open. After each step everything goes as far as it can.
-/

set_option autoImplicit false

namespace PeerMesh.Scenario

/-- A coordinator, and the callers whose gates are open. -/
structure Closers where
  coordinator : Shutdown.Coordinator String
  openGates : List String
  deriving DecidableEq, Repr

/-- A step of a script. Callers are given by name. -/
inductive CloserStep where
  | call (caller : String) (gated : Bool)
  | release (caller : String)
  | abort (caller : String)
  deriving DecidableEq, Repr

namespace Closers

def initial : Closers := ⟨.initial, []⟩

def knows (state : Closers) (caller : String) : Bool :=
  state.coordinator.callers.any fun known => known.name == caller

/-- The effect of a step, before the callers get to run. -/
def act (state : Closers) : CloserStep → Closers
  | .call caller gated =>
    ⟨state.coordinator.call caller,
      if gated then state.openGates else state.openGates ++ [caller]⟩
  | .release caller =>
    if state.knows caller then { state with openGates := state.openGates ++ [caller] } else state
  | .abort caller => { state with coordinator := state.coordinator.abort caller }

/-- Lets the caller that runs the teardown finish, if its gate is open, and passes the permit on. -/
def proceed (state : Closers) : Closers :=
  let passed := state.coordinator.grant
  if passed.running?.any (· ∈ state.openGates) then { state with coordinator := passed.finish }
  else { state with coordinator := passed }

/-- Lets the callers run as far as they can. -/
def settle (state : Closers) : Closers :=
  Nat.repeat proceed (state.coordinator.callers.length + 1) state

def step (state : Closers) (next : CloserStep) : Closers :=
  (state.act next).settle

end Closers

end PeerMesh.Scenario
