import PeerMesh.Node.Connection

/-!
# Bytes that ask for a name

Received bytes are noted, and go through the hello exchange. There it ends, unless they complete a
greeting. Then the connection is identified under the name of the greeting, once for the greeting;
and if it gets the name and this node has not spoken first, the greeting is answered.
-/

set_option autoImplicit false

namespace PeerMesh.Node

/-- The name that received bytes ask for, and whether this node spoke first on the connection. -/
def greeting? (node : Node) (slot : Slot) (bytes : Bytes) : Option (String × Bool) :=
  node.hello.bind fun hello =>
    match (hello.receive slot bytes).2 with
    | .greeted name initiated => some (name, initiated)
    | _ => none

/-- The node after it has noted that bytes came in and its hello exchange has taken them. -/
def listened (node : Node) (slot : Slot) (bytes : Bytes) (moment : Nat) : Node :=
  { node.withRegistry (node.table.registry.touch slot moment) with
    hello := node.hello.map fun hello => (hello.receive slot bytes).1 }

variable {node : Node} {slot : Slot} {bytes : Bytes}

theorem greeting?_eq_some_iff {name : String} {initiated : Bool} :
    node.greeting? slot bytes = some (name, initiated) ↔
      ∃ hello, node.hello = some hello ∧
        (hello.receive slot bytes).2 = .greeted name initiated := by
  unfold greeting?
  cases node.hello with
  | none => simp
  | some hello => cases reception : (hello.receive slot bytes).2 <;> simp [reception]

theorem received_of_silent (silent : node.greeting? slot bytes = none) (around : Surroundings)
    (moment : Nat) :
    node.received around slot bytes moment = node.listened slot bytes moment := by
  cases exchange : node.hello with
  | none => simp only [received, listened, withRegistry, exchange, Option.map_none]
  | some hello =>
      simp only [received, listened, withRegistry, exchange, Option.map_some]
      split
      · rename_i name initiated reception
        rw [greeting?_eq_some_iff.mpr ⟨hello, exchange, reception⟩] at silent
        cases silent
      · rfl

theorem received_of_greeted {name : String} {initiated : Bool}
    (greeted : node.greeting? slot bytes = some (name, initiated)) (around : Surroundings)
    (moment : Nat) :
    node.received around slot bytes moment =
      match (node.listened slot bytes moment).identify around slot name with
      | (identified, .ok ()) => identified.answerHello slot initiated
      | (refused, .error _) => refused := by
  obtain ⟨hello, exchange, reception⟩ := greeting?_eq_some_iff.mp greeted
  rcases outcome : (node.listened slot bytes moment).identify around slot name with ⟨later, _ | _⟩
  all_goals
    simp only [listened, withRegistry, exchange, Option.map_some] at outcome
    simp only [received, withRegistry, exchange, reception, outcome]

/-- What bytes leave as it is: what listening, a name and an answer leave as it is. -/
theorem received_induction {motive : Node → Prop} {around : Surroundings} {moment : Nat}
    (listens : motive (node.listened slot bytes moment))
    (identifies : ∀ name initiated, node.greeting? slot bytes = some (name, initiated) →
      motive ((node.listened slot bytes moment).identify around slot name).1)
    (answers : ∀ identified initiated, motive identified →
      motive (identified.answerHello slot initiated)) :
    motive (node.received around slot bytes moment) := by
  cases greeted : node.greeting? slot bytes with
  | none =>
      rw [received_of_silent greeted]
      exact listens
  | some greeting =>
      obtain ⟨name, initiated⟩ := greeting
      have identified := identifies name initiated greeted
      rw [received_of_greeted greeted]
      split
      · rename_i result outcome
        rw [outcome] at identified
        exact answers result initiated identified
      · rename_i result error outcome
        rw [outcome] at identified
        exact identified

end PeerMesh.Node
