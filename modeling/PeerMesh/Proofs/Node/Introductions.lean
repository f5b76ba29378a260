import PeerMesh.Proofs.Hello.Identifiers
import PeerMesh.Proofs.Node.Turns

/-!
# Being known by one's own identifier

A node with the hello exchange identifies a connection by what the first line of the other side gives.
If that is the line of a node, as the first bytes of the connection and in one piece, the connection
is identified under the identifier of that node, provided that it gets through.
-/

set_option autoImplicit false

namespace PeerMesh.Node

variable {node : Node} {slot : Slot}

/-- Before any other bytes, a line asks for what is read off it. -/
theorem greeting?_line (greets : node.hello.isSome = true)
    (unheard : (node.progress slot).heard = false) (empty : (node.progress slot).buffer = [])
    (identifier : String) :
    (node.greeting? slot (Hello.line identifier)).map (·.1) = Hello.heardAs? identifier := by
  obtain ⟨hello, exchange⟩ := Option.isSome_iff_exists.mp greets
  simp only [progress, exchange, Option.elim_some] at unheard empty
  have fresh : hello.progress slot = ⟨false, (hello.progress slot).initiated, []⟩ := by
    rw [← unheard, ← empty]
  have read := Hello.receive_line fresh identifier
  rw [greeting?, exchange, Option.bind_some, read]
  cases Hello.heardAs? identifier <;> rfl

namespace Situation

/-- As long as no bytes have come in on a connection, its exchange has not heard any. -/
theorem unheard_run {start : Situation} (initial : start.Initial) {acts : List Act}
    (silent : ∀ around bytes moment, .receives around slot bytes moment ∉ acts) :
    ((start.run acts).node.progress slot).heard = false ∧
      ((start.run acts).node.progress slot).buffer = [] := by
  induction acts using List.reverseRecOn with
  | nil =>
      obtain ⟨profile, request, moment, fresh⟩ := initial
      rw [run_nil, progress, fresh, Mesh.freshNode]
      cases request.hello <;> exact ⟨rfl, rfl⟩
  | append_singleton past act ih =>
      obtain ⟨unheard, empty⟩ := ih fun around bytes moment member =>
        silent around bytes moment (List.mem_append_left _ member)
      have turn := turn_step (sound_run initial past) (threaded_run initial past) act slot
      rw [run_append]
      change (((start.run past).step act).node.progress slot).heard = false ∧
        (((start.run past).step act).node.progress slot).buffer = []
      generalize ((start.run past).step act).node = after at turn
      cases turn with
      | elsewhere undisturbed =>
          rw [undisturbed.progress]
          exact ⟨unheard, empty⟩
      | opened _ _ _ opens =>
          rw [opens.progress]
          exact ⟨unheard, empty⟩
      | heard => exact absurd (List.mem_append_right _ List.mem_cons_self) (silent _ _ _)
      | sent linked progress | wrote linked progress =>
          rw [progress]
          exact ⟨unheard, empty⟩
      | ended linked unlinked progress =>
          rw [progress]
          exact ⟨rfl, rfl⟩

/-- The line of a node, as the first bytes of a connection and in one piece, asks for what is read
off it; and that is the node's own identifier exactly if the parts of the identifier are legible. -/
theorem known_by_own_id_iff_legible {start : Situation} (initial : start.Initial)
    (greets : start.node.hello.isSome = true) {acts : List Act} {slot : Slot}
    (silent : ∀ around bytes moment, .receives around slot bytes moment ∉ acts) (base : String)
    (port : UInt16) (interface : Option String) :
    let identifier := Mesh.nodeId base port interface
    let asked := ((start.run acts).node.greeting? slot (Hello.line identifier)).map (·.1)
    asked = Hello.heardAs? identifier ∧ (asked = some identifier ↔ Hello.Legible base interface) := by
  intro identifier asked
  have still : (start.run acts).node.hello.isSome = true := by
    refine run_induction (fun reached => reached.node.hello.isSome = true) ?_ greets acts
    intro reached act holds
    rw [isSome_hello_step, holds]
  obtain ⟨unheard, empty⟩ := unheard_run initial silent
  have read : asked = Hello.heardAs? identifier := greeting?_line still unheard empty identifier
  rw [read]
  exact ⟨rfl, Hello.heardAs?_nodeId_iff base port interface⟩

/-- A line feed in the base breaks off the line, and a blank in front of it is taken off. -/
theorem not_known_by_own_id_brokenBase :
    let accepted := [Act.accepts (.v4 ⟨192, 0, 2, 1⟩ 5000) ⟨0, .callee⟩ 1]
    let node := ((lone 40000).listening.run accepted).node
    let asked := fun base =>
      (node.greeting? ⟨1⟩ (Hello.line (Mesh.nodeId base 40000 none))).map (·.1)
    (lone 40000).listening.Initial ∧ (lone 40000).listening.node.hello.isSome = true ∧
      (∀ around bytes moment, .receives around ⟨1⟩ bytes moment ∉ accepted) ∧
      asked "al\npha" = some "al" ∧ asked "al\npha" ≠ some (Mesh.nodeId "al\npha" 40000 none) ∧
      asked " alpha" ≠ some (Mesh.nodeId " alpha" 40000 none) := by
  intro accepted node asked
  have silent : ∀ around bytes moment, .receives around ⟨1⟩ bytes moment ∉ accepted := by
    intro around bytes moment
    simp [accepted]
  have known := fun base => known_by_own_id_iff_legible (initial_listening 40000) rfl silent base
    40000 none
  refine ⟨initial_listening 40000, rfl, silent, (known "al\npha").1.trans (by decide), ?_, ?_⟩
  · intro whole
    have legible := (known "al\npha").2.mp whole
    exact legible.baseOneLine (by decide)
  · intro whole
    have legible := (known " alpha").2.mp whole
    have shown := legible.baseShown ' ' (by decide)
    revert shown
    decide

end Situation

end PeerMesh.Node
