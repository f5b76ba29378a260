import Mathlib.Data.List.Infix
import PeerMesh.Proofs.Crossing.Course
import PeerMesh.Proofs.Crossing.Lifetimes
import PeerMesh.Proofs.Node.Effect

/-!
# The two nodes in the mesh

The mesh holds the two nodes under their numbers. A step of one of them changes this one only, and
neither steps nor streams touch what the nodes see of their contexts and groups.
-/

set_option autoImplicit false

namespace PeerMesh.Crossing

/-- The mesh holds these two nodes, and neither refuses the name of the other. -/
structure Shows (mesh : Mesh) (ids : Party → String) (node : Party → Node) : Prop where
  entry : ∀ party : Party, ∃ entry, mesh.nodes[party.number]? = some entry ∧
    entry.node = node party ∧ (mesh.contexts[entry.context]?).isSome = true ∧
    Node.nameRefusal? (mesh.surroundings entry) (ids party.other) = none

theorem Party.number_injective {party third : Party} (same : party.number = third.number) :
    party = third := by
  cases party <;> cases third <;> first | rfl | cases same

section Views

variable {mesh after : Mesh} {ids : Party → String} {node : Party → Node}

theorem Shows.congr (shows_ : Shows mesh ids node) (nodes : after.nodes = mesh.nodes)
    (contexts : after.contexts = mesh.contexts) (groups : after.groups = mesh.groups) :
    Shows after ids node where
  entry := by
    intro party
    obtain ⟨entry, found, same, context, welcome⟩ := shows_.entry party
    refine ⟨entry, by rw [nodes, found], same, by rw [contexts, context], ?_⟩
    simp only [Mesh.surroundings, Mesh.blocklistOf, contexts, groups]
    exact welcome

theorem Shows.node?_eq (shows_ : Shows mesh ids node) (party : Party) :
    mesh.node? party.number = some (node party) := by
  obtain ⟨entry, found, same, -⟩ := shows_.entry party
  rw [Mesh.node?, found, Option.map_some, same]

theorem Shows.updateNode (shows_ : Shows mesh ids node) (party : Party) (change : Node → Node) :
    Shows (mesh.updateNode party.number change) ids
      (Function.update node party (change (node party))) where
  entry := by
    intro third
    obtain ⟨entry, found, same, context, welcome⟩ := shows_.entry third
    simp only [Mesh.updateNode, List.getElem?_modify, found, Option.map_eq_map, Option.map_some,
      Function.update_apply]
    by_cases here : third = party
    · subst here
      refine ⟨{ entry with node := change entry.node }, ?_, ?_, context, welcome⟩
      · simp
      · simp [same]
    · have apart : party.number ≠ third.number := fun sameNumber =>
        here (Party.number_injective sameNumber).symm
      refine ⟨entry, ?_, ?_, context, welcome⟩
      · simp [apart]
      · rw [if_neg here, same]

theorem Shows.updateContext (shows_ : Shows mesh ids node) (number : Nat)
    (change : Context → Context)
    (blocklist : ∀ known, mesh.contexts[number]? = some known →
      (change known.context).blocklist = known.context.blocklist) :
    Shows (mesh.updateContext number change) ids node where
  entry := by
    intro third
    obtain ⟨entry, found, same, context, welcome⟩ := shows_.entry third
    refine ⟨entry, found, same, ?_, ?_⟩
    · simp only [Mesh.updateContext, List.getElem?_modify]
      obtain ⟨known, contextFound⟩ := Option.isSome_iff_exists.mp context
      rw [contextFound]
      rfl
    · have blocked : (mesh.updateContext number change).blocklistOf entry.context =
          mesh.blocklistOf entry.context := by
        simp only [Mesh.blocklistOf, Mesh.updateContext, List.getElem?_modify]
        cases search : mesh.contexts[entry.context]? with
        | none => rfl
        | some known =>
            simp only [Option.map_eq_map, Option.map_some, Option.elim_some]
            split
            · rename_i here
              exact blocklist known (here ▸ search)
            · rfl
      simp only [Mesh.surroundings, blocked]
      exact welcome

theorem Shows.stepNode (shows_ : Shows mesh ids node) (party : Party) :
    ∃ around, Node.nameRefusal? around (ids party.other) = none ∧
      ∀ {α : Type} (step : Node → Surroundings → Node × α),
        mesh.stepNode party.number step =
          (mesh.updateNode party.number fun _ => (step (node party) around).1,
            some (step (node party) around).2) := by
  obtain ⟨entry, found, same, -, welcome⟩ := shows_.entry party
  refine ⟨mesh.surroundings entry, welcome, ?_⟩
  intro α step
  simp only [Mesh.stepNode, found, same]

theorem Shows.connectNode (shows_ : Shows mesh ids node) (party : Party)
    (admitting : (node party).table.closed = false) (remote : SocketAddress)
    (direction : Direction) (dialedAs : Option String) (socket : Endpoint) :
    ∃ sessions slot after,
      mesh.connectNode party.number remote direction dialedAs socket = (after, some (.ok slot)) ∧
      after.streams = mesh.streams ∧
      Shows after ids (Function.update node party ((node party).connected
        ⟨Context.placeholder (sessions + 1), remote, direction, dialedAs, socket⟩ mesh.moment).1) := by
  obtain ⟨entry, found, same, context, -⟩ := shows_.entry party
  obtain ⟨known, contextFound⟩ := Option.isSome_iff_exists.mp context
  have named := shows_.updateContext entry.context (fun _ => known.context.nextPlaceholder.1) ?_
  · obtain ⟨around, -, stepped⟩ := named.stepNode party
    refine ⟨known.context.sessions, (node party).nextSlot, _, ?_, ?_,
      named.updateNode party fun _ => ((node party).connected
        ⟨Context.placeholder (known.context.sessions + 1), remote, direction, dialedAs, socket⟩
        mesh.moment).1⟩
    · have ok := Node.connected_eq_ok admitting
        ⟨Context.placeholder (known.context.sessions + 1), remote, direction, dialedAs, socket⟩
        mesh.moment
      simp only [Mesh.connectNode, found, contextFound, Option.bind_some, Option.map_some,
        Context.nextPlaceholder] at stepped ⊢
      rw [stepped]
      simp only [Mesh.updateContext] at ok ⊢
      rw [ok]
    · rfl
  · intro other otherFound
    rw [contextFound] at otherFound
    cases otherFound
    rfl

/-! ## Streams -/

theorem streams_dropEndpoint (mesh : Mesh) (endpoint : Endpoint) :
    (mesh.dropEndpoint endpoint).streams = mesh.streams.modify endpoint.stream fun stream =>
      (stream.changeFlowTo endpoint.side.other .finish).changeFlowTo endpoint.side .abandon := by
  change (mesh.streams.modify endpoint.stream _).modify endpoint.stream _ = _
  rw [List.modify_modify_eq]
  rfl

theorem Shows.dropEndpoint (shows_ : Shows mesh ids node) (endpoint : Endpoint) :
    Shows (mesh.dropEndpoint endpoint) ids node :=
  shows_.congr rfl rfl rfl

theorem Shows.changeFlowTo (shows_ : Shows mesh ids node) (endpoint : Endpoint)
    (change : Flow → Flow) : Shows (mesh.changeFlowTo endpoint change) ids node :=
  shows_.congr rfl rfl rfl

end Views

end PeerMesh.Crossing
