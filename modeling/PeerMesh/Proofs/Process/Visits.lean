import PeerMesh.Proofs.Node.Admission
import PeerMesh.Proofs.Process.Snapshot
import PeerMesh.Proofs.Process.Teardown

/-!
# Visits without end

A node that listens takes whatever connects to it: every visit leaves it with one connection more,
and as ready for the next as before. So the members of a group may have any number of connections.
-/

set_option autoImplicit false

namespace PeerMesh.Mesh

/-- A node that lets connections in at its first listener. -/
structure Welcomes (mesh : Mesh) (number : Nat) (entry : NodeEntry) : Prop where
  found : mesh.nodes[number]? = some entry
  placed : (mesh.contexts[entry.context]?).isSome = true
  listens : ∃ address rest, entry.node.listeners = .fresh address :: rest
  working : entry.node.stopping = false
  admitting : entry.node.table.closed = false

/-- A peer connects to a node over a stream, and is accepted. -/
def visit (number : Nat) (remote : SocketAddress) (stream : Nat) : List Move :=
  [.opensStream, .arrives number 0 (.connection remote ⟨stream, .callee⟩),
    .proceeds (.accepted number 0)]

variable {mesh : Mesh} {number : Nat} {entry : NodeEntry}

theorem stopListener_of_working
    (working : ∀ owner, mesh.node? number = some owner → owner.stopping = false)
    (position : Nat) : mesh.stopListener number position = mesh := by
  unfold stopListener
  split
  · rename_i owner listener there _
    rw [working owner there]
    rfl
  · rfl

theorem updateNode_updateNode (mesh : Mesh) (number : Nat) (first second : Node → Node) :
    (mesh.updateNode number first).updateNode number second =
      mesh.updateNode number (second ∘ first) := by
  simp only [updateNode, List.modify_modify_eq]
  rfl

/-- What arrives is taken at once. -/
theorem acceptNext_arrives (welcomes : mesh.Welcomes number entry) (remote : SocketAddress)
    (socket : Endpoint) :
    (mesh.perform (.arrives number 0 (.connection remote socket))).acceptNext number 0 =
      (mesh.connectNode number remote .inbound none socket).1 := by
  obtain ⟨address, rest, listeners⟩ := welcomes.listens
  have there := node?_of_found welcomes.found
  have listening : mesh.listens number 0 = true := by
    rw [Mesh.listens, listener?, there, Option.bind_some, listeners]
    rfl
  let queues (node : Node) : Node := node.updateListener 0 fun listener =>
    { listener with queue := listener.queue ++ [.connection remote socket] }
  let takes (node : Node) : Node := node.updateListener 0 fun listener =>
    { listener with queue := listener.queue.tail }
  have arrived : mesh.perform (.arrives number 0 (.connection remote socket)) =
      mesh.updateNode number queues := if_pos listening
  have first : (mesh.updateNode number queues).listener? number 0 =
      some { Listener.fresh address with queue := [.connection remote socket] } := by
    rw [listener?, node?_updateNode there, Option.bind_some]
    simp [queues, Node.updateListener, listeners, Listener.fresh]
  -- the queue was empty, and is again
  have taken : (mesh.updateNode number queues).updateNode number takes = mesh := by
    rw [updateNode_updateNode]
    apply updateNode_of_fixed there
    simp only [queues, takes, Node.updateListener, listeners, Function.comp_apply,
      List.modify_zero_cons]
    exact congrArg (fun listeners => { entry.node with listeners }) listeners.symm
  rw [arrived, acceptNext, first]
  change (((mesh.updateNode number queues).updateNode number takes).connectNode number remote
    .inbound none socket).1 = _
  rw [taken]

theorem connectNode_of_welcomes (welcomes : mesh.Welcomes number entry) (remote : SocketAddress)
    (socket : Endpoint) : ∃ context placeholder,
    (mesh.connectNode number remote .inbound none socket).1 =
      (mesh.updateContext entry.context fun _ => context).updateNode number fun _ =>
        (entry.node.connected ⟨placeholder, remote, .inbound, none, socket⟩ mesh.moment).1 := by
  obtain ⟨place, known⟩ := Option.isSome_iff_exists.mp welcomes.placed
  let context := { place.context with sessions := place.context.sessions + 1 }
  let placeholder := Context.placeholder (place.context.sessions + 1)
  refine ⟨context, placeholder, ?_⟩
  have found : (mesh.updateContext entry.context fun _ => context).nodes[number]? = some entry :=
    welcomes.found
  have slot : (entry.node.connected ⟨placeholder, remote, .inbound, none, socket⟩ mesh.moment).2 =
      .ok entry.node.nextSlot := Node.connected_eq_ok welcomes.admitting _ _
  simp only [connectNode, welcomes.found, Option.bind_some, known, Option.map_some,
    Context.nextPlaceholder, stepNode_of_found found, slot, context, placeholder]

theorem Welcomes.openStream (welcomes : mesh.Welcomes number entry) :
    mesh.openStream.1.Welcomes number entry :=
  ⟨welcomes.found, welcomes.placed, welcomes.listens, welcomes.working, welcomes.admitting⟩

/-- A visit is a connection that the node registers. -/
theorem course_visit (welcomes : mesh.Welcomes number entry) (remote : SocketAddress)
    (stream : Nat) : ∃ context placeholder,
    mesh.course (visit number remote stream) =
      (mesh.openStream.1.updateContext entry.context fun _ => context).updateNode number fun _ =>
        (entry.node.connected ⟨placeholder, remote, .inbound, none, ⟨stream, .callee⟩⟩
          mesh.moment).1 := by
  have opened := welcomes.openStream
  obtain ⟨context, placeholder, connects⟩ :=
    connectNode_of_welcomes opened remote ⟨stream, .callee⟩
  refine ⟨context, placeholder, ?_⟩
  change ((mesh.openStream.1.perform _).acceptNext number 0).stopListener number 0 = _
  rw [acceptNext_arrives opened, connects, stopListener_of_working]
  · rfl
  · intro owner there
    have found : (mesh.openStream.1.updateContext entry.context fun _ => context).nodes[number]? =
        some entry := welcomes.found
    rw [node?_updateNode (node?_of_found found)] at there
    cases there
    exact (congrArg (·.2.2.1) (Node.frame_connected _ _ _)).trans welcomes.working

/-- What has changed when a node has accepted a connection: the node, and the number of placeholders
that its context has given out. -/
structure Visited (before after : Mesh) (number : Nat) (later : NodeEntry) : Prop where
  nodes : after.nodes = before.nodes.set number later
  places : ∀ position : Nat,
    (after.contexts[position]?).isSome = (before.contexts[position]?).isSome
  groups : after.groups = before.groups

theorem Welcomes.of_visited {after : Mesh} {later : NodeEntry} {other : Nat}
    (welcomes : mesh.Welcomes number entry) (visited : mesh.Visited after other later)
    (different : other ≠ number) : after.Welcomes number entry where
  found := by
    rw [visited.nodes, List.getElem?_set_ne different]
    exact welcomes.found
  placed := by
    rw [visited.places]
    exact welcomes.placed
  listens := welcomes.listens
  working := welcomes.working
  admitting := welcomes.admitting

/-- After a visit a node has one connection more, and lets connections in as before. -/
theorem Welcomes.visit (welcomes : mesh.Welcomes number entry) (remote : SocketAddress)
    (stream : Nat) : ∃ later,
    (mesh.course (visit number remote stream)).Welcomes number later ∧
      later.node.connectionCount = entry.node.connectionCount + 1 ∧
      mesh.Visited (mesh.course (Mesh.visit number remote stream)) number later := by
  obtain ⟨context, placeholder, course⟩ := course_visit welcomes remote stream
  let arrived : Node.Arrived := ⟨placeholder, remote, .inbound, none, ⟨stream, .callee⟩⟩
  let later : NodeEntry := { entry with node := (entry.node.connected arrived mesh.moment).1 }
  have frame := Node.frame_connected entry.node arrived mesh.moment
  have books := Node.ledger_connected_of_open welcomes.admitting arrived mesh.moment
  have visited : mesh.Visited (mesh.course (Mesh.visit number remote stream)) number later := by
    rw [course]
    constructor
    case nodes =>
      have found : (mesh.openStream.1.updateContext entry.context fun _ => context).nodes[number]? =
          some entry := welcomes.found
      exact nodes_updateNode found fun _ => later.node
    case places =>
      intro position
      simp only [updateNode, updateContext, List.getElem?_modify, Option.map_eq_map,
        Option.isSome_map]
      rfl
    case groups => rfl
  refine ⟨later, ?_, ?_, visited⟩
  · constructor
    case found =>
      obtain ⟨bound, -⟩ := List.getElem?_eq_some_iff.mp welcomes.found
      rw [visited.nodes]
      exact List.getElem?_set_self bound
    case placed =>
      rw [visited.places]
      exact welcomes.placed
    case listens =>
      have same : later.node.listeners = entry.node.listeners := congrArg (·.2.1) frame
      rw [same]
      exact welcomes.listens
    case working => exact (congrArg (·.2.2.1) frame).trans welcomes.working
    case admitting => exact (congrArg Node.Ledger.closed books).trans welcomes.admitting
  · have registered := congrArg (fun ledger => ledger.registry.entries.length) books
    exact registered.trans List.length_append

/-! ## Two members without bound -/

/-- The address of a visitor, another one for each number up to a limit. -/
def visitor (count : Nat) : SocketAddress :=
  .v4 ⟨10, (count >>> 32).toUInt8, (count >>> 24).toUInt8, (count >>> 16).toUInt8⟩ count.toUInt16

/-- Two nodes are visited `size` times each, over streams of their own. -/
def visits : Nat → List Move
  | 0 => []
  | size + 1 => visits size ++ (visit 0 (visitor (2 * size)) (2 * size) ++
      visit 1 (visitor (2 * size + 1)) (2 * size + 1))

/-- Two nodes are started in one group. -/
def twoMembers : List Move :=
  [.addsContext "m" (some .empty) false, .addsGroup,
    .starts ⟨.withPort 5000, 0, some 0, false, false⟩,
    .starts ⟨.withPort 5001, 0, some 0, false, false⟩]

/-- The two members of a group have `size` connections each. -/
structure Crowded (mesh : Mesh) (size : Nat) (first second : NodeEntry) : Prop where
  welcomesFirst : mesh.Welcomes 0 first
  welcomesSecond : mesh.Welcomes 1 second
  firstCount : first.node.connectionCount = size
  secondCount : second.node.connectionCount = size
  members : (mesh.groups[0]?).map (fun entry => entry.group.members.map (·.node)) = some [0, 1]

theorem crowded_twoMembers :
    ∃ first second, ((initial [] "/" .empty).course twoMembers).Crowded 0 first second := by
  have nodes : ((initial [] "/" .empty).course twoMembers).nodes.map (fun entry =>
      (entry.context, entry.node.listeners, entry.node.stopping, entry.node.table.closed,
        entry.node.connectionCount)) =
      [(0, [.fresh (.v4 .wildcard 5000)], false, false, 0),
        (0, [.fresh (.v4 .wildcard 5001)], false, false, 0)] := by
    decide +kernel
  have placed : (((initial [] "/" .empty).course twoMembers).contexts[0]?).isSome = true := by
    decide +kernel
  have members : (((initial [] "/" .empty).course twoMembers).groups[0]?).map
      (fun entry => entry.group.members.map (·.node)) = some [0, 1] := by
    decide +kernel
  generalize (initial [] "/" .empty).course twoMembers = mesh at nodes placed members
  obtain ⟨first, rest, both, firstFacts, restFacts⟩ := List.map_eq_cons_iff.mp nodes
  obtain ⟨second, none, one, secondFacts, -⟩ := List.map_eq_cons_iff.mp restFacts
  simp only [Prod.mk.injEq] at firstFacts secondFacts
  obtain ⟨firstPlace, firstListens, firstWorks, firstAdmits, firstCount⟩ := firstFacts
  obtain ⟨secondPlace, secondListens, secondWorks, secondAdmits, secondCount⟩ := secondFacts
  have firstFound : mesh.nodes[0]? = some first := by rw [both]; rfl
  have secondFound : mesh.nodes[1]? = some second := by rw [both, one]; rfl
  refine ⟨first, second, ?_, ?_, firstCount, secondCount, members⟩
  · exact ⟨firstFound, firstPlace ▸ placed, ⟨_, [], firstListens⟩, firstWorks, firstAdmits⟩
  · exact ⟨secondFound, secondPlace ▸ placed, ⟨_, [], secondListens⟩, secondWorks, secondAdmits⟩

theorem crowded_visits (size : Nat) : ∃ first second,
    ((initial [] "/" .empty).course (twoMembers ++ visits size)).Crowded size first second := by
  induction size with
  | zero => exact crowded_twoMembers
  | succ size ih =>
      obtain ⟨first, second, crowded⟩ := ih
      rw [visits, ← List.append_assoc, course_append, course_append]
      generalize (initial [] "/" .empty).course (twoMembers ++ visits size) = mesh at crowded
      obtain ⟨firstLater, welcomesFirst, firstCount, firstVisited⟩ :=
        crowded.welcomesFirst.visit (visitor (2 * size)) (2 * size)
      have waiting := crowded.welcomesSecond.of_visited firstVisited (by decide)
      obtain ⟨secondLater, welcomesSecond, secondCount, secondVisited⟩ :=
        waiting.visit (visitor (2 * size + 1)) (2 * size + 1)
      refine ⟨firstLater, secondLater, ?_⟩
      constructor
      case welcomesFirst => exact welcomesFirst.of_visited secondVisited (by decide)
      case welcomesSecond => exact welcomesSecond
      case firstCount => rw [firstCount, crowded.firstCount]
      case secondCount => rw [secondCount, crowded.secondCount]
      case members =>
        rw [secondVisited.groups, firstVisited.groups]
        exact crowded.members

theorem Welcomes.nodeAlive (welcomes : mesh.Welcomes number entry) :
    mesh.nodeAlive number = true := by
  obtain ⟨address, rest, listeners⟩ := welcomes.listens
  have first : entry.node.listeners[0]? = some (.fresh address) := by
    rw [listeners, List.getElem?_cons_zero]
  exact nodeAlive_of_serving welcomes.found (isServing_of_listener first rfl)

theorem Crowded.livingMembers {size : Nat} {first second : NodeEntry}
    (crowded : mesh.Crowded size first second) : mesh.livingMembers 0 = [0, 1] := by
  obtain ⟨holder, found, members⟩ := Option.map_eq_some_iff.mp crowded.members
  rw [Mesh.livingMembers, found, Option.elim_some, members]
  simp [crowded.welcomesFirst.nodeAlive, crowded.welcomesSecond.nodeAlive]

theorem Crowded.memberTotal {size : Nat} {first second : NodeEntry}
    (crowded : mesh.Crowded size first second) (figure : Node → Nat) :
    mesh.memberTotal 0 figure = figure first.node + figure second.node := by
  have entries : mesh.livingEntries 0 = [first, second] := by
    simp [livingEntries, crowded.livingMembers, crowded.welcomesFirst.found,
      crowded.welcomesSecond.found]
  simp [Mesh.memberTotal, entries]

end PeerMesh.Mesh
