import PeerMesh.Proofs.Node.Pumps
import PeerMesh.Proofs.Node.Teardown
import PeerMesh.Proofs.Process.Events
import PeerMesh.Proofs.Process.Starting

/-!
# What a move leaves alone

A node stays on its context and in its group, and is what it was. Its connections go on being
pumped, except one that a move ends, and it goes on listening until it is told to stop. The paths
and the nodes of a context change only where a node is started or torn down, or where the context is
reset.
-/

set_option autoImplicit false

namespace PeerMesh

/-! ## One node -/

namespace Node

/-- What a node keeps up while the tasks of the slots in `ended` may end. -/
structure Upholds (ended : Slot → Prop) (earlier later : Node) : Prop where
  profile : later.profile = earlier.profile
  pumps : ∀ pump ∈ earlier.pumps, ¬ ended pump.1 → pump ∈ later.pumps
  /-- A node that is not told to stop keeps listening. -/
  listening : later.stopping = false → earlier.stopping = false ∧
    (earlier.listenersStopped = false → later.listenersStopped = false)

variable {ended : Slot → Prop} {earlier later node : Node}

theorem Upholds.refl (node : Node) : Upholds ended node node where
  profile := rfl
  pumps := fun _ member _ => member
  listening := fun unstopped => ⟨unstopped, id⟩

theorem Upholds.trans {between : Node} (first : Upholds ended earlier between)
    (second : Upholds ended between later) : Upholds ended earlier later where
  profile := second.profile.trans first.profile
  pumps := fun pump member unended => second.pumps pump (first.pumps pump member unended) unended
  listening := by
    intro unstopped
    obtain ⟨unstoppedBetween, listens⟩ := second.listening unstopped
    obtain ⟨unstoppedBefore, listensBetween⟩ := first.listening unstoppedBetween
    exact ⟨unstoppedBefore, listens ∘ listensBetween⟩

theorem Upholds.of_listeners (profile : later.profile = earlier.profile)
    (listeners : later.listeners = earlier.listeners) (stopping : later.stopping = earlier.stopping)
    (pumps : ∀ pump ∈ earlier.pumps, ¬ ended pump.1 → pump ∈ later.pumps) :
    Upholds ended earlier later where
  profile := profile
  pumps := pumps
  listening := by
    rw [stopping, listenersStopped, listenersStopped, listeners]
    exact fun unstopped => ⟨unstopped, id⟩

theorem Upholds.of_frame (frame : later.frame = earlier.frame)
    (pumps : ∀ pump ∈ earlier.pumps, ¬ ended pump.1 → pump ∈ later.pumps) :
    Upholds ended earlier later :=
  .of_listeners (congrArg (·.1) frame) (congrArg (·.2.1) frame) (congrArg (·.2.2.1) frame) pumps

theorem Upholds.of_pumps (frame : later.frame = earlier.frame)
    (pumps : later.pumps = earlier.pumps) : Upholds ended earlier later := by
  refine .of_frame frame ?_
  rw [pumps]
  exact fun _ member _ => member

/-- A node that is told to stop need not listen. -/
theorem Upholds.of_stopping (profile : later.profile = earlier.profile)
    (pumps : later.pumps = earlier.pumps) (stopping : later.stopping = true) :
    Upholds ended earlier later where
  profile := profile
  pumps := by
    rw [pumps]
    exact fun _ member _ => member
  listening := by
    rw [stopping]
    exact nofun

theorem upholds_connected (node : Node) (arrived : Arrived) (moment : Nat) :
    Upholds ended node (node.connected arrived moment).1 :=
  .of_frame (frame_connected node arrived moment) fun _ member _ =>
    mem_pumps_connected node member arrived moment

theorem upholds_linkEnded {slot : Slot} (ends : ended slot) (node : Node) :
    Upholds ended node (node.linkEnded slot) := by
  refine .of_frame (frame_linkEnded node slot) ?_
  intro pump member unended
  rw [pumps_linkEnded]
  refine List.mem_filter.mpr ⟨member, bne_iff_ne.mpr ?_⟩
  intro same
  exact unended (same ▸ ends)

theorem upholds_updateListener (node : Node) (position : Nat) {change : Listener → Listener}
    (keeps : ∀ listener, (change listener).stopped = listener.stopped) :
    Upholds ended node (node.updateListener position change) where
  profile := rfl
  pumps := fun _ member _ => member
  listening := by
    have stopped : ∀ other : Node,
        other.listenersStopped = (other.listeners.map (·.stopped)).all id := by
      intro other
      rw [listenersStopped, List.all_map]
      rfl
    intro unstopped
    refine ⟨unstopped, ?_⟩
    rw [stopped, stopped, updateListener, Mesh.stopped_modify _ position keeps]
    exact id

theorem upholds_grantPermit (node : Node) : Upholds ended node node.grantPermit where
  profile := rfl
  pumps := fun _ member _ => member
  listening := fun unstopped => ⟨(Bool.or_eq_false_iff.mp unstopped).1, id⟩

theorem upholds_finishTeardown (node : Node) : Upholds ended node node.finishTeardown := by
  have frame := frame_finishTeardown node
  refine .of_listeners (congrArg (·.1) frame) (congrArg (·.2.1) frame) (congrArg (·.2.2.1) frame)
    ?_
  rw [pumps_finishTeardown]
  exact fun _ member _ => member

theorem upholds_hearExit (node : Node) : Upholds ended node node.hearExit := by
  unfold hearExit
  split
  · split
    · exact ⟨rfl, fun _ member _ => member, fun unstopped => ⟨unstopped, id⟩⟩
    · exact .refl node
  · exact .refl node

theorem Upholds.of_heard (heard : later = node ∨ later = node.hearExit) :
    Upholds ended node later := by
  rcases heard with rfl | rfl
  · exact .refl later
  · exact upholds_hearExit node

end Node

/-! ## All nodes and contexts -/

/-- A node stays on its context and in its group. -/
structure NodeEntry.Persists (ended : Slot → Prop) (earlier later : NodeEntry) : Prop where
  context : later.context = earlier.context
  group : later.group = earlier.group
  node : earlier.node.Upholds ended later.node

theorem NodeEntry.Persists.refl {ended : Slot → Prop} (entry : NodeEntry) :
    entry.Persists ended entry :=
  ⟨rfl, rfl, .refl entry.node⟩

theorem NodeEntry.Persists.trans {ended : Slot → Prop} {earlier between later : NodeEntry}
    (first : earlier.Persists ended between) (second : between.Persists ended later) :
    earlier.Persists ended later where
  context := second.context.trans first.context
  group := second.group.trans first.group
  node := first.node.trans second.node

namespace Mesh

open Node (Upholds)

/-- What a process keeps while tasks may end under `ended`, and the directories of the contexts in
`altered` may change. -/
structure Preserves (ended : Nat → Slot → Prop) (altered : Nat → Prop) (before after : Mesh) :
    Prop where
  nodes : ∀ (number : Nat) (entry : NodeEntry), before.nodes[number]? = some entry →
    ∃ later, after.nodes[number]? = some later ∧ entry.Persists (ended number) later
  length : after.nodes.length = before.nodes.length
  groups : before.groups.length ≤ after.groups.length
  directories : ∀ number, ¬ altered number → after.directory? number = before.directory? number

variable {ended : Nat → Slot → Prop} {altered : Nat → Prop} {mesh before after : Mesh}
  {number : Nat}

theorem Preserves.origin (preserves : Preserves ended altered before after) {later : NodeEntry}
    (found : after.nodes[number]? = some later) :
    ∃ earlier, before.nodes[number]? = some earlier ∧ earlier.Persists (ended number) later := by
  obtain ⟨bound, -⟩ := List.getElem?_eq_some_iff.mp found
  rw [preserves.length] at bound
  have there := List.getElem?_eq_getElem bound
  obtain ⟨other, same, persists⟩ := preserves.nodes number _ there
  rw [found] at same
  cases same
  exact ⟨_, there, persists⟩

theorem Preserves.of_nodes (nodes : after.nodes = before.nodes)
    (groups : before.groups.length ≤ after.groups.length)
    (directories : ∀ number, ¬ altered number →
      after.directory? number = before.directory? number) :
    Preserves ended altered before after where
  nodes := by
    rw [nodes]
    exact fun _ entry found => ⟨entry, found, .refl entry⟩
  length := congrArg List.length nodes
  groups := groups
  directories := directories

theorem Preserves.of_same (nodes : after.nodes = before.nodes)
    (contexts : after.contexts = before.contexts)
    (groups : before.groups.length ≤ after.groups.length) :
    Preserves ended altered before after :=
  .of_nodes nodes groups fun number _ => directory?_of_contexts contexts number

theorem Preserves.refl (mesh : Mesh) : Preserves ended altered mesh mesh :=
  .of_same rfl rfl (Nat.le_refl _)

theorem Preserves.trans {between : Mesh} (first : Preserves ended altered before between)
    (second : Preserves ended altered between after) : Preserves ended altered before after where
  nodes := by
    intro number entry found
    obtain ⟨middle, foundBetween, persists⟩ := first.nodes number entry found
    obtain ⟨later, foundAfter, persistsStill⟩ := second.nodes number middle foundBetween
    exact ⟨later, foundAfter, persists.trans persistsStill⟩
  length := second.length.trans first.length
  groups := Nat.le_trans first.groups second.groups
  directories := fun number unaltered =>
    (second.directories number unaltered).trans (first.directories number unaltered)

theorem preserves_updateContext (mesh : Mesh) (number : Nat) {change : Context → Context}
    (keeps : ¬ altered number → ∀ context, mesh.context? number = some context →
      (change context).directory = context.directory) :
    Preserves ended altered mesh (mesh.updateContext number change) := by
  refine .of_nodes rfl (Nat.le_refl _) ?_
  intro other unaltered
  rw [directory?, directory?, context?_updateContext]
  split
  · rename_i here
    subst here
    cases known : mesh.context? other with
    | none => rfl
    | some context => exact congrArg some (keeps unaltered context known)
  · rfl

theorem preserves_updateNode (mesh : Mesh) (number : Nat) {change : Node → Node}
    (upholds : ∀ node, mesh.node? number = some node → Upholds (ended number) node (change node)) :
    Preserves ended altered mesh (mesh.updateNode number change) where
  nodes := by
    intro other entry found
    rw [updateNode, List.getElem?_modify, found, Option.map_eq_map, Option.map_some]
    refine ⟨_, rfl, ?_⟩
    by_cases here : number = other
    · subst here
      rw [if_pos rfl]
      exact ⟨rfl, rfl, upholds entry.node (node?_of_found found)⟩
    · rw [if_neg here]
      exact .refl entry
  length := List.length_modify _ _ _
  groups := Nat.le_refl _
  directories := fun _ _ => rfl

theorem preserves_stepNode {α : Type} (mesh : Mesh) (number : Nat)
    {step : Node → Surroundings → Node × α}
    (upholds : ∀ node around, Upholds (ended number) node (step node around).1) :
    Preserves ended altered mesh (mesh.stepNode number step).1 := by
  cases found : mesh.nodes[number]? with
  | none =>
      rw [stepNode, found]
      exact Preserves.refl mesh
  | some entry =>
      rw [stepNode_of_found found]
      dsimp only
      refine preserves_updateNode mesh number ?_
      intro node there
      rw [node?_of_found found] at there
      cases there
      exact upholds entry.node (mesh.surroundings entry)

/-! ## Operations -/

theorem preserves_dropPeer (mesh : Mesh) (number : Nat) (peer : String) :
    Preserves ended altered mesh (mesh.dropPeer number peer).1 :=
  preserves_stepNode mesh number fun node _ =>
    .of_pumps (congrArg Prod.fst (Node.shell_dropPeer node peer)) (Node.pumps_dropPeer node peer)

theorem preserves_dropPeerOn (mesh : Mesh) (peer : String) (numbers : List Nat) :
    Preserves ended altered mesh (mesh.dropPeerOn peer numbers).1 := by
  induction numbers generalizing mesh with
  | nil => exact Preserves.refl mesh
  | cons number rest ih => exact (preserves_dropPeer mesh number peer).trans (ih _)

theorem preserves_addToBlocklist (mesh : Mesh) (number : Nat) (peer : String) :
    Preserves ended altered mesh (mesh.addToBlocklist number peer) :=
  preserves_updateContext mesh number fun _ _ _ => rfl

theorem preserves_blockPeer (mesh : Mesh) (number : Nat) (peer : String) :
    Preserves ended altered mesh (mesh.blockPeer number peer).1 :=
  (preserves_addToBlocklist mesh number peer).trans (preserves_dropPeerOn _ peer _)

theorem preserves_ban (mesh : Mesh) (number : Nat) (host : Option String) :
    Preserves ended altered mesh (mesh.ban number host).1 := by
  cases host with
  | none => exact Preserves.refl mesh
  | some host => exact preserves_blockPeer mesh number host

theorem preserves_readMessage (mesh : Mesh) (number : Nat) (path : String)
    (options : Files.PathOptions) :
    Preserves ended altered mesh (mesh.readMessage number path options).1 := by
  unfold readMessage
  split
  · exact Preserves.refl mesh
  · rename_i served _
    cases served with
    | statsLines group => exact Preserves.refl mesh
    | statsMap realm fallback => exact Preserves.refl mesh
    | ban =>
        dsimp only [serve]
        split
        · exact preserves_ban mesh number _
        · exact Preserves.refl mesh

theorem preserves_readThrough (mesh : Mesh) (entry : NodeEntry) (path : String)
    (options : Files.PathOptions) :
    Preserves ended altered mesh (mesh.readThrough entry path options).1 := by
  have reading : ∀ files,
      Preserves ended altered mesh (mesh.readFrom entry.context path options files).1 := by
    intro files
    cases files with
    | messages => exact preserves_readMessage mesh entry.context path options
    | below => exact Preserves.refl mesh
  exact readFirst_induction (Preserves.refl mesh) reading entry.files.members

theorem preserves_connectNode (mesh : Mesh) (number : Nat) (remote : SocketAddress)
    (direction : Direction) (dialedAs : Option String) (socket : Endpoint) :
    Preserves ended altered mesh (mesh.connectNode number remote direction dialedAs socket).1 := by
  unfold connectNode
  split
  · exact Preserves.refl mesh
  · rename_i context shared found
    obtain ⟨entry, there, known⟩ := Option.bind_eq_some_iff.mp found
    obtain ⟨holder, held, same⟩ := Option.map_eq_some_iff.mp known
    cases same
    dsimp only
    have drawn : Preserves ended altered mesh
        (mesh.updateContext entry.context fun _ => holder.context.nextPlaceholder.1) := by
      refine preserves_updateContext mesh entry.context ?_
      intro _ context known
      rw [context?, held] at known
      cases known
      rfl
    have stepped := drawn.trans (preserves_stepNode _ number
      fun node _ => Node.upholds_connected node
        ⟨holder.context.nextPlaceholder.2, remote, direction, dialedAs, socket⟩ mesh.moment)
    split
    · rename_i connected slot result
      rwa [result] at stepped
    · rename_i refused error result
      rw [result] at stepped
      exact stepped.trans (.of_same rfl rfl (Nat.le_refl _))
    · rename_i unchanged result
      rwa [result] at stepped

theorem preserves_endLink (mesh : Mesh) {link : Link} (ends : ended number link.slot) :
    Preserves ended altered mesh (mesh.endLink number link) := by
  have dropped : Preserves ended altered mesh (mesh.dropEndpoint link.socket) :=
    .of_same rfl rfl (Nat.le_refl _)
  exact dropped.trans (preserves_updateNode _ number fun node _ => Node.upholds_linkEnded ends node)

theorem preserves_takeQueued (mesh : Mesh) (number : Nat) (link : Link) (handle : Handle) :
    Preserves ended altered mesh (mesh.takeQueued number link handle) :=
  preserves_updateNode mesh number fun node _ =>
    .of_pumps rfl (Node.pumps_updateHandle node link.slot _)

/-- A connection that writes goes on being pumped, unless the other end is gone. -/
theorem writeLink_cases (mesh : Mesh) (number : Nat) (link : Link) :
    mesh.writeLink number link = mesh.endLink number link ∨
      Preserves ended altered mesh (mesh.writeLink number link) := by
  unfold writeLink
  split
  · exact .inr (Preserves.refl mesh)
  · rename_i handle bytes _
    split
    · exact .inl rfl
    · exact .inr ((preserves_takeQueued mesh number link handle).trans
        (.of_same rfl rfl (Nat.le_refl _)))

theorem preserves_writeLink (mesh : Mesh) {link : Link} (ends : ended number link.slot) :
    Preserves ended altered mesh (mesh.writeLink number link) := by
  cases writeLink_cases mesh number link with
  | inl gone =>
      rw [gone]
      exact preserves_endLink mesh ends
  | inr preserves => exact preserves

theorem preserves_readLink (mesh : Mesh) (number : Nat) (link : Link) (count : Nat) :
    Preserves ended altered mesh (mesh.readLink number link count) := by
  unfold readLink
  split
  · exact Preserves.refl mesh
  · rename_i flow _
    split
    · exact Preserves.refl mesh
    · have advanced : Preserves ended altered mesh
          (mesh.changeFlowTo link.socket fun flow => flow.advance count) :=
        .of_same rfl rfl (Nat.le_refl _)
      exact advanced.trans (preserves_stepNode _ number fun node around =>
        .of_pumps (Node.frame_received node around link.slot _ _)
          (Node.pumps_received node around link.slot _ _))

theorem finishLink_cases (mesh : Mesh) (number : Nat) (link : Link) :
    mesh.finishLink number link = mesh.endLink number link ∨
      mesh.finishLink number link = mesh := by
  unfold finishLink
  split
  · split
    · exact .inl rfl
    · exact .inr rfl
  · exact .inr rfl

theorem preserves_finishLink (mesh : Mesh) {link : Link} (ends : ended number link.slot) :
    Preserves ended altered mesh (mesh.finishLink number link) := by
  cases finishLink_cases mesh number link with
  | inl gone =>
      rw [gone]
      exact preserves_endLink mesh ends
  | inr unchanged =>
      rw [unchanged]
      exact Preserves.refl mesh

theorem preserves_withoutDial (mesh : Mesh) (number dial : Nat) :
    Preserves ended altered mesh (mesh.updateNode number fun node => node.withoutDial dial) :=
  preserves_updateNode mesh number fun _ _ => .of_pumps rfl rfl

theorem preserves_failDial (mesh : Mesh) (number : Nat) (dial : Dial) (error : MeshError) :
    Preserves ended altered mesh (mesh.failDial number dial error) := by
  have failed : Preserves ended altered mesh
      (mesh.updateNode number fun node => node.dialFailed dial) :=
    preserves_updateNode mesh number fun _ _ => .of_pumps rfl rfl
  exact failed.trans (.of_same rfl rfl (Nat.le_refl _))

theorem preserves_finishDial (mesh : Mesh) (number : Nat) (dial : Dial) (socket : Endpoint) :
    Preserves ended altered mesh (mesh.finishDial number dial socket) := by
  have ended : Preserves ended altered mesh
      (mesh.updateNode number fun node => node.withoutDial dial.number) :=
    preserves_withoutDial mesh number dial.number
  have connected := ended.trans
    (preserves_connectNode _ number dial.address .outbound dial.peer socket)
  unfold finishDial
  dsimp only
  split
  · rename_i result outcome same
    rw [same] at connected
    exact connected.trans (.of_same rfl rfl (Nat.le_refl _))
  · rename_i result same
    rwa [same] at connected

theorem preserves_connectDial (mesh : Mesh) (number dial : Nat) :
    Preserves ended altered mesh (mesh.connectDial number dial).1 := by
  unfold connectDial
  split
  · exact Preserves.refl mesh
  · have opened : Preserves ended altered mesh mesh.openStream.1 := .of_same rfl rfl (Nat.le_refl _)
    exact opened.trans (preserves_finishDial _ number _ _)

theorem preserves_refuseDial (mesh : Mesh) (number dial : Nat) (error : OsError) :
    Preserves ended altered mesh (mesh.refuseDial number dial error).1 := by
  unfold refuseDial
  split
  · exact Preserves.refl mesh
  · exact preserves_failDial mesh number _ _

theorem preserves_updateListener (mesh : Mesh) (number position : Nat)
    {change : Listener → Listener} (keeps : ∀ listener, (change listener).stopped = listener.stopped) :
    Preserves ended altered mesh
      (mesh.updateNode number fun node => node.updateListener position change) :=
  preserves_updateNode mesh number fun node _ => Node.upholds_updateListener node position keeps

theorem preserves_acceptNext (mesh : Mesh) (number position : Nat) :
    Preserves ended altered mesh (mesh.acceptNext number position) := by
  unfold acceptNext
  split
  · exact Preserves.refl mesh
  · rename_i arrival _
    have taken : Preserves ended altered mesh (mesh.updateNode number fun node =>
        node.updateListener position fun listener =>
          { listener with queue := listener.queue.tail }) :=
      preserves_updateListener mesh number position fun _ => rfl
    refine taken.trans ?_
    cases arrival with
    | connection remote socket => exact preserves_connectNode _ number remote .inbound none socket
    | failure error => exact preserves_updateListener _ number position fun _ => rfl

theorem groups_dropArrivals (mesh : Mesh) (arrivals : List Arrival) :
    (mesh.dropArrivals arrivals).groups = mesh.groups := by
  unfold dropArrivals
  induction arrivals generalizing mesh with
  | nil => rfl
  | cons arrival rest ih =>
      rw [List.foldl_cons]
      cases arrival with
      | connection remote socket => exact ih (mesh.dropEndpoint socket)
      | failure error => exact ih mesh

theorem preserves_stopListener (mesh : Mesh) (number position : Nat) :
    Preserves ended altered mesh (mesh.stopListener number position) := by
  unfold stopListener
  split
  · rename_i owner listener there _
    split
    · rename_i stops
      rw [Bool.and_eq_true, Bool.and_eq_true] at stops
      obtain ⟨nodes, contexts, -⟩ := mesh.dropArrivals_spec listener.queue
      have dropped : Preserves ended altered mesh (mesh.dropArrivals listener.queue) :=
        .of_same nodes contexts (Nat.le_of_eq (by rw [groups_dropArrivals]))
      refine dropped.trans (preserves_updateNode _ number ?_)
      intro node same
      rw [node?, nodes] at same
      rw [node?, same] at there
      cases there
      exact .of_stopping rfl rfl stops.1.1
    · exact Preserves.refl mesh
  · exact Preserves.refl mesh

theorem preserves_pauseEnded (mesh : Mesh) (number position : Nat) :
    Preserves ended altered mesh (mesh.step (.pauseEnded number position)) := by
  simp only [step]
  split
  · have woken : Preserves ended altered mesh (mesh.updateNode number fun node =>
        node.updateListener position fun listener => { listener with pausedUntil := none }) :=
      preserves_updateListener mesh number position fun _ => rfl
    exact woken.trans (preserves_stopListener _ number position)
  · exact Preserves.refl mesh

theorem preserves_reportClosers (mesh : Mesh) (number : Nat) :
    Preserves ended altered mesh (mesh.reportClosers number) := by
  unfold reportClosers
  split
  · exact Preserves.refl mesh
  · exact .of_same rfl rfl (Nat.le_refl _)

theorem preserves_grantPermit (mesh : Mesh) (number : Nat) :
    Preserves ended altered mesh (mesh.grantPermit number) := by
  have granted : Preserves ended altered mesh
      (mesh.updateNode number fun node => node.grantPermit) :=
    preserves_updateNode mesh number fun node _ => Node.upholds_grantPermit node
  exact granted.trans (preserves_reportClosers _ number)

theorem preserves_finishTeardown (mesh : Mesh) (number : Nat)
    (alters : ∀ entry, mesh.nodes[number]? = some entry → entry.node.canFinishTeardown = true →
      altered entry.context) : Preserves ended altered mesh (mesh.finishTeardown number) := by
  unfold finishTeardown
  split
  · exact Preserves.refl mesh
  · rename_i entry found
    split
    · rename_i ready
      have finished : Preserves ended altered mesh
          (mesh.updateNode number fun node => node.finishTeardown) :=
        preserves_updateNode mesh number fun node _ => Node.upholds_finishTeardown node
      have left : Preserves ended altered (mesh.updateNode number fun node => node.finishTeardown)
          ((mesh.updateNode number fun node => node.finishTeardown).deregister number entry) := by
        unfold deregister
        exact preserves_updateContext _ entry.context fun unaltered =>
          absurd (alters entry found ready) unaltered
      exact (finished.trans left).trans (preserves_reportClosers _ number)
    · exact Preserves.refl mesh

theorem preserves_answerTask (mesh : Mesh) (task : Nat) (answer : Answer) :
    Preserves ended altered mesh (mesh.answerTask task answer) :=
  .of_same rfl rfl (Nat.le_refl _)

theorem preserves_refreshDue (mesh : Mesh) (task : Nat) :
    Preserves ended altered mesh (mesh.refreshDue task) := by
  unfold refreshDue
  split
  · split
    · exact Preserves.refl mesh
    · split
      · exact Preserves.refl mesh
      · split
        · exact preserves_answerTask mesh task _
        · exact .of_same rfl rfl (Nat.le_of_eq (List.length_modify _ _ _).symm)
  · exact Preserves.refl mesh

theorem preserves_closedNoticed (mesh : Mesh) (task : Nat) :
    Preserves ended altered mesh (mesh.closedNoticed task) := by
  unfold closedNoticed
  split
  · split
    · exact preserves_answerTask mesh task _
    · exact Preserves.refl mesh
  · exact Preserves.refl mesh

/-! ## Moves -/

/-- The move may end the task of the connection under a slot of a node. -/
def Move.MayEnd (move : Move) (number : Nat) (slot : Slot) : Prop :=
  move = .proceeds (.linkClosed number slot) ∨ move = .proceeds (.linkWrote number slot) ∨
    move = .proceeds (.linkFinished number slot)

/-- The move, which is no start, may change the directory of a context. -/
inductive Alters (mesh : Mesh) : Move → Nat → Prop where
  | adds {base : String} {catalog : Option Catalog} {permanent : Bool} :
      Alters mesh (.addsContext base catalog permanent) mesh.contexts.length
  | resets {context : Nat} {catalog : Option Catalog} :
      Alters mesh (.resets context catalog) context
  | closes {number : Nat} {entry : NodeEntry} (found : mesh.nodes[number]? = some entry)
      (ready : entry.node.canFinishTeardown = true) :
      Alters mesh (.proceeds (.teardownFinished number)) entry.context

theorem preserves_linkEvent {slot : Slot} {act : Link → Mesh}
    (preserves : ∀ link, link.slot = slot → Preserves ended altered mesh (act link)) :
    Preserves ended altered mesh ((mesh.link? number slot).elim mesh act) := by
  cases linked : mesh.link? number slot with
  | none => exact Preserves.refl mesh
  | some link => exact preserves link (slot_of_link? linked)

theorem preserves_step (mesh : Mesh) (event : Event) :
    Preserves (Move.proceeds event).MayEnd (mesh.Alters (.proceeds event)) mesh
      (mesh.step event) := by
  cases event with
  | dialTimedOut number dial =>
      simp only [step]
      split
      · split
        · exact preserves_failDial mesh number _ _
        · exact Preserves.refl mesh
      · exact Preserves.refl mesh
  | pauseEnded number position => exact preserves_pauseEnded mesh number position
  | refreshed task => exact preserves_refreshDue mesh task
  | linkClosed number slot =>
      simp only [step]
      split
      · rename_i link linked
        split
        · refine preserves_endLink mesh ?_
          rw [slot_of_link? linked]
          exact .inl rfl
        · exact Preserves.refl mesh
      · exact Preserves.refl mesh
  | linkWrote number slot =>
      refine preserves_linkEvent fun link same => preserves_writeLink mesh ?_
      rw [same]
      exact .inr (.inl rfl)
  | linkRead number slot count =>
      exact preserves_linkEvent fun link _ => preserves_readLink mesh number link count
  | linkFinished number slot =>
      refine preserves_linkEvent fun link same => preserves_finishLink mesh ?_
      rw [same]
      exact .inr (.inr rfl)
  | accepted number position =>
      exact (preserves_acceptNext mesh number position).trans
        (preserves_stopListener _ number position)
  | listenerStopped number position => exact preserves_stopListener mesh number position
  | permitGranted number => exact preserves_grantPermit mesh number
  | teardownFinished number =>
      exact preserves_finishTeardown mesh number fun _ found ready => .closes found ready
  | closedNoticed task => exact preserves_closedNoticed mesh task
  | interrupted number =>
      simp only [step]
      split
      · exact preserves_updateNode mesh number fun node _ => .of_heard node.interrupt_cases
      · exact Preserves.refl mesh

theorem preserves_requestPeering (mesh : Mesh) (number : Nat) (peer : Option String)
    (address : SocketAddress) :
    Preserves ended altered mesh (mesh.requestPeering number peer address).1 :=
  preserves_stepNode mesh number fun node around =>
    .of_pumps (congrArg Prod.fst (Node.shell_requestPeering node around peer address _ _))
      (Node.pumps_requestPeering node around peer address _ _)

theorem preserves_connectPeer (mesh : Mesh) (number : Nat) (address : SocketAddress) :
    Preserves ended altered mesh (mesh.connectPeer number address).1 := by
  have asked : Preserves ended altered mesh (mesh.requestPeering number none address).1 :=
    preserves_requestPeering mesh number none address
  unfold connectPeer
  split
  · exact Preserves.refl mesh
  · rename_i after dial result
    rw [result] at asked
    exact asked.trans (.of_same rfl rfl (Nat.le_refl _))
  · rename_i after reason result
    rw [result] at asked
    exact asked.trans (.of_same rfl rfl (Nat.le_refl _))

theorem preserves_performCall (mesh : Mesh) (number : Nat) (call : NodeCall) :
    Preserves ended altered mesh (mesh.performCall number call) := by
  cases call with
  | requests peer address => exact preserves_requestPeering mesh number peer address
  | connects address => exact preserves_connectPeer mesh number address
  | identifies slot name =>
      exact preserves_stepNode mesh number fun node around =>
        .of_pumps (congrArg Prod.fst (Node.shell_identify node around slot name))
          (Node.pumps_identify node around slot name)
  | sends slot bytes =>
      exact preserves_stepNode mesh number fun node _ =>
        .of_pumps (Node.frame_send node slot bytes) (Node.pumps_send node slot bytes)
  | closesHandle slot =>
      simp only [performCall]
      refine preserves_updateNode mesh number ?_
      intro node _
      exact .of_pumps rfl (Node.pumps_closeHandle node slot)
  | drops peer => exact preserves_dropPeer mesh number peer
  | reads path options =>
      simp only [performCall]
      cases mesh.nodes[number]? with
      | none => exact Preserves.refl mesh
      | some entry => exact preserves_readThrough mesh entry path options
  | firesExit => exact preserves_stepNode mesh number fun node _ => .of_heard node.fireExit_cases
  | closes =>
      have waiting : Preserves ended altered mesh (mesh.addTask (.close number) none).1 :=
        .of_same rfl rfl (Nat.le_refl _)
      simp only [performCall, close]
      refine waiting.trans (preserves_updateNode _ number ?_)
      intro node _
      exact .of_listeners rfl rfl rfl fun _ member _ => member
  | awaitsDial | refreshesEvery | waitsClosed => exact .of_same rfl rfl (Nat.le_refl _)

theorem preserves_letGoNode (mesh : Mesh) (number : Nat) :
    Preserves ended altered mesh (mesh.letGoNode number) where
  nodes := by
    intro other entry found
    rw [letGoNode, List.getElem?_modify, found, Option.map_eq_map, Option.map_some]
    refine ⟨_, rfl, ?_⟩
    split
    · exact ⟨rfl, rfl, .refl entry.node⟩
    · exact .refl entry
  length := List.length_modify _ _ _
  groups := Nat.le_refl _
  directories := fun _ _ => rfl

/-- What any move but a start leaves alone. -/
theorem preserves_perform (mesh : Mesh) {move : Move} (other : ∀ request, move ≠ .starts request) :
    Preserves move.MayEnd (mesh.Alters move) mesh (mesh.perform move) := by
  cases move with
  | addsContext base catalog permanent =>
      refine .of_nodes rfl (Nat.le_refl _) ?_
      intro number unaltered
      simp only [perform]
      rw [directory?, directory?, context?_addContext, if_neg]
      intro new
      exact unaltered (new ▸ .adds)
  | installsCatalog number catalog =>
      simp only [perform]
      refine preserves_updateContext mesh number ?_
      intro _ context _
      rfl
  | resets number catalog =>
      simp only [perform]
      refine preserves_updateContext mesh number ?_
      intro unaltered
      exact absurd .resets unaltered
  | starts request => exact absurd rfl (other request)
  | letsGoNode number => exact preserves_letGoNode mesh number
  | letsGoContext number =>
      refine .of_nodes rfl (Nat.le_refl _) ?_
      intro other _
      simp only [perform]
      rw [directory?, directory?, context?_letGoContext]
  | lists number peer => exact preserves_addToBlocklist mesh number peer
  | blocks number peer => exact preserves_blockPeer mesh number peer
  | drops number peer => exact preserves_dropPeerOn mesh peer _
  | bans number host => exact preserves_ban mesh number host
  | reads number path options => exact preserves_readMessage mesh number path options
  | calls number call =>
      simp only [perform]
      split
      · exact preserves_performCall mesh number call
      · exact Preserves.refl mesh
  | connectsDial number dial => exact preserves_connectDial mesh number dial
  | refusesDial number dial error => exact preserves_refuseDial mesh number dial error
  | arrives number position arrival =>
      simp only [perform]
      split
      · exact preserves_updateListener mesh number position fun _ => rfl
      · exact Preserves.refl mesh
  | proceeds event => exact preserves_step mesh event
  | addsGroup =>
      refine .of_same rfl rfl ?_
      simp only [perform, addGroup, List.length_append]
      exact Nat.le_add_right _ _
  | letsGoGroup | refreshesStats | updatesStats =>
      exact .of_same rfl rfl (Nat.le_of_eq (List.length_modify _ _ _).symm)
  | opensStream | carries | forbids | passes => exact .of_same rfl rfl (Nat.le_refl _)

theorem Launched.persists {request : StartRequest} {profile : Profile}
    (launched : before.Launched request profile after) {entry : NodeEntry}
    (found : before.nodes[number]? = some entry) : after.nodes[number]? = some entry := by
  obtain ⟨files, nodes⟩ := launched.nodes
  obtain ⟨bound, -⟩ := List.getElem?_eq_some_iff.mp found
  rw [nodes, List.getElem?_append_left bound, found]

/-- What a move does: it launches a node, or leaves alone what is not its own. -/
inductive Moved (before : Mesh) (move : Move) (after : Mesh) : Prop where
  | launched {request : StartRequest} {profile : Profile} {context : Context}
      (starts : move = .starts request) (known : before.context? request.context = some context)
      (listens : profile.localAddresses ≠ []) (launched : before.Launched request profile after)
  | preserved (preserves : Preserves move.MayEnd (before.Alters move) before after)

theorem moved_perform (mesh : Mesh) (move : Move) : mesh.Moved move (mesh.perform move) := by
  by_cases starts : ∃ request, move = .starts request
  · obtain ⟨request, same⟩ := starts
    subst same
    simp only [perform]
    have outcome := outcome_start mesh request
    generalize mesh.start request = result at outcome
    cases outcome with
    | failed error nodes groups directories =>
        exact .preserved (.of_nodes nodes (Nat.le_of_eq (congrArg List.length groups.symm))
          fun number _ => directories number)
    | started profile context known listens launched =>
        exact .launched rfl known listens launched
  · rw [not_exists] at starts
    exact .preserved (preserves_perform mesh starts)

/-- A node is there for good. -/
theorem persists_perform (mesh : Mesh) (move : Move) {entry : NodeEntry}
    (found : mesh.nodes[number]? = some entry) :
    ∃ later, (mesh.perform move).nodes[number]? = some later ∧
      entry.Persists (move.MayEnd number) later := by
  cases moved_perform mesh move with
  | launched starts known listens launched => exact ⟨entry, launched.persists found, .refl entry⟩
  | preserved preserves => exact preserves.nodes number entry found

theorem groups_perform (mesh : Mesh) (move : Move) :
    mesh.groups.length ≤ (mesh.perform move).groups.length := by
  cases moved_perform mesh move with
  | launched starts known listens launched => exact launched.groups
  | preserved preserves => exact preserves.groups

end Mesh

end PeerMesh
