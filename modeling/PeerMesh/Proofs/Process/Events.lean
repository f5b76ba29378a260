import PeerMesh.Proofs.Process.Operations

/-!
# Events and moves as changes

What a process does by itself is a sequence of changes too: a dial that connects is one act of its
node, an accepted socket one more after its listener has taken it, and what happens to streams or to
the answers of calls changes no node. So every move is a sequence of changes, and a process that
began empty stays orderly.
-/

set_option autoImplicit false

namespace PeerMesh.Mesh

open Node (Act Situation)

variable {mesh before after : Mesh} {kept starting : Nat → Prop}

/-! ## What serves a node -/

theorem isServing_of_link? {node : Node} {slot : Slot} {link : Link}
    (found : node.link? slot = some link) : isServing node = true := by
  have linked : node.links.isEmpty = false :=
    List.isEmpty_eq_false_iff_exists_mem.mpr ⟨link, List.mem_of_find?_eq_some found⟩
  simp [isServing, linked]

theorem isServing_of_dial? {node : Node} {number : Nat} {dial : Dial}
    (found : node.dial? number = some dial) : isServing node = true := by
  have dialing : node.dials.isEmpty = false :=
    List.isEmpty_eq_false_iff_exists_mem.mpr ⟨dial, List.mem_of_find?_eq_some found⟩
  simp [isServing, dialing]

theorem isServing_of_listener {node : Node} {position : Nat} {listener : Listener}
    (found : node.listeners[position]? = some listener) (listening : listener.stopped = false) :
    isServing node = true := by
  have some : (node.listeners.any fun listener => !listener.stopped) = true :=
    List.any_eq_true.mpr ⟨listener, List.mem_of_getElem? found, by rw [listening]; rfl⟩
  simp [isServing, some]

theorem found_of_node? {number : Nat} {node : Node} (found : mesh.node? number = some node) :
    ∃ entry, mesh.nodes[number]? = some entry ∧ entry.node = node := by
  rw [node?] at found
  exact Option.map_eq_some_iff.mp found

theorem node?_of_found {number : Nat} {entry : NodeEntry}
    (found : mesh.nodes[number]? = some entry) : mesh.node? number = some entry.node := by
  rw [node?, found, Option.map_some]

/-- A change that leaves the node as it is leaves the process as it is. -/
theorem updateNode_of_fixed {number : Nat} {owner : Node} (there : mesh.node? number = some owner)
    {change : Node → Node} (fixed : change owner = owner) :
    mesh.updateNode number change = mesh := by
  obtain ⟨entry, found, rfl⟩ := found_of_node? there
  obtain ⟨bound, same⟩ := List.getElem?_eq_some_iff.mp found
  have unchanged : (mesh.updateNode number change).nodes = mesh.nodes := by
    rw [nodes_updateNode found, fixed, ← same]
    exact List.set_getElem_self bound
  calc
    _ = { mesh with nodes := (mesh.updateNode number change).nodes } := rfl
    _ = mesh := by rw [unchanged]

theorem nodeAlive_of_node? {number : Nat} {node : Node} (found : mesh.node? number = some node)
    (serving : isServing node = true) : mesh.nodeAlive number = true := by
  obtain ⟨entry, there, rfl⟩ := found_of_node? found
  exact nodeAlive_of_serving there serving

theorem nodeAlive_of_eq (nodes : after.nodes = before.nodes) (tasks : after.tasks = before.tasks)
    (number : Nat) : after.nodeAlive number = before.nodeAlive number := by
  simp only [nodeAlive, isCalled, nodes, tasks]

theorem nodeAlive_updateNode (mesh : Mesh) (number : Nat) {change : Node → Node}
    (serves : ∀ node, isServing (change node) = isServing node) (other : Nat) :
    (mesh.updateNode number change).nodeAlive other = mesh.nodeAlive other := by
  simp only [nodeAlive, updateNode, List.getElem?_modify]
  cases mesh.nodes[other]? with
  | none => rfl
  | some entry =>
      simp only [Option.map_eq_map, Option.map_some, Option.any_some]
      split
      · rw [serves]
        rfl
      · rfl

theorem dial?_self {number dial : Nat} {found : Dial}
    (under : mesh.dial? number dial = some found) :
    mesh.dial? number found.number = some found := by
  obtain ⟨node, -, search⟩ := Option.bind_eq_some_iff.mp under
  have same : found.number = dial := by simpa using List.find?_some search
  rw [same]
  exact under

theorem slot_of_link? {number : Nat} {slot : Slot} {found : Link}
    (linked : mesh.link? number slot = some found) : found.slot = slot := by
  obtain ⟨node, -, search⟩ := Option.bind_eq_some_iff.mp linked
  simpa using List.find?_some search

theorem link?_self {number : Nat} {slot : Slot} {found : Link}
    (linked : mesh.link? number slot = some found) :
    mesh.link? number found.slot = some found := by
  rw [slot_of_link? linked]
  exact linked

/-! ## Streams and calls -/

theorem changes_dropEndpoint (endpoint : Endpoint) :
    Changes kept starting mesh (mesh.dropEndpoint endpoint) :=
  changes_outside rfl rfl rfl

theorem dropArrivals_spec (mesh : Mesh) (arrivals : List Arrival) :
    (mesh.dropArrivals arrivals).nodes = mesh.nodes ∧
      (mesh.dropArrivals arrivals).contexts = mesh.contexts ∧
      (mesh.dropArrivals arrivals).tasks = mesh.tasks := by
  unfold dropArrivals
  induction arrivals generalizing mesh with
  | nil => exact ⟨rfl, rfl, rfl⟩
  | cons arrival rest ih =>
      rw [List.foldl_cons]
      cases arrival with
      | connection remote socket => exact ih (mesh.dropEndpoint socket)
      | failure error => exact ih mesh

theorem changes_tasks {change : Nat → Task → Task} (nodes : after.nodes = mesh.nodes)
    (contexts : after.contexts = mesh.contexts)
    (tasks : ∀ number, after.tasks[number]? = (mesh.tasks[number]?).map (change number))
    (told : ∀ number task, mesh.tasks[number]? = some task →
      Told mesh number task (change number task)) : Changes kept starting mesh after := by
  refine changes_aside nodes contexts ⟨?_, ?_⟩
  · intro number task found
    refine ⟨change number task, ?_, told number task found⟩
    rw [tasks, found, Option.map_some]
  · intro number task absent found
    rw [tasks, absent] at found
    cases found

theorem changes_reportClosers (number : Nat) :
    Changes kept starting mesh (mesh.reportClosers number) := by
  unfold reportClosers
  split
  · exact Changes.refl mesh
  · rename_i owner found
    refine changes_tasks rfl rfl (fun position => List.getElem?_mapIdx) ?_
    intro position task _
    split
    · rename_i asking
      obtain ⟨call, answer⟩ := task
      rw [Bool.and_eq_true, Option.isNone_iff_eq_none, beq_iff_eq] at asking
      obtain ⟨rfl, rfl⟩ := asking
      cases answer : owner.closers.callers.findSome? _ with
      | none => exact .kept _
      | some reported =>
          obtain ⟨⟨asker, status⟩, member, answered⟩ := List.exists_of_findSome?_eq_some answer
          dsimp only at answered
          split at answered
          · rename_i application performed
            split at answered
            · rename_i here
              cases answered
              subst here
              exact .answered found member
            · cases answered
          · cases answered
    · exact .kept task

theorem changes_answerTask {number : Nat} {task : Task} {answer : Answer}
    (found : mesh.tasks[number]? = some task)
    (told : Told mesh number task { task with answer := some answer }) :
    Changes kept starting mesh (mesh.answerTask number answer) := by
  refine changes_tasks rfl rfl (fun _ => List.getElem?_modify _ _ _ _) ?_
  intro other earlier there
  split
  · rename_i here
    subst here
    rw [found] at there
    cases there
    exact told
  · exact .kept earlier

theorem changes_refreshDue (task : Nat) : Changes kept starting mesh (mesh.refreshDue task) := by
  unfold refreshDue
  split
  · rename_i number period next asked
    split
    · exact Changes.refl mesh
    · split
      · exact Changes.refl mesh
      · split
        · exact changes_answerTask asked .refreshEnded
        · refine changes_tasks rfl rfl (fun _ => List.getElem?_modify _ _ _ _) ?_
          intro other earlier there
          split
          · rename_i here
            subst here
            rw [asked] at there
            cases there
            exact .refreshed _
          · exact .kept earlier
  · exact Changes.refl mesh

theorem changes_closedNoticed (task : Nat) : Changes kept starting mesh (mesh.closedNoticed task) := by
  unfold closedNoticed
  split
  · rename_i number asked
    split
    · exact changes_answerTask asked .noticed
    · exact Changes.refl mesh
  · exact Changes.refl mesh

/-! ## Connections -/

/-- What registering a socket makes of the nodes and of the context. -/
theorem connectNode_spec {number : Nat} {entry : NodeEntry} {context : Context}
    (found : mesh.nodes[number]? = some entry)
    (known : mesh.context? entry.context = some context) (remote : SocketAddress)
    (direction : Direction) (dialedAs : Option String) (socket : Endpoint) :
    let result := (mesh.connectNode number remote direction dialedAs socket).1
    result.nodes = mesh.nodes.set number
        { entry with
          node := (entry.node.connected
            ⟨Context.placeholder (context.sessions + 1), remote, direction, dialedAs, socket⟩
            mesh.moment).1 } ∧
      (∀ other, result.context? other =
        if other = entry.context then some { context with sessions := context.sessions + 1 }
        else mesh.context? other) ∧
      result.tasks = mesh.tasks ∧
      (mesh.connectNode number remote direction dialedAs socket).2 =
        some (entry.node.connected
          ⟨Context.placeholder (context.sessions + 1), remote, direction, dialedAs, socket⟩
          mesh.moment).2 := by
  obtain ⟨holder, there, rfl⟩ := Option.map_eq_some_iff.mp known
  let drawn := mesh.updateContext entry.context fun _ =>
    { holder.context with sessions := holder.context.sessions + 1 }
  have contexts := context?_updateContext mesh entry.context fun _ =>
    { holder.context with sessions := holder.context.sessions + 1 }
  rw [known, Option.map_some] at contexts
  have inDrawn : drawn.nodes[number]? = some entry := found
  have stepped := stepNode_of_found inDrawn fun node _ => node.connected
    ⟨Context.placeholder (holder.context.sessions + 1), remote, direction, dialedAs, socket⟩
    mesh.moment
  have nodes := nodes_updateNode inDrawn fun _ => (entry.node.connected
    ⟨Context.placeholder (holder.context.sessions + 1), remote, direction, dialedAs, socket⟩
    mesh.moment).1
  simp only [connectNode, found, Option.bind_some, there, Option.map_some, Context.nextPlaceholder]
  split
  · rename_i connected slot result
    rw [stepped] at result
    obtain rfl := congrArg Prod.fst result
    exact ⟨nodes, contexts, rfl, (congrArg Prod.snd result).symm⟩
  · rename_i refused error result
    rw [stepped] at result
    obtain rfl := congrArg Prod.fst result
    exact ⟨nodes, contexts, rfl, (congrArg Prod.snd result).symm⟩
  · rename_i unchanged result
    rw [stepped] at result
    cases result

theorem changes_connectNode (orderly : mesh.Orderly) (number : Nat) (remote : SocketAddress)
    (socket : Endpoint) (alive : mesh.nodeAlive number = true) :
    Changes kept starting mesh (mesh.connectNode number remote .inbound none socket).1 := by
  cases found : mesh.nodes[number]? with
  | none =>
      simp only [connectNode, found, Option.bind_none]
      exact Changes.refl mesh
  | some entry =>
      obtain ⟨context, known, -⟩ := orderly.followed number entry found
      obtain ⟨nodes, contexts, tasks, -⟩ :=
        connectNode_spec found known remote .inbound none socket
      refine Change.single (.acts number entry context (.accepts remote socket mesh.moment) found
        known ?_ (fun _ => alive) nofun nodes contexts (.silent rfl tasks ⟨nofun, nofun⟩))
      rintro around ⟨⟩

theorem changes_endLink (orderly : mesh.Orderly) {number : Nat} {link : Link}
    (linked : mesh.link? number link.slot = some link) :
    Changes kept starting mesh (mesh.endLink number link) := by
  obtain ⟨node, there, found⟩ := Option.bind_eq_some_iff.mp linked
  have dropped : Changes kept starting mesh (mesh.dropEndpoint link.socket) := changes_dropEndpoint _
  refine dropped.trans (changes_updateNode (dropped.orderly orderly) number (.linkEnds link.slot)
    ⟨rfl, nofun, nofun, nofun⟩ ?_ ?_ ?_)
  · rintro _ _ around ⟨⟩
  · intro entry same sessions
    change mesh.nodes[number]? = some entry at same
    rw [node?, same] at there
    cases there
    simp only [Situation.step, found, Option.isSome_some, if_true]
  · intro _ _ _
    exact nodeAlive_of_node? there (isServing_of_link? found)

/-- The link found under a slot is the only one there. -/
theorem updateHandle_of_link? {node : Node} (threaded : node.Threaded) {link : Link}
    (found : node.link? link.slot = some link) (change : Handle → Handle) :
    (node.updateHandle link.slot fun _ => change link.handle) =
      node.updateHandle link.slot change := by
  have only : ∀ other ∈ node.links, other.slot = link.slot → other = link := by
    intro other member same
    exact List.inj_on_of_nodup_map threaded.distinct member (List.mem_of_find?_eq_some found) same
  have links : (node.links.map fun other =>
        if other.slot = link.slot then { other with handle := change link.handle } else other) =
      node.links.map fun other =>
        if other.slot = link.slot then { other with handle := change other.handle } else other := by
    refine List.map_congr_left ?_
    intro other member
    split
    · rename_i here
      rw [only other member here]
    · rfl
  rw [Node.updateHandle, Node.updateHandle, links]

theorem changes_takeQueued (orderly : mesh.Orderly) {number : Nat} {link : Link}
    (linked : mesh.link? number link.slot = some link) {handle : Handle} {taken : Option Bytes}
    (received : link.handle.receive = (handle, taken)) :
    Changes kept starting mesh (mesh.takeQueued number link handle) := by
  obtain ⟨node, there, found⟩ := Option.bind_eq_some_iff.mp linked
  refine changes_updateNode orderly number (.writes link.slot) ⟨rfl, nofun, nofun, nofun⟩ ?_ ?_ ?_
  · rintro _ _ around ⟨⟩
  · intro entry same sessions
    obtain ⟨context, -, reached⟩ := orderly.followed number entry same
    rw [node?, same] at there
    cases there
    have written := updateHandle_of_link? reached.threaded found fun handle => handle.receive.1
    rw [received] at written
    simp only [Situation.step, ← written]
  · intro _ _ _
    exact nodeAlive_of_node? there (isServing_of_link? found)

theorem changes_writeLink (orderly : mesh.Orderly) {number : Nat} {link : Link}
    (linked : mesh.link? number link.slot = some link) :
    Changes kept starting mesh (mesh.writeLink number link) := by
  unfold writeLink
  split
  · exact Changes.refl mesh
  · rename_i handle bytes received
    split
    · exact changes_endLink orderly linked
    · exact (changes_takeQueued orderly linked received).trans (changes_outside rfl rfl rfl)

theorem changes_readLink (orderly : mesh.Orderly) {number : Nat} {link : Link}
    (linked : mesh.link? number link.slot = some link) (count : Nat) :
    Changes kept starting mesh (mesh.readLink number link count) := by
  obtain ⟨node, there, found⟩ := Option.bind_eq_some_iff.mp linked
  unfold readLink
  split
  · exact Changes.refl mesh
  · rename_i flow _
    split
    · exact Changes.refl mesh
    · have advanced : Changes kept starting mesh
          (mesh.changeFlowTo link.socket fun flow => flow.advance count) :=
        changes_outside rfl rfl rfl
      refine advanced.trans (changes_stepNode (advanced.orderly orderly) number
        (fun around => .receives around link.slot (flow.pending.take count) mesh.moment)
        (fun _ => ⟨rfl, nofun, nofun, nofun⟩) ?_ ?_ ?_)
      · rintro around seen ⟨⟩
        rfl
      · intro entry same sessions
        change mesh.nodes[number]? = some entry at same
        rw [node?, same] at there
        cases there
        simp only [Situation.step, found, Option.isSome_some, if_true]
      · intro _ _ _
        exact nodeAlive_of_node? there (isServing_of_link? found)

theorem changes_finishLink (orderly : mesh.Orderly) {number : Nat} {link : Link}
    (linked : mesh.link? number link.slot = some link) :
    Changes kept starting mesh (mesh.finishLink number link) := by
  unfold finishLink
  split
  · split
    · exact changes_endLink orderly linked
    · exact Changes.refl mesh
  · exact Changes.refl mesh

/-! ## Dials -/

theorem changes_failDial (orderly : mesh.Orderly) {number : Nat} {owner : Node} {dial : Dial}
    (there : mesh.node? number = some owner) (found : owner.dial? dial.number = some dial)
    {error : MeshError} (own : DialError owner dial error) :
    Changes kept starting mesh (mesh.failDial number dial error) := by
  have alive := nodeAlive_of_node? there (isServing_of_dial? found)
  obtain ⟨entry, same, rfl⟩ := found_of_node? there
  obtain ⟨context, known, -⟩ := orderly.followed number entry same
  have step : Situation.step ⟨entry.node, context.sessions⟩ (.dialFails dial.number) =
      ⟨entry.node.dialFailed dial, context.sessions⟩ := by
    simp only [Situation.step, found]
  refine Change.single (.acts number entry context (.dialFails dial.number) same known ?_
    (fun _ => alive) ?_ ?_ ?_ (.failed found own rfl))
  · rintro around ⟨⟩
  · rintro position change ⟨⟩
  · rw [step]
    exact nodes_updateNode same fun node => node.dialFailed dial
  · intro other
    rw [step]
    split
    · rename_i here
      rw [here]
      exact known
    · rfl

theorem finishDial_of_outcome {number : Nat} {dial : Dial} {socket : Endpoint}
    {outcome : Except MeshError Slot}
    (known : ((mesh.updateNode number fun node => node.withoutDial dial.number).connectNode number
      dial.address .outbound dial.peer socket).2 = some outcome) :
    mesh.finishDial number dial socket =
      ((mesh.updateNode number fun node => node.withoutDial dial.number).connectNode number
        dial.address .outbound dial.peer socket).1.reportDial number dial.number outcome := by
  simp only [finishDial]
  split
  · rename_i connected reported result
    rw [result] at known ⊢
    cases known
    rfl
  · rename_i unchanged result
    rw [result] at known
    cases known

theorem changes_finishDial (orderly : mesh.Orderly) {number : Nat} {dial : Dial}
    (under : mesh.dial? number dial.number = some dial) (socket : Endpoint) :
    Changes kept starting mesh (mesh.finishDial number dial socket) := by
  obtain ⟨node, there, dialed⟩ := Option.bind_eq_some_iff.mp under
  obtain ⟨entry, found, rfl⟩ := found_of_node? there
  obtain ⟨context, known, -⟩ := orderly.followed number entry found
  let ended := mesh.updateNode number fun node => node.withoutDial dial.number
  have endedNodes : ended.nodes = mesh.nodes.set number
      { entry with node := entry.node.withoutDial dial.number } := nodes_updateNode found _
  have foundEnded : ended.nodes[number]? =
      some { entry with node := entry.node.withoutDial dial.number } := by
    obtain ⟨bound, -⟩ := List.getElem?_eq_some_iff.mp found
    rw [endedNodes, List.getElem?_set_self bound]
  obtain ⟨nodes, contexts, tasks, outcome⟩ :=
    connectNode_spec foundEnded known dial.address .outbound dial.peer socket
  rw [endedNodes, List.set_set] at nodes
  have refused : entry.node.table.closed = true → ((entry.node.withoutDial dial.number).connected
      ⟨Context.placeholder (context.sessions + 1), dial.address, .outbound, dial.peer, socket⟩
      mesh.moment).2 = .error .shutDown := by
    intro closed
    rw [Node.connected_of_closed (by exact closed)]
  rw [finishDial_of_outcome outcome]
  refine Change.single (.acts number entry context (.dialConnects dial.number socket mesh.moment)
    found known ?_ ?_ ?_ ?_ ?_ (.connected dialed refused ?_))
  · rintro around ⟨⟩
  · intro _
    exact nodeAlive_of_node? there (isServing_of_dial? dialed)
  · rintro position change ⟨⟩
  · simp only [Situation.step, dialed]
    exact nodes
  · simp only [Situation.step, dialed]
    exact contexts
  · rw [reportDial, reportDial, tasks]
    rfl

theorem changes_connectDial (orderly : mesh.Orderly) (number dial : Nat) :
    Changes kept starting mesh (mesh.connectDial number dial).1 := by
  unfold connectDial
  split
  · exact Changes.refl mesh
  · rename_i found under
    have opened : Changes kept starting mesh mesh.openStream.1 := changes_outside rfl rfl rfl
    exact opened.trans (changes_finishDial (opened.orderly orderly) (dial?_self under) _)

theorem changes_refuseDial (orderly : mesh.Orderly) (number dial : Nat) (error : OsError) :
    Changes kept starting mesh (mesh.refuseDial number dial error).1 := by
  unfold refuseDial
  split
  · exact Changes.refl mesh
  · rename_i found under
    obtain ⟨owner, there, search⟩ := Option.bind_eq_some_iff.mp (dial?_self under)
    exact changes_failDial orderly there search (.refused error)

/-! ## Listeners -/

theorem changes_updateListener (orderly : mesh.Orderly) (number position : Nat)
    {change : Listener → Listener}
    (steady : ∀ listener, listener.stopped = true → (change listener).stopped = true)
    (serves : ∀ entry, mesh.nodes[number]? = some entry →
      isServing (entry.node.updateListener position change) = true →
        mesh.nodeAlive number = true) :
    Changes kept starting mesh
      (mesh.updateNode number fun node => node.updateListener position change) := by
  have quiet : mesh.Quiet starting number (.changesListener position change) := by
    refine ⟨rfl, ?_, nofun, nofun⟩
    intro _ _ same
    cases same
    exact steady
  refine changes_updateNode orderly number (.changesListener position change) quiet ?_
    (fun _ _ _ => rfl) serves
  rintro _ _ around ⟨⟩

theorem nodeAlive_of_listener? {number position : Nat} {listener : Listener}
    (found : mesh.listener? number position = some listener)
    (listening : listener.stopped = false) : mesh.nodeAlive number = true := by
  obtain ⟨node, there, listens⟩ := Option.bind_eq_some_iff.mp found
  exact nodeAlive_of_node? there (isServing_of_listener listens listening)

theorem changes_acceptNext (orderly : mesh.Orderly) (number position : Nat) :
    Changes kept starting mesh (mesh.acceptNext number position) := by
  unfold acceptNext
  split
  · exact Changes.refl mesh
  · rename_i arrival taking
    have alive : mesh.nodeAlive number = true := by
      obtain ⟨listener, found, taken⟩ := Option.bind_eq_some_iff.mp taking
      split at taken
      · cases taken
      · rename_i listening
        rw [Bool.or_eq_true, not_or, Bool.not_eq_true] at listening
        exact nodeAlive_of_listener? found listening.1
    have taken : Changes kept starting mesh (mesh.updateNode number fun node =>
        node.updateListener position fun listener =>
          { listener with queue := listener.queue.tail }) :=
      changes_updateListener orderly number position (fun _ => id) fun _ _ _ => alive
    have stillAlive : (mesh.updateNode number fun node =>
        node.updateListener position fun listener =>
          { listener with queue := listener.queue.tail }).nodeAlive number = true := by
      rw [nodeAlive_updateNode mesh number fun node =>
        isServing_updateListener node position fun _ => by rfl]
      exact alive
    refine taken.trans ?_
    cases arrival with
    | connection remote socket =>
        exact changes_connectNode (taken.orderly orderly) number remote socket stillAlive
    | failure error =>
        exact changes_updateListener (taken.orderly orderly) number position (fun _ => id)
          fun _ _ _ => stillAlive

theorem changes_stopListener (orderly : mesh.Orderly) (number position : Nat) :
    Changes kept starting mesh (mesh.stopListener number position) := by
  unfold stopListener
  split
  · rename_i owner listener there found
    split
    · rename_i stops
      rw [Bool.and_eq_true, Bool.and_eq_true, Bool.not_eq_true'] at stops
      obtain ⟨nodes, contexts, tasks⟩ := mesh.dropArrivals_spec listener.queue
      have dropped : Changes kept starting mesh (mesh.dropArrivals listener.queue) :=
        changes_outside nodes contexts tasks
      refine dropped.trans (changes_updateListener (dropped.orderly orderly) number position
        (fun _ _ => rfl) ?_)
      intro _ _ _
      rw [nodeAlive_of_eq nodes tasks]
      exact nodeAlive_of_listener? found stops.1.2
    · exact Changes.refl mesh
  · exact Changes.refl mesh

theorem changes_pauseEnded (orderly : mesh.Orderly) (number position : Nat) :
    Changes kept starting mesh (mesh.step (.pauseEnded number position)) := by
  simp only [step]
  split
  · have ended : Changes kept starting mesh (mesh.updateNode number fun node =>
        node.updateListener position fun listener => { listener with pausedUntil := none }) := by
      refine changes_updateListener orderly number position (fun _ => id) ?_
      intro entry found serving
      rw [isServing_updateListener entry.node position fun _ => by rfl] at serving
      exact nodeAlive_of_serving found serving
    exact ended.trans (changes_stopListener (ended.orderly orderly) number position)
  · exact Changes.refl mesh

/-! ## Teardowns -/

theorem changes_grantPermit (orderly : mesh.Orderly) (number : Nat) :
    Changes kept starting mesh (mesh.grantPermit number) := by
  refine Changes.trans ?_ (changes_reportClosers number)
  refine changes_updateNode orderly number .grantsPermit ⟨rfl, nofun, nofun, nofun⟩ ?_
    (fun _ _ _ => rfl) ?_
  · rintro _ _ around ⟨⟩
  · intro entry found serving
    exact nodeAlive_of_serving found serving

theorem changes_deregister {number : Nat} (entry : NodeEntry)
    (closed : (mesh.node? number).any (·.closed) = true) :
    Changes kept starting mesh (mesh.deregister number entry) := by
  unfold deregister
  refine changes_updateContext _ (fun _ => rfl) (fun _ _ _ blocked => blocked) ?_
  intro old _ other member
  by_cases here : other = number
  · rw [here]
    exact .inr (.inr closed)
  · by_cases alive : mesh.nodeAlive other = true
    · refine .inl (List.mem_filter.mpr ⟨member, ?_⟩)
      rw [alive, bne_iff_ne.mpr here]
      rfl
    · exact .inr (.inl (Bool.eq_false_iff.mpr alive))

theorem changes_finishTeardown (orderly : mesh.Orderly) (number : Nat) :
    Changes kept starting mesh (mesh.finishTeardown number) := by
  unfold finishTeardown
  split
  · exact Changes.refl mesh
  · rename_i entry found
    split
    · rename_i ready
      have finished : Changes kept starting mesh
          (mesh.updateNode number fun node => node.finishTeardown) := by
        refine changes_updateNode orderly number .finishesTeardown ⟨rfl, nofun, nofun, nofun⟩ ?_ ?_ ?_
        · rintro _ _ around ⟨⟩
        · intro other same sessions
          rw [found] at same
          cases same
          simp only [Situation.step, ready, if_true]
        · intro other same serving
          exact nodeAlive_of_serving same (isServing_of_finishTeardown serving)
      refine (finished.trans (changes_deregister entry ?_)).trans (changes_reportClosers number)
      obtain ⟨bound, -⟩ := List.getElem?_eq_some_iff.mp found
      rw [node?, nodes_updateNode found, List.getElem?_set_self bound]
      rfl
    · exact Changes.refl mesh

/-- The exit hook of a node hears the signal, or nothing happens. -/
theorem changes_heard (orderly : mesh.Orderly) {number : Nat}
    (alive : mesh.nodeAlive number = true) {change : Node → Node}
    (heard : ∀ node, mesh.node? number = some node →
      change node = node ∨ change node = node.hearExit) :
    Changes kept starting mesh (mesh.updateNode number change) := by
  cases found : mesh.nodes[number]? with
  | none => exact changes_outside (nodes_updateNode_of_unknown found change) rfl rfl
  | some entry =>
      have there := node?_of_found found
      rcases heard entry.node there with same | hears
      · rw [updateNode_of_fixed there same]
        exact Changes.refl mesh
      · refine changes_updateNode orderly number .firesExit ⟨rfl, nofun, nofun, nofun⟩ ?_ ?_
          (fun _ _ _ => alive)
        · rintro _ _ around ⟨⟩
        · intro other same sessions
          rw [found] at same
          cases same
          rw [hears]
          rfl

/-! ## Events -/

theorem changes_step (orderly : mesh.Orderly) (event : Event) :
    Changes kept starting mesh (mesh.step event) := by
  have onLink : ∀ {number : Nat} {slot : Slot} {act : Link → Mesh},
      (∀ link, mesh.link? number link.slot = some link → Changes kept starting mesh (act link)) →
      Changes kept starting mesh ((mesh.link? number slot).elim mesh act) := by
    intro number slot act changes
    cases linked : mesh.link? number slot with
    | none => exact Changes.refl mesh
    | some link => exact changes link (link?_self linked)
  cases event with
  | dialTimedOut number dial =>
      simp only [step]
      split
      · rename_i found owner under there
        split
        · obtain ⟨same, known, search⟩ := Option.bind_eq_some_iff.mp (dial?_self under)
          rw [there] at known
          cases known
          exact changes_failDial orderly there search .timedOut
        · exact Changes.refl mesh
      · exact Changes.refl mesh
  | pauseEnded number listener => exact changes_pauseEnded orderly number listener
  | refreshed task => exact changes_refreshDue task
  | linkClosed number slot =>
      simp only [step]
      split
      · rename_i link linked
        split
        · exact changes_endLink orderly (link?_self linked)
        · exact Changes.refl mesh
      · exact Changes.refl mesh
  | linkWrote number slot => exact onLink fun link linked => changes_writeLink orderly linked
  | linkRead number slot count =>
      exact onLink fun link linked => changes_readLink orderly linked count
  | linkFinished number slot => exact onLink fun link linked => changes_finishLink orderly linked
  | accepted number listener =>
      have accepted : Changes kept starting mesh (mesh.acceptNext number listener) :=
        changes_acceptNext orderly number listener
      exact accepted.trans (changes_stopListener (accepted.orderly orderly) number listener)
  | listenerStopped number listener => exact changes_stopListener orderly number listener
  | permitGranted number => exact changes_grantPermit orderly number
  | teardownFinished number => exact changes_finishTeardown orderly number
  | closedNoticed task => exact changes_closedNoticed task
  | interrupted number =>
      simp only [step]
      split
      · rename_i alive
        exact changes_heard orderly alive fun node _ => node.interrupt_cases
      · exact Changes.refl mesh

/-! ## Moves -/

theorem changes_requestPeering (orderly : mesh.Orderly) {number : Nat}
    (alive : mesh.nodeAlive number = true) (peer : Option String) (address : SocketAddress) :
    Changes kept starting mesh (mesh.requestPeering number peer address).1 := by
  refine changes_stepNode orderly number
    (fun around => .requests around peer address mesh.now mesh.moment)
    (fun _ => ⟨rfl, nofun, nofun, nofun⟩) ?_
    (fun _ _ _ => rfl) (fun _ _ _ => alive)
  rintro around seen ⟨⟩
  rfl

theorem changes_connectPeer (orderly : mesh.Orderly) {number : Nat}
    (alive : mesh.nodeAlive number = true) (address : SocketAddress) :
    Changes kept starting mesh (mesh.connectPeer number address).1 := by
  have asked : Changes kept starting mesh (mesh.requestPeering number none address).1 :=
    changes_requestPeering orderly alive none address
  unfold connectPeer
  split
  · exact Changes.refl mesh
  · rename_i after dial result
    rw [result] at asked
    exact asked.trans (changes_addTask _ _ nofun nofun)
  · rename_i after reason result
    rw [result] at asked
    refine asked.trans (changes_addTask _ _ nofun ?_)
    intro known same
    cases same
    exact ⟨number, 0, rfl, rfl⟩

theorem changes_close (orderly : mesh.Orderly) {number : Nat}
    (alive : mesh.nodeAlive number = true) : Changes kept starting mesh (mesh.close number).1 := by
  have waiting : Changes kept starting mesh (mesh.addTask (.close number) none).1 := by
    refine changes_addTask _ _ ?_ nofun
    intro node holds
    rwa [← eq_of_beq holds]
  have asked : Changes kept starting (mesh.addTask (.close number) none).1
      ((mesh.addTask (.close number) none).1.updateNode number fun node =>
        node.askClose (.application mesh.tasks.length)) := by
    refine changes_updateNode (waiting.orderly orderly) number
      (.asksClose (.application mesh.tasks.length)) ⟨rfl, nofun, ?_, nofun⟩ ?_ (fun _ _ _ => rfl) ?_
    · intro closer same
      cases same
      exact .inl ⟨mesh.tasks.length, rfl, List.getElem?_concat_length⟩
    · rintro _ _ around ⟨⟩
    · intro entry found serving
      exact nodeAlive_of_serving found serving
  exact waiting.trans asked

theorem changes_performCall (orderly : mesh.Orderly) {number : Nat}
    (alive : mesh.nodeAlive number = true) (call : NodeCall) :
    Changes kept starting mesh (mesh.performCall number call) := by
  have holding : ∀ call : Call, (∀ node, call.holds node = true → number = node) →
      Changes kept starting mesh (mesh.addTask call none).1 := by
    intro call own
    refine changes_addTask call none ?_ nofun
    intro node holds
    rwa [← own node holds]
  cases call with
  | requests peer address => exact changes_requestPeering orderly alive peer address
  | connects address => exact changes_connectPeer orderly alive address
  | awaitsDial dial =>
      refine holding (.awaitDial number dial) ?_
      rintro node ⟨⟩
  | identifies slot name =>
      refine changes_stepNode orderly number (fun around => .identifies around slot name)
        (fun _ => ⟨rfl, nofun, nofun, nofun⟩) ?_ (fun _ _ _ => rfl) (fun _ _ _ => alive)
      rintro around seen ⟨⟩
      rfl
  | sends slot bytes =>
      refine changes_stepNode orderly number (fun _ => .sends slot bytes)
        (fun _ => ⟨rfl, nofun, nofun, nofun⟩) ?_
        (fun _ _ _ => rfl) (fun _ _ _ => alive)
      rintro around seen ⟨⟩
  | closesHandle slot =>
      simp only [performCall]
      refine changes_updateNode orderly number (.closesHandle slot) ⟨rfl, nofun, nofun, nofun⟩ ?_
        (fun _ _ _ => rfl) (fun _ _ _ => alive)
      rintro _ _ around ⟨⟩
  | drops peer => exact changes_dropPeer orderly number peer
  | reads path options =>
      simp only [performCall]
      cases mesh.nodes[number]? with
      | none => exact Changes.refl mesh
      | some entry => exact changes_readThrough orderly entry path options
  | refreshesEvery period =>
      exact holding (.refreshStats number period mesh.now) fun _ holds => eq_of_beq holds
  | firesExit =>
      simp only [performCall, fireExit]
      cases found : mesh.nodes[number]? with
      | none =>
          rw [stepNode, found]
          exact Changes.refl mesh
      | some entry =>
          rw [stepNode_of_found found]
          dsimp only
          refine changes_heard orderly alive fun node there => ?_
          rw [node?_of_found found] at there
          cases there
          exact entry.node.fireExit_cases
  | closes => exact changes_close orderly alive
  | waitsClosed => exact holding (.waitClosed number) fun _ holds => eq_of_beq holds

/-- The move resets no context that is kept. -/
def Move.Keeps (kept : Nat → Prop) (move : Move) : Prop :=
  ∀ context catalog, move = .resets context catalog → ¬ kept context

theorem changes_perform (orderly : mesh.Orderly) {move : Move} (keeps : move.Keeps kept) :
    Changes kept starting mesh (mesh.perform move) := by
  cases move with
  | addsContext base catalog permanent => exact changes_addContext _ permanent
  | installsCatalog number catalog =>
      simp only [perform]
      exact changes_updateContext number (fun _ => rfl) (fun _ _ _ blocked => blocked)
        (fun _ _ => listsOpen_refl _)
  | resets number catalog =>
      simp only [perform]
      exact changes_updateContext number (fun _ => rfl)
        (fun isKept => absurd isKept (keeps number catalog rfl)) (fun _ _ => listsOpen_refl _)
  | starts request => exact changes_start request
  | letsGoNode number => exact changes_letGoNode number
  | letsGoContext number => exact changes_letGoContext number
  | lists number peer => exact changes_addToBlocklist number peer
  | blocks number peer => exact changes_blockPeer orderly number peer
  | drops number peer => exact changes_dropPeerOn orderly peer _
  | bans number host => exact changes_ban orderly number host
  | reads number path options => exact changes_readMessage orderly number path options
  | calls number call =>
      simp only [perform]
      split
      · rename_i alive
        exact changes_performCall orderly alive call
      · exact Changes.refl mesh
  | connectsDial number dial => exact changes_connectDial orderly number dial
  | refusesDial number dial error => exact changes_refuseDial orderly number dial error
  | arrives number position arrival =>
      simp only [perform]
      split
      · rename_i listens
        obtain ⟨listener, found, listening⟩ := (Option.any_eq_true _ _).mp listens
        rw [Bool.not_eq_true'] at listening
        exact changes_updateListener orderly number position (fun _ => id) fun _ _ _ =>
          nodeAlive_of_listener? found listening
      · exact Changes.refl mesh
  | proceeds event => exact changes_step orderly event
  | addsGroup | letsGoGroup | refreshesStats | updatesStats | opensStream | carries | forbids |
    passes => exact changes_outside rfl rfl rfl

theorem changes_course (orderly : mesh.Orderly) {moves : List Move}
    (keep : ∀ move ∈ moves, move.Keeps kept) : Changes kept starting mesh (mesh.course moves) := by
  induction moves generalizing mesh with
  | nil => exact Changes.refl mesh
  | cons move rest ih =>
      have first : Changes kept starting mesh (mesh.perform move) :=
        changes_perform orderly (keep move List.mem_cons_self)
      rw [course_cons]
      exact first.trans (ih (first.orderly orderly) fun move member =>
        keep move (List.mem_cons_of_mem _ member))

theorem changes_course_any (orderly : mesh.Orderly) (moves : List Move) :
    Changes (fun _ => False) (fun _ => False) mesh (mesh.course moves) :=
  changes_course orderly fun _ _ _ _ _ => id

/-- Whatever happens to a process that began empty, each of its nodes has come where it is by acts
of its own. -/
theorem orderly_course (host : List Interface) (workingDirectory : String) (disk : Files.Disk)
    (moves : List Move) : ((initial host workingDirectory disk).course moves).Orderly := by
  have start := orderly_initial host workingDirectory disk
  exact (changes_course_any start moves).orderly start

/-- Whatever happens to a process that began empty, a context lists its open nodes. -/
theorem lists_course (host : List Interface) (workingDirectory : String) (disk : Files.Disk)
    (moves : List Move) :
    ((initial host workingDirectory disk).course moves).Lists fun _ => False := by
  have start := orderly_initial host workingDirectory disk
  exact (changes_course_any start moves).lists start (fun _ => id)
    (lists_initial host workingDirectory disk _)

end PeerMesh.Mesh
