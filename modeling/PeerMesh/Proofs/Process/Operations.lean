import PeerMesh.Proofs.Process.Change
import PeerMesh.Proofs.Process.Course

/-!
# Operations as changes

Every operation on a process is a sequence of changes, and so is every move. The argument is about
one operation at a time: which act the node takes, and that a node that nobody holds any more is not
served again.
-/

set_option autoImplicit false

namespace PeerMesh.Mesh

open Node (Act Situation)

variable {mesh before after : Mesh} {kept starting : Nat → Prop}

/-! ## Aside -/

theorem Tells.of_eq (same : after.tasks = before.tasks) : Tells before after where
  told := by
    intro number task found
    rw [← same] at found
    exact ⟨task, found, .kept task⟩
  added := by
    intro number task absent found
    rw [same, absent] at found
    cases found

theorem context?_of_contexts (same : after.contexts = before.contexts) (number : Nat) :
    after.context? number = before.context? number := by
  rw [context?, context?, same]

theorem changes_aside (nodes : after.nodes = before.nodes)
    (contexts : after.contexts = before.contexts) (tells : Tells before after) :
    Changes kept starting before after := by
  refine Change.single (.aside nodes ?_ tells)
  intro number context known
  rwa [context?_of_contexts contexts]

theorem changes_outside (nodes : after.nodes = before.nodes)
    (contexts : after.contexts = before.contexts) (tasks : after.tasks = before.tasks) :
    Changes kept starting before after :=
  changes_aside nodes contexts (.of_eq tasks)

theorem changes_addTask (call : Call) (answer : Option Answer)
    (living : ∀ node, call.holds node = true → mesh.nodeAlive node = true)
    (told : ∀ known, answer = some known →
      ∃ node dial, call = .connectPeer node dial ∧ known = .flag false) :
    Changes kept starting mesh (mesh.addTask call answer).1 := by
  refine changes_aside rfl rfl ⟨?_, ?_⟩
  · intro number task found
    obtain ⟨bound, -⟩ := List.getElem?_eq_some_iff.mp found
    refine ⟨task, ?_, .kept task⟩
    rw [addTask, List.getElem?_append_left bound, found]
  · intro number task absent found
    have new : task = ⟨call, answer⟩ := by
      rw [addTask, List.getElem?_append_right (List.getElem?_eq_none_iff.mp absent)] at found
      exact List.mem_singleton.mp (List.mem_of_getElem? found)
    subst new
    exact ⟨living, told⟩

theorem context?_addContext (mesh : Mesh) (context : Context) (permanent : Bool) (number : Nat) :
    (mesh.addContext context permanent).1.context? number =
      if number = mesh.contexts.length then some context else mesh.context? number := by
  rw [context?, context?, addContext, List.getElem?_append]
  rcases Nat.lt_trichotomy number mesh.contexts.length with old | new | beyond
  · rw [if_pos old, if_neg (by omega)]
  · rw [if_neg (by omega), if_pos new, new, Nat.sub_self]
    rfl
  · rw [if_neg (by omega), if_neg (by omega), List.getElem?_eq_none (by simp; omega),
      List.getElem?_eq_none (by omega)]

theorem changes_addContext (context : Context) (permanent : Bool) :
    Changes kept starting mesh (mesh.addContext context permanent).1 := by
  refine Change.single (.aside rfl ?_ (.of_eq rfl))
  intro number old known
  obtain ⟨entry, found, -⟩ := Option.map_eq_some_iff.mp known
  obtain ⟨bound, -⟩ := List.getElem?_eq_some_iff.mp found
  rw [context?_addContext, if_neg (by omega), known]

/-! ## What a context shares -/

theorem context?_updateContext (mesh : Mesh) (number : Nat) (change : Context → Context)
    (other : Nat) :
    (mesh.updateContext number change).context? other =
      if other = number then (mesh.context? number).map change else mesh.context? other := by
  simp only [context?, updateContext, List.getElem?_modify, Option.map_eq_map]
  by_cases here : other = number
  · subst here
    simp only [if_true, Option.map_map]
    rfl
  · rw [if_neg here]
    cases mesh.contexts[other]? with
    | none => rfl
    | some entry => simp [Ne.symm here]

/-- A context gets something else to share. -/
theorem changes_updateContext (number : Nat) {change : Context → Context}
    (sessions : ∀ old, (change old).sessions = old.sessions)
    (blocked : kept number → ∀ old : Context, ∀ peer, old.blocklist.contains peer = true →
      (change old).blocklist.contains peer = true)
    (listed : ∀ old, mesh.context? number = some old →
      mesh.ListsOpen old.nodes (change old).nodes) :
    Changes kept starting mesh (mesh.updateContext number change) := by
  have contexts := context?_updateContext mesh number change
  cases known : mesh.context? number with
  | none =>
      refine Change.single (.aside rfl ?_ (.of_eq rfl))
      intro other context same
      rw [contexts other]
      split
      · rename_i here
        rw [here, known] at same
        cases same
      · exact same
  | some old =>
      refine Change.single (.shared number old (change old) known (sessions old)
        (fun keeps => blocked keeps old) (listed old known) rfl ?_ rfl)
      intro other
      rw [contexts other, known]
      rfl

theorem listsOpen_refl (nodes : List Nat) : mesh.ListsOpen nodes nodes :=
  fun _ member => .inl member

theorem changes_letGoNode (number : Nat) : Changes kept starting mesh (mesh.letGoNode number) :=
  Change.single (.letGo number rfl (fun _ => rfl) rfl)

theorem context?_letGoContext (mesh : Mesh) (number other : Nat) :
    (mesh.letGoContext number).context? other = mesh.context? other := by
  rw [context?, letGoContext, List.getElem?_modify, Option.map_eq_map, Option.map_map]
  congr 1
  funext entry
  simp only [Function.comp_apply]
  split <;> rfl

theorem changes_letGoContext (number : Nat) :
    Changes kept starting mesh (mesh.letGoContext number) := by
  refine Change.single (.aside rfl ?_ (.of_eq rfl))
  intro other context known
  rw [context?_letGoContext, known]

/-! ## Acts -/

theorem nodes_updateNode {number : Nat} {entry : NodeEntry}
    (found : mesh.nodes[number]? = some entry) (change : Node → Node) :
    (mesh.updateNode number change).nodes =
      mesh.nodes.set number { entry with node := change entry.node } := by
  refine List.ext_getElem? fun other => ?_
  rw [updateNode, List.getElem?_modify, List.getElem?_set]
  by_cases here : number = other
  · subst here
    obtain ⟨bound, rfl⟩ := List.getElem?_eq_some_iff.mp found
    simp [bound]
  · simp [here]

theorem nodes_updateNode_of_unknown {number : Nat} (unknown : mesh.nodes[number]? = none)
    (change : Node → Node) : (mesh.updateNode number change).nodes = mesh.nodes := by
  refine List.ext_getElem? fun other => ?_
  rw [updateNode, List.getElem?_modify]
  by_cases here : number = other
  · subst here
    simp [unknown]
  · simp [here]

theorem stepNode_of_found {α : Type} {number : Nat} {entry : NodeEntry}
    (found : mesh.nodes[number]? = some entry) (step : Node → Surroundings → Node × α) :
    mesh.stepNode number step =
      (mesh.updateNode number fun _ => (step entry.node (mesh.surroundings entry)).1,
        some (step entry.node (mesh.surroundings entry)).2) := by
  rw [stepNode, found]

/-- The act ends no dial, listeners that have stopped stay so, and nobody asks for the teardown who may
not. -/
structure Quiet (mesh : Mesh) (starting : Nat → Prop) (number : Nat) (act : Act) : Prop where
  unended : act.ended? = none
  steady : Steady act
  asks : mesh.Asks starting number act

/-- A node takes an act that draws no placeholder. -/
theorem changes_updateNode (orderly : mesh.Orderly) (number : Nat) {change : Node → Node}
    (act : Act) (quiet : mesh.Quiet starting number act)
    (sees : ∀ entry, mesh.nodes[number]? = some entry →
      ∀ around, act.around? = some around → around = mesh.surroundings entry)
    (follows : ∀ entry, mesh.nodes[number]? = some entry → ∀ sessions,
      Situation.step ⟨entry.node, sessions⟩ act = ⟨change entry.node, sessions⟩)
    (serves : ∀ entry, mesh.nodes[number]? = some entry →
      isServing (change entry.node) = true → mesh.nodeAlive number = true) :
    Changes kept starting mesh (mesh.updateNode number change) := by
  cases found : mesh.nodes[number]? with
  | none => exact changes_outside (nodes_updateNode_of_unknown found change) rfl rfl
  | some entry =>
      obtain ⟨context, known, -⟩ := orderly.followed number entry found
      have step := follows entry found context.sessions
      refine Change.single (.acts number entry context act found known (sees entry found) ?_
        quiet.steady ?_ ?_ (.silent quiet.unended rfl quiet.asks))
      · rw [step]
        exact serves entry found
      · rw [step, nodes_updateNode found]
      · intro other
        rw [step]
        split
        · rename_i here
          rw [here]
          exact known
        · rfl

theorem changes_stepNode {α : Type} (orderly : mesh.Orderly) (number : Nat)
    {step : Node → Surroundings → Node × α} (act : Surroundings → Act)
    (quiet : ∀ around, mesh.Quiet starting number (act around))
    (sees : ∀ around seen, (act around).around? = some seen → seen = around)
    (follows : ∀ entry, mesh.nodes[number]? = some entry → ∀ sessions,
      Situation.step ⟨entry.node, sessions⟩ (act (mesh.surroundings entry)) =
        ⟨(step entry.node (mesh.surroundings entry)).1, sessions⟩)
    (serves : ∀ entry, mesh.nodes[number]? = some entry →
      isServing (step entry.node (mesh.surroundings entry)).1 = true →
        mesh.nodeAlive number = true) :
    Changes kept starting mesh (mesh.stepNode number step).1 := by
  cases found : mesh.nodes[number]? with
  | none =>
      rw [stepNode, found]
      exact Changes.refl mesh
  | some entry =>
      rw [stepNode_of_found found]
      dsimp only
      have only : ∀ other, mesh.nodes[number]? = some other → other = entry := by
        intro other same
        rw [found] at same
        exact (Option.some.inj same).symm
      refine changes_updateNode orderly number (act (mesh.surroundings entry)) (quiet _) ?_ ?_ ?_
      · intro other same around seen
        rw [only other same]
        exact sees _ _ seen
      · intro other same
        rw [only other same]
        exact follows entry found
      · intro _ _
        exact serves entry found

/-! ## Who is served -/

theorem isServing_closeHandle (node : Node) (slot : Slot) :
    isServing (node.closeHandle slot) = isServing node := by
  simp only [isServing, Node.closeHandle, Node.updateHandle, List.isEmpty_map]

theorem isServing_dropPeer (node : Node) (peer : String) :
    isServing (node.dropPeer peer).1 = isServing node := by
  unfold Node.dropPeer
  split
  · rfl
  · exact isServing_closeHandle (node.withRegistry _) _

theorem isServing_of_disposeHook {node : Node} (serving : isServing node.disposeHook = true) :
    isServing node = true := by
  have unhooked : isServing { node with hook := none } = true := by
    unfold Node.disposeHook at serving
    split at serving <;> exact serving
  simp only [isServing, Option.any_none, Bool.false_or, Bool.or_assoc] at unhooked ⊢
  rw [unhooked, Bool.or_true]

theorem isServing_of_finishTeardown {node : Node} (serving : isServing node.finishTeardown = true) :
    isServing node = true := by
  have emptied : isServing node.emptyTable = isServing node := by
    refine Node.closeAll_induction (motive := fun other => isServing other = isServing node) ?_ ?_ _
    · intro other slot same
      rw [isServing_closeHandle, same]
    · rfl
  rw [← emptied]
  exact isServing_of_disposeHook serving

theorem stopped_modify (listeners : List Listener) (position : Nat) {change : Listener → Listener}
    (keeps : ∀ listener, (change listener).stopped = listener.stopped) :
    (listeners.modify position change).map (·.stopped) = listeners.map (·.stopped) := by
  refine List.ext_getElem? fun other => ?_
  rw [List.getElem?_map, List.getElem?_modify, List.getElem?_map]
  cases listeners[other]? with
  | none => rfl
  | some listener =>
      simp only [Option.map_eq_map, Option.map_some]
      split
      · rw [keeps]
      · rfl

theorem isServing_updateListener (node : Node) (position : Nat) {change : Listener → Listener}
    (keeps : ∀ listener, (change listener).stopped = listener.stopped) :
    isServing (node.updateListener position change) = isServing node := by
  have served : ∀ listeners : List Listener,
      (listeners.any fun listener => !listener.stopped) =
        (listeners.map (·.stopped)).any fun stopped => !stopped := by
    intro listeners
    rw [List.any_map]
    rfl
  simp only [isServing, Node.updateListener, served, stopped_modify _ position keeps]

/-! ## Dropping and blocking -/

theorem changes_dropPeer (orderly : mesh.Orderly) (number : Nat) (peer : String) :
    Changes kept starting mesh (mesh.dropPeer number peer).1 := by
  change Changes kept starting mesh (mesh.stepNode number fun node _ => node.dropPeer peer).1
  refine changes_stepNode orderly number (fun _ => .drops peer)
    (fun _ => ⟨rfl, nofun, nofun, nofun⟩) ?_
    (fun _ _ _ => rfl) ?_
  · rintro around seen ⟨⟩
  · intro entry found serving
    rw [isServing_dropPeer] at serving
    exact nodeAlive_of_serving found serving

theorem changes_dropPeerOn (orderly : mesh.Orderly) (peer : String) (numbers : List Nat) :
    Changes kept starting mesh (mesh.dropPeerOn peer numbers).1 := by
  induction numbers generalizing mesh with
  | nil => exact Changes.refl mesh
  | cons number rest ih =>
      have first : Changes kept starting mesh (mesh.dropPeer number peer).1 :=
        changes_dropPeer orderly number peer
      exact first.trans (ih (first.orderly orderly))

theorem changes_addToBlocklist (number : Nat) (peer : String) :
    Changes kept starting mesh (mesh.addToBlocklist number peer) := by
  refine changes_updateContext number (fun _ => rfl) ?_ (fun _ _ => listsOpen_refl _)
  intro _ old other blocked
  rw [Blocklist.contains_insert, blocked, Bool.or_true]

theorem changes_blockPeer (orderly : mesh.Orderly) (number : Nat) (peer : String) :
    Changes kept starting mesh (mesh.blockPeer number peer).1 := by
  have listed : Changes kept starting mesh (mesh.addToBlocklist number peer) :=
    changes_addToBlocklist number peer
  exact listed.trans (changes_dropPeerOn (listed.orderly orderly) peer _)

theorem changes_ban (orderly : mesh.Orderly) (number : Nat) (host : Option String) :
    Changes kept starting mesh (mesh.ban number host).1 := by
  cases host with
  | none => exact Changes.refl mesh
  | some host => exact changes_blockPeer orderly number host

theorem changes_readMessage (orderly : mesh.Orderly) (number : Nat) (path : String)
    (options : Files.PathOptions) :
    Changes kept starting mesh (mesh.readMessage number path options).1 := by
  unfold readMessage
  split
  · exact Changes.refl mesh
  · rename_i served _
    cases served with
    | statsLines group => exact Changes.refl mesh
    | statsMap realm fallback => exact Changes.refl mesh
    | ban =>
        dsimp only [serve]
        split
        · exact changes_ban orderly number _
        · exact Changes.refl mesh

/-- Reading through a list of file systems leaves what reading from each of them leaves. -/
theorem readFirst_induction {motive : Mesh → Prop} {number : Nat} {path : String}
    {options : Files.PathOptions} (unread : motive mesh)
    (reads : ∀ files, motive (mesh.readFrom number path options files).1)
    (systems : List Files.FileSystem) : motive (mesh.readFirst number path options systems).1 := by
  induction systems with
  | nil => exact unread
  | cons files rest ih =>
      have reading := reads files
      unfold readFirst
      split
      · rename_i changed bytes result
        rwa [result] at reading
      · exact ih

theorem changes_readThrough (orderly : mesh.Orderly) (entry : NodeEntry) (path : String)
    (options : Files.PathOptions) :
    Changes kept starting mesh (mesh.readThrough entry path options).1 := by
  have reading : ∀ files,
      Changes kept starting mesh (mesh.readFrom entry.context path options files).1 := by
    intro files
    cases files with
    | messages => exact changes_readMessage orderly entry.context path options
    | below => exact Changes.refl mesh
  exact readFirst_induction (Changes.refl mesh) reading entry.files.members

/-! ## Starting a node -/

/-- The group that a start joins: a new one unless it asks for one. -/
def joined (mesh : Mesh) (request : StartRequest) : Nat :=
  request.group.getD mesh.groups.length

/-- The process with the group that a start joins. -/
def grouped (mesh : Mesh) (request : StartRequest) : Mesh :=
  match request.group with
  | some _ => mesh
  | none => (mesh.addGroup false).1

/-- The file systems that a node is started with. -/
def rooted (mesh : Mesh) (request : StartRequest) (profile : Profile) : Files.Systems :=
  ((mesh.contexts[request.context]?).map fun entry =>
    (entry.context.loadSystems mesh.workingDirectory profile.rootDir).2).getD (.unrooted 0)

/-- What a context has once a node is registered with it. -/
def enrolled (mesh : Mesh) (profile : Profile) (group : Nat) (context : Context) : Context :=
  let loaded := (context.loadSystems mesh.workingDirectory profile.rootDir).1
  registerPaths { loaded with nodes := loaded.nodes.filter mesh.nodeAlive ++ [mesh.nodes.length] }
    profile.realm profile.id group

/-- A node that is there for the first time. -/
def newcomer (mesh : Mesh) (request : StartRequest) (profile : Profile) : NodeEntry :=
  ⟨freshNode profile request mesh.moment, request.context, mesh.joined request,
    mesh.rooted request profile, true⟩

theorem enlist_eq (mesh : Mesh) (request : StartRequest) (profile : Profile) :
    mesh.enlist request profile =
      ({ (mesh.grouped request).updateContext request.context fun context =>
            (context.loadSystems mesh.workingDirectory profile.rootDir).1 with
          nodes := mesh.nodes ++ [{ mesh.newcomer request profile with
            node := { freshNode profile request mesh.moment with hook := none } }] },
        mesh.nodes.length) := by
  unfold enlist grouped newcomer joined rooted
  cases request.group <;> rfl

/-- A node stays when another one is put into the process. -/
theorem getElem?_enlist (request : StartRequest) (profile : Profile) {number : Nat}
    {entry : NodeEntry} (found : mesh.nodes[number]? = some entry) :
    (mesh.enlist request profile).1.nodes[number]? = some entry := by
  obtain ⟨bound, -⟩ := List.getElem?_eq_some_iff.mp found
  rw [enlist_eq]
  change (mesh.nodes ++ _)[number]? = _
  rw [List.getElem?_append_left bound, found]

theorem modify_last {α : Type} (list : List α) (last : α) (change : α → α) :
    (list ++ [last]).modify list.length change = list ++ [change last] := by
  rw [List.modify_eq_set_getElem?, List.getElem?_concat_length]
  simp

/-- The process when the node is there and its hook is stored. -/
def hooked (mesh : Mesh) (request : StartRequest) (profile : Profile) : Mesh :=
  { (mesh.grouped request).updateContext request.context fun context =>
        (context.loadSystems mesh.workingDirectory profile.rootDir).1 with
    nodes := mesh.nodes ++ [mesh.newcomer request profile] }

theorem storeHook_enlist (mesh : Mesh) (request : StartRequest) (profile : Profile) :
    (mesh.enlist request profile).1.storeHook mesh.nodes.length request.hook? =
      mesh.hooked request profile := by
  have hooked : (freshNode profile request mesh.moment).hook = request.hook? := rfl
  rw [enlist_eq]
  cases hook : request.hook? with
  | none =>
      rw [hook] at hooked
      simp only [storeHook, Mesh.hooked, newcomer, ← hooked]
  | some hook =>
      rw [hook] at hooked
      simp only [storeHook, updateNode, modify_last, Mesh.hooked, newcomer, Node.storeHook,
        ← hooked]

/-- Of the nodes before a newcomer the same are alive. -/
theorem nodeAlive_before (nodes : ∃ entry, after.nodes = before.nodes ++ [entry])
    (tasks : after.tasks = before.tasks) :
    (fun other => after.nodeAlive other && other != before.nodes.length) = before.nodeAlive := by
  obtain ⟨entry, nodes⟩ := nodes
  funext other
  rw [nodeAlive, nodeAlive, nodes, isCalled, tasks]
  rcases Nat.lt_trichotomy other before.nodes.length with old | new | beyond
  · rw [List.getElem?_append_left old, bne_iff_ne.mpr (Nat.ne_of_lt old), Bool.and_true]
    rfl
  · rw [new, bne_self_eq_false, Bool.and_false, List.getElem?_eq_none (Nat.le_refl _)]
    rfl
  · have past : (before.nodes ++ [entry]).length ≤ other := by
      rw [List.length_append, List.length_singleton]
      exact beyond
    rw [List.getElem?_eq_none past, List.getElem?_eq_none (Nat.le_of_lt beyond)]
    rfl

/-- What a start does without a break once the sockets are bound. -/
theorem launch_eq (mesh : Mesh) (request : StartRequest) (profile : Profile) :
    mesh.launch request profile =
      ({ ((mesh.grouped request).updateContext request.context
            (mesh.enrolled profile (mesh.joined request))).updateGroup (mesh.joined request)
              fun members => members.join ⟨profile.id, mesh.nodes.length⟩ with
          nodes := mesh.nodes ++ [mesh.newcomer request profile] }, mesh.nodes.length) := by
  have number : (mesh.enlist request profile).2 = mesh.nodes.length := by rw [enlist_eq]
  have tasks : (mesh.hooked request profile).tasks = mesh.tasks := by
    change (mesh.grouped request).tasks = mesh.tasks
    unfold grouped
    split <;> rfl
  have nodes : (mesh.hooked request profile).nodes =
      mesh.nodes ++ [mesh.newcomer request profile] := rfl
  have registered : (mesh.hooked request profile).registerNode mesh.nodes.length =
      (mesh.hooked request profile).updateContext request.context fun context =>
        { context with
          nodes := context.nodes.filter mesh.nodeAlive ++ [mesh.nodes.length] } := by
    rw [← nodeAlive_before ⟨_, nodes⟩ tasks, registerNode, nodes, List.getElem?_concat_length]
    rfl
  simp only [launch, number, storeHook_enlist, registered, openPaths, joinGroup, updateContext,
    updateGroup, nodes, List.getElem?_concat_length]
  simp only [hooked, updateContext, newcomer, List.modify_modify_eq]
  rfl

/-- A context lists a node before the node is there, and strikes out only nodes that are gone. -/
theorem changes_register (request : StartRequest) (profile : Profile) (group : Nat)
    (files : Files.Systems) {context : Context}
    (known : mesh.context? request.context = some context) :
    Changes kept starting mesh
      { (mesh.updateContext request.context (mesh.enrolled profile group)).updateGroup group
          fun members => members.join ⟨profile.id, mesh.nodes.length⟩ with
        nodes := mesh.nodes ++
          [⟨freshNode profile request mesh.moment, request.context, group, files, true⟩] } := by
  have listed : Changes kept starting mesh
      (mesh.updateContext request.context (mesh.enrolled profile group)) := by
    refine changes_updateContext _ (fun _ => rfl) (fun _ _ _ blocked => blocked) ?_
    intro old _ number member
    by_cases alive : mesh.nodeAlive number = true
    · exact .inl (List.mem_append_left _ (List.mem_filter.mpr ⟨member, alive⟩))
    · exact .inr (.inl (Bool.eq_false_iff.mpr alive))
  have registered := context?_updateContext mesh request.context (mesh.enrolled profile group)
    request.context
  rw [if_pos rfl, known, Option.map_some] at registered
  refine listed.trans (Change.single (.launched
    ⟨freshNode profile request mesh.moment, request.context, group, files, true⟩
    (mesh.enrolled profile group context) registered ?_ (.inl ?_) rfl (fun _ => rfl) rfl))
  · exact ⟨profile, request, mesh.moment, rfl⟩
  · exact List.mem_append_right _ List.mem_cons_self

theorem changes_launch (request : StartRequest) (profile : Profile) {context : Context}
    (known : mesh.context? request.context = some context) :
    Changes kept starting mesh (mesh.launch request profile).1 := by
  rw [launch_eq]
  unfold Mesh.grouped newcomer joined
  cases request.group with
  | some group => exact changes_register request profile group _ known
  | none =>
      have grouped : Changes kept starting mesh (mesh.addGroup false).1 := changes_outside rfl rfl rfl
      exact grouped.trans (changes_register request profile mesh.groups.length _ known)

/-- The process when the catalog of a context is known, and ports have been chosen. -/
def catalogued (mesh : Mesh) (number : Nat) (catalog : Catalog) (nextPort : Nat) : Mesh :=
  { mesh.updateContext number fun context => { context with catalog := some catalog } with nextPort }

/-- How the binding of sockets ends. -/
inductive Preparation (mesh : Mesh) (request : StartRequest) :
    Mesh × Except MeshError Profile → Prop where
  | untouched (error : MeshError) : Preparation mesh request (mesh, .error error)
  | failed (catalog : Catalog) (nextPort : Nat) (error : MeshError) :
      Preparation mesh request (mesh.catalogued request.context catalog nextPort, .error error)
  | listening (context : Context) (known : mesh.context? request.context = some context)
      (catalog : Catalog) (nextPort : Nat) (profile : Profile)
      (listens : profile.localAddresses ≠ []) :
      Preparation mesh request (mesh.catalogued request.context catalog nextPort, .ok profile)

theorem preparation_prepare (mesh : Mesh) (request : StartRequest) :
    mesh.Preparation request (mesh.prepare request) := by
  unfold prepare
  split
  · exact .untouched _
  · rename_i entry found
    have known : mesh.context? request.context = some entry.context := by
      rw [context?, found, Option.map_some]
    split
    · exact .untouched _
    · rename_i catalog _
      dsimp only
      split
      · exact .failed catalog _ _
      · rename_i binding nextPort _
        split
        · exact .failed catalog nextPort _
        · rename_i bound
          refine .listening entry.context known catalog nextPort _ ?_
          intro none
          exact bound (List.isEmpty_iff.mpr none)

theorem nodes_prepare (mesh : Mesh) (request : StartRequest) :
    (mesh.prepare request).1.nodes = mesh.nodes := by
  have preparation := preparation_prepare mesh request
  generalize mesh.prepare request = result at preparation
  cases preparation <;> rfl

theorem context?_catalogued (mesh : Mesh) (number : Nat) (catalog : Catalog) (nextPort other : Nat) :
    (mesh.catalogued number catalog nextPort).context? other =
      if other = number then
        (mesh.context? number).map fun context => { context with catalog := some catalog }
      else mesh.context? other :=
  context?_updateContext mesh number (fun context => { context with catalog := some catalog }) other

theorem changes_catalogued (number : Nat) (catalog : Catalog) (nextPort : Nat) :
    Changes kept starting mesh (mesh.catalogued number catalog nextPort) := by
  have noted : Changes kept starting mesh (mesh.updateContext number fun context =>
      { context with catalog := some catalog }) :=
    changes_updateContext _ (fun _ => rfl) (fun _ _ _ blocked => blocked)
      (fun _ _ => listsOpen_refl _)
  exact noted.trans (changes_outside rfl rfl rfl)

theorem changes_start (request : StartRequest) :
    Changes kept starting mesh (mesh.start request).1 := by
  have prepared := preparation_prepare mesh request
  unfold start
  generalize mesh.prepare request = result at prepared
  cases prepared with
  | untouched => exact Changes.refl mesh
  | failed catalog nextPort => exact changes_catalogued request.context catalog nextPort
  | listening context known catalog nextPort profile =>
      have still := mesh.context?_catalogued request.context catalog nextPort request.context
      rw [if_pos rfl, known, Option.map_some] at still
      exact (changes_catalogued request.context catalog nextPort).trans
        (changes_launch request profile still)

end PeerMesh.Mesh
