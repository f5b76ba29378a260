import PeerMesh.Proofs.Process.Operations

/-!
# What a start adds

A start that fails leaves the nodes of the process alone, and what its contexts tell of them. One
that succeeds adds a node that listens, and its context lists the node and serves its control paths.
-/

set_option autoImplicit false

namespace PeerMesh

/-- What a context tells of its nodes: the registered paths and the listed nodes. -/
def Context.directory (context : Context) : Files.MessageFiles Control.Served × List Nat :=
  (context.messages, context.nodes)

namespace Mesh

variable {mesh before after : Mesh}

/-- The paths and the nodes of the context under a number. -/
def directory? (mesh : Mesh) (number : Nat) :
    Option (Files.MessageFiles Control.Served × List Nat) :=
  (mesh.context? number).map (·.directory)

theorem directory?_of_contexts (same : after.contexts = before.contexts) (number : Nat) :
    after.directory? number = before.directory? number := by
  rw [directory?, directory?, context?_of_contexts same]

theorem directory?_updateContext (mesh : Mesh) (number : Nat) {change : Context → Context}
    (keeps : ∀ context, (change context).directory = context.directory) (other : Nat) :
    (mesh.updateContext number change).directory? other = mesh.directory? other := by
  rw [directory?, directory?, context?_updateContext]
  split
  · rename_i here
    subst here
    rw [Option.map_map]
    congr 1
    funext context
    exact keeps context
  · rfl

theorem directory?_catalogued (mesh : Mesh) (number : Nat) (catalog : Catalog)
    (nextPort other : Nat) :
    (mesh.catalogued number catalog nextPort).directory? other = mesh.directory? other := by
  have keeps : ∀ context : Context,
      ({ context with catalog := some catalog } : Context).directory = context.directory :=
    fun _ => rfl
  exact directory?_updateContext mesh number keeps other

/-- A node has been started on a context that lists it and serves its paths. -/
structure Launched (before : Mesh) (request : StartRequest) (profile : Profile) (after : Mesh) :
    Prop where
  groups : before.groups.length ≤ after.groups.length
  joins : (∀ group, request.group = some group → group < before.groups.length) →
    before.joined request < after.groups.length
  nodes : ∃ files, after.nodes = before.nodes ++
    [⟨freshNode profile request before.moment, request.context, before.joined request, files, true⟩]
  directories : ∀ number, after.directory? number =
    if number = request.context then
      (before.context? number).map fun context =>
        (before.enrolled profile (before.joined request) context).directory
    else before.directory? number

theorem Launched.added {request : StartRequest} {profile : Profile}
    (launched : before.Launched request profile after) :
    ∃ entry, after.nodes[before.nodes.length]? = some entry ∧ entry.context = request.context ∧
      entry.group = before.joined request ∧
      entry.node = freshNode profile request before.moment := by
  obtain ⟨files, nodes⟩ := launched.nodes
  rw [nodes]
  exact ⟨_, List.getElem?_concat_length, rfl, rfl, rfl⟩

/-- A node after a start was there before, or is the one started. -/
theorem Launched.origin {request : StartRequest} {profile : Profile}
    (launched : before.Launched request profile after) {number : Nat} {later : NodeEntry}
    (found : after.nodes[number]? = some later) :
    before.nodes[number]? = some later ∨ number = before.nodes.length ∧ ∃ files, later =
      ⟨freshNode profile request before.moment, request.context, before.joined request, files,
        true⟩ := by
  obtain ⟨files, nodes⟩ := launched.nodes
  rw [nodes] at found
  rcases Nat.lt_trichotomy number before.nodes.length with old | last | beyond
  · rw [List.getElem?_append_left old] at found
    exact .inl found
  · subst last
    rw [List.getElem?_concat_length] at found
    cases found
    exact .inr ⟨rfl, files, rfl⟩
  · rw [List.getElem?_eq_none] at found
    · cases found
    · rw [List.length_append, List.length_singleton]
      exact beyond

theorem length_grouped (mesh : Mesh) (request : StartRequest) :
    mesh.groups.length ≤ (mesh.grouped request).groups.length ∧
      ((∀ group, request.group = some group → group < mesh.groups.length) →
        mesh.joined request < (mesh.grouped request).groups.length) := by
  unfold grouped joined
  cases request.group with
  | some group => exact ⟨Nat.le_refl _, fun valid => valid group rfl⟩
  | none =>
      have grown : (mesh.addGroup false).1.groups.length = mesh.groups.length + 1 :=
        List.length_append
      rw [grown]
      exact ⟨Nat.le_succ _, fun _ => Nat.lt_succ_self _⟩

theorem context?_grouped (mesh : Mesh) (request : StartRequest) (number : Nat) :
    (mesh.grouped request).context? number = mesh.context? number := by
  unfold grouped
  split <;> rfl

theorem directory?_launch (mesh : Mesh) (request : StartRequest) (profile : Profile)
    (number : Nat) :
    (mesh.launch request profile).1.directory? number =
      if number = request.context then
        (mesh.context? number).map fun context =>
          (mesh.enrolled profile (mesh.joined request) context).directory
      else mesh.directory? number := by
  have contexts : (mesh.launch request profile).1.directory? number =
      ((mesh.grouped request).updateContext request.context
        (mesh.enrolled profile (mesh.joined request))).directory? number := by
    rw [launch_eq]
    rfl
  rw [contexts, directory?, context?_updateContext, context?_grouped, context?_grouped]
  split
  · rename_i here
    rw [here, Option.map_map]
    rfl
  · rfl

theorem launched_launch (mesh : Mesh) (request : StartRequest) (profile : Profile) :
    mesh.Launched request profile (mesh.launch request profile).1 ∧
      (mesh.launch request profile).2 = mesh.nodes.length := by
  obtain ⟨more, joins⟩ := mesh.length_grouped request
  have groups : (mesh.launch request profile).1.groups.length =
      (mesh.grouped request).groups.length := by
    rw [launch_eq]
    exact List.length_modify _ _ _
  refine ⟨⟨?_, ?_, ⟨mesh.rooted request profile, ?_⟩, directory?_launch mesh request profile⟩, ?_⟩
  · rwa [groups]
  · rwa [groups]
  · rw [launch_eq]
    rfl
  · rw [launch_eq]

/-- How a start ends. -/
inductive Outcome (before : Mesh) (request : StartRequest) : Mesh × Except MeshError Nat → Prop where
  | failed {after : Mesh} (error : MeshError) (nodes : after.nodes = before.nodes)
      (groups : after.groups = before.groups)
      (directories : ∀ number, after.directory? number = before.directory? number) :
      Outcome before request (after, .error error)
  | started {after : Mesh} (profile : Profile) (context : Context)
      (known : before.context? request.context = some context)
      (listens : profile.localAddresses ≠ []) (launched : before.Launched request profile after) :
      Outcome before request (after, .ok before.nodes.length)

/-- The launch at the end of a start, when the catalog of the context is known. -/
theorem outcome_launch (mesh : Mesh) (request : StartRequest) (catalog : Catalog) (nextPort : Nat)
    (profile : Profile) {context : Context}
    (there : mesh.context? request.context = some context)
    (listens : profile.localAddresses ≠ []) :
    let launch := (mesh.catalogued request.context catalog nextPort).launch request profile
    mesh.Outcome request (launch.1, .ok launch.2) := by
  intro launch
  obtain ⟨launched, number⟩ :=
    launched_launch (mesh.catalogued request.context catalog nextPort) request profile
  rw [number]
  refine .started profile context there listens ⟨launched.groups, launched.joins, launched.nodes, ?_⟩
  intro other
  rw [launched.directories other]
  split
  · rename_i here
    subst here
    rw [context?_catalogued, if_pos rfl, Option.map_map]
    rfl
  · exact directory?_catalogued mesh request.context catalog nextPort other

theorem outcome_start (mesh : Mesh) (request : StartRequest) :
    mesh.Outcome request (mesh.start request) := by
  have prepared := preparation_prepare mesh request
  unfold start
  generalize mesh.prepare request = result at prepared
  cases prepared with
  | untouched error => exact .failed error rfl rfl fun _ => rfl
  | failed catalog nextPort error =>
      exact .failed error rfl rfl (directory?_catalogued mesh request.context catalog nextPort)
  | listening context known catalog nextPort profile listens =>
      exact outcome_launch mesh request catalog nextPort profile known listens

end Mesh

end PeerMesh
