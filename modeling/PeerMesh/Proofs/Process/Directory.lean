import PeerMesh.Proofs.NameMap
import PeerMesh.Proofs.Process.Holding

/-!
# What a context tells of its nodes

The three control paths of a node are told apart by how they end, so registering a node changes what
is served under its own paths only, and its end takes away one path. A context lists its nodes in the
order in which they were started, and serves the counters of every realm that a node of it ever had.
-/

set_option autoImplicit false

namespace PeerMesh

/-! ## Paths -/

namespace Control

theorem getLast?_statsPath (realm id : String) :
    (statsPath realm id).toList.getLast? = some 's' := by
  rw [statsPath, String.toList_append, List.getLast?_append]
  rfl

theorem getLast?_statsMapPath (realm : String) :
    (statsMapPath realm).toList.getLast? = some 'p' := by
  rw [statsMapPath, String.toList_append, List.getLast?_append]
  rfl

theorem getLast?_banPath (realm : String) : (banPath realm).toList.getLast? = some 'n' := by
  rw [banPath, String.toList_append, List.getLast?_append]
  rfl

theorem ne_of_getLast? {path other : String} {last lastOther : Char}
    (ends : path.toList.getLast? = some last) (endsOther : other.toList.getLast? = some lastOther)
    (differ : last ≠ lastOther) : path ≠ other := by
  intro same
  rw [same, endsOther] at ends
  exact differ (Option.some.inj ends).symm

theorem statsPath_ne_statsMapPath (realm id other : String) :
    statsPath realm id ≠ statsMapPath other :=
  ne_of_getLast? (getLast?_statsPath realm id) (getLast?_statsMapPath other) (by decide)

theorem statsPath_ne_banPath (realm id other : String) : statsPath realm id ≠ banPath other :=
  ne_of_getLast? (getLast?_statsPath realm id) (getLast?_banPath other) (by decide)

theorem banPath_ne_statsMapPath (realm other : String) : banPath realm ≠ statsMapPath other :=
  ne_of_getLast? (getLast?_banPath realm) (getLast?_statsMapPath other) (by decide)

theorem statsMapPath_injective : Function.Injective statsMapPath := by
  intro realm other same
  simpa [statsMapPath] using same

end Control

namespace Files.MessageFiles

variable {Handler : Type}

theorem handler?_add (files : MessageFiles Handler) (path : String) (handler : Handler)
    (other : String) :
    (files.add path handler).handler? other =
      if path = other then some handler else files.handler? other :=
  NameMap.get?_insert files.handlers path handler other

theorem handler?_remove (files : MessageFiles Handler) (path other : String) :
    (files.remove path).handler? other = if path = other then none else files.handler? other :=
  NameMap.get?_erase files.handlers path other

end Files.MessageFiles

namespace Mesh

open Control (statsPath statsMapPath banPath)

variable {mesh before after : Mesh} {number : Nat} {entry : NodeEntry}

/-! ## Entering and leaving -/

theorem handler?_enrolled_statsMapPath (mesh : Mesh) (profile : Profile) (group : Nat)
    (context : Context) (realm : String) :
    (mesh.enrolled profile group context).messages.handler? (statsMapPath realm) =
      if profile.realm = realm then some (.statsMap realm group)
      else context.messages.handler? (statsMapPath realm) := by
  simp only [enrolled, registerPaths, Context.loadSystems, Files.MessageFiles.handler?_add,
    if_neg (Control.banPath_ne_statsMapPath profile.realm realm),
    if_neg (Control.statsPath_ne_statsMapPath profile.realm profile.id realm)]
  by_cases same : profile.realm = realm
  · rw [if_pos (congrArg statsMapPath same), if_pos same, same]
  · rw [if_neg (fun equal => same (Control.statsMapPath_injective equal)), if_neg same]

theorem handler?_enrolled_statsPath (mesh : Mesh) (profile : Profile) (group : Nat)
    (context : Context) (realm id : String) :
    (mesh.enrolled profile group context).messages.handler? (statsPath realm id) =
      if statsPath profile.realm profile.id = statsPath realm id then some (.statsLines group)
      else context.messages.handler? (statsPath realm id) := by
  simp only [enrolled, registerPaths, Context.loadSystems, Files.MessageFiles.handler?_add,
    if_neg (Control.statsPath_ne_banPath realm id profile.realm).symm,
    if_neg (Control.statsPath_ne_statsMapPath realm id profile.realm).symm]

/-- The directory of a context that a node leaves, where `stays` tells which nodes are listed on. -/
def left (profile : Profile) (stays : Nat → Bool)
    (directory : Files.MessageFiles Control.Served × List Nat) :
    Files.MessageFiles Control.Served × List Nat :=
  (directory.1.remove (statsPath profile.realm profile.id), directory.2.filter stays)

theorem contexts_reportClosers (mesh : Mesh) (number : Nat) :
    (mesh.reportClosers number).contexts = mesh.contexts := by
  unfold reportClosers
  split <;> rfl

theorem directory?_finishTeardown (found : mesh.nodes[number]? = some entry)
    (ready : entry.node.canFinishTeardown = true) :
    ∃ stays, ∀ other, (mesh.finishTeardown number).directory? other =
      if other = entry.context then (mesh.directory? other).map (left entry.node.profile stays)
      else mesh.directory? other := by
  let finished := mesh.updateNode number fun node => node.finishTeardown
  refine ⟨fun other => finished.nodeAlive other && other != number, ?_⟩
  intro other
  simp only [finishTeardown, found, ready, if_true]
  rw [directory?_of_contexts (contexts_reportClosers _ number), directory?, deregister,
    context?_updateContext]
  split
  · rename_i here
    subst here
    rw [Option.map_map, directory?, Option.map_map]
    rfl
  · rfl

/-! ## What a move does to a directory -/

/-- All that a move can do to the directory of a context that is there afterwards. -/
inductive Directed (before : Mesh) (number : Nat) (move : Move) (after : Mesh) :
    Files.MessageFiles Control.Served × List Nat → Prop where
  /-- A node is started on the context. -/
  | entered {request : StartRequest} {profile : Profile} {context : Context}
      (known : before.directory? request.context = some context.directory)
      (here : request.context = number) (launched : before.Launched request profile after) :
      Directed before number move after
        (before.enrolled profile (before.joined request) context).directory
  /-- A node is started on another context. -/
  | beside {request : StartRequest} {profile : Profile}
      {directory : Files.MessageFiles Control.Served × List Nat}
      (known : before.directory? number = some directory) (other : number ≠ request.context)
      (launched : before.Launched request profile after) :
      Directed before number move after directory
  | kept {directory : Files.MessageFiles Control.Served × List Nat}
      (known : before.directory? number = some directory)
      (preserves : Preserves move.MayEnd (before.Alters move) before after) :
      Directed before number move after directory
  | added (base : String) (catalog : Option Catalog) (new : before.contexts.length = number)
      (preserves : Preserves move.MayEnd (before.Alters move) before after) :
      Directed before number move after (Context.initial base catalog).directory
  | reset {directory : Files.MessageFiles Control.Served × List Nat} {catalog : Option Catalog}
      (known : before.directory? number = some directory)
      (resets : move = .resets number catalog)
      (preserves : Preserves move.MayEnd (before.Alters move) before after) :
      Directed before number move after (.empty, directory.2)
  | left {directory : Files.MessageFiles Control.Served × List Nat}
      (known : before.directory? number = some directory) (profile : Profile)
      (stays : Nat → Bool)
      (preserves : Preserves move.MayEnd (before.Alters move) before after) :
      Directed before number move after (left profile stays directory)

theorem directory?_resets (mesh : Mesh) (number : Nat) (catalog : Option Catalog) :
    (mesh.perform (.resets number catalog)).directory? number =
      (mesh.directory? number).map fun directory => (.empty, directory.2) := by
  simp only [perform]
  rw [directory?, context?_updateContext, if_pos rfl, directory?, Option.map_map, Option.map_map]
  rfl

theorem directed_perform {move : Move}
    {directory : Files.MessageFiles Control.Served × List Nat}
    (known : (before.perform move).directory? number = some directory) :
    before.Directed number move (before.perform move) directory := by
  cases moved_perform before move with
  | @launched request profile context starts there listens launched =>
      rw [launched.directories] at known
      split at known
      · rename_i here
        rw [here, there, Option.map_some] at known
        cases known
        refine .entered ?_ here.symm launched
        rw [directory?, there, Option.map_some]
      · rename_i other
        exact .beside known other launched
  | preserved preserves =>
      by_cases altered : before.Alters move number
      · cases altered with
        | @adds base catalog permanent =>
            simp only [perform, directory?, context?_addContext, if_true, Option.map_some,
              Option.some.injEq] at known
            subst known
            exact .added base catalog rfl preserves
        | resets =>
            rw [directory?_resets] at known
            obtain ⟨earlier, there, same⟩ := Option.map_eq_some_iff.mp known
            subst same
            exact .reset there rfl preserves
        | closes found ready =>
            obtain ⟨stays, directories⟩ := directory?_finishTeardown found ready
            simp only [perform, step] at known
            rw [directories, if_pos rfl] at known
            obtain ⟨earlier, there, same⟩ := Option.map_eq_some_iff.mp known
            subst same
            exact .left there _ stays preserves
      · have unaltered := preserves.directories number altered
        exact .kept (unaltered.symm.trans known) preserves

/-- What each move keeps true of the directory of a context is true of it after any moves. -/
theorem directory_induction
    (motive : Mesh → Files.MessageFiles Control.Served × List Nat → Prop)
    (step : ∀ (mesh : Mesh) (move : Move) directory,
      (∀ earlier, mesh.directory? number = some earlier → motive mesh earlier) →
      (mesh.perform move).directory? number = some directory →
      motive (mesh.perform move) directory)
    (host : List Interface) (workingDirectory : String) (disk : Files.Disk) (moves : List Move)
    {directory : Files.MessageFiles Control.Served × List Nat}
    (known : ((initial host workingDirectory disk).course moves).directory? number =
      some directory) :
    motive ((initial host workingDirectory disk).course moves) directory := by
  induction moves using List.reverseRecOn generalizing directory with
  | nil => cases known
  | append_singleton early move ih =>
      rw [course_append] at known ⊢
      exact step _ move directory (fun _ there => ih there) known

/-! ## The nodes that a context lists -/

/-- The listed nodes are on the context, in the order in which they were started. -/
structure Enlists (mesh : Mesh) (number : Nat) (nodes : List Nat) : Prop where
  ascending : nodes.Pairwise (· < ·)
  placed : ∀ node ∈ nodes, ∃ entry, mesh.nodes[node]? = some entry ∧ entry.context = number

theorem enlists_nil (mesh : Mesh) (number : Nat) : mesh.Enlists number [] where
  ascending := List.Pairwise.nil
  placed := by
    intro node listed
    cases listed

theorem Enlists.carried {ended : Nat → Slot → Prop} {altered : Nat → Prop} {nodes : List Nat}
    (enlists : before.Enlists number nodes) (preserves : Preserves ended altered before after) :
    after.Enlists number nodes where
  ascending := enlists.ascending
  placed := by
    intro node listed
    obtain ⟨earlier, there, on⟩ := enlists.placed node listed
    obtain ⟨later, found, persists⟩ := preserves.nodes node earlier there
    exact ⟨later, found, persists.context.trans on⟩

theorem Enlists.filter {nodes : List Nat} (enlists : mesh.Enlists number nodes)
    (stays : Nat → Bool) : mesh.Enlists number (nodes.filter stays) where
  ascending := enlists.ascending.filter stays
  placed := fun node listed => enlists.placed node (List.mem_filter.mp listed).1

theorem Enlists.launched {request : StartRequest} {profile : Profile} {nodes : List Nat}
    (enlists : before.Enlists number nodes) (launched : before.Launched request profile after) :
    after.Enlists number nodes where
  ascending := enlists.ascending
  placed := by
    intro node listed
    obtain ⟨earlier, there, on⟩ := enlists.placed node listed
    exact ⟨earlier, launched.persists there, on⟩

/-- A node is started on the context, and listed last. -/
theorem Enlists.entered {request : StartRequest} {profile : Profile} {nodes : List Nat}
    (enlists : before.Enlists request.context nodes)
    (launched : before.Launched request profile after) :
    after.Enlists request.context (nodes ++ [before.nodes.length]) where
  ascending := by
    refine List.pairwise_append.mpr ⟨enlists.ascending, List.pairwise_singleton _ _, ?_⟩
    intro node listed last member
    cases List.mem_singleton.mp member
    obtain ⟨earlier, there, -⟩ := enlists.placed node listed
    exact (List.getElem?_eq_some_iff.mp there).1
  placed := by
    intro node listed
    cases List.mem_append.mp listed with
    | inl old => exact (enlists.launched launched).placed node old
    | inr new =>
        cases List.mem_singleton.mp new
        obtain ⟨other, there, on, -⟩ := launched.added
        exact ⟨other, there, on⟩

/-! ## Reading -/

/-- What a context serves under a path. -/
def served? (mesh : Mesh) (number : Nat) (path : String) : Option Control.Served :=
  (mesh.directory? number).bind fun directory => directory.1.handler? path

theorem served?_of_directory? {other : Nat}
    (same : after.directory? other = before.directory? other) (path : String) :
    after.served? other path = before.served? other path := by
  rw [served?, served?, same]

theorem readMessage_of_served? {path : String} {served : Control.Served}
    (registered : mesh.served? number path = some served) (options : Files.PathOptions) :
    mesh.readMessage number path options =
      ((mesh.serve number served options).1, some (mesh.serve number served options).2) := by
  rw [served?, directory?, context?, Option.map_map, Option.bind_map] at registered
  simp only [readMessage]
  change ((mesh.contexts[number]?).bind fun entry =>
    entry.context.messages.handler? path) = some served at registered
  rw [registered]

theorem readMessage_of_unserved {path : String} (unserved : mesh.served? number path = none)
    (options : Files.PathOptions) : mesh.readMessage number path options = (mesh, none) := by
  have none : ((mesh.contexts[number]?).bind fun entry =>
      entry.context.messages.handler? path) = none := by
    rw [served?, directory?, context?, Option.map_map, Option.bind_map] at unserved
    exact unserved
  rw [readMessage, none]

/-! ## The living -/

theorem any_livingNodes (found : mesh.nodes[number]? = some entry)
    (alive : mesh.nodeAlive number = true) {holds : NodeEntry → Bool} (here : holds entry = true) :
    (mesh.livingNodes.any fun node => (mesh.nodes[node]?).any holds) = true := by
  obtain ⟨bound, -⟩ := List.getElem?_eq_some_iff.mp found
  apply List.any_eq_true.mpr
  refine ⟨number, List.mem_filter.mpr ⟨List.mem_range.mpr bound, alive⟩, ?_⟩
  rw [found, Option.any_some, here]

theorem contextAlive_of_nodeAlive (found : mesh.nodes[number]? = some entry)
    (alive : mesh.nodeAlive number = true) : mesh.contextAlive entry.context = true := by
  have living : (mesh.livingNodes.any fun node =>
      (mesh.nodes[node]?).any fun other => other.context == entry.context) = true :=
    any_livingNodes found alive (beq_self_eq_true entry.context)
  rw [contextAlive, living, Bool.or_true]

theorem groupAlive_of_nodeAlive (found : mesh.nodes[number]? = some entry)
    (alive : mesh.nodeAlive number = true) : mesh.groupAlive entry.group = true := by
  have living : (mesh.livingNodes.any fun node =>
      (mesh.nodes[node]?).any fun other => other.group == entry.group) = true :=
    any_livingNodes found alive (beq_self_eq_true entry.group)
  rw [groupAlive, living, Bool.or_true]

end Mesh

end PeerMesh
