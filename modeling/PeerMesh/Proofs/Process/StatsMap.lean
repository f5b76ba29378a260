import PeerMesh.Proofs.Process.Directory
import PeerMesh.Proofs.Stats.RoundTrip

/-!
# The counters of a realm follow its newest open node

The path of a realm's counters stays registered from the first start of a node of the realm on, and
every handler that is ever registered for it asks for the newest open node. A context lists its
nodes in the order in which they were started, and strikes out only nodes that are gone or closed.
-/

set_option autoImplicit false

namespace PeerMesh.Mesh

open Control (statsPath statsMapPath banPath)

variable {mesh before after : Mesh} {number : Nat} {entry : NodeEntry}
  {directory : Files.MessageFiles Control.Served × List Nat}

/-! ## The directory of a context -/

/-- A directory agrees with the nodes on a context. -/
structure Charts (mesh : Mesh) (number : Nat)
    (directory : Files.MessageFiles Control.Served × List Nat) : Prop where
  served : ∀ (node : Nat) (entry : NodeEntry), mesh.nodes[node]? = some entry →
    entry.context = number → ∃ fallback,
      directory.1.handler? (statsMapPath entry.node.profile.realm) =
        some (.statsMap entry.node.profile.realm fallback)
  ascending : directory.2.Pairwise (· < ·)
  placed : ∀ node ∈ directory.2, ∃ entry, mesh.nodes[node]? = some entry ∧ entry.context = number

/-- The directory of a context, if it is there, agrees with the nodes. -/
def Charted (mesh : Mesh) (number : Nat) : Prop :=
  ∀ directory, mesh.directory? number = some directory → mesh.Charts number directory

theorem Charts.enlists (charts : mesh.Charts number directory) :
    mesh.Enlists number directory.2 :=
  ⟨charts.ascending, charts.placed⟩

theorem Charts.carried {ended : Nat → Slot → Prop} {altered : Nat → Prop}
    (charts : before.Charts number directory) (preserves : Preserves ended altered before after) :
    after.Charts number directory where
  served := by
    intro node later found on
    obtain ⟨earlier, there, persists⟩ := preserves.origin found
    rw [persists.node.profile]
    exact charts.served node earlier there (persists.context.symm.trans on)
  ascending := charts.ascending
  placed := (charts.enlists.carried preserves).placed

theorem Charts.left (charts : mesh.Charts number directory) (profile : Profile)
    (stays : Nat → Bool) : mesh.Charts number (left profile stays directory) where
  served := by
    intro node entry found on
    obtain ⟨fallback, served⟩ := charts.served node entry found on
    refine ⟨fallback, ?_⟩
    rw [Mesh.left, Files.MessageFiles.handler?_remove,
      if_neg (Control.statsPath_ne_statsMapPath _ _ _)]
    exact served
  ascending := (charts.enlists.filter stays).ascending
  placed := (charts.enlists.filter stays).placed

/-- A node is started on another context. -/
theorem Charts.beside {request : StartRequest} {profile : Profile}
    (charts : before.Charts number directory) (launched : before.Launched request profile after)
    (other : number ≠ request.context) : after.Charts number directory where
  served := by
    intro node later found on
    cases launched.origin found with
    | inl old => exact charts.served node later old on
    | inr new =>
        obtain ⟨-, files, same⟩ := new
        rw [same] at on
        exact absurd on.symm other
  ascending := charts.ascending
  placed := (charts.enlists.launched launched).placed

/-- A node is started on the context. -/
theorem Charts.entered {request : StartRequest} {profile : Profile} {context : Context}
    (charts : before.Charts request.context context.directory)
    (launched : before.Launched request profile after) :
    after.Charts request.context
      (before.enrolled profile (before.joined request) context).directory where
  served := by
    intro node later found on
    simp only [Context.directory, handler?_enrolled_statsMapPath]
    cases launched.origin found with
    | inl old =>
        split
        · exact ⟨_, rfl⟩
        · exact charts.served node later old on
    | inr new =>
        obtain ⟨-, files, same⟩ := new
        rw [same]
        exact ⟨_, if_pos rfl⟩
  ascending := ((charts.enlists.filter before.nodeAlive).entered launched).ascending
  placed := ((charts.enlists.filter before.nodeAlive).entered launched).placed

/-- A context that was not there has no nodes. -/
theorem Orderly.charts_added (orderly : mesh.Orderly) (base : String) (catalog : Option Catalog) :
    mesh.Charts mesh.contexts.length (Context.initial base catalog).directory where
  served := by
    intro node entry found on
    obtain ⟨context, known, -⟩ := orderly.followed node entry found
    rw [on, context?, List.getElem?_eq_none (Nat.le_refl _)] at known
    cases known
  ascending := List.Pairwise.nil
  placed := (mesh.enlists_nil mesh.contexts.length).placed

theorem Charted.perform (charted : mesh.Charted number) (orderly : mesh.Orderly) (move : Move)
    (kept : ∀ catalog, move ≠ .resets number catalog) : (mesh.perform move).Charted number := by
  intro directory known
  cases directed_perform known with
  | entered there here launched =>
      subst here
      exact (charted _ there).entered launched
  | beside there other launched => exact (charted directory there).beside launched other
  | kept there preserves => exact (charted directory there).carried preserves
  | added base catalog new preserves =>
      subst new
      exact (orderly.charts_added base catalog).carried preserves
  | reset there resets => exact absurd resets (kept _)
  | left there profile stays preserves =>
      exact ((charted _ there).left profile stays).carried preserves

theorem charted_course (host : List Interface) (workingDirectory : String) (disk : Files.Disk)
    {moves : List Move} (kept : ∀ move ∈ moves, ∀ catalog, move ≠ .resets number catalog) :
    ((initial host workingDirectory disk).course moves).Charted number := by
  have orderly := orderly_initial host workingDirectory disk
  have start : (initial host workingDirectory disk).Charted number := by
    intro directory known
    cases known
  generalize initial host workingDirectory disk = mesh at orderly start
  induction moves generalizing mesh with
  | nil => exact start
  | cons move rest ih =>
      have orderlyNext : (mesh.perform move).Orderly :=
        (changes_course_any orderly [move]).orderly orderly
      refine ih (fun other member => kept other (List.mem_cons_of_mem _ member)) _ orderlyNext ?_
      exact start.perform orderly move (kept move List.mem_cons_self)

/-! ## The newest open node -/

/-- A node is the newest open one of its realm on its context. -/
def IsNewest (mesh : Mesh) (number : Nat) (entry : NodeEntry) : Prop :=
  ∀ (later : Nat) (other : NodeEntry), mesh.nodes[later]? = some other → number < later →
    other.context = entry.context → other.node.closed = false →
    other.node.profile.realm ≠ entry.node.profile.realm

/-- Of ascending numbers the last one that something is picked for comes first in reverse. -/
theorem head?_filterMap_reverse {α : Type} {numbers : List Nat} {pick : Nat → Option α}
    {number : Nat} {value : α} (ascending : numbers.Pairwise (· < ·)) (member : number ∈ numbers)
    (picked : pick number = some value)
    (last : ∀ later ∈ numbers, number < later → pick later = none) :
    (numbers.reverse.filterMap pick).head? = some value := by
  obtain ⟨front, back, split⟩ := List.append_of_mem member
  subst split
  obtain ⟨-, behind, -⟩ := List.pairwise_append.mp ascending
  have beyond : back.reverse.filterMap pick = [] := by
    apply List.filterMap_eq_nil_iff.mpr
    intro later listed
    rw [List.mem_reverse] at listed
    exact last later (List.mem_append_right _ (List.mem_cons_of_mem _ listed))
      ((List.pairwise_cons.mp behind).1 later listed)
  rw [List.reverse_append, List.reverse_cons, List.append_assoc, List.filterMap_append, beyond,
    List.nil_append, List.singleton_append, List.filterMap_cons_some picked, List.head?_cons]

theorem realmGroup?_of_newest (found : mesh.nodes[number]? = some entry)
    {context : Context} (known : mesh.context? entry.context = some context)
    (charts : mesh.Charts entry.context context.directory) (listed : number ∈ context.nodes)
    (alive : mesh.nodeAlive number = true) (isOpen : entry.node.closed = false)
    (newest : mesh.IsNewest number entry) :
    mesh.realmGroup? entry.context entry.node.profile.realm = some entry.group := by
  obtain ⟨holder, there, same⟩ := Option.map_eq_some_iff.mp known
  have nodes : mesh.openNodes entry.context = context.nodes.filter fun node =>
      mesh.nodeAlive node && !((mesh.node? node).any (·.closed)) := by
    rw [openNodes, there, Option.elim_some, same]
  have ascending : context.nodes.Pairwise (· < ·) := charts.ascending
  rw [realmGroup?, nodes, head?_filterMap_reverse (ascending.filter _)]
  · rfl
  · rw [List.mem_filter, alive, node?_of_found found, Option.any_some, isOpen]
    exact ⟨listed, rfl⟩
  · rw [found, Option.filter_some, if_pos (beq_self_eq_true _)]
  · intro later member after
    obtain ⟨stillListed, stillOpen⟩ := List.mem_filter.mp member
    obtain ⟨other, foundOther, on⟩ := charts.placed later stillListed
    rw [node?_of_found foundOther, Option.any_some, Bool.and_eq_true, Bool.not_eq_true']
      at stillOpen
    rw [foundOther, Option.filter_some, if_neg]
    rw [beq_iff_eq]
    exact newest later other foundOther after on stillOpen.2

theorem statsMapBody_of_group {realm : String} {fallback group : Nat} {holder : GroupEntry}
    (chosen : mesh.countersGroup? number realm fallback = some group)
    (found : mesh.groups[group]? = some holder) {bytes : Bytes}
    (encoded : Stats.encode holder.group.lastCounters = .ok bytes) :
    mesh.statsMapBody number realm fallback = bytes := by
  simp only [statsMapBody, chosen, Option.bind_some, found, encoded]

/-- Reading the counters of a realm gives those of the newest open node that serves the realm, as
long as the context is not reset. -/
theorem reads_counters_of_newest (host : List Interface) (workingDirectory : String)
    (disk : Files.Disk) {moves : List Move} {number : Nat} {entry : NodeEntry}
    (kept : ∀ move ∈ moves, ∀ catalog, move ≠ .resets entry.context catalog)
    (found : ((initial host workingDirectory disk).course moves).nodes[number]? = some entry)
    (isOpen : entry.node.closed = false)
    (newest : ((initial host workingDirectory disk).course moves).IsNewest number entry)
    {holder : GroupEntry}
    (grouped : ((initial host workingDirectory disk).course moves).groups[entry.group]? = some holder)
    (fits : Stats.Fits holder.group.lastCounters) (options : Files.PathOptions) :
    let mesh := (initial host workingDirectory disk).course moves
    ∃ bytes, mesh.readMessage entry.context (statsMapPath entry.node.profile.realm) options =
        (mesh, some bytes) ∧
      Stats.decode bytes = .ok holder.group.lastCounters := by
  intro mesh
  have orderly : mesh.Orderly := orderly_course host workingDirectory disk moves
  have alive : mesh.nodeAlive number = true :=
    nodeAlive_of_open host workingDirectory disk moves found isOpen
  obtain ⟨context, known, -⟩ := orderly.followed number entry found
  have listed : number ∈ context.nodes :=
    (lists_course host workingDirectory disk moves number entry context found known alive
      isOpen).resolve_right id
  have charts : mesh.Charts entry.context context.directory := by
    apply charted_course host workingDirectory disk kept
    rw [directory?, known, Option.map_some]
  obtain ⟨fallback, served⟩ := charts.served number entry found rfl
  have group := realmGroup?_of_newest found known charts listed alive isOpen newest
  obtain ⟨bytes, encoded, decoded⟩ := fits.decodes
  have chosen : mesh.countersGroup? entry.context entry.node.profile.realm fallback =
      some entry.group := by
    rw [countersGroup?, contextAlive_of_nodeAlive found alive, if_pos rfl, group, Option.some_or]
  have registered : mesh.served? entry.context (statsMapPath entry.node.profile.realm) =
      some (.statsMap entry.node.profile.realm fallback) := by
    rw [served?, directory?, known]
    exact served
  refine ⟨bytes, ?_, decoded⟩
  rw [readMessage_of_served? registered, serve, statsMapBody_of_group chosen grouped encoded]

/-- Of two nodes of a realm the newer one is closed, and the older one is let go. -/
def closedNewest : List Move :=
  [.addsContext "m" (some .empty) false, .addsGroup, .addsGroup,
    .starts ⟨.withPort 5000, 0, some 0, true, false⟩,
    .starts ⟨.withPort 5001, 0, some 1, true, false⟩,
    .updatesStats 0 [] (.ofList [("links", 3)]), .calls 1 .closes, .proceeds (.permitGranted 1),
    .proceeds (.listenerStopped 1 0), .proceeds (.teardownFinished 1), .letsGoNode 0]

theorem reads_counters_of_newest_closedNewest :
    let mesh := (initial [] "/" .empty).course closedNewest
    ∃ bytes, mesh.readMessage 0 "/mesh/statsMap" .empty = (mesh, some bytes) ∧
      Stats.decode bytes = .ok (.ofList [("links", 3)]) := by
  intro mesh
  have shape : (mesh.nodes[0]?).map (fun entry =>
      (entry.context, entry.group, entry.node.closed, entry.node.profile.realm)) =
        some (0, 0, false, "mesh") := by decide +kernel
  have counters : (mesh.groups[0]?).map (·.group.lastCounters) =
      some (.ofList [("links", 3)]) := by decide +kernel
  obtain ⟨entry, found, same⟩ := Option.map_eq_some_iff.mp shape
  obtain ⟨holder, grouped, stats⟩ := Option.map_eq_some_iff.mp counters
  simp only [Prod.mk.injEq] at same
  obtain ⟨context, group, isOpen, realm⟩ := same
  have newest : mesh.IsNewest 0 entry := by
    intro later other there after _ otherOpen
    have length : mesh.nodes.length = 2 := by decide +kernel
    have second : later = 1 := by
      have bound := (List.getElem?_eq_some_iff.mp there).1
      omega
    subst second
    have closed : (mesh.nodes[1]?).map (·.node.closed) = some true := by decide +kernel
    rw [there, Option.map_some, otherOpen] at closed
    cases closed
  have fits : Stats.Fits holder.group.lastCounters := by
    rw [stats]
    constructor <;> decide +kernel
  obtain ⟨bytes, read, decoded⟩ := reads_counters_of_newest [] "/" .empty
    (by rintro move member catalog rfl; simp [closedNewest] at member) found isOpen newest
    (by rw [group]; exact grouped) fits .empty
  rw [context, realm] at read
  rw [stats] at decoded
  exact ⟨bytes, read, decoded⟩

end PeerMesh.Mesh
