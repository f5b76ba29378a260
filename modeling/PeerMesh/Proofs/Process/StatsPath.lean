import PeerMesh.Proofs.Process.Directory
import PeerMesh.Proofs.Process.Teardown

/-!
# Who serves a stats path

The stats path of a node is registered when the node is started. It stays with the lines of the
node's group until another node takes it: one that is started under the same path in another group,
or one that had the path and is torn down. Nothing keeps two nodes of a context from having one path:
a node goes by its base, its port and the last of its interfaces that the host has, and that may be
an interface on which it has no address to listen on.
-/

set_option autoImplicit false

namespace PeerMesh

def NodeEntry.statsPath (entry : NodeEntry) : String :=
  Control.statsPath entry.node.profile.realm entry.node.profile.id

theorem NodeEntry.Persists.statsPath {ended : Slot → Prop} {entry later : NodeEntry}
    (persists : entry.Persists ended later) : later.statsPath = entry.statsPath := by
  rw [NodeEntry.statsPath, NodeEntry.statsPath, persists.node.profile]

/-- Two nodes of a context have one stats path. -/
def NodeEntry.Shares (entry other : NodeEntry) : Prop :=
  other.context = entry.context ∧ other.statsPath = entry.statsPath

namespace Mesh

variable {mesh before after : Mesh} {number : Nat} {entry : NodeEntry}

/-- The stats path of a node is registered, and gives the last lines of the node's own group, also
when these have changed. -/
structure ServesOwnLines (mesh : Mesh) (entry : NodeEntry) : Prop where
  registered : ∃ context, mesh.context? entry.context = some context ∧
    context.messages.contains entry.statsPath = true
  reads : ∃ holder, mesh.groups[entry.group]? = some holder ∧ ∀ options,
    mesh.readMessage entry.context entry.statsPath options =
      (mesh, some (Stats.encodeLines holder.group.lastLines))
  follows : ∀ lines counters options,
    ((mesh.perform (.updatesStats entry.group lines counters)).readMessage entry.context
      entry.statsPath options).2 = some (Stats.encodeLines lines)

/-- A move takes the stats path from a node: another node is started under the path, in another
group, or one that has the path is torn down. -/
inductive Usurps (mesh : Mesh) (entry : NodeEntry) : Move → Prop where
  | starts {request : StartRequest} {other : NodeEntry}
      (started : (mesh.start request).1.nodes[mesh.nodes.length]? = some other)
      (shares : entry.Shares other) (apart : other.group ≠ entry.group) :
      Usurps mesh entry (.starts request)
  | closes {number : Nat} {other : NodeEntry} (found : mesh.nodes[number]? = some other)
      (ready : other.node.canFinishTeardown = true) (shares : entry.Shares other) :
      Usurps mesh entry (.proceeds (.teardownFinished number))

/-! ## What a move does to a path -/

theorem served?_launched {request : StartRequest} {profile : Profile} {context : Context}
    (known : before.context? request.context = some context)
    (launched : before.Launched request profile after) (realm id : String) :
    after.served? request.context (Control.statsPath realm id) =
      if Control.statsPath profile.realm profile.id = Control.statsPath realm id then
        some (.statsLines (before.joined request))
      else before.served? request.context (Control.statsPath realm id) := by
  rw [served?, served?, launched.directories, if_pos rfl, directory?, known, Option.map_some,
    Option.map_some, Option.bind_some, Option.bind_some, Context.directory, Context.directory,
    handler?_enrolled_statsPath]

theorem served?_finishTeardown (found : mesh.nodes[number]? = some entry)
    (ready : entry.node.canFinishTeardown = true) (other : Nat) (path : String) :
    (mesh.finishTeardown number).served? other path =
      if other = entry.context ∧ entry.statsPath = path then none else mesh.served? other path := by
  obtain ⟨stays, directories⟩ := directory?_finishTeardown found ready
  rw [served?, served?, directories]
  cases known : mesh.directory? other with
  | none => simp
  | some directory =>
      by_cases here : other = entry.context
      · rw [if_pos here, Option.map_some, Option.bind_some, Option.bind_some, left,
          Files.MessageFiles.handler?_remove]
        simp only [here, true_and]
        rfl
      · rw [if_neg here, if_neg fun both => here both.1]

theorem served?_launched_of_ownGroup {request : StartRequest} {profile : Profile}
    {context : Context} (known : before.context? request.context = some context)
    (launched : before.Launched request profile after)
    (served : before.served? entry.context entry.statsPath = some (.statsLines entry.group))
    (ownGroup : ∀ other, after.nodes[before.nodes.length]? = some other → entry.Shares other →
      other.group = entry.group) :
    after.served? entry.context entry.statsPath = some (.statsLines entry.group) := by
  by_cases here : entry.context = request.context
  · rw [here, NodeEntry.statsPath, served?_launched known launched]
    split
    · rename_i same
      obtain ⟨other, there, on, group, node⟩ := launched.added
      have path : other.statsPath = entry.statsPath := by
        rw [NodeEntry.statsPath, node]
        exact same
      rw [← group, ownGroup other there ⟨on.trans here.symm, path⟩]
    · rw [← here]
      exact served
  · have elsewhere := launched.directories entry.context
    rw [if_neg here] at elsewhere
    rw [served?_of_directory? elsewhere]
    exact served

/-- A path of the node's own group stays so through every move that does not take it away. -/
theorem served?_perform_of_unusurped
    (served : mesh.served? entry.context entry.statsPath = some (.statsLines entry.group))
    {move : Move} (kept : ∀ catalog, move ≠ .resets entry.context catalog)
    (unusurped : ¬ mesh.Usurps entry move) :
    (mesh.perform move).served? entry.context entry.statsPath =
      some (.statsLines entry.group) := by
  cases moved_perform mesh move with
  | launched starts known listens launched =>
      subst starts
      apply served?_launched_of_ownGroup known launched served
      intro other added shares
      by_contra apart
      exact unusurped (.starts added shares apart)
  | preserved preserves =>
      by_cases altered : mesh.Alters move entry.context
      · generalize here : entry.context = number at altered
        cases altered with
        | adds =>
            -- a context that is not there yet serves nothing
            rw [here, served?, directory?, context?, List.getElem?_eq_none (Nat.le_refl _)] at served
            cases served
        | resets =>
            subst here
            exact absurd rfl (kept _)
        | @closes number other found ready =>
            rw [← here]
            simp only [perform, step]
            rw [served?_finishTeardown found ready, if_neg]
            · exact served
            · intro both
              exact unusurped (.closes found ready ⟨here.symm, both.2⟩)
      · rw [served?_of_directory? (preserves.directories _ altered)]
        exact served

theorem served?_perform_of_usurps {move : Move} (usurps : mesh.Usurps entry move) :
    (mesh.perform move).served? entry.context entry.statsPath = none ∨
      ∃ group, group ≠ entry.group ∧
        (mesh.perform move).served? entry.context entry.statsPath = some (.statsLines group) := by
  cases usurps with
  | @starts request other started shares apart =>
      simp only [perform]
      have outcome := outcome_start mesh request
      generalize mesh.start request = result at outcome started
      cases outcome with
      | failed error nodes groups directories =>
          rw [nodes, List.getElem?_eq_none (Nat.le_refl _)] at started
          cases started
      | @started after profile context known listens launched =>
          obtain ⟨added, there, on, group, node⟩ := launched.added
          rw [there] at started
          cases started
          refine .inr ⟨mesh.joined request, group ▸ apart, ?_⟩
          have path : Control.statsPath profile.realm profile.id = entry.statsPath := by
            rw [← shares.2, NodeEntry.statsPath, node]
            rfl
          rw [← shares.1, on, NodeEntry.statsPath, served?_launched known launched]
          exact if_pos path
  | @closes number other found ready shares =>
      left
      simp only [perform, step]
      rw [served?_finishTeardown found ready, if_pos ⟨shares.1.symm, shares.2⟩]

/-! ## What the path gives -/

theorem statsLinesBody_of_alive {group : Nat} (alive : mesh.groupAlive group = true)
    {holder : GroupEntry} (found : mesh.groups[group]? = some holder) :
    mesh.statsLinesBody group = Stats.encodeLines holder.group.lastLines := by
  rw [statsLinesBody, if_pos alive, found, Option.elim_some]

theorem statsLinesBody_updatesStats (mesh : Mesh) {group other : Nat} (apart : other ≠ group)
    (lines : List String) (counters : StatsMap) :
    (mesh.perform (.updatesStats group lines counters)).statsLinesBody other =
      mesh.statsLinesBody other := by
  have same : (mesh.perform (.updatesStats group lines counters)).groups[other]? =
      mesh.groups[other]? := by
    simp only [perform, updateGroup]
    exact List.getElem?_modify_ne _ _ apart.symm
  rw [statsLinesBody, statsLinesBody, groupAlive, groupAlive, same]
  rfl

/-- A node listens, and its context serves the lines of its group under its stats path. -/
structure Owns (mesh : Mesh) (number : Nat) (entry : NodeEntry) : Prop where
  found : mesh.nodes[number]? = some entry
  listening : entry.node.listenersStopped = false
  grouped : entry.group < mesh.groups.length
  served : mesh.served? entry.context entry.statsPath = some (.statsLines entry.group)

theorem Owns.reads (owns : mesh.Owns number entry) {holder : GroupEntry}
    (found : mesh.groups[entry.group]? = some holder) (options : Files.PathOptions) :
    mesh.readMessage entry.context entry.statsPath options =
      (mesh, some (Stats.encodeLines holder.group.lastLines)) := by
  have alive := groupAlive_of_nodeAlive owns.found (nodeAlive_of_listening owns.found owns.listening)
  rw [readMessage_of_served? owns.served, serve, statsLinesBody_of_alive alive found]

theorem Owns.updatesStats (owns : mesh.Owns number entry) (lines : List String)
    (counters : StatsMap) :
    (mesh.perform (.updatesStats entry.group lines counters)).Owns number entry where
  found := owns.found
  listening := owns.listening
  grouped := by
    simp only [perform, updateGroup, List.length_modify]
    exact owns.grouped
  served := owns.served

theorem Owns.servesOwnLines (owns : mesh.Owns number entry) : mesh.ServesOwnLines entry where
  registered := by
    obtain ⟨directory, known, handler⟩ := Option.bind_eq_some_iff.mp owns.served
    obtain ⟨context, there, same⟩ := Option.map_eq_some_iff.mp known
    subst same
    refine ⟨context, there, ?_⟩
    rw [Files.MessageFiles.contains, NameMap.contains_eq_isSome_get?]
    exact Option.isSome_of_eq_some handler
  reads := ⟨_, List.getElem?_eq_getElem owns.grouped,
    owns.reads (List.getElem?_eq_getElem owns.grouped)⟩
  follows := by
    intro lines counters options
    obtain ⟨holder, found⟩ : ∃ holder, mesh.groups[entry.group]? = some holder :=
      ⟨_, List.getElem?_eq_getElem owns.grouped⟩
    have updated : (mesh.perform (.updatesStats entry.group lines counters)).groups[entry.group]? =
        some { holder with group := holder.group.updateStats lines counters } := by
      simp only [perform, updateGroup]
      rw [List.getElem?_modify_eq, found]
      rfl
    rw [(owns.updatesStats lines counters).reads updated]
    rfl

/-- A path that tells of another group does not follow the node's own. -/
theorem not_servesOwnLines_of_served
    (served : mesh.served? entry.context entry.statsPath = none ∨ ∃ group, group ≠ entry.group ∧
      mesh.served? entry.context entry.statsPath = some (.statsLines group)) :
    ¬ mesh.ServesOwnLines entry := by
  intro serves
  cases served with
  | inl unserved =>
      obtain ⟨holder, -, reads⟩ := serves.reads
      have read := reads .empty
      rw [readMessage_of_unserved unserved] at read
      cases read
  | inr served =>
      obtain ⟨group, apart, served⟩ := served
      have unmoved : ∀ lines, some (mesh.statsLinesBody group) = some (Stats.encodeLines lines) := by
        intro lines
        have still : (mesh.perform (.updatesStats entry.group lines .empty)).served? entry.context
          entry.statsPath = some (.statsLines group) := served
        rw [← serves.follows lines .empty .empty, readMessage_of_served? still, serve,
          statsLinesBody_updatesStats mesh apart]
      have same := (unmoved []).symm.trans (unmoved [""])
      revert same
      decide

/-! ## The course of a path -/

theorem Usurps.of_persists {move : Move} {ended : Slot → Prop} {later : NodeEntry}
    (usurps : mesh.Usurps entry move) (persists : entry.Persists ended later) :
    mesh.Usurps later move := by
  have shares : ∀ other, entry.Shares other → later.Shares other := fun other shares =>
    ⟨shares.1.trans persists.context.symm, shares.2.trans persists.statsPath.symm⟩
  cases usurps with
  | starts started both apart =>
      exact .starts started (shares _ both) (persists.group ▸ apart)
  | closes found ready both => exact .closes found ready (shares _ both)

theorem Owns.perform (owns : mesh.Owns number entry) {move : Move}
    (kept : ∀ catalog, move ≠ .resets entry.context catalog)
    (unusurped : ¬ mesh.Usurps entry move) {later : NodeEntry}
    (found : (mesh.perform move).nodes[number]? = some later)
    (persists : entry.Persists (move.MayEnd number) later)
    (unstopped : later.node.stopping = false) : (mesh.perform move).Owns number later where
  found := found
  listening := (persists.node.listening unstopped).2 owns.listening
  grouped := by
    rw [persists.group]
    exact Nat.lt_of_lt_of_le owns.grouped (groups_perform mesh move)
  served := by
    rw [persists.context, persists.statsPath, persists.group]
    exact served?_perform_of_unusurped owns.served kept unusurped

/-- Where its path is never taken away, a node has it until it is told to stop. -/
theorem Owns.course (owns : mesh.Owns number entry) {moves : List Move}
    (kept : ∀ move ∈ moves, ∀ catalog, move ≠ .resets entry.context catalog)
    (unusurped : ∀ early move, early ++ [move] <+: moves → ∀ later,
      (mesh.course (early ++ [move])).nodes[number]? = some later →
      later.node.stopping = false → ¬ (mesh.course early).Usurps later move) :
    ∃ later, (mesh.course moves).nodes[number]? = some later ∧ later.context = entry.context ∧
      (later.node.stopping = false → (mesh.course moves).Owns number later) := by
  induction moves using List.reverseRecOn with
  | nil => exact ⟨entry, owns.found, rfl, fun _ => owns⟩
  | append_singleton early move ih =>
      obtain ⟨middle, there, on, ownsStill⟩ := ih
        (fun other member => kept other (List.mem_append_left _ member))
        (fun first other isPrefix =>
          unusurped first other (isPrefix.trans (List.prefix_append early [move])))
      obtain ⟨later, found, persists⟩ := persists_perform (mesh.course early) move there
      have last : mesh.course (early ++ [move]) = (mesh.course early).perform move :=
        course_append mesh early [move]
      rw [last]
      refine ⟨later, found, persists.context.trans on, ?_⟩
      intro unstopped
      refine (ownsStill (persists.node.listening unstopped).1).perform ?_ ?_ found persists unstopped
      · rw [on]
        exact kept move (List.mem_append_right _ List.mem_cons_self)
      · intro usurps
        rw [← last] at found
        exact unusurped early move List.prefix_rfl later found unstopped
          (usurps.of_persists persists)

/-- A node has its path as soon as it is started. -/
theorem owns_start (mesh : Mesh) (request : StartRequest)
    (started : (mesh.start request).2 = .ok number)
    (grouped : ∀ group, request.group = some group → group < mesh.groups.length) :
    ∃ entry, entry.context = request.context ∧ (mesh.start request).1.Owns number entry := by
  have outcome := outcome_start mesh request
  generalize mesh.start request = result at outcome started
  cases outcome with
  | failed error nodes groups directories => cases started
  | started profile context known listens launched =>
      cases started
      obtain ⟨entry, found, on, group, node⟩ := launched.added
      refine ⟨entry, on, found, ?_, ?_, ?_⟩
      · rw [node]
        exact listenersStopped_freshNode listens request mesh.moment
      · rw [group]
        exact launched.joins grouped
      · rw [on, group, NodeEntry.statsPath, node, served?_launched known launched]
        exact if_pos rfl

/-- From its start until it is told to stop, a node's stats path gives the lines of the node's group
at every moment, exactly if the path is not taken from it. -/
theorem serves_own_lines_iff_unusurped (before : Mesh) (request : StartRequest) {number : Nat}
    (started : (before.start request).2 = .ok number)
    (grouped : ∀ group, request.group = some group → group < before.groups.length)
    (moves : List Move)
    (kept : ∀ move ∈ moves, ∀ catalog, move ≠ .resets request.context catalog) :
    let mesh := (before.start request).1
    (∀ early, early <+: moves → ∀ entry, (mesh.course early).nodes[number]? = some entry →
        entry.node.stopping = false → (mesh.course early).ServesOwnLines entry) ↔
      ∀ early move, early ++ [move] <+: moves → ∀ entry,
        (mesh.course (early ++ [move])).nodes[number]? = some entry →
        entry.node.stopping = false → ¬ (mesh.course early).Usurps entry move := by
  intro mesh
  constructor
  · intro serves early move isPrefix entry found unstopped usurps
    refine not_servesOwnLines_of_served ?_ (serves _ isPrefix entry found unstopped)
    rw [course_append]
    exact served?_perform_of_usurps usurps
  · intro unusurped early isPrefix entry found unstopped
    obtain ⟨first, on, owns⟩ := owns_start before request started grouped
    have keptEarly : ∀ move ∈ early, ∀ catalog, move ≠ .resets first.context catalog := by
      intro move member
      rw [on]
      exact kept move (isPrefix.subset member)
    obtain ⟨later, there, -, ownsStill⟩ := owns.course keptEarly
      fun shorter move within => unusurped shorter move (within.trans isPrefix)
    rw [found] at there
    cases there
    exact (ownsStill unstopped).servesOwnLines

/-- A host with two interfaces, and a tunnel that has no address to listen on. -/
def tunnelHost : Mesh :=
  (initial [] "/" .empty).course
    [.addsContext "m" (some (.ofInterfaces [⟨"eth0", .v4 ⟨10, 0, 0, 1⟩, true, false⟩,
      ⟨"eth1", .v4 ⟨10, 0, 0, 2⟩, true, false⟩, ⟨"tun", .v6 .loopback, true, false⟩])) false,
    .addsGroup]

/-- A node listens on an interface of its own, and goes by the tunnel. -/
def throughTunnel (own : String) : StartRequest :=
  ⟨{ MeshConfig.withPort 5000 with interfaces := [own, "tun"] }, 0, some 0, true, false⟩

/-- A second node of the group is started and closed. -/
def comesAndGoes : List Move :=
  [.starts (throughTunnel "eth1"), .calls 1 .closes, .proceeds (.permitGranted 1),
    .proceeds (.listenerStopped 1 0), .proceeds (.teardownFinished 1)]

theorem not_serves_own_lines_comesAndGoes :
    let mesh := (tunnelHost.start (throughTunnel "eth0")).1
    ¬ ∀ early, early <+: comesAndGoes → ∀ entry, (mesh.course early).nodes[0]? = some entry →
      entry.node.stopping = false → (mesh.course early).ServesOwnLines entry := by
  intro mesh serves
  have kept : ∀ move ∈ comesAndGoes, ∀ catalog, move ≠ .resets 0 catalog := by
    intro move member catalog same
    subst same
    simp [comesAndGoes] at member
  have grouped : ∀ group, some 0 = some group → group < tunnelHost.groups.length := by
    intro group same
    cases same
    decide +kernel
  have unusurped := (serves_own_lines_iff_unusurped tunnelHost (throughTunnel "eth0") rfl grouped
    comesAndGoes kept).mp serves
  have first : ((mesh.course comesAndGoes).nodes[0]?).map (fun entry =>
      (entry.context, entry.statsPath, entry.node.stopping)) =
        some (0, "/mesh/m-5000-tun/stats", false) := by decide +kernel
  have second : ((mesh.course comesAndGoes.dropLast).nodes[1]?).map (fun entry =>
      (entry.context, entry.statsPath, entry.node.canFinishTeardown)) =
        some (0, "/mesh/m-5000-tun/stats", true) := by decide +kernel
  obtain ⟨entry, there, same⟩ := Option.map_eq_some_iff.mp first
  obtain ⟨other, found, sameOther⟩ := Option.map_eq_some_iff.mp second
  simp only [Prod.mk.injEq] at same sameOther
  obtain ⟨on, path, unstopped⟩ := same
  obtain ⟨onOther, pathOther, ready⟩ := sameOther
  have shares : entry.Shares other := ⟨onOther.trans on.symm, pathOther.trans path.symm⟩
  exact unusurped comesAndGoes.dropLast (.proceeds (.teardownFinished 1)) List.prefix_rfl entry
    there unstopped (.closes found ready shares)

end Mesh

end PeerMesh
