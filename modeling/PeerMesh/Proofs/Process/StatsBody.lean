import PeerMesh.Proofs.Process.Banning
import PeerMesh.Proofs.Process.StatsMap

/-!
# When the counters of a realm can be read

The handler of a realm's counters falls back on the group of the node that registered it last. While
there is an open node of the realm, or that group is alive, a reader gets a stats map; when both are
gone the path is still registered, and what it gives is nothing at all, which is no stats map.
-/

set_option autoImplicit false

namespace PeerMesh.Mesh

open Control (statsMapPath)

variable {mesh before after : Mesh} {number node : Nat} {entry : NodeEntry} {realm : String}

/-! ## Who registered a path last -/

/-- The node that was started last of those of a realm on a context. -/
structure IsRegistrant (mesh : Mesh) (number : Nat) (realm : String) (node : Nat)
    (entry : NodeEntry) : Prop where
  found : mesh.nodes[node]? = some entry
  on : entry.context = number
  serves : entry.node.profile.realm = realm
  last : ∀ (later : Nat) (other : NodeEntry), mesh.nodes[later]? = some other → node < later →
    other.context = number → other.node.profile.realm ≠ realm

theorem IsRegistrant.carried {ended : Nat → Slot → Prop} {altered : Nat → Prop}
    (registrant : before.IsRegistrant number realm node entry)
    (preserves : Preserves ended altered before after) :
    ∃ later, after.IsRegistrant number realm node later ∧ later.group = entry.group := by
  obtain ⟨later, found, persists⟩ := preserves.nodes node entry registrant.found
  refine ⟨later, ⟨found, persists.context.trans registrant.on, ?_, ?_⟩, persists.group⟩
  · rw [persists.node.profile]
    exact registrant.serves
  · intro newer other there after on
    obtain ⟨earlier, wasThere, persisted⟩ := preserves.origin there
    rw [persisted.node.profile]
    exact registrant.last newer earlier wasThere after (persisted.context.symm.trans on)

/-- A start on another context, or of a node of another realm. -/
theorem IsRegistrant.launched {request : StartRequest} {profile : Profile}
    (registrant : before.IsRegistrant number realm node entry)
    (launched : before.Launched request profile after)
    (apart : request.context = number → profile.realm ≠ realm) :
    after.IsRegistrant number realm node entry where
  found := launched.persists registrant.found
  on := registrant.on
  serves := registrant.serves
  last := by
    intro later other there after on
    cases launched.origin there with
    | inl old => exact registrant.last later other old after on
    | inr new =>
        obtain ⟨-, files, same⟩ := new
        subst same
        exact apart on

theorem registrant_launched {request : StartRequest} {profile : Profile}
    (launched : before.Launched request profile after) :
    ∃ node entry, after.IsRegistrant request.context profile.realm node entry ∧
      entry.group = before.joined request := by
  obtain ⟨entry, found, on, group, fresh⟩ := launched.added
  refine ⟨before.nodes.length, entry, ⟨found, on, by rw [fresh]; rfl, ?_⟩, group⟩
  intro later other there after _
  obtain ⟨files, nodes⟩ := launched.nodes
  have bound := (List.getElem?_eq_some_iff.mp there).1
  rw [nodes, List.length_append, List.length_singleton] at bound
  omega

/-- What a directory has under the path of a realm's counters names the group of the last node of
the realm. -/
def Refers (mesh : Mesh) (number : Nat)
    (directory : Files.MessageFiles Control.Served × List Nat) : Prop :=
  ∀ realm served, directory.1.handler? (statsMapPath realm) = some served →
    ∃ node entry, mesh.IsRegistrant number realm node entry ∧ served = .statsMap realm entry.group

theorem Refers.carried {ended : Nat → Slot → Prop} {altered : Nat → Prop}
    {directory : Files.MessageFiles Control.Served × List Nat}
    (refers : before.Refers number directory) (preserves : Preserves ended altered before after) :
    after.Refers number directory := by
  intro realm served registered
  obtain ⟨node, entry, registrant, named⟩ := refers realm served registered
  obtain ⟨later, stillRegistrant, group⟩ := registrant.carried preserves
  rw [← group] at named
  exact ⟨node, later, stillRegistrant, named⟩

theorem refers_perform {directory : Files.MessageFiles Control.Served × List Nat}
    (refers : ∀ directory, mesh.directory? number = some directory →
      mesh.Refers number directory) (move : Move)
    (known : (mesh.perform move).directory? number = some directory) :
    (mesh.perform move).Refers number directory := by
  cases directed_perform known with
  | @entered request profile context there here launched =>
      subst here
      intro realm served registered
      simp only [Context.directory, handler?_enrolled_statsMapPath] at registered
      split at registered
      · rename_i same
        subst same
        obtain ⟨node, entry, registrant, group⟩ := registrant_launched launched
        rw [← group] at registered
        exact ⟨node, entry, registrant, (Option.some.inj registered).symm⟩
      · rename_i apart
        obtain ⟨node, entry, registrant, named⟩ := refers _ there realm served registered
        exact ⟨node, entry, registrant.launched launched fun _ => apart, named⟩
  | beside there other launched =>
      intro realm served registered
      obtain ⟨node, entry, registrant, named⟩ := refers directory there realm served registered
      exact ⟨node, entry, registrant.launched launched fun same => absurd same.symm other, named⟩
  | kept there preserves => exact (refers directory there).carried preserves
  | added base catalog new preserves =>
      intro realm served registered
      cases registered
  | reset there resets preserves =>
      intro realm served registered
      cases registered
  | left there profile stays preserves =>
      intro realm served registered
      rw [left, Files.MessageFiles.handler?_remove,
        if_neg (Control.statsPath_ne_statsMapPath _ _ _)] at registered
      exact (refers _ there).carried preserves realm served registered

theorem refers_course (host : List Interface) (workingDirectory : String) (disk : Files.Disk)
    (moves : List Move) {directory : Files.MessageFiles Control.Served × List Nat}
    (known : ((initial host workingDirectory disk).course moves).directory? number =
      some directory) :
    ((initial host workingDirectory disk).course moves).Refers number directory :=
  directory_induction (fun mesh directory => mesh.Refers number directory)
    (fun _ move _ refers there => refers_perform refers move there) host workingDirectory disk
    moves known

/-! ## Groups are there -/

/-- A start that asks for a group asks for one that is there. -/
def JoinsKnown (mesh : Mesh) : Move → Prop
  | .starts request => ∀ group, request.group = some group → group < mesh.groups.length
  | _ => True

def AllJoinKnown (mesh : Mesh) : List Move → Prop
  | [] => True
  | move :: rest => mesh.JoinsKnown move ∧ (mesh.perform move).AllJoinKnown rest

/-- Every node is in a group that is there. -/
def Grouped (mesh : Mesh) : Prop :=
  ∀ (node : Nat) (entry : NodeEntry), mesh.nodes[node]? = some entry →
    entry.group < mesh.groups.length

theorem Grouped.perform (grouped : mesh.Grouped) {move : Move} (joins : mesh.JoinsKnown move) :
    (mesh.perform move).Grouped := by
  intro node later found
  cases moved_perform mesh move with
  | launched starts known listens launched =>
      subst starts
      cases launched.origin found with
      | inl old => exact Nat.lt_of_lt_of_le (grouped node later old) launched.groups
      | inr new =>
          obtain ⟨-, files, same⟩ := new
          subst same
          exact launched.joins joins
  | preserved preserves =>
      obtain ⟨earlier, there, persists⟩ := preserves.origin found
      rw [persists.group]
      exact Nat.lt_of_lt_of_le (grouped node earlier there) preserves.groups

theorem grouped_course (host : List Interface) (workingDirectory : String) (disk : Files.Disk)
    {moves : List Move} (joins : (initial host workingDirectory disk).AllJoinKnown moves) :
    ((initial host workingDirectory disk).course moves).Grouped := by
  have start : (initial host workingDirectory disk).Grouped := by
    intro node entry found
    cases found
  generalize initial host workingDirectory disk = mesh at start joins
  induction moves generalizing mesh with
  | nil => exact start
  | cons move rest ih => exact ih _ (start.perform joins.1) joins.2

/-! ## The group that stands for a realm -/

/-- An open node of a context serves a realm. -/
def Staffed (mesh : Mesh) (number : Nat) (realm : String) : Prop :=
  ∃ node entry, mesh.IsOpenOn number node entry ∧ entry.node.profile.realm = realm

/-- An open node serves the realm, or the group of the node that registered it last is alive. -/
def Represented (mesh : Mesh) (number : Nat) (realm : String) : Prop :=
  mesh.Staffed number realm ∨
    ∃ node entry, mesh.IsRegistrant number realm node entry ∧ mesh.groupAlive entry.group = true

theorem IsRegistrant.unique {other : Nat} {otherEntry : NodeEntry}
    (one : mesh.IsRegistrant number realm node entry)
    (another : mesh.IsRegistrant number realm other otherEntry) : entry = otherEntry := by
  have notBefore : ¬ node < other := fun before =>
    one.last other otherEntry another.found before another.on another.serves
  have notAfter : ¬ other < node := fun before =>
    another.last node entry one.found before one.on one.serves
  obtain rfl : node = other := by omega
  exact Option.some.inj (one.found.symm.trans another.found)

theorem mem_of_realmGroup? {group : Nat} (chosen : mesh.realmGroup? number realm = some group) :
    ∃ node ∈ mesh.openNodes number, ∃ entry, mesh.nodes[node]? = some entry ∧
      entry.node.profile.realm = realm ∧ entry.group = group := by
  obtain ⟨entry, first, same⟩ := Option.map_eq_some_iff.mp chosen
  obtain ⟨node, listed, picked⟩ := List.mem_filterMap.mp (List.mem_of_head? first)
  obtain ⟨found, serves⟩ := Option.filter_eq_some_iff.mp picked
  exact ⟨node, List.mem_reverse.mp listed, entry, found, beq_iff_eq.mp serves, same⟩

theorem realmGroup?_ne_none (listed : node ∈ mesh.openNodes number)
    (found : mesh.nodes[node]? = some entry) (serves : entry.node.profile.realm = realm) :
    mesh.realmGroup? number realm ≠ none := by
  intro none
  rw [realmGroup?, Option.map_eq_none_iff, List.head?_eq_none_iff, List.filterMap_eq_nil_iff]
    at none
  have unpicked := none node (List.mem_reverse.mpr listed)
  rw [found, Option.filter_some, if_pos (beq_iff_eq.mpr serves)] at unpicked
  cases unpicked

/-- The open nodes that a context lists are all there are. -/
def OpensListed (mesh : Mesh) (number : Nat) : Prop :=
  ∀ node, node ∈ mesh.openNodes number ↔ ∃ entry, mesh.IsOpenOn number node entry

theorem exists_realmGroup?_iff (opens : mesh.OpensListed number) :
    (∃ group, mesh.realmGroup? number realm = some group) ↔ mesh.Staffed number realm := by
  constructor
  · intro ⟨group, chosen⟩
    obtain ⟨node, listed, entry, found, serves, -⟩ := mem_of_realmGroup? chosen
    obtain ⟨other, isOpen⟩ := (opens node).mp listed
    obtain rfl : other = entry := Option.some.inj (isOpen.found.symm.trans found)
    exact ⟨node, other, isOpen, serves⟩
  · intro ⟨node, entry, isOpen, serves⟩
    exact Option.ne_none_iff_exists'.mp
      (realmGroup?_ne_none ((opens node).mpr ⟨entry, isOpen⟩) isOpen.found serves)

theorem countersGroup?_eq (opens : mesh.OpensListed number) (fallback : Nat) :
    mesh.countersGroup? number realm fallback = (mesh.realmGroup? number realm).or
      (if mesh.groupAlive fallback then some fallback else none) := by
  rw [countersGroup?]
  congr 1
  split
  · rfl
  · rename_i gone
    -- a context that is gone has no open node to choose
    cases chosen : mesh.realmGroup? number realm with
    | none => rfl
    | some group =>
        obtain ⟨node, listed, -⟩ := mem_of_realmGroup? chosen
        obtain ⟨entry, isOpen⟩ := (opens node).mp listed
        have alive := (Bool.and_eq_true _ _ ▸ (List.mem_filter.mp listed).2).1
        rw [← isOpen.on, contextAlive_of_nodeAlive isOpen.found alive] at gone
        exact absurd rfl gone

theorem exists_countersGroup?_iff (opens : mesh.OpensListed number) (fallback : Nat) :
    (∃ group, mesh.countersGroup? number realm fallback = some group) ↔
      mesh.Staffed number realm ∨ mesh.groupAlive fallback = true := by
  rw [countersGroup?_eq opens, ← exists_realmGroup?_iff opens]
  cases mesh.realmGroup? number realm <;> simp

theorem known_of_countersGroup? (opens : mesh.OpensListed number) (grouped : mesh.Grouped)
    {fallback group : Nat} (fallbackKnown : fallback < mesh.groups.length)
    (chosen : mesh.countersGroup? number realm fallback = some group) :
    group < mesh.groups.length := by
  rw [countersGroup?_eq opens, Option.or_eq_some_iff] at chosen
  cases chosen with
  | inl ofRealm =>
      obtain ⟨node, -, entry, found, -, same⟩ := mem_of_realmGroup? ofRealm
      rw [← same]
      exact grouped node entry found
  | inr ofFallback =>
      obtain ⟨-, kept⟩ := ofFallback
      split at kept
      · cases kept
        exact fallbackKnown
      · cases kept

/-! ## Reading -/

theorem statsMapBody_of_none {fallback : Nat}
    (none : ∀ group, mesh.countersGroup? number realm fallback ≠ some group) :
    mesh.statsMapBody number realm fallback = [] := by
  rw [statsMapBody, Option.eq_none_iff_forall_ne_some.mpr none]
  rfl

theorem decodes_statsMapBody_iff (opens : mesh.OpensListed number) (grouped : mesh.Grouped)
    {fallback : Nat} (fallbackKnown : fallback < mesh.groups.length)
    (fit : ∀ holder ∈ mesh.groups, Stats.Fits holder.group.lastCounters) :
    (∃ counters, Stats.decode (mesh.statsMapBody number realm fallback) = .ok counters) ↔
      mesh.Staffed number realm ∨ mesh.groupAlive fallback = true := by
  rw [← exists_countersGroup?_iff opens]
  constructor
  · intro ⟨counters, decoded⟩
    by_contra none
    rw [statsMapBody_of_none (not_exists.mp none)] at decoded
    cases decoded
  · intro ⟨group, chosen⟩
    have found := List.getElem?_eq_getElem
      (known_of_countersGroup? opens grouped fallbackKnown chosen)
    obtain ⟨bytes, encoded, decoded⟩ := (fit _ (List.mem_of_getElem? found)).decodes
    rw [statsMapBody_of_group chosen found encoded]
    exact ⟨_, decoded⟩

/-- What is read under the registered path of a realm's counters is a stats map exactly while the
realm is represented, and nothing otherwise. -/
theorem reads_stats_map_iff_represented (host : List Interface) (workingDirectory : String)
    (disk : Files.Disk) {moves : List Move}
    (joins : (initial host workingDirectory disk).AllJoinKnown moves) {number : Nat}
    {realm : String}
    (registered : (((initial host workingDirectory disk).course moves).served? number
      (statsMapPath realm)).isSome = true)
    (fit : ∀ holder ∈ ((initial host workingDirectory disk).course moves).groups,
      Stats.Fits holder.group.lastCounters) (options : Files.PathOptions) :
    let mesh := (initial host workingDirectory disk).course moves
    ∃ bytes, mesh.readMessage number (statsMapPath realm) options = (mesh, some bytes) ∧
      ((∃ counters, Stats.decode bytes = .ok counters) ↔ mesh.Represented number realm) ∧
      (¬ mesh.Represented number realm → bytes = []) := by
  intro mesh
  obtain ⟨served, handled⟩ := Option.isSome_iff_exists.mp registered
  obtain ⟨directory, known, handler⟩ := Option.bind_eq_some_iff.mp handled
  obtain ⟨node, entry, registrant, rfl⟩ :=
    refers_course host workingDirectory disk moves known realm served handler
  have grouped : mesh.Grouped := grouped_course host workingDirectory disk joins
  have represented : mesh.Represented number realm ↔
      mesh.Staffed number realm ∨ mesh.groupAlive entry.group = true := by
    refine or_congr_right ⟨?_, fun alive => ⟨node, entry, registrant, alive⟩⟩
    intro ⟨other, otherEntry, another, alive⟩
    rwa [registrant.unique another]
  have opens : mesh.OpensListed number := by
    obtain ⟨context, there, same⟩ := Option.map_eq_some_iff.mp known
    have enlists := (administers_course host workingDirectory disk moves known).enlists
    rw [← same] at enlists
    exact mem_openNodes_iff (lists_course host workingDirectory disk moves) there enlists
      fun _ _ found isOpen => nodeAlive_of_open host workingDirectory disk moves found isOpen
  refine ⟨mesh.statsMapBody number realm entry.group, ?_, ?_, ?_⟩
  · rw [readMessage_of_served? handled, serve]
  · rw [represented]
    exact decodes_statsMapBody_iff opens grouped (grouped node entry registrant.found) fit
  · rw [represented, ← exists_countersGroup?_iff opens]
    exact fun none => statsMapBody_of_none (not_exists.mp none)

/-- The only node of a realm is closed and let go, and with it the application lets go of its
group. -/
def lastGone : List Move :=
  [.addsContext "m" (some .empty) false, .addsGroup,
    .starts ⟨.withPort 5000, 0, some 0, true, false⟩, .calls 0 .closes,
    .proceeds (.permitGranted 0), .proceeds (.listenerStopped 0 0),
    .proceeds (.teardownFinished 0), .letsGoNode 0, .letsGoGroup 0]

theorem not_reads_stats_map_lastGone :
    let mesh := (initial [] "/" .empty).course lastGone
    ∃ bytes, mesh.readMessage 0 "/mesh/statsMap" .empty = (mesh, some bytes) ∧
      ¬ (∃ counters, Stats.decode bytes = .ok counters) ∧ bytes = [] := by
  intro mesh
  have joins : (initial [] "/" .empty).AllJoinKnown lastGone := by
    refine ⟨trivial, trivial, ?_, trivial, trivial, trivial, trivial, trivial, trivial, trivial⟩
    intro group asked
    cases asked
    decide +kernel
  have registered : (mesh.served? 0 (statsMapPath "mesh")).isSome = true := by decide +kernel
  have counters : mesh.groups.map (·.group.lastCounters) = [.empty] := by decide +kernel
  have fit : ∀ holder ∈ mesh.groups, Stats.Fits holder.group.lastCounters := by
    intro holder member
    have among : holder.group.lastCounters ∈ mesh.groups.map (·.group.lastCounters) :=
      List.mem_map_of_mem member
    rw [counters, List.mem_singleton] at among
    rw [among]
    constructor <;> decide +kernel
  have closed : mesh.nodes.all (·.node.closed) = true := by decide +kernel
  have gone : mesh.nodes.all (fun entry => !mesh.groupAlive entry.group) = true := by
    decide +kernel
  rw [List.all_eq_true] at closed gone
  have unrepresented : ¬ mesh.Represented 0 "mesh" := by
    intro represented
    cases represented with
    | inl staffed =>
        obtain ⟨node, entry, isOpen, -⟩ := staffed
        have shut := closed entry (List.mem_of_getElem? isOpen.found)
        rw [isOpen.isOpen] at shut
        cases shut
    | inr named =>
        obtain ⟨node, entry, registrant, alive⟩ := named
        have dead := gone entry (List.mem_of_getElem? registrant.found)
        rw [alive] at dead
        cases dead
  obtain ⟨bytes, read, decodes, nothing⟩ :=
    reads_stats_map_iff_represented [] "/" .empty joins registered fit .empty
  exact ⟨bytes, read, fun some => unrepresented (decodes.mp some), nothing unrepresented⟩

end PeerMesh.Mesh
