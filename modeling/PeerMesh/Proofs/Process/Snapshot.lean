import Mathlib.Algebra.Order.BigOperators.Group.List
import Mathlib.Data.List.Forall2
import PeerMesh.Proofs.Process.Course
import PeerMesh.Proofs.Stats.Counters
import PeerMesh.Proofs.Text.Numeral

/-!
# The snapshot of a group's stats

A refresh takes the lines and the counters of a group from its living members alone. They agree with
each other, with one exception: if no member lives, the counters that are sums are missing.
-/

set_option autoImplicit false

namespace PeerMesh

/-! ## What a summary line prints -/

/-- The figures that a summary line ends in. -/
structure Figures where
  all : Nat
  identified : Nat
  deriving DecidableEq, Repr

def Prints (line : String) (figures : Figures) : Prop :=
  ∃ front, line =
    front ++ ",all=" ++ toString figures.all ++ ",sm=" ++ toString figures.identified ++ "\x7d"

def Node.figures (node : Node) : Figures :=
  ⟨node.connectionCount, node.peeredCount⟩

theorem Node.prints_summary (node : Node) : Prints node.summary node.figures :=
  ⟨"MS:\x7b" ++ toString node.profile.port.toNat ++ "," ++ node.profile.id, rfl⟩

/-- What stands behind the last equals sign, and what before it. -/
theorem eq_of_append_equals {front otherFront back otherBack : List Char} (last : '=' ∉ back)
    (otherLast : '=' ∉ otherBack) (same : front ++ '=' :: back = otherFront ++ '=' :: otherBack) :
    front = otherFront ∧ back = otherBack := by
  rcases List.append_eq_append_iff.mp same with ⟨gap, rest, tail⟩ | ⟨gap, rest, tail⟩
  · cases gap with
    | nil => simpa using And.intro rest.symm tail
    | cons _ gap =>
        have inside : back = gap ++ '=' :: otherBack := (List.cons.inj tail).2
        exact absurd (by simp [inside]) last
  · cases gap with
    | nil => simpa using And.intro rest tail.symm
    | cons _ gap =>
        have inside : otherBack = gap ++ '=' :: back := (List.cons.inj tail).2
        exact absurd (by simp [inside]) otherLast

theorem equals_not_mem_toString (number : Nat) : '=' ∉ (toString number).toList := by
  intro member
  have digit := Text.isDigit_of_mem_toString member
  revert digit
  decide

/-- A line prints its figures in one way only, whatever the identifier in it looks like. -/
theorem Prints.unique {line : String} {first second : Figures} (one : Prints line first)
    (other : Prints line second) : first = second := by
  obtain ⟨front, rfl⟩ := one
  obtain ⟨otherFront, same⟩ := other
  have characters := congrArg String.toList same
  have body : ∀ (front : String) (figures : Figures),
      (front ++ ",all=" ++ toString figures.all ++ ",sm=" ++ toString figures.identified ++
        "\x7d").toList =
      ((front ++ ",all").toList ++ '=' :: ((toString figures.all).toList ++ ",sm".toList)) ++
        '=' :: (toString figures.identified).toList ++ ['\x7d'] := by
    intro front figures
    simp
  rw [body, body] at characters
  obtain ⟨before, identified⟩ := eq_of_append_equals (equals_not_mem_toString _)
    (equals_not_mem_toString _) (List.append_cancel_right characters)
  have unmarked : ∀ number : Nat, '=' ∉ (toString number).toList ++ ",sm".toList := by
    intro number member
    rcases List.mem_append.mp member with digit | label
    · exact equals_not_mem_toString number digit
    · revert label
      decide
  obtain ⟨-, all⟩ := eq_of_append_equals (unmarked _) (unmarked _) before
  have sameAll := Text.toString_injective (String.toList_inj.mp (List.append_cancel_right all))
  have sameIdentified := Text.toString_injective (String.toList_inj.mp identified)
  cases first
  cases second
  cases sameAll
  cases sameIdentified
  rfl

theorem figures_unique {lines : List String} {first second : List Figures}
    (one : List.Forall₂ Prints lines first) (other : List.Forall₂ Prints lines second) :
    first = second :=
  List.right_unique_forall₂' (fun _ _ _ printed otherwise => printed.unique otherwise) one other

theorem Registry.identifiedCount_le_size (registry : Registry) :
    registry.identifiedCount ≤ registry.size :=
  List.length_filter_le _ _

namespace Mesh

variable {mesh : Mesh} {group : Nat}

/-! ## Those a snapshot is taken from -/

/-- The entries of the living members of a group, in the order in which they joined. -/
def livingEntries (mesh : Mesh) (group : Nat) : List NodeEntry :=
  (mesh.livingMembers group).filterMap fun node => mesh.nodes[node]?

/-- A figure summed over the living members of a group. -/
def memberTotal (mesh : Mesh) (group : Nat) (figure : Node → Nat) : Nat :=
  ((mesh.livingEntries group).map fun entry => figure entry.node).sum

/-- The sizes of the blocklists of the contexts that the living members of a group are on. -/
def blocklistSizes (mesh : Mesh) (group : Nat) : List Nat :=
  (mesh.livingEntries group).map fun entry => (mesh.blocklistOf entry.context).size

theorem samples_eq (mesh : Mesh) (group : Nat) :
    mesh.samples group = (mesh.livingEntries group).map fun entry =>
      Stats.Sample.ofNode entry.node (mesh.blocklistOf entry.context) := by
  rw [livingEntries, List.map_filterMap]
  rfl

/-- Whoever is alive is there. -/
theorem map_some_livingEntries (mesh : Mesh) (group : Nat) :
    (mesh.livingEntries group).map some =
      (mesh.livingMembers group).map fun node => mesh.nodes[node]? := by
  have there : ∀ node ∈ mesh.livingMembers group, (mesh.nodes[node]?).isSome = true := by
    intro node member
    have alive := (List.mem_filter.mp member).2
    rw [nodeAlive] at alive
    cases found : mesh.nodes[node]? with
    | none =>
        rw [found] at alive
        cases alive
    | some entry => rfl
  rw [livingEntries]
  generalize mesh.livingMembers group = members at there
  induction members with
  | nil => rfl
  | cons node rest ih =>
      obtain ⟨entry, found⟩ := Option.isSome_iff_exists.mp (there node List.mem_cons_self)
      rw [List.filterMap_cons_some found, List.map_cons, List.map_cons, found,
        ih fun later member => there later (List.mem_cons_of_mem _ member)]

theorem length_livingEntries (mesh : Mesh) (group : Nat) :
    (mesh.livingEntries group).length = (mesh.livingMembers group).length := by
  simpa using congrArg List.length (map_some_livingEntries mesh group)

theorem length_samples (mesh : Mesh) (group : Nat) :
    (mesh.samples group).length = (mesh.livingMembers group).length := by
  rw [samples_eq, List.length_map, length_livingEntries]

theorem samples_eq_nil_iff : mesh.samples group = [] ↔ mesh.livingMembers group = [] := by
  rw [← List.length_eq_zero_iff, length_samples, List.length_eq_zero_iff]

/-- What is summed over the samples is summed over the members. -/
theorem sum_samples (mesh : Mesh) (group : Nat) {taken : Stats.Sample → Nat} {figure : Node → Nat}
    (takes : ∀ node blocklist, taken (.ofNode node blocklist) = figure node) :
    ((mesh.samples group).map taken).sum = mesh.memberTotal group figure := by
  rw [samples_eq, List.map_map, memberTotal]
  congr 2
  funext entry
  exact takes _ _

theorem map_blocked_samples (mesh : Mesh) (group : Nat) :
    (mesh.samples group).map (·.blocked) = mesh.blocklistSizes group := by
  rw [samples_eq, List.map_map]
  rfl

/-- No total of a group is more than a counter can hold. -/
structure TotalsFit (mesh : Mesh) (group : Nat) : Prop where
  members : (mesh.livingMembers group).length ≤ Stats.lengthLimit
  connections : mesh.memberTotal group Node.connectionCount ≤ Stats.lengthLimit
  dialing : mesh.memberTotal group Node.dialingCount ≤ Stats.lengthLimit
  blocked : ∀ size ∈ mesh.blocklistSizes group, size ≤ Stats.lengthLimit

theorem memberTotal_peered_le (mesh : Mesh) (group : Nat) :
    mesh.memberTotal group Node.peeredCount ≤ mesh.memberTotal group Node.connectionCount :=
  List.sum_le_sum fun entry _ => entry.node.table.registry.identifiedCount_le_size

/-! ## Consistency -/

/-- A snapshot of a group tells of its living members, and its parts tell the same. -/
structure Consistent (mesh : Mesh) (group : Nat) (snapshot : Group) : Prop where
  /-- One line for each living member, in the order in which they joined. -/
  lines : snapshot.lastLines.map some =
    (mesh.livingMembers group).map fun node => (mesh.node? node).map Node.summary
  nodes : Stats.Counts snapshot.lastCounters "nodes" snapshot.lastLines.length
  connections : Stats.Counts snapshot.lastCounters "connections"
    (mesh.memberTotal group Node.connectionCount)
  peered : Stats.Counts snapshot.lastCounters "peered" (mesh.memberTotal group Node.peeredCount)
  dialing : Stats.Counts snapshot.lastCounters "dialing" (mesh.memberTotal group Node.dialingCount)
  legible : ∃ figures, List.Forall₂ Prints snapshot.lastLines figures
  /-- The figures in the lines have the same sums. -/
  printed : ∀ figures, List.Forall₂ Prints snapshot.lastLines figures →
    Stats.Counts snapshot.lastCounters "connections" (figures.map Figures.all).sum ∧
    Stats.Counts snapshot.lastCounters "peered" (figures.map Figures.identified).sum
  peered_le : ∀ peered connections, Stats.Counts snapshot.lastCounters "peered" peered →
    Stats.Counts snapshot.lastCounters "connections" connections → peered ≤ connections
  /-- The size of the largest blocklist, and zero if there is none. -/
  blocked : Stats.Counts snapshot.lastCounters "blocked"
    ((mesh.blocklistSizes group).max?.getD 0)
  others : ∀ name ∉ ["nodes", "connections", "peered", "dialing", "blocked"],
    snapshot.lastCounters.get? name = none

theorem lastLines_refresh (mesh : Mesh) (group : Nat) (holder : Group) :
    (holder.refresh (mesh.samples group)).lastLines =
      (mesh.livingEntries group).map (·.node.summary) := by
  rw [Group.refresh, Group.updateStats, samples_eq, List.map_map]
  rfl

/-- The figures that the lines print are those of the nodes. -/
theorem prints_lastLines (mesh : Mesh) (group : Nat) (holder : Group) :
    List.Forall₂ Prints (holder.refresh (mesh.samples group)).lastLines
      ((mesh.livingEntries group).map (·.node.figures)) := by
  rw [lastLines_refresh]
  induction mesh.livingEntries group with
  | nil => exact .nil
  | cons entry rest ih => exact .cons entry.node.prints_summary ih

/-- A sum is among the counters exactly if there is a living member. -/
theorem counts_memberTotal_iff {name : String} {taken : Stats.Sample → Nat} (figure : Node → Nat)
    (among : (name, taken) ∈ Stats.summed)
    (takes : ∀ node blocklist, taken (.ofNode node blocklist) = figure node)
    (fits : mesh.memberTotal group figure ≤ Stats.lengthLimit) :
    Stats.Counts (Stats.countersOf (mesh.samples group)) name (mesh.memberTotal group figure) ↔
      mesh.livingMembers group ≠ [] := by
  have sum := sum_samples mesh group takes
  rw [← sum] at fits ⊢
  rw [Stats.counts_sum_iff among fits, Ne, samples_eq_nil_iff]

theorem lines_of_livingEntries (mesh : Mesh) (group : Nat) :
    ((mesh.livingEntries group).map (·.node.summary)).map some =
      (mesh.livingMembers group).map fun node => (mesh.node? node).map Node.summary := by
  have entries := congrArg (List.map (Option.map fun entry : NodeEntry => entry.node.summary))
    (map_some_livingEntries mesh group)
  rw [List.map_map, List.map_map] at entries
  rw [List.map_map]
  refine entries.trans (List.map_congr_left fun node _ => ?_)
  rw [Function.comp_apply, node?, Option.map_map]
  rfl

theorem consistent_refresh_iff (holder : Group) (fits : mesh.TotalsFit group) :
    mesh.Consistent group (holder.refresh (mesh.samples group)) ↔
      mesh.livingMembers group ≠ [] := by
  have connections := counts_memberTotal_iff Node.connectionCount (.head _) (fun _ _ => rfl)
    fits.connections
  have peered := counts_memberTotal_iff Node.peeredCount (.tail _ (.head _)) (fun _ _ => rfl)
    ((memberTotal_peered_le mesh group).trans fits.connections)
  have dialing := counts_memberTotal_iff Node.dialingCount (.tail _ (.tail _ (.head _)))
    (fun _ _ => rfl) fits.dialing
  constructor
  · intro consistent
    exact connections.mp consistent.connections
  · intro some
    have connectionsCounted := connections.mpr some
    have peeredCounted := peered.mpr some
    have prints := prints_lastLines mesh group holder
    constructor
    case lines => rw [lastLines_refresh, lines_of_livingEntries]
    case nodes =>
      have count : (holder.refresh (mesh.samples group)).lastLines.length =
          (mesh.samples group).length := List.length_map _
      rw [count]
      apply Stats.counts_nodes
      rw [length_samples]
      exact fits.members
    case connections => exact connectionsCounted
    case peered => exact peeredCounted
    case dialing => exact dialing.mpr some
    case legible => exact ⟨_, prints⟩
    case printed =>
      intro figures printed
      rw [figures_unique printed prints, List.map_map, List.map_map]
      exact ⟨connectionsCounted, peeredCounted⟩
    case peered_le =>
      intro fewer more fewerCounted moreCounted
      rw [fewerCounted.unique peeredCounted, moreCounted.unique connectionsCounted]
      exact memberTotal_peered_le mesh group
    case blocked =>
      rw [← map_blocked_samples]
      apply Stats.counts_blocked
      intro sample member
      apply fits.blocked
      rw [← map_blocked_samples]
      exact List.mem_map_of_mem member
    case others =>
      intro name other
      exact Stats.get?_countersOf_of_other other _

/-! ## A refresh -/

/-- What a refresh finds in the group does not matter. -/
theorem refreshStats_updatesStats (mesh : Mesh) (group : Nat) (lines : List String)
    (counters : StatsMap) :
    (mesh.perform (.updatesStats group lines counters)).refreshStats group =
      mesh.refreshStats group := by
  have members : (mesh.perform (.updatesStats group lines counters)).livingMembers group =
      mesh.livingMembers group := by
    simp only [livingMembers, perform, updateGroup, List.getElem?_modify_eq]
    cases mesh.groups[group]? <;> rfl
  have samples : (mesh.perform (.updatesStats group lines counters)).samples group =
      mesh.samples group := by
    rw [samples, samples, members]
    rfl
  rw [refreshStats, refreshStats, samples]
  simp only [perform, updateGroup, List.modify_modify_eq]
  rfl

theorem refresh_consistent_iff_anyone_lives (mesh : Mesh) {group : Nat} {holder : GroupEntry}
    (found : mesh.groups[group]? = some holder) (fits : mesh.TotalsFit group) :
    ∃ refreshed, (mesh.refreshStats group).groups[group]? = some refreshed ∧
      (mesh.Consistent group refreshed.group ↔ mesh.livingMembers group ≠ []) ∧
      (mesh.livingMembers group = [] → refreshed.group.lastLines = [] ∧
        refreshed.group.lastCounters = .ofList [("nodes", 0), ("blocked", 0)]) ∧
      ∀ lines counters, (mesh.perform (.updatesStats group lines counters)).refreshStats group =
        mesh.refreshStats group := by
  refine ⟨{ holder with group := holder.group.refresh (mesh.samples group) }, ?_,
    consistent_refresh_iff holder.group fits, ?_, refreshStats_updatesStats mesh group⟩
  · rw [refreshStats, updateGroup, List.getElem?_modify_eq, found]
    rfl
  · intro none
    rw [samples_eq_nil_iff.mpr none]
    exact ⟨rfl, rfl⟩

/-- A node is started in a group, with one peer on the blocklist of its context. -/
def oneMember : List Move :=
  [.addsContext "m" (some .empty) false, .addsGroup, .lists 0 "x",
    .starts ⟨.withPort 5000, 0, some 0, true, false⟩]

/-- The only member of a group is closed and let go. -/
def lastMemberGone : List Move :=
  oneMember ++ [.calls 0 .closes, .proceeds (.permitGranted 0), .proceeds (.listenerStopped 0 0),
    .proceeds (.teardownFinished 0), .letsGoNode 0]

/-- With its only member a group loses the sums. -/
theorem refresh_consistent_until_lastMemberGone :
    (∃ refreshed,
      (((initial [] "/" .empty).course oneMember).refreshStats 0).groups[0]? = some refreshed ∧
      ((initial [] "/" .empty).course oneMember).Consistent 0 refreshed.group) ∧
    ∃ refreshed,
      (((initial [] "/" .empty).course lastMemberGone).refreshStats 0).groups[0]? =
        some refreshed ∧
      ¬ ((initial [] "/" .empty).course lastMemberGone).Consistent 0 refreshed.group ∧
      refreshed.group.lastCounters = .ofList [("nodes", 0), ("blocked", 0)] := by
  have there : (((initial [] "/" .empty).course oneMember).groups[0]?).isSome = true := by
    decide +kernel
  have stillThere : (((initial [] "/" .empty).course lastMemberGone).groups[0]?).isSome = true := by
    decide +kernel
  obtain ⟨holder, found⟩ := Option.isSome_iff_exists.mp there
  obtain ⟨heir, stillFound⟩ := Option.isSome_iff_exists.mp stillThere
  have fits : ((initial [] "/" .empty).course oneMember).TotalsFit 0 := by
    constructor <;> decide +kernel
  have stillFits : ((initial [] "/" .empty).course lastMemberGone).TotalsFit 0 := by
    constructor <;> decide +kernel
  have alone : ((initial [] "/" .empty).course oneMember).livingMembers 0 ≠ [] := by
    decide +kernel
  have none : ((initial [] "/" .empty).course lastMemberGone).livingMembers 0 = [] := by
    decide +kernel
  obtain ⟨refreshed, now, consistent, -⟩ := refresh_consistent_iff_anyone_lives _ found fits
  obtain ⟨last, later, without, bare, -⟩ :=
    refresh_consistent_iff_anyone_lives _ stillFound stillFits
  exact ⟨⟨refreshed, now, consistent.mpr alone⟩, last, later, fun holds => without.mp holds none,
    (bare none).2⟩

end Mesh

end PeerMesh
