import PeerMesh.Proofs.Process.Snapshot
import PeerMesh.Proofs.Process.Visits

/-!
# The totals of a large group

Each member counts for no more than a counter holds, but a group has any number of members, and a
refresh adds what they count for without a cap. So the totals are those of the group, capped like
the number of one member, exactly as long as the capped numbers fit together; beyond that they wrap
around. Two members are enough for that.
-/

set_option autoImplicit false

namespace PeerMesh.Mesh

/-- A figure summed over the living members of a group, in each of them capped as a counter caps
it. -/
def cappedTotal (mesh : Mesh) (group : Nat) (figure : Node → Nat) : Nat :=
  mesh.memberTotal group fun node => min (figure node) Stats.lengthLimit

/-- The totals of a snapshot are made without overflow, and are the sums over the living members of
the group, capped as a counter caps a number. -/
structure TotalsExact (mesh : Mesh) (group : Nat) (snapshot : Group) : Prop where
  additions : ∀ name figure, (name, figure) ∈ Stats.summed →
    Stats.AddsExactly name figure (mesh.samples group)
  connections : Stats.Counts snapshot.lastCounters "connections"
    (min (mesh.memberTotal group Node.connectionCount) Stats.lengthLimit)
  peered : Stats.Counts snapshot.lastCounters "peered"
    (min (mesh.memberTotal group Node.peeredCount) Stats.lengthLimit)
  dialing : Stats.Counts snapshot.lastCounters "dialing"
    (min (mesh.memberTotal group Node.dialingCount) Stats.lengthLimit)

theorem cappedSum_samples (mesh : Mesh) (group : Nat) {taken : Stats.Sample → Nat}
    {figure : Node → Nat} (takes : ∀ node blocklist, taken (.ofNode node blocklist) = figure node) :
    Stats.cappedSum taken (mesh.samples group) = mesh.cappedTotal group figure := by
  apply sum_samples
  intro node blocklist
  rw [takes]

theorem cappedTotal_peered_le (mesh : Mesh) (group : Nat) :
    mesh.cappedTotal group Node.peeredCount ≤ mesh.cappedTotal group Node.connectionCount := by
  apply List.sum_le_sum
  intro entry _
  exact min_le_min_right _ entry.node.table.registry.identifiedCount_le_size

/-- One total is exact if and only if there is a living member and the capped figures fit. -/
theorem total_exact_iff (mesh : Mesh) (group : Nat) {name : String}
    {taken : Stats.Sample → Nat} (figure : Node → Nat) (among : (name, taken) ∈ Stats.summed)
    (takes : ∀ node blocklist, taken (.ofNode node blocklist) = figure node) :
    Stats.AddsExactly name taken (mesh.samples group) ∧
        Stats.Counts (Stats.countersOf (mesh.samples group)) name
          (min (mesh.memberTotal group figure) Stats.lengthLimit) ↔
      mesh.livingMembers group ≠ [] ∧ mesh.cappedTotal group figure ≤ Stats.lengthLimit := by
  rw [← sum_samples mesh group takes, Stats.addsExactly_and_counts_iff among,
    cappedSum_samples mesh group takes, Ne, samples_eq_nil_iff]

theorem totalsExact_refresh_iff (mesh : Mesh) (group : Nat) (holder : Group) :
    mesh.TotalsExact group (holder.refresh (mesh.samples group)) ↔
      mesh.livingMembers group ≠ [] ∧
        mesh.cappedTotal group Node.connectionCount ≤ Stats.lengthLimit ∧
        mesh.cappedTotal group Node.dialingCount ≤ Stats.lengthLimit := by
  have connections := total_exact_iff mesh group Node.connectionCount (.head _) fun _ _ => rfl
  have peered := total_exact_iff mesh group Node.peeredCount (.tail _ (.head _)) fun _ _ => rfl
  have dialing := total_exact_iff mesh group Node.dialingCount (.tail _ (.tail _ (.head _)))
    fun _ _ => rfl
  constructor
  · intro exactly
    obtain ⟨some, connectionsFit⟩ :=
      connections.mp ⟨exactly.additions _ _ (.head _), exactly.connections⟩
    obtain ⟨-, dialingFits⟩ :=
      dialing.mp ⟨exactly.additions _ _ (.tail _ (.tail _ (.head _))), exactly.dialing⟩
    exact ⟨some, connectionsFit, dialingFits⟩
  · rintro ⟨some, connectionsFit, dialingFits⟩
    have peeredFits := (cappedTotal_peered_le mesh group).trans connectionsFit
    obtain ⟨connectionsAdd, connectionsCounted⟩ := connections.mpr ⟨some, connectionsFit⟩
    obtain ⟨peeredAdd, peeredCounted⟩ := peered.mpr ⟨some, peeredFits⟩
    obtain ⟨dialingAdd, dialingCounted⟩ := dialing.mpr ⟨some, dialingFits⟩
    refine ⟨?_, connectionsCounted, peeredCounted, dialingCounted⟩
    intro name figure among
    simp only [Stats.summed, List.mem_cons, Prod.mk.injEq, List.not_mem_nil, or_false] at among
    rcases among with ⟨rfl, rfl⟩ | ⟨rfl, rfl⟩ | ⟨rfl, rfl⟩ <;> assumption

/-! ## A refresh -/

/-- The totals after a refresh are exact if and only if a member is alive and the capped numbers of
connections and of dials fit. Without a living member they are missing, and otherwise they are the
sums of the capped numbers, wrapped around where they do not fit. -/
theorem refresh_totals_exact_iff (mesh : Mesh) {group : Nat} {holder : GroupEntry}
    (found : mesh.groups[group]? = some holder) :
    ∃ refreshed, (mesh.refreshStats group).groups[group]? = some refreshed ∧
      (mesh.TotalsExact group refreshed.group ↔
        mesh.livingMembers group ≠ [] ∧
          mesh.cappedTotal group Node.connectionCount ≤ Stats.lengthLimit ∧
          mesh.cappedTotal group Node.dialingCount ≤ Stats.lengthLimit) ∧
      ∀ name figure, (name, figure) ∈ Stats.summed →
        refreshed.group.lastCounters.get? name =
          if mesh.livingMembers group = [] then none
          else some (Int32.ofNat (Stats.cappedSum figure (mesh.samples group))) := by
  refine ⟨{ holder with group := holder.group.refresh (mesh.samples group) }, ?_,
    totalsExact_refresh_iff mesh group holder.group, ?_⟩
  · rw [refreshStats, updateGroup, List.getElem?_modify_eq, found]
    rfl
  · intro name figure among
    change (Stats.countersOf (mesh.samples group)).get? name = _
    rw [Stats.get?_countersOf_of_summed among, Stats.get?_foldl_addSample among]
    simp only [samples_eq_nil_iff]

/-- A group of two members has the exact totals at first. After 2 ^ 30 visits to each of them the
total of connections is negative, and in a group that nobody has joined it is missing. -/
theorem refresh_totals_exact_until_crowded :
    (∃ refreshed,
      (((initial [] "/" .empty).course twoMembers).refreshStats 0).groups[0]? = some refreshed ∧
      ((initial [] "/" .empty).course twoMembers).TotalsExact 0 refreshed.group) ∧
    (∃ refreshed,
      (((initial [] "/" .empty).course (twoMembers ++ visits (2 ^ 30))).refreshStats 0).groups[0]? =
        some refreshed ∧
      ((initial [] "/" .empty).course (twoMembers ++ visits (2 ^ 30))).memberTotal 0
        Node.connectionCount = 2 ^ 31 ∧
      refreshed.group.lastCounters.get? "connections" = some Int32.minValue ∧
      ¬ ((initial [] "/" .empty).course (twoMembers ++ visits (2 ^ 30))).TotalsExact 0
        refreshed.group) ∧
    ∃ refreshed,
      (((initial [] "/" .empty).course [.addsGroup]).refreshStats 0).groups[0]? =
        some refreshed ∧
      refreshed.group.lastCounters.get? "connections" = none ∧
      ¬ ((initial [] "/" .empty).course [.addsGroup]).TotalsExact 0 refreshed.group := by
  refine ⟨?_, ?_, ?_⟩
  · have there : (((initial [] "/" .empty).course twoMembers).groups[0]?).isSome = true := by
      decide +kernel
    have fits : ((initial [] "/" .empty).course twoMembers).livingMembers 0 ≠ [] ∧
        ((initial [] "/" .empty).course twoMembers).cappedTotal 0 Node.connectionCount ≤
          Stats.lengthLimit ∧
        ((initial [] "/" .empty).course twoMembers).cappedTotal 0 Node.dialingCount ≤
          Stats.lengthLimit := by
      decide +kernel
    obtain ⟨holder, found⟩ := Option.isSome_iff_exists.mp there
    obtain ⟨refreshed, now, exactly, -⟩ := refresh_totals_exact_iff _ found
    exact ⟨refreshed, now, exactly.mpr fits⟩
  · obtain ⟨first, second, crowded⟩ := crowded_visits (2 ^ 30)
    generalize (initial [] "/" .empty).course (twoMembers ++ visits (2 ^ 30)) = mesh at crowded ⊢
    have total : mesh.memberTotal 0 Node.connectionCount = 2 ^ 31 := by
      rw [crowded.memberTotal, crowded.firstCount, crowded.secondCount]
      decide
    have capped : mesh.cappedTotal 0 Node.connectionCount = 2 ^ 31 := by
      rw [cappedTotal, crowded.memberTotal, crowded.firstCount, crowded.secondCount]
      -- neither number is capped, only their sum does not fit
      decide
    have someone : mesh.livingMembers 0 ≠ [] := by
      rw [crowded.livingMembers]
      exact List.cons_ne_nil _ _
    obtain ⟨holder, found, -⟩ := Option.map_eq_some_iff.mp crowded.members
    obtain ⟨refreshed, now, exactly, counters⟩ := refresh_totals_exact_iff mesh found
    have sum : Stats.cappedSum Stats.Sample.connections (mesh.samples 0) =
        mesh.cappedTotal 0 Node.connectionCount := cappedSum_samples mesh 0 fun _ _ => rfl
    refine ⟨refreshed, now, total, ?_, ?_⟩
    · rw [counters "connections" Stats.Sample.connections (.head _), if_neg someone, sum, capped]
      decide
    · intro holds
      obtain ⟨-, connectionsFit, -⟩ := exactly.mp holds
      rw [capped] at connectionsFit
      revert connectionsFit
      decide
  · have there : (((initial [] "/" .empty).course [.addsGroup]).groups[0]?).isSome = true := by
      decide +kernel
    have none : ((initial [] "/" .empty).course [.addsGroup]).livingMembers 0 = [] := by
      decide +kernel
    obtain ⟨holder, found⟩ := Option.isSome_iff_exists.mp there
    obtain ⟨refreshed, now, exactly, counters⟩ := refresh_totals_exact_iff _ found
    refine ⟨refreshed, now, ?_, fun holds => (exactly.mp holds).1 none⟩
    rw [counters "connections" Stats.Sample.connections (.head _), if_pos none]

end PeerMesh.Mesh
