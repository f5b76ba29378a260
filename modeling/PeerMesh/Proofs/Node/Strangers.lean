import PeerMesh.Proofs.Node.Names
import PeerMesh.Proofs.Node.Settlement

/-!
# Whom an identification evicts

A name in the index need not be the name of a peer: a connection that waits for its identification
is found there by its placeholder. So a remote side that names itself by a placeholder collides with
a connection that has nothing to do with it, and evicts it where the directions decide against the
one that waits. In every other case only the connection itself may go, and the one that was
identified as the same peer before.
-/

set_option autoImplicit false

namespace PeerMesh.Node

/-- Every connection besides the one under `slot` stands as before, unless it had been identified as
`name`. -/
def SparesStrangers (before after : Node) (slot : Slot) (name : String) : Prop :=
  ∀ other ∈ before.table.registry.entries, other.slot ≠ slot →
    ¬ (other.identified = true ∧ other.name = name) →
      after.standing other.slot = before.standing other.slot

/-- The connection `entry` is given the name under which the index finds `stranger`, which waits for
its identification, and the directions are in its favour. -/
structure TakesPlaceholder (node : Node) (around : Surroundings) (entry stranger : Connection)
    (name : String) : Prop where
  found : node.table.registry.get? entry.slot = some entry
  unblocked : around.blocks name = false
  foreign : around.isMember name = false
  strangerFound : node.table.registry.get? stranger.slot = some stranger
  waiting : stranger.identified = false
  resolved : node.table.registry.slotForName? name = some stranger.slot
  opposite : stranger.direction ≠ entry.direction
  preferred : entry.direction = if node.profile.id < name then .outbound else .inbound

variable {node : Node} {around : Surroundings} {entry stranger : Connection} {slot : Slot}
  {name : String}

namespace TakesPlaceholder

variable (takes : node.TakesPlaceholder around entry stranger name)

include takes

theorem different : stranger.slot ≠ entry.slot := by
  intro same
  have strangerFound := takes.strangerFound
  rw [same, takes.found] at strangerFound
  exact takes.opposite (congrArg Connection.direction (Option.some.inj strangerFound)).symm

/-- The stranger goes, whatever comes of the one that takes its place. -/
theorem identify_eq (sound : node.table.registry.Sound) :
    (node.identify around entry.slot name).1 = (node.dismissed stranger).withName entry name := by
  have accepts : nameRefusal? around name = none :=
    nameRefusal?_eq_none_iff.mpr ⟨takes.unblocked, takes.foreign⟩
  have same : ∀ {other}, node.table.registry.get? entry.slot = some other → other = entry :=
    fun otherFound => Option.some.inj (otherFound.symm.trans takes.found)
  have holds : ∀ {holder : Connection}, node.table.registry.get? holder.slot = some holder →
      node.table.registry.slotForName? name = some holder.slot → holder = stranger := by
    intro holder holderFound held
    have sameSlot := Option.some.inj (held.symm.trans takes.resolved)
    rw [sameSlot, takes.strangerFound] at holderFound
    exact (Option.some.inj holderFound).symm
  have outcome := identify_spec sound around entry.slot name
  generalize node.identify around entry.slot name = result at outcome
  cases outcome with
  | unknown absent => exact absurd (absent.symm.trans takes.found) nofun
  | refused other reason found refusal => exact absurd (refusal.symm.trans accepts) nofun
  | free other found accepted unheld => exact absurd (unheld _ takes.resolved) takes.different
  | taken other holder found accepted holderFound held =>
      rw [same found, holds holderFound held]
  | lost other holder found accepted holderFound held different outranked =>
      rw [same found, holds holderFound held] at outranked
      exact absurd takes.preferred (outranked takes.opposite)

theorem ousted (sound : node.table.registry.Sound) (pumped : node.Pumped) :
    ((node.identify around entry.slot name).1.standing stranger.slot).Ousted := by
  rw [takes.identify_eq sound, standing_withName_of_ne takes.different]
  exact (ousts_dismissed (pumped stranger (Registry.mem_of_get? takes.strangerFound))).ousted

theorem not_sparesStrangers (sound : node.table.registry.Sound) (pumped : node.Pumped) :
    ¬ node.SparesStrangers (node.identify around entry.slot name).1 entry.slot name := by
  intro spares
  have unidentified : ¬ (stranger.identified = true ∧ stranger.name = name) := by
    rw [takes.waiting]
    exact fun both => nomatch both.1
  have kept := spares stranger (Registry.mem_of_get? takes.strangerFound) takes.different
    unidentified
  have gone := (takes.ousted sound pumped).unregistered
  rw [kept] at gone
  exact absurd (gone.symm.trans takes.strangerFound) nofun

end TakesPlaceholder

theorem sparesStrangers_of_others {after : Node}
    (others : ∀ other, other ≠ slot → after.standing other = node.standing other) :
    node.SparesStrangers after slot name :=
  fun other _ different _ => others other.slot different

/-- A holder that has to go was identified as the name, unless its placeholder was taken. -/
theorem sparesStrangers_identify (sound : node.table.registry.Sound) (pumped : node.Pumped)
    (untaken : ∀ entry stranger, entry.slot = slot →
      ¬ node.TakesPlaceholder around entry stranger name) :
    node.SparesStrangers (node.identify around slot name).1 slot name := by
  have outcome := identify_spec sound around slot name
  generalize node.identify around slot name = result at outcome
  cases outcome with
  | unknown => exact sparesStrangers_of_others fun _ _ => rfl
  | refused entry reason found =>
      obtain rfl := Registry.slot_of_get? found
      exact sparesStrangers_of_others (ousts_refused (pumped entry (Registry.mem_of_get? found))).others
  | free entry found =>
      obtain rfl := Registry.slot_of_get? found
      exact sparesStrangers_of_others fun other different => standing_withName_of_ne different name
  | lost entry holder found =>
      obtain rfl := Registry.slot_of_get? found
      exact sparesStrangers_of_others
        (ousts_dismissed (pumped entry (Registry.mem_of_get? found))).others
  | taken entry holder found accepted holderFound held different opposite preferred =>
      obtain rfl := Registry.slot_of_get? found
      obtain ⟨unblocked, foreign⟩ := nameRefusal?_eq_none_iff.mp accepted
      have holderIdentified : holder.identified = true := by
        by_contra waiting
        rw [Bool.not_eq_true] at waiting
        exact untaken entry holder rfl
          ⟨found, unblocked, foreign, holderFound, waiting, held, opposite, preferred⟩
      intro other member otherDifferent stranger
      have foreignToHolder : other.slot ≠ holder.slot := by
        intro same
        obtain rfl := Registry.eq_of_get? sound holderFound member same
        exact stranger ⟨holderIdentified, Registry.name_of_slotForName? sound holderFound held⟩
      rw [standing_withName_of_ne otherDifferent]
      exact (ousts_dismissed (pumped holder (Registry.mem_of_get? holderFound))).others other.slot
        foreignToHolder

namespace Situation

/-- In every situation an identification spares the connections that are none of its business
exactly if the connection does not take the placeholder of one that waits. Where it does, the name is
a placeholder that was given out, and the one that waited under it is ousted. -/
theorem sparesStrangers_iff_placeholder_untaken {start : Situation} (initial : start.Initial)
    (acts : List Act) (around : Surroundings) (slot : Slot) (name : String) :
    let reached := start.run acts
    let after := (reached.node.identify around slot name).1
    (reached.node.SparesStrangers after slot name ↔ ∀ entry stranger, entry.slot = slot →
      ¬ reached.node.TakesPlaceholder around entry stranger name) ∧
    ∀ entry stranger, entry.slot = slot →
      reached.node.TakesPlaceholder around entry stranger name →
        (∃ session ≤ reached.sessions, name = Context.placeholder session) ∧
          (after.standing stranger.slot).Ousted := by
  intro reached after
  have sound := (sound_run initial acts).registry
  have pumped := pumped_run initial acts
  refine ⟨⟨?_, sparesStrangers_identify sound pumped⟩, ?_⟩
  · rintro spares entry stranger rfl takes
    exact takes.not_sparesStrangers sound pumped spares
  · rintro entry stranger rfl takes
    obtain ⟨session, bound, placeholder⟩ := (named_run initial acts).placed.drawn stranger
      (Registry.mem_of_get? takes.strangerFound) takes.waiting
    rw [Registry.name_of_slotForName? sound takes.strangerFound takes.resolved] at placeholder
    exact ⟨⟨session, bound, placeholder⟩, takes.ousted sound pumped⟩

/-- A connection waits for its identification while another is dialed, whose peer gives itself the
placeholder of the first. -/
def peerNamedByPlaceholder : List Act :=
  [.accepts (.v4 ⟨192, 0, 2, 10⟩ 5000) ⟨0, .callee⟩ 1,
    .requests aloof none (.v4 ⟨192, 0, 2, 1⟩ 5000) 0 2, .dialConnects 0 ⟨1, .caller⟩ 3]

theorem not_sparesStrangers_peerNamedByPlaceholder :
    let before := ((lone 40000).run peerNamedByPlaceholder).node
    let after := (before.identify aloof ⟨2⟩ "temp-uuid-1").1
    ¬ before.SparesStrangers after ⟨2⟩ "temp-uuid-1" ∧ (after.standing ⟨1⟩).Ousted := by
  intro before after
  let waiting : Connection :=
    ⟨⟨1⟩, "temp-uuid-1", false, .v4 ⟨192, 0, 2, 10⟩ 5000, .inbound, none, 1⟩
  let dialed : Connection :=
    ⟨⟨2⟩, "temp-uuid-2", false, .v4 ⟨192, 0, 2, 1⟩ 5000, .outbound, none, 3⟩
  have takes : before.TakesPlaceholder aloof dialed waiting "temp-uuid-1" :=
    { found := by decide
      unblocked := by decide
      foreign := by decide
      strangerFound := by decide
      waiting := rfl
      resolved := by decide
      opposite := by decide
      preferred := by decide }
  have spares := sparesStrangers_iff_placeholder_untaken (initial_lone 40000)
    peerNamedByPlaceholder aloof ⟨2⟩ "temp-uuid-1"
  exact ⟨fun spared => spares.1.mp spared dialed waiting rfl takes,
    (spares.2 dialed waiting rfl takes).2⟩

end Situation

end PeerMesh.Node
