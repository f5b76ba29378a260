import PeerMesh.Proofs.Node.Closing
import PeerMesh.Proofs.Node.Links

/-!
# Peers that a node has no part in

A node shuns a peer if no open connection of it is identified as that peer. An act that sees the
peer blocked leaves it shunned: no connection gets a blocked name, a new connection comes without one,
and a handle that was closed stays closed. To drop a peer is to shun it.
-/

set_option autoImplicit false

namespace PeerMesh

namespace Registry

/-- No connection is identified as `peer` in the later registry that was not in the earlier one. -/
def Spares (peer : String) (earlier later : Registry) : Prop :=
  ∀ entry ∈ later.entries, entry.identified = true → entry.name = peer →
    ∃ old ∈ earlier.entries, old.identified = true ∧ old.name = peer ∧ old.slot = entry.slot

variable {peer : String} {earlier later registry : Registry}

theorem Spares.of_subset (fewer : ∀ entry ∈ later.entries, entry ∈ earlier.entries) :
    Spares peer earlier later :=
  fun entry member identified named => ⟨entry, fewer entry member, identified, named, rfl⟩

theorem Spares.trans {last : Registry} (first : Spares peer earlier later)
    (second : Spares peer later last) : Spares peer earlier last := by
  intro entry member identified named
  obtain ⟨old, oldMember, oldIdentified, oldNamed, slot⟩ := second entry member identified named
  obtain ⟨oldest, oldestMember, identifiedFirst, namedFirst, slotFirst⟩ :=
    first old oldMember oldIdentified oldNamed
  exact ⟨oldest, oldestMember, identifiedFirst, namedFirst, slotFirst.trans slot⟩

theorem spares_without (registry : Registry) (entry : Connection) :
    Spares peer registry (registry.without entry) :=
  Spares.of_subset fun _ member => (mem_entries_without.mp member).1

theorem spares_touch (registry : Registry) (slot : Slot) (moment : Nat) :
    Spares peer registry (registry.touch slot moment) := by
  intro entry member identified named
  obtain ⟨old, oldMember, same⟩ := mem_entries_touch member
  rw [same] at identified named
  exact ⟨old, oldMember, identified, named, by rw [same]⟩

/-- A connection comes without the name of a peer. -/
theorem spares_insert (registry : Registry) (new : NewConnection) (moment : Nat) :
    Spares peer registry (registry.insert new moment).1 := by
  intro entry member identified named
  rcases List.mem_append.mp member with old | fresh
  · exact ⟨entry, old, identified, named, rfl⟩
  · rw [List.mem_singleton.mp fresh] at identified
    cases identified

theorem spares_identifiedAs (registry : Registry) (entry : Connection) {name : String}
    (different : name ≠ peer) : Spares peer registry (registry.identifiedAs entry name) := by
  intro other member identified named
  obtain ⟨old, oldMember, rfl⟩ := mem_entries_identifiedAs.mp member
  by_cases same : old.slot = entry.slot
  · rw [if_pos same] at named
    exact absurd named different
  · rw [if_neg same] at identified named
    exact ⟨old, oldMember, identified, named, by rw [if_neg same]⟩

end Registry

namespace Node

open Registry (Spares)

variable {node : Node} {around : Surroundings} {peer : String}

/-! ## Names -/

theorem ne_of_accepted {name : String} (blocked : around.blocks peer = true)
    (accepted : nameRefusal? around name = none) : name ≠ peer := by
  rintro rfl
  rw [nameRefusal?, if_pos blocked] at accepted
  cases accepted

/-- No connection gets a blocked name. -/
theorem spares_identify (sound : node.table.registry.Sound) (blocked : around.blocks peer = true)
    (slot : Slot) (name : String) :
    Spares peer node.table.registry (node.identify around slot name).1.table.registry := by
  have outcome := identify_spec sound around slot name
  generalize node.identify around slot name = result at outcome
  cases outcome with
  | unknown => exact Spares.of_subset fun _ member => member
  | refused entry => exact Registry.spares_without _ entry
  | free entry found accepted =>
      exact Registry.spares_identifiedAs _ entry (ne_of_accepted blocked accepted)
  | taken entry holder found accepted =>
      refine (Registry.spares_without _ holder).trans ?_
      rw [← registry_dismissed]
      exact Registry.spares_identifiedAs _ entry (ne_of_accepted blocked accepted)
  | lost entry =>
      rw [registry_dismissed]
      exact Registry.spares_without _ entry

theorem spares_received (sound : node.table.registry.Sound) (blocked : around.blocks peer = true)
    (slot : Slot) (bytes : Bytes) (moment : Nat) :
    Spares peer node.table.registry (node.received around slot bytes moment).table.registry := by
  have touched : Spares peer node.table.registry (node.listened slot bytes moment).table.registry :=
    Registry.spares_touch _ slot moment
  refine received_induction
    (motive := fun later => Spares peer node.table.registry later.table.registry) touched ?_ ?_
  · intro name initiated _
    exact touched.trans (spares_identify (Registry.sound_touch sound slot moment) blocked slot name)
  · intro identified initiated spares
    have books := congrArg Ledger.registry (ledger_answerHello identified slot initiated)
    change (identified.answerHello slot initiated).table.registry = identified.table.registry at books
    rw [books]
    exact spares

/-! ## Acts -/

/-- What an act sees of context and group, if it looks at them. -/
def Act.around? : Act → Option Surroundings
  | .requests around _ _ _ _ => some around
  | .identifies around _ _ => some around
  | .receives around _ _ _ => some around
  | _ => none

/-- No connection gets the name of a peer that the act sees blocked. -/
theorem spares_step {before : Situation} (sound : before.node.ledger.Sound) {act : Act}
    (blocked : ∀ around, act.around? = some around → around.blocks peer = true) :
    Spares peer before.node.table.registry (before.step act).node.table.registry := by
  have effect := step_effect sound act
  have quiet : ∀ {result : Ledger}, (∀ around slot name, act ≠ .identifies around slot name) →
      (∀ around slot bytes moment, act ≠ .receives around slot bytes moment) →
      Effect before act result → Spares peer before.node.ledger.registry result.registry := by
    intro result unnamed silent effect
    cases effect with
    | nothing | began | failed | turnedAway => exact Spares.of_subset fun _ member => member
    | connected | accepted => exact Registry.spares_insert _ _ _
    | named => exact absurd rfl (unnamed _ _ _)
    | noted => exact absurd rfl (silent _ _ _ _)
    | greeted => exact absurd rfl (silent _ _ _ _)
    | linkEnded entry =>
        rw [Ledger.registry_dismissed]
        exact Registry.spares_without _ entry
    | dropped entry => exact Registry.spares_without _ entry
    | emptied =>
        refine Spares.of_subset ?_
        rintro entry ⟨⟩
  cases act with
  | identifies around slot name =>
      exact spares_identify sound.registry (blocked around rfl) slot name
  | receives around slot bytes moment =>
      simp only [Situation.step]
      split
      · exact spares_received sound.registry (blocked around rfl) slot bytes moment
      · exact Spares.of_subset fun _ member => member
  | _ => exact quiet (by simp) (by simp) effect

/-! ## Shunning -/

/-- No open connection of the node is identified as `peer`. -/
def Shuns (node : Node) (peer : String) : Prop :=
  ∀ entry ∈ node.table.registry.entries, entry.identified = true → entry.name = peer →
    node.isOpen entry.slot = false

theorem Shuns.of_no_entries (empty : node.table.registry.entries = []) : node.Shuns peer := by
  intro entry member
  rw [empty] at member
  cases member

theorem Shuns.of_no_links (unlinked : node.links = []) : node.Shuns peer := by
  intro entry _ _ _
  simp [isOpen, link?, unlinked]

/-- An act that sees the peer blocked does not end the shunning. -/
theorem Shuns.step {before : Situation} (shuns : before.node.Shuns peer)
    (sound : before.node.ledger.Sound) (threaded : before.node.Threaded) {act : Act}
    (blocked : ∀ around, act.around? = some around → around.blocks peer = true) :
    (before.step act).node.Shuns peer := by
  intro entry member identified named
  obtain ⟨old, oldMember, oldIdentified, oldNamed, sameSlot⟩ :=
    spares_step sound blocked entry member identified named
  have closed := shuns old oldMember oldIdentified oldNamed
  have issued := sound.registry.slotsIssued old oldMember
  rw [sameSlot] at closed issued
  rw [Bool.eq_false_iff]
  intro isOpen
  rw [isOpen_of_step threaded sound issued isOpen] at closed
  cases closed

/-- A peer that was dropped is shunned. -/
theorem shuns_dropPeer (sound : node.ledger.Sound) (peer : String) :
    (node.dropPeer peer).1.Shuns peer := by
  have resolved : ∀ entry ∈ node.table.registry.entries, entry.identified = true →
      entry.name = peer → node.table.registry.slotForName? peer = some entry.slot := by
    rintro entry member identified rfl
    exact sound.registry.identifiedFound entry member identified
  rcases dropPeer_cases node peer with same | ⟨dropped, resolvedDropped, found, isOpen, same⟩
  · rw [same]
    intro entry member identified named
    rw [Bool.eq_false_iff]
    intro isOpen
    have search : node.table.registry.get? entry.slot = some entry :=
      Registry.get?_of_mem sound.registry member
    have dropped : (node.dropPeer peer).2 = true := by
      simp only [dropPeer, Registry.removeOpenNamed, resolved entry member identified named, search,
        isOpen, Option.isSome_some, Bool.and_self, if_true, Registry.remove_of_get? search]
    rw [same] at dropped
    cases dropped
  · rw [same]
    intro entry member identified named
    obtain ⟨old, different⟩ := Registry.mem_entries_without.mp member
    have holder := resolved entry old identified named
    rw [resolvedDropped] at holder
    exact absurd (Option.some.inj holder).symm different

end Node

end PeerMesh
