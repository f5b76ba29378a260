import PeerMesh.Proofs.Node.Closing
import PeerMesh.Proofs.Node.Links

/-!
# Open connections are registered

A connection is registered as long as its handle is open: whatever takes an entry out of the registry
closes the handle in the same step. So nothing is open any more once the table has been emptied.
-/

set_option autoImplicit false

namespace PeerMesh.Node

/-- Every link whose handle is open is registered. -/
def Anchored (node : Node) : Prop :=
  ∀ link ∈ node.links, link.handle.isOpen = true →
    ∃ entry ∈ node.table.registry.entries, entry.slot = link.slot

variable {node earlier later : Node}

theorem Anchored.of_wanes (anchored : earlier.Anchored) (fewer : Wanes earlier.links later.links)
    (kept : ∀ entry ∈ earlier.table.registry.entries,
      ∃ same ∈ later.table.registry.entries, same.slot = entry.slot) : later.Anchored := by
  intro link member isOpen
  obtain ⟨old, oldMember, sameSlot, oldOpen⟩ := fewer.opened link member isOpen
  obtain ⟨entry, registered, slot⟩ := anchored old oldMember oldOpen
  obtain ⟨same, still, slotKept⟩ := kept entry registered
  exact ⟨same, still, (slotKept.trans slot).trans sameSlot⟩

theorem Anchored.of_same (anchored : earlier.Anchored) (fewer : Wanes earlier.links later.links)
    (registry : later.table.registry = earlier.table.registry) : later.Anchored := by
  apply anchored.of_wanes fewer
  intro entry member
  rw [registry]
  exact ⟨entry, member, rfl⟩

theorem Anchored.send (anchored : node.Anchored) (slot : Slot) (bytes : Bytes) :
    (node.send slot bytes).1.Anchored :=
  anchored.of_same (wanes_send node slot bytes) (congrArg Ledger.registry (ledger_send _ _ _))

/-! ## Entries that go -/

/-- What is open after a handle was closed is another connection, and was open before. -/
theorem exists_open_of_closeHandle {slot : Slot} {link : Link}
    (member : link ∈ (node.closeHandle slot).links) (isOpen : link.handle.isOpen = true) :
    link ∈ node.links ∧ link.slot ≠ slot := by
  obtain ⟨old, oldMember, rfl⟩ := List.mem_map.mp member
  by_cases same : old.slot = slot
  · rw [if_pos same] at isOpen
    cases isOpen
  · rw [if_neg same]
    exact ⟨oldMember, same⟩

theorem Anchored.expelled (anchored : node.Anchored) (entry : Connection) :
    (node.expelled entry).Anchored := by
  intro link member isOpen
  obtain ⟨old, different⟩ := exists_open_of_closeHandle member isOpen
  obtain ⟨other, registered, slot⟩ := anchored link old isOpen
  rw [← slot] at different
  exact ⟨other, Registry.mem_entries_without.mpr ⟨registered, different⟩, slot⟩

theorem Anchored.dismissed (anchored : node.Anchored) (entry : Connection) :
    (node.dismissed entry).Anchored := by
  unfold Node.dismissed
  split
  · exact anchored.expelled entry
  · exact (anchored.expelled entry).of_same (Wanes.refl _) rfl

theorem Anchored.withName (anchored : node.Anchored) (entry : Connection) (name : String) :
    (node.withName entry name).Anchored := by
  refine anchored.of_wanes (Wanes.refl _) ?_
  intro other registered
  refine ⟨_, Registry.mem_entries_identifiedAs.mpr ⟨other, registered, rfl⟩, ?_⟩
  split <;> rfl

theorem Anchored.identify (anchored : node.Anchored) (sound : node.table.registry.Sound)
    (around : Surroundings) (slot : Slot) (name : String) :
    (node.identify around slot name).1.Anchored := by
  have outcome := identify_spec sound around slot name
  generalize node.identify around slot name = result at outcome
  cases outcome with
  | unknown => exact anchored
  | refused entry => exact (anchored.expelled entry).of_same (Wanes.refl _) rfl
  | free entry => exact anchored.withName entry name
  | taken entry holder => exact (anchored.dismissed holder).withName entry name
  | lost entry => exact anchored.dismissed entry

theorem Anchored.received (anchored : node.Anchored) (sound : node.table.registry.Sound)
    (around : Surroundings) (slot : Slot) (bytes : Bytes) (moment : Nat) :
    (node.received around slot bytes moment).Anchored := by
  have listened : (node.listened slot bytes moment).Anchored := by
    refine anchored.of_wanes (Wanes.refl _) ?_
    intro entry registered
    obtain ⟨same, member, kept⟩ := Registry.exists_mem_touch slot moment registered
    exact ⟨same, member, by rw [kept]⟩
  refine received_induction listened ?_ ?_
  · intro name initiated _
    exact listened.identify (Registry.sound_touch sound slot moment) around slot name
  · intro identified initiated anchoredStill
    unfold answerHello
    split
    · exact anchoredStill
    · exact anchoredStill.send slot _

theorem Anchored.linkEnded (anchored : node.Anchored) (slot : Slot) :
    (node.linkEnded slot).Anchored := by
  cases search : node.ledger.registry.get? slot with
  | none =>
      exact anchored.of_same (wanes_linkEnded node slot)
        (congrArg Ledger.registry (ledger_linkEnded_of_get?_eq_none search))
  | some entry =>
      have books := congrArg Ledger.registry (ledger_linkEnded_of_get? search)
      rw [Ledger.registry_dismissed] at books
      intro link member isOpen
      have different : link.slot ≠ slot := bne_iff_ne.mp (List.mem_filter.mp member).2
      obtain ⟨old, oldMember, same, oldOpen⟩ :=
        (wanes_linkEnded node slot).opened link member isOpen
      obtain ⟨other, registered, anchor⟩ := anchored old oldMember oldOpen
      rw [same] at anchor
      refine ⟨other, ?_, anchor⟩
      change other ∈ (node.linkEnded slot).ledger.registry.entries
      rw [books]
      refine Registry.mem_entries_without.mpr ⟨registered, ?_⟩
      rwa [anchor, Registry.slot_of_get? search]

theorem Anchored.connected (anchored : node.Anchored) (arrived : Arrived) (moment : Nat) :
    (node.connected arrived moment).1.Anchored := by
  cases closed : node.table.closed with
  | true =>
      rw [connected_of_closed closed, turnAway]
      cases arrived.direction with
      | inbound => exact anchored
      | outbound => exact anchored.of_same (Wanes.refl _) rfl
  | false =>
      have admitted : (node.admitted arrived moment).Anchored := by
        intro link member isOpen
        cases List.mem_append.mp member with
        | inl old =>
            obtain ⟨entry, registered, slot⟩ := anchored link old isOpen
            exact ⟨entry, List.mem_append_left _ registered, slot⟩
        | inr new =>
            cases List.mem_singleton.mp new
            exact ⟨_, List.mem_append_right _ List.mem_cons_self, rfl⟩
      rw [connected_of_open closed]
      split
      · exact admitted.of_same (wanes_startHandshake _ _)
          (congrArg Ledger.registry (ledger_startHandshake _ _))
      · exact admitted

/-- What is open after some connections were closed is none of them. -/
theorem exists_open_of_closeAll {entries : List Connection} {link : Link}
    (member : link ∈ (node.closeAll entries).links) (isOpen : link.handle.isOpen = true) :
    link ∈ node.links ∧ ∀ entry ∈ entries, entry.slot ≠ link.slot := by
  induction entries generalizing node with
  | nil => exact ⟨member, nofun⟩
  | cons entry rest ih =>
      obtain ⟨closing, apart⟩ := ih member
      obtain ⟨old, different⟩ := exists_open_of_closeHandle closing isOpen
      refine ⟨old, ?_⟩
      intro other among
      cases among with
      | head => exact different.symm
      | tail _ later => exact apart other later

/-- The teardown closes everything, because everything open is registered. -/
theorem Anchored.finishTeardown (anchored : node.Anchored) : node.finishTeardown.Anchored := by
  intro link member isOpen
  change link ∈ node.emptyTable.disposeHook.links at member
  rw [links_disposeHook] at member
  obtain ⟨old, apart⟩ := exists_open_of_closeAll member isOpen
  obtain ⟨entry, registered, slot⟩ := anchored link old isOpen
  exact absurd slot (apart entry registered)

theorem Anchored.step {before : Situation} (anchored : before.node.Anchored)
    (sound : before.node.ledger.Sound) (act : Act) : (before.step act).node.Anchored := by
  have same : ∀ {later : Node}, later.ledger.registry = before.node.ledger.registry →
      Wanes before.node.links later.links → later.Anchored :=
    fun registry fewer => anchored.of_same fewer registry
  cases act with
  | requests around peer address now moment =>
      simp only [Situation.step, requestPeering]
      split
      · exact anchored
      · exact same rfl (Wanes.refl _)
      · exact same rfl (Wanes.refl _)
  | dialFails number =>
      simp only [Situation.step]
      split
      · exact anchored
      · exact same rfl (Wanes.refl _)
  | dialConnects number socket moment =>
      simp only [Situation.step]
      split
      · exact anchored
      · have ended : (before.node.withoutDial number).Anchored := same rfl (Wanes.refl _)
        exact ended.connected _ moment
  | accepts remote socket moment => exact anchored.connected _ moment
  | identifies around slot name => exact anchored.identify sound.registry around slot name
  | receives around slot bytes moment =>
      simp only [Situation.step]
      split
      · exact anchored.received sound.registry around slot bytes moment
      · exact anchored
  | sends slot bytes => exact anchored.send slot bytes
  | writes slot =>
      refine same rfl (wanes_updateHandle before.node slot ?_)
      intro handle isOpen
      rwa [Handle.isOpen_receive] at isOpen
  | closesHandle slot => exact same rfl (wanes_closeHandle before.node slot)
  | linkEnds slot =>
      simp only [Situation.step]
      split
      · exact anchored.linkEnded slot
      · exact anchored
  | drops peer =>
      cases dropPeer_cases before.node peer with
      | inl unchanged =>
          simp only [Situation.step, unchanged]
          exact anchored
      | inr dropped =>
          obtain ⟨entry, -, -, -, result⟩ := dropped
          simp only [Situation.step, result]
          exact anchored.expelled entry
  | finishesTeardown =>
      simp only [Situation.step]
      split
      · exact anchored.finishTeardown
      · exact anchored
  | firesExit =>
      simp only [Situation.step, hearExit]
      split
      · split <;> exact anchored
      · exact anchored
  | asksClose | grantsPermit | storesHook | changesListener | drawsElsewhere => exact anchored

end PeerMesh.Node
