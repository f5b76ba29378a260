import PeerMesh.Proofs.Node.Links
import PeerMesh.Proofs.Node.Pursuit

/-!
# Registered connections are pumped

The task that pumps a connection keeps its slot and its socket until it ends, whatever becomes of its
handle. A task begins with every entry, and the end of a task takes the entry along; so every entry
has its task.
-/

set_option autoImplicit false

namespace PeerMesh.Node

variable {node : Node}

/-- The slot and the socket of every task that pumps a connection. -/
def pumps (node : Node) : List (Slot × Endpoint) :=
  node.links.map fun link => (link.slot, link.socket)

/-! ## What tasks keep -/

theorem pumps_updateHandle (node : Node) (slot : Slot) (change : Handle → Handle) :
    (node.updateHandle slot change).pumps = node.pumps := by
  rw [pumps, updateHandle, List.map_map]
  refine List.map_congr_left ?_
  intro link _
  simp only [Function.comp_apply]
  split <;> rfl

theorem pumps_closeHandle (node : Node) (slot : Slot) :
    (node.closeHandle slot).pumps = node.pumps :=
  pumps_updateHandle node slot _

theorem pumps_send (node : Node) (slot : Slot) (bytes : Bytes) :
    (node.send slot bytes).1.pumps = node.pumps := by
  unfold send
  split
  · rfl
  · split
    · rfl
    · split
      · exact pumps_updateHandle node slot _
      · rfl

theorem pumps_startHandshake (node : Node) (slot : Slot) :
    (node.startHandshake slot).pumps = node.pumps := by
  unfold startHandshake
  split
  · rfl
  · exact pumps_send _ slot _

theorem pumps_evict (node : Node) (slot : Slot) : (node.evict slot).1.pumps = node.pumps := by
  unfold evict
  split
  · rfl
  · exact pumps_closeHandle (node.withRegistry _) slot

theorem pumps_discard (node : Node) (slot : Slot) : (node.discard slot).pumps = node.pumps := by
  have evicted := pumps_evict node slot
  unfold discard
  split
  · rename_i rest result
    rwa [result] at evicted
  · rename_i rest entry result
    rw [result] at evicted
    split <;> exact evicted

theorem pumps_identify (node : Node) (around : Surroundings) (slot : Slot) (name : String) :
    (node.identify around slot name).1.pumps = node.pumps := by
  unfold identify
  split
  · rfl
  · split
    · exact pumps_evict node slot
    · split
      · rfl
      · rename_i holder _
        split
        · dsimp only
          split <;> exact pumps_discard node holder
        · exact pumps_discard node slot

theorem pumps_answerHello (node : Node) (slot : Slot) (spoke : Bool) :
    (node.answerHello slot spoke).pumps = node.pumps := by
  unfold answerHello
  split
  · rfl
  · exact pumps_send node slot _

theorem pumps_received (node : Node) (around : Surroundings) (slot : Slot) (bytes : Bytes)
    (moment : Nat) : (node.received around slot bytes moment).pumps = node.pumps := by
  refine received_induction (motive := fun later => later.pumps = node.pumps) rfl ?_ ?_
  · intro name initiated _
    exact pumps_identify (node.listened slot bytes moment) around slot name
  · intro identified initiated same
    exact (pumps_answerHello identified slot initiated).trans same

theorem pumps_dropPeer (node : Node) (peer : String) : (node.dropPeer peer).1.pumps = node.pumps := by
  unfold dropPeer
  split
  · rfl
  · exact pumps_closeHandle (node.withRegistry _) _

theorem pumps_finishTeardown (node : Node) : node.finishTeardown.pumps = node.pumps := by
  have disposed : ∀ other : Node, other.disposeHook.pumps = other.pumps := by
    intro other
    rw [pumps, links_disposeHook, pumps]
  change node.emptyTable.disposeHook.pumps = _
  rw [disposed]
  refine closeAll_induction (motive := fun other => other.pumps = node.pumps) ?_ ?_ _
  · intro other slot same
    rw [pumps_closeHandle, same]
  · rfl

theorem pumps_requestPeering (node : Node) (around : Surroundings) (peer : Option String)
    (address : SocketAddress) (now moment : Nat) :
    (node.requestPeering around peer address now moment).1.pumps = node.pumps := by
  unfold requestPeering
  split <;> rfl

theorem pumps_hearExit (node : Node) : node.hearExit.pumps = node.pumps := by
  unfold hearExit
  split
  · split <;> rfl
  · rfl

theorem pumps_connected_of_open (admitting : node.table.closed = false) (arrived : Arrived)
    (moment : Nat) :
    (node.connected arrived moment).1.pumps = node.pumps ++ [(node.nextSlot, arrived.socket)] := by
  have admitted : (node.admitted arrived moment).pumps =
      node.pumps ++ [(node.nextSlot, arrived.socket)] := List.map_append
  rw [connected_of_open admitting]
  split
  · rw [pumps_startHandshake, admitted]
  · exact admitted

theorem pumps_connected_of_closed (refusing : node.table.closed = true) (arrived : Arrived)
    (moment : Nat) : (node.connected arrived moment).1.pumps = node.pumps := by
  rw [connected_of_closed refusing, turnAway]
  cases arrived.direction <;> rfl

theorem mem_pumps_connected (node : Node) {pump : Slot × Endpoint} (member : pump ∈ node.pumps)
    (arrived : Arrived) (moment : Nat) : pump ∈ (node.connected arrived moment).1.pumps := by
  cases refusing : node.table.closed with
  | true =>
      rw [pumps_connected_of_closed refusing]
      exact member
  | false =>
      rw [pumps_connected_of_open refusing]
      exact List.mem_append_left _ member

theorem pumps_linkEnded (node : Node) (slot : Slot) :
    (node.linkEnded slot).pumps = node.pumps.filter fun pump => pump.1 != slot := by
  rw [pumps, links_linkEnded, pumps, List.filter_map]
  rfl

/-! ## Acts -/

namespace Situation

/-- A task goes on through every act but its own end. -/
theorem mem_pumps_step {before : Situation} {act : Act} {pump : Slot × Endpoint}
    (member : pump ∈ before.node.pumps) (unended : act ≠ .linkEnds pump.1) :
    pump ∈ (before.step act).node.pumps := by
  have same : ∀ {later : Node}, later.pumps = before.node.pumps → pump ∈ later.pumps := by
    intro later kept
    rwa [kept]
  cases act with
  | requests around peer address now moment => exact same (pumps_requestPeering _ _ _ _ _ _)
  | dialFails number =>
      simp only [step]
      split <;> exact member
  | dialConnects number socket moment =>
      simp only [step]
      split
      · exact member
      · exact mem_pumps_connected (before.node.withoutDial number) member _ moment
  | accepts remote socket moment => exact mem_pumps_connected before.node member _ moment
  | identifies around slot name => exact same (pumps_identify _ around slot name)
  | receives around slot bytes moment =>
      simp only [step]
      split
      · exact same (pumps_received _ around slot bytes moment)
      · exact member
  | sends slot bytes => exact same (pumps_send _ slot bytes)
  | writes slot => exact same (pumps_updateHandle _ slot _)
  | closesHandle slot => exact same (pumps_closeHandle _ slot)
  | linkEnds slot =>
      simp only [step]
      split
      · have other : pump.1 ≠ slot := fun ended => unended (ended ▸ rfl)
        rw [pumps_linkEnded]
        exact List.mem_filter.mpr ⟨member, bne_iff_ne.mpr other⟩
      · exact member
  | drops peer => exact same (pumps_dropPeer _ peer)
  | finishesTeardown =>
      simp only [step]
      split
      · exact same (pumps_finishTeardown _)
      · exact member
  | firesExit => exact same (pumps_hearExit _)
  | asksClose | grantsPermit | storesHook | changesListener | drawsElsewhere => exact member

/-- What is registered after an act was registered before, or is what the act registers. -/
theorem registered_of_step {before : Situation} (sound : before.node.ledger.Sound) {act : Act}
    {entry : Connection} (member : entry ∈ (before.step act).node.table.registry.entries) :
    (∃ old ∈ before.node.table.registry.entries, old.slot = entry.slot) ∨
      before.Admits act entry := by
  have effect := step_effect sound act
  have admits : before.node.table.registry.lastSlot < entry.slot.number →
      before.Admits act entry := fun fresh => ⟨member, fresh⟩
  change entry ∈ (before.step act).node.ledger.registry.entries at member
  change (∃ old ∈ before.node.ledger.registry.entries, old.slot = entry.slot) ∨ _
  generalize (before.step act).node.ledger = result at effect member
  cases effect with
  | nothing | began | failed | turnedAway => exact .inl ⟨entry, member, rfl⟩
  | connected | accepted =>
      cases List.mem_append.mp member with
      | inl old => exact .inl ⟨entry, old, rfl⟩
      | inr new =>
          cases List.mem_singleton.mp new
          exact .inr (admits (Nat.lt_succ_self _))
  | noted =>
      obtain ⟨old, oldMember, same⟩ := Registry.mem_entries_touch member
      exact .inl ⟨old, oldMember, by rw [same]⟩
  | named naming =>
      obtain ⟨old, oldMember, same, -⟩ := naming.exists_old entry member
      exact .inl ⟨old, oldMember, same⟩
  | @greeted _ slot _ moment _ naming =>
      obtain ⟨noted, notedMember, same, -⟩ := naming.exists_old entry member
      obtain ⟨old, oldMember, kept⟩ := Registry.mem_entries_touch notedMember
      exact .inl ⟨old, oldMember, by rw [← same, kept]⟩
  | linkEnded ended =>
      rw [Ledger.registry_dismissed] at member
      exact .inl ⟨entry, (Registry.mem_entries_without.mp member).1, rfl⟩
  | dropped dropped => exact .inl ⟨entry, (Registry.mem_entries_without.mp member).1, rfl⟩
  | emptied => cases member

end Situation

/-- A task pumps the connection under a slot. -/
def IsPumped (node : Node) (slot : Slot) : Prop :=
  ∃ socket, (slot, socket) ∈ node.pumps

/-- Every registered connection is pumped. -/
def Pumped (node : Node) : Prop :=
  ∀ entry ∈ node.table.registry.entries, node.IsPumped entry.slot

theorem isPumped_nextSlot (node : Node) (admitting : node.table.closed = false) (arrived : Arrived)
    (moment : Nat) : (node.connected arrived moment).1.IsPumped node.nextSlot := by
  refine ⟨arrived.socket, ?_⟩
  rw [pumps_connected_of_open admitting]
  exact List.mem_append_right _ List.mem_cons_self

theorem slot_ne_of_linkEnded {slot : Slot} {entry : Connection}
    (member : entry ∈ (node.linkEnded slot).table.registry.entries) : entry.slot ≠ slot := by
  rw [registry_linkEnded] at member
  exact (Registry.mem_entries_remove.mp member).2

theorem Pumped.step {before : Situation} (pumped : before.node.Pumped)
    (sound : before.node.ledger.Sound) (act : Act) : (before.step act).node.Pumped := by
  intro entry member
  cases Situation.registered_of_step sound member with
  | inl old =>
      obtain ⟨earlier, registered, same⟩ := old
      obtain ⟨socket, pump⟩ := pumped earlier registered
      rw [same] at pump
      by_cases ended : act = .linkEnds entry.slot
      · -- a task that ends takes its entry along
        subst ended
        simp only [Situation.step] at member ⊢
        split at member
        · exact absurd rfl (slot_ne_of_linkEnded member)
        · rename_i unpumped
          rw [if_neg unpumped]
          exact ⟨socket, pump⟩
      · exact ⟨socket, Situation.mem_pumps_step pump ended⟩
  | inr admits =>
      obtain ⟨admitting, slot, -, born⟩ := Situation.admits_cases sound admits
      rw [slot]
      cases born with
      | inl accepted =>
          obtain ⟨remote, socket, moment, rfl, -⟩ := accepted
          exact isPumped_nextSlot before.node admitting _ moment
      | inr connected =>
          obtain ⟨dial, dialed, socket, moment, rfl, -⟩ := connected
          simp only [Situation.step, dial?_of_mem sound dialed]
          exact isPumped_nextSlot (before.node.withoutDial dial.number) admitting _ moment

theorem pumped_run {start : Situation} (initial : start.Initial) (acts : List Act) :
    (start.run acts).node.Pumped := by
  apply run_induction_of_sound (·.node.Pumped) initial
  · obtain ⟨profile, request, moment, fresh⟩ := initial
    rw [fresh]
    intro entry member
    cases member
  · intro before act sound pumped
    exact pumped.step sound act

end PeerMesh.Node
