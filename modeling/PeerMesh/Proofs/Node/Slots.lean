import PeerMesh.Proofs.Node.Admission
import PeerMesh.Proofs.Node.Effect

/-!
# How slots are given out

Slots are numbered in the order in which connections are registered. Only a new connection gets one,
and it gets the next.
-/

set_option autoImplicit false

namespace PeerMesh.Node

namespace Ledger

@[simp] theorem lastSlot_dismissed (ledger : Ledger) (entry : Connection) :
    (ledger.dismissed entry).registry.lastSlot = ledger.registry.lastSlot := by
  rw [registry_dismissed]
  rfl

theorem Naming.lastSlot_eq {ledger result : Ledger} (naming : ledger.Naming result) :
    result.registry.lastSlot = ledger.registry.lastSlot := by
  cases naming with
  | refused => rfl
  | free => rfl
  | taken entry holder => exact lastSlot_dismissed ledger holder
  | lost entry => exact lastSlot_dismissed ledger entry

end Ledger

namespace Situation

/-- The act registers the connection `entry`. -/
def Admits (before : Situation) (act : Act) (entry : Connection) : Prop :=
  entry ∈ (before.step act).node.table.registry.entries ∧
    before.node.table.registry.lastSlot < entry.slot.number

/-- The address from which an act brings a connection, if it brings one. -/
def origin? (before : Situation) : Act → Option SocketAddress
  | .accepts remote _ _ => some remote
  | .dialConnects number _ _ => (before.node.dial? number).map (·.address)
  | _ => none

theorem lastSlot_le_step {before : Situation} (sound : before.node.ledger.Sound) (act : Act) :
    before.node.table.registry.lastSlot ≤ (before.step act).node.table.registry.lastSlot := by
  have effect := step_effect sound act
  change before.node.ledger.registry.lastSlot ≤ (before.step act).node.ledger.registry.lastSlot
  generalize (before.step act).node.ledger = result at effect
  cases effect with
  | nothing | began | failed | turnedAway | noted | dropped | emptied => exact Nat.le_refl _
  | connected | accepted => exact Nat.le_succ _
  | named naming => exact Nat.le_of_eq naming.lastSlot_eq.symm
  | greeted naming => exact Nat.le_of_eq naming.lastSlot_eq.symm
  | linkEnded entry => exact Nat.le_of_eq (Ledger.lastSlot_dismissed _ entry).symm

/-- A connection is registered by being accepted, or by being the one that a dial has opened. It
gets the next slot. -/
theorem admits_cases {before : Situation} (sound : before.node.ledger.Sound) {act : Act}
    {entry : Connection} (admits : before.Admits act entry) :
    before.node.table.closed = false ∧ entry.slot = before.node.nextSlot ∧
      (before.step act).node.table.registry.lastSlot = entry.slot.number ∧
      ((∃ remote socket moment, act = .accepts remote socket moment ∧ entry.remote = remote ∧
          entry.direction = .inbound) ∨
        ∃ dial ∈ before.node.dials, ∃ socket moment, act = .dialConnects dial.number socket moment ∧
          entry.remote = dial.address ∧ entry.direction = .outbound) := by
  obtain ⟨member, fresh⟩ := admits
  have effect := step_effect sound act
  have issued := (sound_step sound act).registry.slotsIssued entry member
  change entry ∈ (before.step act).node.ledger.registry.entries at member
  change before.node.ledger.registry.lastSlot < _ at fresh
  change before.node.table.closed = false ∧ entry.slot = before.node.nextSlot ∧
    (before.step act).node.ledger.registry.lastSlot = entry.slot.number ∧ _
  generalize (before.step act).node.ledger = result at effect issued member
  have old : result.registry.lastSlot = before.node.ledger.registry.lastSlot → False := by
    intro same
    omega
  cases effect with
  | nothing | began | failed | turnedAway | noted | dropped | emptied => exact (old rfl).elim
  | named naming => exact (old naming.lastSlot_eq).elim
  | greeted naming => exact (old naming.lastSlot_eq).elim
  | linkEnded ended => exact (old (Ledger.lastSlot_dismissed _ ended)).elim
  | @connected socket moment dial dialed admitting =>
      rcases List.mem_append.mp member with earlier | last
      · have bound := sound.registry.slotsIssued entry earlier
        omega
      · rw [List.mem_singleton.mp last]
        exact ⟨admitting, rfl, rfl, .inr ⟨dial, dialed, socket, moment, rfl, rfl, rfl⟩⟩
  | @accepted remote socket moment admitting =>
      rcases List.mem_append.mp member with earlier | last
      · have bound := sound.registry.slotsIssued entry earlier
        omega
      · rw [List.mem_singleton.mp last]
        exact ⟨admitting, rfl, rfl, .inl ⟨remote, socket, moment, rfl, rfl, rfl⟩⟩

theorem origin?_of_admits {before : Situation} (sound : before.node.ledger.Sound) {act : Act}
    {entry : Connection} (admits : before.Admits act entry) :
    before.origin? act = some entry.remote := by
  obtain ⟨-, -, -, ⟨remote, socket, moment, rfl, same, -⟩ |
    ⟨dial, member, socket, moment, rfl, same, -⟩⟩ := admits_cases sound admits
  · rw [origin?, same]
  · rw [origin?, dial?_of_mem sound member, Option.map_some, same]

/-- An open table registers every connection that comes. -/
theorem exists_admits {before : Situation} (admitting : before.node.table.closed = false)
    {act : Act} {address : SocketAddress} (born : before.origin? act = some address) :
    ∃ entry, before.Admits act entry := by
  have registered : ∀ node : Node, node.ledger.closed = false →
      node.ledger.registry = before.node.ledger.registry →
      ∀ remote direction dialedAs socket moment, ∃ entry,
        entry ∈ (before.register node remote direction dialedAs socket
          moment).node.ledger.registry.entries ∧
        before.node.ledger.registry.lastSlot < entry.slot.number := by
    intro node open' same remote direction dialedAs socket moment
    rw [ledger_register_of_open before open', Ledger.admitted, same]
    exact ⟨_, List.mem_append_right _ List.mem_cons_self, Nat.lt_succ_self _⟩
  cases act with
  | accepts remote socket moment => exact registered before.node admitting rfl _ _ _ _ _
  | dialConnects number socket moment =>
      obtain ⟨dial, search, -⟩ := Option.map_eq_some_iff.mp born
      simp only [Admits, step, search]
      exact registered (before.node.withoutDial number) admitting rfl _ _ _ _ _
  | _ => cases born

end Situation

end PeerMesh.Node
