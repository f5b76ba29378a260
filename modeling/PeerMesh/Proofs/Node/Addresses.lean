import PeerMesh.Proofs.Node.Effect

/-!
# What the marks of addresses stand for

As long as no connection is accepted from an address that is being dialed, and the table is open,
the marked addresses are those of the dials under way, and no two of these dials have one address.
-/

set_option autoImplicit false

namespace PeerMesh.Node

namespace Ledger

/-- The marked addresses are those of the dials under way. -/
structure Addressed (ledger : Ledger) : Prop where
  pending_iff : ∀ address, address ∈ ledger.inFlight.pending ↔
    ∃ dial ∈ ledger.dials, dial.address = address
  distinct : (ledger.dials.map (·.address)).Nodup

theorem Naming.pending_eq {ledger result : Ledger} (naming : ledger.Naming result) :
    result.inFlight.pending = ledger.inFlight.pending := by
  have dismissed : ∀ entry : Connection,
      (ledger.dismissed entry).inFlight.pending = ledger.inFlight.pending := by
    intro entry
    unfold dismissed
    split
    · rfl
    · exact InFlight.pending_finishDialing?
  cases naming with
  | refused entry => exact InFlight.pending_finishDialing?
  | free entry name => simp [withName]
  | taken entry holder name =>
      simp only [withName, InFlight.pending_finishDialing?]
      exact dismissed holder
  | lost entry => exact dismissed entry

theorem Addressed.congr {ledger result : Ledger} (addressed : ledger.Addressed)
    (dials : result.dials = ledger.dials)
    (pending : result.inFlight.pending = ledger.inFlight.pending) : result.Addressed where
  pending_iff := by
    rw [dials, pending]
    exact addressed.pending_iff
  distinct := by
    rw [dials]
    exact addressed.distinct

theorem Addressed.named {ledger result : Ledger} (addressed : ledger.Addressed)
    (naming : ledger.Naming result) : result.Addressed :=
  addressed.congr naming.dials_eq.1 naming.pending_eq

theorem Addressed.began {ledger : Ledger} (addressed : ledger.Addressed) {dial : Dial}
    (unmarked : dial.address ∉ ledger.inFlight.pending) : (ledger.began dial).Addressed where
  pending_iff := by
    intro address
    simp only [Ledger.began, InFlight.mem_pending_begin, addressed.pending_iff, List.mem_append,
      List.mem_singleton]
    constructor
    · rintro (⟨other, member, same⟩ | rfl)
      · exact ⟨other, .inl member, same⟩
      · exact ⟨dial, .inr rfl, rfl⟩
    · rintro ⟨other, old | rfl, same⟩
      · exact .inl ⟨other, old, same⟩
      · exact .inr same.symm
  distinct := by
    simp only [Ledger.began, List.map_append, List.map_cons, List.map_nil, List.nodup_append]
    refine ⟨addressed.distinct, by simp, ?_⟩
    intro address old fresh added
    rw [List.mem_singleton.mp added]
    rintro rfl
    exact unmarked ((addressed.pending_iff _).mpr (List.mem_map.mp old))

/-- A dial is over, and the mark of its address is gone. -/
theorem Addressed.over {ledger result : Ledger} (addressed : ledger.Addressed) (sound : ledger.Sound)
    {dial : Dial} (member : dial ∈ ledger.dials)
    (dials : result.dials = (ledger.ended dial.number).dials)
    (pending : ∀ address, address ∈ result.inFlight.pending ↔
      address ∈ ledger.inFlight.pending ∧ address ≠ dial.address) : result.Addressed where
  pending_iff := by
    intro address
    rw [dials, pending, addressed.pending_iff]
    constructor
    · rintro ⟨⟨other, otherMember, rfl⟩, different⟩
      refine ⟨other, List.mem_filter.mpr ⟨otherMember, ?_⟩, rfl⟩
      rw [bne_iff_ne]
      intro sameNumber
      exact different (congrArg Dial.address (eq_of_number_eq sound otherMember member sameNumber))
    · rintro ⟨other, otherMember, rfl⟩
      obtain ⟨old, different⟩ := List.mem_filter.mp otherMember
      refine ⟨⟨other, old, rfl⟩, ?_⟩
      intro sameAddress
      have same := List.inj_on_of_nodup_map addressed.distinct old member sameAddress
      rw [same] at different
      simp at different
  distinct := by
    rw [dials]
    exact addressed.distinct.sublist (List.filter_sublist.map _)

end Ledger

/-- Every act keeps the marks of addresses with the dials, unless it accepts a connection from an
address that is being dialed or empties the table. -/
theorem addressed_step {before : Situation} (sound : before.node.ledger.Sound)
    (addressed : before.node.ledger.Addressed) {act : Act}
    (apart : ∀ remote socket moment, act = .accepts remote socket moment →
      remote ∉ before.node.table.inFlight.pending)
    (admitting : (before.step act).node.table.closed = false) :
    (before.step act).node.ledger.Addressed := by
  have effect := step_effect sound act
  change (before.step act).node.ledger.closed = false at admitting
  generalize (before.step act).node.ledger = result at effect admitting
  cases effect with
  | nothing => exact addressed
  | began accepted =>
      refine addressed.began ?_
      have unmarked := (refusal?_eq_none_iff.mp accepted).2.2.2.2.2.2.2.2
      rw [Bool.eq_false_iff, ne_eq, InFlight.hasPending_iff] at unmarked
      exact unmarked
  | failed dial member =>
      exact addressed.over sound member rfl fun _ => InFlight.mem_pending_release
  | connected dial member =>
      exact addressed.over sound member rfl fun _ => InFlight.mem_pending_takePending
  | turnedAway dial member =>
      exact addressed.over sound member rfl fun _ => InFlight.mem_pending_release
  | @accepted remote socket moment =>
      refine ⟨?_, addressed.distinct⟩
      intro address
      refine Iff.trans ?_ (addressed.pending_iff address)
      refine InFlight.mem_pending_takePending.trans ⟨And.left, ?_⟩
      intro marked
      refine ⟨marked, ?_⟩
      rintro rfl
      exact apart _ _ _ rfl marked
  | named naming => exact addressed.named naming
  | noted => exact addressed.congr rfl rfl
  | @greeted around slot bytes moment result naming =>
      have noted : (before.node.ledger.noted slot moment).Addressed := addressed.congr rfl rfl
      exact noted.named naming
  | linkEnded entry found =>
      exact addressed.named (.lost entry found)
  | dropped => exact addressed.congr rfl rfl
  | emptied => cases admitting

end PeerMesh.Node
