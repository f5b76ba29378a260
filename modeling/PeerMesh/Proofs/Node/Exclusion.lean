import PeerMesh.Proofs.Node.Pursuit

/-!
# Dialing and connected

An identifier is not dialed while a connection is identified as it. A request is declined for a name
that the index knows, which is every identified one, and a connection that gets a name takes the
mark of that name away, together with the mark of the identifier that it was dialed under.
-/

set_option autoImplicit false

namespace PeerMesh.Node

namespace Ledger

/-- No identifier is marked as being dialed while a connection is identified as it. -/
def Exclusive (ledger : Ledger) : Prop :=
  ∀ entry ∈ ledger.registry.entries, entry.identified = true →
    entry.name ∉ ledger.inFlight.dialing

/-- Neither to lose entries nor to lose marks brings the two together. -/
theorem Exclusive.of_fewer {ledger result : Ledger} (exclusive : ledger.Exclusive)
    (entries : ∀ entry ∈ result.registry.entries, entry.identified = true →
      ∃ old ∈ ledger.registry.entries, old.identified = true ∧ old.name = entry.name)
    (dialing : ∀ name ∈ result.inFlight.dialing, name ∈ ledger.inFlight.dialing) :
    result.Exclusive := by
  intro entry member identified marked
  obtain ⟨old, oldMember, oldIdentified, sameName⟩ := entries entry member identified
  refine exclusive old oldMember oldIdentified ?_
  rw [sameName]
  exact dialing entry.name marked

theorem Exclusive.dismissed {ledger : Ledger} (exclusive : ledger.Exclusive) (entry : Connection) :
    (ledger.dismissed entry).Exclusive := by
  refine exclusive.of_fewer ?_ fun name marked => (mem_dialing_dismissed.mp marked).1
  intro other member identified
  rw [registry_dismissed] at member
  exact ⟨other, (Registry.mem_entries_without.mp member).1, identified, rfl⟩

theorem Exclusive.refused {ledger : Ledger} (exclusive : ledger.Exclusive) (entry : Connection) :
    ((ledger.expelled entry).finished entry.dialedAs).Exclusive := by
  refine exclusive.of_fewer ?_ fun name marked =>
    (InFlight.mem_dialing_finishDialing?.mp marked).1
  intro other member identified
  exact ⟨other, (Registry.mem_entries_without.mp member).1, identified, rfl⟩

theorem Exclusive.withName {ledger : Ledger} (exclusive : ledger.Exclusive) (entry : Connection)
    (name : String) : (ledger.withName entry name).Exclusive := by
  intro other member identified marked
  obtain ⟨old, oldMember, rfl⟩ := Registry.mem_entries_identifiedAs.mp member
  obtain ⟨oldMarked, -, different⟩ := mem_dialing_withName.mp marked
  by_cases same : old.slot = entry.slot
  · rw [if_pos same] at different
    exact different rfl
  · rw [if_neg same] at identified oldMarked
    exact exclusive old oldMember identified oldMarked

theorem Naming.exclusive {ledger result : Ledger} (naming : ledger.Naming result)
    (exclusive : ledger.Exclusive) : result.Exclusive := by
  cases naming with
  | refused entry => exact exclusive.refused entry
  | free entry name => exact exclusive.withName entry name
  | taken entry holder name => exact (exclusive.dismissed holder).withName entry name
  | lost entry => exact exclusive.dismissed entry

theorem Exclusive.noted {ledger : Ledger} (exclusive : ledger.Exclusive) (slot : Slot)
    (moment : Nat) : (ledger.noted slot moment).Exclusive := by
  refine exclusive.of_fewer ?_ fun name marked => marked
  intro entry member identified
  obtain ⟨old, oldMember, same⟩ := Registry.mem_entries_touch member
  rw [same] at identified
  exact ⟨old, oldMember, identified, by rw [same]⟩

/-- A connection comes unidentified, whoever opened it. -/
theorem Exclusive.admitted {ledger : Ledger} (exclusive : ledger.Exclusive) (new : NewConnection)
    (moment : Nat) : (ledger.admitted new moment).Exclusive := by
  refine exclusive.of_fewer ?_ fun name marked => marked
  intro entry member identified
  rcases List.mem_append.mp member with old | fresh
  · exact ⟨entry, old, identified, rfl⟩
  · rw [List.mem_singleton.mp fresh] at identified
    cases identified

/-- A dial begins only for a name that nobody is identified as. -/
theorem Exclusive.began {ledger : Ledger} (exclusive : ledger.Exclusive) {dial : Dial}
    (unidentified : ∀ entry ∈ ledger.registry.entries, entry.identified = true →
      dial.peer ≠ some entry.name) : (ledger.began dial).Exclusive := by
  intro entry member identified marked
  rcases InFlight.mem_dialing_begin.mp marked with old | fresh
  · exact exclusive entry member identified old
  · exact unidentified entry member identified fresh

theorem Exclusive.released {ledger : Ledger} (exclusive : ledger.Exclusive) (dial : Dial) :
    ((ledger.ended dial.number).released dial).Exclusive := by
  refine exclusive.of_fewer ?_ fun name marked => (InFlight.mem_dialing_release.mp marked).1
  intro entry member identified
  exact ⟨entry, member, identified, rfl⟩

end Ledger

namespace Situation

theorem exclusive_step {before : Situation} (sound : before.node.ledger.Sound)
    (exclusive : before.node.ledger.Exclusive) (act : Act) :
    (before.step act).node.ledger.Exclusive := by
  have effect := step_effect sound act
  generalize (before.step act).node.ledger = result at effect
  cases effect with
  | nothing => exact exclusive
  | @began around peer address now moment accepted =>
      refine exclusive.began ?_
      rintro entry member identified rfl
      exact not_identifies_of_accepted sound accepted ⟨entry, member, identified, rfl⟩
  | failed dial => exact exclusive.released dial
  | connected dial => exact Ledger.Exclusive.admitted exclusive _ _
  | turnedAway dial => exact exclusive.released dial
  | accepted => exact exclusive.admitted _ _
  | named naming => exact naming.exclusive exclusive
  | noted => exact exclusive.noted _ _
  | greeted naming => exact naming.exclusive (exclusive.noted _ _)
  | linkEnded entry => exact exclusive.dismissed entry
  | dropped entry =>
      refine exclusive.of_fewer ?_ fun name marked => marked
      intro other member identified
      exact ⟨other, (Registry.mem_entries_without.mp member).1, identified, rfl⟩
  | emptied =>
      intro entry member
      cases member

theorem exclusive_run {start : Situation} (initial : start.Initial) (acts : List Act) :
    (start.run acts).node.ledger.Exclusive := by
  refine run_induction_of_sound (·.node.ledger.Exclusive) initial ?_ ?_ acts
  · obtain ⟨profile, request, moment, fresh⟩ := initial
    rw [fresh]
    intro entry member
    cases member
  · intro situation act sound exclusive
    exact exclusive_step sound exclusive act

/-- Nobody is dialed and identified at once, whatever has happened to a node. -/
theorem not_identifies_of_isDialing {start : Situation} (initial : start.Initial)
    (acts : List Act) {peer : String}
    (dialing : (start.run acts).node.table.inFlight.isDialing peer = true) :
    ¬ (start.run acts).Identifies peer := by
  rintro ⟨entry, member, identified, rfl⟩
  exact exclusive_run initial acts entry member identified (InFlight.isDialing_iff.mp dialing)

/-- One peer is being dialed while another has connected and said who it is. -/
def dialingBesidesPeer : List Act :=
  [.accepts (.v4 ⟨192, 0, 2, 10⟩ 5000) ⟨0, .callee⟩ 1, .identifies aloof ⟨1⟩ "q",
    .requests aloof (some "p") (.v4 ⟨192, 0, 2, 1⟩ 5000) 0 2]

theorem not_identifies_dialingBesidesPeer :
    let reached := (lone 40000).run dialingBesidesPeer
    reached.node.table.inFlight.isDialing "p" = true ∧ reached.Identifies "q" ∧
      ¬ reached.Identifies "p" := by
  intro reached
  have dialing : reached.node.table.inFlight.isDialing "p" = true := by decide
  let peered : Connection :=
    ⟨⟨1⟩, "q", true, .v4 ⟨192, 0, 2, 10⟩ 5000, .inbound, none, 1⟩
  refine ⟨dialing, ⟨peered, by decide, rfl, rfl⟩, ?_⟩
  exact not_identifies_of_isDialing (initial_lone 40000) dialingBesidesPeer dialing

end Situation

end PeerMesh.Node
