import PeerMesh.Proofs.InFlight
import PeerMesh.Proofs.Node.Course
import PeerMesh.Proofs.Node.Identification

/-!
# What an act does to the books of a node

The books are the registry, the marks and the dials under way. Everything else about a node (its
handles, listeners, hello exchange, callers) may change without them. Each act has at most one
effect on the books, and the effects are listed here once for all invariants.
-/

set_option autoImplicit false

namespace PeerMesh.Node

structure Ledger where
  registry : Registry
  inFlight : InFlight
  /-- Whether the teardown has begun to empty the table. -/
  closed : Bool
  dials : List Dial
  dialCount : Nat

def ledger (node : Node) : Ledger :=
  ⟨node.table.registry, node.table.inFlight, node.table.closed, node.dials, node.dialCount⟩

namespace Ledger

/-! ## Entries in the books -/

def began (ledger : Ledger) (dial : Dial) : Ledger :=
  { ledger with
    inFlight := ledger.inFlight.begin dial.peer dial.address
    dials := ledger.dials ++ [dial]
    dialCount := ledger.dialCount + 1 }

def ended (ledger : Ledger) (number : Nat) : Ledger :=
  { ledger with dials := ledger.dials.filter fun dial => dial.number != number }

def released (ledger : Ledger) (dial : Dial) : Ledger :=
  { ledger with inFlight := ledger.inFlight.release dial.peer dial.address }

def admitted (ledger : Ledger) (new : NewConnection) (moment : Nat) : Ledger :=
  { ledger with
    registry := (ledger.registry.insert new moment).1
    inFlight := (ledger.inFlight.takePending new.remote).1 }

def noted (ledger : Ledger) (slot : Slot) (moment : Nat) : Ledger :=
  { ledger with registry := ledger.registry.touch slot moment }

/-- The mark of an identifier is taken away, if there is one to take away. -/
def finished (ledger : Ledger) (peer : Option String) : Ledger :=
  { ledger with inFlight := ledger.inFlight.finishDialing? peer }

def expelled (ledger : Ledger) (entry : Connection) : Ledger :=
  { ledger with registry := ledger.registry.without entry }

/-- A connection is removed; one that was not identified takes its mark along. -/
def dismissed (ledger : Ledger) (entry : Connection) : Ledger :=
  if entry.identified then ledger.expelled entry
  else (ledger.expelled entry).finished entry.dialedAs

def withName (ledger : Ledger) (entry : Connection) (name : String) : Ledger :=
  { ledger with
    registry := ledger.registry.identifiedAs entry name
    inFlight := (ledger.inFlight.finishDialing? entry.dialedAs).finishDialing? (some name) }

/-- The table is emptied for good. -/
def emptied (ledger : Ledger) : Ledger :=
  { ledger with registry := ledger.registry.drain.1, inFlight := .empty, closed := true }

@[simp] theorem registry_dismissed (ledger : Ledger) (entry : Connection) :
    (ledger.dismissed entry).registry = ledger.registry.without entry := by
  unfold dismissed
  split <;> rfl

/-- Other connections are still registered. -/
theorem get?_dismissed_of_ne {ledger : Ledger} {entry holder : Connection}
    (found : ledger.registry.get? entry.slot = some entry) (different : holder.slot ≠ entry.slot) :
    (ledger.dismissed holder).registry.get? entry.slot = some entry := by
  rw [registry_dismissed, Registry.get?_without, if_neg different.symm, found]

/-- Once the connection that has a name is gone, the name is free for all. -/
theorem free_of_dismissed {ledger : Ledger} (sound : ledger.registry.Sound) {holder : Connection}
    {name : String} (found : ledger.registry.get? holder.slot = some holder)
    (held : ledger.registry.slotForName? name = some holder.slot) (slot : Slot) :
    ∀ other, (ledger.dismissed holder).registry.slotForName? name = some other → other = slot := by
  intro other heldNow
  rw [registry_dismissed, slotForName?_without_holder sound found held] at heldNow
  cases heldNow

@[simp] theorem dials_dismissed (ledger : Ledger) (entry : Connection) :
    (ledger.dismissed entry).dials = ledger.dials := by
  unfold dismissed
  split <;> rfl

@[simp] theorem dialCount_dismissed (ledger : Ledger) (entry : Connection) :
    (ledger.dismissed entry).dialCount = ledger.dialCount := by
  unfold dismissed
  split <;> rfl

theorem mem_dialing_dismissed {ledger : Ledger} {entry : Connection} {name : String} :
    name ∈ (ledger.dismissed entry).inFlight.dialing ↔
      name ∈ ledger.inFlight.dialing ∧ (entry.identified = false → entry.dialedAs ≠ some name) := by
  unfold dismissed
  cases identified : entry.identified <;> simp [expelled, finished]

theorem mem_dialing_withName {ledger : Ledger} {entry : Connection} {name other : String} :
    other ∈ (ledger.withName entry name).inFlight.dialing ↔
      other ∈ ledger.inFlight.dialing ∧ entry.dialedAs ≠ some other ∧ name ≠ other := by
  simp [withName, and_assoc]

/-! ## Soundness -/

/-- What holds of the books after any acts: the registry is in order, and dials are numbered in the
order in which they begin. -/
structure Sound (ledger : Ledger) : Prop where
  registry : ledger.registry.Sound
  numbersDistinct : (ledger.dials.map (·.number)).Nodup
  numbersIssued : ∀ dial ∈ ledger.dials, dial.number < ledger.dialCount

theorem Sound.noted {ledger : Ledger} (sound : ledger.Sound) (slot : Slot) (moment : Nat) :
    (ledger.noted slot moment).Sound where
  registry := Registry.sound_touch sound.registry slot moment
  numbersDistinct := sound.numbersDistinct
  numbersIssued := sound.numbersIssued

theorem Sound.began {ledger : Ledger} (sound : ledger.Sound) {dial : Dial}
    (numbered : dial.number = ledger.dialCount) : (ledger.began dial).Sound where
  registry := sound.registry
  numbersDistinct := by
    simp only [Ledger.began, List.map_append, List.map_cons, List.map_nil, List.nodup_append]
    refine ⟨sound.numbersDistinct, by simp, ?_⟩
    intro number old fresh added same
    obtain ⟨earlier, member, rfl⟩ := List.mem_map.mp old
    have bound := sound.numbersIssued earlier member
    simp only [List.mem_singleton] at added
    omega
  numbersIssued := by
    intro other member
    simp only [Ledger.began, List.mem_append, List.mem_singleton] at member ⊢
    rcases member with old | rfl
    · exact Nat.lt_succ_of_lt (sound.numbersIssued other old)
    · omega

theorem Sound.ended {ledger : Ledger} (sound : ledger.Sound) (number : Nat) :
    (ledger.ended number).Sound where
  registry := sound.registry
  numbersDistinct := sound.numbersDistinct.sublist (List.filter_sublist.map _)
  numbersIssued := fun dial member => sound.numbersIssued dial (List.mem_filter.mp member).1

theorem Sound.admitted {ledger : Ledger} (sound : ledger.Sound) (new : NewConnection)
    (moment : Nat) : (ledger.admitted new moment).Sound where
  registry := Registry.sound_insert sound.registry new moment
  numbersDistinct := sound.numbersDistinct
  numbersIssued := sound.numbersIssued

theorem Sound.expelled {ledger : Ledger} (sound : ledger.Sound) {entry : Connection}
    (member : entry ∈ ledger.registry.entries) : (ledger.expelled entry).Sound where
  registry := Registry.sound_without sound.registry member
  numbersDistinct := sound.numbersDistinct
  numbersIssued := sound.numbersIssued

theorem Sound.dismissed {ledger : Ledger} (sound : ledger.Sound) {entry : Connection}
    (member : entry ∈ ledger.registry.entries) : (ledger.dismissed entry).Sound where
  registry := by
    rw [registry_dismissed]
    exact Registry.sound_without sound.registry member
  numbersDistinct := by
    rw [dials_dismissed]
    exact sound.numbersDistinct
  numbersIssued := by
    rw [dials_dismissed, dialCount_dismissed]
    exact sound.numbersIssued

theorem Sound.withName {ledger : Ledger} (sound : ledger.Sound) {entry : Connection}
    {name : String} (found : ledger.registry.get? entry.slot = some entry)
    (free : ∀ holder, ledger.registry.slotForName? name = some holder → holder = entry.slot) :
    (ledger.withName entry name).Sound where
  registry := Registry.sound_identifiedAs sound.registry found free
  numbersDistinct := sound.numbersDistinct
  numbersIssued := sound.numbersIssued

theorem eq_of_number_eq {ledger : Ledger} (sound : ledger.Sound) {left right : Dial}
    (leftMember : left ∈ ledger.dials) (rightMember : right ∈ ledger.dials)
    (same : left.number = right.number) : left = right :=
  List.inj_on_of_nodup_map sound.numbersDistinct leftMember rightMember same

end Ledger

end PeerMesh.Node
