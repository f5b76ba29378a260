import PeerMesh.Proofs.Node.Anchors

/-!
# A closed node stays empty

The second step of the teardown leaves nothing behind: no entry, no name, no mark, no open handle.
Dials and links that are still there end later, each in its own time, and find nothing to come back
to.
-/

set_option autoImplicit false

namespace PeerMesh.Node

namespace Ledger

/-- A closed table has no mark. -/
def Unmarked (ledger : Ledger) : Prop :=
  ledger.closed = true → ledger.inFlight = .empty

theorem release_empty (peer : Option String) (address : SocketAddress) :
    InFlight.empty.release peer address = .empty := by
  cases peer <;> rfl

end Ledger

theorem Effect.unmarked {before : Situation} {act : Act} {result : Ledger}
    (effect : Effect before act result) (vacated : before.node.ledger.Vacated)
    (unmarked : before.node.ledger.Unmarked) : result.Unmarked := by
  have admits : ∀ {later : Bool}, before.node.ledger.closed = false →
      later = before.node.ledger.closed → later = true → result.inFlight = .empty := by
    intro later admitting same closed
    rw [closed, admitting] at same
    cases same
  intro closed
  cases effect with
  | nothing | noted => exact unmarked closed
  | began accepted =>
      obtain ⟨-, -, -, -, admitting, -⟩ := refusal?_eq_none_iff.mp accepted
      exact admits admitting rfl closed
  | failed dial =>
      change before.node.ledger.inFlight.release dial.peer dial.address = .empty
      rw [unmarked closed, Ledger.release_empty]
  | turnedAway dial =>
      change before.node.ledger.inFlight.release dial.peer dial.address = .empty
      rw [unmarked closed, Ledger.release_empty]
  | connected dial member admitting => exact admits admitting rfl closed
  | accepted admitting => exact admits admitting rfl closed
  | named naming => exact admits (vacated.not_closed_of_naming naming) naming.closed_eq closed
  | greeted naming =>
      exact admits ((vacated.noted _ _).not_closed_of_naming naming) naming.closed_eq closed
  | linkEnded entry found =>
      exact admits (vacated.not_closed_of_get? found) (Ledger.closed_dismissed _ entry) closed
  | dropped entry resolved found => exact admits (vacated.not_closed_of_get? found) rfl closed
  | emptied => rfl

namespace Situation

/-- What holds of every node: the closed table is that of a node marked as closed, it has neither
entries nor marks, and what is open is registered. -/
structure Tidy (situation : Situation) : Prop where
  vacated : situation.node.ledger.Vacated
  unmarked : situation.node.ledger.Unmarked
  anchored : situation.node.Anchored
  closed_iff : situation.node.closed = situation.node.table.closed

theorem Tidy.step {before : Situation} (tidy : before.Tidy) (sound : before.node.ledger.Sound)
    (act : Act) : (before.step act).Tidy where
  vacated := (step_effect sound act).vacated tidy.vacated
  unmarked := (step_effect sound act).unmarked tidy.vacated tidy.unmarked
  anchored := tidy.anchored.step sound act
  closed_iff := by
    by_cases teardown : act = .finishesTeardown
    · subst teardown
      simp only [Situation.step]
      split
      · exact (congrArg Ledger.closed (ledger_finishTeardown before.node)).symm
      · exact tidy.closed_iff
    · rw [closed_mark_step before teardown, tidy.closed_iff]
      exact ((step_effect sound act).closed_eq teardown).symm

theorem tidy_of_initial {start : Situation} (initial : start.Initial) : start.Tidy := by
  obtain ⟨profile, request, moment, fresh⟩ := initial
  constructor
  · rw [fresh]
    intro _
    rfl
  · rw [fresh]
    intro _
    rfl
  · rw [fresh]
    intro link member
    cases member
  · rw [fresh]
    rfl

end Situation

/-! ## Nothing left, and nothing comes -/

/-- The node is closed, and nothing is registered, named, marked or open. -/
structure Emptied (node : Node) : Prop where
  table : node.table.closed = true
  closed : node.closed = true
  entries : node.table.registry.entries = []
  index : node.table.registry.index = []
  dialing : node.table.inFlight.dialing = []
  pending : node.table.inFlight.pending = []
  shut : ∀ link ∈ node.links, link.handle.closed = true

theorem Situation.Tidy.emptied {situation : Situation} (tidy : situation.Tidy)
    (sound : situation.node.ledger.Sound) (closed : situation.node.table.closed = true) :
    situation.node.Emptied where
  table := closed
  closed := tidy.closed_iff.trans closed
  entries := tidy.vacated closed
  index := by
    -- a name in the index would be that of an entry
    cases index : situation.node.table.registry.index with
    | nil => rfl
    | cons pair rest =>
        obtain ⟨name, slot⟩ := pair
        have resolved : situation.node.table.registry.slotForName? name = some slot := by
          simp [Registry.slotForName?, index]
        obtain ⟨entry, found, -⟩ := sound.registry.nameBorne _ _ resolved
        have admitting := tidy.vacated.not_closed_of_get? found
        cases admitting.symm.trans closed
  dialing := congrArg InFlight.dialing (tidy.unmarked closed)
  pending := congrArg InFlight.pending (tidy.unmarked closed)
  shut := by
    intro link member
    cases handle : link.handle.closed with
    | true => rfl
    | false =>
        obtain ⟨entry, registered, -⟩ := tidy.anchored link member (by simp [Handle.isOpen, handle])
        have empty : situation.node.table.registry.entries = [] := tidy.vacated closed
        rw [empty] at registered
        cases registered

namespace Emptied

variable {node : Node}

theorem unregistered (emptied : node.Emptied) (slot : Slot) :
    node.table.registry.get? slot = none := by
  rw [Registry.get?, emptied.entries]
  rfl

theorem rejected (emptied : node.Emptied) (around : Surroundings) (peer : Option String)
    (address : SocketAddress) (now moment : Nat) :
    ∃ reason, (node.requestPeering around peer address now moment).2 = .rejected reason := by
  cases refusal : node.refusal? around peer address with
  | none =>
      obtain ⟨-, -, -, -, admitting, -⟩ := refusal?_eq_none_iff.mp refusal
      rw [emptied.table] at admitting
      cases admitting
  | some reason =>
      refine ⟨reason, ?_⟩
      unfold requestPeering
      rw [refusal]
      cases reason <;> rfl

theorem identify (emptied : node.Emptied) (around : Surroundings) (slot : Slot) (name : String) :
    node.identify around slot name = (node, .error (.unknownConnection slot)) := by
  rw [Node.identify, emptied.unregistered]

theorem send (emptied : node.Emptied) (slot : Slot) (bytes : Bytes) :
    node.send slot bytes = (node, .error (.unknownConnection slot)) := by
  rw [Node.send, emptied.unregistered]

end Emptied

end PeerMesh.Node
