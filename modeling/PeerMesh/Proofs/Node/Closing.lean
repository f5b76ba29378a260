import PeerMesh.Proofs.Node.Effect
import PeerMesh.Proofs.Node.Frame

/-!
# A table that was emptied

The teardown empties the table and closes it, both for good: no act opens the table again, and a
closed table registers nothing. Only then is the node marked as closed.
-/

set_option autoImplicit false

namespace PeerMesh.Node

namespace Ledger

@[simp] theorem closed_dismissed (ledger : Ledger) (entry : Connection) :
    (ledger.dismissed entry).closed = ledger.closed := by
  unfold dismissed
  split <;> rfl

theorem Naming.closed_eq {ledger result : Ledger} (naming : ledger.Naming result) :
    result.closed = ledger.closed := by
  cases naming with
  | refused => rfl
  | free => rfl
  | taken entry holder => exact closed_dismissed ledger holder
  | lost entry => exact closed_dismissed ledger entry

/-- A closed table has no entry. -/
def Vacated (ledger : Ledger) : Prop :=
  ledger.closed = true → ledger.registry.entries = []

theorem Vacated.not_closed_of_get? {ledger : Ledger} (vacated : ledger.Vacated) {slot : Slot}
    {entry : Connection} (found : ledger.registry.get? slot = some entry) :
    ledger.closed = false := by
  cases closed : ledger.closed with
  | false => rfl
  | true =>
      have member := Registry.mem_of_get? found
      rw [vacated closed] at member
      cases member

theorem Vacated.not_closed_of_naming {ledger result : Ledger} (vacated : ledger.Vacated)
    (naming : ledger.Naming result) : ledger.closed = false := by
  cases naming with
  | refused entry found => exact vacated.not_closed_of_get? found
  | free entry name found => exact vacated.not_closed_of_get? found
  | taken entry holder name found => exact vacated.not_closed_of_get? found
  | lost entry found => exact vacated.not_closed_of_get? found

theorem Vacated.named {ledger result : Ledger} (vacated : ledger.Vacated)
    (naming : ledger.Naming result) : result.Vacated := by
  intro closed
  rw [naming.closed_eq, vacated.not_closed_of_naming naming] at closed
  cases closed

theorem Vacated.noted {ledger : Ledger} (vacated : ledger.Vacated) (slot : Slot) (moment : Nat) :
    (ledger.noted slot moment).Vacated := by
  intro closed
  have empty := vacated closed
  simp [Ledger.noted, Registry.touch, Registry.update, empty]

end Ledger

/-- No act opens the table again. -/
theorem Effect.closed {before : Situation} {act : Act} {result : Ledger}
    (effect : Effect before act result) (closed : before.node.ledger.closed = true) :
    result.closed = true := by
  cases effect with
  | nothing | began | failed | turnedAway | noted | dropped => exact closed
  | connected dial member admitting =>
      rw [admitting] at closed
      cases closed
  | accepted admitting =>
      rw [admitting] at closed
      cases closed
  | named naming => rwa [naming.closed_eq]
  | greeted naming =>
      rw [naming.closed_eq]
      exact closed
  | linkEnded entry => rwa [Ledger.closed_dismissed]
  | emptied => rfl

/-- Only the second step of the teardown closes the table. -/
theorem Effect.closed_eq {before : Situation} {act : Act} {result : Ledger}
    (effect : Effect before act result) (other : act ≠ .finishesTeardown) :
    result.closed = before.node.ledger.closed := by
  cases effect with
  | nothing | began | failed | connected | turnedAway | accepted | noted | dropped => rfl
  | named naming => exact naming.closed_eq
  | greeted naming => exact naming.closed_eq
  | linkEnded entry => exact Ledger.closed_dismissed _ entry
  | emptied => exact absurd rfl other

theorem Effect.vacated {before : Situation} {act : Act} {result : Ledger}
    (effect : Effect before act result) (vacated : before.node.ledger.Vacated) :
    result.Vacated := by
  cases effect with
  | nothing | began | failed | turnedAway => exact vacated
  | connected dial member admitting =>
      intro closed
      change before.node.ledger.closed = true at closed
      rw [admitting] at closed
      cases closed
  | accepted admitting =>
      intro closed
      change before.node.ledger.closed = true at closed
      rw [admitting] at closed
      cases closed
  | named naming => exact vacated.named naming
  | noted => exact vacated.noted _ _
  | greeted naming => exact (vacated.noted _ _).named naming
  | linkEnded entry found => exact vacated.named (.lost entry found)
  | dropped entry resolved found =>
      intro closed
      change before.node.ledger.closed = true at closed
      rw [vacated.not_closed_of_get? found] at closed
      cases closed
  | emptied => exact fun _ => rfl

/-- The act concerns the listeners of a node or its teardown. -/
def Act.concernsFrame : Act → Bool
  | .asksClose _ | .grantsPermit | .finishesTeardown | .firesExit | .storesHook _ |
    .changesListener _ _ => true
  | _ => false

namespace Situation

theorem closed_step {before : Situation} (sound : before.node.ledger.Sound) (act : Act)
    (closed : before.node.table.closed = true) : (before.step act).node.table.closed = true :=
  (step_effect sound act).closed closed

theorem admitting_of_step {before : Situation} (sound : before.node.ledger.Sound) {act : Act}
    (admitting : (before.step act).node.table.closed = false) :
    before.node.table.closed = false := by
  rw [← Bool.not_eq_true] at admitting ⊢
  exact fun closed => admitting (closed_step sound act closed)

theorem closed_run {before : Situation} (sound : before.node.ledger.Sound) {acts : List Act}
    (standing : .finishesTeardown ∉ acts) :
    (before.run acts).node.table.closed = before.node.table.closed := by
  induction acts generalizing before with
  | nil => rfl
  | cons act rest ih =>
      rw [List.mem_cons, not_or] at standing
      rw [run_cons, ih (sound_step sound act) standing.2]
      exact (step_effect sound act).closed_eq (Ne.symm standing.1)

/-- Only what concerns the listeners or the teardown changes the frame of a node. -/
theorem frame_step (before : Situation) {act : Act} (inner : act.concernsFrame = false) :
    (before.step act).node.frame = before.node.frame := by
  cases act with
  | requests around peer address now moment =>
      exact congrArg Prod.fst (shell_requestPeering _ _ _ _ _ _)
  | dialFails number =>
      simp only [step]
      split <;> rfl
  | dialConnects number socket moment =>
      simp only [step]
      split
      · rfl
      · exact frame_connected (before.node.withoutDial number) _ _
  | accepts remote socket moment => exact frame_connected _ _ _
  | identifies around slot name => exact congrArg Prod.fst (shell_identify _ _ _ _)
  | receives around slot bytes moment =>
      simp only [step]
      split
      · exact frame_received _ _ _ _ _
      · rfl
  | sends slot bytes => exact frame_send _ _ _
  | linkEnds slot =>
      simp only [step]
      split
      · exact frame_linkEnded _ _
      · rfl
  | drops peer => exact congrArg Prod.fst (shell_dropPeer _ _)
  | writes | closesHandle | drawsElsewhere => rfl
  | asksClose | grantsPermit | finishesTeardown | firesExit | storesHook | changesListener =>
      cases inner

/-- Only the second step of the teardown marks a node as closed. -/
theorem closed_mark_step (before : Situation) {act : Act} (other : act ≠ .finishesTeardown) :
    (before.step act).node.closed = before.node.closed := by
  cases inner : act.concernsFrame with
  | false => exact congrArg (·.2.2.2.2.2) (before.frame_step inner)
  | true =>
      cases act with
      | asksClose | grantsPermit | storesHook | changesListener => rfl
      | finishesTeardown => exact absurd rfl other
      | firesExit =>
          simp only [step, hearExit]
          split
          · split <;> rfl
          · rfl
      | _ => cases inner

/-- A node that is marked as closed has a closed table, and with it no entry. -/
structure Shut (situation : Situation) : Prop where
  vacated : situation.node.ledger.Vacated
  marked : situation.node.closed = true → situation.node.table.closed = true

theorem Shut.no_entries {situation : Situation} (shut : situation.Shut)
    (closed : situation.node.closed = true) : situation.node.table.registry.entries = [] :=
  shut.vacated (shut.marked closed)

theorem Shut.step {before : Situation} (shut : before.Shut) (sound : before.node.ledger.Sound)
    (act : Act) : (before.step act).Shut where
  vacated := (step_effect sound act).vacated shut.vacated
  marked := by
    intro closed
    by_cases teardown : act = .finishesTeardown
    · subst teardown
      by_cases ready : before.node.canFinishTeardown = true
      · have books := ledger_finishTeardown before.node
        simp only [Situation.step, ready, if_true]
        exact congrArg Ledger.closed books
      · simp only [Situation.step, ready, Bool.false_eq_true, if_false] at closed ⊢
        exact shut.marked closed
    · rw [closed_mark_step before teardown] at closed
      exact closed_step sound act (shut.marked closed)

theorem shut_of_initial {start : Situation} (initial : start.Initial) : start.Shut := by
  obtain ⟨profile, request, moment, fresh⟩ := initial
  constructor
  · rw [fresh]
    intro _
    rfl
  · rw [fresh]
    intro closed
    cases closed

end Situation

end PeerMesh.Node
