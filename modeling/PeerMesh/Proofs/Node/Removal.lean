import PeerMesh.Proofs.Node.Greetings
import PeerMesh.Proofs.Node.Initiative
import PeerMesh.Proofs.Node.Standing

/-!
# Removed connections

The task of a connection may go on after the connection was removed, and what it reports comes late.
Slots are given out in order and only once, so a slot that is not registered any more stays so; and
whatever comes for it, the registry, the marks and all other connections are left as they are.
-/

set_option autoImplicit false

namespace PeerMesh

namespace Registry

variable {registry : Registry} {slot : Slot}

theorem touch_of_get?_eq_none (absent : registry.get? slot = none) (moment : Nat) :
    registry.touch slot moment = registry := by
  have entries : (registry.touch slot moment).entries = registry.entries := by
    refine (List.map_congr_left ?_).trans (List.map_id _)
    intro entry member
    refine if_neg ?_
    simpa using List.find?_eq_none.mp absent entry member
  exact congrArg (fun entries => ({ registry with entries } : Registry)) entries

/-- A slot that is not registered gets no name, whatever the answer. -/
theorem eq_of_rename_of_get?_eq_none (absent : registry.get? slot = none) {name : String}
    {later : Registry} (renamed : registry.rename slot name = .ok later) : later = registry := by
  unfold rename at renamed
  rw [absent] at renamed
  split at renamed
  · cases renamed
  · exact (Except.ok.inj renamed).symm

end Registry

namespace Node

variable {node : Node} {slot other : Slot}

/-! ## Late events -/

theorem received_of_unregistered (absent : node.table.registry.get? slot = none)
    (around : Surroundings) (bytes : Bytes) (moment : Nat) :
    node.received around slot bytes moment = node.listened slot bytes moment := by
  have still : (node.listened slot bytes moment).table.registry.get? slot = none := by
    change (node.table.registry.touch slot moment).get? slot = none
    rw [Registry.touch_of_get?_eq_none absent, absent]
  cases greeted : node.greeting? slot bytes with
  | none => exact received_of_silent greeted around moment
  | some greeting =>
      obtain ⟨name, initiated⟩ := greeting
      rw [received_of_greeted greeted]
      simp only [identify, still]

/-- Whether an act is about the connection under `slot`. -/
def Act.concerns (slot : Slot) : Act → Bool
  | .identifies _ named _ => named = slot
  | .receives _ heard _ _ => heard = slot
  | .sends sent _ => sent = slot
  | .writes written => written = slot
  | .closesHandle closed => closed = slot
  | .linkEnds ended => ended = slot
  | _ => false

namespace Situation

/-- Nothing is registered under the slot, and no operation on it has any effect but on what is left
of its own task. -/
structure Gone (situation : Situation) (slot : Slot) : Prop where
  absent : situation.node.table.registry.get? slot = none
  touched : ∀ moment, situation.node.table.registry.touch slot moment =
    situation.node.table.registry
  renamed : ∀ name later, situation.node.table.registry.rename slot name = .ok later →
    later = situation.node.table.registry
  removed : situation.node.table.registry.remove slot = (situation.node.table.registry, none)
  acts : ∀ act : Act, act.concerns slot = true →
    (situation.step act).node.ledger = situation.node.ledger ∧
      ∀ other, other ≠ slot → (situation.step act).node.standing other =
        situation.node.standing other

theorem gone_of_absent {situation : Situation} {slot : Slot}
    (absent : situation.node.table.registry.get? slot = none) : situation.Gone slot where
  absent := absent
  touched := Registry.touch_of_get?_eq_none absent
  renamed := fun _ _ renamed => Registry.eq_of_rename_of_get?_eq_none absent renamed
  removed := Registry.remove_of_get?_eq_none absent
  acts := by
    -- an act that reaches only the handle under the slot
    have handled : ∀ change, (situation.node.updateHandle slot change).ledger =
        situation.node.ledger ∧ ∀ other, other ≠ slot →
          (situation.node.updateHandle slot change).standing other =
            situation.node.standing other := by
      intro change
      refine ⟨rfl, fun other different => ?_⟩
      rw [standing, link?_updateHandle_of_ne different]
      rfl
    intro act concerns
    cases act with
    | identifies around named name =>
        obtain rfl : named = slot := by simpa [Act.concerns] using concerns
        have refused : (situation.node.identify around named name).1 = situation.node := by
          simp only [identify, absent]
        simp only [step, refused, implies_true, and_self]
    | receives around heard bytes moment =>
        obtain rfl : heard = slot := by simpa [Act.concerns] using concerns
        simp only [step]
        split
        · rw [received_of_unregistered absent, listened, Registry.touch_of_get?_eq_none absent]
          exact ⟨rfl, fun _ _ => rfl⟩
        · exact ⟨rfl, fun _ _ => rfl⟩
    | sends sent bytes =>
        obtain rfl : sent = slot := by simpa [Act.concerns] using concerns
        have refused : (situation.node.send sent bytes).1 = situation.node := by
          simp only [send, absent]
        simp only [step, refused, implies_true, and_self]
    | writes written =>
        obtain rfl : written = slot := by simpa [Act.concerns] using concerns
        exact handled _
    | closesHandle closed =>
        obtain rfl : closed = slot := by simpa [Act.concerns] using concerns
        exact handled _
    | linkEnds ended =>
        obtain rfl : ended = slot := by simpa [Act.concerns] using concerns
        simp only [step]
        split
        · refine ⟨ledger_linkEnded_of_get?_eq_none absent, fun other different => ?_⟩
          rw [standing, registry_linkEnded, Registry.remove_of_get?_eq_none absent,
            link?_linkEnded, if_neg different, standing]
        · exact ⟨rfl, fun _ _ => rfl⟩
    | _ => cases concerns

/-- What is not registered under a slot that was given out is not registered there later. -/
theorem get?_eq_none_step {before : Situation} (sound : before.node.ledger.Sound) {slot : Slot}
    (issued : slot.number ≤ before.node.table.registry.lastSlot)
    (absent : before.node.table.registry.get? slot = none) (act : Act) :
    (before.step act).node.table.registry.get? slot = none := by
  rw [Registry.get?, List.find?_eq_none]
  intro entry member
  simp only [beq_iff_eq]
  rintro rfl
  rcases registered_of_step sound member with ⟨old, registered, same⟩ | admits
  · have found : before.node.table.registry.get? old.slot = some old :=
      Registry.get?_of_mem sound.registry registered
    rw [same, absent] at found
    cases found
  · exact Nat.not_lt.mpr issued admits.2

theorem get?_eq_none_run {before : Situation} (sound : before.node.ledger.Sound) {slot : Slot}
    (issued : slot.number ≤ before.node.table.registry.lastSlot)
    (absent : before.node.table.registry.get? slot = none) (acts : List Act) :
    (before.run acts).node.table.registry.get? slot = none := by
  induction acts generalizing before with
  | nil => exact absent
  | cons act rest ih =>
      exact ih (sound_step sound act) (Nat.le_trans issued (lastSlot_le_step sound act))
        (get?_eq_none_step sound issued absent act)

/-! ## Slots that are given out -/

/-- The slot that an act gives out, if it registers a connection. -/
def given (before : Situation) : Act → List Slot
  | .accepts remote socket moment =>
    (before.node.connected
      ⟨Context.placeholder (before.sessions + 1), remote, .inbound, none, socket⟩
      moment).2.toOption.toList
  | .dialConnects number socket moment =>
    match before.node.dial? number with
    | none => []
    | some dial =>
      ((before.node.withoutDial number).connected
        ⟨Context.placeholder (before.sessions + 1), dial.address, .outbound, dial.peer, socket⟩
        moment).2.toOption.toList
  | _ => []

theorem given_connected (node : Node) (arrived : Arrived) (moment : Nat) :
    (node.connected arrived moment).2.toOption.toList = [] ∨
      (node.connected arrived moment).2.toOption.toList = [node.nextSlot] ∧
        (node.connected arrived moment).1.table.registry.lastSlot =
          node.table.registry.lastSlot + 1 := by
  cases closed : node.table.closed with
  | true =>
      left
      rw [connected_of_closed closed]
      rfl
  | false =>
      right
      refine ⟨?_, congrArg (·.registry.lastSlot) (ledger_connected_of_open closed arrived moment)⟩
      rw [connected_eq_ok closed]
      rfl

/-- An act gives out the next slot, or none. -/
theorem given_cases (before : Situation) (act : Act) :
    before.given act = [] ∨ before.given act = [before.node.nextSlot] ∧
      (before.step act).node.table.registry.lastSlot = before.node.table.registry.lastSlot + 1 := by
  cases act with
  | accepts remote socket moment => exact given_connected before.node _ moment
  | dialConnects number socket moment =>
      cases search : before.node.dial? number with
      | none =>
          left
          simp only [given, search]
      | some dial =>
          simp only [given, step, search]
          exact given_connected (before.node.withoutDial number) _ moment
  | _ => exact .inl rfl

/-- The slots given out so far go up, and none of them is beyond the last. -/
theorem given_run {start : Situation} (initial : start.Initial) (acts : List Act) :
    (gathered given start acts).Pairwise (fun earlier later => earlier.number < later.number) ∧
      ∀ slot ∈ gathered given start acts,
        slot.number ≤ (start.run acts).node.table.registry.lastSlot := by
  induction acts using List.reverseRecOn with
  | nil => exact ⟨.nil, nofun⟩
  | append_singleton past act ih =>
      obtain ⟨ascending, issued⟩ := ih
      have further := lastSlot_le_step (sound_run initial past) act
      rw [gathered_concat, run_append]
      rcases given_cases (start.run past) act with none | ⟨one, last⟩
      · rw [none, List.append_nil]
        exact ⟨ascending, fun slot member => Nat.le_trans (issued slot member) further⟩
      · rw [one]
        refine ⟨List.pairwise_append.mpr ⟨ascending, List.pairwise_singleton _ _, ?_⟩, ?_⟩
        · intro earlier member later fresh
          rw [List.mem_singleton.mp fresh]
          exact Nat.lt_succ_of_le (issued earlier member)
        · intro slot member
          rcases List.mem_append.mp member with old | fresh
          · exact Nat.le_trans (issued slot old) further
          · rw [List.mem_singleton.mp fresh]
            exact Nat.le_of_eq last.symm

/-- Slots are given out in increasing order. Once a connection is not registered any more, nothing
registers it again, and whatever comes for it leaves the books and every other connection alone. -/
theorem removed_stays_removed {start : Situation} (initial : start.Initial) (past : List Act) :
    (gathered given start past).Pairwise (fun earlier later => earlier.number < later.number) ∧
      ∀ slot ∈ gathered given start past,
        (start.run past).node.table.registry.get? slot = none →
          ∀ later, (start.run (past ++ later)).Gone slot := by
  obtain ⟨ascending, issued⟩ := given_run initial past
  refine ⟨ascending, ?_⟩
  intro slot member absent later
  refine gone_of_absent ?_
  rw [run_append]
  exact get?_eq_none_run (sound_run initial past) (issued slot member) absent later

/-- A connection is dropped, and its task goes on: bytes come in, a name is asked for, and it ends. -/
def reportsLate : List Act :=
  [.accepts (.v4 ⟨192, 0, 2, 1⟩ 5000) ⟨0, .callee⟩ 1,
    .accepts (.v4 ⟨192, 0, 2, 2⟩ 5000) ⟨1, .callee⟩ 2, .drops "temp-uuid-1"]

theorem removed_stays_removed_reportsLate :
    (lone 40000).listening.Initial ∧
      ⟨1⟩ ∈ gathered given (lone 40000).listening reportsLate ∧
      ((lone 40000).listening.run reportsLate).node.table.registry.get? ⟨1⟩ = none ∧
      ((lone 40000).listening.run (reportsLate ++
        [.receives aloof ⟨1⟩ [72, 69, 76, 76, 79, 32, 112, 10] 4, .linkEnds ⟨1⟩])).Gone ⟨1⟩ :=
  ⟨initial_listening 40000, by decide, by decide,
    (removed_stays_removed (initial_listening 40000) reportsLate).2 ⟨1⟩ (by decide) (by decide) _⟩

end Situation

end Node

end PeerMesh
