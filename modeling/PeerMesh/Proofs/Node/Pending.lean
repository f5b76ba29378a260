import Mathlib.Data.List.Induction
import PeerMesh.Proofs.Node.Addresses

/-!
# Marked addresses are being dialed

A dial is in flight from the request that begins it until it connects or fails. Marks name addresses
and not dials, so that of several dials to one address any that ends takes the mark along, and so
does a connection accepted from there. No mark outlasts the dials to its address.
-/

set_option autoImplicit false

namespace PeerMesh.Node

/-- The number of the dial that an act ends, if it ends one. -/
def Act.ended? : Act → Option Nat
  | .dialFails number => some number
  | .dialConnects number _ _ => some number
  | _ => none

namespace Ledger

/-- Every marked address is that of a dial under way. -/
def Dialed (ledger : Ledger) : Prop :=
  ∀ address ∈ ledger.inFlight.pending, ∃ dial ∈ ledger.dials, dial.address = address

theorem Dialed.of_le {ledger result : Ledger} (dialed : ledger.Dialed)
    (dials : result.dials = ledger.dials)
    (pending : ∀ address ∈ result.inFlight.pending, address ∈ ledger.inFlight.pending) :
    result.Dialed := by
  intro address marked
  rw [dials]
  exact dialed address (pending address marked)

theorem Dialed.named {ledger result : Ledger} (dialed : ledger.Dialed)
    (naming : ledger.Naming result) : result.Dialed := by
  apply dialed.of_le naming.dials_eq.1
  rw [naming.pending_eq]
  exact fun _ marked => marked

theorem Dialed.began {ledger : Ledger} (dialed : ledger.Dialed) (dial : Dial) :
    (ledger.began dial).Dialed := by
  intro address marked
  cases InFlight.mem_pending_begin.mp marked with
  | inl old =>
      obtain ⟨other, member, same⟩ := dialed address old
      exact ⟨other, List.mem_append_left _ member, same⟩
  | inr fresh => exact ⟨dial, List.mem_append_right _ List.mem_cons_self, fresh.symm⟩

/-- The dial that is over took the mark of its address along; another address still has its dial. -/
theorem Dialed.over {ledger result : Ledger} (dialed : ledger.Dialed) (sound : ledger.Sound)
    {dial : Dial} (member : dial ∈ ledger.dials)
    (dials : result.dials = (ledger.ended dial.number).dials)
    (pending : ∀ address, address ∈ result.inFlight.pending ↔
      address ∈ ledger.inFlight.pending ∧ address ≠ dial.address) : result.Dialed := by
  intro address marked
  obtain ⟨old, different⟩ := (pending address).mp marked
  obtain ⟨other, otherMember, same⟩ := dialed address old
  have remains : other.number ≠ dial.number := by
    intro sameNumber
    rw [eq_of_number_eq sound otherMember member sameNumber] at same
    exact different same.symm
  rw [dials]
  exact ⟨other, List.mem_filter.mpr ⟨otherMember, bne_iff_ne.mpr remains⟩, same⟩

end Ledger

theorem Effect.dialed {before : Situation} {act : Act} {result : Ledger}
    (effect : Effect before act result) (sound : before.node.ledger.Sound)
    (dialed : before.node.ledger.Dialed) : result.Dialed := by
  cases effect with
  | nothing => exact dialed
  | began => exact dialed.began _
  | failed dial member =>
      exact dialed.over sound member rfl fun _ => InFlight.mem_pending_release
  | connected dial member =>
      exact dialed.over sound member rfl fun _ => InFlight.mem_pending_takePending
  | turnedAway dial member =>
      exact dialed.over sound member rfl fun _ => InFlight.mem_pending_release
  | accepted =>
      exact dialed.of_le rfl fun _ marked => (InFlight.mem_pending_takePending.mp marked).1
  | named naming => exact dialed.named naming
  | noted => exact dialed.of_le rfl fun _ marked => marked
  | @greeted around slot bytes moment result naming =>
      have noted : (before.node.ledger.noted slot moment).Dialed :=
        dialed.of_le rfl fun _ marked => marked
      exact noted.named naming
  | linkEnded entry found => exact dialed.named (.lost entry found)
  | dropped => exact dialed.of_le rfl fun _ marked => marked
  | emptied =>
      intro address marked
      cases marked

namespace Situation

/-! ## Dials in flight -/

/-- The act is a request that is not declined, and `dial` is the dial that it begins. -/
def Begins (before : Situation) (dial : Dial) : Act → Prop
  | .requests around peer address now _ =>
    before.node.refusal? around peer address = none ∧
      dial = before.node.dialOf peer address now
  | _ => False

/-- In the course of the acts `dial` was begun, and it has neither connected nor failed since. -/
def Awaits (start : Situation) (acts : List Act) (dial : Dial) : Prop :=
  ∃ past act rest, acts = past ++ act :: rest ∧ (start.run past).Begins dial act ∧
    ∀ later ∈ rest, later.ended? ≠ some dial.number

theorem dials_of_begins {before : Situation} {act : Act} {dial : Dial}
    (begins : before.Begins dial act) :
    (before.step act).node.dials = before.node.dials ++ [dial] := by
  cases act with
  | requests around peer address now moment =>
      obtain ⟨accepted, rfl⟩ := begins
      exact congrArg Ledger.dials (ledger_requestPeering_of_accepted accepted now moment)
  | _ => cases begins

theorem dials_connected (node : Node) (arrived : Arrived) (moment : Nat) :
    (node.connected arrived moment).1.dials = node.dials := by
  cases closed : node.ledger.closed with
  | false => exact congrArg Ledger.dials (ledger_connected_of_open closed arrived moment)
  | true =>
      have books := ledger_connected_of_closed closed arrived moment
      cases direction : arrived.direction with
      | inbound =>
          rw [direction] at books
          exact congrArg Ledger.dials books
      | outbound =>
          rw [direction] at books
          exact congrArg Ledger.dials books

theorem dials_of_ended {before : Situation} {act : Act} {number : Nat}
    (ended : act.ended? = some number) :
    (before.step act).node.dials =
      before.node.dials.filter fun dial => dial.number != number := by
  have absent : before.node.dial? number = none →
      before.node.dials = before.node.dials.filter fun dial => dial.number != number := by
    intro search
    symm
    apply List.filter_eq_self.mpr
    intro dial member
    simpa using List.find?_eq_none.mp search dial member
  cases act with
  | dialFails failed =>
      cases ended
      cases search : before.node.dial? number with
      | none =>
          simp only [step, search]
          exact absent search
      | some dial =>
          obtain ⟨-, rfl⟩ := dial?_eq_some search
          simp only [step, search]
          rfl
  | dialConnects connected socket moment =>
      cases ended
      cases search : before.node.dial? number with
      | none =>
          simp only [step, search]
          exact absent search
      | some dial =>
          simp only [step, search]
          exact dials_connected _ _ _
  | _ => cases ended

theorem dial?_of_ended {before : Situation} {act : Act} {number : Nat}
    (ended : act.ended? = some number) : (before.step act).node.dial? number = none := by
  rw [dial?, dials_of_ended ended, List.find?_eq_none]
  intro dial remains same
  exact bne_iff_ne.mp (List.mem_filter.mp remains).2 (eq_of_beq same)

theorem dials_of_other {before : Situation} (sound : before.node.ledger.Sound) {act : Act}
    (unbegun : ∀ dial, ¬ before.Begins dial act) (unended : act.ended? = none) :
    (before.step act).node.dials = before.node.dials := by
  have effect := step_effect sound act
  change (before.step act).node.ledger.dials = before.node.ledger.dials
  generalize (before.step act).node.ledger = result at effect
  cases effect with
  | began accepted => exact absurd ⟨accepted, rfl⟩ (unbegun _)
  | failed | connected | turnedAway => cases unended
  | named naming => exact naming.dials_eq.1
  | greeted naming => exact naming.dials_eq.1
  | linkEnded entry => exact Ledger.dials_dismissed _ entry
  | nothing | accepted | noted | dropped | emptied => rfl

theorem mem_dials_step {before : Situation} (sound : before.node.ledger.Sound) (act : Act)
    (dial : Dial) :
    dial ∈ (before.step act).node.dials ↔
      before.Begins dial act ∨ dial ∈ before.node.dials ∧ act.ended? ≠ some dial.number := by
  by_cases begun : ∃ other, before.Begins other act
  · obtain ⟨other, begins⟩ := begun
    have unended : act.ended? = none := by
      cases act with
      | requests => rfl
      | _ => cases begins
    have same : before.Begins dial act ↔ dial = other := by
      cases act with
      | requests =>
          obtain ⟨accepted, rfl⟩ := begins
          exact and_iff_right accepted
      | _ => cases begins
    rw [dials_of_begins begins, List.mem_append, List.mem_singleton, same, unended]
    simp [or_comm]
  · rw [not_exists] at begun
    cases ended : act.ended? with
    | none => simp [dials_of_other sound begun ended, begun dial]
    | some number =>
        rw [dials_of_ended ended, List.mem_filter, bne_iff_ne, ne_comm]
        simp only [begun dial, false_or, ne_eq, Option.some.injEq]

theorem awaits_append_singleton {start : Situation} {acts : List Act} {last : Act} {dial : Dial} :
    start.Awaits (acts ++ [last]) dial ↔
      (start.run acts).Begins dial last ∨
        start.Awaits acts dial ∧ last.ended? ≠ some dial.number := by
  constructor
  · intro awaits
    obtain ⟨past, act, rest, split, begins, unended⟩ := awaits
    cases rest using List.reverseRecOn with
    | nil =>
        obtain ⟨rfl, same⟩ := List.append_inj' split rfl
        cases same
        exact .inl begins
    | append_singleton rest latest =>
        rw [← List.cons_append, ← List.append_assoc] at split
        obtain ⟨rfl, same⟩ := List.append_inj' split rfl
        cases same
        right
        constructor
        · exact ⟨past, act, rest, rfl, begins,
            fun later member => unended later (List.mem_append_left _ member)⟩
        · exact unended last (List.mem_append_right _ List.mem_cons_self)
  · intro inFlight
    cases inFlight with
    | inl begins => exact ⟨acts, last, [], rfl, begins, by simp⟩
    | inr remains =>
        obtain ⟨⟨past, act, rest, rfl, begins, unended⟩, lasting⟩ := remains
        refine ⟨past, act, rest ++ [last], by simp, begins, ?_⟩
        intro later member
        cases List.mem_append.mp member with
        | inl earlier => exact unended later earlier
        | inr now =>
            cases List.mem_singleton.mp now
            exact lasting

/-- The dials under way are those in flight by their history. -/
theorem mem_dials_iff_awaits {start : Situation} (initial : start.Initial) (acts : List Act)
    (dial : Dial) : dial ∈ (start.run acts).node.dials ↔ start.Awaits acts dial := by
  induction acts using List.reverseRecOn with
  | nil =>
      have idle : (start.run []).node.dials = [] := by
        obtain ⟨profile, request, moment, fresh⟩ := initial
        rw [run_nil, fresh]
        rfl
      rw [idle]
      constructor
      · intro member
        cases member
      · intro awaits
        obtain ⟨past, act, rest, split, -⟩ := awaits
        simp at split
  | append_singleton acts last ih =>
      rw [awaits_append_singleton, ← ih, run_append]
      exact mem_dials_step (sound_run initial acts) last dial

/-- Every marked address has a dial to it in flight, so that no address is marked any more once all
dials have connected or failed. -/
theorem awaits_of_pending {start : Situation} (initial : start.Initial) (acts : List Act) :
    (∀ address ∈ (start.run acts).node.table.inFlight.pending,
      ∃ dial, start.Awaits acts dial ∧ dial.address = address) ∧
    ((∀ dial, ¬ start.Awaits acts dial) →
      (start.run acts).node.table.inFlight.pending = []) := by
  have dialed : (start.run acts).node.ledger.Dialed := by
    apply run_induction_of_sound (·.node.ledger.Dialed) initial
    · obtain ⟨profile, request, moment, fresh⟩ := initial
      rw [fresh]
      intro address marked
      cases marked
    · intro before act sound dialed
      exact (step_effect sound act).dialed sound dialed
  have awaited : ∀ address ∈ (start.run acts).node.table.inFlight.pending,
      ∃ dial, start.Awaits acts dial ∧ dial.address = address := by
    intro address marked
    obtain ⟨dial, member, same⟩ := dialed address marked
    exact ⟨dial, (mem_dials_iff_awaits initial acts dial).mp member, same⟩
  constructor
  · exact awaited
  · intro none
    apply List.eq_nil_iff_forall_not_mem.mpr
    intro address marked
    obtain ⟨dial, awaits, -⟩ := awaited address marked
    exact none dial awaits

/-- A peer connects from the address that is being dialed and goes again, so that the address is
dialed a second time while the first dial is under way. The first dial ends and takes the mark along,
and the address is dialed a third time. -/
def overlapping : List Act :=
  [.requests aloof (some "p") (.v4 ⟨192, 0, 2, 1⟩ 5000) 0 1,
    .accepts (.v4 ⟨192, 0, 2, 1⟩ 5000) ⟨0, .callee⟩ 2, .linkEnds ⟨1⟩,
    .requests aloof (some "q") (.v4 ⟨192, 0, 2, 1⟩ 5000) 0 3, .dialFails 0,
    .requests aloof (some "r") (.v4 ⟨192, 0, 2, 1⟩ 5000) 0 4]

theorem awaits_of_pending_overlapping :
    let ended := overlapping ++ [.dialFails 1, .dialConnects 2 ⟨1, .caller⟩ 5]
    ((lone 40000).run overlapping).node.table.inFlight.pending = [.v4 ⟨192, 0, 2, 1⟩ 5000] ∧
      (∃ dial, (lone 40000).Awaits overlapping dial ∧ dial.address = .v4 ⟨192, 0, 2, 1⟩ 5000) ∧
      (∀ dial, ¬ (lone 40000).Awaits ended dial) ∧
      ((lone 40000).run ended).node.table.inFlight.pending = [] := by
  intro ended
  have marked : ((lone 40000).run overlapping).node.table.inFlight.pending =
      [.v4 ⟨192, 0, 2, 1⟩ 5000] := by decide
  have idle : ((lone 40000).run ended).node.dials = [] := by decide
  have unawaited : ∀ dial, ¬ (lone 40000).Awaits ended dial := by
    intro dial awaits
    have underWay := (mem_dials_iff_awaits (initial_lone 40000) ended dial).mpr awaits
    rw [idle] at underWay
    cases underWay
  refine ⟨marked, ?_, unawaited, ?_⟩
  · apply (awaits_of_pending (initial_lone 40000) overlapping).1
    rw [marked]
    exact List.mem_cons_self
  · exact (awaits_of_pending (initial_lone 40000) ended).2 unawaited

end Situation

end PeerMesh.Node
