import PeerMesh.PeerTable
import PeerMesh.Proofs.Distinct

/-!
# The marks of the dials under way

Marks are sets, although they are kept in lists: what matters of an operation is which identifiers
and which addresses are marked after it.
-/

set_option autoImplicit false

namespace PeerMesh.InFlight

variable {inFlight : InFlight} {peer : Option String} {address other : SocketAddress}
  {name : String}

@[simp] theorem isDialing_iff : inFlight.isDialing name = true ↔ name ∈ inFlight.dialing := by
  simp [isDialing]

@[simp] theorem hasPending_iff : inFlight.hasPending address = true ↔ address ∈ inFlight.pending := by
  simp [hasPending]

@[simp] theorem mem_dialing_begin :
    name ∈ (inFlight.begin peer address).dialing ↔ name ∈ inFlight.dialing ∨ peer = some name := by
  cases peer <;> simp [begin, eq_comm]

@[simp] theorem mem_pending_begin :
    other ∈ (inFlight.begin peer address).pending ↔ other ∈ inFlight.pending ∨ other = address := by
  simp [begin]

@[simp] theorem mem_dialing_finishDialing? :
    name ∈ (inFlight.finishDialing? peer).dialing ↔ name ∈ inFlight.dialing ∧ peer ≠ some name := by
  cases peer <;> simp [finishDialing?, finishDialing, eq_comm]

@[simp] theorem pending_finishDialing? :
    (inFlight.finishDialing? peer).pending = inFlight.pending := by
  cases peer <;> rfl

@[simp] theorem dialing_takePending :
    (inFlight.takePending address).1.dialing = inFlight.dialing := rfl

@[simp] theorem mem_pending_takePending :
    other ∈ (inFlight.takePending address).1.pending ↔
      other ∈ inFlight.pending ∧ other ≠ address := by
  simp [takePending]

@[simp] theorem mem_dialing_release :
    name ∈ (inFlight.release peer address).dialing ↔ name ∈ inFlight.dialing ∧ peer ≠ some name := by
  simp [release]

@[simp] theorem mem_pending_release :
    other ∈ (inFlight.release peer address).pending ↔
      other ∈ inFlight.pending ∧ other ≠ address := by
  simp [release]

/-! ## Taking marks away in another order -/

theorem release_eq (inFlight : InFlight) (peer : Option String) (address : SocketAddress) :
    inFlight.release peer address =
      ⟨peer.elim inFlight.dialing (Distinct.remove inFlight.dialing),
        Distinct.remove inFlight.pending address⟩ := by
  cases peer <;> rfl

theorem finishDialing?_eq (inFlight : InFlight) (peer : Option String) :
    inFlight.finishDialing? peer =
      ⟨peer.elim inFlight.dialing (Distinct.remove inFlight.dialing), inFlight.pending⟩ := by
  cases peer <;> rfl

theorem remove_elim_comm (marks : List String) (first second : Option String) :
    first.elim (second.elim marks (Distinct.remove marks))
        (Distinct.remove (second.elim marks (Distinct.remove marks))) =
      second.elim (first.elim marks (Distinct.remove marks))
        (Distinct.remove (first.elim marks (Distinct.remove marks))) := by
  cases first <;> cases second <;> first | rfl | exact Distinct.remove_remove _ _ _

theorem finishDialing?_release (inFlight : InFlight) (peer other : Option String)
    (address : SocketAddress) :
    (inFlight.finishDialing? other).release peer address =
      (inFlight.release peer address).finishDialing? other := by
  simp only [release_eq, finishDialing?_eq, remove_elim_comm]

theorem release_release (inFlight : InFlight) (peer other : Option String)
    (address target : SocketAddress) :
    (inFlight.release other target).release peer address =
      (inFlight.release peer address).release other target := by
  simp only [release_eq, remove_elim_comm _ peer other,
    Distinct.remove_remove _ target address]

theorem takePending_release (inFlight : InFlight) (peer : Option String)
    (address target : SocketAddress) :
    (inFlight.takePending target).1.release peer address =
      ((inFlight.release peer address).takePending target).1 := by
  simp only [release_eq, takePending, Distinct.remove_remove _ target address]

/-- To release the marks of a dial undoes its beginning, if they were not there before. -/
theorem begin_release {inFlight : InFlight} {peer : Option String} {address : SocketAddress}
    (undialed : peer.any inFlight.isDialing = false) (clear : inFlight.hasPending address = false) :
    (inFlight.begin peer address).release peer address = inFlight := by
  have unmarked : address ∉ inFlight.pending := by simpa [hasPending] using clear
  cases peer with
  | none => simp only [release_eq, begin, Option.elim_none, Distinct.remove_add unmarked]
  | some name =>
      have absent : name ∉ inFlight.dialing := by simpa [isDialing] using undialed
      simp only [release_eq, begin, Option.elim_some, Distinct.remove_add unmarked,
        Distinct.remove_add absent]

/-- Another dial may begin before the marks are released as well as after. -/
theorem begin_release_comm (inFlight : InFlight) {peer other : Option String}
    {address target : SocketAddress} (foreign : target ≠ address)
    (stranger : ∀ name, peer = some name → other ≠ some name) :
    (inFlight.begin other target).release peer address =
      (inFlight.release peer address).begin other target := by
  simp only [release_eq, begin, Distinct.remove_add_of_ne (Ne.symm foreign)]
  cases other with
  | none => rfl
  | some wanted =>
      cases peer with
      | none => rfl
      | some name =>
          have different : name ≠ wanted := by
            rintro rfl
            exact stranger name rfl rfl
          simp only [Option.elim_some, Distinct.remove_add_of_ne different]

end PeerMesh.InFlight
