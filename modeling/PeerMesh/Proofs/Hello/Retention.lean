import Mathlib.Algebra.GroupWithZero.Nat
import Mathlib.Algebra.Order.BigOperators.Group.List
import Mathlib.Algebra.Order.Group.Nat
import Mathlib.Data.List.Perm.Subperm
import PeerMesh.Proofs.Hello.Progress

/-!
# What a hello exchange keeps

The exchange takes in bytes that others choose, and keeps some of them: on one connection no more
than the limit of a line, and none once the first line has been dealt with. What it keeps of a
connection goes with the connection.
-/

set_option autoImplicit false

namespace PeerMesh.Hello

/-- Bytes have come in on the connection under `slot`, and the exchange keeps some or knows it. -/
def Minds (hello : Hello) (slot : Slot) : Prop :=
  slot ∈ hello.buffers.map (·.1) ∨ slot ∈ hello.done

/-- The exchange keeps front parts of lines within the limit, one for a connection and none of a
line that has been dealt with. It keeps them, and that they have been dealt with, of connections that
are pumped, and that it spoke first of those where it was told to. -/
structure Confined (hello : Hello) (pumped told : Slot → Prop) : Prop where
  short : ∀ entry ∈ hello.buffers, entry.2.length ≤ lineLimit
  unfinished : ∀ entry ∈ hello.buffers, lineFeed ∉ entry.2
  unheard : ∀ entry ∈ hello.buffers, entry.1 ∉ hello.done
  distinct : (hello.buffers.map (·.1)).Nodup
  tended : ∀ slot, hello.Minds slot → pumped slot
  begun : ∀ slot ∈ hello.initiated, told slot

variable {hello later : Hello} {pumped stillPumped told stillTold : Slot → Prop} {slot other : Slot}

theorem mem_withoutBuffer {entry : Slot × Bytes} :
    entry ∈ hello.withoutBuffer slot ↔ entry ∈ hello.buffers ∧ entry.1 ≠ slot := by
  simp [withoutBuffer]

theorem slot_mem_withoutBuffer :
    other ∈ (hello.withoutBuffer slot).map (·.1) ↔
      other ∈ hello.buffers.map (·.1) ∧ other ≠ slot := by
  simp [withoutBuffer]

theorem withoutBuffer_sublist (hello : Hello) (slot : Slot) :
    (hello.withoutBuffer slot).Sublist hello.buffers :=
  List.filter_sublist

/-! ## What is minded -/

theorem minds_settle_iff :
    (hello.settle slot).Minds other ↔ hello.Minds other ∨ other = slot := by
  simp only [Minds, settle, slot_mem_withoutBuffer, List.mem_append, List.mem_singleton]
  grind

theorem minds_keep_iff {collected : Bytes} :
    ({ hello with buffers := hello.withoutBuffer slot ++ [(slot, collected)] } : Hello).Minds
      other ↔ hello.Minds other ∨ other = slot := by
  simp only [Minds, List.map_append, List.mem_append, slot_mem_withoutBuffer, List.map_cons,
    List.map_nil, List.mem_singleton]
  grind

theorem minds_forget_iff :
    (hello.forget slot).Minds other ↔ hello.Minds other ∧ other ≠ slot := by
  simp only [Minds, forget, slot_mem_withoutBuffer, Distinct.mem_remove, or_and_right]

/-! ## What is kept of each connection -/

theorem confined_initial (pumped told : Slot → Prop) : initial.Confined pumped told where
  short := nofun
  unfinished := nofun
  unheard := nofun
  distinct := List.nodup_nil
  tended := by simp [Minds, initial]
  begun := nofun

namespace Confined

theorem of_sublist (confined : hello.Confined pumped told)
    (fewer : later.buffers.Sublist hello.buffers)
    (unheard : ∀ entry ∈ later.buffers, entry.1 ∉ later.done)
    (tended : ∀ slot, later.Minds slot → stillPumped slot)
    (begun : ∀ slot ∈ later.initiated, stillTold slot) :
    later.Confined stillPumped stillTold where
  short := fun entry member => confined.short entry (fewer.subset member)
  unfinished := fun entry member => confined.unfinished entry (fewer.subset member)
  unheard := unheard
  distinct := confined.distinct.sublist (fewer.map _)
  tended := tended
  begun := begun

theorem mono (confined : hello.Confined pumped told) (still : ∀ slot, pumped slot → stillPumped slot)
    (stillBegun : ∀ slot, told slot → stillTold slot) : hello.Confined stillPumped stillTold :=
  confined.of_sublist (List.Sublist.refl _) confined.unheard
    (fun slot minded => still slot (confined.tended slot minded))
    fun slot member => stillBegun slot (confined.begun slot member)

theorem tended_or (confined : hello.Confined pumped told) (received : pumped slot)
    (minded : hello.Minds other ∨ other = slot) : pumped other := by
  cases minded with
  | inl before => exact confined.tended other before
  | inr same => exact same ▸ received

theorem initiate (confined : hello.Confined pumped told) (speaks : told slot) :
    (hello.initiate slot).Confined pumped told := by
  refine confined.of_sublist (List.Sublist.refl _) confined.unheard confined.tended ?_
  intro other member
  rcases Distinct.mem_add.mp member with before | rfl
  · exact confined.begun other before
  · exact speaks

theorem settle (confined : hello.Confined pumped told) (received : pumped slot) :
    (hello.settle slot).Confined pumped told := by
  refine confined.of_sublist (withoutBuffer_sublist hello slot) ?_ ?_ confined.begun
  · intro entry member dealt
    obtain ⟨kept, different⟩ := mem_withoutBuffer.mp member
    cases List.mem_append.mp dealt with
    | inl before => exact confined.unheard entry kept before
    | inr now => exact different (List.mem_singleton.mp now)
  · intro other minded
    exact confined.tended_or received (minds_settle_iff.mp minded)

/-- A buffer takes the place of the one before it. -/
theorem keep (confined : hello.Confined pumped told) (received : pumped slot)
    (undealt : slot ∉ hello.done) {collected : Bytes} (absent : lineFeed ∉ collected)
    (fits : collected.length ≤ lineLimit) :
    ({ hello with buffers := hello.withoutBuffer slot ++ [(slot, collected)] } : Hello).Confined
      pumped told := by
  have old : ∀ entry, entry ∈ hello.withoutBuffer slot ++ [(slot, collected)] →
      entry ∈ hello.buffers ∨ entry = (slot, collected) := by
    intro entry member
    rw [List.mem_append, List.mem_singleton, mem_withoutBuffer] at member
    exact member.imp_left And.left
  constructor
  case short =>
    intro entry member
    cases old entry member with
    | inl before => exact confined.short entry before
    | inr now =>
        subst now
        exact fits
  case unfinished =>
    intro entry member
    cases old entry member with
    | inl before => exact confined.unfinished entry before
    | inr now =>
        subst now
        exact absent
  case unheard =>
    intro entry member
    cases old entry member with
    | inl before => exact confined.unheard entry before
    | inr now =>
        subst now
        exact undealt
  case distinct =>
    rw [List.map_append, List.map_singleton, List.nodup_append]
    refine ⟨confined.distinct.sublist ((withoutBuffer_sublist hello slot).map _), by simp, ?_⟩
    intro other buffered added new same
    rw [List.mem_singleton.mp new] at same
    exact (slot_mem_withoutBuffer.mp buffered).2 same
  case tended =>
    intro other minded
    exact confined.tended_or received (minds_keep_iff.mp minded)
  case begun => exact confined.begun

/-- Bytes that come in on a pumped connection, whatever they are. The cases are those of the
exchange: the first line has been dealt with, is too long, waits, or is complete. -/
theorem receive (confined : hello.Confined pumped told) (received : pumped slot) (bytes : Bytes) :
    (hello.receive slot bytes).1.Confined pumped told := by
  unfold Hello.receive
  split
  · exact confined
  · rename_i undealt
    dsimp only
    split
    · rename_i missing
      split
      · exact confined.settle received
      · rename_i fits
        exact confined.keep received undealt (beforeLineFeed?_eq_none_iff.mp missing)
          (Nat.not_lt.mp fits)
    · have settled := confined.settle received
      refine settled.of_sublist (List.Sublist.refl _) settled.unheard settled.tended ?_
      -- speaking first is over with the first line
      intro other member
      exact settled.begun other (Distinct.mem_remove.mp member).1

/-- What is forgotten with a connection is all that was kept of it. -/
theorem forget (confined : hello.Confined pumped told) (slot : Slot) :
    (hello.forget slot).Confined (fun other => pumped other ∧ other ≠ slot)
      fun other => told other ∧ other ≠ slot := by
  refine confined.of_sublist (withoutBuffer_sublist hello slot) ?_ ?_ ?_
  · intro entry member dealt
    exact confined.unheard entry (mem_withoutBuffer.mp member).1 (Distinct.mem_remove.mp dealt).1
  · intro other minded
    obtain ⟨before, different⟩ := minds_forget_iff.mp minded
    exact ⟨confined.tended other before, different⟩
  · intro other member
    obtain ⟨before, different⟩ := Distinct.mem_remove.mp member
    exact ⟨confined.begun other before, different⟩

/-- Without a pumped connection, nothing is kept but that the exchange spoke first. -/
theorem eq_of_unpumped (confined : hello.Confined pumped told) (none : ∀ slot, ¬ pumped slot) :
    hello.buffers = [] ∧ hello.done = [] := by
  have unminded : ∀ slot, ¬ hello.Minds slot := fun slot minded =>
    none slot (confined.tended slot minded)
  constructor
  · apply List.map_eq_nil_iff.mp
    exact List.eq_nil_iff_forall_not_mem.mpr fun slot buffered => unminded slot (.inl buffered)
  · exact List.eq_nil_iff_forall_not_mem.mpr fun slot dealt => unminded slot (.inr dealt)

/-- All that is kept of unfinished lines is within the limit for each pumped connection. -/
theorem total_le (confined : hello.Confined pumped told) {slots : List Slot}
    (among : ∀ slot, pumped slot → slot ∈ slots) :
    (hello.buffers.map (·.2.length)).sum ≤ slots.length * lineLimit := by
  have each : ∀ size ∈ hello.buffers.map (·.2.length), size ≤ lineLimit := by
    intro size member
    obtain ⟨entry, kept, rfl⟩ := List.mem_map.mp member
    exact confined.short entry kept
  have fewer : (hello.buffers.map (·.1)).length ≤ slots.length := by
    refine (List.subperm_of_subset confined.distinct ?_).length_le
    intro slot buffered
    exact among slot (confined.tended slot (.inl buffered))
  calc (hello.buffers.map (·.2.length)).sum
      ≤ (hello.buffers.map (·.2.length)).length * lineLimit := by
        simpa using List.sum_le_card_nsmul _ lineLimit each
    _ = (hello.buffers.map (·.1)).length * lineLimit := by rw [List.length_map, List.length_map]
    _ ≤ slots.length * lineLimit := Nat.mul_le_mul_right lineLimit fewer

end Confined

end PeerMesh.Hello
