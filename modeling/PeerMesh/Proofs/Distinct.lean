import Mathlib.Data.List.Induction
import PeerMesh.Distinct

/-!
# What a list without repetitions keeps

Adding and removing one element, and gathering the elements of a list: each of them once, in the
order in which they first appear.
-/

set_option autoImplicit false

namespace PeerMesh.Distinct

variable {α : Type} [DecidableEq α]

@[simp] theorem mem_add {elements : List α} {element other : α} :
    other ∈ add elements element ↔ other ∈ elements ∨ other = element := by
  unfold add
  split
  · rename_i present
    constructor
    · exact .inl
    · rintro (old | rfl)
      · exact old
      · exact present
  · simp

@[simp] theorem mem_remove {elements : List α} {element other : α} :
    other ∈ remove elements element ↔ other ∈ elements ∧ other ≠ element := by
  simp [remove]

theorem remove_remove (elements : List α) (first second : α) :
    remove (remove elements first) second = remove (remove elements second) first := by
  simp only [remove, List.filter_filter, Bool.and_comm]

theorem remove_of_not_mem {elements : List α} {element : α} (absent : element ∉ elements) :
    remove elements element = elements := by
  refine List.filter_eq_self.mpr ?_
  intro other member
  refine decide_eq_true ?_
  rintro rfl
  exact absent member

theorem remove_add {elements : List α} {element : α} (absent : element ∉ elements) :
    remove (add elements element) element = elements := by
  rw [add, if_neg absent, remove, List.filter_append, ← remove, remove_of_not_mem absent]
  simp

theorem remove_add_of_ne {elements : List α} {element other : α} (different : other ≠ element) :
    remove (add elements element) other = add (remove elements other) element := by
  by_cases present : element ∈ elements
  · rw [add, if_pos present, add, if_pos (mem_remove.mpr ⟨present, Ne.symm different⟩)]
  · have still : element ∉ remove elements other := fun member => present (mem_remove.mp member).1
    rw [add, if_neg present, add, if_neg still, remove, List.filter_append, ← remove]
    simp [Ne.symm different]

/-! ## Gathering -/

/-- The elements of a list, each once. -/
def gather (elements : List α) : List α :=
  elements.foldl add []

theorem gather_append_singleton (front : List α) (last : α) :
    gather (front ++ [last]) = add (gather front) last := by
  rw [gather, List.foldl_append, List.foldl_cons, List.foldl_nil, gather]

@[simp] theorem mem_gather {elements : List α} {other : α} :
    other ∈ gather elements ↔ other ∈ elements := by
  induction elements using List.reverseRecOn with
  | nil => rfl
  | append_singleton front last ih =>
      rw [gather_append_singleton, mem_add, ih, List.mem_append, List.mem_singleton]

/-- The first element appears in the list before the second one ever does. -/
def AppearsBefore (elements : List α) (first second : α) : Prop :=
  ∃ front back, elements = front ++ first :: back ∧ second ∉ front ∧ second ≠ first

omit [DecidableEq α] in
theorem AppearsBefore.append {elements : List α} {first second : α}
    (before : AppearsBefore elements first second) (more : List α) :
    AppearsBefore (elements ++ more) first second := by
  obtain ⟨front, back, split, absent, different⟩ := before
  exact ⟨front, back ++ more, by rw [split, List.append_assoc, List.cons_append], absent, different⟩

/-- What is gathered stands in the order of first appearance. -/
theorem pairwise_gather (elements : List α) :
    (gather elements).Pairwise (AppearsBefore elements) := by
  induction elements using List.reverseRecOn with
  | nil => exact List.Pairwise.nil
  | append_singleton front last ih =>
      have still : (gather front).Pairwise (AppearsBefore (front ++ [last])) :=
        ih.imp fun before => before.append [last]
      rw [gather_append_singleton, add]
      split
      · exact still
      · rename_i absent
        refine List.pairwise_append.mpr ⟨still, List.pairwise_singleton _ _, ?_⟩
        intro earlier member later same
        cases List.mem_singleton.mp same
        rw [mem_gather] at member absent
        obtain ⟨before, after, split⟩ := List.append_of_mem member
        refine ⟨before, after ++ [last], by rw [split, List.append_assoc, List.cons_append], ?_, ?_⟩
        · intro among
          exact absent (split ▸ List.mem_append_left _ among)
        · intro equal
          exact absent (equal ▸ member)

theorem nodup_gather (elements : List α) : (gather elements).Nodup := by
  refine (pairwise_gather elements).imp ?_
  intro first second before same
  obtain ⟨-, -, -, -, different⟩ := before
  exact different same.symm

end PeerMesh.Distinct
