import PeerMesh.NameMap
import Mathlib.Data.List.Induction
import Mathlib.Data.List.Sort

/-!
# Looking up names

What a name map holds under a name: after an insertion or an erasure, and as the map of a list of
entries. A map is the map of its own entries, and is determined by what it holds under each name.
-/

set_option autoImplicit false

namespace PeerMesh.NameMap

variable {α : Type}

theorem find?_insertEntry (name : String) (value : α) (entries : List (String × α))
    (other : String) :
    (insertEntry name value entries).find? (fun entry => entry.1 == other) =
      if name = other then some (name, value)
      else entries.find? fun entry => entry.1 == other := by
  induction entries with
  | nil => by_cases same : name = other <;> simp [insertEntry, same]
  | cons first rest restIH =>
      unfold insertEntry
      split
      · by_cases same : name = other <;> simp [same]
      · rename_i notBefore
        split
        · rename_i after
          rw [List.find?_cons, List.find?_cons, restIH]
          by_cases same : name = other
          · have differs : (first.1 == other) = false :=
              beq_false_of_ne fun equal => String.lt_irrefl _ ((same.trans equal.symm) ▸ after)
            rw [if_pos same, if_pos same, differs]
          · rw [if_neg same, if_neg same]
        · rename_i notAfter
          have replaced : name = first.1 :=
            String.le_antisymm (String.not_lt.mp notAfter) (String.not_lt.mp notBefore)
          by_cases same : name = other <;> simp [same, ← replaced]

theorem get?_insert (map : NameMap α) (name : String) (value : α) (other : String) :
    (map.insert name value).get? other = if name = other then some value else map.get? other := by
  rw [get?, insert, find?_insertEntry]
  split <;> rfl

theorem get?_erase (map : NameMap α) (name other : String) :
    (map.erase name).get? other = if name = other then none else map.get? other := by
  by_cases same : name = other
  · subst same
    simp [get?, erase, List.find?_filter]
  · have kept : ∀ entry : String × α, (entry.1 ≠ name ∧ entry.1 = other) ↔ entry.1 = other := by
      intro entry
      constructor
      · exact And.right
      · intro found
        exact ⟨fun named => same (named.symm.trans found), found⟩
    simp only [get?, erase, List.find?_filter, bne_iff_ne, beq_iff_eq, kept, if_neg same]
    rfl

theorem contains_eq_isSome_get? (map : NameMap α) (name : String) :
    map.contains name = (map.get? name).isSome := by
  rw [get?, contains, Option.isSome_map, Bool.eq_iff_iff, List.any_eq_true, List.find?_isSome]

/-! ## The map of a list of entries -/

theorem insertEntry_of_below {name : String} {value : α} {entries : List (String × α)}
    (below : ∀ entry ∈ entries, entry.1 < name) :
    insertEntry name value entries = entries ++ [(name, value)] := by
  induction entries with
  | nil => rfl
  | cons first rest restIH =>
      have firstBelow : first.1 < name := below first List.mem_cons_self
      have notBefore : ¬ name < first.1 := String.lt_asymm firstBelow
      rw [insertEntry, if_neg notBefore, if_pos firstBelow,
        restIH fun entry member => below entry (List.mem_cons_of_mem _ member), List.cons_append]

theorem entries_foldl_insert {later : List (String × α)} (map : NameMap α)
    (ordered : Ascending (map.entries ++ later)) :
    (later.foldl (fun map entry => map.insert entry.1 entry.2) map).entries =
      map.entries ++ later := by
  induction later generalizing map with
  | nil => exact (List.append_nil _).symm
  | cons entry rest restIH =>
      have below : ∀ earlier ∈ map.entries, earlier.1 < entry.1 := fun earlier member =>
        (List.pairwise_append.mp ordered).2.2 earlier member entry List.mem_cons_self
      have inserted : (map.insert entry.1 entry.2).entries = map.entries ++ [entry] :=
        insertEntry_of_below below
      rw [List.foldl_cons, restIH, inserted, List.append_assoc, List.singleton_append]
      rw [inserted, List.append_assoc]
      exact ordered

/-- A map is the map of its entries. -/
theorem ofList_entries (map : NameMap α) : ofList map.entries = map :=
  ext_entries (entries_foldl_insert empty map.ascending)

/-! ## What a map holds under a name -/

theorem names_nodup (map : NameMap α) : map.names.Nodup :=
  List.Pairwise.map Prod.fst (fun _ _ => String.ne_of_lt) map.ascending

theorem get?_eq_some_iff {map : NameMap α} {name : String} {value : α} :
    map.get? name = some value ↔ (name, value) ∈ map.entries := by
  constructor
  · intro held
    obtain ⟨entry, found, rfl⟩ := Option.map_eq_some_iff.mp held
    have named : entry.1 = name := by simpa using List.find?_some found
    rw [← named]
    exact List.mem_of_find?_eq_some found
  · intro member
    cases found : map.entries.find? fun entry => entry.1 == name with
    | none => exact absurd (beq_self_eq_true name) (List.find?_eq_none.mp found _ member)
    | some entry =>
        have named : entry.1 = name := by simpa using List.find?_some found
        have same : entry = (name, value) :=
          List.inj_on_of_nodup_map map.names_nodup (List.mem_of_find?_eq_some found) member
            named
        rw [get?, found, same]
        rfl

/-- A map is what it holds under each name. -/
theorem ext_get? {left right : NameMap α} (same : ∀ name, left.get? name = right.get? name) :
    left = right := by
  have members : ∀ entry : String × α, entry ∈ left.entries ↔ entry ∈ right.entries := by
    intro entry
    rw [← get?_eq_some_iff, ← get?_eq_some_iff, same]
  have : Std.Antisymm fun earlier later : String × α => earlier.1 < later.1 :=
    ⟨fun _ _ below above => absurd above (String.lt_asymm below)⟩
  have : Std.Irrefl fun earlier later : String × α => earlier.1 < later.1 :=
    ⟨fun _ => String.lt_irrefl _⟩
  exact ext_entries (left.ascending.eq_of_mem_iff right.ascending members)

/-- The last entry of a list that goes under `name` has this value. -/
def LastUnder (entries : List (String × α)) (name : String) (value : α) : Prop :=
  ∃ earlier later, entries = earlier ++ (name, value) :: later ∧ ∀ entry ∈ later, entry.1 ≠ name

theorem lastUnder_append_singleton {entries : List (String × α)} {entry : String × α}
    {name : String} {value : α} :
    LastUnder (entries ++ [entry]) name value ↔
      entry = (name, value) ∨ entry.1 ≠ name ∧ LastUnder entries name value := by
  constructor
  · intro ⟨earlier, later, split, others⟩
    cases later using List.reverseRecOn with
    | nil =>
        obtain ⟨-, same⟩ := List.append_inj' split rfl
        cases same
        exact .inl rfl
    | append_singleton later last =>
        rw [← List.cons_append, ← List.append_assoc] at split
        obtain ⟨rfl, same⟩ := List.append_inj' split rfl
        cases same
        exact .inr ⟨others entry (by simp), earlier, later, rfl,
          fun other member => others other (List.mem_append_left _ member)⟩
  · rintro (rfl | ⟨different, earlier, later, rfl, others⟩)
    · exact ⟨entries, [], rfl, by simp⟩
    · refine ⟨earlier, later ++ [entry], by simp, ?_⟩
      intro other member
      cases List.mem_append.mp member with
      | inl among => exact others other among
      | inr last => exact List.mem_singleton.mp last ▸ different

theorem get?_ofList_eq_some_iff {entries : List (String × α)} {name : String} {value : α} :
    (ofList entries).get? name = some value ↔ LastUnder entries name value := by
  induction entries using List.reverseRecOn with
  | nil =>
      constructor
      · intro held
        cases held
      · intro ⟨earlier, later, split, _⟩
        simp at split
  | append_singleton entries entry ih =>
      rw [lastUnder_append_singleton, ← ih, ofList, List.foldl_append, List.foldl_cons,
        List.foldl_nil, get?_insert, ← ofList]
      by_cases named : entry.1 = name
      · rw [if_pos named, Prod.ext_iff]
        simp [named]
      · rw [if_neg named, Prod.ext_iff]
        simp [named]

end PeerMesh.NameMap
