import PeerMesh.Text.Utf8

/-!
# Maps ordered by name

A name map holds at most one value per name, and lists its names in ascending order. Names are
compared character by character, by code point; this is also the order of their UTF-8 bytes. Since
the order is part of the type, two maps with the same entries are equal.
-/

set_option autoImplicit false

namespace PeerMesh

/-- The order of the names of a list of entries: strictly ascending. -/
def Ascending {α : Type} (entries : List (String × α)) : Prop :=
  entries.Pairwise fun earlier later => earlier.1 < later.1

/-- A finite map from names, in the order of the names. -/
structure NameMap (α : Type) where
  entries : List (String × α)
  ascending : Ascending entries

namespace NameMap

variable {α : Type}

/-- Puts a value under a name into ordered entries, in place of any value there. -/
def insertEntry (name : String) (value : α) : List (String × α) → List (String × α)
  | [] => [(name, value)]
  | entry :: rest =>
    if name < entry.1 then (name, value) :: entry :: rest
    else if entry.1 < name then entry :: insertEntry name value rest
    else (name, value) :: rest

/-- The names after an insertion are the inserted name and those before it. -/
theorem fst_mem_insertEntry {name : String} {value : α} {entries : List (String × α)}
    {entry : String × α} (member : entry ∈ insertEntry name value entries) :
    entry.1 = name ∨ entry ∈ entries := by
  induction entries with
  | nil =>
      simp only [insertEntry, List.mem_singleton] at member
      exact .inl (by rw [member])
  | cons first rest restIH =>
      unfold insertEntry at member
      split at member
      · rcases List.mem_cons.mp member with rfl | later
        · exact .inl rfl
        · exact .inr later
      · split at member
        · rcases List.mem_cons.mp member with rfl | later
          · exact .inr List.mem_cons_self
          · exact (restIH later).imp_right (List.mem_cons_of_mem _)
        · rcases List.mem_cons.mp member with rfl | later
          · exact .inl rfl
          · exact .inr (List.mem_cons_of_mem _ later)

theorem ascending_insertEntry {name : String} {value : α} {entries : List (String × α)}
    (ordered : Ascending entries) : Ascending (insertEntry name value entries) := by
  induction entries with
  | nil => exact List.pairwise_singleton _ _
  | cons first rest restIH =>
      obtain ⟨firstBelow, restOrdered⟩ := List.pairwise_cons.mp ordered
      unfold insertEntry
      split
      · rename_i below
        refine List.pairwise_cons.mpr ⟨fun entry member => ?_, ordered⟩
        rcases List.mem_cons.mp member with rfl | later
        · exact below
        · exact String.lt_trans below (firstBelow entry later)
      · rename_i notBelow
        split
        · rename_i above
          refine List.pairwise_cons.mpr ⟨fun entry member => ?_, restIH restOrdered⟩
          rcases fst_mem_insertEntry member with named | later
          · rw [named]; exact above
          · exact firstBelow entry later
        · rename_i notAbove
          have same : name = first.1 :=
            String.le_antisymm (String.not_lt.mp notAbove) (String.not_lt.mp notBelow)
          refine List.pairwise_cons.mpr ⟨fun entry member => ?_, restOrdered⟩
          simpa [same] using firstBelow entry member

def empty : NameMap α := ⟨[], List.Pairwise.nil⟩

instance : Inhabited (NameMap α) := ⟨empty⟩

/-- The map with `value` under `name`, in place of any value there. -/
def insert (map : NameMap α) (name : String) (value : α) : NameMap α :=
  ⟨insertEntry name value map.entries, ascending_insertEntry map.ascending⟩

def erase (map : NameMap α) (name : String) : NameMap α :=
  ⟨map.entries.filter fun entry => entry.1 != name, map.ascending.filter _⟩

def get? (map : NameMap α) (name : String) : Option α :=
  (map.entries.find? fun entry => entry.1 == name).map (·.2)

def contains (map : NameMap α) (name : String) : Bool :=
  map.entries.any fun entry => entry.1 == name

def names (map : NameMap α) : List String :=
  map.entries.map (·.1)

def size (map : NameMap α) : Nat :=
  map.entries.length

/-- The map of a list of entries. Of several entries with one name the last counts. -/
def ofList (entries : List (String × α)) : NameMap α :=
  entries.foldl (fun map entry => map.insert entry.1 entry.2) empty

theorem ext_entries {left right : NameMap α} (same : left.entries = right.entries) :
    left = right := by
  cases left
  cases right
  cases same
  rfl

theorem any_insertEntry (name : String) (value : α) (entries : List (String × α)) (other : String) :
    ((insertEntry name value entries).any fun entry => entry.1 == other) =
      (name == other || entries.any fun entry => entry.1 == other) := by
  induction entries with
  | nil => rfl
  | cons first rest restIH =>
      unfold insertEntry
      split
      · rfl
      · rename_i notBefore
        split
        · rw [List.any_cons, restIH, List.any_cons, Bool.or_left_comm]
        · rename_i notAfter
          rw [List.any_cons, List.any_cons, String.le_antisymm (String.not_lt.mp notBefore) (String.not_lt.mp notAfter),
            ← Bool.or_assoc, Bool.or_self]

theorem contains_insert (map : NameMap α) (name : String) (value : α) (other : String) :
    (map.insert name value).contains other = (name == other || map.contains other) :=
  any_insertEntry name value map.entries other

instance [DecidableEq α] : DecidableEq (NameMap α) := fun left right =>
  decidable_of_iff (left.entries = right.entries) ⟨ext_entries, fun same => by rw [same]⟩

end NameMap

end PeerMesh
