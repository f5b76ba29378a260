import PeerMesh.Text.Parts

/-!
# What the parts of a text are

The parts of a text are the only texts without the separator that give the text back when the
separator is put between them.
-/

set_option autoImplicit false

namespace PeerMesh.Text

variable {separator : Char} {text part : String}

theorem parts_ne_nil (separator : Char) (text : String) : parts separator text ≠ [] := by
  simp [parts]

theorem not_mem_of_mem_splitOn (separator : Char) (text : List Char) :
    ∀ part ∈ text.splitOn separator, separator ∉ part := by
  induction text with
  | nil => simp
  | cons character rest ih =>
      rw [List.splitOn_cons_eq_if_modifyHead]
      split
      · simpa using ih
      · rename_i other
        cases split : rest.splitOn separator with
        | nil => exact absurd split (List.splitOn_ne_nil _ _)
        | cons first later =>
            rw [split] at ih
            simp only [List.modifyHead_cons, List.mem_cons, forall_eq_or_imp] at ih ⊢
            refine ⟨?_, ih.2⟩
            rintro (same | inside)
            · exact other (beq_iff_eq.mpr same.symm)
            · exact ih.1 inside

theorem not_mem_of_mem_parts (member : part ∈ parts separator text) : separator ∉ part.toList := by
  obtain ⟨cut, among, rfl⟩ := List.mem_map.mp member
  rw [String.toList_ofList]
  exact not_mem_of_mem_splitOn _ _ cut among

theorem parts_of_not_mem (absent : separator ∉ text.toList) : parts separator text = [text] := by
  rw [parts, List.splitOn_eq_singleton absent, List.map_singleton, String.ofList_toList]

theorem intercalate_parts (separator : Char) (text : String) :
    (String.singleton separator).intercalate (parts separator text) = text := by
  have same : (parts separator text).map String.toList = text.toList.splitOn separator := by
    rw [parts, List.map_map]
    simp
  rw [← String.toList_inj, String.toList_intercalate, same, String.toList_singleton]
  exact List.intercalate_splitOn separator

theorem parts_intercalate {listed : List String} (some : listed ≠ [])
    (absent : ∀ part ∈ listed, separator ∉ part.toList) :
    parts separator ((String.singleton separator).intercalate listed) = listed := by
  have cut : ((String.singleton separator).intercalate listed).toList.splitOn separator =
      listed.map String.toList := by
    rw [String.toList_intercalate, String.toList_singleton]
    refine List.splitOn_intercalate separator ?_ (fun none => some (List.map_eq_nil_iff.mp none))
    intro characters member
    obtain ⟨part, among, rfl⟩ := List.mem_map.mp member
    exact absent part among
  rw [parts, cut, List.map_map]
  simp

theorem parts_append (separator : Char) (front back : String) :
    parts separator (front ++ String.singleton separator ++ back) =
      parts separator front ++ parts separator back := by
  have characters : (front ++ String.singleton separator ++ back).toList =
      front.toList ++ separator :: back.toList := by
    simp
  rw [parts, characters, List.splitOn_append_cons_self, List.map_append]
  rfl

end PeerMesh.Text
