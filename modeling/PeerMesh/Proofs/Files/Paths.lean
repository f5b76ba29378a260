import Mathlib.Logic.Relation
import PeerMesh.Files.Path
import PeerMesh.Proofs.Text.Parts

/-!
# Parts and components of paths

The parts of a path are the only texts without a slash that give the path back when slashes are put
between them. Cutting a path at one of its slashes cuts its parts and its components there, so that
what says nothing in a path can be put in and taken out wherever there is a slash.
-/

set_option autoImplicit false

namespace PeerMesh.Files

theorem parts_append_slash (front back : String) :
    parts (front ++ "/" ++ back) = parts front ++ parts back :=
  Text.parts_append '/' front back

theorem slash_not_mem_of_mem_parts {path part : String} (member : part ∈ parts path) :
    '/' ∉ part.toList :=
  Text.not_mem_of_mem_parts member

theorem intercalate_parts (path : String) : String.intercalate "/" (parts path) = path :=
  Text.intercalate_parts '/' path

/-! ## Components -/

/-- A text that may be a component. -/
structure Proper (name : String) : Prop where
  component : isComponent name = true
  slashless : '/' ∉ name.toList

theorem isComponent_iff {part : String} : isComponent part = true ↔ part ≠ "" ∧ part ≠ "." := by
  simp [isComponent]

theorem proper_of_mem_components {path name : String} (member : name ∈ components path) :
    Proper name := by
  obtain ⟨cut, component⟩ := List.mem_filter.mp member
  exact ⟨component, slash_not_mem_of_mem_parts cut⟩

theorem mem_components_iff {path name : String} :
    name ∈ components path ↔ name ∈ parts path ∧ name ≠ "" ∧ name ≠ "." := by
  rw [components, List.mem_filter, isComponent_iff]

@[simp] theorem components_empty : components "" = [] := by decide

@[simp] theorem components_dot : components "." = [] := by decide

theorem components_append_slash (front back : String) :
    components (front ++ "/" ++ back) = components front ++ components back := by
  rw [components, parts_append_slash, List.filter_append]
  rfl

theorem parts_of_slashless {name : String} (slashless : '/' ∉ name.toList) : parts name = [name] :=
  Text.parts_of_not_mem slashless

theorem Proper.components {name : String} (proper : Proper name) : components name = [name] := by
  rw [Files.components, parts_of_slashless proper.slashless,
    List.filter_cons_of_pos proper.component]
  rfl

/-- The second path is the first with one more slash or dot that says nothing. -/
inductive Padded : String → String → Prop where
  | slashFirst {path : String} : Padded path ("/" ++ path)
  | slashTwice {front back : String} : Padded (front ++ "/" ++ back) (front ++ "//" ++ back)
  | slashLast {path : String} : Padded path (path ++ "/")
  | dotFirst {path : String} : Padded path ("./" ++ path)
  | dotBetween {front back : String} : Padded (front ++ "/" ++ back) (front ++ "/./" ++ back)
  | dotLast {path : String} : Padded path (path ++ "/.")

theorem components_slash (path : String) : components ("/" ++ path) = components path := by
  have cut := components_append_slash "" path
  rwa [String.empty_append, components_empty, List.nil_append] at cut

theorem Padded.components {path padded : String} (more : Padded path padded) :
    Files.components padded = Files.components path := by
  cases more with
  | slashFirst => exact components_slash path
  | @slashTwice front back =>
      have text : front ++ "//" ++ back = front ++ "/" ++ ("/" ++ back) := by
        simp [← String.toList_inj]
      rw [text, components_append_slash, components_append_slash, components_slash]
  | slashLast =>
      have cut := components_append_slash path ""
      rwa [String.append_empty, components_empty, List.append_nil] at cut
  | dotFirst =>
      have cut := components_append_slash "." path
      rwa [components_dot, List.nil_append] at cut
  | @dotBetween front back =>
      have text : front ++ "/./" ++ back = front ++ "/" ++ ("." ++ "/" ++ back) := by
        simp [← String.toList_inj]
      rw [text, components_append_slash, components_append_slash, components_append_slash,
        components_dot, List.nil_append]
  | dotLast =>
      have cut := components_append_slash path "."
      rw [components_dot, List.append_nil, String.append_assoc] at cut
      exact cut

theorem components_of_eqvGen {path other : String} (same : Relation.EqvGen Padded path other) :
    components other = components path := by
  induction same with
  | rel path padded more => exact more.components
  | refl path => rfl
  | symm path other _ ih => exact ih.symm
  | trans first second third _ _ before after => exact after.trans before

/-! ## Joining -/

theorem isAbsolute_of_slashless {name : String} (slashless : '/' ∉ name.toList) :
    isAbsolute name = false := by
  rw [isAbsolute, beq_eq_false_iff_ne]
  intro first
  exact slashless (List.mem_of_head? first)

/-- A relative path that is joined to a directory stands alone, or after the slash that the directory
ends in, or after a new one. -/
theorem joined_of_relative (directory : String) {path : String}
    (relative : isAbsolute path = false) :
    directory = "" ∧ joined directory path = path ∨
      (∃ front, directory = front ++ "/" ∧ joined directory path = front ++ "/" ++ path) ∨
      directory ≠ "" ∧ joined directory path = directory ++ "/" ++ path := by
  have behind : joined directory path =
      if directory.toList.getLast?.all (· == '/') then directory ++ path
      else directory ++ "/" ++ path := by
    rw [joined, relative]
    rfl
  rw [behind]
  rcases List.eq_nil_or_concat directory.toList with empty | ⟨front, last, whole⟩
  · have nothing : directory = "" := String.toList_eq_nil_iff.mp empty
    subst nothing
    exact .inl ⟨rfl, String.empty_append⟩
  · rw [List.concat_eq_append] at whole
    have filled : directory ≠ "" := by
      rintro rfl
      simp at whole
    have ends : directory.toList.getLast?.all (· == '/') = (last == '/') := by
      rw [whole, List.getLast?_concat]
      rfl
    rw [ends]
    split
    · rename_i slash
      have same : directory = String.ofList front ++ "/" := by
        rw [← String.toList_inj, whole, beq_iff_eq.mp slash]
        simp
      exact .inr (.inl ⟨String.ofList front, same, by rw [same]⟩)
    · exact .inr (.inr ⟨filled, rfl⟩)

/-- The components of a relative path come after those of the directory that it is joined to. -/
theorem components_joined_of_relative (directory : String) {path : String}
    (relative : isAbsolute path = false) :
    components (joined directory path) = components directory ++ components path := by
  rcases joined_of_relative directory relative with ⟨rfl, alone⟩ | ⟨front, rfl, behind⟩ | ⟨-, apart⟩
  · rw [alone, components_empty, List.nil_append]
  · have cut := components_append_slash front ""
    rw [String.append_empty, components_empty, List.append_nil] at cut
    rw [behind, components_append_slash, cut]
  · rw [apart, components_append_slash]

/-- A name that is joined to a directory is one more component. -/
theorem components_joined (directory : String) {name : String} (proper : Proper name) :
    components (joined directory name) = components directory ++ [name] := by
  rw [components_joined_of_relative directory (isAbsolute_of_slashless proper.slashless),
    proper.components]

theorem isAbsolute_append {front : String} (filled : front ≠ "") (back : String) :
    isAbsolute (front ++ back) = isAbsolute front := by
  have begins : front.toList ≠ [] := fun none => filled (String.toList_eq_nil_iff.mp none)
  obtain ⟨first, rest, text⟩ := List.exists_cons_of_ne_nil begins
  rw [isAbsolute, isAbsolute, String.toList_append, text]
  rfl

theorem isAbsolute_joined (directory : String) {name : String} (slashless : '/' ∉ name.toList) :
    isAbsolute (joined directory name) = isAbsolute directory := by
  rcases joined_of_relative directory (isAbsolute_of_slashless slashless) with
    ⟨rfl, alone⟩ | ⟨front, rfl, behind⟩ | ⟨filled, apart⟩
  · rw [alone, isAbsolute_of_slashless slashless]
    decide
  · rw [behind]
    refine isAbsolute_append ?_ name
    simp
  · rw [apart, String.append_assoc]
    exact isAbsolute_append filled _

end PeerMesh.Files
