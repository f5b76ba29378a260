import PeerMesh.Files.Local
import PeerMesh.Proofs.Files.Paths

/-!
# Requests stay below the root

A requested path leads nowhere if one of its parts is `..`. Any other path leads to the root
followed by the components of the path, however many slashes and dots it is written with, and what
is read through it is a file at that place below the place of the root.
-/

set_option autoImplicit false

namespace PeerMesh.Files

/-! ## Following names on a disk -/

namespace Disk

variable {disk : Disk}

theorem follow_append (place : List String) (before after : List String) :
    disk.follow place (before ++ after) =
      (disk.follow place before).bind fun between => disk.follow between after := by
  induction before generalizing place with
  | nil => rfl
  | cons part rest ih =>
      rw [List.cons_append, follow, follow]
      split
      · rfl
      · split
        · exact ih place
        · split
          · exact ih _
          · exact ih _

/-- A name that is not `..` leads from a directory to an entry of it. -/
theorem follow_name {place reached : List String} {name : String} (proper : Proper name)
    (below : name ≠ "..") (follows : disk.follow place [name] = some reached) :
    disk.isDirectory place = true ∧ reached = place ++ [name] := by
  rw [follow, proper.component, if_neg below] at follows
  cases directory : disk.isDirectory place with
  | false =>
      rw [directory] at follows
      cases follows
  | true =>
      rw [directory] at follows
      cases follows
      exact ⟨rfl, rfl⟩

theorem place?_eq_some_iff {path : String} {place : List String} :
    disk.place? path = some place ↔
      path.utf8ByteSize < pathLimit ∧ disk.follow [] (parts path) = some place := by
  rw [place?]
  split
  · rename_i fits
    simp [fits]
  · rename_i exceeds
    simp [exceeds]

/-- What a name leads to that is joined to a directory is an entry of that directory. -/
theorem place?_joined {directory name : String} {reached : List String} (proper : Proper name)
    (below : name ≠ "..") (leads : disk.place? (joined directory name) = some reached) :
    ∃ base, disk.place? directory = some base ∧ reached = base ++ [name] := by
  obtain ⟨fits, follows⟩ := place?_eq_some_iff.mp leads
  have single := parts_of_slashless proper.slashless
  rcases joined_of_relative directory (isAbsolute_of_slashless proper.slashless) with
    ⟨rfl, alone⟩ | ⟨front, rfl, behind⟩ | ⟨-, apart⟩
  · rw [alone, single] at follows
    obtain ⟨-, rfl⟩ := follow_name proper below follows
    exact ⟨[], rfl, rfl⟩
  · rw [behind, parts_append_slash, single, follow_append] at follows
    obtain ⟨base, reaches, follows⟩ := Option.bind_eq_some_iff.mp follows
    obtain ⟨isDirectory, rfl⟩ := follow_name proper below follows
    refine ⟨base, place?_eq_some_iff.mpr ⟨?_, ?_⟩, rfl⟩
    · rw [behind, String.utf8ByteSize_append] at fits
      exact Nat.lt_of_le_of_lt (Nat.le_add_right _ _) fits
    · have cut := parts_append_slash front ""
      rw [String.append_empty] at cut
      rw [cut, follow_append, reaches]
      change disk.follow base [""] = some base
      rw [follow, isDirectory]
      rfl
  · rw [apart, parts_append_slash, single, follow_append] at follows
    obtain ⟨base, reaches, follows⟩ := Option.bind_eq_some_iff.mp follows
    obtain ⟨-, rfl⟩ := follow_name proper below follows
    refine ⟨base, place?_eq_some_iff.mpr ⟨?_, reaches⟩, rfl⟩
    rw [apart, String.utf8ByteSize_append, String.utf8ByteSize_append, Nat.add_assoc] at fits
    exact Nat.lt_of_le_of_lt (Nat.le_add_right _ _) fits

theorem place?_foldl_joined {names : List String} (proper : ∀ name ∈ names, Proper name)
    (below : ".." ∉ names) {directory : String} {reached : List String}
    (leads : disk.place? (names.foldl joined directory) = some reached) :
    ∃ base, disk.place? directory = some base ∧ reached = base ++ names := by
  induction names generalizing directory with
  | nil => exact ⟨reached, leads, (List.append_nil _).symm⟩
  | cons name rest ih =>
      simp only [List.mem_cons, forall_eq_or_imp, not_or] at proper below
      obtain ⟨inner, there, rfl⟩ := ih proper.2 below.2 leads
      obtain ⟨base, reaches, rfl⟩ := place?_joined proper.1 (Ne.symm below.1) there
      exact ⟨base, reaches, by rw [List.append_assoc]; rfl⟩

end Disk

/-! ## The way of a request -/

theorem components_foldl_joined {names : List String} (proper : ∀ name ∈ names, Proper name)
    (directory : String) :
    components (names.foldl joined directory) = components directory ++ names := by
  induction names generalizing directory with
  | nil => exact (List.append_nil _).symm
  | cons name rest ih =>
      rw [List.forall_mem_cons] at proper
      rw [List.foldl_cons, ih proper.2, components_joined directory proper.1, List.append_assoc]
      rfl

theorem isAbsolute_foldl_joined {names : List String} (proper : ∀ name ∈ names, Proper name)
    (directory : String) : isAbsolute (names.foldl joined directory) = isAbsolute directory := by
  induction names generalizing directory with
  | nil => rfl
  | cons name rest ih =>
      rw [List.forall_mem_cons] at proper
      rw [List.foldl_cons, ih proper.2, isAbsolute_joined directory proper.1.slashless]

namespace LocalFiles

theorem isAbsolute_relative (path : String) : isAbsolute (relative path) = false := by
  rw [isAbsolute, relative, String.toList_ofList, beq_eq_false_iff_ne]
  intro first
  have kept := List.head?_dropWhile_not (· == '/') path.toList
  rw [first] at kept
  cases kept

theorem components_relative (path : String) : components (relative path) = components path := by
  have text : ∀ characters : List Char,
      components (String.ofList (characters.dropWhile (· == '/'))) =
        components (String.ofList characters) := by
    intro characters
    induction characters with
    | nil => rfl
    | cons character rest ih =>
        rw [List.dropWhile_cons]
        split
        · rename_i slash
          have split : String.ofList (character :: rest) = "/" ++ String.ofList rest := by
            rw [← String.toList_inj, beq_iff_eq.mp slash]
            simp
          rw [ih, split, components_slash]
        · rfl
  rw [relative, text, String.ofList_toList]

/-- Names are entered one by one, unless one of them is `..`. -/
theorem foldlM_enter? (names : List String) (place : String) :
    (names.map Step.ofComponent).foldlM enter? place =
      if ".." ∈ names then none else some (names.foldl joined place) := by
  induction names generalizing place with
  | nil => rfl
  | cons name rest ih =>
      rw [List.map_cons, List.foldlM_cons, List.foldl_cons]
      by_cases parent : name = ".."
      · subst parent
        rw [if_pos List.mem_cons_self]
        rfl
      · have entered : enter? place (Step.ofComponent name) = some (joined place name) := by
          rw [Step.ofComponent, if_neg parent, enter?]
        rw [entered]
        change (rest.map Step.ofComponent).foldlM enter? (joined place name) = _
        simp only [ih, List.mem_cons, Ne.symm parent, false_or]

/-- A path that does not begin with a slash may begin with a dot, which stays where it is. -/
theorem foldlM_way {path : String} (relative : isAbsolute path = false) (place : String) :
    (way path).foldlM enter? place =
      ((components path).map Step.ofComponent).foldlM enter? place := by
  rw [way, relative]
  split
  · contradiction
  · split
    · rfl
    · rfl

theorem dotDot_mem_components_iff {path : String} : ".." ∈ components path ↔ ".." ∈ parts path := by
  rw [mem_components_iff]
  simp

theorem resolve?_eq (files : LocalFiles) (path : String) :
    files.resolve? path =
      if ".." ∈ parts path then none else some ((components path).foldl joined files.root) := by
  rw [resolve?, foldlM_way (isAbsolute_relative path), foldlM_enter?, components_relative]
  simp only [dotDot_mem_components_iff]

/-- A request leads nowhere if and only if a part of its path is `..`, and to the root followed by
the components of the path otherwise. So it stays below the root, slashes and dots that say nothing
make no difference, and a file that is read lies there on the disk. -/
theorem requests_stay_below_root (files : LocalFiles) (path : String) :
    let place := (components path).foldl joined files.root
    String.intercalate "/" (parts path) = path ∧ (∀ part ∈ parts path, '/' ∉ part.toList) ∧
      files.resolve? path = (if ".." ∈ parts path then none else some place) ∧
      components place = components files.root ++ components path ∧
      isAbsolute place = isAbsolute files.root ∧
      (∀ other, Relation.EqvGen Padded path other → files.resolve? other = files.resolve? path) ∧
      ∀ (disk : Disk) (bytes : Bytes), files.read disk path = some bytes →
        ∃ base, disk.place? files.root = some base ∧
          disk.files.lookup (base ++ components path) = some bytes := by
  intro place
  have proper : ∀ name ∈ components path, Proper name := fun _ => proper_of_mem_components
  refine ⟨intercalate_parts path, fun part => slash_not_mem_of_mem_parts, resolve?_eq files path,
    components_foldl_joined proper _, isAbsolute_foldl_joined proper _, ?_, ?_⟩
  · intro other same
    have components := components_of_eqvGen same
    simp only [resolve?_eq, ← dotDot_mem_components_iff, components]
  · intro disk bytes reads
    obtain ⟨there, resolves, reads⟩ := Option.bind_eq_some_iff.mp reads
    obtain ⟨reached, leads, found⟩ := Option.bind_eq_some_iff.mp reads
    rw [resolve?_eq] at resolves
    split at resolves
    · cases resolves
    · rename_i below
      cases resolves
      rw [← dotDot_mem_components_iff] at below
      obtain ⟨base, reaches, rfl⟩ := Disk.place?_foldl_joined proper below leads
      exact ⟨base, reaches, found⟩

end LocalFiles

end PeerMesh.Files
