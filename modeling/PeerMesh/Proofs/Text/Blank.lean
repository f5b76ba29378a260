import Mathlib.Data.List.DropRight
import Mathlib.Data.List.TakeWhile
import PeerMesh.Text.Blank

/-!
# What trimming leaves

Trimming at one end does not care for the other end, and it leaves exactly those texts as they are
that do not have a blank there. What it takes away are blanks, and blanks that are put at the ends of
a text make no difference to it.
-/

set_option autoImplicit false

namespace PeerMesh.Text

variable {text front back : List Char}

theorem trimEnd_eq_rdropWhile (text : List Char) : trimEnd text = text.rdropWhile isBlank := rfl

@[simp] theorem trimEnd_trimEnd (text : List Char) : trimEnd (trimEnd text) = trimEnd text := by
  simp only [trimEnd_eq_rdropWhile, List.rdropWhile_idempotent]

/-- The blanks at the end of a text are those of its back part, unless that is blank as a whole. -/
theorem trimEnd_append (front back : List Char) :
    trimEnd (front ++ back) =
      if (trimEnd back).isEmpty then trimEnd front else front ++ trimEnd back := by
  simp only [trimEnd, List.reverse_append, List.dropWhile_append, List.isEmpty_reverse]
  split
  · rfl
  · rw [List.reverse_append, List.reverse_reverse]

theorem trimEnd_cons (character : Char) (text : List Char) :
    trimEnd (character :: text) =
      if (trimEnd text).isEmpty then trimEnd [character] else character :: trimEnd text :=
  trimEnd_append [character] text

theorem trimEnd_singleton (character : Char) :
    trimEnd [character] = if isBlank character then [] else [character] := by
  rw [trimEnd_eq_rdropWhile, List.rdropWhile_singleton]

theorem trimStart_cons (character : Char) (text : List Char) :
    trimStart (character :: text) =
      if isBlank character then trimStart text else character :: text :=
  List.dropWhile_cons

/-- The ends of a text are trimmed in either order. -/
theorem trimStart_trimEnd (text : List Char) : trimStart (trimEnd text) = trim text := by
  induction text with
  | nil => rfl
  | cons character rest ih =>
      cases blank : isBlank character with
      | true =>
          have dropped : trim (character :: rest) = trim rest := by
            rw [trim, trimStart_cons, if_pos blank, trim]
          rw [dropped, ← ih, trimEnd_cons, trimEnd_singleton, if_pos blank]
          split
          · rename_i blankRest
            rw [List.isEmpty_iff.mp blankRest]
          · rw [trimStart_cons, if_pos blank]
      | false =>
          have shown : ¬ isBlank character = true := by rw [blank]; exact Bool.false_ne_true
          have kept : trimEnd (character :: rest) = character :: trimEnd rest := by
            rw [trimEnd_cons, trimEnd_singleton, if_neg shown]
            split
            · rename_i blankRest
              rw [List.isEmpty_iff.mp blankRest]
            · rfl
          rw [trim, trimStart_cons, if_neg shown, kept, trimStart_cons, if_neg shown]

@[simp] theorem trim_trimEnd (text : List Char) : trim (trimEnd text) = trim text := by
  rw [← trimStart_trimEnd, trimEnd_trimEnd, trimStart_trimEnd]

theorem length_trimStart_le (text : List Char) : (trimStart text).length ≤ text.length :=
  (List.dropWhile_suffix _).length_le

theorem length_trimEnd_le (text : List Char) : (trimEnd text).length ≤ text.length :=
  (List.rdropWhile_prefix isBlank text).length_le

theorem length_trim_le (text : List Char) : (trim text).length ≤ text.length :=
  (length_trimEnd_le _).trans (length_trimStart_le text)

/-! ## Texts without blanks at their ends -/

theorem trimStart_eq_self_iff :
    trimStart text = text ↔ ∀ character ∈ text.head?, isBlank character = false := by
  cases text with
  | nil => simp [trimStart]
  | cons character rest => simp [trimStart, List.dropWhile_eq_self_iff]

theorem trimEnd_eq_self_iff :
    trimEnd text = text ↔ ∀ character ∈ text.getLast?, isBlank character = false := by
  rw [trimEnd_eq_rdropWhile, List.rdropWhile_eq_self_iff]
  cases text with
  | nil => simp
  | cons character rest => simp [List.getLast?_eq_getLast_of_ne_nil]

theorem trim_eq_self_iff : trim text = text ↔ trimStart text = text ∧ trimEnd text = text := by
  constructor
  · intro same
    have started : trimStart text = text := by
      refine (List.dropWhile_suffix _).eq_of_length (Nat.le_antisymm (length_trimStart_le text) ?_)
      calc text.length = (trim text).length := by rw [same]
        _ ≤ (trimStart text).length := length_trimEnd_le _
    rw [trim, started] at same
    exact ⟨started, same⟩
  · rintro ⟨started, ended⟩
    rw [trim, started, ended]

theorem trim_eq_self_of_shown (shown : ∀ character ∈ text, isBlank character = false) :
    trim text = text := by
  refine trim_eq_self_iff.mpr ⟨trimStart_eq_self_iff.mpr ?_, trimEnd_eq_self_iff.mpr ?_⟩
  · exact fun character first => shown character (List.mem_of_mem_head? first)
  · exact fun character last => shown character (List.mem_of_mem_getLast? last)

/-! ## Blanks at the ends -/

/-- A text of nothing but blanks. -/
def AllBlank (text : List Char) : Prop :=
  ∀ character ∈ text, isBlank character = true

theorem trimStart_append_of_blank (blank : AllBlank front) :
    trimStart (front ++ back) = trimStart back :=
  List.dropWhile_append_of_pos blank

theorem trim_append_of_blank (blank : AllBlank back) : trim (front ++ back) = trim front := by
  have nothing : trimEnd back = [] := by
    rw [trimEnd_eq_rdropWhile, List.rdropWhile_eq_nil_iff]
    exact blank
  rw [← trimStart_trimEnd, trimEnd_append, nothing, if_pos (List.isEmpty_nil), trimStart_trimEnd]

theorem trim_of_blank (blank : AllBlank text) : trim text = [] := by
  have nothing : trim ([] ++ text) = trim [] := trim_append_of_blank blank
  exact nothing

/-- A text between blanks that begins and ends with no blank is what trimming leaves. -/
theorem trim_between_blanks (before : AllBlank front) (after : AllBlank back) :
    trim (front ++ text ++ back) = trim text := by
  rw [trim_append_of_blank after, trim, trimStart_append_of_blank before, trim]

/-- What trimming takes away are blanks at the two ends. -/
theorem exists_blanks_around_trim (text : List Char) :
    ∃ front back, AllBlank front ∧ AllBlank back ∧ text = front ++ trim text ++ back := by
  refine ⟨text.takeWhile isBlank, (trimStart text).rtakeWhile isBlank, ?_, ?_, ?_⟩
  · exact fun _ => List.mem_takeWhile_imp
  · exact fun _ => List.mem_rtakeWhile_imp
  · rw [List.append_assoc, trim, trimEnd_eq_rdropWhile, List.rdropWhile_append_rtakeWhile]
    exact List.takeWhile_append_dropWhile.symm

theorem allBlank_append (blank : AllBlank front) (blankToo : AllBlank back) :
    AllBlank (front ++ back) :=
  fun character listed => (List.mem_append.mp listed).elim (blank character) (blankToo character)

theorem trimmed_eq_empty_of_blank {text : String} (blank : AllBlank text.toList) :
    trimmed text = "" := by
  rw [trimmed, trim_of_blank blank, String.ofList_nil]

theorem trimmed_between_blanks {before text after : String} (blankBefore : AllBlank before.toList)
    (blankAfter : AllBlank after.toList) : trimmed (before ++ text ++ after) = trimmed text := by
  rw [trimmed, String.toList_append, String.toList_append,
    trim_between_blanks blankBefore blankAfter, trimmed]

theorem exists_blanks_around_trimmed (text : String) :
    ∃ before after : String, AllBlank before.toList ∧ AllBlank after.toList ∧
      text = before ++ trimmed text ++ after := by
  obtain ⟨front, back, blankFront, blankBack, split⟩ := exists_blanks_around_trim text.toList
  refine ⟨String.ofList front, String.ofList back, ?_, ?_, ?_⟩
  · rwa [String.toList_ofList]
  · rwa [String.toList_ofList]
  · rw [← String.toList_inj, String.toList_append, String.toList_append, trimmed,
      String.toList_ofList, String.toList_ofList, String.toList_ofList]
    exact split

@[simp] theorem trimmed_trimmed (text : String) : trimmed (trimmed text) = trimmed text := by
  obtain ⟨before, after, blankBefore, blankAfter, split⟩ := exists_blanks_around_trimmed text
  calc trimmed (trimmed text)
    _ = trimmed (before ++ trimmed text ++ after) :=
      (trimmed_between_blanks blankBefore blankAfter).symm
    _ = trimmed text := by rw [← split]

end PeerMesh.Text
