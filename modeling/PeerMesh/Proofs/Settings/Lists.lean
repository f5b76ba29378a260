import PeerMesh.Proofs.Text.Blank
import PeerMesh.Proofs.Text.Parts
import PeerMesh.Settings.Load

/-!
# Texts that name several items

A text names items one after another, with commas between them. Each item may have blanks around it,
and there may be parts that are blank. This is exactly what looking for the items of a text finds in
it, so that it is the same whether the blanks at the ends of the text have been taken away before.
-/

set_option autoImplicit false

namespace PeerMesh.Settings

open Text (AllBlank trimmed)

/-- What can be told from a part between commas: a text that has no comma and begins and ends with
no blank. -/
structure IsItem (item : String) : Prop where
  filled : item ≠ ""
  bare : trimmed item = item
  commaless : ',' ∉ item.toList

/-- Parts that name items in order: one part for each item, with blanks around it, and parts that
are blank. -/
inductive PartsOf : List String → List String → Prop where
  | nil : PartsOf [] []
  | item {item before after : String} {items parts : List String} :
      IsItem item → AllBlank before.toList → AllBlank after.toList → PartsOf items parts →
      PartsOf (item :: items) ((before ++ item ++ after) :: parts)
  | gap {blank : String} {items parts : List String} :
      AllBlank blank.toList → PartsOf items parts → PartsOf items (blank :: parts)

/-- The text names the items, between commas. -/
def Enumerates (text : String) (items : List String) : Prop :=
  ∃ parts, parts ≠ [] ∧ PartsOf items parts ∧ text = ",".intercalate parts

/-! ## Parts -/

section Parts

variable {items parts : List String}

theorem commaless_of_blank {text : List Char} (blank : AllBlank text) : ',' ∉ text := by
  intro listed
  exact absurd (blank ',' listed) (by decide)

theorem nonBlank_cons (part : String) (parts : List String) :
    nonBlank (part :: parts) =
      if trimmed part = "" then nonBlank parts else trimmed part :: nonBlank parts := by
  rw [nonBlank, List.map_cons, List.filter_cons]
  by_cases blank : trimmed part = ""
  · rw [if_pos blank, if_neg (by simp [blank]), nonBlank]
  · rw [if_neg blank, if_pos (by simp [blank]), nonBlank]

theorem PartsOf.nonBlank_eq (named : PartsOf items parts) : nonBlank parts = items := by
  induction named with
  | nil => rfl
  | @item item before after items parts isItem blankBefore blankAfter _ ih =>
      have same : trimmed (before ++ item ++ after) = item := by
        rw [Text.trimmed_between_blanks blankBefore blankAfter, isItem.bare]
      rw [nonBlank_cons, same, if_neg isItem.filled, ih]
  | gap blank _ ih => rw [nonBlank_cons, if_pos (Text.trimmed_eq_empty_of_blank blank), ih]

theorem PartsOf.commaless (named : PartsOf items parts) : ∀ part ∈ parts, ',' ∉ part.toList := by
  induction named with
  | nil => exact fun _ listed => nomatch listed
  | item isItem blankBefore blankAfter _ ih =>
      rintro part (_ | ⟨_, later⟩)
      · simp only [String.toList_append, List.mem_append, not_or]
        exact ⟨⟨commaless_of_blank blankBefore, isItem.commaless⟩, commaless_of_blank blankAfter⟩
      · exact ih part later
  | gap blank _ ih =>
      rintro part (_ | ⟨_, later⟩)
      · exact commaless_of_blank blank
      · exact ih part later

theorem PartsOf.isItem (named : PartsOf items parts) :
    ∀ item ∈ items, IsItem item := by
  induction named with
  | nil => exact fun _ listed => nomatch listed
  | item isItem _ _ _ ih =>
      rintro other (_ | ⟨_, later⟩)
      · exact isItem
      · exact ih other later
  | gap _ _ ih => exact ih

/-- A part that has no comma is blank, or an item with blanks around it. -/
theorem partsOf_nonBlank (commaless : ∀ part ∈ parts, ',' ∉ part.toList) :
    PartsOf (nonBlank parts) parts := by
  induction parts with
  | nil => exact .nil
  | cons part rest ih =>
      have later := ih fun other listed => commaless other (List.mem_cons_of_mem _ listed)
      obtain ⟨before, after, blankBefore, blankAfter, split⟩ :=
        Text.exists_blanks_around_trimmed part
      rw [nonBlank_cons]
      by_cases blank : trimmed part = ""
      · rw [if_pos blank]
        refine .gap ?_ later
        rw [split, blank, String.append_empty, String.toList_append]
        exact Text.allBlank_append blankBefore blankAfter
      · rw [if_neg blank]
        have isItem : IsItem (trimmed part) := by
          refine ⟨blank, Text.trimmed_trimmed part, fun comma => ?_⟩
          refine commaless part List.mem_cons_self ?_
          rw [split, String.toList_append, String.toList_append]
          exact List.mem_append_left _ (List.mem_append_right _ comma)
        have named := PartsOf.item isItem blankBefore blankAfter later
        rwa [← split] at named

theorem PartsOf.blank_front {first before : String} (blank : AllBlank before.toList)
    (named : PartsOf items (first :: parts)) : PartsOf items ((before ++ first) :: parts) := by
  cases named with
  | item isItem blankBefore blankAfter later =>
      rw [← String.append_assoc, ← String.append_assoc]
      refine .item isItem ?_ blankAfter later
      rw [String.toList_append]
      exact Text.allBlank_append blank blankBefore
  | gap blankFirst later =>
      refine .gap ?_ later
      rw [String.toList_append]
      exact Text.allBlank_append blank blankFirst

theorem PartsOf.blank_back {last after : String} (blank : AllBlank after.toList)
    (named : PartsOf items (parts ++ [last])) : PartsOf items (parts ++ [last ++ after]) := by
  induction parts generalizing items with
  | nil =>
      cases named with
      | item isItem blankBefore blankAfter later =>
          rw [List.nil_append, String.append_assoc]
          refine .item isItem blankBefore ?_ later
          rw [String.toList_append]
          exact Text.allBlank_append blankAfter blank
      | gap blankLast later =>
          refine .gap ?_ later
          rw [String.toList_append]
          exact Text.allBlank_append blankLast blank
  | cons part rest ih =>
      cases named with
      | item isItem blankBefore blankAfter later =>
          exact .item isItem blankBefore blankAfter (ih later)
      | gap blankPart later => exact .gap blankPart (ih later)

end Parts

/-! ## Texts -/

section Texts

variable {text : String} {items : List String}

/-- A text names exactly the items that are found in it. -/
theorem enumerates_iff : Enumerates text items ↔ nonBlank (commaParts text) = items := by
  constructor
  · rintro ⟨parts, some, named, same⟩
    have cut : commaParts text = parts := by
      rw [same]
      exact Text.parts_intercalate some named.commaless
    rw [cut, named.nonBlank_eq]
  · intro found
    refine ⟨commaParts text, Text.parts_ne_nil ',' text, ?_, (Text.intercalate_parts ',' text).symm⟩
    rw [← found]
    exact partsOf_nonBlank fun _ => Text.not_mem_of_mem_parts

theorem intercalate_append_last (mark last after : String) (front : List String) :
    mark.intercalate (front ++ [last]) ++ after = mark.intercalate (front ++ [last ++ after]) := by
  by_cases none : front = []
  · subst none
    rw [List.nil_append, List.nil_append, String.intercalate_singleton,
      String.intercalate_singleton]
  · rw [String.intercalate_append_of_ne_nil none (List.cons_ne_nil _ _),
      String.intercalate_append_of_ne_nil none (List.cons_ne_nil _ _),
      String.intercalate_singleton, String.intercalate_singleton, String.append_assoc]

theorem Enumerates.blank_front {before : String} (blank : AllBlank before.toList)
    (named : Enumerates text items) : Enumerates (before ++ text) items := by
  obtain ⟨parts, some, named, same⟩ := named
  cases parts with
  | nil => exact absurd rfl some
  | cons first rest =>
      refine ⟨(before ++ first) :: rest, List.cons_ne_nil _ _, named.blank_front blank, ?_⟩
      rw [same, String.intercalate_cons_append]

theorem Enumerates.blank_back {after : String} (blank : AllBlank after.toList)
    (named : Enumerates text items) : Enumerates (text ++ after) items := by
  obtain ⟨parts, some, named, same⟩ := named
  obtain ⟨front, last, rfl⟩ := (List.eq_nil_or_concat parts).resolve_left some
  rw [List.concat_eq_append] at named same
  refine ⟨front ++ [last ++ after], by simp, named.blank_back blank, ?_⟩
  rw [same, intercalate_append_last]

/-- The blanks at the ends of a text name nothing. -/
theorem nonBlank_commaParts_trimmed (text : String) :
    nonBlank (commaParts (trimmed text)) = nonBlank (commaParts text) := by
  obtain ⟨before, after, blankBefore, blankAfter, split⟩ := Text.exists_blanks_around_trimmed text
  have named : Enumerates (trimmed text) (nonBlank (commaParts (trimmed text))) :=
    enumerates_iff.mpr rfl
  have whole := (named.blank_front blankBefore).blank_back blankAfter
  rw [← split] at whole
  exact (enumerates_iff.mp whole).symm

end Texts

/-! ## What is found under a key -/

section Found

variable {settings : Value} {key text : String} {items : List String}

theorem filterMap_string?_text (items : List String) :
    (items.map Value.text).filterMap Value.string? = items := by
  have form : Value.string? ∘ Value.text = some := rfl
  rw [List.filterMap_map, form, List.filterMap_some]

/-- A list of items gives them as they are. -/
theorem textsAt?_of_list (found : settings.findKey key = some (.list (items.map .text)))
    (isItem : ∀ item ∈ items, IsItem item) : textsAt? settings key = some items := by
  have kept : nonBlank items = items := by
    have same : items.map trimmed = items :=
      (List.map_congr_left fun item listed => (isItem item listed).bare).trans (List.map_id' items)
    rw [nonBlank, same, List.filter_eq_self]
    exact fun item listed => bne_iff_ne.mpr (isItem item listed).filled
  rw [textsAt?, found]
  change some (nonBlank ((items.map Value.text).filterMap Value.string?)) = some items
  rw [filterMap_string?_text, kept]

/-- A text that is not blank gives what it names. -/
theorem textsAt?_of_text (found : settings.findKey key = some (.text text))
    (filled : trimmed text ≠ "") (named : Enumerates text items) :
    textsAt? settings key = some items := by
  have given : textAt? settings key = some (trimmed text) := by
    rw [textAt?, found]
    exact Option.filter_eq_some_iff.mpr ⟨rfl, bne_iff_ne.mpr filled⟩
  rw [textsAt?, found, given]
  change some (nonBlank (commaParts (trimmed text))) = some items
  rw [nonBlank_commaParts_trimmed, enumerates_iff.mp named]

theorem Enumerates.filled (named : Enumerates text items) (some : items ≠ []) :
    trimmed text ≠ "" := by
  intro blank
  have found := enumerates_iff.mp named
  rw [← nonBlank_commaParts_trimmed, blank] at found
  exact some (found.symm.trans (by decide))

end Found

end PeerMesh.Settings
