import Mathlib.Data.Nat.Digits.Defs
import Mathlib.Tactic.IntervalCases
import Mathlib.Tactic.Ring
import PeerMesh.Text.Numeral

/-!
# How numbers are written and read

A number is written in digits, and no two numbers alike. A text is read as a number exactly if it is
a numeral for it, and the number keeps the limit.
-/

set_option autoImplicit false

namespace PeerMesh.Text

theorem isDigit_of_mem_toString {number : Nat} {character : Char}
    (member : character ∈ (toString number).toList) : character.isDigit = true := by
  rw [Nat.toString_eq_repr, Nat.toList_repr] at member
  exact Nat.isDigit_of_mem_toDigits (by decide) (by decide) member

theorem toString_injective : Function.Injective (toString : Nat → String) := by
  intro left right same
  have digits := congrArg String.toList same
  rw [Nat.toString_eq_repr, Nat.toString_eq_repr, Nat.toList_repr, Nat.toList_repr] at digits
  have values := congrArg (fun characters => Nat.ofDigitChars 10 characters 0) digits
  simpa using values

/-- The text has decimal digits that make up the number, the highest first, and before them nothing
or a plus sign. -/
def Numeral (text : String) (number : Nat) : Prop :=
  ∃ digits : List Nat, digits ≠ [] ∧ (∀ digit ∈ digits, digit < 10) ∧
    (text.toList = digits.map Nat.digitChar ∨ text.toList = '+' :: digits.map Nat.digitChar) ∧
    Nat.ofDigits 10 digits.reverse = number

theorem decimalDigit?_eq_some_iff {character : Char} {digit : Nat} :
    decimalDigit? character = some digit ↔ digit < 10 ∧ character = Nat.digitChar digit := by
  constructor
  · intro read
    unfold decimalDigit? at read
    split at read
    · rename_i between
      obtain ⟨low, high⟩ := between
      have lower : 48 ≤ character.toNat := low
      have upper : character.toNat ≤ 57 := high
      have same : character = Char.ofNat character.toNat := (Char.ofNat_toNat character).symm
      cases read
      generalize character.toNat = code at *
      subst same
      interval_cases code <;> decide
    · cases read
  · rintro ⟨small, rfl⟩
    interval_cases digit <;> rfl

/-- The first digit joins the value of those before it. -/
theorem weight_cons (value digit : Nat) (digits : List Nat) :
    value * 10 ^ (digit :: digits).length + Nat.ofDigits 10 (digit :: digits).reverse =
      (value * 10 + digit) * 10 ^ digits.length + Nat.ofDigits 10 digits.reverse := by
  rw [List.reverse_cons, Nat.ofDigits_append, Nat.ofDigits_singleton, List.length_reverse,
    List.length_cons]
  ring

theorem readDigits_eq_ok_iff {limit value number : Nat} {text : List Char} (fits : value ≤ limit) :
    readDigits limit value text = .ok number ↔
      ∃ digits : List Nat, (∀ digit ∈ digits, digit < 10) ∧ text = digits.map Nat.digitChar ∧
        number = value * 10 ^ digits.length + Nat.ofDigits 10 digits.reverse ∧ number ≤ limit := by
  induction text generalizing value with
  | nil =>
      constructor
      · intro read
        cases read
        exact ⟨[], by simp, rfl, by simp, fits⟩
      · rintro ⟨digits, -, none, rfl, -⟩
        rw [List.map_eq_nil_iff.mp none.symm]
        simp [readDigits]
  | cons character rest ih =>
      constructor
      · intro read
        unfold readDigits at read
        split at read
        · cases read
        · rename_i digit found
          split at read
          · cases read
          · rename_i below
            obtain ⟨small, rfl⟩ := decimalDigit?_eq_some_iff.mp found
            obtain ⟨digits, allSmall, rfl, rfl, within⟩ := (ih (Nat.not_lt.mp below)).mp read
            refine ⟨digit :: digits, ?_, rfl, ?_, within⟩
            · simpa using ⟨small, allSmall⟩
            · exact (weight_cons value digit digits).symm
      · rintro ⟨digits, allSmall, row, same, within⟩
        cases digits with
        | nil => cases row
        | cons digit digits =>
            obtain ⟨rfl, rfl⟩ := List.cons.inj row
            rw [weight_cons] at same
            have below : value * 10 + digit ≤ limit := by
              have positive : 0 < 10 ^ digits.length := Nat.pos_of_neZero _
              have least := Nat.le_mul_of_pos_right (value * 10 + digit) positive
              omega
            have found : decimalDigit? (Nat.digitChar digit) = some digit :=
              decimalDigit?_eq_some_iff.mpr ⟨allSmall digit List.mem_cons_self, rfl⟩
            unfold readDigits
            rw [found]
            dsimp only
            rw [if_neg (Nat.not_lt.mpr below)]
            exact (ih below).mpr ⟨digits,
              fun other listed => allSmall other (List.mem_cons_of_mem _ listed), rfl, same, within⟩

theorem plus_ne_digitChar {digit : Nat} (small : digit < 10) : '+' ≠ Nat.digitChar digit := by
  interval_cases digit <;> decide

/-- What is read from the digits of a numeral, starting from nothing. -/
theorem readDigits_zero_iff {limit number : Nat} {text : List Char} :
    readDigits limit 0 text = .ok number ↔
      ∃ digits : List Nat, (∀ digit ∈ digits, digit < 10) ∧ text = digits.map Nat.digitChar ∧
        Nat.ofDigits 10 digits.reverse = number ∧ number ≤ limit := by
  simp only [readDigits_eq_ok_iff (Nat.zero_le limit), Nat.zero_mul, Nat.zero_add,
    @eq_comm _ number]

/-- A numeral begins with a digit, unless it begins with a plus sign. -/
theorem cons_of_row {digits : List Nat} {text : List Char} (some : digits ≠ [])
    (small : ∀ digit ∈ digits, digit < 10) (row : text = digits.map Nat.digitChar) :
    ∃ first rest, text = first :: rest ∧ first ≠ '+' := by
  cases digits with
  | nil => exact absurd rfl some
  | cons digit digits =>
      exact ⟨_, _, row, (plus_ne_digitChar (small digit List.mem_cons_self)).symm⟩

theorem readNumeral_eq_ok_iff {limit number : Nat} {text : String} :
    readNumeral limit text = .ok number ↔ Numeral text number ∧ number ≤ limit := by
  constructor
  · intro read
    unfold readNumeral at read
    split at read
    · cases read
    · cases read
    · rename_i rest more shape
      obtain ⟨digits, small, rfl, same, within⟩ := readDigits_zero_iff.mp read
      have some : digits ≠ [] := by
        rintro rfl
        exact more rfl
      exact ⟨⟨digits, some, small, .inr shape, same⟩, within⟩
    · rename_i filled _ _
      obtain ⟨digits, small, row, same, within⟩ := readDigits_zero_iff.mp read
      have some : digits ≠ [] := by
        rintro rfl
        exact filled row
      exact ⟨⟨digits, some, small, .inl row, same⟩, within⟩
  · rintro ⟨⟨digits, some, small, row | row, same⟩, within⟩
    · obtain ⟨first, rest, shape, unsigned⟩ := cons_of_row some small row
      have read := readDigits_zero_iff.mpr ⟨digits, small, row, same, within⟩
      unfold readNumeral
      split
      · rename_i none
        cases shape.symm.trans none
      · rename_i plus
        exact absurd (List.cons.inj (shape.symm.trans plus)).1 unsigned
      · rename_i plus
        exact absurd (List.cons.inj (shape.symm.trans plus)).1 unsigned
      · exact read
    · have read := readDigits_zero_iff.mpr ⟨digits, small, rfl, same, within⟩
      unfold readNumeral
      split
      · rename_i none
        cases row.symm.trans none
      · rename_i plus
        exact absurd (List.map_eq_nil_iff.mp (List.cons.inj (row.symm.trans plus)).2) some
      · rename_i plus
        rwa [← (List.cons.inj (row.symm.trans plus)).2]
      · rename_i unsigned
        exact absurd row (unsigned _)

end PeerMesh.Text
