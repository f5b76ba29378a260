import PeerMesh.Text.Utf8
import Mathlib.Data.List.Basic

/-!
# Reading what was written

The UTF-8 of a text reads back as the text, leniently and without a fault, and a byte below 0x80
occurs in it only as a character of its own.
-/

set_option autoImplicit false

namespace PeerMesh.Utf8

/-! ## The bytes of one character -/

theorem toNat_ofNat_of_lt {value : Nat} (small : value < 256) : (UInt8.ofNat value).toNat = value := by
  simp [Nat.mod_eq_of_lt small]

theorem width?_eq (lead : UInt8) :
    width? lead =
      if lead.toNat ≤ 0x7F then some 1
      else if 0xC2 ≤ lead.toNat ∧ lead.toNat ≤ 0xDF then some 2
      else if 0xE0 ≤ lead.toNat ∧ lead.toNat ≤ 0xEF then some 3
      else if 0xF0 ≤ lead.toNat ∧ lead.toNat ≤ 0xF4 then some 4
      else none := by
  simp only [width?, UInt8.le_iff_toNat_le, Bool.and_eq_true, decide_eq_true_eq]
  rfl

theorem payload?_continuation {low : Nat} (small : low < 64) :
    payload? (UInt8.ofNat (low + 0x80)) = some low := by
  have value : (UInt8.ofNat (low + 0x80)).toNat = low + 0x80 := toNat_ofNat_of_lt (by omega)
  have above : 0x80 ≤ UInt8.ofNat (low + 0x80) := by
    rw [UInt8.le_iff_toNat_le, value]
    exact Nat.le_add_left _ _
  have below : UInt8.ofNat (low + 0x80) ≤ 0xBF := by
    rw [UInt8.le_iff_toNat_le, value]
    change low + 0x80 ≤ 0xBF
    omega
  simp only [payload?, above, below, decide_true, Bool.and_self, if_true, value,
    Nat.add_sub_cancel]

/-- The second byte of three lies where the first one wants it. -/
theorem secondOfThree_bounds {top middle : Nat} (topSmall : top < 16) (middleSmall : middle < 64)
    (shortest : top = 0 → 0x20 ≤ middle) (noSurrogate : top = 0xD → middle < 0x20) :
    (secondOfThree (UInt8.ofNat (top + 0xE0))).1 ≤ UInt8.ofNat (middle + 0x80) ∧
      UInt8.ofNat (middle + 0x80) ≤ (secondOfThree (UInt8.ofNat (top + 0xE0))).2 := by
  have lead : (UInt8.ofNat (top + 0xE0)).toNat = top + 0xE0 := toNat_ofNat_of_lt (by omega)
  have value : (UInt8.ofNat (middle + 0x80)).toNat = middle + 0x80 := toNat_ofNat_of_lt (by omega)
  have isE0 : UInt8.ofNat (top + 0xE0) = 0xE0 ↔ top = 0 := by
    rw [← UInt8.toNat_inj, lead]
    change top + 0xE0 = 0xE0 ↔ _
    omega
  have isED : UInt8.ofNat (top + 0xE0) = 0xED ↔ top = 0xD := by
    rw [← UInt8.toNat_inj, lead]
    change top + 0xE0 = 0xED ↔ _
    omega
  simp only [secondOfThree, isE0, isED, UInt8.le_iff_toNat_le]
  split
  · change 0xA0 ≤ _ ∧ _ ≤ 0xBF
    rw [value]
    omega
  · split
    · change 0x80 ≤ _ ∧ _ ≤ 0x9F
      rw [value]
      omega
    · change 0x80 ≤ _ ∧ _ ≤ 0xBF
      rw [value]
      omega

/-- The second byte of four lies where the first one wants it. -/
theorem secondOfFour_bounds {top middle : Nat} (topSmall : top < 5) (middleSmall : middle < 64)
    (shortest : top = 0 → 0x10 ≤ middle) (last : top = 4 → middle < 0x10) :
    (secondOfFour (UInt8.ofNat (top + 0xF0))).1 ≤ UInt8.ofNat (middle + 0x80) ∧
      UInt8.ofNat (middle + 0x80) ≤ (secondOfFour (UInt8.ofNat (top + 0xF0))).2 := by
  have lead : (UInt8.ofNat (top + 0xF0)).toNat = top + 0xF0 := toNat_ofNat_of_lt (by omega)
  have value : (UInt8.ofNat (middle + 0x80)).toNat = middle + 0x80 := toNat_ofNat_of_lt (by omega)
  have isF0 : UInt8.ofNat (top + 0xF0) = 0xF0 ↔ top = 0 := by
    rw [← UInt8.toNat_inj, lead]
    change top + 0xF0 = 0xF0 ↔ _
    omega
  have isF4 : UInt8.ofNat (top + 0xF0) = 0xF4 ↔ top = 4 := by
    rw [← UInt8.toNat_inj, lead]
    change top + 0xF0 = 0xF4 ↔ _
    omega
  simp only [secondOfFour, isF0, isF4, UInt8.le_iff_toNat_le]
  split
  · change 0x90 ≤ _ ∧ _ ≤ 0xBF
    rw [value]
    omega
  · split
    · change 0x80 ≤ _ ∧ _ ≤ 0x8F
      rw [value]
      omega
    · change 0x80 ≤ _ ∧ _ ≤ 0xBF
      rw [value]
      omega

theorem firstPiece_one {value : Nat} (high : value ≤ 0x7F) (rest : Bytes) :
    firstPiece (UInt8.ofNat value) rest = (.character (Char.ofNat value), 0) := by
  have lead : (UInt8.ofNat value).toNat = value := toNat_ofNat_of_lt (by omega)
  simp only [firstPiece, width?_eq, lead, high, if_true]

theorem firstPiece_two {value : Nat} (low : 0x7F < value) (high : value ≤ 0x7FF) (rest : Bytes) :
    firstPiece (UInt8.ofNat (value / 64 % 0x20 + 0xC0))
        (UInt8.ofNat (value % 0x40 + 0x80) :: rest) = (.character (Char.ofNat value), 1) := by
  have lead : (UInt8.ofNat (value / 64 % 0x20 + 0xC0)).toNat = value / 64 + 0xC0 := by
    rw [toNat_ofNat_of_lt (by omega)]
    omega
  have width : width? (UInt8.ofNat (value / 64 % 0x20 + 0xC0)) = some 2 := by
    rw [width?_eq, lead, if_neg (by omega), if_pos (by omega)]
  have last := payload?_continuation (show value % 0x40 < 64 by omega)
  have joined : (value / 64 + 0xC0 - 0xC0) * 64 + value % 0x40 = value := by omega
  simp only [firstPiece, width, last, lead, joined]

theorem firstPiece_three {value : Nat} (low : 0x7FF < value) (high : value ≤ 0xFFFF)
    (noSurrogate : value < 0xD800 ∨ 0xDFFF < value) (rest : Bytes) :
    firstPiece (UInt8.ofNat (value / 4096 % 0x10 + 0xE0))
        (UInt8.ofNat (value / 64 % 0x40 + 0x80) :: UInt8.ofNat (value % 0x40 + 0x80) :: rest) =
      (.character (Char.ofNat value), 2) := by
  have lead : (UInt8.ofNat (value / 4096 % 0x10 + 0xE0)).toNat = value / 4096 + 0xE0 := by
    rw [toNat_ofNat_of_lt (by omega)]
    omega
  have width : width? (UInt8.ofNat (value / 4096 % 0x10 + 0xE0)) = some 3 := by
    rw [width?_eq, lead, if_neg (by omega), if_neg (by omega), if_pos (by omega)]
  have second : (UInt8.ofNat (value / 64 % 0x40 + 0x80)).toNat = value / 64 % 0x40 + 0x80 :=
    toNat_ofNat_of_lt (by omega)
  have bounds := secondOfThree_bounds (show value / 4096 % 0x10 < 16 by omega)
    (show value / 64 % 0x40 < 64 by omega) (by omega) (by omega)
  have last := payload?_continuation (show value % 0x40 < 64 by omega)
  have joined : (value / 4096 + 0xE0 - 0xE0) * 4096 + (value / 64 % 0x40 + 0x80 - 0x80) * 64 +
      value % 0x40 = value := by omega
  simp only [firstPiece, width, bounds, decide_true, Bool.and_self, if_true, last, lead, second,
    joined]

theorem firstPiece_four {value : Nat} (low : 0xFFFF < value) (high : value < 0x110000)
    (rest : Bytes) :
    firstPiece (UInt8.ofNat (value / 262144 % 0x08 + 0xF0))
        (UInt8.ofNat (value / 4096 % 0x40 + 0x80) :: UInt8.ofNat (value / 64 % 0x40 + 0x80) ::
          UInt8.ofNat (value % 0x40 + 0x80) :: rest) =
      (.character (Char.ofNat value), 3) := by
  have lead : (UInt8.ofNat (value / 262144 % 0x08 + 0xF0)).toNat = value / 262144 + 0xF0 := by
    rw [toNat_ofNat_of_lt (by omega)]
    omega
  have width : width? (UInt8.ofNat (value / 262144 % 0x08 + 0xF0)) = some 4 := by
    rw [width?_eq, lead, if_neg (by omega), if_neg (by omega), if_neg (by omega),
      if_pos (by omega)]
  have second : (UInt8.ofNat (value / 4096 % 0x40 + 0x80)).toNat = value / 4096 % 0x40 + 0x80 :=
    toNat_ofNat_of_lt (by omega)
  have bounds := secondOfFour_bounds (show value / 262144 % 0x08 < 5 by omega)
    (show value / 4096 % 0x40 < 64 by omega) (by omega) (by omega)
  have middle := payload?_continuation (show value / 64 % 0x40 < 64 by omega)
  have last := payload?_continuation (show value % 0x40 < 64 by omega)
  have joined : (value / 262144 + 0xF0 - 0xF0) * 262144 +
      (value / 4096 % 0x40 + 0x80 - 0x80) * 4096 + value / 64 % 0x40 * 64 + value % 0x40 =
        value := by omega
  simp only [firstPiece, width, bounds, decide_true, Bool.and_self, if_true, middle, last, lead,
    second, joined]

/-- The bytes of a character are read as one piece, whatever follows. -/
theorem firstPiece_encode (character : Char) (rest : Bytes) :
    ∃ lead tail, String.utf8EncodeChar character = lead :: tail ∧
      firstPiece lead (tail ++ rest) = (.character character, tail.length) := by
  have bound : character.val.toNat < 0x110000 := by
    rcases character.valid with below | ⟨-, above⟩
    · exact Nat.lt_trans below (by decide)
    · exact above
  have noSurrogate : character.val.toNat < 0xD800 ∨ 0xDFFF < character.val.toNat := by
    rcases character.valid with below | ⟨above, -⟩
    · exact .inl below
    · exact .inr above
  have restored : Char.ofNat character.val.toNat = character := Char.ofNat_toNat character
  unfold String.utf8EncodeChar
  generalize character.val.toNat = value at bound noSurrogate restored
  subst restored
  dsimp only
  by_cases one : value ≤ 0x7F
  · rw [if_pos one]
    exact ⟨_, _, rfl, firstPiece_one one _⟩
  rw [if_neg one]
  by_cases two : value ≤ 0x7FF
  · rw [if_pos two]
    exact ⟨_, _, rfl, firstPiece_two (by omega) two _⟩
  rw [if_neg two]
  by_cases three : value ≤ 0xFFFF
  · rw [if_pos three]
    exact ⟨_, _, rfl, firstPiece_three (by omega) three noSurrogate _⟩
  rw [if_neg three]
  exact ⟨_, _, rfl, firstPiece_four (by omega) bound _⟩

/-! ## The bytes of a text -/

theorem piecesFrom_skip (index : Nat) (skipped rest : Bytes) :
    piecesFrom index skipped.length (skipped ++ rest) =
      piecesFrom (index + skipped.length) 0 rest := by
  induction skipped generalizing index with
  | nil => rfl
  | cons byte later ih =>
      rw [List.length_cons, List.cons_append, piecesFrom, ih]
      congr 1
      omega

theorem pieces_encode (index : Nat) (text : List Char) :
    (piecesFrom index 0 (text.flatMap String.utf8EncodeChar)).map (·.2) = text.map .character := by
  induction text generalizing index with
  | nil => rfl
  | cons character later ih =>
      obtain ⟨lead, tail, encoded, read⟩ :=
        firstPiece_encode character (later.flatMap String.utf8EncodeChar)
      rw [List.flatMap_cons, encoded, List.cons_append, piecesFrom, read]
      dsimp only
      rw [piecesFrom_skip, List.map_cons, List.map_cons, ih]

/-- What was written reads back leniently. -/
theorem decodeLenient_encode (text : String) : decodeLenient (encode text) = text.toList := by
  have shown : decodeLenient (encode text) =
      ((pieces (encode text)).map (·.2)).map Piece.shown := by
    rw [List.map_map]
    rfl
  rw [shown, pieces, encode, pieces_encode, List.map_map]
  exact List.map_id'' (fun _ => rfl) _

theorem characters_of_whole {pieces : List (Nat × Piece)} {text : List Char}
    (whole : pieces.map (·.2) = text.map .character) : characters pieces = .ok text := by
  induction text generalizing pieces with
  | nil =>
      rw [List.map_eq_nil_iff.mp whole]
      rfl
  | cons character later laterIH =>
      obtain ⟨⟨index, piece⟩, rest, rfl, same, restWhole⟩ := List.map_eq_cons_iff.mp whole
      cases same
      rw [characters, laterIH restWhole]
      rfl

/-- What was written reads back without a fault. -/
theorem decode_encode (text : String) : decode (encode text) = .ok text := by
  have read : characters (pieces (encode text)) = .ok text.toList :=
    characters_of_whole (pieces_encode 0 text.toList)
  rw [decode, read]
  exact congrArg Except.ok String.ofList_toList

theorem lineFeed_eq_ofNat {value : Nat} (bound : value < 256)
    (same : (10 : UInt8) = UInt8.ofNat value) : value = 10 := by
  rw [← toNat_ofNat_of_lt bound, ← same]
  rfl

theorem lineFeed_mem_encodeChar {character : Char} :
    (10 : UInt8) ∈ String.utf8EncodeChar character ↔ character = '\n' := by
  constructor
  · intro byte
    refine Char.ext (UInt32.toNat_inj.mp ?_)
    change character.val.toNat = 10
    unfold String.utf8EncodeChar at byte
    generalize character.val.toNat = value at byte
    dsimp only at byte
    split at byte
    · exact lineFeed_eq_ofNat (by omega) (by simpa using byte)
    · -- The bytes of a longer sequence are all 0x80 or more.
      split at byte
      · simp only [List.mem_cons, List.not_mem_nil, or_false] at byte
        rcases byte with same | same <;> have := lineFeed_eq_ofNat (by omega) same <;> omega
      · split at byte
        · simp only [List.mem_cons, List.not_mem_nil, or_false] at byte
          rcases byte with same | same | same <;>
            have := lineFeed_eq_ofNat (by omega) same <;> omega
        · simp only [List.mem_cons, List.not_mem_nil, or_false] at byte
          rcases byte with same | same | same | same <;>
            have := lineFeed_eq_ofNat (by omega) same <;> omega
  · intro same
    subst same
    decide

/-- A line feed is written for a line feed only. -/
theorem lineFeed_mem_encode {text : String} : (10 : UInt8) ∈ encode text ↔ '\n' ∈ text.toList := by
  rw [encode, List.mem_flatMap]
  constructor
  · intro ⟨character, member, byte⟩
    rw [lineFeed_mem_encodeChar] at byte
    exact byte ▸ member
  · intro member
    exact ⟨'\n', member, lineFeed_mem_encodeChar.mpr rfl⟩

theorem encode_append (front back : String) : encode (front ++ back) = encode front ++ encode back := by
  simp [encode]

end PeerMesh.Utf8
