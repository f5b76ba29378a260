import PeerMesh.Proofs.Text.Utf8

/-!
# Reading only what was written

A byte string that is read without a fault is the UTF-8 of the text that is read. Each piece that is
a character takes exactly the bytes that the character is written with, so that the byte strings
that can be read are those that some text is written as.
-/

set_option autoImplicit false

namespace PeerMesh.Utf8

/-! ## The bytes of one piece -/

theorem toNat_ofNat_of_valid {value : Nat} (valid : value.isValidChar) :
    (Char.ofNat value).val.toNat = value := by
  rw [Char.ofNat, dif_pos valid]
  rfl

theorem byte_eq_ofNat {byte : UInt8} {value : Nat} (same : byte.toNat = value) :
    byte = UInt8.ofNat value := by
  rw [← same, UInt8.ofNat_toNat]

theorem payload?_eq_some {byte : UInt8} {low : Nat} (found : payload? byte = some low) :
    low < 64 ∧ byte.toNat = low + 0x80 := by
  simp only [payload?, UInt8.le_iff_toNat_le, Bool.and_eq_true, decide_eq_true_eq,
    Option.ite_none_right_eq_some, Option.some.injEq, UInt8.reduceToNat] at found
  omega

theorem bounds_of_secondOfThree {lead second : UInt8}
    (between : (secondOfThree lead).1 ≤ second && second ≤ (secondOfThree lead).2) :
    (0x80 ≤ second.toNat ∧ second.toNat ≤ 0xBF) ∧
      (lead.toNat = 0xE0 → 0xA0 ≤ second.toNat) ∧ (lead.toNat = 0xED → second.toNat ≤ 0x9F) := by
  have isE0 : lead = 0xE0 ↔ lead.toNat = 0xE0 := by rw [← UInt8.toNat_inj]; rfl
  have isED : lead = 0xED ↔ lead.toNat = 0xED := by rw [← UInt8.toNat_inj]; rfl
  simp only [secondOfThree, isE0, isED, UInt8.le_iff_toNat_le, Bool.and_eq_true,
    decide_eq_true_eq] at between
  split at between
  · simp only [UInt8.reduceToNat] at between
    omega
  · split at between <;> simp only [UInt8.reduceToNat] at between <;> omega

theorem bounds_of_secondOfFour {lead second : UInt8}
    (between : (secondOfFour lead).1 ≤ second && second ≤ (secondOfFour lead).2) :
    (0x80 ≤ second.toNat ∧ second.toNat ≤ 0xBF) ∧
      (lead.toNat = 0xF0 → 0x90 ≤ second.toNat) ∧ (lead.toNat = 0xF4 → second.toNat ≤ 0x8F) := by
  have isF0 : lead = 0xF0 ↔ lead.toNat = 0xF0 := by rw [← UInt8.toNat_inj]; rfl
  have isF4 : lead = 0xF4 ↔ lead.toNat = 0xF4 := by rw [← UInt8.toNat_inj]; rfl
  simp only [secondOfFour, isF0, isF4, UInt8.le_iff_toNat_le, Bool.and_eq_true,
    decide_eq_true_eq] at between
  split at between
  · simp only [UInt8.reduceToNat] at between
    omega
  · split at between <;> simp only [UInt8.reduceToNat] at between <;> omega

theorem encodeChar_one {lead : UInt8} (high : lead.toNat ≤ 0x7F) :
    String.utf8EncodeChar (Char.ofNat lead.toNat) = [lead] := by
  have value : (Char.ofNat lead.toNat).val.toNat = lead.toNat :=
    toNat_ofNat_of_valid (.inl (by omega))
  simp only [String.utf8EncodeChar, value, if_pos high, UInt8.ofNat_toNat]

theorem encodeChar_two {lead second : UInt8} {low : Nat}
    (range : 0xC2 ≤ lead.toNat ∧ lead.toNat ≤ 0xDF) (payload : payload? second = some low) :
    String.utf8EncodeChar (Char.ofNat ((lead.toNat - 0xC0) * 64 + low)) = [lead, second] := by
  obtain ⟨small, secondValue⟩ := payload?_eq_some payload
  have value : (Char.ofNat ((lead.toNat - 0xC0) * 64 + low)).val.toNat =
      (lead.toNat - 0xC0) * 64 + low := toNat_ofNat_of_valid (.inl (by omega))
  simp only [String.utf8EncodeChar, value]
  rw [if_neg (by omega), if_pos (by omega), List.cons.injEq, List.cons.injEq]
  exact ⟨(byte_eq_ofNat (by omega)).symm, (byte_eq_ofNat (by omega)).symm, rfl⟩

theorem encodeChar_three {lead second third : UInt8} {low : Nat}
    (range : 0xE0 ≤ lead.toNat ∧ lead.toNat ≤ 0xEF)
    (between : (secondOfThree lead).1 ≤ second && second ≤ (secondOfThree lead).2)
    (payload : payload? third = some low) :
    String.utf8EncodeChar
        (Char.ofNat ((lead.toNat - 0xE0) * 4096 + (second.toNat - 0x80) * 64 + low)) =
      [lead, second, third] := by
  obtain ⟨⟨least, greatest⟩, shortest, noSurrogate⟩ := bounds_of_secondOfThree between
  obtain ⟨small, thirdValue⟩ := payload?_eq_some payload
  have valid : ((lead.toNat - 0xE0) * 4096 + (second.toNat - 0x80) * 64 + low).isValidChar := by
    unfold Nat.isValidChar
    omega
  have value := toNat_ofNat_of_valid valid
  simp only [String.utf8EncodeChar, value]
  rw [if_neg (by omega), if_neg (by omega), if_pos (by omega), List.cons.injEq, List.cons.injEq,
    List.cons.injEq]
  exact ⟨(byte_eq_ofNat (by omega)).symm, (byte_eq_ofNat (by omega)).symm,
    (byte_eq_ofNat (by omega)).symm, rfl⟩

theorem encodeChar_four {lead second third fourth : UInt8} {middle low : Nat}
    (range : 0xF0 ≤ lead.toNat ∧ lead.toNat ≤ 0xF4)
    (between : (secondOfFour lead).1 ≤ second && second ≤ (secondOfFour lead).2)
    (thirdPayload : payload? third = some middle) (fourthPayload : payload? fourth = some low) :
    String.utf8EncodeChar (Char.ofNat ((lead.toNat - 0xF0) * 262144 +
        (second.toNat - 0x80) * 4096 + middle * 64 + low)) = [lead, second, third, fourth] := by
  obtain ⟨⟨least, greatest⟩, shortest, last⟩ := bounds_of_secondOfFour between
  obtain ⟨middleSmall, thirdValue⟩ := payload?_eq_some thirdPayload
  obtain ⟨small, fourthValue⟩ := payload?_eq_some fourthPayload
  have valid : ((lead.toNat - 0xF0) * 262144 + (second.toNat - 0x80) * 4096 + middle * 64 +
      low).isValidChar := by
    unfold Nat.isValidChar
    omega
  have value := toNat_ofNat_of_valid valid
  simp only [String.utf8EncodeChar, value]
  rw [if_neg (by omega), if_neg (by omega), if_neg (by omega), List.cons.injEq, List.cons.injEq,
    List.cons.injEq, List.cons.injEq]
  exact ⟨(byte_eq_ofNat (by omega)).symm, (byte_eq_ofNat (by omega)).symm,
    (byte_eq_ofNat (by omega)).symm, (byte_eq_ofNat (by omega)).symm, rfl⟩

/-- A piece that is a character takes the bytes that the character is written with. -/
theorem encodeChar_of_firstPiece {lead : UInt8} {rest : Bytes} {character : Char} {count : Nat}
    (piece : firstPiece lead rest = (.character character, count)) :
    ∃ tail later, rest = tail ++ later ∧ tail.length = count ∧
      String.utf8EncodeChar character = lead :: tail := by
  unfold firstPiece at piece
  simp only [width?_eq] at piece
  by_cases one : lead.toNat ≤ 0x7F
  · simp only [if_pos one] at piece
    cases piece
    exact ⟨[], rest, rfl, rfl, encodeChar_one one⟩
  simp only [if_neg one] at piece
  by_cases two : 0xC2 ≤ lead.toNat ∧ lead.toNat ≤ 0xDF
  · simp only [if_pos two] at piece
    split at piece
    · cases piece
    · rename_i second later
      split at piece
      · rename_i low payload
        cases piece
        exact ⟨[second], later, rfl, rfl, encodeChar_two two payload⟩
      · cases piece
  simp only [if_neg two] at piece
  by_cases three : 0xE0 ≤ lead.toNat ∧ lead.toNat ≤ 0xEF
  · simp only [if_pos three] at piece
    split at piece
    · cases piece
    · rename_i second afterSecond
      split at piece
      · rename_i between
        split at piece
        · cases piece
        · rename_i third later
          split at piece
          · rename_i low payload
            cases piece
            exact ⟨[second, third], later, rfl, rfl, encodeChar_three three between payload⟩
          · cases piece
      · cases piece
  simp only [if_neg three] at piece
  by_cases four : 0xF0 ≤ lead.toNat ∧ lead.toNat ≤ 0xF4
  · simp only [if_pos four] at piece
    split at piece
    · cases piece
    · rename_i second afterSecond
      split at piece
      · rename_i between
        split at piece
        · cases piece
        · rename_i third afterThird
          split at piece
          · cases piece
          · rename_i middle thirdPayload
            split at piece
            · cases piece
            · rename_i fourth later
              split at piece
              · cases piece
              · rename_i low fourthPayload
                cases piece
                exact ⟨[second, third, fourth], later, rfl, rfl,
                  encodeChar_four four between thirdPayload fourthPayload⟩
      · cases piece
  · simp only [if_neg four] at piece
    cases piece

/-! ## The bytes of a text -/

theorem characters_cons_eq_ok {index : Nat} {piece : Piece} {rest : List (Nat × Piece)}
    {text : List Char} (read : characters ((index, piece) :: rest) = .ok text) :
    ∃ first later, piece = .character first ∧ characters rest = .ok later ∧
      text = first :: later := by
  cases piece with
  | malformed | unfinished => cases read
  | character first =>
      rw [characters] at read
      cases later : characters rest with
      | error fault =>
          rw [later] at read
          cases read
      | ok found =>
          rw [later] at read
          cases read
          exact ⟨first, found, rfl, rfl, rfl⟩

theorem encode_of_characters {bytes : Bytes} {index : Nat} {text : List Char}
    (read : characters (piecesFrom index 0 bytes) = .ok text) :
    bytes = text.flatMap String.utf8EncodeChar := by
  induction text generalizing bytes index with
  | nil =>
      cases bytes with
      | nil => rfl
      | cons lead rest =>
          obtain ⟨first, later, -, -, split⟩ := characters_cons_eq_ok read
          cases split
  | cons character text textIH =>
      cases bytes with
      | nil => cases read
      | cons lead rest =>
          obtain ⟨first, later, isFirst, laterRead, split⟩ := characters_cons_eq_ok read
          cases split
          cases taken : firstPiece lead rest with
          | mk piece count =>
              rw [taken] at isFirst laterRead
              cases isFirst
              obtain ⟨tail, after, rfl, rfl, written⟩ := encodeChar_of_firstPiece taken
              rw [piecesFrom_skip] at laterRead
              rw [List.flatMap_cons, written, List.cons_append, ← textIH laterRead]

/-- The byte strings that are read without a fault are those that a text is written as. -/
theorem decode_eq_ok_iff {bytes : Bytes} {text : String} :
    decode bytes = .ok text ↔ bytes = encode text := by
  constructor
  · intro read
    rw [decode] at read
    cases chars : characters (pieces bytes) with
    | error fault =>
        rw [chars] at read
        cases read
    | ok found =>
        rw [chars] at read
        cases read
        rw [encode, String.toList_ofList]
        exact encode_of_characters chars
  · intro written
    rw [written]
    exact decode_encode text

end PeerMesh.Utf8
