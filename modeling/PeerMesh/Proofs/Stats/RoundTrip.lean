import PeerMesh.Stats
import PeerMesh.Proofs.NameMap
import PeerMesh.Proofs.Text.Utf8

/-!
# Stats maps on the wire

A stats map has a wire form exactly if its measures fit the four signed bytes of a measure, and
its wire form reads back as the map. Every part is read back in front of any bytes, which is what
the reading of the parts after it goes by.
-/

set_option autoImplicit false

namespace PeerMesh.Stats

/-- The measures of a stats map are at most the greatest one that the wire can hold. -/
structure Fits (stats : StatsMap) : Prop where
  entryCount : stats.size ≤ lengthLimit
  nameLengths : ∀ name ∈ stats.names, (Utf8.encode name).length ≤ lengthLimit

/-! ## Words and measures -/

theorem join_wordBytes (word : UInt32) :
    (word >>> 24).toUInt8.toUInt32 <<< 24 ||| (word >>> 16).toUInt8.toUInt32 <<< 16 |||
      (word >>> 8).toUInt8.toUInt32 <<< 8 ||| word.toUInt8.toUInt32 = word := by
  apply UInt32.toBitVec_inj.mp
  ext index bound
  simp only [UInt32.toBitVec_or, UInt32.toBitVec_shiftLeft, UInt8.toBitVec_toUInt32,
    UInt32.toBitVec_toUInt8, UInt32.toBitVec_shiftRight, UInt32.toBitVec_ofNat,
    BitVec.ofNat_eq_ofNat, BitVec.reduceMod, BitVec.ushiftRight_eq', BitVec.toNat_ofNat,
    Nat.reducePow, Nat.reduceMod, BitVec.shiftLeft_eq', BitVec.getElem_or,
    BitVec.getElem_shiftLeft, BitVec.getElem_setWidth, BitVec.getLsbD_setWidth,
    BitVec.getLsbD_ushiftRight]
  -- Each bit lies in exactly one of the four bytes.
  grind

theorem takeWord_wordBytes (word : UInt32) (rest : Bytes) :
    takeWord (wordBytes word ++ rest) = some (word, rest) := by
  simp only [wordBytes, List.cons_append, List.nil_append, takeWord, join_wordBytes]

theorem toInt32_nonneg_of_fits {value : Nat} (fits : value ≤ lengthLimit) :
    ¬ value.toUInt32.toInt32 < 0 := by
  have small : value ≤ 2147483647 := fits
  have positive : value.toUInt32.toInt32.toInt = value := by
    have held : (BitVec.ofNat 32 value).toNat = value := Nat.mod_eq_of_lt (by omega)
    change (BitVec.ofNat 32 value).toInt = value
    rw [BitVec.toInt_eq_toNat_of_lt (by omega), held]
  rw [Int32.lt_iff_toInt_lt, positive]
  exact Int.not_lt.mpr (Int.natCast_nonneg value)

theorem takeMeasure_wordBytes (measure : Measure) {value : Nat} (fits : value ≤ lengthLimit)
    (rest : Bytes) :
    takeMeasure measure (wordBytes value.toUInt32 ++ rest) = .ok (value, rest) := by
  have small : value < 2 ^ 32 := Nat.lt_of_le_of_lt fits (by decide)
  have read : value.toUInt32.toNat = value := Nat.mod_eq_of_lt small
  simp only [takeMeasure, takeWord_wordBytes, if_neg (toInt32_nonneg_of_fits fits), read]

theorem encodeMeasure_of_fits (measure : Measure) {value : Nat} (fits : value ≤ lengthLimit) :
    encodeMeasure measure value = .ok (wordBytes value.toUInt32) :=
  if_neg (Nat.not_lt.mpr fits)

theorem fits_of_encodeMeasure {measure : Measure} {value : Nat} {bytes : Bytes}
    (written : encodeMeasure measure value = .ok bytes) : value ≤ lengthLimit := by
  unfold encodeMeasure at written
  split at written
  · cases written
  · rename_i fits
    exact Nat.not_lt.mp fits

theorem exceeds_of_encodeMeasure {measure : Measure} {value : Nat} {fault : EncodeFault}
    (failed : encodeMeasure measure value = .error fault) :
    fault = ⟨measure, value⟩ ∧ lengthLimit < value := by
  unfold encodeMeasure at failed
  split at failed
  · rename_i exceeds
    cases failed
    exact ⟨rfl, exceeds⟩
  · cases failed

/-! ## Entries -/

/-- The wire form of an entry whose name fits. -/
def entryBytes (entry : String × Int32) : Bytes :=
  wordBytes (Utf8.encode entry.1).length.toUInt32 ++ Utf8.encode entry.1 ++
    wordBytes entry.2.toUInt32

theorem encodeEntry_of_fits {entry : String × Int32}
    (fits : (Utf8.encode entry.1).length ≤ lengthLimit) :
    encodeEntry entry = .ok (entryBytes entry) := by
  rw [encodeEntry, encodeMeasure_of_fits .nameLength fits]
  rfl

theorem fits_of_encodeEntry {entry : String × Int32} {bytes : Bytes}
    (written : encodeEntry entry = .ok bytes) :
    (Utf8.encode entry.1).length ≤ lengthLimit := by
  cases measured : encodeMeasure .nameLength (Utf8.encode entry.1).length with
  | error fault =>
      rw [encodeEntry, measured] at written
      cases written
  | ok length => exact fits_of_encodeMeasure measured

theorem exceeds_of_encodeEntry {entry : String × Int32} {fault : EncodeFault}
    (failed : encodeEntry entry = .error fault) :
    fault = ⟨.nameLength, (Utf8.encode entry.1).length⟩ ∧
      lengthLimit < (Utf8.encode entry.1).length := by
  cases measured : encodeMeasure .nameLength (Utf8.encode entry.1).length with
  | error measureFault =>
      rw [encodeEntry, measured] at failed
      cases failed
      exact exceeds_of_encodeMeasure measured
  | ok length =>
      rw [encodeEntry, measured] at failed
      cases failed

theorem takeEntry_entryBytes {entry : String × Int32}
    (fits : (Utf8.encode entry.1).length ≤ lengthLimit) (rest : Bytes) :
    takeEntry (entryBytes entry ++ rest) = .ok (entry, rest) := by
  have long : ¬ (Utf8.encode entry.1 ++ (wordBytes entry.2.toUInt32 ++ rest)).length <
      (Utf8.encode entry.1).length := by
    rw [List.length_append]
    omega
  have value : entry.2.toUInt32.toInt32 = entry.2 := rfl
  rw [takeEntry, entryBytes, List.append_assoc, List.append_assoc,
    takeMeasure_wordBytes .nameLength fits]
  simp only [bind, Except.bind, if_neg long, List.take_left, List.drop_left, Utf8.decode_encode,
    Except.mapError, takeWord_wordBytes]
  rfl

theorem encodeEntries_of_fits {entries : List (String × Int32)}
    (fits : ∀ entry ∈ entries, (Utf8.encode entry.1).length ≤ lengthLimit) :
    encodeEntries entries = .ok (entries.flatMap entryBytes) := by
  induction entries with
  | nil => rfl
  | cons first later laterIH =>
      rw [encodeEntries, encodeEntry_of_fits (fits first List.mem_cons_self),
        laterIH fun entry member => fits entry (List.mem_cons_of_mem _ member)]
      rfl

theorem takeEntries_entryBytes {entries : List (String × Int32)}
    (fits : ∀ entry ∈ entries, (Utf8.encode entry.1).length ≤ lengthLimit) (rest : Bytes) :
    takeEntries entries.length (entries.flatMap entryBytes ++ rest) = .ok (entries, rest) := by
  induction entries with
  | nil => rfl
  | cons first later laterIH =>
      rw [List.length_cons, takeEntries, List.flatMap_cons, List.append_assoc,
        takeEntry_entryBytes (fits first List.mem_cons_self)]
      simp only [bind, Except.bind]
      rw [laterIH fun entry member => fits entry (List.mem_cons_of_mem _ member)]
      rfl

theorem fits_of_encodeEntries {entries : List (String × Int32)} {bytes : Bytes}
    (written : encodeEntries entries = .ok bytes) :
    ∀ entry ∈ entries, (Utf8.encode entry.1).length ≤ lengthLimit := by
  induction entries generalizing bytes with
  | nil => simp
  | cons first later laterIH =>
      rw [encodeEntries] at written
      cases firstWritten : encodeEntry first with
      | error fault =>
          rw [firstWritten] at written
          cases written
      | ok firstBytes =>
          cases laterWritten : encodeEntries later with
          | error fault =>
              rw [firstWritten, laterWritten] at written
              cases written
          | ok laterBytes =>
              intro entry member
              cases List.mem_cons.mp member with
              | inl same => exact same ▸ fits_of_encodeEntry firstWritten
              | inr among => exact laterIH laterWritten entry among

theorem exceeds_of_encodeEntries {entries : List (String × Int32)} {fault : EncodeFault}
    (failed : encodeEntries entries = .error fault) :
    ∃ entry ∈ entries, fault = ⟨.nameLength, (Utf8.encode entry.1).length⟩ ∧
      lengthLimit < (Utf8.encode entry.1).length := by
  induction entries with
  | nil => cases failed
  | cons first later laterIH =>
      rw [encodeEntries] at failed
      cases firstWritten : encodeEntry first with
      | error firstFault =>
          rw [firstWritten] at failed
          cases failed
          exact ⟨first, List.mem_cons_self, exceeds_of_encodeEntry firstWritten⟩
      | ok firstBytes =>
          cases laterWritten : encodeEntries later with
          | error laterFault =>
              rw [firstWritten, laterWritten] at failed
              cases failed
              obtain ⟨entry, member, exceeding⟩ := laterIH laterWritten
              exact ⟨entry, List.mem_cons_of_mem _ member, exceeding⟩
          | ok laterBytes =>
              rw [firstWritten, laterWritten] at failed
              cases failed

/-! ## Maps -/

theorem Fits.entries {stats : StatsMap} (fits : Fits stats) :
    ∀ entry ∈ stats.entries, (Utf8.encode entry.1).length ≤ lengthLimit :=
  fun _ member => fits.nameLengths _ (List.mem_map_of_mem member)

theorem Fits.encode_eq {stats : StatsMap} (fits : Fits stats) :
    encode stats =
      .ok (wordBytes stats.size.toUInt32 ++ stats.entries.flatMap entryBytes) := by
  rw [encode, encodeMeasure_of_fits .entryCount fits.entryCount,
    encodeEntries_of_fits fits.entries]
  rfl

theorem Fits.decode_eq {stats : StatsMap} (fits : Fits stats) :
    decode (wordBytes stats.size.toUInt32 ++ stats.entries.flatMap entryBytes) = .ok stats := by
  have read := takeEntries_entryBytes fits.entries []
  rw [List.append_nil] at read
  rw [decode, takeMeasure_wordBytes .entryCount fits.entryCount]
  simp only [bind, Except.bind]
  rw [NameMap.size, read]
  exact congrArg Except.ok stats.ofList_entries

/-- The wire form of a stats map that fits reads back as the map. -/
theorem Fits.decodes {stats : StatsMap} (fits : Fits stats) :
    ∃ bytes, encode stats = .ok bytes ∧ decode bytes = .ok stats :=
  ⟨_, fits.encode_eq, fits.decode_eq⟩

/-- A fault names a measure of the map that exceeds the limit. -/
theorem exceeds_of_encode {stats : StatsMap} {fault : EncodeFault}
    (failed : encode stats = .error fault) :
    lengthLimit < fault.value ∧
      (fault = ⟨.entryCount, stats.size⟩ ∨
        ∃ name ∈ stats.names, fault = ⟨.nameLength, (Utf8.encode name).length⟩) := by
  rw [encode] at failed
  cases counted : encodeMeasure .entryCount stats.size with
  | error countFault =>
      rw [counted] at failed
      cases failed
      obtain ⟨rfl, exceeds⟩ := exceeds_of_encodeMeasure counted
      exact ⟨exceeds, .inl rfl⟩
  | ok count =>
      rw [counted] at failed
      cases written : encodeEntries stats.entries with
      | error entryFault =>
          rw [written] at failed
          cases failed
          obtain ⟨entry, member, rfl, exceeds⟩ := exceeds_of_encodeEntries written
          exact ⟨exceeds, .inr ⟨entry.1, List.mem_map_of_mem member, rfl⟩⟩
      | ok entries =>
          rw [written] at failed
          cases failed

theorem fits_of_encode {stats : StatsMap} {bytes : Bytes} (written : encode stats = .ok bytes) :
    Fits stats := by
  rw [encode] at written
  cases counted : encodeMeasure .entryCount stats.size with
  | error fault =>
      rw [counted] at written
      cases written
  | ok count =>
      cases entriesWritten : encodeEntries stats.entries with
      | error fault =>
          rw [counted, entriesWritten] at written
          cases written
      | ok entries =>
          have fitting := fits_of_encodeEntries entriesWritten
          exact ⟨fits_of_encodeMeasure counted, fun name named => by
            obtain ⟨entry, member, rfl⟩ := List.mem_map.mp named
            exact fitting entry member⟩

/-- A stats map has a wire form that reads back as the map exactly if its measures fit, and
encoding it fails exactly if one of them does not. -/
theorem round_trip_iff_fits (stats : StatsMap) :
    ((∃ bytes, encode stats = .ok bytes ∧ decode bytes = .ok stats) ↔ Fits stats) ∧
      ((∃ fault, encode stats = .error fault) ↔
        lengthLimit < stats.size ∨
          ∃ name ∈ stats.names, lengthLimit < (Utf8.encode name).length) := by
  constructor
  · constructor
    · intro ⟨bytes, written, _⟩
      exact fits_of_encode written
    · exact Fits.decodes
  · constructor
    · intro ⟨fault, failed⟩
      obtain ⟨exceeds, rfl | ⟨name, member, rfl⟩⟩ := exceeds_of_encode failed
      · exact .inl exceeds
      · exact .inr ⟨name, member, exceeds⟩
    · intro exceeding
      cases written : encode stats with
      | error fault => exact ⟨fault, rfl⟩
      | ok bytes =>
          have fits := fits_of_encode written
          cases exceeding with
          | inl count => exact absurd fits.entryCount (Nat.not_le.mpr count)
          | inr long =>
              obtain ⟨name, member, exceeds⟩ := long
              exact absurd (fits.nameLengths name member) (Nat.not_le.mpr exceeds)

end PeerMesh.Stats
