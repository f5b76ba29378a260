import Mathlib.Data.List.Infix
import PeerMesh.Proofs.Outcome
import PeerMesh.Stats

/-!
# Where a stats map ends

A stats map is read from the front, and each part of it ends where the part itself says. So what has
been read stays as it is when more bytes follow, and so does every fault but the want of bytes. A
byte string that can be read as a whole therefore cannot be read without its last bytes, for want of
these, nor with bytes behind it, which are left over.
-/

set_option autoImplicit false

namespace PeerMesh.Stats

/-- Whether a fault is the want of bytes, which more bytes may mend. -/
def DecodeFault.isShortage : DecodeFault → Bool
  | .truncatedMeasure _ | .shortName _ _ | .truncatedValue => true
  | .negativeMeasure _ _ | .malformedName _ | .trailing _ => false

/-! ## Reading from the front -/

/-- Bytes that follow are left alone: they come after what is left over, and change no fault but the
want of bytes. -/
structure Sequential {Value : Type} (read : Bytes → Except DecodeFault (Value × Bytes)) : Prop where
  taken : ∀ {bytes left value}, read bytes = .ok (value, left) →
    ∀ rest, read (bytes ++ rest) = .ok (value, left ++ rest)
  refused : ∀ {bytes fault}, read bytes = .error fault → fault.isShortage = false →
    ∀ rest, read (bytes ++ rest) = .error fault

/-- One reading after the other, where the second may go by what the first has read. -/
theorem Sequential.bind {First Second : Type}
    {read : Bytes → Except DecodeFault (First × Bytes)}
    {next : First → Bytes → Except DecodeFault (Second × Bytes)}
    (first : Sequential read) (second : ∀ value, Sequential (next value)) :
    Sequential fun bytes => (read bytes).bind fun found => next found.1 found.2 where
  taken := by
    intro bytes left value success rest
    obtain ⟨⟨found, between⟩, firstRead, secondRead⟩ := bind_eq_ok success
    rw [first.taken firstRead rest]
    exact (second found).taken secondRead rest
  refused := by
    intro bytes fault failure lasting rest
    cases firstRead : read bytes with
    | error earlier =>
        rw [firstRead] at failure
        cases failure
        rw [first.refused firstRead lasting rest]
        rfl
    | ok found =>
        rw [firstRead] at failure
        rw [first.taken firstRead rest]
        exact (second found.1).refused failure lasting rest

/-- What is made of the value that was read does not matter. -/
theorem Sequential.map {First Second : Type} {read : Bytes → Except DecodeFault (First × Bytes)}
    (sequential : Sequential read) (change : First → Second) :
    Sequential fun bytes => (read bytes).map fun found => (change found.1, found.2) where
  taken := by
    intro bytes left value success rest
    obtain ⟨⟨found, after⟩, firstRead, same⟩ := map_eq_ok success
    cases same
    rw [sequential.taken firstRead rest]
    rfl
  refused := by
    intro bytes fault failure lasting rest
    cases firstRead : read bytes with
    | ok found =>
        rw [firstRead] at failure
        cases failure
    | error earlier =>
        rw [firstRead] at failure
        cases failure
        rw [sequential.refused firstRead lasting rest]
        rfl

/-! ## Words and measures -/

theorem takeWord_append {bytes left : Bytes} {word : UInt32}
    (found : takeWord bytes = some (word, left)) (rest : Bytes) :
    takeWord (bytes ++ rest) = some (word, left ++ rest) := by
  unfold takeWord at found
  split at found
  · cases found
    rfl
  · cases found

theorem sequential_takeMeasure (measure : Measure) : Sequential (takeMeasure measure) where
  taken := by
    intro bytes left value success rest
    unfold takeMeasure at success
    split at success
    · cases success
    · rename_i word after found
      split at success
      · cases success
      · rename_i nonneg
        cases success
        rw [takeMeasure, takeWord_append found rest]
        exact if_neg nonneg
  refused := by
    intro bytes fault failure lasting rest
    unfold takeMeasure at failure
    split at failure
    · cases failure
      cases lasting
    · rename_i word after found
      split at failure
      · rename_i negative
        cases failure
        rw [takeMeasure, takeWord_append found rest]
        exact if_pos negative
      · cases failure

/-! ## Entries -/

/-- Reads a name of the given length. -/
def takeName (length : Nat) (bytes : Bytes) : Except DecodeFault (String × Bytes) :=
  if bytes.length < length then .error (.shortName length bytes.length)
  else ((Utf8.decode (bytes.take length)).mapError .malformedName).map fun name =>
    (name, bytes.drop length)

def takeValue (bytes : Bytes) : Except DecodeFault (Int32 × Bytes) :=
  match takeWord bytes with
  | none => .error .truncatedValue
  | some (word, rest) => .ok (word.toInt32, rest)

/-- An entry is read in three parts. -/
theorem takeEntry_eq (bytes : Bytes) :
    takeEntry bytes = (takeMeasure .nameLength bytes).bind fun length =>
      (takeName length.1 length.2).bind fun name =>
        (takeValue name.2).map fun value => ((name.1, value.1), value.2) := by
  rw [takeEntry]
  refine bind_congr fun ⟨length, named⟩ => ?_
  by_cases short : named.length < length
  · simp only [takeName, if_pos short]
    rfl
  · simp only [takeName, if_neg short]
    cases Utf8.decode (named.take length) with
    | error fault => rfl
    | ok name =>
        change _ = (takeValue (named.drop length)).map _
        rw [takeValue]
        cases takeWord (named.drop length) <;> rfl

theorem sequential_takeName (length : Nat) : Sequential (takeName length) where
  taken := by
    intro bytes left name success rest
    unfold takeName at success
    split at success
    · cases success
    · rename_i enough
      obtain ⟨found, decoded, same⟩ := map_eq_ok success
      cases same
      have within : length ≤ bytes.length := Nat.not_lt.mp enough
      have longEnough : ¬ (bytes ++ rest).length < length := by
        rw [List.length_append]
        omega
      rw [takeName, if_neg longEnough, List.take_append_of_le_length within, decoded,
        List.drop_append_of_le_length within]
      rfl
  refused := by
    intro bytes fault failure lasting rest
    unfold takeName at failure
    split at failure
    · cases failure
      cases lasting
    · rename_i enough
      have within : length ≤ bytes.length := Nat.not_lt.mp enough
      have longEnough : ¬ (bytes ++ rest).length < length := by
        rw [List.length_append]
        omega
      rw [takeName, if_neg longEnough, List.take_append_of_le_length within]
      cases decoded : Utf8.decode (bytes.take length) with
      | ok name =>
          rw [decoded] at failure
          cases failure
      | error malformed =>
          rw [decoded] at failure
          cases failure
          rfl

theorem sequential_takeValue : Sequential takeValue where
  taken := by
    intro bytes left value success rest
    unfold takeValue at success
    split at success
    · cases success
    · rename_i word after found
      cases success
      rw [takeValue, takeWord_append found rest]
  refused := by
    intro bytes fault failure lasting rest
    unfold takeValue at failure
    split at failure
    · cases failure
      cases lasting
    · cases failure

theorem sequential_takeEntry : Sequential takeEntry := by
  have inParts : Sequential fun bytes => (takeMeasure .nameLength bytes).bind fun length =>
      (takeName length.1 length.2).bind fun name =>
        (takeValue name.2).map fun value => ((name.1, value.1), value.2) :=
    (sequential_takeMeasure .nameLength).bind fun length =>
      (sequential_takeName length).bind fun name => sequential_takeValue.map (Prod.mk name)
  rwa [← funext takeEntry_eq] at inParts

theorem sequential_takeEntries (count : Nat) : Sequential (takeEntries count) := by
  induction count with
  | zero =>
      constructor
      · intro bytes left value success rest
        cases success
        rfl
      · intro bytes fault failure
        cases failure
  | succ count ih =>
      exact sequential_takeEntry.bind fun entry => ih.map (List.cons entry)

/-! ## Whole stats maps -/

/-- Reads the number of entries, and as many entries. -/
def takeCounted (bytes : Bytes) : Except DecodeFault (List (String × Int32) × Bytes) :=
  (takeMeasure .entryCount bytes).bind fun count => takeEntries count.1 count.2

theorem sequential_takeCounted : Sequential takeCounted :=
  (sequential_takeMeasure .entryCount).bind sequential_takeEntries

theorem decode_of_takeCounted {bytes left : Bytes} {entries : List (String × Int32)}
    (counted : takeCounted bytes = .ok (entries, left)) :
    decode bytes =
      if left.isEmpty then .ok (NameMap.ofList entries) else .error (.trailing left.length) := by
  obtain ⟨⟨count, after⟩, measured, taken⟩ := bind_eq_ok counted
  rw [decode, measured]
  simp only [bind, Except.bind]
  rw [taken]
  rfl

theorem decode_of_takeCounted_error {bytes : Bytes} {fault : DecodeFault}
    (failed : takeCounted bytes = .error fault) : decode bytes = .error fault := by
  unfold takeCounted at failed
  rw [decode]
  cases measured : takeMeasure .entryCount bytes with
  | error fault =>
      rw [measured] at failed
      cases failed
      rfl
  | ok count =>
      rw [measured] at failed
      have taken : takeEntries count.1 count.2 = .error fault := failed
      simp only [bind, Except.bind]
      rw [taken]

theorem exists_takeCounted {bytes : Bytes} {stats : StatsMap} (read : decode bytes = .ok stats) :
    ∃ entries, takeCounted bytes = .ok (entries, []) := by
  cases counted : takeCounted bytes with
  | error fault =>
      rw [decode_of_takeCounted_error counted] at read
      cases read
  | ok found =>
      obtain ⟨entries, left⟩ := found
      cases left with
      | nil => exact ⟨entries, rfl⟩
      | cons byte others =>
          rw [decode_of_takeCounted counted] at read
          cases read

/-- A byte string that can be read cannot be read without its last bytes, because bytes are wanting,
nor with more bytes behind it, because these are left over. -/
theorem decode_self_delimiting {bytes : Bytes} {stats : StatsMap}
    (read : decode bytes = .ok stats) :
    (∀ front, front <+: bytes → front ≠ bytes →
      ∃ fault, decode front = .error fault ∧ fault.isShortage = true) ∧
    ∀ rest, rest ≠ [] → decode (bytes ++ rest) = .error (.trailing rest.length) := by
  obtain ⟨entries, counted⟩ := exists_takeCounted read
  constructor
  · rintro front ⟨rest, rfl⟩ proper
    have cut : rest ≠ [] := by
      rintro rfl
      exact proper (List.append_nil front).symm
    cases early : takeCounted front with
    | ok found =>
        have whole := sequential_takeCounted.taken early rest
        rw [counted] at whole
        have nothing : [] = found.2 ++ rest := congrArg Prod.snd (Except.ok.inj whole)
        exact absurd (List.append_eq_nil_iff.mp nothing.symm).2 cut
    | error fault =>
        refine ⟨fault, decode_of_takeCounted_error early, ?_⟩
        by_contra lasting
        have still := sequential_takeCounted.refused early (Bool.eq_false_iff.mpr lasting) rest
        rw [counted] at still
        cases still
  · intro rest more
    have beyond := sequential_takeCounted.taken counted rest
    rw [List.nil_append] at beyond
    rw [decode_of_takeCounted beyond, if_neg]
    rwa [List.isEmpty_iff]

/-- Three entries, the last under the name of the first, and not in the order of names. -/
def repeatedName : Bytes :=
  [0, 0, 0, 3, 0, 0, 0, 1, 98, 0, 0, 0, 1, 0, 0, 0, 1, 97, 255, 255, 255, 254,
    0, 0, 0, 1, 98, 0, 0, 0, 3]

theorem decode_self_delimiting_repeatedName :
    decode repeatedName = .ok (.ofList [("a", -2), ("b", 3)]) ∧
      (∃ fault, decode (repeatedName.take 29) = .error fault ∧ fault.isShortage = true) ∧
      decode (repeatedName ++ [0]) = .error (.trailing 1) := by
  have read : decode repeatedName = .ok (.ofList [("a", -2), ("b", 3)]) := by decide +kernel
  obtain ⟨shorter, longer⟩ := decode_self_delimiting read
  exact ⟨read, shorter _ (List.take_prefix 29 repeatedName) (by decide), longer [0] (by decide)⟩

end PeerMesh.Stats
