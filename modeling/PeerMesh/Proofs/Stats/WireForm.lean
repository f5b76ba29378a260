import PeerMesh.Proofs.NameMap
import PeerMesh.Proofs.Outcome
import PeerMesh.Proofs.Text.Strict
import PeerMesh.Stats

/-!
# What can be read as a stats map

The wire form of a list of entries is said here without a reader. A byte string can be read exactly
if it is the wire form of some entries, and what is read then is the map of these entries.

A reader may also take bytes without looking whether they are there. Written in that way, with the
same faults, reading is never cut short by the end of the bytes, and has the same outcome.
-/

set_option autoImplicit false

namespace PeerMesh.Stats

/-! ## The wire form of entries -/

/-- A number with a sign, in four bytes, the most significant first. -/
inductive IsWord : Int32 → Bytes → Prop where
  | ofBytes (first second third fourth : UInt8) :
      IsWord
        (Int32.ofNat (first.toNat * 0x1000000 + second.toNat * 0x10000 + third.toNat * 0x100 +
          fourth.toNat))
        [first, second, third, fourth]

/-- A number that is not negative, as a word. -/
inductive IsMeasure : Nat → Bytes → Prop where
  | ofWord {value : Nat} {word : Int32} {bytes : Bytes} :
      IsWord word bytes → word.toInt = value → IsMeasure value bytes

inductive IsEntry : String × Int32 → Bytes → Prop where
  | mk {name : String} {value : Int32} {lengthBytes valueBytes : Bytes} :
      IsMeasure (Utf8.encode name).length lengthBytes → IsWord value valueBytes →
      IsEntry (name, value) (lengthBytes ++ Utf8.encode name ++ valueBytes)

inductive AreEntries : List (String × Int32) → Bytes → Prop where
  | nil : AreEntries [] []
  | cons {entry : String × Int32} {entries : List (String × Int32)} {front rest : Bytes} :
      IsEntry entry front → AreEntries entries rest → AreEntries (entry :: entries) (front ++ rest)

/-- The wire form of a list of entries: how many there are, and one after the other. -/
inductive IsWireForm : List (String × Int32) → Bytes → Prop where
  | mk {entries : List (String × Int32)} {countBytes entriesBytes : Bytes} :
      IsMeasure entries.length countBytes → AreEntries entries entriesBytes →
      IsWireForm entries (countBytes ++ entriesBytes)

/-! ## What the reader takes -/

theorem join_eq_ofNat (first second third fourth : UInt8) :
    first.toUInt32 <<< 24 ||| second.toUInt32 <<< 16 ||| third.toUInt32 <<< 8 |||
        fourth.toUInt32 =
      UInt32.ofNat (first.toNat * 0x1000000 + second.toNat * 0x10000 + third.toNat * 0x100 +
        fourth.toNat) := by
  have firstSmall := first.toNat_lt
  have secondSmall := second.toNat_lt
  have thirdSmall := third.toNat_lt
  have fourthSmall := fourth.toNat_lt
  apply UInt32.toNat_inj.mp
  simp only [UInt32.toNat_or, UInt32.toNat_shiftLeft, UInt8.toNat_toUInt32, UInt32.toNat_ofNat',
    UInt32.reduceToNat, Nat.reduceMod, Nat.or_assoc]
  rw [Nat.mod_eq_of_lt (by rw [Nat.shiftLeft_eq]; omega),
    Nat.mod_eq_of_lt (by rw [Nat.shiftLeft_eq]; omega),
    Nat.mod_eq_of_lt (by rw [Nat.shiftLeft_eq]; omega), Nat.mod_eq_of_lt (by omega)]
  -- No byte reaches into the place of another, so that they are joined by adding them.
  have two : third.toNat <<< 8 ||| fourth.toNat = third.toNat * 0x100 + fourth.toNat := by
    rw [← Nat.shiftLeft_add_eq_or_of_lt fourthSmall, Nat.shiftLeft_eq]
  have three : second.toNat <<< 16 ||| (third.toNat * 0x100 + fourth.toNat) =
      second.toNat * 0x10000 + (third.toNat * 0x100 + fourth.toNat) := by
    rw [← Nat.shiftLeft_add_eq_or_of_lt (by omega), Nat.shiftLeft_eq]
  rw [two, three, ← Nat.shiftLeft_add_eq_or_of_lt (by omega), Nat.shiftLeft_eq]
  omega

theorem takeWord_eq_some_iff {bytes rest : Bytes} {word : UInt32} :
    takeWord bytes = some (word, rest) ↔
      ∃ front, IsWord word.toInt32 front ∧ bytes = front ++ rest := by
  constructor
  · intro taken
    unfold takeWord at taken
    split at taken
    · rename_i first second third fourth later
      cases taken
      refine ⟨[first, second, third, fourth], ?_, rfl⟩
      rw [join_eq_ofNat, UInt32.toInt32_ofNat']
      exact .ofBytes first second third fourth
    · cases taken
  · intro ⟨front, isWord, split⟩
    rw [split]
    generalize signed : word.toInt32 = number at isWord
    cases isWord with
    | ofBytes first second third fourth =>
        rw [← UInt32.toInt32_ofNat', ← join_eq_ofNat] at signed
        have same := congrArg Int32.toUInt32 signed
        rw [UInt32.toUInt32_toInt32, UInt32.toUInt32_toInt32] at same
        rw [same]
        rfl

theorem toInt_toInt32_of_nonneg {word : UInt32} (nonneg : ¬ word.toInt32 < 0) :
    word.toInt32.toInt = word.toNat := by
  rw [Int32.lt_iff_toInt_lt] at nonneg
  change word.toBitVec.toInt = word.toBitVec.toNat
  change ¬ word.toBitVec.toInt < 0 at nonneg
  rw [BitVec.toInt_eq_toNat_cond] at nonneg ⊢
  split
  · rfl
  · rename_i high
    rw [if_neg high] at nonneg
    have := word.toBitVec.isLt
    omega

theorem takeMeasure_eq_ok_iff {measure : Measure} {bytes rest : Bytes} {value : Nat} :
    takeMeasure measure bytes = .ok (value, rest) ↔
      ∃ front, IsMeasure value front ∧ bytes = front ++ rest := by
  constructor
  · intro taken
    unfold takeMeasure at taken
    split at taken
    · cases taken
    · rename_i word later found
      obtain ⟨front, isWord, split⟩ := takeWord_eq_some_iff.mp found
      split at taken
      · cases taken
      · rename_i nonneg
        cases taken
        exact ⟨front, .ofWord isWord (toInt_toInt32_of_nonneg nonneg), split⟩
  · intro ⟨front, isMeasure, split⟩
    cases isMeasure with
    | @ofWord word _ isWord same =>
        have found : takeWord bytes = some (word.toUInt32, rest) :=
          takeWord_eq_some_iff.mpr ⟨front, isWord, split⟩
        have nonneg : ¬ word < 0 := by
          rw [Int32.lt_iff_toInt_lt, same]
          exact Int.not_lt.mpr (Int.natCast_nonneg value)
        have read : word.toInt = word.toUInt32.toNat := toInt_toInt32_of_nonneg nonneg
        have number : word.toUInt32.toNat = value := Int.ofNat_inj.mp (read.symm.trans same)
        simp only [takeMeasure, found, Int32.toInt32_toUInt32, if_neg nonneg, number]

theorem takeEntry_eq_ok_iff {bytes rest : Bytes} {entry : String × Int32} :
    takeEntry bytes = .ok (entry, rest) ↔
      ∃ front, IsEntry entry front ∧ bytes = front ++ rest := by
  constructor
  · intro taken
    obtain ⟨⟨length, named⟩, measured, taken⟩ := bind_eq_ok taken
    obtain ⟨lengthBytes, isLength, split⟩ := takeMeasure_eq_ok_iff.mp measured
    dsimp only at taken
    split at taken
    · cases taken
    · rename_i enough
      obtain ⟨name, decoded, taken⟩ := bind_eq_ok taken
      have written : named.take length = Utf8.encode name := by
        cases read : Utf8.decode (named.take length) with
        | error fault =>
            rw [read] at decoded
            cases decoded
        | ok found =>
            rw [read] at decoded
            cases decoded
            exact Utf8.decode_eq_ok_iff.mp read
      have whole : (Utf8.encode name).length = length := by
        rw [← written, List.length_take]
        omega
      cases valued : takeWord (named.drop length) with
      | none =>
          rw [valued] at taken
          cases taken
      | some found =>
          rw [valued] at taken
          cases taken
          obtain ⟨valueBytes, isValue, after⟩ := takeWord_eq_some_iff.mp valued
          refine ⟨lengthBytes ++ Utf8.encode name ++ valueBytes, .mk ?_ isValue, ?_⟩
          · rw [whole]
            exact isLength
          · rw [split, List.append_assoc, List.append_assoc, ← after, ← written,
              List.take_append_drop]
  · intro ⟨front, isEntry, split⟩
    cases isEntry with
    | @mk name value lengthBytes valueBytes isLength isValue =>
        rw [List.append_assoc, List.append_assoc] at split
        have measured : takeMeasure .nameLength bytes =
            .ok ((Utf8.encode name).length, Utf8.encode name ++ (valueBytes ++ rest)) :=
          takeMeasure_eq_ok_iff.mpr ⟨lengthBytes, isLength, split⟩
        have long : ¬ (Utf8.encode name ++ (valueBytes ++ rest)).length <
            (Utf8.encode name).length := by
          rw [List.length_append]
          omega
        have valued : takeWord (valueBytes ++ rest) = some (value.toUInt32, rest) :=
          takeWord_eq_some_iff.mpr ⟨valueBytes, isValue, rfl⟩
        rw [takeEntry, measured]
        simp only [bind, Except.bind, if_neg long, List.take_left, List.drop_left,
          Utf8.decode_encode, Except.mapError, valued]
        rfl

theorem takeEntries_eq_ok_iff {count : Nat} {bytes rest : Bytes}
    {entries : List (String × Int32)} :
    takeEntries count bytes = .ok (entries, rest) ↔
      entries.length = count ∧ ∃ front, AreEntries entries front ∧ bytes = front ++ rest := by
  induction count generalizing bytes entries with
  | zero =>
      constructor
      · intro taken
        cases taken
        exact ⟨rfl, [], .nil, rfl⟩
      · intro ⟨counted, front, areEntries, split⟩
        cases areEntries with
        | nil =>
            rw [split]
            rfl
        | cons => cases counted
  | succ count ih =>
      constructor
      · intro taken
        obtain ⟨⟨entry, afterFirst⟩, first, taken⟩ := bind_eq_ok taken
        obtain ⟨⟨others, afterOthers⟩, later, taken⟩ := bind_eq_ok taken
        cases taken
        obtain ⟨front, isEntry, split⟩ := takeEntry_eq_ok_iff.mp first
        obtain ⟨counted, laterFront, areEntries, laterSplit⟩ := ih.mp later
        refine ⟨congrArg Nat.succ counted, front ++ laterFront, .cons isEntry areEntries, ?_⟩
        rw [split, laterSplit, List.append_assoc]
      · intro ⟨counted, front, areEntries, split⟩
        cases areEntries with
        | nil => cases counted
        | @cons entry others front laterFront isEntry areOthers =>
            rw [List.append_assoc] at split
            have first := takeEntry_eq_ok_iff.mpr ⟨front, isEntry, split⟩
            have later := ih.mpr ⟨Nat.succ.inj counted, laterFront, areOthers, rfl⟩
            rw [takeEntries, first]
            simp only [bind, Except.bind]
            rw [later]
            rfl

theorem decode_eq_ok_iff {bytes : Bytes} {stats : StatsMap} :
    decode bytes = .ok stats ↔
      ∃ entries, IsWireForm entries bytes ∧ stats = NameMap.ofList entries := by
  constructor
  · intro read
    obtain ⟨⟨count, afterCount⟩, counted, read⟩ := bind_eq_ok read
    obtain ⟨⟨entries, left⟩, taken, read⟩ := bind_eq_ok read
    obtain ⟨countBytes, isCount, split⟩ := takeMeasure_eq_ok_iff.mp counted
    obtain ⟨rfl, front, areEntries, entriesSplit⟩ := takeEntries_eq_ok_iff.mp taken
    cases left with
    | nil =>
        cases read
        refine ⟨entries, ?_, rfl⟩
        rw [split, entriesSplit, List.append_nil]
        exact .mk isCount areEntries
    | cons byte others => cases read
  · intro ⟨entries, isWireForm, same⟩
    cases isWireForm with
    | @mk countBytes entriesBytes isCount areEntries =>
        have counted : takeMeasure .entryCount (countBytes ++ entriesBytes) =
            .ok (entries.length, entriesBytes) :=
          takeMeasure_eq_ok_iff.mpr ⟨countBytes, isCount, rfl⟩
        have taken := takeEntries_eq_ok_iff.mpr
          ⟨rfl, entriesBytes, areEntries, (List.append_nil entriesBytes).symm⟩
        rw [decode, counted]
        simp only [bind, Except.bind]
        rw [taken, same]
        rfl

/-! ## Reading without looking -/

/-- What comes of reading without looking: nothing at all once bytes are taken that are not there. -/
abbrev Blind (Value : Type) := ExceptT DecodeFault Option Value

namespace Blind

/-- Takes bytes from the front, whether they are there or not. -/
def take (count : Nat) (bytes : Bytes) : Blind (Bytes × Bytes) :=
  ExceptT.lift (if count ≤ bytes.length then some (bytes.take count, bytes.drop count) else none)

/-- The number that bytes make up, the most significant first. -/
def joined (bytes : Bytes) : UInt32 :=
  UInt32.ofNat (bytes.foldl (fun total byte => total * 0x100 + byte.toNat) 0)

def word (truncated : DecodeFault) (bytes : Bytes) : Blind (UInt32 × Bytes) := do
  if bytes.length < 4 then throw truncated
  let (taken, rest) ← take 4 bytes
  return (joined taken, rest)

def measure (measure : Measure) (bytes : Bytes) : Blind (Nat × Bytes) := do
  let (word, rest) ← word (.truncatedMeasure measure) bytes
  if word.toInt32 < 0 then throw (.negativeMeasure measure word.toInt32)
  return (word.toNat, rest)

def entry (bytes : Bytes) : Blind ((String × Int32) × Bytes) := do
  let (length, bytes) ← measure .nameLength bytes
  if bytes.length < length then throw (.shortName length bytes.length)
  let (taken, rest) ← take length bytes
  let name ← ExceptT.mk (some ((Utf8.decode taken).mapError .malformedName))
  let (value, rest) ← word .truncatedValue rest
  return ((name, value.toInt32), rest)

def entries : (count : Nat) → Bytes → Blind (List (String × Int32) × Bytes)
  | 0, bytes => return ([], bytes)
  | count + 1, bytes => do
    let (first, bytes) ← entry bytes
    let (later, bytes) ← entries count bytes
    return (first :: later, bytes)

def decode (bytes : Bytes) : Blind StatsMap := do
  let (count, bytes) ← measure .entryCount bytes
  let (entries, bytes) ← entries count bytes
  if bytes.isEmpty then return NameMap.ofList entries
  else throw (.trailing bytes.length)

/-- An outcome that is reached without running past the end. -/
def settled {Value : Type} (outcome : Except DecodeFault Value) : Blind Value :=
  ExceptT.mk (some outcome)

theorem settled_bind {First Second : Type} (outcome : Except DecodeFault First)
    (next : First → Except DecodeFault Second) :
    settled (outcome >>= next) = settled outcome >>= fun value => settled (next value) := by
  cases outcome <;> rfl

theorem take_of_le {count : Nat} {bytes : Bytes} (there : count ≤ bytes.length) :
    take count bytes = settled (.ok (bytes.take count, bytes.drop count)) := by
  rw [take, if_pos there]
  rfl

theorem joined_four (first second third fourth : UInt8) :
    joined [first, second, third, fourth] =
      first.toUInt32 <<< 24 ||| second.toUInt32 <<< 16 ||| third.toUInt32 <<< 8 |||
        fourth.toUInt32 := by
  rw [join_eq_ofNat, joined]
  apply congrArg UInt32.ofNat
  simp only [List.foldl_cons, List.foldl_nil]
  omega

theorem word_eq (truncated : DecodeFault) (bytes : Bytes) :
    word truncated bytes = settled ((takeWord bytes).elim (.error truncated) .ok) := by
  match bytes with
  | [] | [_] | [_, _] | [_, _, _] => rfl
  | first :: second :: third :: fourth :: rest =>
      have there : 4 ≤ (first :: second :: third :: fourth :: rest).length := by simp
      rw [word, if_neg (Nat.not_lt.mpr there), take_of_le there, takeWord, ← joined_four]
      rfl

theorem measure_eq (kind : Measure) (bytes : Bytes) :
    measure kind bytes = settled (takeMeasure kind bytes) := by
  rw [measure, word_eq, takeMeasure]
  cases takeWord bytes with
  | none => rfl
  | some found =>
      by_cases negative : found.1.toInt32 < 0
      · exact (if_pos negative).trans (congrArg settled (if_pos negative).symm)
      · exact (if_neg negative).trans (congrArg settled (if_neg negative).symm)

theorem entry_eq (bytes : Bytes) : entry bytes = settled (takeEntry bytes) := by
  rw [entry, measure_eq, takeEntry, settled_bind]
  apply bind_congr
  intro ⟨length, named⟩
  by_cases short : named.length < length
  · simp only [if_pos short]
    rfl
  · simp only [if_neg short, take_of_le (Nat.not_lt.mp short)]
    change settled ((Utf8.decode (named.take length)).mapError .malformedName) >>= _ = _
    rw [settled_bind]
    apply bind_congr
    intro name
    change word .truncatedValue (named.drop length) >>= _ = _
    rw [word_eq]
    cases takeWord (named.drop length) <;> rfl

theorem entries_eq (count : Nat) (bytes : Bytes) :
    entries count bytes = settled (takeEntries count bytes) := by
  induction count generalizing bytes with
  | zero => rfl
  | succ count ih =>
      rw [entries, entry_eq, takeEntries, settled_bind]
      apply bind_congr
      intro ⟨first, afterFirst⟩
      dsimp only
      rw [ih, settled_bind]
      rfl

/-- Every byte is there when it is taken, and reading has the outcome that it has with looking. -/
theorem decode_eq (bytes : Bytes) : decode bytes = settled (Stats.decode bytes) := by
  rw [decode, measure_eq, Stats.decode, settled_bind]
  apply bind_congr
  intro ⟨count, afterCount⟩
  dsimp only
  rw [entries_eq, settled_bind]
  apply bind_congr
  intro ⟨entries, left⟩
  cases left <;> rfl

end Blind

/-- A byte string can be read exactly if it is the wire form of some entries, and what is read holds
under each name the value of the last entry that goes under it. Any other byte string is a fault,
and nothing is taken that is not there. -/
theorem decode_accepts_iff_isWireForm (bytes : Bytes) :
    (∀ stats, decode bytes = .ok stats ↔
      ∃ entries, IsWireForm entries bytes ∧
        ∀ name value, stats.get? name = some value ↔ NameMap.LastUnder entries name value) ∧
    ((∃ fault, decode bytes = .error fault) ↔ ¬ ∃ entries, IsWireForm entries bytes) ∧
    (Blind.decode bytes).run = some (decode bytes) := by
  refine ⟨?_, ?_, Blind.decode_eq bytes⟩
  · intro stats
    rw [decode_eq_ok_iff]
    apply exists_congr
    intro entries
    apply and_congr_right
    intro _
    constructor
    · intro same name value
      rw [same]
      exact NameMap.get?_ofList_eq_some_iff
    · intro held
      apply NameMap.ext_get?
      intro name
      apply Option.ext
      intro value
      rw [held, NameMap.get?_ofList_eq_some_iff]
  · constructor
    · intro ⟨fault, failed⟩ ⟨entries, isWireForm⟩
      have read := decode_eq_ok_iff.mpr ⟨entries, isWireForm, rfl⟩
      rw [failed] at read
      cases read
    · intro none
      cases outcome : decode bytes with
      | error fault => exact ⟨fault, rfl⟩
      | ok stats =>
          obtain ⟨entries, isWireForm, -⟩ := decode_eq_ok_iff.mp outcome
          exact absurd ⟨entries, isWireForm⟩ none

end PeerMesh.Stats
