import PeerMesh.Proofs.Text.Utf8

/-!
# The order of texts is that of their bytes

UTF-8 keeps the order: where two texts first differ, the smaller code point has the smaller bytes. A
longer sequence begins with a greater byte, and of two sequences of one length the payload decides,
from its most significant digit on.
-/

set_option autoImplicit false

namespace PeerMesh.Utf8

variable {low high : Nat} {front back : Bytes}

/-- Bytes given as numbers: where two first differ, the smaller one decides. -/
theorem ofNat_cons_lt (small : high < 256) (below : low < high ∨ low = high ∧ front < back) :
    UInt8.ofNat low :: front < UInt8.ofNat high :: back := by
  rw [List.cons_lt_cons_iff]
  cases below with
  | inl below =>
      exact .inl ((UInt8.ofNat_lt_iff_lt (Nat.lt_trans below small) small).mpr below)
  | inr same => exact .inr ⟨congrArg UInt8.ofNat same.1, same.2⟩

/-- The first byte of a sequence carries the most significant digit. -/
theorem lead_cons_lt {unit range mark : Nat} (ascends : low < high) (bound : high / unit < range)
    (room : range + mark ≤ 256) (rest : low / unit = high / unit → front < back) :
    UInt8.ofNat (low / unit % range + mark) :: front <
      UInt8.ofNat (high / unit % range + mark) :: back := by
  have ordered : low / unit ≤ high / unit := Nat.div_le_div_right (Nat.le_of_lt ascends)
  rw [Nat.mod_eq_of_lt bound, Nat.mod_eq_of_lt (Nat.lt_of_le_of_lt ordered bound)]
  refine ofNat_cons_lt (by omega) ?_
  rcases Nat.lt_or_eq_of_le ordered with below | same
  · exact .inl (by omega)
  · exact .inr ⟨by rw [same], rest same⟩

/-- A byte after the first one carries a digit to the base of 64. It matters if all digits before it
are the same. -/
theorem payload_cons_lt {unit : Nat} (ascends : low < high)
    (same : low / (unit * 64) = high / (unit * 64))
    (rest : low / unit = high / unit → front < back) :
    UInt8.ofNat (low / unit % 64 + 128) :: front <
      UInt8.ofNat (high / unit % 64 + 128) :: back := by
  have ordered : low / unit ≤ high / unit := Nat.div_le_div_right (Nat.le_of_lt ascends)
  rw [← Nat.div_div_eq_div_mul, ← Nat.div_div_eq_div_mul] at same
  refine ofNat_cons_lt (by omega) ?_
  rcases Nat.lt_or_eq_of_le ordered with below | equal
  · exact .inl (by omega)
  · exact .inr ⟨by rw [equal], rest equal⟩

theorem last_cons_lt (ascends : low < high) (same : low / 64 = high / 64) :
    UInt8.ofNat (low % 64 + 128) :: front < UInt8.ofNat (high % 64 + 128) :: back :=
  ofNat_cons_lt (by omega) (.inl (by omega))

/-- Of two characters the smaller one has the smaller bytes, whatever follows them. -/
theorem encodeChar_append_lt {first second : Char} (below : first < second) (front back : Bytes) :
    String.utf8EncodeChar first ++ front < String.utf8EncodeChar second ++ back := by
  have ascends : first.val.toNat < second.val.toNat := UInt32.lt_iff_toNat_lt.mp below
  have bound : second.val.toNat < 0x110000 := by
    rcases second.valid with low | high
    · exact Nat.lt_trans low (by decide)
    · exact high.2
  unfold String.utf8EncodeChar
  generalize first.val.toNat = low at ascends
  generalize second.val.toNat = high at ascends bound
  -- a longer sequence begins with a greater byte
  have longer : ∀ {lead greater : Nat} {front back : Bytes}, greater < 256 → lead < greater →
      UInt8.ofNat lead :: front < UInt8.ofNat greater :: back :=
    fun small below => ofNat_cons_lt small (.inl below)
  dsimp only
  split
  · split
    · exact longer (by omega) ascends
    · split
      · exact longer (by omega) (by omega)
      · split
        · exact longer (by omega) (by omega)
        · exact longer (by omega) (by omega)
  · rw [if_neg (by omega : ¬ high ≤ 127)]
    split
    · split
      · exact lead_cons_lt ascends (by omega) (by omega) fun same => last_cons_lt ascends same
      · split
        · exact longer (by omega) (by omega)
        · exact longer (by omega) (by omega)
    · rw [if_neg (by omega : ¬ high ≤ 2047)]
      split
      · split
        · exact lead_cons_lt ascends (by omega) (by omega) fun same =>
            payload_cons_lt ascends same fun same => last_cons_lt ascends same
        · exact longer (by omega) (by omega)
      · rw [if_neg (by omega : ¬ high ≤ 65535)]
        exact lead_cons_lt ascends (by omega) (by omega) fun same =>
          payload_cons_lt ascends same fun same =>
            payload_cons_lt ascends same fun same => last_cons_lt ascends same

/-- Of two texts the smaller one has the smaller bytes. -/
theorem encode_lt {first second : String} (below : first < second) :
    encode first < encode second := by
  have ordered : first.toList < second.toList := String.lt_iff.mp below
  unfold encode
  generalize first.toList = front at ordered
  generalize second.toList = back at ordered
  induction ordered with
  | @nil character rest =>
      rw [List.flatMap_nil, List.flatMap_cons]
      cases bytes : String.utf8EncodeChar character with
      | nil => exact absurd bytes String.utf8EncodeChar_ne_nil
      | cons byte others => exact .nil
  | rel smaller =>
      rw [List.flatMap_cons, List.flatMap_cons]
      exact encodeChar_append_lt smaller _ _
  | cons _ ih =>
      rw [List.flatMap_cons, List.flatMap_cons]
      exact List.append_left_lt ih

end PeerMesh.Utf8
