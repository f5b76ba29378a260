import Mathlib.Data.List.Infix
import PeerMesh.Proofs.Hello.Progress
import PeerMesh.Proofs.Text.Blank
import PeerMesh.Proofs.Text.Utf8

/-!
# The line of a node as it arrives

The line that a node sends gives its identifier back, in whatever chunks its bytes arrive: every
front part of the line is incomplete, and the whole line is a greeting with the identifier. This
takes an identifier that survives trimming, has no line feed, and fits the limit.
-/

set_option autoImplicit false

namespace PeerMesh.Hello

/-- An identifier that a hello line can carry. -/
structure Sayable (identifier : String) : Prop where
  filled : identifier.toList ≠ []
  trimmed : Text.trim identifier.toList = identifier.toList
  oneLine : '\n' ∉ identifier.toList
  fits : (line identifier).length ≤ lineLimit

theorem afterFront?_append (front rest : List Char) : afterFront? front (front ++ rest) = some rest := by
  induction front with
  | nil => rfl
  | cons character later ih => simpa [afterFront?] using ih

/-- The bytes of a line before its line feed. -/
def content (identifier : String) : Bytes :=
  Utf8.encode (greeting ++ identifier)

theorem line_eq (identifier : String) : line identifier = content identifier ++ [lineFeed] := by
  rw [line, Utf8.encode_append]
  rfl

variable {identifier : String}

theorem lineFeed_not_mem_content (sayable : Sayable identifier) :
    lineFeed ∉ content identifier := by
  rw [content, lineFeed, Utf8.lineFeed_mem_encode, String.toList_append, List.mem_append]
  rintro (inGreeting | inIdentifier)
  · exact absurd inGreeting (by decide)
  · exact sayable.oneLine inIdentifier

/-- After the greeting the blanks at both ends are taken off, and what is left is the identifier. -/
theorem identifier?_greeting (text : List Char) :
    identifier? (Text.trim (greeting.toList ++ text)) =
      if (Text.trim text).isEmpty then none else some (String.ofList (Text.trim text)) := by
  have started : Text.trimStart (greeting.toList ++ text) = greeting.toList ++ text :=
    (Text.trimStart_cons _ _).trans (if_neg (by decide))
  rw [Text.trim, started, Text.trimEnd_append]
  split
  · rename_i blank
    have nothing : Text.trim text = [] := by
      rw [← Text.trimStart_trimEnd, List.isEmpty_iff.mp blank]
      rfl
    rw [nothing]
    decide
  · rw [identifier?, afterFront?_append]
    simp only [Text.trim_trimEnd]

theorem identifier?_content (sayable : Sayable identifier) :
    identifier? (lineText (content identifier)) = some identifier := by
  have text : lineText (content identifier) = Text.trim (greeting.toList ++ identifier.toList) := by
    rw [lineText, content, Utf8.decodeLenient_encode, String.toList_append]
  have filled : ¬ identifier.toList.isEmpty = true := by simpa using sayable.filled
  rw [text, identifier?_greeting, sayable.trimmed, if_neg filled, String.ofList_toList]

/-! ## Front parts of the line -/

theorem beforeLineFeed?_line (sayable : Sayable identifier) :
    beforeLineFeed? (line identifier) = some (content identifier) := by
  rw [line_eq]
  exact beforeLineFeed?_append (lineFeed_not_mem_content sayable) []

/-- A front part of the line with a line feed is the whole line. -/
theorem eq_line_of_lineFeed_mem (sayable : Sayable identifier) {bytes : Bytes}
    (front : bytes <+: line identifier) (member : lineFeed ∈ bytes) : bytes = line identifier := by
  rw [line_eq] at front ⊢
  rcases List.prefix_concat_iff.mp front with whole | shorter
  · exact whole
  · exact absurd (shorter.subset member) (lineFeed_not_mem_content sayable)

theorem line_ne_nil (identifier : String) : line identifier ≠ [] := by
  simp [line_eq]

/-- A proper front part of the line is kept. -/
theorem receive_of_front (sayable : Sayable identifier) {hello : Hello} {slot : Slot}
    {bytes : Bytes} (unheard : (hello.progress slot).heard = false)
    (front : (hello.progress slot).buffer ++ bytes <+: line identifier)
    (proper : (hello.progress slot).buffer ++ bytes ≠ line identifier) :
    (hello.receive slot bytes).2 = .incomplete ∧
      (hello.receive slot bytes).1.progress slot =
        { hello.progress slot with buffer := (hello.progress slot).buffer ++ bytes } := by
  refine receive_of_incomplete unheard ?_ (Nat.le_trans front.length_le sayable.fits)
  intro member
  exact proper (eq_line_of_lineFeed_mem sayable front member)

/-- The whole line greets with the identifier. -/
theorem receive_of_whole (sayable : Sayable identifier) {hello : Hello} {slot : Slot}
    {bytes : Bytes} (unheard : (hello.progress slot).heard = false)
    (whole : (hello.progress slot).buffer ++ bytes = line identifier) :
    (hello.receive slot bytes).2 = .greeted identifier (hello.progress slot).initiated ∧
      (hello.receive slot bytes).1.progress slot = ⟨true, false, []⟩ := by
  have found := beforeLineFeed?_line sayable
  rw [← whole] at found
  have received := receive_of_line unheard found
  rwa [meaning, identifier?_content sayable] at received

/-! ## Line feeds -/

theorem count_lineFeed_line (identifier : String) :
    (line identifier).count lineFeed = (Utf8.encode identifier).count lineFeed + 1 := by
  have unbroken : (Utf8.encode greeting).count lineFeed = 0 := by
    rw [List.count_eq_zero, lineFeed, Utf8.lineFeed_mem_encode]
    decide
  rw [line_eq, content, Utf8.encode_append, List.count_append, List.count_append, unbroken,
    List.count_singleton_self, Nat.zero_add]

theorem count_lineFeed_replicate (identifier : String) (count : Nat) :
    (List.replicate count (line identifier)).flatten.count lineFeed =
      count * ((Utf8.encode identifier).count lineFeed + 1) := by
  induction count with
  | zero => rw [Nat.zero_mul, List.replicate_zero, List.flatten_nil, List.count_nil]
  | succ count ih =>
      rw [List.replicate_succ, List.flatten_cons, List.count_append, ih, count_lineFeed_line,
        Nat.add_one_mul, Nat.add_comm]

/-- Lines of a node are at most one line if there is one of them, and the identifier is on it. -/
theorem count_lineFeed_replicate_le_one_iff {identifier : String} {count : Nat} :
    (List.replicate count (line identifier)).flatten.count lineFeed ≤ 1 ↔
      count = 0 ∨ '\n' ∉ identifier.toList ∧ count ≤ 1 := by
  rw [count_lineFeed_replicate, ← Utf8.lineFeed_mem_encode]
  change _ ↔ count = 0 ∨ lineFeed ∉ Utf8.encode identifier ∧ count ≤ 1
  rw [← List.count_eq_zero]
  match count with
  | 0 => simp
  | 1 => simp
  | more + 2 =>
      refine iff_of_false ?_ (by omega)
      rw [Nat.mul_add, Nat.mul_one]
      omega

end PeerMesh.Hello
