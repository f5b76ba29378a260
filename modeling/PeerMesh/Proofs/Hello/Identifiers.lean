import PeerMesh.Mesh.Start
import PeerMesh.Proofs.Hello.Line

/-!
# Identifiers that get through

Any text may be the identifier of a node. The node puts it into its line as it is; the other side
reads up to the first line feed and takes off the blanks at both ends. So the line names its sender
exactly if the identifier has neither. The port stands between the base and the interface, so it is
the base that may bring a blank at the front, and the interface at the end.
-/

set_option autoImplicit false

namespace PeerMesh.Hello

/-- The identifier that is read off the line of a node, if there is one to read. -/
def heardAs? (identifier : String) : Option String :=
  let name := Text.trim (identifier.toList.takeWhile (· != '\n'))
  if name.isEmpty then none else some (String.ofList name)

theorem beforeLineFeed?_encode {first rest : List Char} (oneLine : '\n' ∉ first) :
    beforeLineFeed? (Utf8.encode (String.ofList (first ++ '\n' :: rest))) =
      some (Utf8.encode (String.ofList first)) := by
  have absent : lineFeed ∉ Utf8.encode (String.ofList first) := by
    rwa [lineFeed, Utf8.lineFeed_mem_encode, String.toList_ofList]
  have split : String.ofList (first ++ '\n' :: rest) =
      String.ofList first ++ "\n" ++ String.ofList rest := by
    rw [← String.toList_inj]
    simp
  rw [split, Utf8.encode_append, Utf8.encode_append, List.append_assoc]
  exact beforeLineFeed?_append absent (Utf8.encode (String.ofList rest))

/-- A text with a line feed after it goes up to its first line feed, and something follows. -/
theorem exists_append_lineFeed (text : List Char) :
    ∃ rest, text ++ ['\n'] = text.takeWhile (· != '\n') ++ '\n' :: rest := by
  induction text with
  | nil => exact ⟨[], rfl⟩
  | cons character later ih =>
      by_cases feed : character = '\n'
      · subst feed
        exact ⟨later ++ ['\n'], rfl⟩
      · obtain ⟨rest, split⟩ := ih
        refine ⟨rest, ?_⟩
        rw [List.takeWhile_cons_of_pos (by simpa using feed), List.cons_append, split,
          List.cons_append]

/-- What the line of a node means, before any other bytes of the connection. -/
theorem meaning_line (identifier : String) (initiated : Bool) :
    ∃ first, beforeLineFeed? (line identifier) = some first ∧
      meaning initiated first =
        match heardAs? identifier with
        | none => .malformed
        | some name => .greeted name initiated := by
  obtain ⟨rest, split⟩ := exists_append_lineFeed identifier.toList
  let first := greeting.toList ++ identifier.toList.takeWhile (· != '\n')
  have oneLine : '\n' ∉ first := by
    rw [List.mem_append]
    rintro (inGreeting | inIdentifier)
    · exact absurd inGreeting (by decide)
    · simpa using List.mem_takeWhile_imp inIdentifier
  have whole : line identifier = Utf8.encode (String.ofList (first ++ '\n' :: rest)) := by
    have text : greeting ++ identifier ++ "\n" = String.ofList (first ++ '\n' :: rest) := by
      rw [← String.toList_inj, @String.toList_ofList (first ++ '\n' :: rest), List.append_assoc,
        ← split, String.toList_append, String.toList_append, List.append_assoc]
      rfl
    rw [line, text]
  refine ⟨Utf8.encode (String.ofList first), ?_, ?_⟩
  · rw [whole]
    exact beforeLineFeed?_encode oneLine
  · rw [meaning, lineText, Utf8.decodeLenient_encode, String.toList_ofList, identifier?_greeting]
    rfl

/-- A line in one piece, as the first bytes of a connection, is a greeting with what is left of the
identifier, or no greeting if nothing is left. -/
theorem receive_line {hello : Hello} {slot : Slot} {initiated : Bool}
    (fresh : hello.progress slot = ⟨false, initiated, []⟩) (identifier : String) :
    (hello.receive slot (line identifier)).2 =
      match heardAs? identifier with
      | none => .malformed
      | some name => .greeted name initiated := by
  obtain ⟨first, found, means⟩ := meaning_line identifier initiated
  have unheard : (hello.progress slot).heard = false := by rw [fresh]
  rw [(receive_of_line unheard (by rwa [fresh])).1, fresh, means]

/-! ## Identifiers that are read as they are -/

/-- The first line of a text without a line feed is the text. -/
theorem takeWhile_lineFeed_eq_self_iff {text : List Char} :
    text.takeWhile (· != '\n') = text ↔ '\n' ∉ text := by
  rw [List.takeWhile_eq_self_iff]
  constructor
  · intro other member
    exact absurd rfl (bne_iff_ne.mp (other '\n' member))
  · rintro absent character member
    rw [bne_iff_ne]
    rintro rfl
    exact absent member

theorem heardAs?_eq_self_iff {identifier : String} (filled : identifier.toList ≠ []) :
    heardAs? identifier = some identifier ↔
      '\n' ∉ identifier.toList ∧ Text.trim identifier.toList = identifier.toList := by
  have front := List.takeWhile_prefix (· != '\n') (l := identifier.toList)
  constructor
  · intro heard
    have same : Text.trim (identifier.toList.takeWhile (· != '\n')) = identifier.toList := by
      rw [heardAs?] at heard
      split at heard
      · cases heard
      · have named := congrArg String.toList (Option.some.inj heard)
        rwa [String.toList_ofList] at named
    have whole : identifier.toList.takeWhile (· != '\n') = identifier.toList := by
      refine front.eq_of_length (Nat.le_antisymm front.length_le ?_)
      have shorter := Text.length_trim_le (identifier.toList.takeWhile (· != '\n'))
      rwa [same] at shorter
    rw [whole] at same
    exact ⟨takeWhile_lineFeed_eq_self_iff.mp whole, same⟩
  · rintro ⟨oneLine, trimmed⟩
    have nonempty : ¬ identifier.toList.isEmpty = true := fun empty =>
      filled (List.isEmpty_iff.mp empty)
    rw [heardAs?, takeWhile_lineFeed_eq_self_iff.mpr oneLine, trimmed, String.ofList_toList]
    exact if_neg nonempty

/-! ## Identifiers of nodes -/

/-- The parts of an identifier do not bring a line feed, or a blank at its ends. -/
structure Legible (base : String) (interface : Option String) : Prop where
  baseOneLine : '\n' ∉ base.toList
  baseShown : ∀ character ∈ base.toList.head?, Text.isBlank character = false
  interfaceOneLine : ∀ name ∈ interface, '\n' ∉ name.toList
  interfaceShown : ∀ name ∈ interface, ∀ character ∈ name.toList.getLast?,
    Text.isBlank character = false

theorem isBlank_of_isDigit {character : Char} (digit : character.isDigit = true) :
    Text.isBlank character = false := by
  simp only [Char.isDigit, ge_iff_le, Bool.and_eq_true, decide_eq_true_eq, UInt32.le_iff_toNat_le]
    at digit
  simp only [Text.isBlank, Text.blankRanges, List.any_cons, List.any_nil, Bool.or_false,
    Bool.or_eq_false_iff, Bool.and_eq_false_iff, decide_eq_false_iff_not]
  have code : character.toNat = character.val.toNat := rfl
  have lowest : '0'.val.toNat = 48 := rfl
  have highest : '9'.val.toNat = 57 := rfl
  omega

/-- The digits of a port. -/
def portText (port : UInt16) : List Char :=
  Nat.toDigits 10 port.toNat

theorem isBlank_of_mem_portText {port : UInt16} {character : Char}
    (member : character ∈ portText port) : Text.isBlank character = false :=
  isBlank_of_isDigit (Nat.isDigit_of_mem_toDigits (by decide) (by decide) member)

theorem lineFeed_not_mem_portText (port : UInt16) : '\n' ∉ portText port := by
  intro member
  have shown := isBlank_of_mem_portText member
  revert shown
  decide

theorem toList_nodeId (base : String) (port : UInt16) (interface : Option String) :
    (Mesh.nodeId base port interface).toList =
      base.toList ++ '-' :: (portText port ++ interface.elim [] fun name => '-' :: name.toList) := by
  cases interface <;> simp [Mesh.nodeId, portText]

section NodeId

variable (base : String) (port : UInt16) (interface : Option String)

theorem lineFeed_not_mem_nodeId_iff :
    '\n' ∉ (Mesh.nodeId base port interface).toList ↔
      '\n' ∉ base.toList ∧ ∀ name ∈ interface, '\n' ∉ name.toList := by
  rw [toList_nodeId]
  cases interface <;> simp [lineFeed_not_mem_portText]

/-- The hyphen stands before the port if the base is empty. -/
theorem trimStart_nodeId_iff :
    Text.trimStart (Mesh.nodeId base port interface).toList =
        (Mesh.nodeId base port interface).toList ↔
      ∀ character ∈ base.toList.head?, Text.isBlank character = false := by
  have hyphen : Text.isBlank '-' = false := by decide
  rw [Text.trimStart_eq_self_iff, toList_nodeId, List.head?_append, List.head?_cons]
  cases base.toList.head? <;> simp [hyphen]

/-- The port comes last without an interface, and the hyphen before an empty one. -/
theorem trimEnd_nodeId_iff :
    Text.trimEnd (Mesh.nodeId base port interface).toList =
        (Mesh.nodeId base port interface).toList ↔
      ∀ name ∈ interface, ∀ character ∈ name.toList.getLast?, Text.isBlank character = false := by
  have hyphen : Text.isBlank '-' = false := by decide
  rw [Text.trimEnd_eq_self_iff, toList_nodeId, List.getLast?_append, List.getLast?_cons,
    Option.some_or, List.getLast?_append]
  cases interface with
  | none =>
      simp only [Option.elim, List.getLast?_nil, Option.none_or, Option.mem_def, Option.some.injEq]
      refine iff_of_true ?_ nofun
      rintro character rfl
      cases last : (portText port).getLast? with
      | none => exact hyphen
      | some digit => exact isBlank_of_mem_portText (List.mem_of_getLast? last)
  | some name =>
      simp only [Option.elim, List.getLast?_cons]
      cases last : name.toList.getLast? <;> simp [hyphen, last]

/-- The identifier of a node is read as it is if its parts are legible, and not otherwise. -/
theorem heardAs?_nodeId_iff :
    let identifier := Mesh.nodeId base port interface
    heardAs? identifier = some identifier ↔ Legible base interface := by
  intro identifier
  have filled : identifier.toList ≠ [] := by
    rw [toList_nodeId]
    simp
  rw [heardAs?_eq_self_iff filled, Text.trim_eq_self_iff, lineFeed_not_mem_nodeId_iff,
    trimStart_nodeId_iff, trimEnd_nodeId_iff]
  constructor
  · rintro ⟨⟨baseOneLine, interfaceOneLine⟩, baseShown, interfaceShown⟩
    exact ⟨baseOneLine, baseShown, interfaceOneLine, interfaceShown⟩
  · intro legible
    exact ⟨⟨legible.baseOneLine, legible.interfaceOneLine⟩, legible.baseShown,
      legible.interfaceShown⟩

end NodeId

end PeerMesh.Hello
