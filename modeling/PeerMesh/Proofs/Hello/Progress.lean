import PeerMesh.Hello
import PeerMesh.Proofs.InFlight

/-!
# The exchange on one connection

The state of the exchange is kept in three lists for all connections of a node. What they say of one
connection is its progress, and no operation on another connection changes it.
-/

set_option autoImplicit false

namespace PeerMesh.Hello

/-- What the exchange has come to on one connection. -/
structure Progress where
  heard : Bool
  /-- This node spoke first, and the first line has not been dealt with. -/
  initiated : Bool
  buffer : Bytes
  deriving DecidableEq

def Progress.none : Progress := ⟨false, false, []⟩

/-- What the exchange has come to on the connection under `slot`. -/
def progress (hello : Hello) (slot : Slot) : Progress :=
  ⟨decide (slot ∈ hello.done), decide (slot ∈ hello.initiated), hello.buffer slot⟩

theorem lookup_withoutBuffer (hello : Hello) (slot other : Slot) :
    (hello.withoutBuffer slot).lookup other =
      if other = slot then Option.none else hello.buffers.lookup other := by
  unfold withoutBuffer
  induction hello.buffers with
  | nil => simp
  | cons entry rest ih =>
      by_cases removed : entry.1 = slot
      · simp only [removed, bne_self_eq_false, Bool.false_eq_true, not_false_eq_true,
          List.filter_cons_of_neg, ih]
        by_cases same : other = slot
        · simp [same]
        · rw [if_neg same, if_neg same, List.lookup_cons, removed, beq_eq_false_iff_ne.mpr same]
      · rw [List.filter_cons_of_pos (by simpa using removed), List.lookup_cons, List.lookup_cons, ih]
        by_cases found : other = entry.1
        · subst found
          simp [removed]
        · rw [beq_eq_false_iff_ne.mpr found]

theorem progress_eq_iff {hello : Hello} {slot : Slot} {progress : Progress} :
    hello.progress slot = progress ↔ (slot ∈ hello.done ↔ progress.heard = true) ∧
      (slot ∈ hello.initiated ↔ progress.initiated = true) ∧
      hello.buffer slot = progress.buffer := by
  obtain ⟨heard, initiated, buffer⟩ := progress
  simp only [Hello.progress, Progress.mk.injEq]
  cases heard <;> cases initiated <;> simp

theorem progress_initiate (hello : Hello) (slot other : Slot) :
    (hello.initiate slot).progress other =
      if other = slot then { hello.progress slot with initiated := true }
      else hello.progress other := by
  rw [progress_eq_iff]
  by_cases same : other = slot
  · subst same
    simp [progress, initiate, buffer]
  · simp [progress, initiate, buffer, same]

theorem progress_forget (hello : Hello) {slot other : Slot} (different : other ≠ slot) :
    (hello.forget slot).progress other = hello.progress other := by
  rw [progress_eq_iff]
  simp [progress, forget, buffer, lookup_withoutBuffer, different]

theorem progress_forget_self (hello : Hello) (slot : Slot) :
    (hello.forget slot).progress slot = .none := by
  rw [progress_eq_iff]
  simp [Progress.none, forget, buffer, lookup_withoutBuffer]

theorem progress_settle (hello : Hello) (slot other : Slot) :
    (hello.settle slot).progress other =
      if other = slot then ⟨true, (hello.progress slot).initiated, []⟩
      else hello.progress other := by
  rw [progress_eq_iff]
  by_cases same : other = slot
  · subst same
    simp [progress, settle, buffer, lookup_withoutBuffer]
  · simp [progress, settle, buffer, lookup_withoutBuffer, same]

/-- Bytes on one connection leave the exchange on every other as it is. -/
theorem progress_receive_of_ne (hello : Hello) {slot other : Slot} (different : other ≠ slot)
    (bytes : Bytes) : (hello.receive slot bytes).1.progress other = hello.progress other := by
  unfold receive
  split
  · rfl
  · dsimp only
    split
    · split
      · rw [progress_settle, if_neg different]
      · rw [progress_eq_iff]
        simp [progress, buffer, List.lookup_append, lookup_withoutBuffer, different,
          List.lookup_cons, beq_eq_false_iff_ne.mpr different]
    · rw [progress_eq_iff]
      simp [progress, buffer, settle, lookup_withoutBuffer, different]

/-! ## The first line -/

theorem beforeLineFeed?_eq_none_iff {bytes : Bytes} :
    beforeLineFeed? bytes = none ↔ lineFeed ∉ bytes := by
  simp [beforeLineFeed?]

theorem beforeLineFeed?_of_not_mem {bytes : Bytes} (absent : lineFeed ∉ bytes) :
    beforeLineFeed? bytes = none :=
  beforeLineFeed?_eq_none_iff.mpr absent

theorem beforeLineFeed?_append {first : Bytes} (absent : lineFeed ∉ first) (rest : Bytes) :
    beforeLineFeed? (first ++ lineFeed :: rest) = some first := by
  have all : ∀ byte ∈ first, (byte != lineFeed) = true := by
    intro byte member
    rw [bne_iff_ne]
    rintro rfl
    exact absent member
  rw [beforeLineFeed?, if_pos (by simp), List.takeWhile_append_of_pos all]
  simp

/-- What a first line amounts to, on a connection where this node spoke first or did not. -/
def meaning (initiated : Bool) (first : Bytes) : Reception :=
  match identifier? (lineText first) with
  | none => .malformed
  | some identifier => .greeted identifier initiated

section Receive

variable {hello : Hello} {slot : Slot} {bytes : Bytes}

theorem not_mem_done (unheard : (hello.progress slot).heard = false) : slot ∉ hello.done := by
  simpa [progress] using unheard

/-- Bytes after the first line are ignored. -/
theorem receive_of_heard (heard : (hello.progress slot).heard = true) :
    hello.receive slot bytes = (hello, .ignored) := by
  have done : slot ∈ hello.done := by simpa [progress] using heard
  rw [receive, if_pos done]

/-- Bytes that leave the line incomplete are kept, up to the limit. -/
theorem receive_of_incomplete (unheard : (hello.progress slot).heard = false)
    (absent : lineFeed ∉ (hello.progress slot).buffer ++ bytes)
    (fits : ((hello.progress slot).buffer ++ bytes).length ≤ lineLimit) :
    (hello.receive slot bytes).2 = .incomplete ∧
      (hello.receive slot bytes).1.progress slot =
        { hello.progress slot with buffer := (hello.progress slot).buffer ++ bytes } := by
  have missing : beforeLineFeed? (hello.buffer slot ++ bytes) = none :=
    beforeLineFeed?_of_not_mem absent
  have short : ¬ lineLimit < (hello.buffer slot ++ bytes).length := Nat.not_lt.mpr fits
  simp only [receive, not_mem_done unheard, if_false, missing, short]
  refine ⟨trivial, ?_⟩
  rw [progress_eq_iff]
  simp [progress, buffer, List.lookup_append, lookup_withoutBuffer]

theorem receive_of_overflow (unheard : (hello.progress slot).heard = false)
    (absent : lineFeed ∉ (hello.progress slot).buffer ++ bytes)
    (exceeds : lineLimit < ((hello.progress slot).buffer ++ bytes).length) :
    (hello.receive slot bytes).2 = .oversized ∧
      ((hello.receive slot bytes).1.progress slot).heard = true := by
  have missing : beforeLineFeed? (hello.buffer slot ++ bytes) = none :=
    beforeLineFeed?_of_not_mem absent
  have long : lineLimit < (hello.buffer slot ++ bytes).length := exceeds
  simp only [receive, not_mem_done unheard, if_false, missing, long, if_true]
  refine ⟨trivial, ?_⟩
  rw [progress_settle, if_pos rfl]

theorem receive_of_line (unheard : (hello.progress slot).heard = false) {first : Bytes}
    (found : beforeLineFeed? ((hello.progress slot).buffer ++ bytes) = some first) :
    (hello.receive slot bytes).2 = meaning (hello.progress slot).initiated first ∧
      (hello.receive slot bytes).1.progress slot = ⟨true, false, []⟩ := by
  have complete : beforeLineFeed? (hello.buffer slot ++ bytes) = some first := found
  simp only [receive, not_mem_done unheard, if_false, complete]
  refine ⟨rfl, ?_⟩
  rw [progress_eq_iff]
  simp [settle, buffer, lookup_withoutBuffer]

/-- A greeting is the first line, and the exchange tells whether this node spoke first. -/
theorem eq_of_greeted {name : String} {initiated : Bool}
    (greeted : (hello.receive slot bytes).2 = .greeted name initiated) :
    (hello.progress slot).heard = false ∧ initiated = (hello.progress slot).initiated ∧
      (hello.receive slot bytes).1.progress slot = ⟨true, false, []⟩ := by
  cases heard : (hello.progress slot).heard with
  | true =>
      rw [receive_of_heard heard] at greeted
      cases greeted
  | false =>
      by_cases complete : lineFeed ∈ (hello.progress slot).buffer ++ bytes
      · have found : ((hello.progress slot).buffer ++ bytes).contains lineFeed = true := by
          simpa using complete
        obtain ⟨means, settled⟩ := receive_of_line heard (if_pos found)
        refine ⟨rfl, ?_, settled⟩
        rw [means, meaning] at greeted
        split at greeted <;> cases greeted
        rfl
      · by_cases fits : ((hello.progress slot).buffer ++ bytes).length ≤ lineLimit
        · rw [(receive_of_incomplete heard complete fits).1] at greeted
          cases greeted
        · rw [(receive_of_overflow heard complete (Nat.not_le.mp fits)).1] at greeted
          cases greeted

/-- As long as the first line has not been dealt with, only the buffer grows. -/
theorem unheard_of_receive
    (unheard : ((hello.receive slot bytes).1.progress slot).heard = false) :
    (hello.progress slot).heard = false ∧
      ((hello.receive slot bytes).1.progress slot).initiated = (hello.progress slot).initiated := by
  cases heard : (hello.progress slot).heard with
  | true =>
      rw [receive_of_heard heard, heard] at unheard
      cases unheard
  | false =>
      by_cases complete : lineFeed ∈ (hello.progress slot).buffer ++ bytes
      · have found : ((hello.progress slot).buffer ++ bytes).contains lineFeed = true := by
          simpa using complete
        rw [(receive_of_line heard (if_pos found)).2] at unheard
        cases unheard
      · by_cases fits : ((hello.progress slot).buffer ++ bytes).length ≤ lineLimit
        · rw [(receive_of_incomplete heard complete fits).2]
          exact ⟨rfl, rfl⟩
        · rw [(receive_of_overflow heard complete (Nat.not_le.mp fits)).2] at unheard
          cases unheard

end Receive

end PeerMesh.Hello
