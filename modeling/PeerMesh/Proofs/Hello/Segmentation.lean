import Mathlib.Data.List.Infix
import PeerMesh.Mesh.Event
import PeerMesh.Proofs.Hello.Progress

/-!
# First lines in pieces

The first line of a connection arrives in pieces, with the bytes of other connections in between.
What it amounts to is settled once, by the piece that brings the line feed or by the one that makes
the line too long without it. The second is looked at only where there is no line feed. So the pieces
matter for a line beyond the limit: it is given up if a piece ends beyond the limit and before the
line feed, and taken if one piece reaches from within the limit over the line feed. Where the line is
too long for any piece to do that, and where it keeps to the limit, all ways of cutting agree.
-/

set_option autoImplicit false

namespace PeerMesh.Hello

/-- Whether a reception settles what the first line of its connection amounts to. -/
def Reception.isVerdict : Reception → Bool
  | .ignored | .incomplete => false
  | .oversized | .malformed | .greeted _ _ => true

/-- What is settled on the connection under `slot` as bytes come in on all connections of a node.
There is nothing in it as long as the exchange waits. -/
def verdicts (slot : Slot) : Hello → List (Slot × Bytes) → List Reception
  | _, [] => []
  | hello, (sender, bytes) :: rest =>
    let (next, reception) := hello.receive sender bytes
    if sender = slot ∧ reception.isVerdict then reception :: verdicts slot next rest
    else verdicts slot next rest

/-- The pieces that come in on the connection under `slot`. -/
def pieces (slot : Slot) (deliveries : List (Slot × Bytes)) : List Bytes :=
  (deliveries.filter fun delivery => delivery.1 = slot).map (·.2)

/-- The pieces on the connection under `slot` make up `stream`, and each can be read at once. -/
structure Cuts (slot : Slot) (stream : Bytes) (deliveries : List (Slot × Bytes)) : Prop where
  joined : (pieces slot deliveries).flatten = stream
  filled : ∀ piece ∈ pieces slot deliveries, piece ≠ []
  bounded : ∀ piece ∈ pieces slot deliveries, piece.length ≤ Mesh.readLimit

/-! ## One connection among others -/

/-- What the pieces of one connection settle, after the bytes `collected`. -/
def listen (initiated : Bool) : Bytes → List Bytes → List Reception
  | _, [] => []
  | collected, piece :: rest =>
    match beforeLineFeed? (collected ++ piece) with
    | some first => [meaning initiated first]
    | none =>
      if lineLimit < (collected ++ piece).length then [.oversized]
      else listen initiated (collected ++ piece) rest

variable {hello : Hello} {slot : Slot} {initiated : Bool} {collected stream first rest front : Bytes}
  {deliveries : List (Slot × Bytes)}

theorem isVerdict_meaning (initiated : Bool) (first : Bytes) :
    (meaning initiated first).isVerdict = true := by
  unfold meaning
  split <;> rfl

theorem meaning_ne_oversized (initiated : Bool) (first : Bytes) :
    meaning initiated first ≠ .oversized := by
  unfold meaning
  split <;> nofun

theorem pieces_cons_self (slot : Slot) (bytes : Bytes) (deliveries : List (Slot × Bytes)) :
    pieces slot ((slot, bytes) :: deliveries) = bytes :: pieces slot deliveries := by
  simp [pieces]

theorem pieces_cons_of_ne {sender : Slot} (different : sender ≠ slot) (bytes : Bytes)
    (deliveries : List (Slot × Bytes)) :
    pieces slot ((sender, bytes) :: deliveries) = pieces slot deliveries := by
  simp [pieces, different]

/-- Once the first line has been dealt with, nothing more is settled. -/
theorem verdicts_of_heard (heard : (hello.progress slot).heard = true)
    (deliveries : List (Slot × Bytes)) : verdicts slot hello deliveries = [] := by
  induction deliveries generalizing hello with
  | nil => rfl
  | cons delivery rest ih =>
      obtain ⟨sender, bytes⟩ := delivery
      by_cases same : sender = slot
      · subst same
        simp only [verdicts, receive_of_heard heard]
        exact ih heard
      · have kept := progress_receive_of_ne hello (Ne.symm same) bytes
        simp only [verdicts, same, false_and, if_false]
        exact ih (by rw [kept, heard])

/-- Bytes on other connections make no difference. -/
theorem verdicts_eq_listen (progress : hello.progress slot = ⟨false, initiated, collected⟩) :
    verdicts slot hello deliveries = listen initiated collected (pieces slot deliveries) := by
  induction deliveries generalizing hello collected with
  | nil => rfl
  | cons delivery rest ih =>
      obtain ⟨sender, bytes⟩ := delivery
      by_cases same : sender = slot
      · subst same
        have unheard : (hello.progress sender).heard = false := by rw [progress]
        rw [pieces_cons_self, listen, verdicts]
        cases search : beforeLineFeed? (collected ++ bytes) with
        | some first =>
            have complete :
                beforeLineFeed? ((hello.progress sender).buffer ++ bytes) = some first := by
              rw [progress, search]
            obtain ⟨settled, dealt⟩ := receive_of_line unheard complete
            rw [progress] at settled
            have nothing := verdicts_of_heard (congrArg Progress.heard dealt) rest
            simp only [settled, isVerdict_meaning, and_self, if_true, nothing]
        | none =>
            have absent : lineFeed ∉ (hello.progress sender).buffer ++ bytes := by
              rw [progress]
              intro member
              rw [beforeLineFeed?, if_pos (by simpa using member)] at search
              cases search
            by_cases exceeds : lineLimit < (collected ++ bytes).length
            · obtain ⟨settled, dealt⟩ := receive_of_overflow unheard absent (by rwa [progress])
              have nothing := verdicts_of_heard dealt rest
              simp only [settled, Reception.isVerdict, and_self, if_true, nothing, exceeds]
            · obtain ⟨waits, kept⟩ := receive_of_incomplete unheard absent
                (by rw [progress]; exact Nat.not_lt.mp exceeds)
              rw [progress] at kept
              simp only [waits, Reception.isVerdict, Bool.false_eq_true, and_false, if_false,
                exceeds, ih kept]
      · have kept := progress_receive_of_ne hello (Ne.symm same) bytes
        rw [pieces_cons_of_ne same]
        simp only [verdicts, same, false_and, if_false]
        exact ih (kept.trans progress)

/-! ## What the pieces decide -/

/-- A piece ends beyond the limit, and the line feed has not come. -/
def Overflows (collected : Bytes) (pieces : List Bytes) : Prop :=
  ∃ front, front <+: pieces ∧ lineLimit < (collected ++ front.flatten).length ∧
    lineFeed ∉ collected ++ front.flatten

theorem beforeLineFeed?_of_mem (member : lineFeed ∈ stream) :
    ∃ first rest, stream = first ++ lineFeed :: rest ∧ lineFeed ∉ first ∧
      beforeLineFeed? stream = some first := by
  obtain ⟨first, rest, split, absent⟩ := List.eq_append_cons_of_mem member
  exact ⟨first, rest, split, absent, split ▸ beforeLineFeed?_append absent rest⟩

/-- What comes after the line feed does not matter. -/
theorem beforeLineFeed?_append_of_mem (member : lineFeed ∈ stream) (rest : Bytes) :
    beforeLineFeed? (stream ++ rest) = beforeLineFeed? stream := by
  obtain ⟨first, tail, rfl, absent, found⟩ := beforeLineFeed?_of_mem member
  rw [found, List.append_assoc, List.cons_append, beforeLineFeed?_append absent]

theorem listen_of_overflows {pieces : List Bytes} (fits : collected.length ≤ lineLimit)
    (overflows : Overflows collected pieces) : listen initiated collected pieces = [.oversized] := by
  induction pieces generalizing collected with
  | nil =>
      obtain ⟨front, within, exceeds, -⟩ := overflows
      rw [List.prefix_nil.mp within, List.flatten_nil, List.append_nil] at exceeds
      omega
  | cons piece rest ih =>
      obtain ⟨front, within, exceeds, absent⟩ := overflows
      rcases List.prefix_cons_iff.mp within with rfl | ⟨later, rfl, laterWithin⟩
      · rw [List.flatten_nil, List.append_nil] at exceeds
        omega
      · rw [List.flatten_cons, ← List.append_assoc] at exceeds absent
        have missing : beforeLineFeed? (collected ++ piece) = none :=
          beforeLineFeed?_of_not_mem fun member => absent (List.mem_append_left _ member)
        rw [listen, missing]
        by_cases already : lineLimit < (collected ++ piece).length
        · exact if_pos already
        · exact (if_neg already).trans
            (ih (Nat.not_lt.mp already) ⟨later, laterWithin, exceeds, absent⟩)

theorem listen_of_not_overflows {pieces : List Bytes} (absent : lineFeed ∉ collected)
    (keeps : ¬ Overflows collected pieces) :
    listen initiated collected pieces =
      ((beforeLineFeed? (collected ++ pieces.flatten)).map (meaning initiated)).toList := by
  induction pieces generalizing collected with
  | nil =>
      rw [List.flatten_nil, List.append_nil, beforeLineFeed?_of_not_mem absent]
      rfl
  | cons piece rest ih =>
      rw [listen, List.flatten_cons, ← List.append_assoc]
      by_cases member : lineFeed ∈ collected ++ piece
      · obtain ⟨first, _, _, _, found⟩ := beforeLineFeed?_of_mem member
        rw [beforeLineFeed?_append_of_mem member, found]
        rfl
      · have within : ¬ lineLimit < (collected ++ piece).length := by
          intro exceeds
          refine keeps ⟨[piece], List.prefix_append [piece] rest, ?_⟩
          rw [List.flatten_singleton]
          exact ⟨exceeds, member⟩
        have keepsOn : ¬ Overflows (collected ++ piece) rest := by
          rintro ⟨front, inside, exceeds, missing⟩
          refine keeps ⟨piece :: front, (List.prefix_cons_inj piece).mpr inside, ?_⟩
          rw [List.flatten_cons, ← List.append_assoc]
          exact ⟨exceeds, missing⟩
        rw [beforeLineFeed?_of_not_mem member]
        exact (if_neg within).trans (ih member keepsOn)

/-- A front part is free of the line feed as long as it is within the line. -/
theorem lineFeed_not_mem_iff (absent : lineFeed ∉ first)
    (within : front <+: first ++ lineFeed :: rest) :
    lineFeed ∉ front ↔ front.length ≤ first.length := by
  constructor
  · intro missing
    by_contra longer
    have ended : first ++ [lineFeed] <+: front := by
      refine List.prefix_of_prefix_length_le ⟨rest, by simp⟩ within ?_
      rw [List.length_append, List.length_singleton]
      omega
    exact missing (ended.subset (List.mem_append_right _ List.mem_cons_self))
  · intro shorter member
    have inside := List.prefix_of_prefix_length_le within (List.prefix_append first _) shorter
    exact absent (inside.subset member)

/-- Pieces of bounded length cannot pass a limit by more than that length. -/
theorem exists_front_beyond (collected : Bytes) {pieces : List Bytes} {limit bound : Nat}
    (fits : collected.length ≤ limit) (exceeds : limit < (collected ++ pieces.flatten).length)
    (bounded : ∀ piece ∈ pieces, piece.length ≤ bound) :
    ∃ front, front <+: pieces ∧ limit < (collected ++ front.flatten).length ∧
      (collected ++ front.flatten).length ≤ limit + bound := by
  induction pieces generalizing collected with
  | nil =>
      rw [List.flatten_nil, List.append_nil] at exceeds
      omega
  | cons piece rest ih =>
      by_cases beyond : limit < (collected ++ piece).length
      · refine ⟨[piece], List.prefix_append [piece] rest, ?_⟩
        have size := bounded piece List.mem_cons_self
        rw [List.flatten_singleton]
        refine ⟨beyond, ?_⟩
        rw [List.length_append]
        omega
      · rw [List.flatten_cons, ← List.append_assoc] at exceeds
        obtain ⟨front, within, passed, near⟩ := ih (collected ++ piece) (Nat.not_lt.mp beyond) exceeds
          fun other member => bounded other (List.mem_cons_of_mem piece member)
        rw [List.append_assoc, ← List.flatten_cons] at passed near
        exact ⟨piece :: front, (List.prefix_cons_inj piece).mpr within, passed, near⟩

/-! ## All the ways of cutting -/

/-- The first line is beyond the limit, and a piece that starts within the limit can still reach its
line feed. -/
def Straddles (stream : Bytes) : Prop :=
  ∃ first, beforeLineFeed? stream = some first ∧ lineLimit < first.length ∧
    first.length < lineLimit + Mesh.readLimit

theorem beforeLineFeed?_eq_some_iff : beforeLineFeed? stream = some first ↔
    lineFeed ∉ first ∧ ∃ rest, stream = first ++ lineFeed :: rest := by
  constructor
  · intro found
    have member : lineFeed ∈ stream := by
      by_contra absent
      rw [beforeLineFeed?_of_not_mem absent] at found
      cases found
    obtain ⟨other, rest, split, absent, same⟩ := beforeLineFeed?_of_mem member
    obtain rfl : other = first := Option.some.inj (same.symm.trans found)
    exact ⟨absent, rest, split⟩
  · rintro ⟨absent, rest, rfl⟩
    exact beforeLineFeed?_append absent rest

section Cut

variable {pieces : List Bytes}

theorem overflows_iff_of_none (missing : beforeLineFeed? pieces.flatten = none) :
    Overflows [] pieces ↔ lineLimit < pieces.flatten.length := by
  rw [beforeLineFeed?_eq_none_iff] at missing
  constructor
  · rintro ⟨front, ⟨later, rfl⟩, exceeds, -⟩
    rw [List.nil_append] at exceeds
    rw [List.flatten_append, List.length_append]
    omega
  · intro exceeds
    exact ⟨pieces, List.prefix_rfl, exceeds, missing⟩

theorem overflows_iff_of_some (found : beforeLineFeed? pieces.flatten = some first) :
    Overflows [] pieces ↔
      ∃ front, front <+: pieces ∧ lineLimit < front.flatten.length ∧
        front.flatten.length ≤ first.length := by
  obtain ⟨absent, rest, split⟩ := beforeLineFeed?_eq_some_iff.mp found
  have within : ∀ front, front <+: pieces → front.flatten <+: first ++ lineFeed :: rest := by
    rintro front ⟨later, rfl⟩
    rw [← split, List.flatten_append]
    exact List.prefix_append _ _
  constructor
  · rintro ⟨front, inside, exceeds, missing⟩
    exact ⟨front, inside, exceeds, (lineFeed_not_mem_iff absent (within front inside)).mp missing⟩
  · rintro ⟨front, inside, exceeds, shorter⟩
    exact ⟨front, inside, exceeds, (lineFeed_not_mem_iff absent (within front inside)).mpr shorter⟩

/-- Unless the first line straddles the limit, the stream decides whether it is given up. -/
theorem overflows_iff_of_not_straddles (bounded : ∀ piece ∈ pieces, piece.length ≤ Mesh.readLimit)
    (clear : ¬ Straddles pieces.flatten) :
    Overflows [] pieces ↔
      lineLimit < ((beforeLineFeed? pieces.flatten).getD pieces.flatten).length := by
  cases found : beforeLineFeed? pieces.flatten with
  | none => exact overflows_iff_of_none found
  | some first =>
      rw [overflows_iff_of_some found, Option.getD_some]
      constructor
      · rintro ⟨front, -, exceeds, shorter⟩
        exact Nat.lt_of_lt_of_le exceeds shorter
      · intro exceeds
        have far : lineLimit + Mesh.readLimit ≤ first.length := by
          by_contra near
          exact clear ⟨first, found, exceeds, Nat.not_le.mp near⟩
        obtain ⟨-, rest, split⟩ := beforeLineFeed?_eq_some_iff.mp found
        have long : lineLimit < pieces.flatten.length := by
          rw [split, List.length_append]
          omega
        obtain ⟨front, within, passed, near⟩ :=
          exists_front_beyond [] (Nat.zero_le _) long bounded
        exact ⟨front, within, passed, near.trans far⟩

end Cut

/-- The pieces of a single byte each. -/
def singles (stream : Bytes) : List Bytes :=
  stream.map ([·])

/-- The pieces with one that reaches as far as possible from the limit on. -/
def straddling (stream : Bytes) : List Bytes :=
  stream.take lineLimit :: (stream.drop lineLimit).take Mesh.readLimit ::
    singles ((stream.drop lineLimit).drop Mesh.readLimit)

theorem flatten_singles (stream : Bytes) : (singles stream).flatten = stream := by
  rw [singles, ← List.flatMap_def, List.flatMap_singleton']

theorem length_of_mem_singles {piece : Bytes} (member : piece ∈ singles stream) :
    piece.length = 1 := by
  obtain ⟨byte, -, rfl⟩ := List.mem_map.mp member
  rfl

theorem flatten_straddling (stream : Bytes) : (straddling stream).flatten = stream := by
  rw [straddling, List.flatten_cons, List.flatten_cons, flatten_singles, List.take_append_drop,
    List.take_append_drop]

theorem pieces_deliver (slot : Slot) (cut : List Bytes) : pieces slot (cut.map (slot, ·)) = cut := by
  simp [pieces, List.filter_map, Function.comp_def]

theorem cuts_singles (slot : Slot) (stream : Bytes) :
    Cuts slot stream ((singles stream).map (slot, ·)) := by
  constructor <;> rw [pieces_deliver]
  · exact flatten_singles stream
  · intro piece member
    exact List.ne_nil_of_length_eq_add_one (length_of_mem_singles member)
  · intro piece member
    rw [length_of_mem_singles member]
    decide

theorem cuts_straddling (slot : Slot) (exceeds : lineLimit < stream.length) :
    Cuts slot stream ((straddling stream).map (slot, ·)) := by
  have limits : lineLimit = 1024 ∧ Mesh.readLimit = 16384 := ⟨rfl, rfl⟩
  constructor <;> rw [pieces_deliver]
  · exact flatten_straddling stream
  · intro piece member
    apply List.ne_nil_of_length_pos
    rcases List.mem_cons.mp member with rfl | others
    · rw [List.length_take]
      omega
    rcases List.mem_cons.mp others with rfl | single
    · rw [List.length_take, List.length_drop]
      omega
    · rw [length_of_mem_singles single]
      exact Nat.one_pos
  · intro piece member
    rcases List.mem_cons.mp member with rfl | others
    · rw [List.length_take]
      omega
    rcases List.mem_cons.mp others with rfl | single
    · exact List.length_take_le _ _
    · rw [length_of_mem_singles single]
      omega

theorem overflows_singles (found : beforeLineFeed? stream = some first)
    (exceeds : lineLimit < first.length) : Overflows [] (singles stream) := by
  obtain ⟨-, rest, split⟩ := beforeLineFeed?_eq_some_iff.mp found
  have long : lineLimit < (singles stream).flatten.length := by
    rw [flatten_singles, split, List.length_append]
    omega
  obtain ⟨front, within, passed, near⟩ := exists_front_beyond [] (Nat.zero_le _) long
    fun piece member => (length_of_mem_singles member).le
  rw [overflows_iff_of_some (by rw [flatten_singles, found])]
  exact ⟨front, within, passed, near.trans exceeds⟩

theorem not_overflows_straddling (found : beforeLineFeed? stream = some first)
    (near : first.length < lineLimit + Mesh.readLimit) : ¬ Overflows [] (straddling stream) := by
  obtain ⟨-, rest, split⟩ := beforeLineFeed?_eq_some_iff.mp found
  have size : stream.length = first.length + (rest.length + 1) := by
    rw [split, List.length_append, List.length_cons]
  rw [overflows_iff_of_some (by rw [flatten_straddling, found])]
  rintro ⟨front, within, exceeds, shorter⟩
  rcases List.prefix_cons_iff.mp within with rfl | ⟨later, rfl, inside⟩
  · exact Nat.not_lt_zero _ exceeds
  rcases List.prefix_cons_iff.mp inside with rfl | ⟨last, rfl, -⟩
  · rw [List.flatten_singleton, List.length_take] at exceeds
    omega
  · simp only [List.flatten_cons, List.length_append, List.length_take, List.length_drop] at shorter
    omega

theorem verdicts_of_overflows (fresh : hello.progress slot = ⟨false, initiated, []⟩)
    (overflows : Overflows [] (pieces slot deliveries)) :
    verdicts slot hello deliveries = [.oversized] := by
  rw [verdicts_eq_listen fresh, listen_of_overflows (Nat.zero_le _) overflows]

theorem verdicts_of_not_overflows (fresh : hello.progress slot = ⟨false, initiated, []⟩)
    (cuts : Cuts slot stream deliveries) (keeps : ¬ Overflows [] (pieces slot deliveries)) :
    verdicts slot hello deliveries = ((beforeLineFeed? stream).map (meaning initiated)).toList := by
  rw [verdicts_eq_listen fresh, listen_of_not_overflows List.not_mem_nil keeps, cuts.joined,
    List.nil_append]

theorem not_straddles_of_verdicts_agree (fresh : hello.progress slot = ⟨false, initiated, []⟩)
    (agree : ∀ left right, Cuts slot stream left → Cuts slot stream right →
      verdicts slot hello left = verdicts slot hello right) : ¬ Straddles stream := by
  rintro ⟨first, found, exceeds, near⟩
  have long : lineLimit < stream.length := by
    obtain ⟨-, rest, rfl⟩ := beforeLineFeed?_eq_some_iff.mp found
    rw [List.length_append]
    omega
  have same := agree _ _ (cuts_singles slot stream) (cuts_straddling slot long)
  rw [verdicts_of_overflows fresh (by rw [pieces_deliver]; exact overflows_singles found exceeds),
    verdicts_of_not_overflows fresh (cuts_straddling slot long)
      (by rw [pieces_deliver]; exact not_overflows_straddling found near), found] at same
  exact meaning_ne_oversized initiated first (List.singleton_inj.mp same).symm

theorem verdicts_agree_of_not_straddles (fresh : hello.progress slot = ⟨false, initiated, []⟩)
    (clear : ¬ Straddles stream) {left right : List (Slot × Bytes)} (leftCuts : Cuts slot stream left)
    (rightCuts : Cuts slot stream right) : verdicts slot hello left = verdicts slot hello right := by
  have decided : ∀ deliveries, Cuts slot stream deliveries →
      (Overflows [] (pieces slot deliveries) ↔
        lineLimit < ((beforeLineFeed? stream).getD stream).length) := by
    rintro deliveries ⟨rfl, -, bounded⟩
    exact overflows_iff_of_not_straddles bounded clear
  by_cases long : lineLimit < ((beforeLineFeed? stream).getD stream).length
  · rw [verdicts_of_overflows fresh ((decided left leftCuts).mpr long),
      verdicts_of_overflows fresh ((decided right rightCuts).mpr long)]
  · rw [verdicts_of_not_overflows fresh leftCuts (mt (decided left leftCuts).mp long),
      verdicts_of_not_overflows fresh rightCuts (mt (decided right rightCuts).mp long)]

/-- All ways of cutting a stream settle the same, unless its first line straddles the limit. In any
case at most one thing is settled: the line is given up as too long, or taken for what it means. -/
theorem verdicts_agree_iff (fresh : hello.progress slot = ⟨false, initiated, []⟩) (stream : Bytes) :
    ((∀ left right, Cuts slot stream left → Cuts slot stream right →
        verdicts slot hello left = verdicts slot hello right) ↔ ¬ Straddles stream) ∧
      ∀ deliveries, Cuts slot stream deliveries →
        verdicts slot hello deliveries = [.oversized] ∨
        verdicts slot hello deliveries =
          ((beforeLineFeed? stream).map (meaning initiated)).toList := by
  refine ⟨⟨not_straddles_of_verdicts_agree fresh, ?_⟩, ?_⟩
  · intro clear left right
    exact verdicts_agree_of_not_straddles fresh clear
  · intro deliveries cuts
    by_cases overflows : Overflows [] (pieces slot deliveries)
    · exact .inl (verdicts_of_overflows fresh overflows)
    · exact .inr (verdicts_of_not_overflows fresh cuts overflows)

/-- A line of 1100 bytes is refused or taken, as its pieces happen to be. -/
theorem verdicts_differ_elevenHundredBytes :
    Hello.initial.progress ⟨1⟩ = ⟨false, false, []⟩ ∧
      Straddles (List.replicate 1100 120 ++ [lineFeed]) ∧
      ¬ ∀ left right, Cuts ⟨1⟩ (List.replicate 1100 120 ++ [lineFeed]) left →
        Cuts ⟨1⟩ (List.replicate 1100 120 ++ [lineFeed]) right →
        verdicts ⟨1⟩ Hello.initial left = verdicts ⟨1⟩ Hello.initial right := by
  have fresh : Hello.initial.progress ⟨1⟩ = ⟨false, false, []⟩ := rfl
  have absent : lineFeed ∉ List.replicate 1100 (120 : UInt8) := by
    intro member
    exact absurd (List.eq_of_mem_replicate member) (by decide)
  have straddles : Straddles (List.replicate 1100 120 ++ [lineFeed]) := by
    refine ⟨_, beforeLineFeed?_append absent [], ?_⟩
    rw [List.length_replicate]
    decide
  exact ⟨fresh, straddles, fun agree => (verdicts_agree_iff fresh _).1.mp agree straddles⟩

end PeerMesh.Hello
