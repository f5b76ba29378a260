import Mathlib.Tactic.ByContra
import PeerMesh.Proofs.Crossing.Sockets

/-!
# One socket survives

As long as any socket was taken, some socket that outranks the others stays open, and no party has
two named ends. Both follow from a third fact: an outranking socket that has been answered is not
closed. At its caller the answer can only find the name with an end that it displaces, since two
answered sockets of the same rank would both be named at their callee.
-/

set_option autoImplicit false

namespace PeerMesh.Crossing

/-- A party has at most one named end. -/
def SingleNamed (sockets : List Socket) : Prop :=
  ∀ (place otherPlace : Nat) (socket other : Socket) (side otherSide : Side),
    sockets[place]? = some socket → sockets[otherPlace]? = some other →
    socket.standing side = .named → other.standing otherSide = .named →
    socket.owner side = other.owner otherSide → place = otherPlace

/-- What holds of the sockets at any time. -/
structure Sane (smaller : Party) (sockets : List Socket) : Prop where
  shaped : ∀ socket ∈ sockets, socket.Shaped
  unique : SingleNamed sockets
  /-- An outranking socket that has been answered is not closed. -/
  answered : ∀ socket ∈ sockets, Preferred smaller sockets socket.dialer →
    socket.answer ≠ .unsaid → socket.Alive
  /-- Some outranking socket is not closed. -/
  survivor : (∃ socket ∈ sockets, socket.Taken) →
    ∃ socket ∈ sockets, socket.Taken ∧ Preferred smaller sockets socket.dialer ∧ socket.Alive

section Change

variable {smaller : Party} {sockets : List Socket} {place : Nat} {socket changed : Socket}

/-- After a change at one place, every other is as it was. -/
theorem getElem?_set_of_found {α : Type} {elements : List α} {place : Nat} {element changed : α}
    (found : elements[place]? = some element) (other : Nat) :
    (elements.set place changed)[other]? =
      if place = other then some changed else elements[other]? := by
  rw [List.getElem?_set]
  simp [(List.getElem?_eq_some_iff.mp found).1]

/-- What stands somewhere after a change at one place is what has changed, or stood there before. -/
theorem getElem?_of_set {α : Type} {elements : List α} {place other : Nat}
    {element changed after : α} (found : elements[place]? = some element)
    (search : (elements.set place changed)[other]? = some after) :
    place = other ∧ changed = after ∨ place ≠ other ∧ elements[other]? = some after := by
  rw [getElem?_set_of_found found] at search
  by_cases same : place = other
  · rw [if_pos same] at search
    exact .inl ⟨same, Option.some.inj search⟩
  · rw [if_neg same] at search
    exact .inr ⟨same, search⟩

theorem mem_set_of_found (found : sockets[place]? = some socket) :
    changed ∈ sockets.set place changed :=
  List.mem_set (List.getElem?_eq_some_iff.mp found).1 changed

/-- As more sockets are taken, fewer parties are preferred. -/
theorem Preferred.of_set {dialer : Party} (found : sockets[place]? = some socket)
    (sameDialer : changed.dialer = socket.dialer) (stillTaken : socket.Taken → changed.Taken)
    (preferred : Preferred smaller (sockets.set place changed) dialer) :
    Preferred smaller sockets dialer := by
  refine preferred.imp_right ?_
  intro others other member taken
  by_cases here : sockets[place]? = some other
  · rw [found] at here
    cases here
    rw [← sameDialer]
    exact others changed (mem_set_of_found found) (stillTaken taken)
  · obtain ⟨otherPlace, otherFound⟩ := List.mem_iff_getElem?.mp member
    refine others other (List.mem_iff_getElem?.mpr ⟨otherPlace, ?_⟩) taken
    rw [getElem?_set_of_found found, if_neg, otherFound]
    rintro rfl
    exact here otherFound

/-- A change that takes no socket leaves all ranks as they are. -/
theorem Preferred.set {dialer : Party} (found : sockets[place]? = some socket)
    (sameDialer : changed.dialer = socket.dialer) (alreadyTaken : changed.Taken → socket.Taken)
    (preferred : Preferred smaller sockets dialer) :
    Preferred smaller (sockets.set place changed) dialer := by
  refine preferred.imp_right ?_
  intro others other member taken
  rcases List.mem_or_eq_of_mem_set member with old | rfl
  · exact others other old taken
  · rw [sameDialer]
    exact others socket (List.mem_of_getElem? found) (alreadyTaken taken)

theorem shaped_set (shaped : ∀ socket ∈ sockets, socket.Shaped) (changedShaped : changed.Shaped) :
    ∀ socket ∈ sockets.set place changed, socket.Shaped := by
  intro other member
  rcases List.mem_or_eq_of_mem_set member with old | rfl
  · exact shaped other old
  · exact changedShaped

/-- An end with the name had it before a change that does not name it. -/
theorem exists_named_of_set (found : sockets[place]? = some socket)
    (sameDialer : changed.dialer = socket.dialer) {other : Nat} {after : Socket} {side : Side}
    (search : (sockets.set place changed)[other]? = some after)
    (named : after.standing side = .named)
    (kept : changed = after → socket.standing side = .named) :
    ∃ before, sockets[other]? = some before ∧ before.standing side = .named ∧
      before.owner side = after.owner side := by
  rcases getElem?_of_set found search with ⟨rfl, rfl⟩ | ⟨-, old⟩
  · exact ⟨socket, found, kept rfl, Socket.owner_eq_of_dialer_eq sameDialer.symm side⟩
  · exact ⟨after, old, named, rfl⟩

/-- A change that names no end leaves at most one named end. -/
theorem Sane.unique_set (sane : Sane smaller sockets) (found : sockets[place]? = some socket)
    (sameDialer : changed.dialer = socket.dialer)
    (unnamed : ∀ side, changed.standing side = .named → socket.standing side = .named) :
    SingleNamed (sockets.set place changed) := by
  intro leftPlace rightPlace left right leftSide rightSide leftFound rightFound leftNamed rightNamed
    together
  obtain ⟨leftOld, leftOldFound, leftOldNamed, leftOwner⟩ :=
    exists_named_of_set found sameDialer leftFound leftNamed fun same =>
      unnamed leftSide (same ▸ leftNamed)
  obtain ⟨rightOld, rightOldFound, rightOldNamed, rightOwner⟩ :=
    exists_named_of_set found sameDialer rightFound rightNamed fun same =>
      unnamed rightSide (same ▸ rightNamed)
  exact sane.unique _ _ _ _ _ _ leftOldFound rightOldFound leftOldNamed rightOldNamed
    (by rw [leftOwner, rightOwner, together])

/-- An answered, outranking socket stays open if the changed one does. -/
theorem Sane.answered_set (sane : Sane smaller sockets) (found : sockets[place]? = some socket)
    (sameDialer : changed.dialer = socket.dialer) (stillTaken : socket.Taken → changed.Taken)
    (own : Preferred smaller sockets socket.dialer → changed.answer ≠ .unsaid → changed.Alive) :
    ∀ other ∈ sockets.set place changed,
      Preferred smaller (sockets.set place changed) other.dialer → other.answer ≠ .unsaid →
        other.Alive := by
  intro other member preferred said
  have before := preferred.of_set found sameDialer stillTaken
  rcases List.mem_or_eq_of_mem_set member with old | rfl
  · exact sane.answered other old before said
  · rw [sameDialer] at before
    exact own before said

/-- The survivor of the sockets survives a change that takes no socket, unless it is the changed one
and is closed by it. -/
theorem Sane.survivor_set (sane : Sane smaller sockets) (found : sockets[place]? = some socket)
    (sameDialer : changed.dialer = socket.dialer) (sameTaken : changed.Taken ↔ socket.Taken)
    (own : socket.Taken → Preferred smaller sockets socket.dialer → socket.Alive →
      ∃ other ∈ sockets.set place changed,
        other.Taken ∧ Preferred smaller sockets other.dialer ∧ other.Alive) :
    (∃ other ∈ sockets.set place changed, other.Taken) →
      ∃ other ∈ sockets.set place changed, other.Taken ∧
        Preferred smaller (sockets.set place changed) other.dialer ∧ other.Alive := by
  rintro ⟨taker, takerMember, taken⟩
  have takenBefore : ∃ other ∈ sockets, other.Taken := by
    rcases List.mem_or_eq_of_mem_set takerMember with old | rfl
    · exact ⟨taker, old, taken⟩
    · exact ⟨socket, List.mem_of_getElem? found, sameTaken.mp taken⟩
  obtain ⟨survivor, member, survivorTaken, preferred, alive⟩ := sane.survivor takenBefore
  obtain ⟨survivorPlace, survivorFound⟩ := List.mem_iff_getElem?.mp member
  have kept : ∃ other ∈ sockets.set place changed,
      other.Taken ∧ Preferred smaller sockets other.dialer ∧ other.Alive := by
    by_cases here : place = survivorPlace
    · subst here
      rw [found] at survivorFound
      cases survivorFound
      exact own survivorTaken preferred alive
    · refine ⟨survivor, List.mem_iff_getElem?.mpr ⟨survivorPlace, ?_⟩, survivorTaken, preferred,
        alive⟩
      rw [getElem?_set_of_found found, if_neg here, survivorFound]
  obtain ⟨other, otherMember, otherTaken, otherPreferred, otherAlive⟩ := kept
  exact ⟨other, otherMember, otherTaken, otherPreferred.set found sameDialer sameTaken.mp,
    otherAlive⟩

end Change

/-! ## Steps -/

section Steps

variable {smaller : Party} {sockets : List Socket} {place heldPlace : Nat} {socket held : Socket}
  {side heldSide : Side}

theorem sane_nil : Sane smaller [] := by
  constructor <;> simp [SingleNamed]

theorem Sane.opened (sane : Sane smaller sockets) (dialer : Party) :
    Sane smaller (sockets ++ [.fresh dialer]) := by
  have untaken : ¬ (Socket.fresh dialer).Taken := fun taken => taken rfl
  have ranks : ∀ {party : Party}, Preferred smaller (sockets ++ [.fresh dialer]) party ↔
      Preferred smaller sockets party := by
    intro party
    simp only [Preferred, List.mem_append, List.mem_singleton]
    refine or_congr_right ⟨fun others other member => others other (.inl member), ?_⟩
    intro others other member taken
    rcases member with old | rfl
    · exact others other old taken
    · exact absurd taken untaken
  have named_old : ∀ {other : Nat} {found : Socket} {side : Side},
      (sockets ++ [Socket.fresh dialer])[other]? = some found → found.standing side = .named →
        sockets[other]? = some found := by
    intro other found side search named
    rw [List.getElem?_append] at search
    split at search
    · exact search
    · have last := List.mem_singleton.mp (List.mem_of_getElem? search)
      subst last
      cases side <;> cases named
  constructor
  · intro other member
    rcases List.mem_append.mp member with old | fresh
    · exact sane.shaped other old
    · rw [List.mem_singleton.mp fresh]
      exact Socket.shaped_fresh dialer
  · intro left right leftSocket rightSocket leftSide rightSide leftFound rightFound leftNamed
      rightNamed
    exact sane.unique _ _ _ _ _ _ (named_old leftFound leftNamed) (named_old rightFound rightNamed)
      leftNamed rightNamed
  · intro other member preferred said
    rcases List.mem_append.mp member with old | fresh
    · exact sane.answered other old (ranks.mp preferred) said
    · rw [List.mem_singleton.mp fresh] at said
      exact absurd rfl said
  · rintro ⟨taker, member, taken⟩
    have takerOld : taker ∈ sockets := by
      rcases List.mem_append.mp member with old | fresh
      · exact old
      · rw [List.mem_singleton.mp fresh] at taken
        exact absurd taken untaken
    obtain ⟨survivor, survivorMember, survivorTaken, preferred, alive⟩ :=
      sane.survivor ⟨taker, takerOld, taken⟩
    exact ⟨survivor, List.mem_append_left _ survivorMember, survivorTaken, ranks.mpr preferred, alive⟩

theorem Sane.taken (sane : Sane smaller sockets) (found : sockets[place]? = some socket)
    (absent : socket.caller = .absent) : Sane smaller (sockets.set place socket.taken) := by
  have shaped := sane.shaped socket (List.mem_of_getElem? found)
  have unsaid : socket.greeting = .unsaid ∧ socket.answer = .unsaid := shaped.unsaid_of_absent absent
  have alive : socket.taken.Alive := shaped.alive_taken absent
  refine ⟨shaped_set sane.shaped (shaped.taken absent), ?_, ?_, ?_⟩
  · refine sane.unique_set found rfl ?_
    intro side named
    cases side with
    | caller => cases named
    | callee => exact named
  · refine sane.answered_set found rfl (fun _ said => nomatch said) ?_
    intro _ said
    exact absurd unsaid.2 said
  · rintro -
    -- The socket itself survives if no earlier one does, or if it outranks them.
    by_cases outranks : socket.dialer = smaller
    · exact ⟨socket.taken, mem_set_of_found found, Saying.noConfusion, .inl outranks, alive⟩
    by_cases earlier : ∃ other ∈ sockets, other.Taken
    · obtain ⟨survivor, member, survivorTaken, preferred, survivorAlive⟩ := sane.survivor earlier
      obtain ⟨survivorPlace, survivorFound⟩ := List.mem_iff_getElem?.mp member
      refine ⟨survivor, List.mem_iff_getElem?.mpr ⟨survivorPlace, ?_⟩, survivorTaken, ?_,
        survivorAlive⟩
      · rw [getElem?_set_of_found found, if_neg, survivorFound]
        rintro rfl
        rw [found] at survivorFound
        cases survivorFound
        exact survivorTaken unsaid.1
      · refine preferred.imp_right ?_
        intro others other otherMember otherTaken
        rcases List.mem_or_eq_of_mem_set otherMember with old | rfl
        · exact others other old otherTaken
        · exact outranks
    · refine ⟨socket.taken, mem_set_of_found found, Saying.noConfusion, .inr ?_, alive⟩
      intro other member taken
      rcases List.mem_or_eq_of_mem_set member with old | rfl
      · exact absurd ⟨other, old, taken⟩ earlier
      · exact outranks

/-- An end may be closed, unless its socket is the kind that survives. -/
theorem Sane.shut (sane : Sane smaller sockets) (found : sockets[place]? = some socket)
    (shaped : (socket.shut side).Shaped)
    (closing : socket.Taken → Preferred smaller sockets socket.dialer → ¬ socket.Alive) :
    Sane smaller (sockets.set place (socket.shut side)) := by
  have sameTaken : (socket.shut side).Taken ↔ socket.Taken := by cases side <;> exact Iff.rfl
  have sameAnswer : (socket.shut side).answer = socket.answer := by cases side <;> rfl
  have member := List.mem_of_getElem? found
  refine ⟨shaped_set sane.shaped shaped, ?_, ?_, ?_⟩
  · refine sane.unique_set found (socket.dialer_shut side) ?_
    intro other named
    cases side <;> cases other <;> first | exact named | cases named
  · refine sane.answered_set found (socket.dialer_shut side) sameTaken.mpr ?_
    intro preferred said
    rw [sameAnswer] at said
    have taken := (sane.shaped socket member).taken_of_answered said
    exact absurd (sane.answered socket member preferred said) (closing taken preferred)
  · refine sane.survivor_set found (socket.dialer_shut side) sameTaken ?_
    intro taken preferred alive
    exact absurd alive (closing taken preferred)

theorem Sane.accepted (sane : Sane smaller sockets) (found : sockets[place]? = some socket)
    (absent : socket.callee = .absent) :
    Sane smaller (sockets.set place { socket with callee := .unnamed }) := by
  have member := List.mem_of_getElem? found
  have stillAlive : ∀ {accepted : Socket}, accepted = { socket with callee := .unnamed } →
      socket.Alive → accepted.Alive := by
    rintro _ rfl ⟨callerOpen, -⟩
    exact ⟨callerOpen, Standing.noConfusion⟩
  refine ⟨shaped_set sane.shaped ((sane.shaped socket member).accepted absent), ?_, ?_, ?_⟩
  · refine sane.unique_set found rfl ?_
    intro side named
    cases side with
    | caller => exact named
    | callee => cases named
  · refine sane.answered_set found rfl id ?_
    intro preferred said
    exact stillAlive rfl (sane.answered socket member preferred said)
  · refine sane.survivor_set found rfl Iff.rfl ?_
    intro taken preferred alive
    exact ⟨_, mem_set_of_found found, taken, preferred, stillAlive rfl alive⟩

/-- Where the owner of an end has no named end, that end may be named. -/
theorem Sane.unique_recognized (sane : Sane smaller sockets) (found : sockets[place]? = some socket)
    (free : ∀ held ∈ sockets, ∀ heldSide, held.owner heldSide = socket.owner side →
      held.standing heldSide ≠ .named) :
    SingleNamed (sockets.set place (socket.recognized side)) := by
  have sameDialer := socket.dialer_recognized side
  have only : ∀ {other : Nat} {after : Socket} {otherSide : Side},
      (sockets.set place (socket.recognized side))[other]? = some after →
        after.standing otherSide = .named → after.owner otherSide = socket.owner side →
          other = place := by
    intro other after otherSide search named together
    rcases getElem?_of_set found search with ⟨same, -⟩ | ⟨-, old⟩
    · exact same.symm
    · exact absurd named (free after (List.mem_of_getElem? old) otherSide together)
  have kept : ∀ {after : Socket} {otherSide : Side}, after.standing otherSide = .named →
      after.owner otherSide ≠ socket.owner side → socket.recognized side = after →
        socket.standing otherSide = .named := by
    rintro _ otherSide named apart rfl
    cases side <;> cases otherSide <;>
      first
      | exact named
      | exact absurd (Socket.owner_eq_of_dialer_eq sameDialer _) apart
  intro leftPlace rightPlace left right leftSide rightSide leftFound rightFound leftNamed rightNamed
    together
  by_cases owned : left.owner leftSide = socket.owner side
  · rw [only leftFound leftNamed owned, only rightFound rightNamed (together ▸ owned)]
  · obtain ⟨leftOld, leftOldFound, leftOldNamed, leftOwner⟩ :=
      exists_named_of_set found sameDialer leftFound leftNamed (kept leftNamed owned)
    obtain ⟨rightOld, rightOldFound, rightOldNamed, rightOwner⟩ :=
      exists_named_of_set found sameDialer rightFound rightNamed (kept rightNamed (together ▸ owned))
    exact sane.unique _ _ _ _ _ _ leftOldFound rightOldFound leftOldNamed rightOldNamed
      (by rw [leftOwner, rightOwner, together])

theorem Sane.recognized (sane : Sane smaller sockets) (found : sockets[place]? = some socket)
    (unnamed : socket.standing side = .unnamed) (underway : socket.incoming side = .underway)
    (free : ∀ held ∈ sockets, ∀ heldSide, held.owner heldSide = socket.owner side →
      held.standing heldSide ≠ .named) : Sane smaller (sockets.set place (socket.recognized side)) := by
  have member := List.mem_of_getElem? found
  have shaped := sane.shaped socket member
  have wasTaken : socket.Taken := shaped.taken_of_underway underway
  have isTaken : (socket.recognized side).Taken := by
    cases side with
    | caller => exact wasTaken
    | callee => exact Saying.noConfusion
  have sameDialer := socket.dialer_recognized side
  refine ⟨shaped_set sane.shaped (shaped.recognized unnamed underway),
    sane.unique_recognized found free, ?_, ?_⟩
  · refine sane.answered_set found sameDialer (fun _ => isTaken) ?_
    intro preferred said
    cases side with
    | caller =>
        have answered : socket.answer ≠ .unsaid := by
          intro unsaid
          rw [show socket.answer = .underway from underway] at unsaid
          cases unsaid
        exact ⟨Standing.noConfusion, (sane.answered socket member preferred answered).2⟩
    | callee =>
        refine ⟨?_, Standing.noConfusion⟩
        exact shaped.caller_open_of_greeting underway
  · refine sane.survivor_set found sameDialer ⟨fun _ => wasTaken, fun _ => isTaken⟩ ?_
    intro taken preferred alive
    refine ⟨_, mem_set_of_found found, isTaken, ?_, ?_⟩
    · rw [sameDialer]
      exact preferred
    · cases side with
      | caller => exact ⟨Standing.noConfusion, alive.2⟩
      | callee => exact ⟨alive.1, Standing.noConfusion⟩

/-- An end with the name is not on the other side than an outranking end that fails to take it. -/
theorem Sane.same_side_of_outranked (sane : Sane smaller sockets)
    (heldFound : sockets[heldPlace]? = some held) (named : held.standing heldSide = .named)
    (together : held.owner heldSide = socket.owner side)
    (outranked : heldSide ≠ side → socket.dialer ≠ smaller)
    (preferred : Preferred smaller sockets socket.dialer) : heldSide = side := by
  by_contra opposite
  have larger := outranked opposite
  have apart : held.dialer ≠ socket.dialer := fun same =>
    opposite ((Socket.dialer_eq_iff together).mp same)
  have heldSmaller : held.dialer = smaller := by
    rw [Party.eq_other_of_ne apart, Party.eq_other_of_ne larger, Party.other_other]
  have member := List.mem_of_getElem? heldFound
  rcases preferred with smallest | others
  · exact larger smallest
  · exact others held member ((sane.shaped held member).taken_of_named named) heldSmaller

theorem place_ne_of_standing (found : sockets[place]? = some socket)
    (unnamed : socket.standing side = .unnamed) (heldFound : sockets[heldPlace]? = some held)
    (named : held.standing side = .named) : place ≠ heldPlace := by
  rintro rfl
  rw [found] at heldFound
  cases heldFound
  rw [named] at unnamed
  cases unnamed

/-- Two answered sockets of one rank would both be named at their callee, so an outranking socket is
not turned away by its caller. -/
theorem Sane.callee_of_outranked (sane : Sane smaller sockets)
    (found : sockets[place]? = some socket) (unnamed : socket.standing side = .unnamed)
    (underway : socket.incoming side = .underway) (heldFound : sockets[heldPlace]? = some held)
    (named : held.standing heldSide = .named) (together : held.owner heldSide = socket.owner side)
    (outranked : heldSide ≠ side → socket.dialer ≠ smaller)
    (preferred : Preferred smaller sockets socket.dialer) : side ≠ .caller := by
  rintro rfl
  have member := List.mem_of_getElem? found
  have heldMember := List.mem_of_getElem? heldFound
  have heldShaped := sane.shaped held heldMember
  obtain rfl := sane.same_side_of_outranked heldFound named together outranked preferred
  have sameRank : held.dialer = socket.dialer := (Socket.dialer_eq_iff together).mpr rfl
  have answered : socket.answer ≠ .unsaid := by
    rw [show socket.answer = .underway from underway]
    exact Saying.noConfusion
  have heldAnswered := heldShaped.answered_of_named named
  have calleeNamed := (sane.shaped socket member).callee_named answered
    (sane.answered socket member preferred answered)
  have heldCalleeNamed := heldShaped.callee_named heldAnswered
    (sane.answered held heldMember (sameRank ▸ preferred) heldAnswered)
  exact place_ne_of_standing found unnamed heldFound named
    (sane.unique place heldPlace socket held .callee .callee found heldFound calleeNamed
      heldCalleeNamed (Socket.owner_eq_of_dialer_eq sameRank.symm .callee))

theorem Sane.refused (sane : Sane smaller sockets) (found : sockets[place]? = some socket)
    (unnamed : socket.standing side = .unnamed) (underway : socket.incoming side = .underway)
    (heldFound : sockets[heldPlace]? = some held) (named : held.standing heldSide = .named)
    (together : held.owner heldSide = socket.owner side)
    (outranked : heldSide ≠ side → socket.dialer ≠ smaller) :
    Sane smaller (sockets.set place ((socket.hearing side).shut side)) := by
  have shaped := sane.shaped socket (List.mem_of_getElem? found)
  have heldMember := List.mem_of_getElem? heldFound
  have heldShaped := sane.shaped held heldMember
  have wasTaken : socket.Taken := shaped.taken_of_underway underway
  have sameDialer : ((socket.hearing side).shut side).dialer = socket.dialer := by
    rw [Socket.dialer_shut, Socket.dialer_hearing]
  have isTaken : ((socket.hearing side).shut side).Taken := by
    cases side with
    | caller => exact wasTaken
    | callee => exact Saying.noConfusion
  refine ⟨shaped_set sane.shaped (shaped.refused unnamed underway), ?_, ?_, ?_⟩
  · refine sane.unique_set found sameDialer ?_
    intro other otherNamed
    cases side <;> cases other <;> first | exact otherNamed | cases otherNamed
  · refine sane.answered_set found sameDialer (fun _ => isTaken) ?_
    intro preferred said
    cases side with
    | caller =>
        exact absurd rfl (sane.callee_of_outranked found unnamed underway heldFound named together
          outranked preferred)
    | callee =>
        have greeted : socket.greeting = .underway := underway
        exact absurd (shaped.unanswered_of_greeting greeted) said
  · refine sane.survivor_set found sameDialer ⟨fun _ => wasTaken, fun _ => isTaken⟩ ?_
    intro _ preferred _
    -- The end with the name is on the same side, so its socket has the same rank and survives.
    obtain rfl := sane.same_side_of_outranked heldFound named together outranked preferred
    have sameRank : held.dialer = socket.dialer := (Socket.dialer_eq_iff together).mpr rfl
    have heldPreferred : Preferred smaller sockets held.dialer := sameRank ▸ preferred
    refine ⟨held, List.mem_iff_getElem?.mpr ⟨heldPlace, ?_⟩, heldShaped.taken_of_named named,
      heldPreferred,
      sane.answered held heldMember heldPreferred (heldShaped.answered_of_named named)⟩
    rw [getElem?_set_of_found found,
      if_neg (place_ne_of_standing found unnamed heldFound named), heldFound]

theorem Sane.displaced (sane : Sane smaller sockets) (found : sockets[place]? = some socket)
    (unnamed : socket.standing side = .unnamed) (underway : socket.incoming side = .underway)
    (heldFound : sockets[heldPlace]? = some held) (named : held.standing heldSide = .named)
    (together : held.owner heldSide = socket.owner side) (opposite : heldSide ≠ side)
    (preferred : socket.dialer = smaller) :
    Sane smaller ((sockets.set heldPlace (held.shut heldSide)).set place (socket.recognized side)) := by
  have member := List.mem_of_getElem? found
  have heldMember := List.mem_of_getElem? heldFound
  have apart : held.dialer ≠ socket.dialer := fun same =>
    opposite ((Socket.dialer_eq_iff together).mp same)
  have elsewhere : heldPlace ≠ place := by
    rintro rfl
    rw [found] at heldFound
    cases heldFound
    exact apart rfl
  have closed : Sane smaller (sockets.set heldPlace (held.shut heldSide)) := by
    refine sane.shut heldFound ((sane.shaped held heldMember).displaced named) ?_
    intro _ heldPreferred _
    rcases heldPreferred with smallest | others
    · exact apart (smallest.trans preferred.symm)
    · exact others socket member ((sane.shaped socket member).taken_of_underway underway) preferred
  refine closed.recognized ?_ unnamed underway ?_
  · rw [getElem?_set_of_found heldFound, if_neg elsewhere, found]
  · intro other otherMember otherSide otherOwned otherNamed
    obtain ⟨otherPlace, otherFound⟩ := List.mem_iff_getElem?.mp otherMember
    rw [getElem?_set_of_found heldFound] at otherFound
    split at otherFound
    · cases otherFound
      have sameOwner : held.owner otherSide = held.owner heldSide := by
        rw [together, ← otherOwned]
        exact Socket.owner_eq_of_dialer_eq (held.dialer_shut heldSide).symm otherSide
      obtain rfl := (Socket.dialer_eq_iff sameOwner).mp rfl
      cases otherSide <;> cases otherNamed
    · rename_i different
      exact different (sane.unique _ _ _ _ _ _ heldFound otherFound named otherNamed
        (together.trans otherOwned.symm))

end Steps

theorem Step.sane {smaller : Party} {before after : List Socket} (step : Step smaller before after)
    (sane : Sane smaller before) : Sane smaller after := by
  cases step with
  | opened dialer => exact sane.opened dialer
  | taken found absent => exact sane.taken found absent
  | abandoned found absent =>
      have shaped := sane.shaped _ (List.mem_of_getElem? found)
      refine sane.shut found (shaped.abandoned absent) ?_
      intro taken
      exact absurd (shaped.unsaid_of_absent absent).1 taken
  | accepted found absent => exact sane.accepted found absent
  | recognized found unnamed underway free => exact sane.recognized found unnamed underway free
  | displaced found unnamed underway heldFound named together opposite preferred =>
      exact sane.displaced found unnamed underway heldFound named together opposite preferred
  | refused found unnamed underway heldFound named together outranked =>
      exact sane.refused found unnamed underway heldFound named together outranked
  | @noticed place socket side found ended present =>
      refine sane.shut found ((sane.shaped _ (List.mem_of_getElem? found)).noticed ended present) ?_
      rintro _ _ ⟨callerOpen, calleeOpen⟩
      cases side with
      | caller => exact calleeOpen ended
      | callee => exact callerOpen ended

/-! ## Quiet sockets -/

/-- Nothing is left to do on a socket: both parties have dealt with their end, no line is underway
between open ends, and each end is closed if the other is. -/
structure Socket.Quiet (socket : Socket) : Prop where
  settled : ∀ side, socket.standing side ≠ .absent
  delivered : socket.Alive → ∀ side, socket.incoming side ≠ .underway
  noticed : ∀ side, socket.standing side.other = .gone → socket.standing side = .gone

/-- Where all sockets are quiet and one was taken, one socket is left, with both ends named. -/
theorem Sane.one_left {smaller : Party} {sockets : List Socket} (sane : Sane smaller sockets)
    (quiet : ∀ socket ∈ sockets, socket.Quiet) (taken : ∃ socket ∈ sockets, socket.Taken) :
    ∃ (place : Nat) (socket : Socket), sockets[place]? = some socket ∧
      (∀ side, socket.standing side = .named) ∧
      ∀ (other : Nat) (gone : Socket), sockets[other]? = some gone → other ≠ place →
        ∀ side, gone.standing side = .gone := by
  have named_of_alive : ∀ socket ∈ sockets, socket.Alive → ∀ side, socket.standing side = .named := by
    intro socket member alive side
    have still := quiet socket member
    exact (sane.shaped socket member).named_of_quiet alive (still.settled .caller)
      (still.delivered alive) side
  obtain ⟨socket, member, -, -, alive⟩ := sane.survivor taken
  obtain ⟨place, found⟩ := List.mem_iff_getElem?.mp member
  have named := named_of_alive socket member alive
  refine ⟨place, socket, found, named, ?_⟩
  intro other gone otherFound different
  have goneMember := List.mem_of_getElem? otherFound
  have dead : ¬ gone.Alive := by
    intro otherAlive
    have otherNamed := named_of_alive gone goneMember otherAlive
    by_cases sameRank : gone.dialer = socket.dialer
    · exact different (sane.unique _ _ _ _ .caller .caller otherFound found (otherNamed _) (named _)
        sameRank)
    · exact different (sane.unique _ _ _ _ .caller .callee otherFound found (otherNamed _) (named _)
        (Party.eq_other_of_ne sameRank))
  have noticed := (quiet gone goneMember).noticed
  by_cases callerGone : gone.caller = .gone
  · intro side
    cases side with
    | caller => exact callerGone
    | callee => exact noticed .callee callerGone
  · have calleeGone : gone.callee = .gone := by
      by_contra calleeOpen
      exact dead ⟨callerGone, calleeOpen⟩
    exact absurd (noticed .caller calleeGone) callerGone

end PeerMesh.Crossing
