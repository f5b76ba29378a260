import PeerMesh.Proofs.Crossing.Pumping

/-!
# Lines that are read to their end

When a node has read the whole line of the other, the end that it came in on gets the name, takes it
from another end, or is closed because another end keeps it. Which of these it is depends on the
direction of the two ends and on the order of the identifiers, as in the steps of the sockets.
-/

set_option autoImplicit false

namespace PeerMesh.Crossing

section Rank

variable {ids : Party → String}

theorem eq_smallerOf_iff (different : ids .left ≠ ids .right) (party : Party) :
    party = smallerOf ids ↔ ids party < ids party.other := by
  unfold smallerOf
  cases party with
  | left =>
      split
      · rename_i smaller
        exact iff_of_true rfl smaller
      · rename_i larger
        exact iff_of_false (by decide) larger
  | right =>
      split
      · rename_i smaller
        exact iff_of_false (by decide) (String.lt_asymm smaller)
      · rename_i larger
        refine iff_of_true rfl ?_
        by_contra otherLarger
        exact different
          (String.le_antisymm (String.not_lt.mp otherLarger) (String.not_lt.mp larger))

/-- The dialer of a socket has the smaller identifier exactly if the owner of an end prefers the side
of that end. -/
theorem dialer_eq_smallerOf_iff (different : ids .left ≠ ids .right) {socket : Socket} {side : Side}
    {party : Party} (owner : socket.owner side = party) :
    socket.dialer = smallerOf ids ↔ (side = .caller ↔ ids party < ids party.other) := by
  rw [← eq_smallerOf_iff different, ← owner]
  cases side with
  | caller => simp [Socket.owner]
  | callee =>
      simp only [Socket.owner, reduceCtorEq, false_iff]
      generalize smallerOf ids = smaller
      cases socket.dialer <;> cases smaller <;> decide

end Rank

section Moves

variable {ids : Party → String} {state : State} {node : Party → Node} {sockets : List Socket}
  {party : Party} {link : Link} {socket : Socket} {stream : Stream} {count : Nat}

/-- What a link reads are bytes of a line that is underway. -/
theorem Pumps.underway (pumps : Pumps ids state node sockets party link socket stream)
    (some_ : count ≠ 0) (enough : count ≤ (stream.flowTo link.socket.side).pending.length) :
    socket.incoming link.socket.side = .underway := by
  have transit := (pumps.mirrored link.socket.side).transit
    (by rw [pumps.view]; exact not_dropped_some)
  have filled : (stream.flowTo link.socket.side).pending ≠ [] := by
    intro nothing
    rw [nothing] at enough
    exact some_ (Nat.le_zero.mp enough)
  cases saying : socket.incoming link.socket.side with
  | underway => rfl
  | unsaid =>
      rw [saying] at transit
      exact absurd transit.2.1 filled
  | heard =>
      rw [saying] at transit
      exact absurd transit.1 filled

theorem Pumps.line_eq (pumps : Pumps ids state node sockets party link socket stream) :
    Hello.line (ids (socket.owner link.socket.side.other)) = Hello.line (ids party.other) := by
  rw [Socket.owner_other, pumps.owner]

theorem Pumps.unheard (pumps : Pumps ids state node sockets party link socket stream)
    (underway : socket.incoming link.socket.side = .underway) :
    ((node party).progress link.slot).heard = false := by
  have delivery := pumps.mirrored link.socket.side
  rw [pumps.view, underway] at delivery
  have heard := delivery.heard _ rfl
  exact Bool.eq_false_iff.mpr fun yes => absurd (heard.mp yes) (by decide)

theorem Pumps.reads_front (pumps : Pumps ids state node sockets party link socket stream)
    (mirrors : Mirrors ids state node sockets) (presentable : ∀ party, Presentable (ids party))
    (underway : socket.incoming link.socket.side = .underway)
    (proper : ((node party).progress link.slot).buffer ++
      (stream.flowTo link.socket.side).pending.take count ≠ Hello.line (ids party.other))
    {mesh : Mesh} {around : Surroundings} {moment : Nat}
    (shown : Shows mesh ids (Function.update node party ((node party).received around link.slot
      ((stream.flowTo link.socket.side).pending.take count) moment)))
    (streams : mesh.streams = state.mesh.streams.set link.socket.stream
      (stream.changeFlowTo link.socket.side fun flow => flow.advance count)) :
    Follows ids sockets (state.withMesh mesh) := by
  have delivery := pumps.mirrored link.socket.side
  rw [pumps.view, underway, pumps.line_eq] at delivery
  have front : ((node party).progress link.slot).buffer ++
      (stream.flowTo link.socket.side).pending.take count <+: Hello.line (ids party.other) :=
    (delivery.transit not_dropped_some).front
  obtain ⟨engaged, ends⟩ := (mirrors.partner party).engaged.received_front
    (presentable party.other).sayable pumps.member (pumps.unheard underway) front proper around moment
  obtain ⟨after, listeners, agenda⟩ :=
    (mirrors.partner party).received pumps.member around _ moment engaged
  exact pumps.follows mirrors shown after listeners agenda ends streams
    (pumps.mirrored.front pumps.view underway (by rw [pumps.line_eq]; exact proper))
    (resembles_refl socket) (.inl (set_self pumps.socketFound))

/-- If no end that a node pumps is named, none is that the party owns. -/
theorem Mirrors.unnamed_of_unheld (mirrors : Mirrors ids state node sockets)
    (unheld : ∀ other ∈ (node party).links, ((node party).endOf other).standing ≠ .named) :
    ∀ held ∈ sockets, ∀ heldSide, held.owner heldSide = party → held.standing heldSide ≠ .named := by
  intro held heldMember heldSide owner named
  obtain ⟨place, socketFound⟩ := List.mem_iff_getElem?.mp heldMember
  obtain ⟨stream, streamFound⟩ := mirrors.reflected.stream?_isSome socketFound
  have fits := (mirrors.reflected.mirrored place held stream socketFound streamFound heldSide).fits
  cases search : endsOf (fun party => (node party).endAt?) held place heldSide with
  | none =>
      rw [search, named] at fits
      rcases fits with absent | gone
      · cases absent
      · cases gone
  | some view =>
      rw [search] at fits
      rw [endsOf, owner] at search
      obtain ⟨other, otherMember, -, rfl⟩ := Node.exists_link_of_endAt? search
      exact unheld other otherMember (fits.1.trans named)

/-- Two ends of one node on different sides belong to different sockets. -/
theorem Pumps.place_ne (pumps : Pumps ids state node sockets party link socket stream)
    {holder : Link} {held : Socket} {heldStream : Stream}
    (holds : Pumps ids state node sockets party holder held heldStream)
    (opposite : holder.socket.side ≠ link.socket.side) :
    holder.socket.stream ≠ link.socket.stream := by
  intro same
  have heldFound := holds.socketFound
  rw [same, pumps.socketFound] at heldFound
  cases heldFound
  exact opposite ((Socket.dialer_eq_iff (holds.owner.trans pumps.owner.symm)).mp rfl)

/-- The end that has heard its line takes the name from another, which is closed. -/
theorem Pumps.reflected_displaced (pumps : Pumps ids state node sockets party link socket stream)
    (mirrors : Mirrors ids state node sockets) (shaped : ∀ socket ∈ sockets, socket.Shaped)
    {holder : Link} {held : Socket} {heldStream : Stream}
    (holds : Pumps ids state node sockets party holder held heldStream)
    (opposite : holder.socket.side ≠ link.socket.side)
    (named : held.standing holder.socket.side = .named)
    (underway : socket.incoming link.socket.side = .underway)
    (whole : ((node party).endOf link).progress.buffer ++
      (stream.flowTo link.socket.side).pending.take count =
        Hello.line (ids (socket.owner link.socket.side.other))) {answer : Bytes}
    (answers : answer = if link.socket.side = .caller then []
      else Hello.line (ids (socket.owner link.socket.side))) :
    Reflected ids
      (Function.update (fun party => (node party).endAt?) party
        (Function.update (Function.update (node party).endAt? holder.socket
          (some (((node party).endOf holder).stood .gone))) link.socket
          (some (Node.welcomed ((node party).endOf link) answer))))
      (state.mesh.streams.set link.socket.stream
        (stream.changeFlowTo link.socket.side fun flow => flow.advance count))
      ((sockets.set holder.socket.stream (held.shut holder.socket.side)).set link.socket.stream
        (socket.recognized link.socket.side)) := by
  have apart := pumps.place_ne holds opposite
  have told := (shaped held (List.mem_of_getElem? holds.socketFound)).heard_of_named named
  have closing := holds.mirrored.closed holds.view told
  have closed := mirrors.reflected.set holds.socketFound holds.streamFound holds.owner closing
    (held.dialer_shut holder.socket.side)
  rw [set_self holds.streamFound] at closed
  have socketFound : (sockets.set holder.socket.stream (held.shut holder.socket.side))[
      link.socket.stream]? = some socket := by
    rw [getElem?_set_of_found holds.socketFound, if_neg apart, pumps.socketFound]
  have mirrored := closed.mirrored link.socket.stream socket stream socketFound pumps.streamFound
  have view : endsOf (Function.update (fun party => (node party).endAt?) party
      (Function.update (node party).endAt? holder.socket
        (some (((node party).endOf holder).stood .gone)))) socket link.socket.stream
          link.socket.side = some ((node party).endOf link) := by
    have own := pumps.view
    rw [endsOf, pumps.owner] at own ⊢
    rw [Function.update_self, Function.update_of_ne]
    · exact own
    · intro same
      exact opposite (congrArg Endpoint.side same).symm
  have recognized := mirrored.recognized (shaped socket (List.mem_of_getElem? pumps.socketFound)) view
    underway whole answers
  have reflected := closed.set socketFound pumps.streamFound pumps.owner recognized
    (socket.dialer_recognized link.socket.side)
  rw [Function.update_idem, Function.update_self] at reflected
  exact reflected

/-- A line is read on an end that has no name yet. -/
theorem Pumps.unnamed (pumps : Pumps ids state node sockets party link socket stream)
    (shaped : ∀ socket ∈ sockets, socket.Shaped)
    (underway : socket.incoming link.socket.side = .underway) :
    socket.standing link.socket.side = .unnamed := by
  cases standing : socket.standing link.socket.side with
  | unnamed => rfl
  | absent => exact absurd standing pumps.fits.2
  | named =>
      have heard := (shaped socket (List.mem_of_getElem? pumps.socketFound)).heard_of_named standing
      rw [underway] at heard
      cases heard
  | gone =>
      have delivery := pumps.mirrored link.socket.side
      rw [pumps.view, underway] at delivery
      exact absurd (delivery.told _ rfl standing) (by decide)

/-- The callee answers a line with its own, and the caller has sent its line before. -/
theorem Pumps.answer_eq (pumps : Pumps ids state node sockets party link socket stream)
    (mirrors : Mirrors ids state node sockets)
    (underway : socket.incoming link.socket.side = .underway) :
    (node party).answer link.slot = if link.socket.side = .caller then []
      else Hello.line (ids (socket.owner link.socket.side)) := by
  have delivery := pumps.mirrored link.socket.side
  rw [pumps.view, underway] at delivery
  have initiated := delivery.initiated _ rfl (pumps.unheard underway)
  change (if ((node party).endOf link).progress.initiated = true then [] else _) = _
  simp only [initiated, pumps.owner, (mirrors.partner party).id_eq]

/-- The end takes the name from another, which is closed, and the sockets take the step. -/
theorem Pumps.displaces (pumps : Pumps ids state node sockets party link socket stream)
    (mirrors : Mirrors ids state node sockets) (shaped : ∀ socket ∈ sockets, socket.Shaped)
    {holder : Link} (holderMember : holder ∈ (node party).links)
    (named : ((node party).endOf holder).standing = .named)
    (opposite : holder.socket.side ≠ link.socket.side)
    (preferred : socket.dialer = smallerOf ids)
    (underway : socket.incoming link.socket.side = .underway)
    (whole : ((node party).endOf link).progress.buffer ++
      (stream.flowTo link.socket.side).pending.take count =
        Hello.line (ids (socket.owner link.socket.side.other))) {mesh : Mesh} {after : Node}
    (shown : Shows mesh ids (Function.update node party after))
    (partner : after.Partner (ids party) (ids party.other))
    (listeners : after.listeners = (node party).listeners)
    (agenda : after.agenda = (node party).agenda)
    (ends : after.endAt? = Function.update (Function.update (node party).endAt? holder.socket
      (some (((node party).endOf holder).stood .gone))) link.socket
        (some (Node.welcomed ((node party).endOf link) ((node party).answer link.slot))))
    (streams : mesh.streams = state.mesh.streams.set link.socket.stream
      (stream.changeFlowTo link.socket.side fun flow => flow.advance count)) :
    Follows ids sockets (state.withMesh mesh) := by
  obtain ⟨held, heldStream, holds⟩ := mirrors.exists_pumps holderMember
  have heldNamed := holds.fits.1.symm.trans named
  have reflected := pumps.reflected_displaced mirrors shaped holds opposite heldNamed underway whole
    (pumps.answer_eq mirrors underway)
  have shut := resembles_shut holds.fits.2
  have resembles := resembles_recognized pumps.fits.2
  have dialed := mirrors.dialed.resembling holds.socketFound shut
  have queued := mirrors.queued.resembling mirrors.dialed.lengths holds.socketFound shut
  have socketFound : (sockets.set holder.socket.stream (held.shut holder.socket.side))[
      link.socket.stream]? = some socket := by
    rw [getElem?_set_of_found holds.socketFound, if_neg (pumps.place_ne holds opposite),
      pumps.socketFound]
  refine ⟨_, _, mirrors.pumped shown partner listeners agenda
    (dialed.resembling socketFound resembles)
    (queued.resembling dialed.lengths socketFound resembles) ?_,
    .inr (.displaced pumps.socketFound (pumps.unnamed shaped underway) underway holds.socketFound
      heldNamed (holds.owner.trans pumps.owner.symm) opposite preferred)⟩
  rw [ends, streams]
  exact reflected

theorem Pumps.reads_whole (pumps : Pumps ids state node sockets party link socket stream)
    (mirrors : Mirrors ids state node sockets) (presentable : ∀ party, Presentable (ids party))
    (different : ids .left ≠ ids .right) (shaped : ∀ socket ∈ sockets, socket.Shaped)
    (underway : socket.incoming link.socket.side = .underway)
    (whole : ((node party).progress link.slot).buffer ++
      (stream.flowTo link.socket.side).pending.take count = Hello.line (ids party.other))
    {mesh : Mesh} {around : Surroundings}
    (welcome : Node.nameRefusal? around (ids party.other) = none) {moment : Nat}
    (shown : Shows mesh ids (Function.update node party ((node party).received around link.slot
      ((stream.flowTo link.socket.side).pending.take count) moment)))
    (streams : mesh.streams = state.mesh.streams.set link.socket.stream
      (stream.changeFlowTo link.socket.side fun flow => flow.advance count)) :
    Follows ids sockets (state.withMesh mesh) := by
  have partner := mirrors.partner party
  have unnamed := pumps.unnamed shaped underway
  have wholeNow : ((node party).endOf link).progress.buffer ++
      (stream.flowTo link.socket.side).pending.take count =
        Hello.line (ids (socket.owner link.socket.side.other)) := whole.trans pumps.line_eq.symm
  obtain ⟨engaged, outcome⟩ := partner.engaged.received_whole (presentable party.other).sayable
    pumps.member (pumps.fits.1.trans unnamed) (pumps.unheard underway) whole welcome moment
  obtain ⟨after, listeners, agenda⟩ := partner.received pumps.member around _ moment engaged
  have ranks := dialer_eq_smallerOf_iff different pumps.owner
  generalize (node party).received around link.slot
    ((stream.flowTo link.socket.side).pending.take count) moment = result at *
  rcases outcome with winning | ⟨⟨holder, holderMember, named, outranked⟩, ends⟩
  · generalize ends : result.endAt? = changed at winning
    cases winning with
    | free unheld =>
        refine pumps.follows mirrors shown after listeners agenda ends streams
          (pumps.mirrored.recognized (shaped socket (List.mem_of_getElem? pumps.socketFound)) pumps.view
            underway wholeNow (pumps.answer_eq mirrors underway))
          (resembles_recognized pumps.fits.2)
          (.inr (.recognized pumps.socketFound unnamed underway ?_))
        rw [pumps.owner]
        exact mirrors.unnamed_of_unheld unheld
    | taken holder holderMember named opposite preferred =>
        rw [partner.id_eq] at preferred
        exact pumps.displaces mirrors shaped holderMember named opposite (ranks.mpr preferred) underway
          wholeNow shown after listeners agenda ends streams
  · obtain ⟨held, heldStream, holds⟩ := mirrors.exists_pumps holderMember
    rw [partner.id_eq] at outranked
    refine pumps.follows mirrors shown after listeners agenda ends streams
      (pumps.mirrored.refused pumps.view underway wholeNow) (resembles_refused pumps.fits.2)
      (.inr (.refused pumps.socketFound unnamed underway holds.socketFound
        (holds.fits.1.symm.trans named) (holds.owner.trans pumps.owner.symm) ?_))
    intro opposite smaller
    exact outranked opposite (ranks.mp smaller)

theorem Mirrors.reads (mirrors : Mirrors ids state node sockets)
    (presentable : ∀ party, Presentable (ids party)) (different : ids .left ≠ ids .right)
    (shaped : ∀ socket ∈ sockets, socket.Shaped) (party : Party) (slot : Slot) (count : Nat) :
    Follows ids sockets (state.step (.reads party slot count)) := by
  simp only [State.step, Mesh.step, mirrors.shown.link?_eq]
  cases search : (node party).link? slot with
  | none => exact mirrors.stays
  | some link =>
      obtain ⟨member, -⟩ := link?_eq_some search
      obtain ⟨socket, stream, pumps⟩ := mirrors.exists_pumps member
      simp only [Option.elim_some, Mesh.readLink, pumps.flowTo.1]
      split
      · exact mirrors.stays
      · rename_i possible
        simp only [Bool.or_eq_true, decide_eq_true_eq, not_or, Nat.not_lt] at possible
        obtain ⟨⟨some_, -⟩, enough⟩ := possible
        have underway := pumps.underway some_ enough
        have changed := mirrors.shown.changeFlowTo link.socket fun flow => flow.advance count
        obtain ⟨around, welcome, stepped⟩ := changed.stepNode party
        rw [stepped]
        have shown := changed.updateNode party fun _ => (node party).received around link.slot
          ((stream.flowTo link.socket.side).pending.take count) state.mesh.moment
        have streams : (state.mesh.changeFlowTo link.socket fun flow => flow.advance count).streams =
            state.mesh.streams.set link.socket.stream
              (stream.changeFlowTo link.socket.side fun flow => flow.advance count) :=
          modify_eq_set pumps.streamFound _
        by_cases whole : ((node party).progress link.slot).buffer ++
            (stream.flowTo link.socket.side).pending.take count = Hello.line (ids party.other)
        · exact pumps.reads_whole mirrors presentable different shaped underway whole welcome shown
            streams
        · exact pumps.reads_front mirrors presentable underway whole shown streams

end Moves

end PeerMesh.Crossing
