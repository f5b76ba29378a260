import PeerMesh.Proofs.Crossing.Dialing

/-!
# Bytes and ends in the course of two nodes

What the tasks that pump the two nodes' ends do: to write and to read a front part of a line leaves
the sockets as they are; to read a whole line and to find an end closed are steps of the sockets.
-/

set_option autoImplicit false

namespace PeerMesh.Crossing

section Moves

variable {ids : Party → String} {state : State} {node : Party → Node} {sockets : List Socket}
  {party : Party} {link : Link} {socket changed : Socket} {stream : Stream}

theorem Shows.link?_eq {mesh : Mesh} (shown : Shows mesh ids node) (party : Party) (slot : Slot) :
    mesh.link? party.number slot = (node party).link? slot := by
  rw [Mesh.link?, shown.node?_eq, Option.bind_some]

theorem link?_eq_some {node : Node} {slot : Slot} (found : node.link? slot = some link) :
    link ∈ node.links ∧ link.slot = slot :=
  ⟨List.mem_of_find?_eq_some found, by simpa using List.find?_some found⟩

/-- The socket whose end a link pumps. -/
structure Pumps (ids : Party → String) (state : State) (node : Party → Node) (sockets : List Socket)
    (party : Party) (link : Link) (socket : Socket) (stream : Stream) : Prop where
  member : link ∈ (node party).links
  socketFound : sockets[link.socket.stream]? = some socket
  streamFound : state.mesh.streams[link.socket.stream]? = some stream
  owner : socket.owner link.socket.side = party
  mirrored : Mirrored ids socket (endsOf (fun party => (node party).endAt?) socket link.socket.stream)
    stream
  view : endsOf (fun party => (node party).endAt?) socket link.socket.stream link.socket.side =
    some ((node party).endOf link)

theorem Mirrors.exists_pumps (mirrors : Mirrors ids state node sockets)
    (member : link ∈ (node party).links) :
    ∃ socket stream, Pumps ids state node sockets party link socket stream := by
  have view := (mirrors.partner party).engaged.linked.endAt?_of_mem member
  obtain ⟨socket, socketFound, owner⟩ := mirrors.reflected.known party link.socket _ view
  obtain ⟨stream, streamFound⟩ := mirrors.reflected.stream?_isSome socketFound
  refine ⟨socket, stream, member, socketFound, streamFound, owner,
    mirrors.reflected.mirrored _ _ _ socketFound streamFound, ?_⟩
  rw [endsOf, owner]
  exact view

theorem Pumps.fits (pumps : Pumps ids state node sockets party link socket stream) :
    ((node party).endOf link).standing = socket.standing link.socket.side ∧
      socket.standing link.socket.side ≠ .absent := by
  have fits := (pumps.mirrored link.socket.side).fits
  rw [pumps.view] at fits
  exact fits

theorem Pumps.flowTo (pumps : Pumps ids state node sockets party link socket stream) :
    state.mesh.flowTo link.socket = some (stream.flowTo link.socket.side) ∧
      state.mesh.flowTo link.socket.peer = some (stream.flowTo link.socket.side.other) := by
  constructor
  · rw [Mesh.flowTo, pumps.streamFound]
    rfl
  · change (state.mesh.streams[link.socket.stream]?).map _ = _
    rw [pumps.streamFound]
    rfl

/-- A node has done something to its ends, and to nothing else. -/
theorem Mirrors.pumped (mirrors : Mirrors ids state node sockets) {mesh : Mesh} {after : Node}
    {later : List Socket} (shown : Shows mesh ids (Function.update node party after))
    (partner : after.Partner (ids party) (ids party.other))
    (listeners : after.listeners = (node party).listeners)
    (agenda : after.agenda = (node party).agenda)
    (dialed : Dialed (fun party => (node party).agenda) state.openings later)
    (queued : Queued (fun party => (node party).listeners) state.openings later)
    (reflected : Reflected ids (Function.update (fun party => (node party).endAt?) party after.endAt?)
      mesh.streams later) :
    Mirrors ids (state.withMesh mesh) (Function.update node party after) later := by
  refine mirrors.of_party shown partner ?_ ?_ reflected
  · rw [agenda, Function.update_eq_self]
    exact dialed
  · rw [listeners, Function.update_eq_self]
    exact queued

/-- The end of a link changes, and its socket stays as it is or takes a step. -/
theorem Pumps.follows (pumps : Pumps ids state node sockets party link socket stream)
    (mirrors : Mirrors ids state node sockets) {mesh : Mesh} {after : Node} {later : Stream}
    {view : Option End} (shown : Shows mesh ids (Function.update node party after))
    (partner : after.Partner (ids party) (ids party.other))
    (listeners : after.listeners = (node party).listeners)
    (agenda : after.agenda = (node party).agenda)
    (ends : after.endAt? = Function.update (node party).endAt? link.socket view)
    (streams : mesh.streams = state.mesh.streams.set link.socket.stream later)
    (mirrored : Mirrored ids changed (Function.update
      (endsOf (fun party => (node party).endAt?) socket link.socket.stream) link.socket.side view)
      later)
    (resembles : Resembles socket changed)
    (step : sockets.set link.socket.stream changed = sockets ∨
      Step (smallerOf ids) sockets (sockets.set link.socket.stream changed)) :
    Follows ids sockets (state.withMesh mesh) := by
  have reflected := mirrors.reflected.set pumps.socketFound pumps.streamFound pumps.owner mirrored
    resembles.dialer
  refine ⟨_, _, mirrors.pumped shown partner listeners agenda
    (mirrors.dialed.resembling pumps.socketFound resembles)
    (mirrors.queued.resembling mirrors.dialed.lengths pumps.socketFound resembles) ?_, step⟩
  rw [ends, streams]
  exact reflected

theorem Socket.shut_of_gone {side : Side} (gone : socket.standing side = .gone) :
    socket.shut side = socket := by
  obtain ⟨dialer, caller, callee, greeting, answer⟩ := socket
  cases side <;> simp_all [Socket.shut, Socket.standing]

/-- The end of a link is not served any more. -/
theorem Pumps.ends (pumps : Pumps ids state node sockets party link socket stream)
    (mirrors : Mirrors ids state node sockets)
    (finished : socket.standing link.socket.side = .gone ∨
      socket.standing link.socket.side.other = .gone) :
    Follows ids sockets (state.withMesh (state.mesh.endLink party.number link)) := by
  obtain ⟨partner, ends, listeners, agenda⟩ := (mirrors.partner party).linkEnded pumps.member
  have shown := (mirrors.shown.dropEndpoint link.socket).updateNode party
    fun node => node.linkEnded link.slot
  refine pumps.follows mirrors shown partner listeners agenda ends
    ((streams_dropEndpoint _ _).trans (modify_eq_set pumps.streamFound _))
    (pumps.mirrored.dropped link.socket.side) (resembles_shut pumps.fits.2) ?_
  rcases finished with gone | ended
  · left
    rw [Socket.shut_of_gone gone, set_self pumps.socketFound]
  · exact .inr (.noticed pumps.socketFound ended pumps.fits.2)

theorem Mirrors.closes (mirrors : Mirrors ids state node sockets) (party : Party) (slot : Slot) :
    Follows ids sockets (state.step (.closes party slot)) := by
  simp only [State.step, Mesh.step, mirrors.shown.link?_eq]
  cases search : (node party).link? slot with
  | none => exact mirrors.stays
  | some link =>
      obtain ⟨member, -⟩ := link?_eq_some search
      obtain ⟨socket, stream, pumps⟩ := mirrors.exists_pumps member
      dsimp only
      split
      · rename_i closed
        refine pumps.ends mirrors (.inl ?_)
        rw [← pumps.fits.1]
        exact Registry.standing_eq_gone_iff.mpr
          (((mirrors.partner party).engaged.linked.closed_iff link member).mp closed)
      · exact mirrors.stays

theorem Mirrors.finishes (mirrors : Mirrors ids state node sockets) (party : Party) (slot : Slot) :
    Follows ids sockets (state.step (.finishes party slot)) := by
  simp only [State.step, Mesh.step, mirrors.shown.link?_eq]
  cases search : (node party).link? slot with
  | none => exact mirrors.stays
  | some link =>
      obtain ⟨member, -⟩ := link?_eq_some search
      obtain ⟨socket, stream, pumps⟩ := mirrors.exists_pumps member
      simp only [Option.elim_some, Mesh.finishLink, pumps.flowTo.1]
      split
      · rename_i finished
        rw [Bool.and_eq_true] at finished
        exact pumps.ends mirrors (.inr ((pumps.mirrored _).ended.mp finished.2).1)
      · exact mirrors.stays

/-- A link writes what was queued first, or finds that nobody reads it. -/
theorem Mirrors.writes (mirrors : Mirrors ids state node sockets) (party : Party) (slot : Slot) :
    Follows ids sockets (state.step (.writes party slot)) := by
  simp only [State.step, Mesh.step, mirrors.shown.link?_eq]
  cases search : (node party).link? slot with
  | none => exact mirrors.stays
  | some link =>
      obtain ⟨member, -⟩ := link?_eq_some search
      obtain ⟨socket, stream, pumps⟩ := mirrors.exists_pumps member
      simp only [Option.elim_some, Mesh.writeLink]
      split
      · exact mirrors.stays
      · rename_i handle chunk receives
        split
        · rename_i unread
          have abandoned := ((Bool.and_eq_true _ _).mp unread).2
          rw [Mesh.readerGone, pumps.flowTo.2, Option.any_some] at abandoned
          have across := pumps.mirrored.across link.socket.side
          exact pumps.ends mirrors (.inr (across.abandoned.mp abandoned).1)
        · obtain ⟨partner, ends, queue⟩ := (mirrors.partner party).written member receives
          have shown := (mirrors.shown.updateNode party fun node =>
            node.updateHandle link.slot fun _ => handle).changeFlowTo link.socket.peer
              fun flow => flow.write chunk
          exact pumps.follows mirrors shown partner rfl rfl ends (modify_eq_set pumps.streamFound _)
            (pumps.mirrored.written pumps.view queue) (resembles_refl socket)
            (.inl (set_self pumps.socketFound))

end Moves

end PeerMesh.Crossing
