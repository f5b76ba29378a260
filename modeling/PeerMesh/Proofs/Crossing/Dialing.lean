import PeerMesh.Proofs.Crossing.Partner
import PeerMesh.Proofs.Crossing.Reflection
import PeerMesh.Proofs.Crossing.Scene

/-!
# Dials and arrivals in the course of two nodes

The state of the mesh mirrors a list of sockets. Here are the moves by which sockets come about, and
get their ends: each of them is a step of the sockets, or leaves them as they are.
-/

set_option autoImplicit false

namespace PeerMesh.Crossing

/-- The party with the smaller identifier. -/
def smallerOf (ids : Party → String) : Party :=
  if ids .left < ids .right then .left else .right

/-- The nodes, their dials, their listeners and their ends are those of the sockets. -/
structure Mirrors (ids : Party → String) (state : State) (node : Party → Node)
    (sockets : List Socket) : Prop where
  shown : Shows state.mesh ids node
  partner : ∀ party, (node party).Partner (ids party) (ids party.other)
  dialed : Dialed (fun party => (node party).agenda) state.openings sockets
  queued : Queued (fun party => (node party).listeners) state.openings sockets
  reflected : Reflected ids (fun party => (node party).endAt?) state.mesh.streams sockets

/-- What the state mirrors after a move: the same sockets, or those after one step. -/
def Follows (ids : Party → String) (sockets : List Socket) (after : State) : Prop :=
  ∃ node later, Mirrors ids after node later ∧
    (later = sockets ∨ Step (smallerOf ids) sockets later)

section Moves

variable {ids : Party → String} {state : State} {node : Party → Node} {sockets : List Socket}
  {party : Party}

theorem update_view {β : Type} (view : Node → β) (node : Party → Node) (party : Party)
    (after : Node) :
    (fun third => view (Function.update node party after third)) =
      Function.update (fun third => view (node third)) party (view after) := by
  funext third
  simp only [Function.update_apply]
  split <;> rfl

theorem set_self {α : Type} {elements : List α} {place : Nat} {element : α}
    (found : elements[place]? = some element) : elements.set place element = elements := by
  obtain ⟨inside, rfl⟩ := List.getElem?_eq_some_iff.mp found
  exact List.set_getElem_self inside

theorem Mirrors.of_party (mirrors : Mirrors ids state node sockets) {mesh : Mesh} {after : Node}
    {openings : List Opening} {later : List Socket}
    (shown : Shows mesh ids (Function.update node party after))
    (partner : after.Partner (ids party) (ids party.other))
    (dialed : Dialed (Function.update (fun party => (node party).agenda) party after.agenda) openings
      later)
    (queued : Queued (Function.update (fun party => (node party).listeners) party after.listeners)
      openings later)
    (reflected : Reflected ids (Function.update (fun party => (node party).endAt?) party after.endAt?)
      mesh.streams later) :
    Mirrors ids ⟨mesh, openings⟩ (Function.update node party after) later where
  shown := shown
  partner := by
    intro third
    rw [Function.update_apply]
    split
    · rename_i same
      rw [same]
      exact partner
    · exact mirrors.partner third
  dialed := by
    rw [update_view (·.agenda)]
    exact dialed
  queued := by
    rw [update_view (·.listeners)]
    exact queued
  reflected := by
    rw [update_view (·.endAt?)]
    exact reflected

/-- A change of the mesh that neither the nodes nor the streams have to do with. -/
theorem Mirrors.congr (mirrors : Mirrors ids state node sockets) {mesh : Mesh}
    (nodes : mesh.nodes = state.mesh.nodes) (contexts : mesh.contexts = state.mesh.contexts)
    (groups : mesh.groups = state.mesh.groups) (streams : mesh.streams = state.mesh.streams) :
    Mirrors ids (state.withMesh mesh) node sockets where
  shown := mirrors.shown.congr nodes contexts groups
  partner := mirrors.partner
  dialed := mirrors.dialed
  queued := mirrors.queued
  reflected := by
    change Reflected ids _ mesh.streams sockets
    rw [streams]
    exact mirrors.reflected

theorem Mirrors.stays (mirrors : Mirrors ids state node sockets) : Follows ids sockets state :=
  ⟨node, sockets, mirrors, .inl rfl⟩

theorem Mirrors.dial?_eq (mirrors : Mirrors ids state node sockets) (party : Party) (number : Nat) :
    state.mesh.dial? party.number number = (node party).dial? number := by
  rw [Mesh.dial?, mirrors.shown.node?_eq, Option.bind_some]

theorem Mirrors.waits (mirrors : Mirrors ids state node sockets) (milliseconds moments : Nat) :
    Follows ids sockets (state.step (.waits milliseconds moments)) := by
  have waited : Mirrors ids (state.step (.waits milliseconds moments)) node sockets :=
    mirrors.congr rfl rfl rfl rfl
  exact waited.stays

theorem Mirrors.requests (mirrors : Mirrors ids state node sockets) (party : Party)
    (name : Option String) (address : SocketAddress) :
    Follows ids sockets (state.step (.requests party name address)) := by
  obtain ⟨around, -, stepped⟩ := mirrors.shown.stepNode party
  obtain ⟨partner, ends, listeners, agenda⟩ :=
    (mirrors.partner party).requested around name address state.mesh.now state.mesh.moment
  have mesh : (state.mesh.requestPeering party.number name address).1 =
      state.mesh.updateNode party.number fun _ =>
        ((node party).requestPeering around name address state.mesh.now state.mesh.moment).1 := by
    rw [Mesh.requestPeering, stepped]
  generalize ((node party).requestPeering around name address state.mesh.now
    state.mesh.moment).1 = after at partner ends listeners agenda mesh
  refine ⟨Function.update node party after, sockets, ?_, .inl rfl⟩
  simp only [State.step, State.withMesh, mesh]
  refine mirrors.of_party (mirrors.shown.updateNode party fun _ => after) partner ?_ ?_ ?_
  · rcases agenda with same | ⟨dial, numbered, begun⟩
    · rw [same, Function.update_eq_self]
      exact mirrors.dialed
    · rw [begun]
      exact mirrors.dialed.requested numbered
  · rw [listeners, Function.update_eq_self]
    exact mirrors.queued
  · rw [ends, Function.update_eq_self]
    exact mirrors.reflected

theorem socketOf?_eq_none {number : Nat} (unopened : state.socketOf? party number = none) :
    ∀ opening ∈ state.openings, opening.dialer = party → opening.dial ≠ number := by
  intro opening member dialer dial
  have different := List.findIdx?_eq_none_iff.mp unopened opening member
  simp [dialer, dial] at different

theorem Mirrors.opens (mirrors : Mirrors ids state node sockets) (party : Party) (number : Nat) :
    Follows ids sockets (state.step (.opens party number)) := by
  simp only [State.step, mirrors.dial?_eq]
  split
  · rename_i possible
    rw [Bool.and_eq_true, Option.isNone_iff_eq_none] at possible
    obtain ⟨dial, search⟩ := Option.isSome_iff_exists.mp possible.1
    obtain ⟨member, rfl⟩ := Node.dial?_eq_some search
    refine ⟨node, sockets ++ [.fresh party], ?_, .inr (.opened party)⟩
    exact {
      shown := mirrors.shown.congr rfl rfl rfl
      partner := mirrors.partner
      dialed := mirrors.dialed.opened member ((mirrors.partner party).books.numbersIssued dial member)
        (socketOf?_eq_none possible.2)
      queued := mirrors.queued.opened mirrors.dialed.lengths dial.number
      reflected := mirrors.reflected.opened party }
  · exact mirrors.stays

/-! ## Sockets and their dials -/

variable {place : Nat} {opening : Opening} {socket : Socket}

theorem Mirrors.exists_socket (mirrors : Mirrors ids state node sockets)
    (found : state.openings[place]? = some opening) :
    ∃ socket, sockets[place]? = some socket ∧ socket.dialer = opening.dialer := by
  have inside := (List.getElem?_eq_some_iff.mp found).1
  rw [mirrors.dialed.lengths] at inside
  have socketFound := List.getElem?_eq_getElem inside
  exact ⟨_, socketFound, mirrors.dialed.dialer place opening _ found socketFound⟩

/-- A node does not pump an end that it has not registered. -/
theorem Mirrors.unpumped (mirrors : Mirrors ids state node sockets) {side : Side}
    (socketFound : sockets[place]? = some socket) (absent : socket.standing side = .absent) :
    (node (socket.owner side)).endAt? ⟨place, side⟩ = none := by
  obtain ⟨stream, streamFound⟩ := mirrors.reflected.stream?_isSome socketFound
  have fits := (mirrors.reflected.mirrored place socket stream socketFound streamFound side).fits
  rw [absent] at fits
  exact fits.eq_none

/-- The socket of a dial under way, whose end the caller has not registered. -/
theorem Mirrors.exists_unregistered (mirrors : Mirrors ids state node sockets)
    (found : state.openings[place]? = some opening) {dial : Dial}
    (member : dial ∈ (node opening.dialer).dials) (numbered : dial.number = opening.dial) :
    ∃ socket stream, sockets[place]? = some socket ∧ state.mesh.streams[place]? = some stream ∧
      socket.dialer = opening.dialer ∧ socket.caller = .absent ∧
      (node opening.dialer).endAt? ⟨place, .caller⟩ = none := by
  obtain ⟨socket, socketFound, dialer⟩ := mirrors.exists_socket found
  obtain ⟨stream, streamFound⟩ := mirrors.reflected.stream?_isSome socketFound
  have absent : socket.caller = .absent :=
    (mirrors.dialed.absent_iff place opening socket found socketFound).mpr ⟨dial, member, numbered⟩
  refine ⟨socket, stream, socketFound, streamFound, dialer, absent, ?_⟩
  rw [← dialer]
  exact mirrors.unpumped socketFound absent

/-- A dial connects: its caller registers the end, and greets. -/
theorem Mirrors.connects (mirrors : Mirrors ids state node sockets)
    (presentable : ∀ party, Presentable (ids party)) (shaped : ∀ socket ∈ sockets, socket.Shaped)
    (place : Nat) : Follows ids sockets (state.step (.connects place)) := by
  simp only [State.step]
  split
  · exact mirrors.stays
  · rename_i opening found
    rw [mirrors.dial?_eq]
    split
    · exact mirrors.stays
    · rename_i dial search
      obtain ⟨member, numbered⟩ := Node.dial?_eq_some search
      obtain ⟨socket, stream, socketFound, streamFound, dialer, absent, unpumped⟩ :=
        mirrors.exists_unregistered found member numbered
      have without := mirrors.shown.updateNode opening.dialer fun node => node.withoutDial dial.number
      have admitting : (Function.update node opening.dialer
          ((node opening.dialer).withoutDial dial.number) opening.dialer).table.closed = false := by
        rw [Function.update_self]
        exact (mirrors.partner opening.dialer).engaged.admitting
      obtain ⟨sessions, slot, after, connected, streams, shown⟩ :=
        without.connectNode opening.dialer admitting dial.address .outbound dial.peer
          ⟨place, .caller⟩
      rw [Function.update_self, Function.update_idem] at shown
      change after.streams = state.mesh.streams at streams
      change Shows after ids (Function.update node opening.dialer
        (((node opening.dialer).withoutDial dial.number).connected _ state.mesh.moment).1) at shown
      have strange : Context.placeholder (sessions + 1) ≠ ids opening.dialer.other :=
        ((presentable opening.dialer.other).unplaced (sessions + 1)).symm
      obtain ⟨partner, ends, listeners, agenda⟩ :=
        (mirrors.partner opening.dialer).connected member unpumped strange state.mesh.moment rfl
      simp only [Mesh.finishDial, connected]
      refine ⟨_, sockets.set place socket.taken, mirrors.of_party (shown.congr rfl rfl rfl) partner
        ?_ ?_ ?_, .inr (.taken socketFound absent)⟩
      · rw [agenda, numbered]
        refine mirrors.dialed.settled found socketFound rfl rfl ?_ rfl rfl ?_
        · simp [Socket.taken]
        · simp [Socket.taken, Socket.Taken]
      · rw [listeners, Function.update_eq_self]
        exact mirrors.queued.set found socketFound rfl Iff.rfl rfl
      · have mirrored := (mirrors.reflected.mirrored place socket stream socketFound streamFound).taken
          (shaped socket (List.mem_of_getElem? socketFound)) absent (node opening.dialer).nextSlot
        have owned : socket.owner .caller = opening.dialer := dialer
        have reflected := mirrors.reflected.set socketFound streamFound owned mirrored rfl
        rw [set_self streamFound, dialer] at reflected
        change Reflected ids _ after.streams _
        rw [ends, streams]
        exact reflected

theorem socketOf?_eq_some {number : Nat} (found : state.socketOf? party number = some place) :
    ∃ opening, state.openings[place]? = some opening ∧ opening.dialer = party ∧
      opening.dial = number := by
  obtain ⟨inside, same, -⟩ := List.findIdx?_eq_some_iff_getElem.mp found
  simp only [Bool.and_eq_true, beq_iff_eq] at same
  exact ⟨_, List.getElem?_eq_getElem inside, same⟩

theorem modify_eq_set {α : Type} {elements : List α} {element : α}
    (found : elements[place]? = some element) (change : α → α) :
    elements.modify place change = elements.set place (change element) := by
  refine List.ext_getElem? ?_
  intro other
  rw [List.getElem?_modify, getElem?_set_of_found found]
  by_cases same : place = other
  · subst same
    simp [found]
  · simp [same]

/-- A dial fails for which a socket was opened: the caller's end is closed before it was ever
registered. -/
theorem Mirrors.fails_opened (mirrors : Mirrors ids state node sockets)
    (found : state.openings[place]? = some opening) {dial : Dial}
    (member : dial ∈ (node opening.dialer).dials) (numbered : dial.number = opening.dial)
    (error : MeshError) :
    Follows ids sockets (state.withMesh ((state.mesh.dropEndpoint ⟨place, .caller⟩).failDial
      opening.dialer.number dial error)) := by
  obtain ⟨partner, ends⟩ := (mirrors.partner opening.dialer).failed member
  obtain ⟨socket, stream, socketFound, streamFound, dialer, absent, unpumped⟩ :=
    mirrors.exists_unregistered found member numbered
  have owner : socket.owner .caller = opening.dialer := dialer
  have listeners : ((node opening.dialer).dialFailed dial).listeners =
    (node opening.dialer).listeners := rfl
  have shown := (mirrors.shown.dropEndpoint ⟨place, .caller⟩).updateNode opening.dialer
    fun node => node.dialFailed dial
  refine ⟨_, sockets.set place (socket.shut .caller),
    mirrors.of_party (shown.congr rfl rfl rfl) partner ?_ ?_ ?_, .inr (.abandoned socketFound absent)⟩
  · have settled : Dialed _ (state.openings.set place opening)
        (sockets.set place (socket.shut .caller)) :=
      mirrors.dialed.settled found socketFound rfl rfl (by simp [Socket.shut]) rfl rfl
        (mirrors.dialed.taken place opening socket found socketFound)
    rw [set_self found, ← numbered] at settled
    exact settled
  · have queued : Queued _ (state.openings.set place opening)
        (sockets.set place (socket.shut .caller)) :=
      mirrors.queued.set found socketFound rfl Iff.rfl rfl
    rw [set_self found] at queued
    rw [listeners, Function.update_eq_self]
    exact queued
  · have mirrored :=
      (mirrors.reflected.mirrored place socket stream socketFound streamFound).dropped .caller
    have reflected := mirrors.reflected.set socketFound streamFound owner mirrored rfl
    have unchanged : Function.update (node opening.dialer).endAt? ⟨place, .caller⟩ none =
        (node opening.dialer).endAt? := Function.update_eq_self_iff.mpr unpumped.symm
    rw [unchanged, Function.update_eq_self] at reflected
    rw [ends, Function.update_eq_self]
    change Reflected ids _ (state.mesh.dropEndpoint ⟨place, .caller⟩).streams _
    rw [streams_dropEndpoint, modify_eq_set streamFound]
    exact reflected

theorem Mirrors.fails (mirrors : Mirrors ids state node sockets) (party : Party) (number : Nat)
    (error : MeshError) : Follows ids sockets (state.step (.fails party number error)) := by
  simp only [State.step, mirrors.dial?_eq]
  split
  · exact mirrors.stays
  · rename_i dial search
    obtain ⟨member, rfl⟩ := Node.dial?_eq_some search
    split
    · rename_i unopened
      obtain ⟨partner, ends⟩ := (mirrors.partner party).failed member
      have listeners : ((node party).dialFailed dial).listeners = (node party).listeners := rfl
      have shown := mirrors.shown.updateNode party fun node => node.dialFailed dial
      refine ⟨_, sockets, mirrors.of_party (shown.congr rfl rfl rfl) partner ?_ ?_ ?_, .inl rfl⟩
      · exact mirrors.dialed.ended (socketOf?_eq_none unopened)
      · rw [listeners, Function.update_eq_self]
        exact mirrors.queued
      · rw [ends, Function.update_eq_self]
        exact mirrors.reflected
    · rename_i place opened
      obtain ⟨opening, found, rfl, numbered⟩ := socketOf?_eq_some opened
      exact mirrors.fails_opened found member numbered.symm error

/-! ## Listeners -/

/-- A socket arrives at a listener of the node that was dialed. -/
theorem Mirrors.arrives (mirrors : Mirrors ids state node sockets) (place position : Nat)
    (remote : SocketAddress) : Follows ids sockets (state.step (.arrives place position remote)) := by
  simp only [State.step]
  split
  · exact mirrors.stays
  · rename_i opening found
    split
    · rename_i possible
      rw [Bool.and_eq_true, Option.isNone_iff_eq_none] at possible
      obtain ⟨unarrived, listens⟩ := possible
      obtain ⟨socket, socketFound, dialer⟩ := mirrors.exists_socket found
      have listenerFound : ∃ listener, (node opening.dialer.other).listeners[position]? =
          some listener := by
        rw [Mesh.listens, Mesh.listener?, mirrors.shown.node?_eq, Option.bind_some] at listens
        cases search : (node opening.dialer.other).listeners[position]? with
        | none =>
            rw [search] at listens
            cases listens
        | some listener => exact ⟨listener, rfl⟩
      obtain ⟨listener, listenerFound⟩ := listenerFound
      have owned : socket.dialer = opening.dialer.other.other := by
        rw [Party.other_other, dialer]
      obtain ⟨partner, ends, agenda⟩ := (mirrors.partner opening.dialer.other).relistened position
        (fun listener =>
          { listener with queue := listener.queue ++ [.connection remote ⟨place, .callee⟩] })
        fun _ => ⟨rfl, rfl⟩
      refine ⟨_, sockets, mirrors.of_party (mirrors.shown.updateNode opening.dialer.other _) partner
        ?_ ?_ ?_, .inl rfl⟩
      · rw [agenda, Function.update_eq_self]
        exact mirrors.dialed.arrived found (some position)
      · exact mirrors.queued.arrived found socketFound owned unarrived listenerFound
      · rw [ends, Function.update_eq_self]
        exact mirrors.reflected
    · exact mirrors.stays

theorem Shows.listener?_eq {mesh : Mesh} (shown : Shows mesh ids node) (party : Party)
    (position : Nat) :
    mesh.listener? party.number position = (node party).listeners[position]? := by
  rw [Mesh.listener?, shown.node?_eq, Option.bind_some]

/-- A listener that has not been told to stop goes on. -/
theorem Shows.stopListener_eq {mesh : Mesh} (shown : Shows mesh ids node) (party : Party)
    (running : (node party).stopping = false) (position : Nat) :
    mesh.stopListener party.number position = mesh := by
  unfold Mesh.stopListener
  rw [shown.node?_eq, shown.listener?_eq]
  cases (node party).listeners[position]? with
  | none => rfl
  | some listener => simp [running]

/-- What a listener accepts when it looks. -/
theorem Mirrors.acceptNext_cases (mirrors : Mirrors ids state node sockets) (party : Party)
    (position : Nat) :
    state.mesh.acceptNext party.number position = state.mesh ∨
      ∃ listener remote place later, (node party).listeners[position]? = some listener ∧
        listener.queue = .connection remote ⟨place, .callee⟩ :: later ∧
        state.mesh.acceptNext party.number position =
          ((state.mesh.updateNode party.number fun node => node.updateListener position fun listener =>
            { listener with queue := listener.queue.tail }).connectNode party.number remote .inbound
              none ⟨place, .callee⟩).1 := by
  unfold Mesh.acceptNext
  rw [mirrors.shown.listener?_eq]
  cases listenerFound : (node party).listeners[position]? with
  | none => exact .inl rfl
  | some listener =>
      obtain ⟨serving, awake⟩ :=
        (mirrors.partner party).serving listener (List.mem_of_getElem? listenerFound)
      simp only [Option.bind_some, serving, awake, Option.isSome_none, Bool.or_self,
        Bool.false_eq_true, if_false]
      cases queue : listener.queue with
      | nil => exact .inl rfl
      | cons arrival later =>
          obtain ⟨remote, place, -, -, rfl, -⟩ :=
            mirrors.queued.waiting party position listener listenerFound arrival
              (by rw [queue]; exact List.mem_cons_self)
          exact .inr ⟨listener, remote, place, later, rfl, queue, rfl⟩

/-- A node accepts the socket that came first at one of its listeners. -/
theorem Mirrors.accepts (mirrors : Mirrors ids state node sockets)
    (presentable : ∀ party, Presentable (ids party)) (shaped : ∀ socket ∈ sockets, socket.Shaped)
    (party : Party) (position : Nat) (permitted : state.Permits (.accepts party position)) :
    Follows ids sockets (state.step (.accepts party position)) := by
  simp only [State.step, Mesh.step]
  rcases mirrors.acceptNext_cases party position with
    nothing | ⟨listener, remote, place, later, listenerFound, queue, accepted⟩
  · rw [nothing, mirrors.shown.stopListener_eq party (mirrors.partner party).running]
    exact mirrors.stays
  · obtain ⟨_, _, opening, socket, same, found, socketFound, dialer, arrived, absent⟩ :=
      mirrors.queued.waiting party position listener listenerFound
        (.connection remote ⟨place, .callee⟩) (by rw [queue]; exact List.mem_cons_self)
    cases same
    obtain ⟨stream, streamFound⟩ := mirrors.reflected.stream?_isSome socketFound
    have owner : socket.owner .callee = party := by
      rw [Socket.owner, dialer, Party.other_other]
    have unpumped : (node party).endAt? ⟨place, .callee⟩ = none := by
      rw [← owner]
      exact mirrors.unpumped socketFound absent
    have apart : ∀ dial ∈ (node party).dials, dial.address ≠ remote := by
      intro dial underWay same
      exact permitted _ (mirrors.shown.node?_eq party) listener listenerFound
        (.connection remote ⟨place, .callee⟩) (by rw [queue]; rfl) dial underWay
        (congrArg some same.symm)
    obtain ⟨relisted, ends, agenda⟩ := (mirrors.partner party).relistened position
      (fun listener => { listener with queue := listener.queue.tail }) fun _ => ⟨rfl, rfl⟩
    have taken := mirrors.shown.updateNode party fun node => node.updateListener position
      fun listener => { listener with queue := listener.queue.tail }
    have admitting := relisted.engaged.admitting
    rw [← Function.update_self party ((node party).updateListener position _) node] at admitting
    obtain ⟨sessions, slot, after, connected, streams, shown⟩ :=
      taken.connectNode party admitting remote .inbound none ⟨place, .callee⟩
    have moment : (state.mesh.updateNode party.number fun node => node.updateListener position
        fun listener => { listener with queue := listener.queue.tail }).moment = state.mesh.moment :=
      rfl
    rw [Function.update_self, Function.update_idem, moment] at shown
    change after.streams = state.mesh.streams at streams
    have strange : Context.placeholder (sessions + 1) ≠ ids party.other :=
      ((presentable party.other).unplaced (sessions + 1)).symm
    obtain ⟨partner, endsNow, listeners, agendaNow⟩ := relisted.accepted apart (ends ▸ unpumped) strange
      state.mesh.moment rfl
    rw [accepted, connected, shown.stopListener_eq party (by
      rw [Function.update_self]
      exact partner.running)]
    refine ⟨_, sockets.set place { socket with callee := .unnamed },
      mirrors.of_party shown partner ?_ ?_ ?_, .inr (.accepted socketFound absent)⟩
    · rw [agendaNow, agenda, Function.update_eq_self]
      exact mirrors.dialed.set socketFound rfl Iff.rfl id
    · rw [listeners]
      exact mirrors.queued.accepted listenerFound queue found arrived socketFound (by simp)
    · have mirrored := (mirrors.reflected.mirrored place socket stream socketFound streamFound).accepted
        (shaped socket (List.mem_of_getElem? socketFound)) absent
        ((node party).updateListener position fun listener =>
          { listener with queue := listener.queue.tail }).nextSlot
      have reflected := mirrors.reflected.set socketFound streamFound owner mirrored rfl
      rw [set_self streamFound] at reflected
      rw [endsNow, ends, streams]
      exact reflected

end Moves

end PeerMesh.Crossing
