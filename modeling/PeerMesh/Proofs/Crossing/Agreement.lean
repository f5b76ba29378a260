import PeerMesh.Mesh.Run
import PeerMesh.Proofs.Crossing.Reading

/-!
# Crossing dials agree

Whatever the two nodes and the network between them do, the state mirrors sockets that are sane.
When nothing is left to happen, these sockets are quiet, and if a dial has connected then one of them
is left: the connection that both nodes keep.
-/

set_option autoImplicit false

namespace PeerMesh.Crossing

section Runs

variable {ids : Party → String} {state start : State} {node : Party → Node} {sockets : List Socket}

/-- Each move is a step of the sockets, or leaves them as they are. -/
theorem Mirrors.step (mirrors : Mirrors ids state node sockets)
    (presentable : ∀ party, Presentable (ids party)) (different : ids .left ≠ ids .right)
    (shaped : ∀ socket ∈ sockets, socket.Shaped) {move : Move} (permitted : state.Permits move) :
    Follows ids sockets (state.step move) := by
  cases move with
  | requests party name address => exact mirrors.requests party name address
  | opens party dial => exact mirrors.opens party dial
  | connects socket => exact mirrors.connects presentable shaped socket
  | fails party dial error => exact mirrors.fails party dial error
  | arrives socket listener remote => exact mirrors.arrives socket listener remote
  | accepts party listener => exact mirrors.accepts presentable shaped party listener permitted
  | writes party slot => exact mirrors.writes party slot
  | reads party slot count => exact mirrors.reads presentable different shaped party slot count
  | closes party slot => exact mirrors.closes party slot
  | finishes party slot => exact mirrors.finishes party slot
  | waits milliseconds moments => exact mirrors.waits milliseconds moments

theorem mirrors_run (presentable : ∀ party, Presentable (ids party))
    (different : ids .left ≠ ids .right) (mirrors : Mirrors ids state node sockets)
    (sane : Sane (smallerOf ids) sockets) {moves : List Move} (permitted : state.Permitted moves) :
    ∃ later laterSockets, Mirrors ids (state.run moves) later laterSockets ∧
      Sane (smallerOf ids) laterSockets := by
  induction moves generalizing state node sockets with
  | nil => exact ⟨node, sockets, mirrors, sane⟩
  | cons move rest ih =>
      obtain ⟨later, laterSockets, laterMirrors, same | step⟩ :=
        mirrors.step presentable different sane.shaped permitted.1
      · subst same
        exact ih laterMirrors sane permitted.2
      · exact ih laterMirrors (step.sane sane) permitted.2

theorem mirrors_ready (ready : start.Ready ids) : ∃ node, Mirrors ids start node [] := by
  choose entry started using ready.started
  refine ⟨fun party => (entry party).node, ?_⟩
  have fresh : ∀ party, (entry party).node.Partner (ids party) (ids party.other) ∧
      (entry party).node.endAt? = (fun _ => none) ∧
      ∀ listener ∈ (entry party).node.listeners, listener.queue = [] := by
    intro party
    obtain ⟨profile, request, moment, named, hello, same⟩ := (started party).fresh
    rw [same, ← named]
    refine ⟨Node.partner_freshNode moment _ hello, ?_, ?_⟩
    · funext endpoint
      exact Node.endAt?_freshNode profile request moment endpoint
    · intro listener member
      obtain ⟨address, -, rfl⟩ := List.mem_map.mp member
      rfl
  refine {
    shown := ⟨fun party => ⟨entry party, (started party).found, rfl, (started party).context, ?_⟩⟩
    partner := fun party => (fresh party).1
    dialed := ?_
    queued := ?_
    reflected := ?_ }
  · simp [Node.nameRefusal?, (started party).unblocked, (started party).foreign]
  · rw [ready.unopened]
    exact dialed_nil _
  · rw [ready.unopened]
    exact queued_fresh _ fun party => (fresh party).2.2
  · rw [ready.unstreamed]
    have unserved : (fun party => (entry party).node.endAt?) = fun _ _ => none := by
      funext party
      exact (fresh party).2.1
    rw [unserved]
    exact reflected_nil ids

end Runs

/-! ## Quiet states -/

section Quiet

variable {ids : Party → String} {state : State} {node : Party → Node} {sockets : List Socket}
  {party : Party}

theorem queue_eq_nil_of_listenerEvents {number : Nat} {node : Node} (running : node.stopping = false)
    (quiet : Mesh.listenerEvents (number, node) = []) {listener : Listener}
    (member : listener ∈ node.listeners) (serving : listener.stopped = false)
    (awake : listener.pausedUntil = none) : listener.queue = [] := by
  obtain ⟨position, found⟩ := List.mem_iff_getElem?.mp member
  have silent := List.filterMap_eq_nil_iff.mp quiet
  have idle : Mesh.listenerEvent? number node.stopping position listener = none := by
    refine silent _ (List.mem_iff_getElem?.mpr ⟨position, ?_⟩)
    rw [List.getElem?_mapIdx, found]
    rfl
  simpa [Mesh.listenerEvent?, serving, awake, running] using idle

/-- An end that its link has nothing to do for. -/
theorem still_of_linkEvent? {mesh : Mesh} {number : Nat} {node : Node} (linked : node.Linked)
    {link : Link} (member : link ∈ node.links) {flow : Flow}
    (flowFound : mesh.flowTo link.socket = some flow) (quiet : mesh.linkEvent? number link = none) :
    (node.endOf link).standing ≠ .gone ∧ (node.endOf link).queued = [] ∧ flow.pending = [] ∧
      flow.ended = false := by
  unfold Mesh.linkEvent? at quiet
  split at quiet
  · cases quiet
  · rename_i isOpen
    split at quiet
    · cases quiet
    · rename_i unqueued
      rw [flowFound] at quiet
      dsimp only at quiet
      split at quiet
      · cases quiet
      · rename_i unread
        split at quiet
        · cases quiet
        · rename_i unended
          refine ⟨?_, ?_, by simpa using unread, by simpa using unended⟩
          · intro gone
            exact isOpen ((linked.closed_iff link member).mpr (Registry.standing_eq_gone_iff.mp gone))
          · obtain ⟨queue, present⟩ := Option.isSome_iff_exists.mp (linked.queue link member)
            change Node.waiting link.handle = []
            cases queue with
            | nil => simp [Node.waiting, present]
            | cons first rest => simp [Handle.receive, present] at unqueued

theorem Mirrors.quiet (mirrors : Mirrors ids state node sockets) (quiet : state.Quiet) :
    ∀ socket ∈ sockets, socket.Quiet := by
  intro socket member
  obtain ⟨place, socketFound⟩ := List.mem_iff_getElem?.mp member
  obtain ⟨stream, streamFound⟩ := mirrors.reflected.stream?_isSome socketFound
  have inside := (List.getElem?_eq_some_iff.mp socketFound).1
  rw [← mirrors.dialed.lengths] at inside
  have found := List.getElem?_eq_getElem inside
  have still := fun party => quiet.still party (node party) (mirrors.shown.node?_eq party)
  refine (mirrors.reflected.mirrored place socket stream socketFound streamFound).quiet ?_ ?_
  · intro side absent
    cases side with
    | caller =>
        obtain ⟨dial, underWay, -⟩ :=
          (mirrors.dialed.absent_iff place _ socket found socketFound).mp absent
        change dial ∈ (node _).dials at underWay
        rw [(still _).1] at underWay
        cases underWay
    | callee =>
        obtain ⟨position, arrived⟩ :=
          Option.isSome_iff_exists.mp (quiet.arrived _ (List.mem_of_getElem? found))
        obtain ⟨listener, listenerFound, remote, waiting⟩ :=
          mirrors.queued.awaited place _ socket position found socketFound arrived absent
        have partner := mirrors.partner socket.dialer.other
        have listenerMember := List.mem_of_getElem? listenerFound
        have serving := partner.serving listener listenerMember
        rw [queue_eq_nil_of_listenerEvents partner.running (still _).2.1 listenerMember serving.1
          serving.2] at waiting
        cases waiting
  · intro side view search
    rw [endsOf] at search
    obtain ⟨link, linkMember, socketOf, rfl⟩ := Node.exists_link_of_endAt? search
    refine still_of_linkEvent? (mirrors.partner _).engaged.linked linkMember ?_
      (List.filterMap_eq_nil_iff.mp (still _).2.2 link linkMember)
    rw [socketOf, Mesh.flowTo, streamFound]
    rfl

theorem Mirrors.exists_taken (mirrors : Mirrors ids state node sockets)
    (connected : state.SomeConnected) : ∃ socket ∈ sockets, socket.Taken := by
  obtain ⟨opening, member, isConnected⟩ := connected
  obtain ⟨place, found⟩ := List.mem_iff_getElem?.mp member
  obtain ⟨socket, socketFound, -⟩ := mirrors.exists_socket found
  exact ⟨socket, List.mem_of_getElem? socketFound,
    mirrors.dialed.taken place opening socket found socketFound isConnected⟩

end Quiet

/-- The registry of a node holds one connection, which is identified as `peer` and pumps the given end
of a socket, and the node is not dialing `peer`. -/
structure Settled (node : Node) (peer : String) (endpoint : Endpoint) : Prop where
  alone : ∃ entry, node.table.registry.entries = [entry] ∧ entry.identified = true ∧
    entry.name = peer ∧ (node.link? entry.slot).map (·.socket) = some endpoint
  undialed : node.table.inFlight.isDialing peer = false

theorem eq_singleton {α : Type} {elements : List α} {element : α} (distinct : elements.Nodup)
    (member : element ∈ elements) (all : ∀ other ∈ elements, other = element) :
    elements = [element] := by
  cases elements with
  | nil => cases member
  | cons first rest =>
      obtain rfl := all first List.mem_cons_self
      cases rest with
      | nil => rfl
      | cons second later =>
          obtain rfl := all second (List.mem_cons_of_mem _ List.mem_cons_self)
          exact absurd List.mem_cons_self (List.nodup_cons.mp distinct).1

section Settling

variable {ids : Party → String} {state : State} {node : Party → Node} {sockets : List Socket}
  {place : Nat} {socket : Socket} {side : Side}

/-- The link of an end that is named, and its entry. -/
theorem Mirrors.exists_entry (mirrors : Mirrors ids state node sockets)
    (found : sockets[place]? = some socket) (named : socket.standing side = .named) :
    ∃ link ∈ (node (socket.owner side)).links, link.socket = ⟨place, side⟩ ∧
      ∃ entry, (node (socket.owner side)).table.registry.get? link.slot = some entry ∧
        entry.identified = true := by
  obtain ⟨stream, streamFound⟩ := mirrors.reflected.stream?_isSome found
  have fits := (mirrors.reflected.mirrored place socket stream found streamFound side).fits
  rw [named] at fits
  cases search : endsOf (fun party => (node party).endAt?) socket place side with
  | none =>
      rw [search] at fits
      rcases fits with absent | gone
      · cases absent
      · cases gone
  | some view =>
      rw [search] at fits
      rw [endsOf] at search
      obtain ⟨link, member, socketOf, rfl⟩ := Node.exists_link_of_endAt? search
      exact ⟨link, member, socketOf, Registry.standing_eq_named_iff.mp fits.1⟩

/-- Where all other sockets are gone, every connection of the owner of an end pumps that end. -/
theorem Mirrors.pumps_only (mirrors : Mirrors ids state node sockets)
    (found : sockets[place]? = some socket)
    (others : ∀ (other : Nat) (gone : Socket), sockets[other]? = some gone → other ≠ place →
      ∀ side, gone.standing side = .gone)
    {link : Link} (member : link ∈ (node (socket.owner side)).links)
    (registered : ((node (socket.owner side)).endOf link).standing ≠ .gone) :
    link.socket = ⟨place, side⟩ := by
  obtain ⟨own, stream, pumps⟩ := mirrors.exists_pumps member
  have samePlace : link.socket.stream = place := by
    by_contra elsewhere
    exact registered (pumps.fits.1.trans (others _ own pumps.socketFound elsewhere _))
  have sameSide : link.socket.side = side := by
    have ownFound := pumps.socketFound
    rw [samePlace, found] at ownFound
    cases ownFound
    exact (Socket.dialer_eq_iff pumps.owner).mp rfl
  rw [← samePlace, ← sameSide]

theorem Mirrors.settled (mirrors : Mirrors ids state node sockets) (quiet : state.Quiet)
    (found : sockets[place]? = some socket) (named : ∀ side, socket.standing side = .named)
    (others : ∀ (other : Nat) (gone : Socket), sockets[other]? = some gone → other ≠ place →
      ∀ side, gone.standing side = .gone) (side : Side) :
    Settled (node (socket.owner side)) (ids (socket.owner side).other) ⟨place, side⟩ := by
  have partner := mirrors.partner (socket.owner side)
  have linked := partner.engaged.linked
  have sound := partner.engaged.sound
  obtain ⟨link, member, socketOf, entry, entryFound, identified⟩ :=
    mirrors.exists_entry found (named side)
  have entryMember := Registry.mem_of_get? entryFound
  have alone : (node (socket.owner side)).table.registry.entries = [entry] := by
    refine eq_singleton sound.slotsDistinct.of_map entryMember ?_
    intro other otherMember
    obtain ⟨otherLink, otherLinkMember, slot⟩ := linked.pumped other otherMember
    have registered : ((node (socket.owner side)).endOf otherLink).standing ≠ .gone := by
      intro gone
      have absent := Registry.standing_eq_gone_iff.mp gone
      rw [slot, Registry.get?_of_mem sound otherMember] at absent
      cases absent
    have sameSocket :=
      (mirrors.pumps_only found others otherLinkMember registered).trans socketOf.symm
    have sameLink := List.inj_on_of_nodup_map linked.socketsDistinct otherLinkMember member sameSocket
    rw [sameLink] at slot
    exact Registry.eq_of_get? sound entryFound otherMember slot.symm
  refine ⟨⟨entry, alone, identified, (partner.engaged.named entry entryMember).mp identified, ?_⟩, ?_⟩
  · rw [Registry.slot_of_get? entryFound, linked.link?_of_mem member, Option.map_some, socketOf]
  · rw [Bool.eq_false_iff, ne_eq, InFlight.isDialing_iff]
    intro marked
    rcases partner.accounted _ marked with ⟨dial, underWay, -⟩ | ⟨other, otherMember, unidentified, -⟩
    · change dial ∈ (node (socket.owner side)).dials at underWay
      rw [(quiet.still _ _ (mirrors.shown.node?_eq _)).1] at underWay
      cases underWay
    · change other ∈ (node (socket.owner side)).table.registry.entries at otherMember
      rw [alone, List.mem_singleton] at otherMember
      rw [otherMember, identified] at unidentified
      cases unidentified

end Settling

/-- Two nodes that dial each other, in whatever way and order, agree on one connection: when nothing
is left to happen and some dial has connected, each of them holds one connection, identified as the
other, and the two are the two ends of one socket. -/
theorem crossing_dials_agree {start : State} {ids : Party → String} (ready : start.Ready ids)
    {moves : List Move} (permitted : start.Permitted moves) (quiet : (start.run moves).Quiet)
    (connected : (start.run moves).SomeConnected) :
    ∃ endpoint left right, (start.run moves).mesh.node? Party.left.number = some left ∧
      (start.run moves).mesh.node? Party.right.number = some right ∧
      Settled left (ids .right) endpoint ∧ Settled right (ids .left) endpoint.peer := by
  obtain ⟨fresh, atStart⟩ := mirrors_ready ready
  obtain ⟨node, sockets, mirrors, sane⟩ :=
    mirrors_run ready.presentable ready.different atStart sane_nil permitted
  obtain ⟨place, socket, found, named, others⟩ :=
    sane.one_left (mirrors.quiet quiet) (mirrors.exists_taken connected)
  have settled := mirrors.settled quiet found named others
  have owned : ∃ side, socket.owner side = .left ∧ socket.owner side.other = .right := by
    cases dialer : socket.dialer with
    | left =>
        exact ⟨.caller, by simp [Socket.owner, dialer],
          by simp [Socket.owner, Side.other, dialer, Party.other]⟩
    | right =>
        exact ⟨.callee, by simp [Socket.owner, dialer, Party.other],
          by simp [Socket.owner, Side.other, dialer]⟩
  obtain ⟨side, left, right⟩ := owned
  have leftSettled := settled side
  have rightSettled := settled side.other
  rw [left] at leftSettled
  rw [right] at rightSettled
  exact ⟨⟨place, side⟩, node .left, node .right, mirrors.shown.node?_eq .left,
    mirrors.shown.node?_eq .right, leftSettled, rightSettled⟩

/-- A node that has just been started in a context and a group of its own. -/
def loneEntry (id : String) (number : Nat) (address : SocketAddress) : NodeEntry where
  node := Mesh.freshNode
    ⟨id, address.port, none, [address], none, "mesh", true, 30000, .empty⟩
    ⟨.withPort address.port, number, none, true, false⟩ 0
  context := number
  group := number
  files := .unrooted 0
  held := true

/-- Two nodes, `west-5000` and `east-5001`, on two hosts. -/
def couple : State where
  mesh :=
    { Mesh.initial [] "/" .empty with
      contexts :=
        [⟨.initial "west" (some .empty), true, false⟩, ⟨.initial "east" (some .empty), true, false⟩]
      groups := [⟨⟨[⟨"west-5000", 0⟩], [], .empty⟩, true⟩, ⟨⟨[⟨"east-5001", 1⟩], [], .empty⟩, true⟩]
      nodes :=
        [loneEntry "west-5000" 0 (.v4 ⟨192, 0, 2, 10⟩ 5000),
          loneEntry "east-5001" 1 (.v4 ⟨192, 0, 2, 11⟩ 5001)] }
  openings := []

def coupleIds : Party → String
  | .left => "west-5000"
  | .right => "east-5001"

theorem couple_ready : couple.Ready coupleIds where
  presentable party := by
    have unplaced : ∀ session, coupleIds party ≠ Context.placeholder session := by
      intro session same
      have first := congrArg (fun id => id.toList.head?) same
      cases party <;> simp [Context.placeholder, coupleIds] at first
    cases party with
    | left => exact ⟨⟨"west", 5000, none, by decide +kernel⟩, by decide +kernel, by decide +kernel, unplaced, by decide +kernel⟩
    | right => exact ⟨⟨"east", 5001, none, by decide +kernel⟩, by decide +kernel, by decide +kernel, unplaced, by decide +kernel⟩
  different := by decide
  started party := by
    cases party <;>
      exact ⟨_, rfl, ⟨_, _, _, rfl, rfl, rfl⟩, rfl, by decide +kernel, by decide +kernel⟩
  unopened := rfl
  unstreamed := rfl

/-- Each node of the couple dials the other, and accepts the other's socket before its own dial has
connected. -/
def crossing : List Move :=
  [.requests .left (some "east-5001") (.v4 ⟨192, 0, 2, 11⟩ 5001),
    .requests .right (some "west-5000") (.v4 ⟨192, 0, 2, 10⟩ 5000),
    .opens .left 0, .opens .right 0,
    .arrives 0 0 (.v4 ⟨192, 0, 2, 10⟩ 6000), .arrives 1 0 (.v4 ⟨192, 0, 2, 11⟩ 6001),
    .accepts .left 0, .accepts .right 0, .connects 0, .connects 1,
    .writes .left ⟨2⟩, .writes .right ⟨2⟩, .reads .left ⟨1⟩ 10, .reads .left ⟨1⟩ 6,
    .reads .right ⟨1⟩ 16, .writes .left ⟨1⟩, .writes .right ⟨1⟩, .reads .left ⟨2⟩ 16,
    .reads .right ⟨2⟩ 16, .closes .left ⟨2⟩, .closes .right ⟨1⟩]

theorem crossing_dials_agree_couple :
    couple.Ready coupleIds ∧ couple.Permitted crossing ∧ (couple.run crossing).Quiet ∧
      (couple.run crossing).SomeConnected ∧
      ∃ endpoint left right, (couple.run crossing).mesh.node? Party.left.number = some left ∧
        (couple.run crossing).mesh.node? Party.right.number = some right ∧
        Settled left "east-5001" endpoint ∧ Settled right "west-5000" endpoint.peer := by
  have permitted : couple.Permitted crossing := by decide +kernel
  have quiet : (couple.run crossing).Quiet := by decide +kernel
  have connected : (couple.run crossing).SomeConnected := by decide +kernel
  exact ⟨couple_ready, permitted, quiet, connected,
    crossing_dials_agree couple_ready permitted quiet connected⟩

end PeerMesh.Crossing
