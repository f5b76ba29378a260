import PeerMesh.Proofs.Crossing.Hearing
import PeerMesh.Proofs.Node.Accounts
import PeerMesh.Proofs.Node.Addresses
import PeerMesh.Proofs.Node.Frame

/-!
# A node in the crossing

What holds of each of the two nodes by itself at any time, and what each thing that may happen to it
makes of its ends, its dials and its listeners.
-/

set_option autoImplicit false

namespace PeerMesh.Node

open Crossing (End Standing)

/-- What a node has besides its connections: what it is, and how it listens. -/
def surface (node : Node) : Profile × List Listener × Bool :=
  (node.profile, node.listeners, node.stopping)

theorem surface_of_frame {node after : Node} (same : after.frame = node.frame) :
    after.surface = node.surface :=
  congrArg (fun frame => (frame.1, frame.2.1, frame.2.2.1)) same

/-- A node of the crossing, with its own identifier and that of the other. -/
structure Partner (node : Node) (id peer : String) : Prop where
  engaged : node.Engaged peer
  id_eq : node.profile.id = id
  books : node.ledger.Sound
  accounted : node.ledger.Accounted
  addressed : node.ledger.Addressed
  running : node.stopping = false
  serving : ∀ listener ∈ node.listeners, listener.stopped = false ∧ listener.pausedUntil = none

variable {node after : Node} {id peer : String} {link : Link}

/-- Every act but a drop and an accepted connection from an address being dialed keeps the books. -/
theorem Partner.of_step (partner : node.Partner id peer) (sessions : Nat) (act : Act)
    (stepped : (Situation.step ⟨node, sessions⟩ act).node = after) (engaged : after.Engaged peer)
    (surface : after.surface = node.surface) (undropped : ∀ name, act ≠ .drops name)
    (apart : ∀ remote socket moment, act = .accepts remote socket moment →
      remote ∉ node.table.inFlight.pending) : after.Partner id peer := by
  subst stepped
  simp only [Node.surface, Prod.mk.injEq] at surface
  obtain ⟨profile, listeners, stopping⟩ := surface
  exact {
    engaged
    id_eq := by rw [profile, partner.id_eq]
    books := sound_step partner.books act
    accounted := by
      have accounted : (⟨node, sessions⟩ : Situation).Accounted := partner.accounted
      refine Situation.accounted_step partner.books accounted ?_
      intro entry name strands
      exact undropped entry.name strands.dropped
    addressed := addressed_step partner.books partner.addressed apart engaged.admitting
    running := by rw [stopping, partner.running]
    serving := by
      rw [listeners]
      exact partner.serving }

/-- An act that neither drops a connection nor accepts one. -/
def Act.Plain : Act → Prop
  | .drops _ => False
  | .accepts .. => False
  | _ => True

theorem Partner.of_plain_step (partner : node.Partner id peer) (sessions : Nat) (act : Act)
    (stepped : (Situation.step ⟨node, sessions⟩ act).node = after) (engaged : after.Engaged peer)
    (surface : after.surface = node.surface) (plain : act.Plain) : after.Partner id peer := by
  refine partner.of_step sessions act stepped engaged surface ?_ ?_
  · rintro name rfl
    exact plain
  · rintro remote socket moment rfl
    exact plain.elim

/-! ## Dials -/

/-- The dials of a node and what it numbers them by. -/
def agenda (node : Node) : List Dial × Nat :=
  (node.dials, node.dialCount)

theorem Partner.requested (partner : node.Partner id peer) (around : Surroundings)
    (name : Option String) (address : SocketAddress) (now moment : Nat) :
    (node.requestPeering around name address now moment).1.Partner id peer ∧
      (node.requestPeering around name address now moment).1.endAt? = node.endAt? ∧
      (node.requestPeering around name address now moment).1.listeners = node.listeners ∧
      ((node.requestPeering around name address now moment).1.agenda = node.agenda ∨
        ∃ dial, dial.number = node.dialCount ∧
          (node.requestPeering around name address now moment).1.agenda =
            (node.dials ++ [dial], node.dialCount + 1)) := by
  have surface := surface_of_frame
    (congrArg Prod.fst (shell_requestPeering node around name address now moment))
  have listeners : (node.requestPeering around name address now moment).1.listeners =
      node.listeners := congrArg (·.2.1) surface
  have kept : ∀ after : Node, after.links = node.links → after.table.registry = node.table.registry →
      after.hello = node.hello → after.endAt? = node.endAt? := by
    intro after links registry hello
    funext endpoint
    exact endAt?_congr links registry hello
  cases refusal : node.refusal? around name address with
  | none =>
      have asked : (node.requestPeering around name address now moment).1 =
          (node.touch moment).beginDial name address now := by
        simp only [requestPeering, refusal]
      rw [asked] at surface listeners ⊢
      refine ⟨?_, kept _ rfl rfl rfl, listeners, .inr ⟨node.dialOf name address now, rfl, rfl⟩⟩
      refine partner.of_plain_step 0 (.requests around name address now moment) asked
        (partner.engaged.congr rfl rfl rfl rfl) surface trivial
  | some reason =>
      have declined : (node.requestPeering around name address now moment).1 = node ∨
          (node.requestPeering around name address now moment).1 = node.touch moment := by
        simp only [requestPeering, refusal]
        cases reason <;> simp
      rcases declined with same | same
      · rw [same]
        exact ⟨partner, rfl, rfl, .inl rfl⟩
      · rw [same] at surface ⊢
        refine ⟨?_, kept _ rfl rfl rfl, rfl, .inl rfl⟩
        exact partner.of_plain_step 0 (.requests around name address now moment) same
          (partner.engaged.congr rfl rfl rfl rfl) surface trivial

theorem Partner.failed (partner : node.Partner id peer) {dial : Dial} (member : dial ∈ node.dials) :
    (node.dialFailed dial).Partner id peer ∧ (node.dialFailed dial).endAt? = node.endAt? := by
  refine ⟨?_, ?_⟩
  · refine partner.of_plain_step 0 (.dialFails dial.number) ?_
      (partner.engaged.congr rfl rfl rfl rfl) rfl trivial
    simp only [Situation.step, dial?_of_mem partner.books member]
  · funext endpoint
    exact endAt?_congr rfl rfl rfl

/-- A dial connects: the node greets on the new end. -/
theorem Partner.connected (partner : node.Partner id peer) {dial : Dial} (member : dial ∈ node.dials)
    {stream sessions : Nat} (unpumped : node.endAt? ⟨stream, .caller⟩ = none)
    (strange : Context.placeholder (sessions + 1) ≠ peer) (moment : Nat) {arrived : Arrived}
    (shape : arrived = ⟨Context.placeholder (sessions + 1), dial.address, .outbound, dial.peer,
      ⟨stream, .caller⟩⟩) :
    ((node.withoutDial dial.number).connected arrived moment).1.Partner id peer ∧
      ((node.withoutDial dial.number).connected arrived moment).1.endAt? =
        Function.update node.endAt? ⟨stream, .caller⟩
          (some ⟨node.nextSlot, .unnamed, ⟨false, true, []⟩, Hello.line id⟩) ∧
      ((node.withoutDial dial.number).connected arrived moment).1.listeners = node.listeners ∧
      ((node.withoutDial dial.number).connected arrived moment).1.agenda =
        (node.dials.filter (·.number != dial.number), node.dialCount) := by
  have without : (node.withoutDial dial.number).Engaged peer :=
    partner.engaged.congr rfl rfl rfl rfl
  have same : (node.withoutDial dial.number).endAt? = node.endAt? := by
    funext endpoint
    exact endAt?_congr rfl rfl rfl
  have pending : node.table.inFlight.hasPending dial.address = true :=
    InFlight.hasPending_iff.mpr ((partner.addressed.pending_iff _).mpr ⟨dial, member, rfl⟩)
  have surface := surface_of_frame
    (frame_connected (node.withoutDial dial.number) arrived moment)
  have unpumpedNow : (node.withoutDial dial.number).endAt? arrived.socket = none := by
    rw [same, shape]
    exact unpumped
  have sides : arrived.direction = .outbound ↔ arrived.socket.side = .caller := by simp [shape]
  refine ⟨?_, ?_, congrArg (·.2.1) surface, ?_⟩
  · refine partner.of_plain_step sessions (.dialConnects dial.number ⟨stream, .caller⟩ moment) ?_
      (without.connected unpumpedNow sides (by rw [shape]; exact strange) moment) surface trivial
    rw [shape]
    simp only [Situation.step, dial?_of_mem partner.books member]
    rfl
  · rw [without.endAt?_connected unpumpedNow sides, same, shape, ← partner.id_eq]
    change Function.update node.endAt? ⟨stream, .caller⟩ (some ⟨node.nextSlot, .unnamed,
      ⟨false, node.table.inFlight.hasPending dial.address, []⟩,
      if node.table.inFlight.hasPending dial.address then Hello.line node.profile.id else []⟩) = _
    rw [pending, if_pos rfl]
  · exact congrArg (fun ledger : Ledger => (ledger.dials, ledger.dialCount))
      (ledger_connected_of_open without.admitting arrived moment)

/-! ## Listeners -/

/-- What listeners have to accept has nothing to do with the rest of the node. -/
theorem Partner.relistened (partner : node.Partner id peer) (position : Nat)
    (change : Listener → Listener)
    (keeps : ∀ listener, (change listener).stopped = listener.stopped ∧
      (change listener).pausedUntil = listener.pausedUntil) :
    (node.updateListener position change).Partner id peer ∧
      (node.updateListener position change).endAt? = node.endAt? ∧
      (node.updateListener position change).agenda = node.agenda := by
  refine ⟨?_, ?_, rfl⟩
  · exact {
      engaged := partner.engaged.congr rfl rfl rfl rfl
      id_eq := partner.id_eq
      books := partner.books
      accounted := partner.accounted
      addressed := partner.addressed
      running := partner.running
      serving := by
        intro listener member
        obtain ⟨place, found⟩ := List.mem_iff_getElem?.mp member
        simp only [updateListener, List.getElem?_modify, Option.map_eq_map,
          Option.map_eq_some_iff] at found
        obtain ⟨old, oldFound, rfl⟩ := found
        have serving := partner.serving old (List.mem_of_getElem? oldFound)
        split
        · rw [(keeps old).1, (keeps old).2]
          exact serving
        · exact serving }
  · funext endpoint
    exact endAt?_congr rfl rfl rfl

/-- A connection is accepted from an address that is not being dialed: the node waits for the
greeting. -/
theorem Partner.accepted (partner : node.Partner id peer) {remote : SocketAddress}
    (apart : ∀ dial ∈ node.dials, dial.address ≠ remote) {stream sessions : Nat}
    (unpumped : node.endAt? ⟨stream, .callee⟩ = none)
    (strange : Context.placeholder (sessions + 1) ≠ peer) (moment : Nat) {arrived : Arrived}
    (shape : arrived = ⟨Context.placeholder (sessions + 1), remote, .inbound, none,
      ⟨stream, .callee⟩⟩) :
    (node.connected arrived moment).1.Partner id peer ∧
      (node.connected arrived moment).1.endAt? = Function.update node.endAt? ⟨stream, .callee⟩
        (some ⟨node.nextSlot, .unnamed, ⟨false, false, []⟩, []⟩) ∧
      (node.connected arrived moment).1.listeners = node.listeners ∧
      (node.connected arrived moment).1.agenda = node.agenda := by
  have unmarked : remote ∉ node.table.inFlight.pending := by
    intro marked
    obtain ⟨dial, member, same⟩ := (partner.addressed.pending_iff remote).mp marked
    exact apart dial member same
  have pending : node.table.inFlight.hasPending remote = false := by
    rw [Bool.eq_false_iff, ne_eq, InFlight.hasPending_iff]
    exact unmarked
  have surface := surface_of_frame (frame_connected node arrived moment)
  have unpumpedNow : node.endAt? arrived.socket = none := by
    rw [shape]
    exact unpumped
  have sides : arrived.direction = .outbound ↔ arrived.socket.side = .caller := by simp [shape]
  refine ⟨?_, ?_, congrArg (·.2.1) surface, ?_⟩
  · refine partner.of_step sessions (.accepts remote ⟨stream, .callee⟩ moment) ?_
      (partner.engaged.connected unpumpedNow sides (by rw [shape]; exact strange) moment) surface
      ?_ ?_
    · rw [shape]
      rfl
    · intro third same
      cases same
    · rintro third socket later ⟨⟩
      exact unmarked
  · rw [partner.engaged.endAt?_connected unpumpedNow sides, shape]
    dsimp only
    rw [pending]
    rfl
  · exact congrArg (fun ledger : Ledger => (ledger.dials, ledger.dialCount))
      (ledger_connected_of_open partner.engaged.admitting arrived moment)

/-! ## Connections -/

theorem link?_isSome_of_mem (member : link ∈ node.links) : (node.link? link.slot).isSome = true :=
  List.find?_isSome.mpr ⟨link, member, by simp⟩

theorem Linked.updateHandle_eq (linked : node.Linked) (member : link ∈ node.links)
    (change : Handle → Handle) :
    node.updateHandle link.slot change = node.updateHandle link.slot fun _ => change link.handle := by
  simp only [Node.updateHandle, Node.mk.injEq, true_and, and_true]
  refine List.map_congr_left ?_
  intro other otherMember
  by_cases same : other.slot = link.slot
  · rw [linked.eq_of_slot_eq otherMember member same]
  · rw [if_neg same, if_neg same]

theorem Partner.written (partner : node.Partner id peer) (member : link ∈ node.links)
    {handle : Handle} {chunk : Bytes} (receives : link.handle.receive = (handle, some chunk)) :
    (node.updateHandle link.slot fun _ => handle).Partner id peer ∧
      (node.updateHandle link.slot fun _ => handle).endAt? = Function.update node.endAt? link.socket
        (some { node.endOf link with queued := waiting handle }) ∧
      waiting link.handle = chunk ++ waiting handle := by
  have same := partner.engaged.linked.updateHandle_eq member fun handle => handle.receive.1
  rw [receives] at same
  have queue : waiting link.handle = chunk ++ waiting handle := by
    obtain ⟨rest, before, after⟩ := Handle.queue_of_receive receives
    rw [waiting, waiting, before, after]
    rfl
  refine ⟨?_, ?_, queue⟩
  · rw [← same]
    refine partner.of_plain_step 0 (.writes link.slot) rfl ?_ rfl trivial
    refine partner.engaged.updateHandle link.slot Handle.closed_receive ?_
    intro other present
    rw [Handle.isSome_queue_receive, present]
  · exact partner.engaged.linked.endAt?_eq_update member fun _ =>
      partner.engaged.linked.endAt?_updateHandle member (fun _ => handle) (waiting handle) rfl

theorem Partner.received (partner : node.Partner id peer) (member : link ∈ node.links)
    (around : Surroundings) (bytes : Bytes) (moment : Nat)
    (engaged : (node.received around link.slot bytes moment).Engaged peer) :
    (node.received around link.slot bytes moment).Partner id peer ∧
      (node.received around link.slot bytes moment).listeners = node.listeners ∧
      (node.received around link.slot bytes moment).agenda = node.agenda := by
  have surface := surface_of_frame (frame_received node around link.slot bytes moment)
  refine ⟨?_, congrArg (·.2.1) surface, ?_⟩
  · refine partner.of_plain_step 0 (.receives around link.slot bytes moment) ?_ engaged surface trivial
    simp only [Situation.step, link?_isSome_of_mem member, if_true]
  · rcases naming_of_received partner.books around link.slot bytes moment with same | naming
    · exact congrArg (fun ledger : Ledger => (ledger.dials, ledger.dialCount)) same
    · exact Prod.ext naming.dials_eq.1 naming.dials_eq.2

/-- The task that pumps an end is over. -/
theorem Partner.linkEnded (partner : node.Partner id peer) (member : link ∈ node.links) :
    (node.linkEnded link.slot).Partner id peer ∧
      (node.linkEnded link.slot).endAt? = Function.update node.endAt? link.socket none ∧
      (node.linkEnded link.slot).listeners = node.listeners ∧
      (node.linkEnded link.slot).agenda = node.agenda := by
  have surface := surface_of_frame (frame_linkEnded node link.slot)
  refine ⟨?_, ?_, congrArg (·.2.1) surface, ?_⟩
  · refine partner.of_plain_step 0 (.linkEnds link.slot) ?_ (partner.engaged.linkEnded member)
      surface trivial
    simp only [Situation.step, link?_isSome_of_mem member, if_true]
  · funext endpoint
    rw [partner.engaged.linked.endAt?_linkEnded member, Function.update_apply]
  · cases search : node.ledger.registry.get? link.slot with
    | none =>
        exact congrArg (fun ledger : Ledger => (ledger.dials, ledger.dialCount))
          (ledger_linkEnded_of_get?_eq_none search)
    | some entry =>
        refine (congrArg (fun ledger : Ledger => (ledger.dials, ledger.dialCount))
          (ledger_linkEnded_of_get? search)).trans ?_
        exact Prod.ext (Ledger.dials_dismissed _ _) (Ledger.dialCount_dismissed _ _)

/-! ## The beginning -/

theorem partner_freshNode {profile : Profile} {request : Mesh.StartRequest} (moment : Nat)
    (peer : String) (hello : request.hello = true) :
    (Mesh.freshNode profile request moment).Partner profile.id peer where
  engaged := {
    linked := by
      constructor <;> simp [Mesh.freshNode, PeerTable.empty, Registry.empty]
    sound := Registry.sound_empty
    admitting := rfl
    exchange := by simp [Mesh.freshNode, hello]
    unheard := by
      intro slot _
      simp only [progress, Mesh.freshNode, hello, if_true, Option.elim_some]
      rfl
    named := by simp [Mesh.freshNode, PeerTable.empty, Registry.empty] }
  id_eq := rfl
  books := ⟨Registry.sound_empty, List.nodup_nil, by simp [ledger, Mesh.freshNode]⟩
  accounted := by
    intro name marked
    cases marked
  addressed := ⟨by simp [ledger, Mesh.freshNode, PeerTable.empty, InFlight.empty], List.nodup_nil⟩
  running := rfl
  serving := by
    intro listener member
    obtain ⟨address, -, rfl⟩ := List.mem_map.mp member
    exact ⟨rfl, rfl⟩

theorem endAt?_freshNode (profile : Profile) (request : Mesh.StartRequest) (moment : Nat)
    (endpoint : Endpoint) : (Mesh.freshNode profile request moment).endAt? endpoint = none := rfl

end PeerMesh.Node
