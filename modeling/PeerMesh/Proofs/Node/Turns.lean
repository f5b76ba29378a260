import PeerMesh.Proofs.Crossing.Ends
import PeerMesh.Proofs.Node.Greetings
import PeerMesh.Proofs.Node.Initiative
import PeerMesh.Proofs.Node.Standing

/-!
# One connection and its exchange

An act may register a connection, bring it bytes, queue or write bytes on it, or end its task. Any
other act leaves its queue and what the hello exchange has come to as they are. A line of the exchange
itself is queued when the connection is registered, or in answer to bytes that gave it a name.
-/

set_option autoImplicit false

namespace PeerMesh

theorem Handle.queue_of_send {handle : Handle} {bytes : Bytes}
    (taken : (handle.send bytes).2 = true) :
    ∃ queued, handle.queue = some queued ∧
      (handle.send bytes).1.queue = some (queued ++ [bytes]) := by
  obtain ⟨closed, queue⟩ := handle
  cases closed with
  | true => cases taken
  | false =>
      cases queue with
      | none => cases taken
      | some queued => exact ⟨queued, rfl, rfl⟩

namespace Node

/-- The byte strings that wait on the handle of the connection under `slot`. -/
def queued (node : Node) (slot : Slot) : List Bytes :=
  ((node.link? slot).bind fun link => link.handle.queue).getD []

variable {node : Node} {slot other : Slot}

/-! ## Queues -/

theorem queued_of_links {later : Node} (same : later.links = node.links) (slot : Slot) :
    later.queued slot = node.queued slot := by
  rw [queued, queued, link?, link?, same]

theorem queued_updateHandle {change : Handle → Handle}
    (keeps : ∀ handle, (change handle).queue = handle.queue) (changed slot : Slot) :
    (node.updateHandle changed change).queued slot = node.queued slot := by
  rw [queued, queued, link?_updateHandle]
  cases node.link? slot with
  | none => rfl
  | some link =>
      simp only [Option.map_some, Option.bind_some]
      split
      · rw [keeps]
      · rfl

theorem queued_updateHandle_of_ne (different : other ≠ slot) (change : Handle → Handle) :
    (node.updateHandle slot change).queued other = node.queued other := by
  rw [queued, queued, link?_updateHandle]
  cases search : node.link? other with
  | none => rfl
  | some link =>
      simp only [Option.map_some, slot_of_link? search, if_neg different]

theorem queued_closeHandle (node : Node) (closed slot : Slot) :
    (node.closeHandle closed).queued slot = node.queued slot := by
  have keeps : ∀ handle : Handle, handle.close.1.queue = handle.queue := fun _ => rfl
  exact queued_updateHandle keeps closed slot

theorem queued_expelled (node : Node) (entry : Connection) (slot : Slot) :
    (node.expelled entry).queued slot = node.queued slot :=
  queued_closeHandle (node.withRegistry _) entry.slot slot

theorem queued_dismissed (node : Node) (entry : Connection) (slot : Slot) :
    (node.dismissed entry).queued slot = node.queued slot := by
  unfold dismissed
  split <;> exact queued_expelled node entry slot

theorem queued_identify (sound : node.table.registry.Sound) (around : Surroundings)
    (named : Slot) (name : String) (slot : Slot) :
    (node.identify around named name).1.queued slot = node.queued slot := by
  have outcome := identify_spec sound around named name
  generalize node.identify around named name = result at outcome
  cases outcome with
  | unknown => rfl
  | refused entry => exact queued_expelled node entry slot
  | free => rfl
  | taken entry holder => exact queued_dismissed node holder slot
  | lost entry => exact queued_dismissed node entry slot

theorem queued_dropPeer (node : Node) (peer : String) (slot : Slot) :
    (node.dropPeer peer).1.queued slot = node.queued slot := by
  rcases dropPeer_cases node peer with same | ⟨entry, -, -, -, dropped⟩
  · rw [same]
  · rw [dropped]
    exact queued_expelled node entry slot

theorem queued_finishTeardown (node : Node) (slot : Slot) :
    node.finishTeardown.queued slot = node.queued slot := by
  change node.emptyTable.disposeHook.queued slot = _
  rw [queued_of_links (links_disposeHook _)]
  refine closeAll_induction (motive := fun other => other.queued slot = node.queued slot) ?_ ?_ _
  · intro other closed same
    rw [queued_closeHandle, same]
  · rfl

/-- What is sent comes last in the queue, if the handle takes it. -/
theorem queued_send (node : Node) (slot : Slot) (bytes : Bytes) :
    (node.send slot bytes).1.queued slot = node.queued slot ∨
      (node.send slot bytes).1.queued slot = node.queued slot ++ [bytes] := by
  unfold send
  split
  · exact .inl rfl
  · split
    · exact .inl rfl
    · rename_i link search
      split
      · rename_i taken
        right
        obtain ⟨waiting, before, after⟩ := Handle.queue_of_send taken
        rw [queued, queued, link?_updateHandle, search]
        simp only [Option.map_some, Option.bind_some, slot_of_link? search, if_true, before, after,
          Option.getD_some]
      · exact .inl rfl

theorem queued_send_of_ne (different : other ≠ slot) (bytes : Bytes) :
    (node.send slot bytes).1.queued other = node.queued other := by
  unfold send
  split
  · rfl
  · split
    · rfl
    · split
      · exact queued_updateHandle_of_ne different _
      · rfl

/-! ## Tasks and progress -/

theorem isSome_link?_iff : (node.link? slot).isSome = true ↔ node.IsPumped slot := by
  constructor
  · intro linked
    obtain ⟨link, search⟩ := Option.isSome_iff_exists.mp linked
    refine ⟨link.socket, List.mem_map.mpr ⟨link, List.mem_of_find?_eq_some search, ?_⟩⟩
    rw [slot_of_link? search]
  · intro pumped
    obtain ⟨link, search⟩ := exists_link?_of_isPumped pumped
    exact Option.isSome_iff_exists.mpr ⟨link, search⟩

theorem isSome_link?_of_pumps {later : Node} (same : later.pumps = node.pumps) (slot : Slot) :
    (later.link? slot).isSome = (node.link? slot).isSome := by
  rw [Bool.eq_iff_iff, isSome_link?_iff, isSome_link?_iff, IsPumped, IsPumped, same]

theorem progress_of_hello {later : Node} (same : later.hello = node.hello) (slot : Slot) :
    later.progress slot = node.progress slot := by
  rw [progress, progress, same]

theorem progress_startHandshake (node : Node) (slot other : Slot) :
    (node.startHandshake slot).progress other =
      if other = slot ∧ node.hello.isSome then { node.progress slot with initiated := true }
      else node.progress other := by
  rw [progress, hello_startHandshake]
  cases exchange : node.hello with
  | none => simp [progress, exchange]
  | some hello => simp [progress, exchange, Hello.progress_initiate]

/-- What the exchange has come to where bytes came in, and nowhere else. -/
theorem progress_listened_of_ne (different : other ≠ slot) (bytes : Bytes) (moment : Nat) :
    (node.listened slot bytes moment).progress other = node.progress other := by
  rw [progress, listened, progress]
  cases node.hello with
  | none => rfl
  | some hello => exact hello.progress_receive_of_ne different bytes

/-! ## Answers -/

/-- The bytes give the connection a name, by a greeting that this node has not spoken before. -/
def Answers (node : Node) (around : Surroundings) (slot : Slot) (bytes : Bytes) (moment : Nat) :
    Prop :=
  ∃ name, node.greeting? slot bytes = some (name, false) ∧
    ((node.listened slot bytes moment).identify around slot name).2 = .ok ()

theorem queued_listened (node : Node) (heard : Slot) (bytes : Bytes) (moment : Nat) (slot : Slot) :
    (node.listened heard bytes moment).queued slot = node.queued slot :=
  queued_of_links rfl slot

theorem queued_received_of_ne (sound : node.table.registry.Sound) (around : Surroundings)
    (different : other ≠ slot) (bytes : Bytes) (moment : Nat) :
    (node.received around slot bytes moment).queued other = node.queued other := by
  have touched : (node.listened slot bytes moment).table.registry.Sound :=
    Registry.sound_touch sound slot moment
  refine received_induction (motive := fun later => later.queued other = node.queued other)
    (queued_listened node slot bytes moment other) ?_ ?_
  · intro name initiated _
    rw [queued_identify touched, queued_listened]
  · intro identified initiated same
    unfold answerHello
    split
    · exact same
    · rw [queued_send_of_ne different, same]

/-- All that bytes queue on their connection is an answer, and only where one is owed. -/
theorem queued_received (sound : node.table.registry.Sound) (around : Surroundings) (slot : Slot)
    (bytes : Bytes) (moment : Nat) :
    ∃ answer, (node.received around slot bytes moment).queued slot = node.queued slot ++ answer ∧
      (answer = [] ∨
        answer = [Hello.line node.profile.id] ∧ node.Answers around slot bytes moment) := by
  have touched : (node.listened slot bytes moment).table.registry.Sound :=
    Registry.sound_touch sound slot moment
  have silent : ∀ {later : Node}, later.queued slot = node.queued slot →
      later.queued slot = node.queued slot ++ [] := by
    intro later same
    rw [same, List.append_nil]
  cases greeted : node.greeting? slot bytes with
  | none =>
      rw [received_of_silent greeted]
      exact ⟨[], silent (queued_listened node slot bytes moment slot), .inl rfl⟩
  | some greeting =>
      obtain ⟨name, initiated⟩ := greeting
      have kept := queued_identify touched around slot name slot
      have known := congrArg (·.1.1) (shell_identify (node.listened slot bytes moment) around slot name)
      rw [queued_listened] at kept
      rw [received_of_greeted greeted]
      split
      · rename_i identified outcome
        rw [outcome] at kept known
        change identified.profile = node.profile at known
        cases initiated with
        | true => exact ⟨[], silent kept, .inl rfl⟩
        | false =>
            rcases queued_send identified slot (Hello.line identified.profile.id) with same | more
            · exact ⟨[], silent (same.trans kept), .inl rfl⟩
            · refine ⟨[Hello.line node.profile.id], ?_, .inr ⟨rfl, name, greeted, ?_⟩⟩
              · rw [answerHello, if_neg Bool.false_ne_true, more, kept, known]
              · rw [outcome]
      · rename_i refused error outcome
        rw [outcome] at kept
        exact ⟨[], silent kept, .inl rfl⟩

/-! ## Registered connections -/

theorem link?_admitted (node : Node) (arrived : Arrived) (moment : Nat) (slot : Slot) :
    (node.admitted arrived moment).link? slot =
      (node.link? slot).or
        (if slot = node.nextSlot then some (node.nextLink arrived.socket) else none) := by
  rw [link?, admitted, List.find?_append, link?, List.find?_singleton]
  simp only [nextLink, beq_iff_eq, @eq_comm _ node.nextSlot slot]

theorem link?_nextSlot (threaded : node.Threaded) : node.link? node.nextSlot = none := by
  rw [link?, List.find?_eq_none]
  intro link member
  have issued := threaded.issued link member
  simp only [beq_iff_eq]
  intro same
  rw [same] at issued
  exact Nat.not_succ_le_self _ issued

/-- The connection under a slot, its queue and its exchange are as they were. -/
structure Undisturbed (before after : Node) (slot : Slot) : Prop where
  linked : (after.link? slot).isSome = (before.link? slot).isSome
  progress : after.progress slot = before.progress slot
  queued : after.queued slot = before.queued slot

theorem Undisturbed.refl (node : Node) (slot : Slot) : Undisturbed node node slot :=
  ⟨rfl, rfl, rfl⟩

theorem Undisturbed.of_links {after : Node} (links : after.links = node.links)
    (hello : after.hello = node.hello) (slot : Slot) : Undisturbed node after slot where
  linked := by rw [link?, link?, links]
  progress := progress_of_hello hello slot
  queued := queued_of_links links slot

theorem undisturbed_startHandshake (node : Node) (different : other ≠ slot) :
    Undisturbed node (node.startHandshake slot) other where
  linked := isSome_link?_of_pumps (pumps_startHandshake node slot) other
  progress := by
    rw [progress_startHandshake, if_neg (fun same => different same.1)]
  queued := by
    unfold startHandshake
    split
    · rfl
    · exact queued_send_of_ne different _

theorem undisturbed_admitted (different : slot ≠ node.nextSlot) (arrived : Arrived) (moment : Nat) :
    Undisturbed node (node.admitted arrived moment) slot where
  linked := by rw [link?_admitted, if_neg different, Option.or_none]
  progress := rfl
  queued := by rw [queued, link?_admitted, if_neg different, Option.or_none, queued]

theorem undisturbed_connected (apart : node.table.closed = true ∨ slot ≠ node.nextSlot)
    (arrived : Arrived) (moment : Nat) :
    Undisturbed node (node.connected arrived moment).1 slot := by
  cases closed : node.table.closed with
  | true =>
      rw [connected_of_closed closed, turnAway]
      cases arrived.direction <;> (refine .of_links ?_ ?_ slot <;> rfl)
  | false =>
      have different : slot ≠ node.nextSlot := by
        rcases apart with refusing | different
        · rw [closed] at refusing
          cases refusing
        · exact different
      have admitted := undisturbed_admitted different arrived moment
      rw [connected_of_open closed]
      split
      · have started := undisturbed_startHandshake (node.admitted arrived moment) different
        exact ⟨started.linked.trans admitted.linked, started.progress.trans admitted.progress,
          started.queued.trans admitted.queued⟩
      · exact admitted

/-- A connection has been registered, and its handshake started or not. -/
structure Opens (before after : Node) (slot : Slot) (pending : Bool) : Prop where
  unlinked : before.link? slot = none
  linked : (after.link? slot).isSome = true
  progress : after.progress slot =
    { before.progress slot with initiated := (after.progress slot).initiated }
  queued : after.queued slot = [] ∨ pending = true ∧ (after.progress slot).initiated = true ∧
    after.queued slot = [Hello.line before.profile.id]

theorem progress_startHandshake_self (node : Node) (slot : Slot) :
    (node.startHandshake slot).progress slot =
      { node.progress slot with
        initiated := ((node.startHandshake slot).progress slot).initiated } := by
  rw [progress_startHandshake]
  split <;> rfl

/-- All that the start of a handshake queues is the line of a node that says hello. -/
theorem queued_startHandshake (node : Node) (slot : Slot) :
    ∃ said, (node.startHandshake slot).queued slot = node.queued slot ++ said ∧
      (said = [] ∨ said = [Hello.line node.profile.id] ∧
        ((node.startHandshake slot).progress slot).initiated = true) := by
  cases exchange : node.hello with
  | none =>
      refine ⟨[], ?_, .inl rfl⟩
      rw [Node.startHandshake, exchange, List.append_nil]
  | some hello =>
      have spoken := progress_startHandshake node slot slot
      rw [if_pos ⟨rfl, by rw [exchange]; rfl⟩] at spoken
      have told := queued_send { node with hello := some (hello.initiate slot) } slot
        (Hello.line node.profile.id)
      rw [spoken, Node.startHandshake, exchange]
      rcases told with silent | line
      · exact ⟨[], silent.trans (List.append_nil _).symm, .inl rfl⟩
      · exact ⟨_, line, .inr ⟨rfl, rfl⟩⟩

theorem Opens.startHandshake {before : Node} (opens : Opens before node slot false)
    (known : node.profile = before.profile) : Opens before (node.startHandshake slot) slot true where
  unlinked := opens.unlinked
  linked := by rw [isSome_link?_of_pumps (pumps_startHandshake node slot), opens.linked]
  progress := by
    rw [progress_startHandshake]
    split <;> rw [opens.progress]
  queued := by
    have empty : node.queued slot = [] := by
      rcases opens.queued with empty | ⟨pending, -⟩
      · exact empty
      · cases pending
    obtain ⟨said, queued, line⟩ := queued_startHandshake node slot
    rw [empty, List.nil_append] at queued
    rw [queued, ← known]
    exact line.imp_right fun ⟨whole, told⟩ => ⟨rfl, told, whole⟩

theorem opens_admitted (threaded : node.Threaded) (arrived : Arrived) (moment : Nat) :
    Opens node (node.admitted arrived moment) node.nextSlot false := by
  have unlinked := link?_nextSlot threaded
  have link : (node.admitted arrived moment).link? node.nextSlot =
      some (node.nextLink arrived.socket) := by
    rw [link?_admitted, if_pos rfl, unlinked, Option.none_or]
  refine ⟨unlinked, by rw [link]; rfl, rfl, .inl ?_⟩
  rw [queued, link]
  rfl

theorem opens_connected (threaded : node.Threaded) (admitting : node.table.closed = false)
    (arrived : Arrived) (moment : Nat) :
    Opens node (node.connected arrived moment).1 node.nextSlot
      (node.table.inFlight.hasPending arrived.remote) := by
  have admitted := opens_admitted threaded arrived moment
  rw [connected_of_open admitting]
  cases node.table.inFlight.hasPending arrived.remote with
  | false => exact admitted
  | true => exact admitted.startHandshake rfl

/-! ## Ends of tasks -/

theorem progress_linkEnded_self (node : Node) (slot : Slot) :
    (node.linkEnded slot).progress slot = .none := by
  rw [progress, hello_linkEnded]
  cases node.hello with
  | none => rfl
  | some hello => exact hello.progress_forget_self slot

theorem undisturbed_linkEnded (different : other ≠ slot) :
    Undisturbed node (node.linkEnded slot) other where
  linked := by rw [link?_linkEnded, if_neg different]
  progress := by
    rw [progress, hello_linkEnded, progress]
    cases node.hello with
    | none => rfl
    | some hello => exact hello.progress_forget different
  queued := by rw [queued, link?_linkEnded, if_neg different, queued]

/-! ## Acts -/

namespace Situation

/-- The name that the hello exchange asks for on the connection under `slot`. -/
def asked? (slot : Slot) (before : Situation) : Act → Option String
  | .receives _ heard bytes _ =>
    if heard = slot ∧ (before.node.link? slot).isSome = true then
      (before.node.greeting? slot bytes).map (·.1)
    else none
  | _ => none

/-- What is taken out of the queue of the connection under `slot` to be written. -/
def taken (slot : Slot) (before : Situation) : Act → List Bytes
  | .writes written => if written = slot then (before.node.queued slot).take 1 else []
  | _ => []

/-- What an act means for the connection under `slot`. -/
inductive Turn (before : Situation) (slot : Slot) : Act → Node → Prop
  | elsewhere {act : Act} {after : Node} (undisturbed : Undisturbed before.node after slot)
      (unasked : before.asked? slot act = none) (untaken : before.taken slot act = []) :
      Turn before slot act after
  | opened {act : Act} {after : Node} {address : SocketAddress}
      (born : before.origin? act = some address) (admitting : before.node.table.closed = false)
      (next : slot = before.node.nextSlot)
      (opens : Opens before.node after slot (before.node.table.inFlight.hasPending address)) :
      Turn before slot act after
  | heard {around : Surroundings} {bytes : Bytes} {moment : Nat} {after : Node}
      (linked : (before.node.link? slot).isSome = true)
      (still : (after.link? slot).isSome = true)
      (hello : after.hello = (before.node.listened slot bytes moment).hello)
      (queued : ∃ answer, after.queued slot = before.node.queued slot ++ answer ∧
        (answer = [] ∨ answer = [Hello.line before.node.profile.id] ∧
          before.node.Answers around slot bytes moment)) :
      Turn before slot (.receives around slot bytes moment) after
  | sent {bytes : Bytes} {after : Node}
      (linked : (after.link? slot).isSome = (before.node.link? slot).isSome)
      (progress : after.progress slot = before.node.progress slot) :
      Turn before slot (.sends slot bytes) after
  | wrote {after : Node} (linked : (after.link? slot).isSome = (before.node.link? slot).isSome)
      (progress : after.progress slot = before.node.progress slot)
      (queued : after.queued slot = (before.node.queued slot).tail) :
      Turn before slot (.writes slot) after
  | ended {after : Node} (linked : (before.node.link? slot).isSome = true)
      (unlinked : after.link? slot = none)
      (progress : after.progress slot = .none) : Turn before slot (.linkEnds slot) after

variable {before : Situation}

/-- A new connection concerns its own slot and no other. -/
theorem turn_of_born {act : Act} {after : Node} {address : SocketAddress}
    (born : before.origin? act = some address)
    (opens : before.node.table.closed = false → Opens before.node after before.node.nextSlot
      (before.node.table.inFlight.hasPending address))
    (undisturbed : before.node.table.closed = true ∨ slot ≠ before.node.nextSlot →
      Undisturbed before.node after slot)
    (unasked : before.asked? slot act = none) (untaken : before.taken slot act = []) :
    before.Turn slot act after := by
  by_cases apart : before.node.table.closed = true ∨ slot ≠ before.node.nextSlot
  · exact .elsewhere (undisturbed apart) unasked untaken
  · rw [not_or, Bool.not_eq_true, not_not] at apart
    obtain ⟨admitting, rfl⟩ := apart
    exact .opened born admitting rfl (opens admitting)

theorem turn_receives (sound : before.node.ledger.Sound) (around : Surroundings) (heard : Slot)
    (bytes : Bytes) (moment slot) :
    let act := Act.receives around heard bytes moment
    before.Turn slot act (before.step act).node := by
  intro act
  simp only [act, step]
  split
  · rename_i linked
    have pumps := pumps_received before.node around heard bytes moment
    by_cases here : heard = slot
    · subst here
      refine .heard linked ?_ (hello_received _ _ _ _ _)
        (queued_received sound.registry around heard bytes moment)
      rw [isSome_link?_of_pumps pumps, linked]
    · refine .elsewhere ⟨isSome_link?_of_pumps pumps slot, ?_, ?_⟩ (if_neg (here ·.1)) rfl
      · rw [progress_of_hello (hello_received _ _ _ _ _)]
        exact progress_listened_of_ne (Ne.symm here) bytes moment
      · exact queued_received_of_ne sound.registry around (Ne.symm here) bytes moment
  · rename_i unlinked
    refine .elsewhere (.refl _ _) (if_neg ?_) rfl
    rintro ⟨rfl, linked⟩
    exact unlinked linked

theorem turn_sends (before : Situation) (sent slot : Slot) (bytes : Bytes) :
    before.Turn slot (.sends sent bytes) (before.step (.sends sent bytes)).node := by
  have linked := isSome_link?_of_pumps (pumps_send before.node sent bytes) slot
  have progress := progress_of_hello (hello_send before.node sent bytes) slot
  by_cases here : sent = slot
  · subst here
    exact .sent linked progress
  · exact .elsewhere ⟨linked, progress, queued_send_of_ne (Ne.symm here) bytes⟩ rfl rfl

theorem turn_writes (before : Situation) (written slot : Slot) :
    before.Turn slot (.writes written) (before.step (.writes written)).node := by
  have linked := isSome_link?_of_pumps (pumps_updateHandle before.node written
    fun handle => handle.receive.1) slot
  by_cases here : written = slot
  · subst here
    refine .wrote linked rfl ?_
    change (before.node.updateHandle written fun handle => handle.receive.1).queued written = _
    rw [queued, link?_updateHandle, queued]
    cases search : before.node.link? written with
    | none => rfl
    | some link =>
        simp only [Option.map_some, Option.bind_some, slot_of_link? search, if_true]
        obtain ⟨_, ⟨closed, _ | _ | ⟨first, rest⟩⟩, _⟩ := link <;> rfl
  · refine .elsewhere ⟨linked, rfl, ?_⟩ rfl (if_neg here)
    exact queued_updateHandle_of_ne (Ne.symm here) _

theorem turn_linkEnds (before : Situation) (ended slot : Slot) :
    before.Turn slot (.linkEnds ended) (before.step (.linkEnds ended)).node := by
  simp only [step]
  split
  · rename_i linked
    by_cases here : ended = slot
    · subst here
      refine .ended linked ?_ (progress_linkEnded_self before.node ended)
      rw [link?_linkEnded, if_pos rfl]
    · exact .elsewhere (undisturbed_linkEnded (Ne.symm here)) rfl rfl
  · exact .elsewhere (.refl _ _) rfl rfl

theorem turn_step (sound : before.node.ledger.Sound) (threaded : before.node.Threaded) (act : Act)
    (slot : Slot) : before.Turn slot act (before.step act).node := by
  cases act with
  | requests around peer address now moment =>
      refine .elsewhere (.of_links ?_ ?_ slot) rfl rfl
      · simp only [step, requestPeering]
        split <;> rfl
      · exact congrArg Prod.snd (shell_requestPeering before.node around peer address now moment)
  | dialFails number =>
      refine .elsewhere (.of_links ?_ ?_ slot) rfl rfl <;>
        (simp only [step]; split <;> rfl)
  | dialConnects number socket moment =>
      cases search : before.node.dial? number with
      | none =>
          simp only [step, search]
          exact .elsewhere (.refl _ _) rfl rfl
      | some dial =>
          simp only [step, search]
          let arrived : Arrived := ⟨Context.placeholder (before.sessions + 1), dial.address, .outbound,
            dial.peer, socket⟩
          have born : before.origin? (.dialConnects number socket moment) = some dial.address := by
            rw [origin?, search, Option.map_some]
          have rest : (before.node.withoutDial number).Threaded :=
            ⟨threaded.distinct, threaded.issued⟩
          refine turn_of_born born ?_ ?_ rfl rfl
          · intro admitting
            have opens := opens_connected rest admitting arrived moment
            exact ⟨opens.unlinked, opens.linked, opens.progress, opens.queued⟩
          · intro apart
            change (before.node.withoutDial number).table.closed = true ∨ _ at apart
            have undisturbed := undisturbed_connected apart arrived moment
            exact ⟨undisturbed.linked, undisturbed.progress, undisturbed.queued⟩
  | accepts remote socket moment =>
      have born : before.origin? (.accepts remote socket moment) = some remote := rfl
      refine turn_of_born born ?_ ?_ rfl rfl
      · intro admitting
        exact opens_connected threaded admitting _ moment
      · intro apart
        exact undisturbed_connected apart _ moment
  | identifies around named name =>
      refine .elsewhere ⟨?_, ?_, ?_⟩ rfl rfl
      · exact isSome_link?_of_pumps (pumps_identify before.node around named name) slot
      · exact progress_of_hello (hello_identify before.node around named name) slot
      · exact queued_identify sound.registry around named name slot
  | receives around heard bytes moment => exact turn_receives sound around heard bytes moment slot
  | sends sent bytes => exact turn_sends before sent slot bytes
  | writes written => exact turn_writes before written slot
  | closesHandle closed =>
      refine .elsewhere ⟨?_, rfl, queued_closeHandle before.node closed slot⟩ rfl rfl
      exact isSome_link?_of_pumps (pumps_closeHandle before.node closed) slot
  | linkEnds ended => exact turn_linkEnds before ended slot
  | drops peer =>
      refine .elsewhere ⟨?_, ?_, queued_dropPeer before.node peer slot⟩ rfl rfl
      · exact isSome_link?_of_pumps (pumps_dropPeer before.node peer) slot
      · exact progress_of_hello (congrArg Prod.snd (shell_dropPeer before.node peer)) slot
  | finishesTeardown =>
      simp only [step]
      split
      · refine .elsewhere ⟨?_, ?_, queued_finishTeardown before.node slot⟩ rfl rfl
        · exact isSome_link?_of_pumps (pumps_finishTeardown before.node) slot
        · exact progress_of_hello (hello_finishTeardown before.node) slot
      · exact .elsewhere (.refl _ _) rfl rfl
  | firesExit =>
      refine .elsewhere (.of_links ?_ (hello_hearExit before.node) slot) rfl rfl
      unfold hearExit
      split
      · split <;> rfl
      · rfl
  | asksClose | grantsPermit | storesHook | changesListener | drawsElsewhere =>
      refine .elsewhere (.of_links ?_ ?_ slot) rfl rfl <;> rfl

end Situation

end Node

end PeerMesh
