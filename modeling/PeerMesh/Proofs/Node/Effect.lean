import PeerMesh.Proofs.Node.Admission
import PeerMesh.Proofs.Node.Greetings
import PeerMesh.Proofs.Node.Ledger

/-!
# The effect of each act on the books

Every act either leaves the books as they are or makes one of the entries listed in `Effect`. A name
has the effects of an identification; bytes have them too, after their activity has been noted.
-/

set_option autoImplicit false

namespace PeerMesh.Node

/-! ## Steps that leave the books alone -/

@[simp] theorem ledger_send (node : Node) (slot : Slot) (bytes : Bytes) :
    (node.send slot bytes).1.ledger = node.ledger := by
  unfold send
  split
  · rfl
  · split
    · rfl
    · split <;> rfl

@[simp] theorem ledger_startHandshake (node : Node) (slot : Slot) :
    (node.startHandshake slot).ledger = node.ledger := by
  unfold startHandshake
  split
  · rfl
  · exact ledger_send _ _ _

@[simp] theorem ledger_answerHello (node : Node) (slot : Slot) (initiated : Bool) :
    (node.answerHello slot initiated).ledger = node.ledger := by
  unfold answerHello
  split
  · rfl
  · exact ledger_send _ _ _

@[simp] theorem ledger_closeAll (node : Node) (entries : List Connection) :
    (node.closeAll entries).ledger = node.ledger := by
  unfold closeAll
  induction entries generalizing node with
  | nil => rfl
  | cons entry rest ih =>
      rw [List.foldl_cons, ih]
      rfl

@[simp] theorem ledger_hearExit (node : Node) : node.hearExit.ledger = node.ledger := by
  unfold hearExit
  split
  · split <;> rfl
  · rfl

/-! ## Requests and dials -/

private theorem decline_eq_none_iff {reason : RejectReason} {applies : Bool}
    {later : Option RejectReason} :
    (if applies then some reason else later) = none ↔ applies = false ∧ later = none := by
  cases applies <;> simp

theorem refusal?_eq_none_iff {node : Node} {around : Surroundings} {peer : Option String}
    {address : SocketAddress} :
    node.refusal? around peer address = none ↔
      peer.any around.blocks = false ∧ peer.any around.isMember = false ∧
        node.isOwnAddress address = false ∧ node.declinesSegment address = false ∧
        node.table.closed = false ∧
        peer.any node.table.registry.containsName = false ∧
        node.table.registry.containsAddress address = false ∧
        peer.any node.table.inFlight.isDialing = false ∧
        node.table.inFlight.hasPending address = false := by
  simp only [refusal?, decline_eq_none_iff, Bool.or_eq_false_iff, and_true, and_assoc]

/-- The dial that a request begins if it is not declined. -/
def dialOf (node : Node) (peer : Option String) (address : SocketAddress) (now : Nat) : Dial :=
  ⟨node.dialCount, peer, address, now + node.profile.connectTimeout⟩

theorem accepted_of_dialing {node : Node} {around : Surroundings} {peer : Option String}
    {address : SocketAddress} {now moment number : Nat}
    (dialing : (node.requestPeering around peer address now moment).2 = .dialing number) :
    node.refusal? around peer address = none ∧ number = node.dialCount := by
  unfold requestPeering at dialing
  cases refusal : node.refusal? around peer address with
  | none =>
      rw [refusal] at dialing
      cases dialing
      exact ⟨rfl, rfl⟩
  | some reason =>
      rw [refusal] at dialing
      cases reason <;> cases dialing

theorem ledger_requestPeering_of_refused {node : Node} {around : Surroundings}
    {peer : Option String} {address : SocketAddress} {reason : RejectReason}
    (refused : node.refusal? around peer address = some reason) (now moment : Nat) :
    (node.requestPeering around peer address now moment).1.ledger = node.ledger := by
  unfold requestPeering
  rw [refused]
  cases reason <;> rfl

theorem ledger_requestPeering_of_accepted {node : Node} {around : Surroundings}
    {peer : Option String} {address : SocketAddress}
    (accepted : node.refusal? around peer address = none) (now moment : Nat) :
    (node.requestPeering around peer address now moment).1.ledger =
      node.ledger.began (node.dialOf peer address now) := by
  unfold requestPeering
  rw [accepted]
  rfl

theorem ledger_dialFailed (node : Node) (dial : Dial) :
    (node.dialFailed dial).ledger = (node.ledger.ended dial.number).released dial := rfl

@[simp] theorem ledger_withoutDial (node : Node) (number : Nat) :
    (node.withoutDial number).ledger = node.ledger.ended number := rfl

theorem dial?_eq_some {node : Node} {number : Nat} {dial : Dial}
    (found : node.dial? number = some dial) : dial ∈ node.ledger.dials ∧ dial.number = number :=
  ⟨List.mem_of_find?_eq_some found, by simpa using List.find?_some found⟩

theorem dial?_of_mem {node : Node} (sound : node.ledger.Sound) {dial : Dial}
    (member : dial ∈ node.dials) : node.dial? dial.number = some dial := by
  have underWay : (node.dial? dial.number).isSome = true :=
    List.find?_isSome.mpr ⟨dial, member, by simp⟩
  obtain ⟨found, search⟩ := Option.isSome_iff_exists.mp underWay
  obtain ⟨foundMember, number⟩ := dial?_eq_some search
  rw [search, Ledger.eq_of_number_eq sound foundMember member number]

/-! ## Connections -/

/-- What is known of a socket before it is registered. -/
def Arrived.connection (arrived : Arrived) : NewConnection :=
  ⟨arrived.placeholder, arrived.remote, arrived.direction, arrived.dialedAs⟩

theorem ledger_connected_of_open {node : Node} (admitting : node.ledger.closed = false)
    (arrived : Arrived) (moment : Nat) :
    (node.connected arrived moment).1.ledger =
      node.ledger.admitted arrived.connection moment := by
  change node.table.closed = false at admitting
  rw [connected_of_open admitting]
  split
  · rw [ledger_startHandshake]
    rfl
  · rfl

theorem ledger_connected_of_closed {node : Node} (refusing : node.ledger.closed = true)
    (arrived : Arrived) (moment : Nat) :
    (node.connected arrived moment).1.ledger =
      match arrived.direction with
      | .outbound => { node.ledger with
          inFlight := node.ledger.inFlight.release arrived.dialedAs arrived.remote }
      | .inbound => node.ledger := by
  change node.table.closed = true at refusing
  rw [connected_of_closed refusing, turnAway]
  cases arrived.direction <;> rfl

theorem ledger_dismissed (node : Node) (entry : Connection) :
    (node.dismissed entry).ledger = node.ledger.dismissed entry := by
  unfold dismissed Ledger.dismissed
  split <;> rfl

theorem ledger_linkEnded_of_get? {node : Node} {slot : Slot} {entry : Connection}
    (found : node.ledger.registry.get? slot = some entry) :
    (node.linkEnded slot).ledger = node.ledger.dismissed entry := by
  change node.table.registry.get? slot = some entry at found
  have removal : (node.closeHandle slot).table.registry.remove slot =
      (node.table.registry.without entry, some entry) := Registry.remove_of_get? found
  change ((node.closeHandle slot).reportClosed slot).ledger = _
  unfold reportClosed Ledger.dismissed
  simp only [removal]
  split <;> rfl

theorem ledger_linkEnded_of_get?_eq_none {node : Node} {slot : Slot}
    (absent : node.ledger.registry.get? slot = none) :
    (node.linkEnded slot).ledger = node.ledger := by
  change node.table.registry.get? slot = none at absent
  have removal : (node.closeHandle slot).table.registry.remove slot =
      (node.table.registry, none) := Registry.remove_of_get?_eq_none absent
  change ((node.closeHandle slot).reportClosed slot).ledger = _
  unfold reportClosed
  simp only [removal]
  rfl

/-- A dropped name either changes nothing, or is that of an open connection, which is removed. -/
theorem dropPeer_cases (node : Node) (peer : String) :
    node.dropPeer peer = (node, false) ∨
      ∃ entry, node.table.registry.slotForName? peer = some entry.slot ∧
        node.table.registry.get? entry.slot = some entry ∧ node.isOpen entry.slot = true ∧
        node.dropPeer peer = (node.expelled entry, true) := by
  cases resolved : node.table.registry.slotForName? peer with
  | none =>
      left
      simp only [dropPeer, Registry.removeOpenNamed, resolved]
  | some slot =>
      cases found : node.table.registry.get? slot with
      | none =>
          left
          simp only [dropPeer, Registry.removeOpenNamed, resolved, found, Option.isSome_none,
            Bool.false_and, Bool.false_eq_true, if_false]
      | some entry =>
          obtain rfl := Registry.slot_of_get? found
          by_cases isOpen : node.isOpen entry.slot = true
          · right
            refine ⟨entry, rfl, found, isOpen, ?_⟩
            simp only [dropPeer, Registry.removeOpenNamed, resolved, found, isOpen,
              Option.isSome_some, Bool.and_self, if_true, Registry.remove_of_get? found]
            rfl
          · left
            simp only [dropPeer, Registry.removeOpenNamed, resolved, isOpen, Bool.and_false,
              Bool.false_eq_true, if_false]

theorem ledger_finishTeardown (node : Node) : node.finishTeardown.ledger = node.ledger.emptied := by
  have disposed : ∀ other : Node, other.disposeHook.ledger = other.ledger := by
    intro other
    unfold disposeHook
    split <;> rfl
  change node.emptyTable.disposeHook.ledger = _
  rw [disposed]
  unfold emptyTable
  rw [ledger_closeAll]
  rfl

/-! ## Names and bytes -/

/-- What a name may do to the books. -/
inductive Ledger.Naming (ledger : Ledger) : Ledger → Prop
  | refused (entry : Connection) (found : ledger.registry.get? entry.slot = some entry) :
      Naming ledger ((ledger.expelled entry).finished entry.dialedAs)
  | free (entry : Connection) (name : String)
      (found : ledger.registry.get? entry.slot = some entry)
      (unheld : ∀ holder, ledger.registry.slotForName? name = some holder → holder = entry.slot) :
      Naming ledger (ledger.withName entry name)
  | taken (entry holder : Connection) (name : String)
      (found : ledger.registry.get? entry.slot = some entry)
      (holderFound : ledger.registry.get? holder.slot = some holder)
      (held : ledger.registry.slotForName? name = some holder.slot)
      (different : holder.slot ≠ entry.slot) :
      Naming ledger ((ledger.dismissed holder).withName entry name)
  | lost (entry : Connection) (found : ledger.registry.get? entry.slot = some entry) :
      Naming ledger (ledger.dismissed entry)

theorem ledger_withName (node : Node) (entry : Connection) (name : String) :
    (node.withName entry name).ledger = node.ledger.withName entry name := rfl

theorem naming_of_identify {node : Node} (sound : node.ledger.Sound) (around : Surroundings)
    (slot : Slot) (name : String) :
    (node.identify around slot name).1.ledger = node.ledger ∨
      node.ledger.Naming (node.identify around slot name).1.ledger := by
  have outcome := identify_spec sound.registry around slot name
  generalize node.identify around slot name = result at outcome
  rcases outcome with
    _ | ⟨entry, reason, found, refusal⟩ | ⟨entry, found, accepted, unheld⟩ |
    ⟨entry, holder, found, accepted, holderFound, held, different, opposite, preferred⟩ |
    ⟨entry, holder, found, accepted, holderFound, held, different, outranked⟩
  · exact .inl rfl
  · obtain rfl := Registry.slot_of_get? found
    exact .inr (.refused entry found)
  · obtain rfl := Registry.slot_of_get? found
    exact .inr (.free entry name found unheld)
  · obtain rfl := Registry.slot_of_get? found
    right
    change node.ledger.Naming ((node.dismissed holder).withName entry name).ledger
    rw [ledger_withName, ledger_dismissed]
    exact .taken entry holder name found holderFound held different
  · obtain rfl := Registry.slot_of_get? found
    right
    change node.ledger.Naming (node.dismissed entry).ledger
    rw [ledger_dismissed]
    exact .lost entry found

/-- Bytes note activity, and may give the connection a name. -/
theorem naming_of_received {node : Node} (sound : node.ledger.Sound) (around : Surroundings)
    (slot : Slot) (bytes : Bytes) (moment : Nat) :
    (node.received around slot bytes moment).ledger = node.ledger.noted slot moment ∨
      (node.ledger.noted slot moment).Naming (node.received around slot bytes moment).ledger := by
  refine received_induction
    (motive := fun later => later.ledger = node.ledger.noted slot moment ∨
      (node.ledger.noted slot moment).Naming later.ledger) (.inl rfl) ?_ ?_
  · intro name initiated _
    have listened : (node.listened slot bytes moment).ledger.Sound := sound.noted slot moment
    exact naming_of_identify listened around slot name
  · intro identified initiated outcome
    rw [ledger_answerHello]
    exact outcome

/-! ## Acts -/

/-- What an act may make of the books of a node. -/
inductive Effect (before : Situation) : Act → Ledger → Prop
  | nothing (act : Act) : Effect before act before.node.ledger
  | began {around : Surroundings} {peer : Option String} {address : SocketAddress}
      {now moment : Nat} (accepted : before.node.refusal? around peer address = none) :
      Effect before (.requests around peer address now moment)
        (before.node.ledger.began (before.node.dialOf peer address now))
  | failed (dial : Dial) (member : dial ∈ before.node.ledger.dials) :
      Effect before (.dialFails dial.number)
        ((before.node.ledger.ended dial.number).released dial)
  | connected {socket : Endpoint} {moment : Nat} (dial : Dial)
      (member : dial ∈ before.node.ledger.dials) (admitting : before.node.ledger.closed = false) :
      Effect before (.dialConnects dial.number socket moment)
        ((before.node.ledger.ended dial.number).admitted
          ⟨Context.placeholder (before.sessions + 1), dial.address, .outbound, dial.peer⟩ moment)
  | turnedAway {socket : Endpoint} {moment : Nat} (dial : Dial)
      (member : dial ∈ before.node.ledger.dials) (refusing : before.node.ledger.closed = true) :
      Effect before (.dialConnects dial.number socket moment)
        ((before.node.ledger.ended dial.number).released dial)
  | accepted {remote : SocketAddress} {socket : Endpoint} {moment : Nat}
      (admitting : before.node.ledger.closed = false) :
      Effect before (.accepts remote socket moment)
        (before.node.ledger.admitted
          ⟨Context.placeholder (before.sessions + 1), remote, .inbound, none⟩ moment)
  | named {around : Surroundings} {slot : Slot} {name : String} {result : Ledger}
      (naming : before.node.ledger.Naming result) :
      Effect before (.identifies around slot name) result
  | noted {around : Surroundings} {slot : Slot} {bytes : Bytes} {moment : Nat} :
      Effect before (.receives around slot bytes moment) (before.node.ledger.noted slot moment)
  | greeted {around : Surroundings} {slot : Slot} {bytes : Bytes} {moment : Nat}
      {result : Ledger} (naming : (before.node.ledger.noted slot moment).Naming result) :
      Effect before (.receives around slot bytes moment) result
  | linkEnded (entry : Connection)
      (found : before.node.ledger.registry.get? entry.slot = some entry) :
      Effect before (.linkEnds entry.slot) (before.node.ledger.dismissed entry)
  | dropped {peer : String} (entry : Connection)
      (resolved : before.node.ledger.registry.slotForName? peer = some entry.slot)
      (found : before.node.ledger.registry.get? entry.slot = some entry)
      (isOpen : before.node.isOpen entry.slot = true) :
      Effect before (.drops peer) (before.node.ledger.expelled entry)
  | emptied : Effect before .finishesTeardown before.node.ledger.emptied

theorem ledger_register_of_open (situation : Situation) {node : Node}
    (admitting : node.ledger.closed = false) (remote : SocketAddress) (direction : Direction)
    (dialedAs : Option String) (socket : Endpoint) (moment : Nat) :
    (situation.register node remote direction dialedAs socket moment).node.ledger =
      node.ledger.admitted
        ⟨Context.placeholder (situation.sessions + 1), remote, direction, dialedAs⟩ moment :=
  ledger_connected_of_open admitting _ moment

theorem effect_requests (before : Situation) (around : Surroundings) (peer : Option String)
    (address : SocketAddress) (now moment : Nat) :
    let act := Act.requests around peer address now moment
    Effect before act (before.step act).node.ledger := by
  intro act
  cases refusal : before.node.refusal? around peer address with
  | none =>
      simp only [act, Situation.step, ledger_requestPeering_of_accepted refusal]
      exact .began refusal
  | some reason =>
      simp only [act, Situation.step, ledger_requestPeering_of_refused refusal]
      exact .nothing _

theorem effect_dialFails (before : Situation) (number : Nat) :
    Effect before (.dialFails number) (before.step (.dialFails number)).node.ledger := by
  cases search : before.node.dial? number with
  | none =>
      simp only [Situation.step, search]
      exact .nothing _
  | some dial =>
      obtain ⟨member, rfl⟩ := dial?_eq_some search
      simp only [Situation.step, search, ledger_dialFailed]
      exact .failed dial member

theorem effect_dialConnects (before : Situation) (number : Nat) (socket : Endpoint)
    (moment : Nat) :
    let act := Act.dialConnects number socket moment
    Effect before act (before.step act).node.ledger := by
  intro act
  cases search : before.node.dial? number with
  | none =>
      simp only [act, Situation.step, search]
      exact .nothing _
  | some dial =>
      obtain ⟨member, rfl⟩ := dial?_eq_some search
      simp only [act, Situation.step, search]
      cases closed : before.node.ledger.closed with
      | false =>
          have admitting : (before.node.withoutDial dial.number).ledger.closed = false := closed
          rw [ledger_register_of_open before admitting, ledger_withoutDial]
          exact .connected dial member closed
      | true =>
          have refusing : (before.node.withoutDial dial.number).ledger.closed = true := closed
          have books := ledger_connected_of_closed refusing
            ⟨Context.placeholder (before.sessions + 1), dial.address, .outbound,
              dial.peer, socket⟩ moment
          simp only [Situation.register, books]
          exact .turnedAway dial member closed

theorem effect_accepts (before : Situation) (remote : SocketAddress) (socket : Endpoint)
    (moment : Nat) :
    let act := Act.accepts remote socket moment
    Effect before act (before.step act).node.ledger := by
  intro act
  cases closed : before.node.ledger.closed with
  | false =>
      simp only [act, Situation.step]
      rw [ledger_register_of_open before closed]
      exact .accepted closed
  | true =>
      have books := ledger_connected_of_closed closed
        ⟨Context.placeholder (before.sessions + 1), remote, .inbound, none, socket⟩ moment
      simp only [act, Situation.step, Situation.register, books]
      exact .nothing _

theorem effect_receives {before : Situation} (sound : before.node.ledger.Sound)
    (around : Surroundings) (slot : Slot) (bytes : Bytes) (moment : Nat) :
    let act := Act.receives around slot bytes moment
    Effect before act (before.step act).node.ledger := by
  intro act
  by_cases pumped : (before.node.link? slot).isSome = true
  · simp only [act, Situation.step, pumped, if_true]
    rcases naming_of_received sound around slot bytes moment with same | naming
    · rw [same]
      exact .noted
    · exact .greeted naming
  · simp only [act, Situation.step, pumped, Bool.false_eq_true, if_false]
    exact .nothing _

theorem effect_linkEnds (before : Situation) (slot : Slot) :
    Effect before (.linkEnds slot) (before.step (.linkEnds slot)).node.ledger := by
  by_cases pumped : (before.node.link? slot).isSome = true
  · simp only [Situation.step, pumped, if_true]
    cases search : before.node.ledger.registry.get? slot with
    | none =>
        rw [ledger_linkEnded_of_get?_eq_none search]
        exact .nothing _
    | some entry =>
        obtain rfl := Registry.slot_of_get? search
        rw [ledger_linkEnded_of_get? search]
        exact .linkEnded entry search
  · simp only [Situation.step, pumped, Bool.false_eq_true, if_false]
    exact .nothing _

theorem step_effect {before : Situation} (sound : before.node.ledger.Sound) (act : Act) :
    Effect before act (before.step act).node.ledger := by
  cases act with
  | requests around peer address now moment =>
      exact effect_requests before around peer address now moment
  | dialFails number => exact effect_dialFails before number
  | dialConnects number socket moment => exact effect_dialConnects before number socket moment
  | accepts remote socket moment => exact effect_accepts before remote socket moment
  | identifies around slot name =>
      rcases naming_of_identify sound around slot name with same | naming
      · simp only [Situation.step, same]
        exact .nothing _
      · exact .named naming
  | receives around slot bytes moment => exact effect_receives sound around slot bytes moment
  | sends slot bytes =>
      simp only [Situation.step, ledger_send]
      exact .nothing _
  | linkEnds slot => exact effect_linkEnds before slot
  | drops peer =>
      rcases dropPeer_cases before.node peer with same | ⟨entry, resolved, found, isOpen, dropped⟩
      · simp only [Situation.step, same]
        exact .nothing _
      · simp only [Situation.step, dropped]
        exact .dropped entry resolved found isOpen
  | finishesTeardown =>
      by_cases ready : before.node.canFinishTeardown = true
      · simp only [Situation.step, ready, if_true, ledger_finishTeardown]
        exact .emptied
      · simp only [Situation.step, ready, Bool.false_eq_true, if_false]
        exact .nothing _
  | firesExit =>
      simp only [Situation.step, ledger_hearExit]
      exact .nothing _
  | storesHook hook => exact .nothing _
  | writes slot => exact .nothing _
  | closesHandle slot => exact .nothing _
  | asksClose closer => exact .nothing _
  | grantsPermit => exact .nothing _
  | changesListener position change => exact .nothing _
  | drawsElsewhere => exact .nothing _

/-! ## Soundness of the books -/

namespace Ledger

theorem Naming.sound {ledger result : Ledger} (naming : ledger.Naming result)
    (sound : ledger.Sound) : result.Sound := by
  cases naming with
  | refused entry found =>
      have expelled := sound.expelled (Registry.mem_of_get? found)
      exact ⟨expelled.registry, expelled.numbersDistinct, expelled.numbersIssued⟩
  | free entry name found unheld => exact sound.withName found unheld
  | taken entry holder name found holderFound held different =>
      exact (sound.dismissed (Registry.mem_of_get? holderFound)).withName
        (get?_dismissed_of_ne found different) (free_of_dismissed sound.registry holderFound held _)
  | lost entry found => exact sound.dismissed (Registry.mem_of_get? found)

theorem Sound.released {ledger : Ledger} (sound : ledger.Sound) (dial : Dial) :
    (ledger.released dial).Sound :=
  ⟨sound.registry, sound.numbersDistinct, sound.numbersIssued⟩

theorem Naming.dials_eq {ledger result : Ledger} (naming : ledger.Naming result) :
    result.dials = ledger.dials ∧ result.dialCount = ledger.dialCount := by
  cases naming with
  | refused => exact ⟨rfl, rfl⟩
  | free => exact ⟨rfl, rfl⟩
  | taken entry holder => exact ⟨dials_dismissed _ _, dialCount_dismissed _ _⟩
  | lost entry => exact ⟨dials_dismissed _ _, dialCount_dismissed _ _⟩

end Ledger

theorem Effect.sound {before : Situation} {act : Act} {result : Ledger}
    (effect : Effect before act result) (sound : before.node.ledger.Sound) : result.Sound := by
  cases effect with
  | nothing => exact sound
  | began accepted => exact sound.began rfl
  | failed dial member => exact (sound.ended dial.number).released dial
  | connected dial member admitting => exact (sound.ended dial.number).admitted _ _
  | turnedAway dial member refusing => exact (sound.ended dial.number).released dial
  | accepted admitting => exact sound.admitted _ _
  | named naming => exact naming.sound sound
  | noted => exact sound.noted _ _
  | greeted naming => exact naming.sound (sound.noted _ _)
  | linkEnded entry found => exact sound.dismissed (Registry.mem_of_get? found)
  | dropped entry resolved found => exact sound.expelled (Registry.mem_of_get? found)
  | emptied =>
      exact ⟨Registry.sound_drain _, sound.numbersDistinct, sound.numbersIssued⟩

theorem sound_step {before : Situation} (sound : before.node.ledger.Sound) (act : Act) :
    (before.step act).node.ledger.Sound :=
  (step_effect sound act).sound sound

theorem sound_of_initial {start : Situation} (initial : start.Initial) :
    start.node.ledger.Sound := by
  obtain ⟨profile, request, moment, fresh⟩ := initial
  rw [fresh]
  exact ⟨Registry.sound_empty, List.nodup_nil, by simp [ledger, Mesh.freshNode]⟩

theorem sound_run {start : Situation} (initial : start.Initial) (acts : List Act) :
    (start.run acts).node.ledger.Sound := by
  refine Situation.run_induction (·.node.ledger.Sound) ?_ (sound_of_initial initial) acts
  intro situation act sound
  exact sound_step sound act

theorem run_induction_of_sound (holds : Situation → Prop) {start : Situation}
    (initial : start.Initial) (begins : holds start)
    (preserved : ∀ situation act, situation.node.ledger.Sound → holds situation →
      holds (situation.step act)) (acts : List Act) : holds (start.run acts) := by
  suffices both : (start.run acts).node.ledger.Sound ∧ holds (start.run acts) from both.2
  refine Situation.run_induction (fun reached => reached.node.ledger.Sound ∧ holds reached) ?_
    ⟨sound_of_initial initial, begins⟩ acts
  rintro situation act ⟨sound, held⟩
  exact ⟨sound_step sound act, preserved situation act sound held⟩

end PeerMesh.Node
