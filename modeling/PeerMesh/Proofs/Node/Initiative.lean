import Mathlib.Data.List.Induction
import PeerMesh.Proofs.Node.Frame
import PeerMesh.Proofs.Node.Outbound
import PeerMesh.Proofs.Node.Slots

/-!
# Who starts the handshake

The handshake is started on a connection when it is registered, if its remote address is marked. The
mark is made by a dial, and taken by whatever connection from that address is registered next. So it
is the dialing side that starts, except where the peer itself connects from the address that is
being dialed: then the accepted connection takes the mark, and the dial's own connection finds none.
-/

set_option autoImplicit false

namespace PeerMesh.Node

/-! ## Connections on which a hello exchange speaks first -/

/-- The connections on which the node's hello exchange has been told to speak first. -/
def initiated (node : Node) : List Slot :=
  node.hello.elim [] (·.initiated)

theorem hello_send (node : Node) (slot : Slot) (bytes : Bytes) :
    (node.send slot bytes).1.hello = node.hello :=
  congrArg Prod.snd (shell_send node slot bytes)

theorem hello_startHandshake (node : Node) (slot : Slot) :
    (node.startHandshake slot).hello = node.hello.map fun hello => hello.initiate slot := by
  unfold startHandshake
  split
  · rename_i silent
    rw [silent]
    rfl
  · rename_i hello present
    rw [hello_send, present]
    rfl

theorem hello_identify (node : Node) (around : Surroundings) (slot : Slot) (name : String) :
    (node.identify around slot name).1.hello = node.hello :=
  congrArg Prod.snd (shell_identify node around slot name)

theorem hello_answerHello (node : Node) (slot : Slot) (spoke : Bool) :
    (node.answerHello slot spoke).hello = node.hello :=
  congrArg Prod.snd (shell_answerHello node slot spoke)

theorem hello_closeAll (node : Node) (entries : List Connection) :
    (node.closeAll entries).hello = node.hello :=
  closeAll_induction (motive := fun other => other.hello = node.hello) (fun _ _ same => same) rfl
    entries

theorem hello_finishTeardown (node : Node) : node.finishTeardown.hello = node.hello := by
  change node.emptyTable.disposeHook.hello = _
  unfold disposeHook
  split <;> exact hello_closeAll _ _

theorem hello_hearExit (node : Node) : node.hearExit.hello = node.hello := by
  unfold hearExit
  split
  · split <;> rfl
  · rfl

theorem isSome_hello_connected (node : Node) (arrived : Arrived) (moment : Nat) :
    (node.connected arrived moment).1.hello.isSome = node.hello.isSome := by
  refine connected_induction (motive := fun later => later.hello.isSome = node.hello.isSome) ?_ rfl ?_
  · unfold turnAway
    cases arrived.direction <;> rfl
  · intro later slot same
    rw [hello_startHandshake, Option.isSome_map, same]

/-- Received bytes never make the exchange speak first. -/
theorem mem_initiated_receive {hello : Hello} {slot other : Slot} {bytes : Bytes}
    (member : other ∈ (hello.receive slot bytes).1.initiated) : other ∈ hello.initiated := by
  unfold Hello.receive at member
  split at member
  · exact member
  · dsimp only at member
    split at member
    · split at member <;> exact member
    · exact (Distinct.mem_remove.mp member).1

theorem hello_received (node : Node) (around : Surroundings) (slot : Slot) (bytes : Bytes)
    (moment : Nat) :
    (node.received around slot bytes moment).hello = (node.listened slot bytes moment).hello := by
  refine received_induction
    (motive := fun later => later.hello = (node.listened slot bytes moment).hello) rfl ?_ ?_
  · intro name initiated _
    exact hello_identify _ around slot name
  · intro identified initiated same
    rw [hello_answerHello, same]

theorem mem_initiated_received {node : Node} {around : Surroundings} {slot other : Slot}
    {bytes : Bytes} {moment : Nat}
    (member : other ∈ (node.received around slot bytes moment).initiated) :
    other ∈ node.initiated := by
  rw [initiated, hello_received, listened] at member
  rw [initiated]
  cases exchange : node.hello with
  | none =>
      rw [exchange] at member
      exact member
  | some hello =>
      rw [exchange] at member
      exact mem_initiated_receive member

/-- Whether the hello exchange may be told of the act. -/
def Act.concernsHello : Act → Bool
  | .accepts _ _ _ | .dialConnects _ _ _ | .receives _ _ _ _ | .linkEnds _ => true
  | _ => false

namespace Situation

/-- The situation with a hello exchange that has not been told of any connection. -/
def listening (situation : Situation) : Situation :=
  { situation with node := { situation.node with hello := some .initial } }

theorem initial_listening (port : UInt16) : (lone port).listening.Initial :=
  ⟨(lone port).node.profile, ⟨.withPort port, 0, none, true, false⟩, 0, rfl⟩

/-- Whether an act starts the handshake on the connection under `slot`: a hello exchange that joins
just before the act is told by it to speak first there. -/
def starts (before : Situation) (act : Act) (slot : Slot) : Bool :=
  decide (slot ∈ (before.listening.step act).node.initiated)

/-- How often the handshake is started on the connection under `slot` in the course of acts. -/
def handshakes (slot : Slot) (before : Situation) : List Act → Nat
  | [] => 0
  | act :: rest => (before.starts act slot).toNat + handshakes slot (before.step act) rest

theorem initiated_connected (node : Node) (arrived : Arrived) (moment : Nat) (slot : Slot) :
    let listening : Node := { node with hello := some .initial }
    slot ∈ (listening.connected arrived moment).1.initiated ↔
      node.table.closed = false ∧ node.table.inFlight.hasPending arrived.remote = true ∧
        slot = node.nextSlot := by
  intro listening
  cases closed : node.table.closed with
  | true =>
      have refused : (listening.connected arrived moment).1.initiated = [] := by
        rw [connected_of_closed (show listening.table.closed = true from closed), turnAway]
        cases arrived.direction <;> rfl
      simp [refused]
  | false =>
      rw [connected_of_open (show listening.table.closed = false from closed)]
      change slot ∈
        (if node.table.inFlight.hasPending arrived.remote then _ else _ : Node).initiated ↔ _
      cases pending : node.table.inFlight.hasPending arrived.remote with
      | false =>
          rw [if_neg (by simp)]
          simp [initiated, listening, admitted, Hello.initial]
      | true =>
          rw [if_pos rfl, initiated, hello_startHandshake]
          simp [listening, admitted, Hello.initial, Hello.initiate, Distinct.add, nextSlot]

/-- The exchange is told of new connections, of bytes and of ends, and of nothing else. -/
theorem hello_step (before : Situation) {act : Act} (apart : act.concernsHello = false) :
    (before.step act).node.hello = before.node.hello := by
  cases act with
  | requests around peer address now moment =>
      exact congrArg Prod.snd (shell_requestPeering before.node around peer address now moment)
  | dialFails number =>
      simp only [step]
      split <;> rfl
  | identifies around named name => exact hello_identify before.node around named name
  | sends sent bytes => exact hello_send before.node sent bytes
  | drops peer => exact congrArg Prod.snd (shell_dropPeer before.node peer)
  | finishesTeardown =>
      simp only [step]
      split
      · exact hello_finishTeardown before.node
      · rfl
  | firesExit => exact hello_hearExit before.node
  | writes | closesHandle | asksClose | grantsPermit | storesHook | changesListener | drawsElsewhere =>
      rfl
  | accepts | dialConnects | receives | linkEnds => cases apart

/-- A node does not give up the exchange, and does not take it up. -/
theorem isSome_hello_step (before : Situation) (act : Act) :
    (before.step act).node.hello.isSome = before.node.hello.isSome := by
  cases apart : act.concernsHello with
  | false => rw [hello_step before apart]
  | true =>
      cases act with
      | accepts remote socket moment => exact isSome_hello_connected before.node _ moment
      | dialConnects number socket moment =>
          simp only [step]
          split
          · rfl
          · exact isSome_hello_connected (before.node.withoutDial number) _ moment
      | receives around heard bytes moment =>
          simp only [step]
          split
          · rw [hello_received, listened, Option.isSome_map]
          · rfl
      | linkEnds ended =>
          simp only [step]
          split
          · rw [hello_linkEnded, Option.isSome_map]
          · rfl
      | _ => cases apart

/-- No act but a new connection makes the exchange speak first anywhere. -/
theorem mem_initiated_step {before : Situation} {act : Act} {slot : Slot}
    (unborn : before.origin? act = none) (told : slot ∈ (before.step act).node.initiated) :
    slot ∈ before.node.initiated := by
  cases apart : act.concernsHello with
  | false =>
      rw [initiated, hello_step before apart] at told
      exact told
  | true =>
      cases act with
      | dialConnects number socket moment =>
          rw [origin?, Option.map_eq_none_iff] at unborn
          simp only [step, unborn] at told
          exact told
      | accepts => cases unborn
      | receives around received bytes moment =>
          simp only [step] at told
          split at told
          · exact mem_initiated_received told
          · exact told
      | linkEnds ended =>
          simp only [step] at told
          split at told
          · rw [initiated, hello_linkEnded] at told
            rw [initiated]
            cases exchange : before.node.hello with
            | none =>
                rw [exchange] at told
                exact told
            | some hello =>
                rw [exchange] at told
                exact (Distinct.mem_remove.mp told).1
          · exact told
      | _ => cases apart

/-- The handshake is started exactly on a connection that is registered while its remote address is
marked. -/
theorem starts_iff {before : Situation} {act : Act} {slot : Slot} :
    before.starts act slot = true ↔ ∃ address, before.origin? act = some address ∧
      before.node.table.closed = false ∧ before.node.table.inFlight.hasPending address = true ∧
      slot = before.node.nextSlot := by
  rw [starts, decide_eq_true_iff]
  have sameOrigin : before.listening.origin? act = before.origin? act := by
    cases act <;> rfl
  cases born : before.origin? act with
  | none =>
      constructor
      · intro told
        cases mem_initiated_step (sameOrigin.trans born) told
      · rintro ⟨address, other, -⟩
        cases other
  | some address =>
      simp only [Option.some.injEq, exists_eq_left']
      cases act with
      | accepts remote socket moment =>
          cases born
          exact initiated_connected before.node _ _ _
      | dialConnects number socket moment =>
          obtain ⟨dial, search, rfl⟩ := Option.map_eq_some_iff.mp born
          have searched : before.listening.node.dial? number = some dial := search
          simp only [step, searched]
          exact initiated_connected (before.node.withoutDial number) _ _ _
      | _ => cases born

/-! ## How often the handshake is started -/

theorem handshakes_append (slot : Slot) (before : Situation) (first second : List Act) :
    handshakes slot before (first ++ second) =
      handshakes slot before first + handshakes slot (before.run first) second := by
  induction first generalizing before with
  | nil => simp [handshakes]
  | cons act rest ih =>
      rw [List.cons_append, handshakes, handshakes, ih, run_cons]
      omega

/-- The handshake is started on no connection but one that is being registered. -/
theorem exists_admits_of_starts {before : Situation} (sound : before.node.ledger.Sound) {act : Act}
    {slot : Slot} (started : before.starts act slot = true) :
    ∃ entry, before.Admits act entry ∧ entry.slot = slot := by
  obtain ⟨address, born, admitting, -, rfl⟩ := starts_iff.mp started
  obtain ⟨entry, admits⟩ := exists_admits admitting born
  obtain ⟨-, next, -⟩ := admits_cases sound admits
  exact ⟨entry, admits, next⟩

theorem handshakes_eq_zero_of_issued {before : Situation} (sound : before.node.ledger.Sound)
    {slot : Slot} (issued : slot.number ≤ before.node.table.registry.lastSlot) (acts : List Act) :
    handshakes slot before acts = 0 := by
  induction acts generalizing before with
  | nil => rfl
  | cons act rest ih =>
      have unstarted : before.starts act slot = false := by
        rw [Bool.eq_false_iff]
        intro started
        obtain ⟨entry, admits, rfl⟩ := exists_admits_of_starts sound started
        exact Nat.not_lt.mpr issued admits.2
      rw [handshakes, unstarted, ih (sound_step sound act)
        (Nat.le_trans issued (lastSlot_le_step sound act))]
      rfl

theorem handshakes_eq_zero_of_unissued {start : Situation} (initial : start.Initial) {slot : Slot}
    {acts : List Act} (unissued : (start.run acts).node.table.registry.lastSlot < slot.number) :
    handshakes slot start acts = 0 := by
  induction acts using List.reverseRecOn with
  | nil => rfl
  | append_singleton past act ih =>
      rw [run_append] at unissued
      have sound := sound_run initial past
      have unstarted : (start.run past).starts act slot = false := by
        rw [Bool.eq_false_iff]
        intro started
        obtain ⟨entry, admits, rfl⟩ := exists_admits_of_starts sound started
        obtain ⟨-, -, last, -⟩ := admits_cases sound admits
        exact Nat.ne_of_lt unissued last
      have earlier := Nat.lt_of_le_of_lt (lastSlot_le_step sound act) unissued
      rw [handshakes_append, ih earlier, handshakes, unstarted]
      rfl

/-- On a registered connection the handshake is started when it is registered, or never. -/
theorem handshakes_of_admits {start : Situation} (initial : start.Initial) {past later : List Act}
    {act : Act} {entry : Connection} (admits : (start.run past).Admits act entry) :
    handshakes entry.slot start (past ++ act :: later) =
      ((start.run past).starts act entry.slot).toNat := by
  have sound := sound_run initial past
  obtain ⟨-, -, last, -⟩ := admits_cases sound admits
  rw [handshakes_append, handshakes_eq_zero_of_unissued initial admits.2, handshakes,
    handshakes_eq_zero_of_issued (sound_step sound act) (Nat.le_of_eq last.symm)]
  simp

theorem starts_of_admits {before : Situation} (sound : before.node.ledger.Sound) {act : Act}
    {entry : Connection} (admits : before.Admits act entry) :
    before.starts act entry.slot = before.node.table.inFlight.hasPending entry.remote := by
  obtain ⟨admitting, next, -⟩ := admits_cases sound admits
  rw [Bool.eq_iff_iff, starts_iff, origin?_of_admits sound admits]
  simp [admitting, next]

/-! ## The dialing side -/

/-- Where no connection met a dial, the marked addresses are those of the dials, and what a dial
opens is what the node starts on. -/
theorem Targeted.starts_iff_outbound {before : Situation} (targeted : before.Targeted) {act : Act}
    (unmet : ¬ before.MeetsDial act) {entry : Connection} (admits : before.Admits act entry) :
    before.starts act entry.slot = true ↔ entry.direction = .outbound := by
  obtain ⟨admitting, -, -, born⟩ := admits_cases targeted.sound admits
  have pending := (targeted.addressed admitting).pending_iff entry.remote
  rw [starts_of_admits targeted.sound admits, InFlight.hasPending_iff]
  refine pending.trans ?_
  rcases born with ⟨remote, socket, moment, rfl, rfl, inbound⟩ |
    ⟨dial, member, socket, moment, rfl, same, outbound⟩
  · rw [inbound]
    refine iff_of_false ?_ (by decide)
    exact fun dialed => unmet ⟨admitting, dialed⟩
  · exact iff_of_true ⟨dial, member, same.symm⟩ outbound

theorem apart_append {start : Situation} {first second : List Act} :
    start.Apart (first ++ second) ↔ start.Apart first ∧ (start.run first).Apart second := by
  induction first generalizing start with
  | nil => simp [Apart]
  | cons act rest ih => rw [List.cons_append, Apart, Apart, ih, run_cons, and_assoc]

/-- The handshake is started exactly once on each connection that a dial has opened and never on one
that was accepted, in every course of events in which no connection is accepted from an address that
is being dialed, and in no other. -/
theorem handshakes_by_dialer_iff_apart {start : Situation} (initial : start.Initial)
    (acts : List Act) :
    (∀ past act entry, past ++ [act] <+: acts → (start.run past).Admits act entry →
      handshakes entry.slot start acts = if entry.direction = .outbound then 1 else 0) ↔
      start.Apart acts := by
  have counted : ∀ {past act entry}, past ++ [act] <+: acts → (start.run past).Admits act entry →
      (handshakes entry.slot start acts = (if entry.direction = .outbound then 1 else 0) ↔
        ((start.run past).starts act entry.slot = true ↔ entry.direction = .outbound)) := by
    rintro past act entry ⟨later, rfl⟩ admits
    rw [List.append_assoc, List.singleton_append, handshakes_of_admits initial admits]
    by_cases outbound : entry.direction = .outbound
    · cases (start.run past).starts act entry.slot <;> simp [outbound]
    · cases (start.run past).starts act entry.slot <;> simp [outbound]
  constructor
  · intro dialerOnly
    suffices apart : ∀ past, past <+: acts → start.Apart past from apart acts List.prefix_rfl
    intro past within
    induction past using List.reverseRecOn with
    | nil => trivial
    | append_singleton past act ih =>
        have apart := ih ((List.prefix_append past [act]).trans within)
        refine apart_append.mpr ⟨apart, ?_, trivial⟩
        intro met
        have targeted := (targeted_of_initial initial).run apart
        cases act with
        | accepts remote socket moment =>
            obtain ⟨admitting, dialed⟩ := met
            obtain ⟨entry, admits⟩ :
                ∃ entry, (start.run past).Admits (.accepts remote socket moment) entry :=
              exists_admits admitting rfl
            have remoteEq := Option.some.inj (origin?_of_admits targeted.sound admits)
            have marked := ((targeted.addressed admitting).pending_iff remote).mpr dialed
            have starts := (counted within admits).mp (dialerOnly past _ entry within admits)
            rw [starts_of_admits targeted.sound admits, ← remoteEq,
              InFlight.hasPending_iff] at starts
            have outbound := starts.mp marked
            obtain ⟨-, -, -, ⟨-, -, -, -, -, inbound⟩ | ⟨dial, -, socket, moment, other, -⟩⟩ :=
              admits_cases targeted.sound admits
            · rw [inbound] at outbound
              cases outbound
            · cases other
        | _ => exact met
  · intro apart past act entry within admits
    obtain ⟨later, rfl⟩ := within
    obtain ⟨earlier, unmet, -⟩ := apart_append.mp (apart_append.mp apart).1
    refine (counted (List.prefix_append _ later) admits).mpr ?_
    exact ((targeted_of_initial initial).run earlier).starts_iff_outbound unmet admits

/-- The peer at an address that is being dialed connects from there before the dial does. -/
def dialedPeerConnects : List Act :=
  [.requests aloof none (.v4 ⟨192, 0, 2, 1⟩ 5000) 0 1,
    .accepts (.v4 ⟨192, 0, 2, 1⟩ 5000) ⟨0, .callee⟩ 2, .dialConnects 0 ⟨1, .caller⟩ 3]

theorem not_handshakes_by_dialer_dialedPeerConnects :
    handshakes ⟨1⟩ (lone 40000) dialedPeerConnects = 1 ∧
      handshakes ⟨2⟩ (lone 40000) dialedPeerConnects = 0 ∧
      ¬ ∀ past act entry, past ++ [act] <+: dialedPeerConnects →
        ((lone 40000).run past).Admits act entry →
          handshakes entry.slot (lone 40000) dialedPeerConnects =
            if entry.direction = .outbound then 1 else 0 := by
  refine ⟨by decide, by decide, ?_⟩
  intro dialerOnly
  obtain ⟨-, unmet, -⟩ :=
    (handshakes_by_dialer_iff_apart (initial_lone 40000) dialedPeerConnects).mp dialerOnly
  let dial : Dial := ⟨0, none, .v4 ⟨192, 0, 2, 1⟩ 5000, 30000⟩
  exact unmet ⟨by decide, dial, by decide, rfl⟩

end Situation

end PeerMesh.Node
