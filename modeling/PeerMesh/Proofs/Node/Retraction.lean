import PeerMesh.Proofs.Node.Decision
import PeerMesh.Proofs.Node.Mentions
import PeerMesh.Proofs.Node.Teardown
import PeerMesh.Proofs.Node.Traces

/-!
# Dials that fail leave nothing behind

The course of a node that is asked for a dial is compared with the same course without the request.
As long as nothing else concerns the peer or the address of the dial, the two differ by the traces of
the dial, and these go when it fails. Since nothing has become known of peer and address in the
meantime, the request is accepted again.
-/

set_option autoImplicit false

namespace PeerMesh.Node

/-- The same act in the course of a node that has not begun the dial of number `missing`. -/
def Act.skipping (missing : Nat) : Act → Act
  | .dialFails number => .dialFails (Node.skipping missing number)
  | .dialConnects number socket moment => .dialConnects (Node.skipping missing number) socket moment
  | act => act

namespace Situation

/-- The second situation is the first with the traces of a dial. -/
structure Retraces (dial : Dial) (unasked asked : Situation) : Prop where
  sessions : asked.sessions = unasked.sessions
  node : Traces dial unasked.node asked.node

variable {dial : Dial} {unasked asked : Situation}

/-! ## Steps -/

/-- An act that is not about the address of the dial does not give the number of the dial. -/
theorem Retraces.other (retraces : Retraces dial unasked asked) {number : Nat}
    (elsewhere : dial.address ∉ ((asked.node.dial? number).map (·.address)).toList) :
    number ≠ dial.number := by
  rintro rfl
  have underWay : asked.node.dial? dial.number = some dial := retraces.node.exceed.underWay
  simp [underWay] at elsewhere

/-- What an act means by a number, if it is not about the address of the dial. -/
theorem Retraces.dial?_cases (retraces : Retraces dial unasked asked) {number : Nat}
    (elsewhere : dial.address ∉ ((asked.node.dial? number).map (·.address)).toList) :
    asked.node.dial? number = none ∧ unasked.node.dial? (skipping dial.number number) = none ∨
      ∃ other : Dial, other.number = skipping dial.number number ∧ other.address ≠ dial.address ∧
        asked.node.dial? number = some { other with number } ∧
        unasked.node.dial? (skipping dial.number number) = some other := by
  have found := retraces.node.dial? (retraces.other elsewhere)
  rw [found] at elsewhere ⊢
  cases search : unasked.node.dial? (skipping dial.number number) with
  | none => exact .inl ⟨rfl, rfl⟩
  | some other =>
      rw [search] at elsewhere
      exact .inr ⟨other, (dial?_eq_some search).2, (List.ne_of_not_mem_cons elsewhere).symm, rfl, rfl⟩

theorem Retraces.register (retraces : Retraces dial unasked asked) {plain marked : Node}
    (traces : Traces dial plain marked) {remote : SocketAddress} (foreign : remote ≠ dial.address)
    (direction : Direction) (dialedAs : Option String) (socket : Endpoint) (moment : Nat) :
    Retraces dial (unasked.register plain remote direction dialedAs socket moment)
      (asked.register marked remote direction dialedAs socket moment) := by
  unfold Situation.register
  rw [retraces.sessions]
  exact ⟨rfl, traces.connected foreign moment⟩

/-- What concerns neither the peer nor the address of the dial happens to both alike. -/
theorem Retraces.step (retraces : Retraces dial unasked asked) {act : Act}
    (unnamed : ∀ name, dial.peer = some name → name ∉ asked.names act)
    (elsewhere : dial.address ∉ asked.addresses act) (standing : act ≠ .finishesTeardown) :
    Retraces dial (unasked.step (act.skipping dial.number)) (asked.step act) := by
  have traces := retraces.node
  cases act with
  | requests around peer address now moment =>
      refine ⟨retraces.sessions, traces.requestPeering around ?_ ?_ now moment⟩
      · exact (List.ne_of_not_mem_cons elsewhere).symm
      · rintro name own rfl
        exact unnamed name own List.mem_cons_self
  | dialFails number =>
      have different := retraces.other elsewhere
      obtain ⟨none, noneToo⟩ | ⟨other, numbered, foreign, found, foundToo⟩ :=
        retraces.dial?_cases elsewhere
      · simpa only [Situation.step, Act.skipping, none, noneToo] using retraces
      · simp only [Situation.step, Act.skipping, found, foundToo]
        exact ⟨retraces.sessions, traces.dialFailed different numbered⟩
  | dialConnects number socket moment =>
      have different := retraces.other elsewhere
      obtain ⟨none, noneToo⟩ | ⟨other, numbered, foreign, found, foundToo⟩ :=
        retraces.dial?_cases elsewhere
      · simpa only [Situation.step, Act.skipping, none, noneToo] using retraces
      · simp only [Situation.step, Act.skipping, found, foundToo]
        exact retraces.register (traces.withoutDial different) foreign _ _ _ _
  | accepts remote socket moment =>
      exact retraces.register traces (List.ne_of_not_mem_cons elsewhere).symm _ _ _ _
  | identifies around slot name =>
      obtain ⟨result, markedResult, outcome, identified, markedIdentified, tracesResult⟩ :=
        traces.identify around slot name
      simp only [Situation.step, Act.skipping, identified, markedIdentified]
      exact ⟨retraces.sessions, tracesResult⟩
  | receives around slot bytes moment =>
      simp only [Situation.step, Act.skipping, traces.link?]
      split
      · exact ⟨retraces.sessions, traces.received around slot bytes moment⟩
      · exact retraces
  | sends slot bytes => exact ⟨retraces.sessions, traces.send slot bytes⟩
  | writes slot => exact ⟨retraces.sessions, traces.updateHandle slot fun handle => handle.receive.1⟩
  | closesHandle slot => exact ⟨retraces.sessions, traces.closeHandle slot⟩
  | linkEnds slot =>
      simp only [Situation.step, Act.skipping, traces.link?]
      split
      · exact ⟨retraces.sessions, traces.linkEnded slot⟩
      · exact retraces
  | drops peer => exact ⟨retraces.sessions, traces.dropPeer peer⟩
  | asksClose closer => exact ⟨retraces.sessions, traces.askClose closer⟩
  | grantsPermit => exact ⟨retraces.sessions, traces.grantPermit⟩
  | finishesTeardown => exact absurd rfl standing
  | firesExit => exact ⟨retraces.sessions, traces.hearExit⟩
  | storesHook hook => exact ⟨retraces.sessions, traces.withHook (some hook)⟩
  | changesListener position change =>
      exact ⟨retraces.sessions, traces.updateListener position change⟩
  | drawsElsewhere => exact ⟨congrArg (· + 1) retraces.sessions, traces⟩

theorem Retraces.names_skipping (retraces : Retraces dial unasked asked) {act : Act}
    (elsewhere : dial.address ∉ asked.addresses act) :
    unasked.names (act.skipping dial.number) = asked.names act := by
  cases act with
  | dialFails number =>
      simp only [names, Act.skipping, retraces.node.dial? (retraces.other elsewhere),
        Option.bind_map, Function.comp_def]
  | dialConnects number socket moment =>
      simp only [names, Act.skipping, retraces.node.dial? (retraces.other elsewhere),
        Option.bind_map, Function.comp_def, retraces.sessions]
  | accepts => simp only [names, Act.skipping, retraces.sessions]
  | receives => simp only [names, Act.skipping, retraces.node.greeting?]
  | _ => rfl

theorem Retraces.addresses_skipping (retraces : Retraces dial unasked asked) {act : Act}
    (elsewhere : dial.address ∉ asked.addresses act) :
    unasked.addresses (act.skipping dial.number) = asked.addresses act := by
  cases act with
  | dialFails | dialConnects =>
      simp only [addresses, Act.skipping, retraces.node.dial? (retraces.other elsewhere),
        Option.map_map, Function.comp_def]
  | _ => rfl

/-! ## Runs -/

theorem Retraces.run (retraces : Retraces dial unasked asked) {acts : List Act}
    (unnamed : ∀ name, dial.peer = some name → name ∉ gathered names asked acts)
    (elsewhere : dial.address ∉ gathered addresses asked acts)
    (standing : .finishesTeardown ∉ acts) :
    let same := acts.map (Act.skipping dial.number)
    Retraces dial (unasked.run same) (asked.run acts) ∧
      gathered names unasked same = gathered names asked acts ∧
      gathered addresses unasked same = gathered addresses asked acts := by
  induction acts generalizing unasked asked with
  | nil => exact ⟨retraces, rfl, rfl⟩
  | cons act rest ih =>
      simp only [gathered, List.mem_append, not_or] at unnamed elsewhere
      rw [List.mem_cons, not_or] at standing
      obtain ⟨stands, standsLater⟩ := standing
      have after := retraces.step (fun name own => (unnamed name own).1) elsewhere.1 (Ne.symm stands)
      obtain ⟨later, names, addresses⟩ :=
        ih after (fun name own => (unnamed name own).2) elsewhere.2 standsLater
      simp only [List.map_cons, gathered, run_cons]
      rw [names, addresses, retraces.names_skipping elsewhere.1,
        retraces.addresses_skipping elsewhere.1]
      exact ⟨later, rfl, rfl⟩

/-! ## Requests -/

theorem strange_iff {node : Node} {name : String} :
    node.ledger.Strange name ↔ node.table.registry.containsName name = false ∧
      node.table.inFlight.isDialing name = false := by
  rw [Registry.containsName, Option.isSome_eq_false_iff, Option.isNone_iff_eq_none,
    Bool.eq_false_iff, ne_eq, InFlight.isDialing_iff]
  exact ⟨fun strange => ⟨strange.unresolved, strange.undialed⟩, fun both => ⟨both.1, both.2⟩⟩

theorem unvisited_iff {node : Node} {address : SocketAddress} :
    node.ledger.Unvisited address ↔ node.table.registry.containsAddress address = false ∧
      node.table.inFlight.hasPending address = false := by
  rw [Bool.eq_false_iff, ne_eq, containsAddress_iff, Bool.eq_false_iff, ne_eq,
    InFlight.hasPending_iff]
  constructor
  · intro unvisited
    refine ⟨?_, unvisited.unmarked⟩
    rintro ⟨entry, member, same⟩
    exact unvisited.unconnected entry member same
  · rintro ⟨unconnected, unmarked⟩
    exact ⟨fun entry member same => unconnected ⟨entry, member, same⟩, unmarked⟩

/-- Of what a node knows from its course, only that of peer and address speaks against a request. -/
theorem refusal?_eq_none_iff_strange {node : Node} {around : Surroundings} {peer : Option String}
    {address : SocketAddress} :
    node.refusal? around peer address = none ↔
      (peer.any around.blocks = false ∧ peer.any around.isMember = false) ∧
        (node.isOwnAddress address = false ∧ node.declinesSegment address = false) ∧
        node.table.closed = false ∧ (∀ name, peer = some name → node.ledger.Strange name) ∧
        node.ledger.Unvisited address := by
  rw [refusal?_eq_none_iff, unvisited_iff]
  cases peer with
  | none => simp [and_assoc]
  | some name => simp [strange_iff, and_assoc, and_left_comm]

theorem refusal?_congr {first second : Node} (profile : first.profile = second.profile)
    (table : first.table = second.table) (around : Surroundings) (peer : Option String)
    (address : SocketAddress) :
    first.refusal? around peer address = second.refusal? around peer address := by
  unfold refusal? isOwnAddress declinesSegment
  rw [profile, table]

/-- A request that nothing speaks against is accepted after any acts that name neither its peer nor
its address, unless they tear the node down. -/
theorem accepted_run {before : Situation} (sound : before.node.ledger.Sound)
    {around view : Surroundings} {peer : Option String} {address : SocketAddress}
    (accepted : before.node.refusal? around peer address = none) {acts : List Act}
    (unnamed : ∀ name, peer = some name → name ∉ gathered names before acts)
    (elsewhere : address ∉ gathered addresses before acts) (standing : .finishesTeardown ∉ acts)
    (unblocked : peer.any view.blocks = false) (outside : peer.any view.isMember = false) :
    (before.run acts).node.refusal? view peer address = none := by
  obtain ⟨-, ⟨foreign, reachable⟩, admitting, strange, unvisited⟩ :=
    refusal?_eq_none_iff_strange.mp accepted
  have profile := profile_run before acts
  refine refusal?_eq_none_iff_strange.mpr ⟨⟨unblocked, outside⟩, ⟨?_, ?_⟩, ?_, ?_, ?_⟩
  · rw [isOwnAddress, profile]
    exact foreign
  · rw [declinesSegment, profile]
    exact reachable
  · rw [closed_run sound standing, admitting]
  · intro name asked
    exact strange_run sound (unnamed name asked) (strange name asked)
  · exact unvisited_run sound elsewhere unvisited

/-- A dial that fails leaves the table as the same acts leave it without the request, if none of them
names its peer or its address or tears the node down. So the request is accepted again. -/
theorem failed_dial_leaves_no_trace {start : Situation} (initial : start.Initial) (past : List Act)
    (around : Surroundings) (peer : Option String) (address : SocketAddress) (now moment : Nat)
    {number : Nat}
    (dialing : ((start.run past).node.requestPeering around peer address now moment).2 =
      .dialing number) {later : List Act}
    (unnamed : ∀ name, peer = some name →
      name ∉ gathered names
        ((start.run past).step (.requests around peer address now moment)) later)
    (elsewhere : address ∉
      gathered addresses ((start.run past).step (.requests around peer address now moment)) later)
    (standing : .finishesTeardown ∉ later) :
    let asked := ((start.run past).step (.requests around peer address now moment)).run later
    let unasked := (start.run past).run (later.map (Act.skipping number))
    let failed := asked.step (.dialFails number)
    (∃ dial, asked.node.dial? number = some dial ∧ dial.peer = peer ∧ dial.address = address) ∧
      failed.node.table = unasked.node.table ∧
      ∀ (view : Surroundings), peer.any view.blocks = false → peer.any view.isMember = false →
        ∀ now moment, ∃ again,
          (failed.node.requestPeering view peer address now moment).2 = .dialing again := by
  intro asked unasked failed
  obtain ⟨accepted, rfl⟩ := accepted_of_dialing dialing
  have sound := sound_run initial past
  let dial := (start.run past).node.dialOf peer address now
  have begun : Retraces dial (start.run past)
      ((start.run past).step (.requests around peer address now moment)) :=
    ⟨rfl, traces_of_accepted sound accepted now moment⟩
  obtain ⟨retraces, sameNames, sameAddresses⟩ := begun.run unnamed elsewhere standing
  have underWay : asked.node.dial? (start.run past).node.dialCount = some dial :=
    retraces.node.exceed.underWay
  have table : failed.node.table = unasked.node.table := by
    simp only [failed, step, underWay]
    exact retraces.node.table_dialFailed
  refine ⟨⟨dial, underWay, rfl, rfl⟩, table, ?_⟩
  intro view unblocked outside now moment
  have profile : failed.node.profile = unasked.node.profile := by
    rw [profile_step, profile_run, profile_step, profile_run (start.run past)]
  have standingToo : .finishesTeardown ∉ later.map (Act.skipping (start.run past).node.dialCount) := by
    intro member
    obtain ⟨act, actMember, same⟩ := List.mem_map.mp member
    cases act <;> cases same
    exact standing actMember
  rw [← sameNames] at unnamed
  rw [← sameAddresses] at elsewhere
  have reaccepted : unasked.node.refusal? view peer address = none :=
    accepted_run sound accepted unnamed elsewhere standingToo unblocked outside
  have same := refusal?_congr profile table view peer address
  exact ⟨_, answer_of_accepted (same.trans reaccepted) now moment⟩

/-- A node that has begun a dial. -/
def pursuing : Situation :=
  ((lone 40000).run []).step (.requests aloof (some "p") (.v4 ⟨192, 0, 2, 9⟩ 5000) 0 1)

/-- A connection is accepted and identified, another dial begins and connects, and the first
connection ends. -/
def meanwhile : List Act :=
  [.accepts (.v4 ⟨192, 0, 2, 7⟩ 5000) ⟨0, .callee⟩ 2, .identifies aloof ⟨1⟩ "q",
    .requests aloof (some "r") (.v4 ⟨192, 0, 2, 8⟩ 5000) 3 3, .dialConnects 1 ⟨1, .caller⟩ 4,
    .linkEnds ⟨1⟩]

theorem failed_dial_leaves_no_trace_meanwhile :
    "p" ∉ gathered names pursuing meanwhile ∧
      .v4 ⟨192, 0, 2, 9⟩ 5000 ∉ gathered addresses pursuing meanwhile ∧
      ((pursuing.run meanwhile).step (.dialFails 0)).node.table =
        (((lone 40000).run []).run (meanwhile.map (Act.skipping 0))).node.table ∧
      ∃ again, (((pursuing.run meanwhile).step (.dialFails 0)).node.requestPeering aloof (some "p")
        (.v4 ⟨192, 0, 2, 9⟩ 5000) 9 9).2 = .dialing again := by
  have dialing : (((lone 40000).run []).node.requestPeering aloof (some "p")
      (.v4 ⟨192, 0, 2, 9⟩ 5000) 0 1).2 = .dialing 0 := by
    decide
  have unnamed : ∀ name, some "p" = some name → name ∉ gathered names pursuing meanwhile := by
    intro name own
    cases own
    decide
  have elsewhere : .v4 ⟨192, 0, 2, 9⟩ 5000 ∉ gathered addresses pursuing meanwhile := by decide
  have standing : .finishesTeardown ∉ meanwhile := by simp [meanwhile]
  have result := failed_dial_leaves_no_trace (initial_lone 40000) [] aloof (some "p") _ 0 1 dialing
    unnamed elsewhere standing
  exact ⟨unnamed "p" rfl, elsewhere, result.2.1,
    result.2.2 aloof (by decide) (by decide) 9 9⟩

end Situation

end PeerMesh.Node
