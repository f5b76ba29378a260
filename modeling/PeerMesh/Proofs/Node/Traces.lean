import PeerMesh.Proofs.InFlight
import PeerMesh.Proofs.Node.Admission
import PeerMesh.Proofs.Node.Greetings
import PeerMesh.Proofs.Node.Effect

/-!
# The traces of a dial

A request that is accepted leaves a dial and its marks, and nothing else. Two nodes that differ by
such traces alone do the same wherever neither the peer nor the address of that dial is concerned, and
differ by nothing else afterwards. What becomes of the marks in the meantime does not matter, as long
as taking those of the dial away leaves the marks of the other node.

Dials are numbered, and so a dial that one of two nodes has not begun shifts the numbers of all that
came after it.
-/

set_option autoImplicit false

namespace PeerMesh.Node

/-! ## Dials by number -/

/-- The number that a dial has where the one of number `missing` was not begun. -/
def skipping (missing number : Nat) : Nat :=
  if missing < number then number - 1 else number

theorem skipping_injective {missing first second : Nat} (firstOther : first ≠ missing)
    (secondOther : second ≠ missing) (same : skipping missing first = skipping missing second) :
    first = second := by
  unfold skipping at same
  split at same <;> split at same <;> omega

theorem skipping_eq_iff {missing number last : Nat} (other : number ≠ missing)
    (issued : missing ≤ last) : skipping missing number = last ↔ number = last + 1 := by
  unfold skipping
  split <;> omega

/-- What a request changes: marks, dials, their count, and the moment of the last activity. -/
structure Marks where
  inFlight : InFlight
  dials : List Dial
  dialCount : Nat
  lastActivity : Nat

def marks (node : Node) : Marks :=
  ⟨node.table.inFlight, node.dials, node.dialCount, node.lastActivity⟩

def withMarks (node : Node) (marks : Marks) : Node :=
  { node with
    table := { node.table with inFlight := marks.inFlight }
    dials := marks.dials
    dialCount := marks.dialCount
    lastActivity := marks.lastActivity }

namespace Marks

def dial? (marks : Marks) (number : Nat) : Option Dial :=
  marks.dials.find? fun dial => dial.number == number

def without (marks : Marks) (number : Nat) : Marks :=
  { marks with dials := marks.dials.filter fun dial => dial.number != number }

def began (marks : Marks) (peer : Option String) (address : SocketAddress) (deadline : Nat) :
    Marks :=
  { marks with
    inFlight := marks.inFlight.begin peer address
    dials := marks.dials ++ [⟨marks.dialCount, peer, address, deadline⟩]
    dialCount := marks.dialCount + 1 }

theorem dial?_without (marks : Marks) (ended number : Nat) :
    (marks.without ended).dial? number = if number = ended then none else marks.dial? number := by
  unfold dial? without
  rw [List.find?_filter]
  split
  · subst ended
    simp
  · rename_i different
    congr 1
    funext dial
    by_cases asked : dial.number = number <;> simp [asked, different]

theorem dial?_began (marks : Marks) (peer : Option String) (address : SocketAddress)
    (deadline number : Nat) :
    (marks.began peer address deadline).dial? number =
      (marks.dial? number).or
        (if marks.dialCount = number then some ⟨number, peer, address, deadline⟩ else none) := by
  unfold dial? began
  rw [List.find?_append, List.find?_singleton]
  by_cases last : marks.dialCount = number
  · subst last
    simp
  · simp [last]

theorem number_of_dial? {marks : Marks} {number : Nat} {dial : Dial}
    (found : marks.dial? number = some dial) : dial.number = number := by
  simpa using List.find?_some found

/-- The marks are those of `plain`, and possibly some of one more dial, which is under way. -/
structure Exceed (dial : Dial) (plain marks : Marks) : Prop where
  released : marks.inFlight.release dial.peer dial.address = plain.inFlight
  underWay : marks.dial? dial.number = some dial
  others : ∀ number, number ≠ dial.number →
    marks.dial? number =
      (plain.dial? (skipping dial.number number)).map fun other => { other with number }
  counted : marks.dialCount = plain.dialCount + 1
  issued : dial.number ≤ plain.dialCount

variable {dial : Dial} {plain marks : Marks}

theorem Exceed.without (exceed : plain.Exceed dial marks) {number : Nat}
    (other : number ≠ dial.number) :
    (plain.without (skipping dial.number number)).Exceed dial (marks.without number) where
  released := exceed.released
  underWay := by rw [dial?_without, if_neg other.symm, exceed.underWay]
  others := by
    intro asked askedOther
    rw [dial?_without, dial?_without]
    by_cases same : asked = number
    · rw [if_pos same, if_pos (congrArg _ same), Option.map_none]
    · rw [if_neg same, if_neg fun shifted => same (skipping_injective askedOther other shifted),
        exceed.others asked askedOther]
  counted := exceed.counted
  issued := exceed.issued

/-- A dial of another peer to another address begins on both sides. -/
theorem Exceed.began (exceed : plain.Exceed dial marks) {peer : Option String}
    {address : SocketAddress} (foreign : address ≠ dial.address)
    (stranger : ∀ name, dial.peer = some name → peer ≠ some name) (deadline : Nat) :
    (plain.began peer address deadline).Exceed dial (marks.began peer address deadline) where
  released := by
    refine (InFlight.begin_release_comm _ foreign stranger).trans ?_
    rw [exceed.released]
    rfl
  underWay := by rw [dial?_began, exceed.underWay, Option.some_or]
  others := by
    intro asked askedOther
    rw [dial?_began, dial?_began, Option.map_or, exceed.others asked askedOther]
    have last := skipping_eq_iff askedOther exceed.issued
    congr 1
    by_cases new : asked = plain.dialCount + 1
    · rw [if_pos (exceed.counted.trans new.symm), if_pos (last.mpr new).symm, Option.map_some]
    · rw [if_neg fun same => new (same.symm.trans exceed.counted),
        if_neg fun same => new (last.mp same.symm), Option.map_none]
  counted := congrArg (· + 1) exceed.counted
  issued := Nat.le_succ_of_le exceed.issued

/-- A dial that is begun where neither its peer nor its address is marked. -/
theorem exceed_began (marks : Marks) {peer : Option String} {address : SocketAddress}
    (undialed : peer.any marks.inFlight.isDialing = false)
    (clear : marks.inFlight.hasPending address = false)
    (unissued : ∀ number, marks.dialCount ≤ number → marks.dial? number = none) (deadline : Nat) :
    marks.Exceed ⟨marks.dialCount, peer, address, deadline⟩ (marks.began peer address deadline) where
  released := InFlight.begin_release undialed clear
  underWay := by
    rw [dial?_began, unissued marks.dialCount (Nat.le_refl _), if_pos rfl, Option.none_or]
  others := by
    intro number other
    rw [dial?_began, if_neg other.symm, Option.or_none]
    dsimp only at other ⊢
    unfold skipping
    split
    · rename_i later
      rw [unissued number (Nat.le_of_lt later), unissued (number - 1) (Nat.le_sub_one_of_lt later),
        Option.map_none]
    · cases found : marks.dial? number with
      | none => rfl
      | some earlier =>
          obtain rfl := number_of_dial? found
          rfl
  counted := rfl
  issued := Nat.le_refl _

end Marks

/-! ## Nodes that differ by a dial -/

/-- The second node is the first with one more dial, and is like the first otherwise. -/
inductive Traces (dial : Dial) (plain : Node) : Node → Prop
  | intro (marks : Marks) (exceed : plain.marks.Exceed dial marks) :
      Traces dial plain (plain.withMarks marks)

variable {dial : Dial} {plain marked : Node}

namespace Traces

/-! ## What two such nodes have in common -/

section Common

variable (traces : Traces dial plain marked)

include traces

theorem registry : marked.table.registry = plain.table.registry := by
  cases traces with
  | intro => rfl

theorem closed : marked.table.closed = plain.table.closed := by
  cases traces with
  | intro => rfl

theorem links : marked.links = plain.links := by
  cases traces with
  | intro => rfl

theorem hello : marked.hello = plain.hello := by
  cases traces with
  | intro => rfl

theorem profile : marked.profile = plain.profile := by
  cases traces with
  | intro => rfl

theorem hook : marked.hook = plain.hook := by
  cases traces with
  | intro => rfl

theorem exceed : plain.marks.Exceed dial marked.marks := by
  cases traces with
  | intro marks exceed => exact exceed

theorem link? (slot : Slot) : marked.link? slot = plain.link? slot := by
  rw [Node.link?, traces.links, Node.link?]

theorem isOpen : marked.isOpen = plain.isOpen := by
  funext slot
  rw [Node.isOpen, traces.link?, Node.isOpen]

theorem greeting? (slot : Slot) (bytes : Bytes) :
    marked.greeting? slot bytes = plain.greeting? slot bytes := by
  rw [Node.greeting?, traces.hello, Node.greeting?]

/-- Addresses other than that of the dial are marked in both or in neither. -/
theorem hasPending {address : SocketAddress} (foreign : address ≠ dial.address) :
    marked.table.inFlight.hasPending address = plain.table.inFlight.hasPending address := by
  have released : marked.table.inFlight.release dial.peer dial.address = plain.table.inFlight :=
    traces.exceed.released
  rw [← released, Bool.eq_iff_iff, InFlight.hasPending_iff, InFlight.hasPending_iff,
    InFlight.mem_pending_release]
  exact (and_iff_left foreign).symm

theorem isDialing {name : String} (stranger : dial.peer ≠ some name) :
    marked.table.inFlight.isDialing name = plain.table.inFlight.isDialing name := by
  have released : marked.table.inFlight.release dial.peer dial.address = plain.table.inFlight :=
    traces.exceed.released
  rw [← released, Bool.eq_iff_iff, InFlight.isDialing_iff, InFlight.isDialing_iff,
    InFlight.mem_dialing_release]
  exact (and_iff_left stranger).symm

theorem dial? {number : Nat} (other : number ≠ dial.number) :
    marked.dial? number =
      (plain.dial? (skipping dial.number number)).map fun found => { found with number } :=
  traces.exceed.others number other

/-! ## Parts of operations -/

theorem updateHandle (slot : Slot) (change : Handle → Handle) :
    Traces dial (plain.updateHandle slot change) (marked.updateHandle slot change) := by
  cases traces with
  | intro marks exceed => exact .intro marks exceed

theorem closeHandle (slot : Slot) :
    Traces dial (plain.closeHandle slot) (marked.closeHandle slot) :=
  traces.updateHandle slot _

theorem withRegistry (registry : Registry) :
    Traces dial (plain.withRegistry registry) (marked.withRegistry registry) := by
  cases traces with
  | intro marks exceed => exact .intro marks exceed

theorem withHello (hello : Option Hello) :
    Traces dial { plain with hello } { marked with hello } := by
  cases traces with
  | intro marks exceed => exact .intro marks exceed

theorem withLinks (links : List Link) :
    Traces dial { plain with links } { marked with links } := by
  cases traces with
  | intro marks exceed => exact .intro marks exceed

theorem withHook (hook : Option ExitHook) :
    Traces dial { plain with hook } { marked with hook } := by
  cases traces with
  | intro marks exceed => exact .intro marks exceed

theorem touch (moment : Nat) : Traces dial (plain.touch moment) (marked.touch moment) := by
  cases traces with
  | intro marks exceed =>
      exact .intro { marks with lastActivity := moment }
        ⟨exceed.released, exceed.underWay, exceed.others, exceed.counted, exceed.issued⟩

/-- A change to the marks that may be made before those of the dial are taken away as well as after. -/
theorem updateInFlight {change : InFlight → InFlight}
    (commutes : ∀ inFlight, (change inFlight).release dial.peer dial.address =
      change (inFlight.release dial.peer dial.address)) :
    Traces dial (plain.updateInFlight change) (marked.updateInFlight change) := by
  cases traces with
  | intro marks exceed =>
      refine .intro { marks with inFlight := change marks.inFlight }
        ⟨?_, exceed.underWay, exceed.others, exceed.counted, exceed.issued⟩
      rw [commutes, exceed.released]
      rfl

theorem finishDialing? (peer : Option String) :
    Traces dial (plain.finishDialing? peer) (marked.finishDialing? peer) :=
  traces.updateInFlight fun inFlight => inFlight.finishDialing?_release _ peer _

/-! ## Sending -/

theorem send (slot : Slot) (bytes : Bytes) :
    Traces dial (plain.send slot bytes).1 (marked.send slot bytes).1 := by
  unfold Node.send
  rw [traces.registry, traces.link?]
  split
  · exact traces
  · split
    · exact traces
    · split
      · exact traces.updateHandle slot fun handle => (handle.send bytes).1
      · exact traces

theorem startHandshake (slot : Slot) :
    Traces dial (plain.startHandshake slot) (marked.startHandshake slot) := by
  unfold Node.startHandshake
  have line : Hello.line marked.profile.id = Hello.line plain.profile.id := by rw [traces.profile]
  rw [traces.hello, line]
  split
  · exact traces
  · rename_i hello _
    exact (traces.withHello (some (hello.initiate slot))).send slot (Hello.line plain.profile.id)

theorem answerHello (slot : Slot) (initiated : Bool) :
    Traces dial (plain.answerHello slot initiated) (marked.answerHello slot initiated) := by
  unfold Node.answerHello
  rw [traces.profile]
  split
  · exact traces
  · exact traces.send slot _

/-! ## Names -/

theorem evict (slot : Slot) :
    ∃ rest markedRest removed, plain.evict slot = (rest, removed) ∧
      marked.evict slot = (markedRest, removed) ∧ Traces dial rest markedRest := by
  unfold Node.evict
  rw [traces.registry]
  split
  · exact ⟨_, _, _, rfl, rfl, traces⟩
  · exact ⟨_, _, _, rfl, rfl, (traces.withRegistry _).closeHandle slot⟩

theorem discard (slot : Slot) : Traces dial (plain.discard slot) (marked.discard slot) := by
  obtain ⟨rest, markedRest, removed, evicted, markedEvicted, tracesRest⟩ := traces.evict slot
  unfold Node.discard
  rw [evicted, markedEvicted]
  cases removed with
  | none => exact tracesRest
  | some entry =>
      dsimp only
      split
      · exact tracesRest
      · exact tracesRest.finishDialing? entry.dialedAs

theorem takesName (holder : Slot) (direction : Direction) (name : String) :
    marked.takesName holder direction name = plain.takesName holder direction name := by
  unfold Node.takesName preferredDirection
  rw [traces.registry, traces.profile]

theorem concludeIdentification (slot : Slot) (name : String) :
    Traces dial (plain.concludeIdentification slot name)
      (marked.concludeIdentification slot name) := by
  unfold Node.concludeIdentification
  rw [traces.registry]
  exact (traces.finishDialing? _).finishDialing? (some name)

end Common

theorem identify (traces : Traces dial plain marked) (around : Surroundings) (slot : Slot)
    (name : String) :
    ∃ result markedResult outcome, plain.identify around slot name = (result, outcome) ∧
      marked.identify around slot name = (markedResult, outcome) ∧
      Traces dial result markedResult := by
  unfold Node.identify
  rw [traces.registry]
  split
  · exact ⟨_, _, _, rfl, rfl, traces⟩
  · split
    · obtain ⟨rest, markedRest, removed, evicted, markedEvicted, tracesRest⟩ := traces.evict slot
      rw [evicted, markedEvicted]
      exact ⟨_, _, _, rfl, rfl, tracesRest.finishDialing? _⟩
    · split
      · exact ⟨_, _, _, rfl, rfl, (traces.withRegistry _).concludeIdentification slot name⟩
      · rename_i holder _
        rw [traces.takesName]
        split
        · have rest := traces.discard holder
          dsimp only
          rw [rest.registry]
          split
          · exact ⟨_, _, _, rfl, rfl, (rest.withRegistry _).concludeIdentification slot name⟩
          · exact ⟨_, _, _, rfl, rfl, rest⟩
        · exact ⟨_, _, _, rfl, rfl, traces.discard slot⟩

/-! ## Connections -/

theorem listened (traces : Traces dial plain marked) (slot : Slot) (bytes : Bytes) (moment : Nat) :
    Traces dial (plain.listened slot bytes moment) (marked.listened slot bytes moment) := by
  unfold Node.listened
  rw [traces.registry, traces.hello]
  exact (traces.withRegistry _).withHello _

theorem received (traces : Traces dial plain marked) (around : Surroundings) (slot : Slot)
    (bytes : Bytes) (moment : Nat) :
    Traces dial (plain.received around slot bytes moment)
      (marked.received around slot bytes moment) := by
  have listened := traces.listened slot bytes moment
  cases greeted : plain.greeting? slot bytes with
  | none =>
      rw [received_of_silent greeted, received_of_silent ((traces.greeting? slot bytes).trans greeted)]
      exact listened
  | some greeting =>
      obtain ⟨name, initiated⟩ := greeting
      obtain ⟨result, markedResult, outcome, identified, markedIdentified, tracesResult⟩ :=
        listened.identify around slot name
      rw [received_of_greeted greeted, identified,
        received_of_greeted ((traces.greeting? slot bytes).trans greeted), markedIdentified]
      cases outcome with
      | ok => exact tracesResult.answerHello slot initiated
      | error => exact tracesResult

theorem reportClosed (traces : Traces dial plain marked) (slot : Slot) :
    Traces dial (plain.reportClosed slot) (marked.reportClosed slot) := by
  unfold Node.reportClosed
  rw [traces.registry]
  have rest := traces.withRegistry (plain.table.registry.remove slot).1
  dsimp only
  split
  · exact rest
  · split
    · exact rest
    · exact rest.finishDialing? _

theorem linkEnded (traces : Traces dial plain marked) (slot : Slot) :
    Traces dial (plain.linkEnded slot) (marked.linkEnded slot) := by
  have closed := (traces.closeHandle slot).reportClosed slot
  unfold Node.linkEnded
  dsimp only
  rw [closed.hello, closed.links]
  generalize (plain.closeHandle slot).reportClosed slot = rest at closed
  exact (closed.withHello (rest.hello.map fun hello => hello.forget slot)).withLinks
    (rest.links.filter fun link => link.slot != slot)

theorem dropPeer (traces : Traces dial plain marked) (peer : String) :
    Traces dial (plain.dropPeer peer).1 (marked.dropPeer peer).1 := by
  unfold Node.dropPeer
  rw [traces.registry, traces.isOpen]
  split
  · exact traces
  · exact (traces.withRegistry _).closeHandle _

theorem admitted (traces : Traces dial plain marked) (arrived : Arrived) (moment : Nat) :
    Traces dial (plain.admitted arrived moment) (marked.admitted arrived moment) := by
  have taken := traces.updateInFlight
    fun inFlight => inFlight.takePending_release dial.peer dial.address arrived.remote
  unfold Node.admitted nextSlot
  rw [traces.registry, traces.links]
  exact ((taken.withRegistry _).withLinks _).touch moment

/-- A connection from elsewhere is registered by both. -/
theorem connected (traces : Traces dial plain marked) {arrived : Arrived}
    (foreign : arrived.remote ≠ dial.address) (moment : Nat) :
    Traces dial (plain.connected arrived moment).1 (marked.connected arrived moment).1 := by
  cases refusing : plain.table.closed with
  | true =>
      rw [connected_of_closed refusing, connected_of_closed (traces.closed.trans refusing)]
      dsimp only [turnAway]
      split
      · exact traces.updateInFlight fun inFlight => inFlight.release_release _ _ _ _
      · exact traces
  | false =>
      have admitted := traces.admitted arrived moment
      have slot : marked.nextSlot = plain.nextSlot := by rw [nextSlot, traces.registry, nextSlot]
      rw [connected_of_open refusing, connected_of_open (traces.closed.trans refusing),
        traces.hasPending foreign, slot]
      split
      · exact admitted.startHandshake plain.nextSlot
      · exact admitted

/-! ## Dials -/

theorem withoutDial (traces : Traces dial plain marked) {number : Nat}
    (other : number ≠ dial.number) :
    Traces dial (plain.withoutDial (skipping dial.number number)) (marked.withoutDial number) := by
  cases traces with
  | intro marks exceed => exact .intro (marks.without number) (exceed.without other)

theorem dialFailed (traces : Traces dial plain marked) {number : Nat}
    (different : number ≠ dial.number) {other : Dial}
    (numbered : other.number = skipping dial.number number) :
    Traces dial (plain.dialFailed other) (marked.dialFailed { other with number }) := by
  unfold Node.dialFailed
  rw [numbered]
  exact (traces.withoutDial different).updateInFlight
    fun inFlight => inFlight.release_release dial.peer other.peer dial.address other.address

theorem beginDial (traces : Traces dial plain marked) {peer : Option String}
    {address : SocketAddress} (foreign : address ≠ dial.address)
    (stranger : ∀ name, dial.peer = some name → peer ≠ some name) (now : Nat) :
    Traces dial (plain.beginDial peer address now) (marked.beginDial peer address now) := by
  cases traces with
  | intro marks exceed =>
      exact .intro (marks.began peer address (now + plain.profile.connectTimeout))
        (exceed.began foreign stranger _)

theorem refusal? (traces : Traces dial plain marked) (around : Surroundings)
    {peer : Option String} {address : SocketAddress} (foreign : address ≠ dial.address)
    (stranger : ∀ name, dial.peer = some name → peer ≠ some name) :
    marked.refusal? around peer address = plain.refusal? around peer address := by
  have dialing : peer.any marked.table.inFlight.isDialing =
      peer.any plain.table.inFlight.isDialing := by
    cases peer with
    | none => rfl
    | some name => exact traces.isDialing fun own => stranger name own rfl
  unfold Node.refusal? isOwnAddress declinesSegment
  rw [traces.profile, traces.closed, traces.registry, dialing, traces.hasPending foreign]

theorem requestPeering (traces : Traces dial plain marked) (around : Surroundings)
    {peer : Option String} {address : SocketAddress} (foreign : address ≠ dial.address)
    (stranger : ∀ name, dial.peer = some name → peer ≠ some name) (now moment : Nat) :
    Traces dial (plain.requestPeering around peer address now moment).1
      (marked.requestPeering around peer address now moment).1 := by
  unfold Node.requestPeering
  rw [traces.refusal? around foreign stranger]
  split
  · exact traces
  · exact traces.touch moment
  · exact (traces.touch moment).beginDial foreign stranger now

/-! ## Teardown -/

theorem askClose (traces : Traces dial plain marked) (closer : Closer) :
    Traces dial (plain.askClose closer) (marked.askClose closer) := by
  cases traces with
  | intro marks exceed => exact .intro marks exceed

theorem grantPermit (traces : Traces dial plain marked) :
    Traces dial plain.grantPermit marked.grantPermit := by
  cases traces with
  | intro marks exceed => exact .intro marks exceed

theorem hearExit (traces : Traces dial plain marked) :
    Traces dial plain.hearExit marked.hearExit := by
  unfold Node.hearExit
  rw [traces.hook]
  split
  · rename_i hook _
    split
    · exact (traces.withHook (some { hook with awaiting := false })).askClose .exitHook
    · exact traces
  · exact traces

theorem updateListener (traces : Traces dial plain marked) (position : Nat)
    (change : Listener → Listener) :
    Traces dial (plain.updateListener position change) (marked.updateListener position change) := by
  cases traces with
  | intro marks exceed => exact .intro marks exceed

end Traces

/-- A request that is accepted leaves the traces of its dial. -/
theorem traces_of_accepted {node : Node} (sound : node.ledger.Sound) {around : Surroundings}
    {peer : Option String} {address : SocketAddress}
    (accepted : node.refusal? around peer address = none) (now moment : Nat) :
    Traces (node.dialOf peer address now) node
      (node.requestPeering around peer address now moment).1 := by
  obtain ⟨-, -, -, -, -, -, -, undialed, clear⟩ := refusal?_eq_none_iff.mp accepted
  have unissued : ∀ number, node.dialCount ≤ number → node.marks.dial? number = none := by
    intro number above
    refine List.find?_eq_none.mpr ?_
    intro other member same
    have issued : other.number < node.dialCount := sound.numbersIssued other member
    rw [beq_iff_eq.mp same] at issued
    exact absurd issued (Nat.not_lt.mpr above)
  let touched : Marks := { node.marks with lastActivity := moment }
  have exceed := touched.exceed_began undialed clear unissued (now + node.profile.connectTimeout)
  rw [requestPeering, accepted]
  exact .intro _ ⟨exceed.released, exceed.underWay, exceed.others, rfl, exceed.issued⟩

/-- The end of the dial takes away the last that the nodes differ in, as far as they decide on it. -/
theorem Traces.table_dialFailed (traces : Traces dial plain marked) :
    (marked.dialFailed dial).table = plain.table := by
  cases traces with
  | intro marks exceed =>
      change (⟨_, marks.inFlight.release dial.peer dial.address, _⟩ : PeerTable) = _
      rw [exceed.released]
      rfl

end PeerMesh.Node
