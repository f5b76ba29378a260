import PeerMesh.Proofs.Node.Emptied
import PeerMesh.Proofs.Node.Teardown
import PeerMesh.Proofs.Process.Fate

/-!
# Nothing comes back to a closed node

Once a teardown has emptied the table of a node, the node is empty in every later state of the
process, whatever still reaches it. The dials that were in flight end one by one, and each call that
awaits one of them is told an error.
-/

set_option autoImplicit false

namespace PeerMesh

open Node (Act Situation)

namespace Node.Situation

theorem Reached.tidy {situation : Situation} (reached : situation.Reached) : situation.Tidy := by
  obtain ⟨start, acts, initial, rfl⟩ := reached
  apply run_induction_of_sound Tidy initial (tidy_of_initial initial)
  intro before act sound tidy
  exact tidy.step sound act

/-- A node with a closed table begins no dial. -/
theorem mem_dials_step_of_closed {before : Situation} (sound : before.node.ledger.Sound)
    (closed : before.node.table.closed = true) (act : Act) (dial : Dial) :
    dial ∈ (before.step act).node.dials ↔
      dial ∈ before.node.dials ∧ act.ended? ≠ some dial.number := by
  rw [mem_dials_step sound, or_iff_right]
  intro begins
  cases act with
  | requests =>
      obtain ⟨-, -, -, -, admitting, -⟩ := refusal?_eq_none_iff.mp begins.1
      rw [closed] at admitting
      cases admitting
  | _ => cases begins

end Node.Situation

namespace Mesh

variable {mesh before after : Mesh} {kept starting : Nat → Prop} {number : Nat} {entry : NodeEntry}

theorem Orderly.situation (orderly : mesh.Orderly) (found : mesh.nodes[number]? = some entry)
    {context : Context} (known : mesh.context? entry.context = some context) :
    Situation.Reached ⟨entry.node, context.sessions⟩ := by
  obtain ⟨same, there, reached⟩ := orderly.followed number entry found
  rw [known] at there
  cases there
  exact reached

theorem Orderly.emptied (orderly : mesh.Orderly) (found : mesh.nodes[number]? = some entry)
    (closed : entry.node.table.closed = true) : entry.node.Emptied := by
  obtain ⟨context, known, reached⟩ := orderly.followed number entry found
  exact reached.tidy.emptied reached.sound closed

/-! ## Dials that end late -/

theorem DialError.of_profile {node other : Node} {dial : Dial} {error : MeshError}
    (own : DialError node dial error) (same : other.profile = node.profile) :
    DialError other dial error := by
  cases own with
  | refused error => exact .refused error
  | timedOut =>
      rw [← same]
      exact .timedOut

/-- A call awaits a dial that is under way, or it has been told the error with which the dial ended.
-/
inductive Awaiting (mesh : Mesh) (owner : Node) (dial : Dial) (task : Nat) (call : Call) : Prop where
  | underWay (asked : mesh.tasks[task]? = some ⟨call, none⟩) (dialing : dial ∈ owner.dials)
  | told (error : MeshError) (late : error = .shutDown ∨ DialError owner dial error)
      (answered : mesh.tasks[task]? = some ⟨call, some (dialAnswer call (.error error))⟩)
      (gone : owner.dial? dial.number = none)

variable {dial : Dial} {task : Nat} {call : Call}

theorem Awaiting.of_report {situation : Situation} (sound : situation.node.ledger.Sound)
    (closed : situation.node.table.closed = true) (awaits : awaitsDial call number dial.number = true)
    (asked : before.tasks[task]? = some ⟨call, none⟩) (dialing : dial ∈ situation.node.dials)
    {act : Act} {other : Dial} (search : situation.node.dial? other.number = some other)
    (ends : act.ended? = some other.number) {error : MeshError}
    (late : error = .shutDown ∨ DialError situation.node other error)
    (tasks : after.tasks = (before.reportDial number other.number (.error error)).tasks) :
    after.Awaiting (situation.step act).node dial task call := by
  have remains := situation.mem_dials_step_of_closed sound closed act dial
  by_cases same : other.number = dial.number
  · have here : other = dial :=
      Node.Ledger.eq_of_number_eq sound (Node.dial?_eq_some search).1 dialing same
    subst here
    refine .told error ?_ ?_ ?_
    · exact late.imp_right fun own => own.of_profile (Node.profile_step situation act)
    · rw [tasks, getElem?_reportDial, asked, Option.map_some]
      simp [awaits]
    · exact Situation.dial?_of_ended ends
  · refine .underWay ?_ ?_
    · have unconcerned : awaitsDial call number other.number = false := by
        rw [Bool.eq_false_iff]
        intro concerned
        exact same (eq_of_awaitsDial concerned awaits).2
      rw [tasks, getElem?_reportDial, asked, Option.map_some]
      simp [unconcerned]
    · rw [remains, ends]
      exact ⟨dialing, fun here => same (Option.some.inj here)⟩

theorem Onward.closed {later : Node} (onward : Onward starting before after number entry later)
    (orderly : before.Orderly) (found : before.nodes[number]? = some entry)
    (closed : entry.node.table.closed = true) :
    later.table.closed = true ∧ later.profile = entry.node.profile := by
  cases onward with
  | stayed => exact ⟨closed, rfl⟩
  | acted known =>
      have reached := orderly.situation found known
      exact ⟨Situation.closed_step reached.sound _ closed, Node.profile_step _ _⟩

/-- A call that was told keeps its answer, and the dial does not come back. -/
theorem Change.told (change : Change kept starting before after) (orderly : before.Orderly)
    (found : before.nodes[number]? = some entry) (closed : entry.node.table.closed = true)
    {later : Node} (onward : Onward starting before after number entry later) {error : MeshError}
    (late : error = .shutDown ∨ DialError entry.node dial error)
    (answered : before.tasks[task]? = some ⟨call, some (dialAnswer call (.error error))⟩)
    (gone : entry.node.dial? dial.number = none) : after.Awaiting later dial task call := by
  obtain ⟨same, still, fate⟩ := change.fate answered
  rw [fate.answered] at still
  have profile := (onward.closed orderly found closed).2
  refine .told error (late.imp_right fun own => own.of_profile profile) still ?_
  cases onward with
  | stayed => exact gone
  | acted known =>
      have sound := (orderly.situation found known).sound
      apply List.find?_eq_none.mpr
      intro other remains
      rw [Situation.mem_dials_step_of_closed sound closed] at remains
      exact List.find?_eq_none.mp gone other remains.1

theorem Change.awaiting (change : Change kept starting before after) (orderly : before.Orderly)
    (found : before.nodes[number]? = some entry) (closed : entry.node.table.closed = true)
    (awaits : awaitsDial call number dial.number = true) {later : Node}
    (there : after.node? number = some later)
    (onward : Onward starting before after number entry later)
    (awaiting : before.Awaiting entry.node dial task call) :
    after.Awaiting later dial task call := by
  cases awaiting with
  | told error late answered gone =>
      exact change.told orderly found closed onward late answered gone
  | underWay asked dialing =>
      cases onward with
      | stayed =>
          obtain ⟨same, still, fate⟩ := change.fate asked
          cases fate.awaiting awaits with
          | inl unanswered =>
              subst unanswered
              exact .underWay still dialing
          | inr gone =>
              -- the node has taken no act, so that the dial is still there
              rw [dial?, there, Option.bind_some] at gone
              exact absurd (beq_self_eq_true _) (List.find?_eq_none.mp gone dial dialing)
      | acted known steady reports =>
          have sound := (orderly.situation found known).sound
          cases reports with
          | silent unended tasks =>
              refine .underWay (by rw [tasks, asked]) ?_
              rw [Situation.mem_dials_step_of_closed sound closed, unended]
              exact ⟨dialing, (Option.some_ne_none dial.number).symm⟩
          | failed search own tasks =>
              exact Awaiting.of_report sound closed awaits asked dialing search rfl (.inr own) tasks
          | connected search refused tasks =>
              rw [refused closed] at tasks
              exact Awaiting.of_report sound closed awaits asked dialing search rfl (.inl rfl) tasks

/-! ## Closed for good -/

/-- The node is in the process, with a closed table, and it is the same node as before. -/
def Closes (mesh : Mesh) (number : Nat) (profile : Profile) : Prop :=
  ∃ entry, mesh.nodes[number]? = some entry ∧ entry.node.table.closed = true ∧
    entry.node.profile = profile

theorem Change.closes (change : Change kept starting before after) (orderly : before.Orderly)
    {profile : Profile} (closes : before.Closes number profile) : after.Closes number profile := by
  obtain ⟨entry, found, closed, same⟩ := closes
  obtain ⟨later, there, -, onward⟩ := change.onward found
  obtain ⟨still, profile⟩ := onward.closed orderly found closed
  exact ⟨later, there, still, profile.trans same⟩

/-- The node is closed, and the call awaits the dial or knows how it has ended. -/
def Settles (mesh : Mesh) (number : Nat) (profile : Profile) (dial : Dial) (task : Nat)
    (call : Call) : Prop :=
  ∃ entry, mesh.nodes[number]? = some entry ∧ entry.node.table.closed = true ∧
    entry.node.profile = profile ∧ mesh.Awaiting entry.node dial task call

theorem Change.settles (change : Change kept starting before after) (orderly : before.Orderly)
    {profile : Profile} (awaits : awaitsDial call number dial.number = true)
    (settles : before.Settles number profile dial task call) :
    after.Settles number profile dial task call := by
  obtain ⟨entry, found, closed, same, awaiting⟩ := settles
  obtain ⟨later, there, -, onward⟩ := change.onward found
  obtain ⟨still, profile⟩ := onward.closed orderly found closed
  have here : after.node? number = some later.node := by rw [node?, there, Option.map_some]
  exact ⟨later, there, still, profile.trans same,
    change.awaiting orderly found closed awaits here onward awaiting⟩

theorem closes_course (orderly : mesh.Orderly) {profile : Profile}
    (closes : mesh.Closes number profile) (moves : List Move) :
    (mesh.course moves).Orderly ∧ (mesh.course moves).Closes number profile :=
  (changes_course_any orderly moves).induction (fun change orderly => change.closes orderly) orderly
    closes

theorem settles_course (orderly : mesh.Orderly) {profile : Profile}
    (awaits : awaitsDial call number dial.number = true)
    (settles : mesh.Settles number profile dial task call) (moves : List Move) :
    (mesh.course moves).Orderly ∧ (mesh.course moves).Settles number profile dial task call :=
  (changes_course_any orderly moves).induction (fun change orderly => change.settles orderly awaits)
    orderly settles

/-- A dial does not outlast its deadline: the time-out ends it, and the call that awaits it is told.
-/
theorem told_of_timedOut {owner : Node} (there : mesh.node? number = some owner)
    (search : owner.dial? dial.number = some dial) (awaits : awaitsDial call number dial.number = true)
    (asked : mesh.tasks[task]? = some ⟨call, none⟩) (due : dial.deadline ≤ mesh.now) :
    (mesh.perform (.proceeds (.dialTimedOut number dial.number))).tasks[task]? =
      some ⟨call, some (dialAnswer call
        (.error (.dialTimeout dial.address owner.profile.connectTimeout)))⟩ := by
  have underWay : mesh.dial? number dial.number = some dial := by
    rw [dial?, there, Option.bind_some, search]
  simp only [perform, step, underWay, there, due, if_true, failDial]
  rw [getElem?_reportDial]
  simp [updateNode, asked, awaits]

/-- Either the call has been told an error with which the dial ended, or the dial is under way. -/
theorem Awaiting.outcome {first owner : Node} (awaiting : mesh.Awaiting owner dial task call)
    (sound : owner.ledger.Sound) (there : mesh.node? number = some owner)
    (awaits : awaitsDial call number dial.number = true) (same : first.profile = owner.profile) :
    (mesh.dial? number dial.number = none ∧
      ∃ error, (error = .shutDown ∨ DialError first dial error) ∧
        mesh.tasks[task]? = some ⟨call, some (dialAnswer call (.error error))⟩) ∨
    (mesh.dial? number dial.number = some dial ∧ mesh.tasks[task]? = some ⟨call, none⟩ ∧
      (dial.deadline ≤ mesh.now → ∃ error, DialError first dial error ∧
        (mesh.perform (.proceeds (.dialTimedOut number dial.number))).tasks[task]? =
          some ⟨call, some (dialAnswer call (.error error))⟩)) := by
  have search : mesh.dial? number dial.number = owner.dial? dial.number := by
    rw [dial?, there, Option.bind_some]
  rw [search]
  cases awaiting with
  | told error late answered gone =>
      left
      exact ⟨gone, error, late.imp_right fun own => own.of_profile same, answered⟩
  | underWay asked dialing =>
      have under := Node.dial?_of_mem sound dialing
      right
      refine ⟨under, asked, ?_⟩
      intro due
      exact ⟨_, DialError.timedOut.of_profile same, told_of_timedOut there under awaits asked due⟩

/-! ## What an emptied node answers -/

theorem rejected_of_emptied (found : mesh.nodes[number]? = some entry)
    (emptied : entry.node.Emptied) (peer : Option String) (address : SocketAddress) :
    ∃ reason, (mesh.requestPeering number peer address).2 = some (.rejected reason) := by
  obtain ⟨reason, rejected⟩ := emptied.rejected (mesh.surroundings entry) peer address mesh.now
    mesh.moment
  refine ⟨reason, ?_⟩
  rw [requestPeering, stepNode_of_found found, rejected]

theorem identify_of_emptied (found : mesh.nodes[number]? = some entry)
    (emptied : entry.node.Emptied) (slot : Slot) (name : String) :
    (mesh.identify number slot name).2 = some (.error (.unknownConnection slot)) := by
  rw [identify, stepNode_of_found found, emptied.identify]

theorem send_of_emptied (found : mesh.nodes[number]? = some entry)
    (emptied : entry.node.Emptied) (slot : Slot) (bytes : Bytes) :
    (mesh.send number slot bytes).2 = some (.error (.unknownConnection slot)) := by
  rw [send, stepNode_of_found found, emptied.send]

theorem not_mem_openNodes_of_closed {owner : Node} (there : mesh.node? number = some owner)
    (closed : owner.closed = true) (context : Nat) : number ∉ mesh.openNodes context := by
  intro listed
  have isOpen := (List.mem_filter.mp listed).2
  simp [there, closed] at isOpen

/-- Once the table of a node is closed, whatever happens later, the node is empty, declines every
request, knows no connection, and is not among the nodes of any context. Each call that waited for a
dial in flight has been told that the node is shut down or the dial's own error, or it waits still,
until the time-out ends the dial at the latest. -/
theorem emptied_for_good (host : List Interface) (workingDirectory : String) (disk : Files.Disk)
    (past later : List Move) {number : Nat} {entry : NodeEntry}
    (found : ((initial host workingDirectory disk).course past).nodes[number]? = some entry)
    (closed : entry.node.table.closed = true) :
    let mesh := (initial host workingDirectory disk).course past
    let reached := mesh.course later
    (∃ still, reached.nodes[number]? = some still ∧ still.node.Emptied) ∧
    (∀ peer address, ∃ reason,
      (reached.requestPeering number peer address).2 = some (.rejected reason)) ∧
    (∀ slot name,
      (reached.identify number slot name).2 = some (.error (.unknownConnection slot))) ∧
    (∀ slot bytes, (reached.send number slot bytes).2 = some (.error (.unknownConnection slot))) ∧
    (∀ context, number ∉ reached.openNodes context) ∧
    ∀ dial ∈ entry.node.dials, ∀ (task : Nat) (call : Call),
      awaitsDial call number dial.number = true → mesh.tasks[task]? = some ⟨call, none⟩ →
      (reached.dial? number dial.number = none ∧
        ∃ error, (error = .shutDown ∨ DialError entry.node dial error) ∧
          reached.tasks[task]? = some ⟨call, some (dialAnswer call (.error error))⟩) ∨
      (reached.dial? number dial.number = some dial ∧
        reached.tasks[task]? = some ⟨call, none⟩ ∧
        (dial.deadline ≤ reached.now → ∃ error, DialError entry.node dial error ∧
          (reached.perform (.proceeds (.dialTimedOut number dial.number))).tasks[task]? =
            some ⟨call, some (dialAnswer call (.error error))⟩)) := by
  intro mesh reached
  have orderly : mesh.Orderly := orderly_course host workingDirectory disk past
  obtain ⟨orderlyNow, still, there, stillClosed, -⟩ :=
    closes_course orderly ⟨entry, found, closed, rfl⟩ later
  have emptied : still.node.Emptied := orderlyNow.emptied there stillClosed
  have here : reached.node? number = some still.node := by
    rw [node?, there, Option.map_some]
  refine ⟨⟨still, there, emptied⟩, rejected_of_emptied there emptied,
    identify_of_emptied there emptied, send_of_emptied there emptied,
    not_mem_openNodes_of_closed here emptied.closed, ?_⟩
  intro dial dialing task call awaits asked
  obtain ⟨-, same, sameThere, -, profile, awaiting⟩ :=
    settles_course orderly awaits ⟨entry, found, closed, rfl, .underWay asked dialing⟩ later
  rw [there] at sameThere
  cases sameThere
  obtain ⟨context, -, reachedNode⟩ := orderlyNow.followed number still there
  exact awaiting.outcome reachedNode.sound here awaits profile.symm

/-- A node has accepted a connection and dials an address when it is closed. -/
def closedWhileDialing : List Move :=
  [.addsContext "m" (some .empty) false, .starts ⟨.withPort 5000, 0, none, true, false⟩,
    .calls 0 (.requests none (.v4 ⟨192, 0, 2, 1⟩ 40000)), .calls 0 (.awaitsDial 0), .opensStream,
    .arrives 0 0 (.connection (.v4 ⟨192, 0, 2, 2⟩ 40000) ⟨0, .callee⟩),
    .proceeds (.accepted 0 0), .calls 0 .closes, .proceeds (.permitGranted 0),
    .proceeds (.listenerStopped 0 0), .proceeds (.teardownFinished 0)]

theorem emptied_for_good_lateDial :
    let mesh := (initial [] "/" .empty).course closedWhileDialing
    let reached := mesh.course [.connectsDial 0 0, .proceeds (.linkClosed 0 ⟨1⟩)]
    (mesh.dial? 0 0).isSome = true ∧ mesh.tasks[0]? = some ⟨.awaitDial 0 0, none⟩ ∧
      (∃ still, reached.nodes[0]? = some still ∧ still.node.Emptied) ∧
      reached.dial? 0 0 = none ∧
      ∃ error, reached.tasks[0]? = some ⟨.awaitDial 0 0, some (.failed error)⟩ := by
  intro mesh reached
  have asked : mesh.tasks[0]? = some ⟨.awaitDial 0 0, none⟩ := by decide +kernel
  have gone : reached.dial? 0 0 = none := by decide +kernel
  have facts : (mesh.nodes[0]?).map (fun entry => (entry.node.table.closed, entry.node.dials)) =
      some (true, [⟨0, none, .v4 ⟨192, 0, 2, 1⟩ 40000, 30000⟩]) := by decide +kernel
  obtain ⟨entry, found, same⟩ := Option.map_eq_some_iff.mp facts
  obtain ⟨closed, dials⟩ := Prod.mk.inj same
  obtain ⟨emptied, -, -, -, -, settled⟩ := emptied_for_good [] "/" .empty closedWhileDialing
    [.connectsDial 0 0, .proceeds (.linkClosed 0 ⟨1⟩)] found closed
  refine ⟨by decide +kernel, asked, emptied, gone, ?_⟩
  have dialing : ⟨0, none, .v4 ⟨192, 0, 2, 1⟩ 40000, 30000⟩ ∈ entry.node.dials := by
    rw [dials]
    exact List.mem_cons_self
  cases settled _ dialing 0 (.awaitDial 0 0) (by decide) asked with
  | inl told =>
      obtain ⟨-, error, -, told⟩ := told
      exact ⟨error, told⟩
  | inr waiting =>
      rw [gone] at waiting
      cases waiting.1

end Mesh

end PeerMesh
