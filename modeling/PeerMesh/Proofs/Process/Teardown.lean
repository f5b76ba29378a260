import PeerMesh.Proofs.Process.Emptied
import PeerMesh.Proofs.Process.Ongoing

/-!
# One teardown for the exit hook and the application

The signal to exit and any number of calls to close may come in any order, and whoever gets the
permit first leads the teardown of the node. It goes on by itself: a listener that pauses looks up
when its pause is over, and when all have stopped the teardown ends. A call to close knows its answer
from the node's callers, so none returns before that.

A start sends the hook about its work before it stores it. So the teardown may end while the hook is
not stored yet, and then finds none to dispose of; the start stores it afterwards, and it stays.
-/

set_option autoImplicit false

namespace PeerMesh

open Node (Act Situation)
open Shutdown (Caller)

namespace Node.Situation

theorem presided_of_initial {start : Situation} (initial : start.Initial) :
    start.node.Presided none := by
  obtain ⟨profile, request, moment, fresh⟩ := initial
  rw [fresh]
  exact ⟨⟨[], Shutdown.Coordinator.led_initial⟩, nofun, by simp [Mesh.freshNode], nofun⟩

theorem Reached.presided {situation : Situation} (reached : situation.Reached) :
    ∃ lead, situation.node.Presided lead := by
  obtain ⟨start, acts, initial, rfl⟩ := reached
  apply run_induction (fun situation => ∃ lead, situation.node.Presided lead)
  · intro before act presided
    obtain ⟨lead, presided⟩ := presided
    exact presided.step act
  · exact ⟨none, presided_of_initial initial⟩

theorem listenersStopped_updateListener {node : Node} (position : Nat)
    {change : Listener → Listener}
    (steady : ∀ listener, listener.stopped = true → (change listener).stopped = true)
    (stopped : node.listenersStopped = true) :
    (node.updateListener position change).listenersStopped = true := by
  apply List.all_eq_true.mpr
  intro listener member
  obtain ⟨other, found⟩ := List.mem_iff_getElem?.mp member
  simp only [updateListener, List.getElem?_modify] at found
  obtain ⟨earlier, there, rfl⟩ := Option.map_eq_some_iff.mp found
  have stoppedThere := List.all_eq_true.mp stopped earlier (List.mem_of_getElem? there)
  split
  · exact steady earlier stoppedThere
  · exact stoppedThere

theorem listenersStopped_step {before : Situation} {act : Act} (steady : Mesh.Steady act)
    (stopped : before.node.listenersStopped = true) :
    (before.step act).node.listenersStopped = true := by
  have same : ∀ {later : Node}, later.listeners = before.node.listeners →
      later.listenersStopped = true := by
    intro later listeners
    rwa [listenersStopped, listeners]
  cases inner : act.concernsFrame with
  | false => exact same (congrArg (·.2.1) (before.frame_step inner))
  | true =>
      cases act with
      | asksClose | grantsPermit => exact stopped
      | finishesTeardown =>
          simp only [step]
          split
          · exact same (congrArg (·.2.1) (frame_finishTeardown before.node))
          · exact stopped
      | firesExit =>
          simp only [step, hearExit]
          split
          · split <;> exact stopped
          · exact stopped
      | storesHook => exact stopped
      | changesListener position change =>
          exact listenersStopped_updateListener position (steady position change rfl) stopped
      | _ => cases inner

end Node.Situation

namespace Mesh

variable {mesh before after : Mesh} {kept starting : Nat → Prop} {number : Nat} {entry : NodeEntry}

/-! ## What calls to close are told -/

/-- What holds of teardowns in a process: the listeners of a closed node have stopped, and a call to
close has the answer that the node's callers have for it. -/
structure Concluded (mesh : Mesh) : Prop where
  stopped : ∀ (number : Nat) (entry : NodeEntry), mesh.nodes[number]? = some entry →
    entry.node.closed = true → entry.node.listenersStopped = true
  answered : ∀ (task number : Nat) (answer : Answer),
    mesh.tasks[task]? = some ⟨.close number, some answer⟩ →
    ∃ owner performed, mesh.node? number = some owner ∧ answer = .flag performed ∧
      ⟨.application task, .returned performed⟩ ∈ owner.closers.callers

/-- A call to close that is new has no answer yet. -/
theorem Change.unanswered (change : Change kept starting before after) {task target : Nat}
    {answer : Option Answer} (absent : before.tasks[task]? = none)
    (found : after.tasks[task]? = some ⟨.close target, answer⟩) : answer = none := by
  have same : after.tasks = before.tasks → answer = none := by
    intro same
    rw [same, absent] at found
    cases found
  have reported : ∀ {node dial : Nat} {outcome : Except MeshError Slot},
      after.tasks = (before.reportDial node dial outcome).tasks → answer = none := by
    intro node dial outcome tasks
    rw [tasks, getElem?_reportDial, absent] at found
    cases found
  cases change with
  | aside _ _ tells =>
      cases answer with
      | none => rfl
      | some answer =>
          obtain ⟨node, dial, other, -⟩ := (tells.added task _ absent found).2 answer rfl
          cases other
  | acts _ _ _ _ _ _ _ _ _ _ _ reports =>
      cases reports with
      | silent _ tasks => exact same tasks
      | failed _ _ tasks => exact reported tasks
      | connected _ _ tasks => exact reported tasks
  | shared _ _ _ _ _ _ _ _ _ tasks => exact same tasks
  | launched _ _ _ _ _ _ _ tasks => exact same tasks
  | letGo _ _ _ tasks => exact same tasks

theorem Change.returned (change : Change kept starting before after) {owner : Node}
    (there : before.node? number = some owner) {caller : Closer} {performed : Bool}
    (member : ⟨caller, .returned performed⟩ ∈ owner.closers.callers) :
    ∃ later, after.node? number = some later ∧
      ⟨caller, .returned performed⟩ ∈ later.closers.callers := by
  obtain ⟨entry, found, rfl⟩ := found_of_node? there
  obtain ⟨later, still, -, onward⟩ := change.onward found
  refine ⟨later.node, by rw [node?, still, Option.map_some], ?_⟩
  generalize later.node = stepped at onward
  cases onward with
  | stayed => exact member
  | acted => exact Node.mem_returned_step _ member

theorem Change.listenersStopped (change : Change kept starting before after) {later : NodeEntry}
    (concluded : before.Concluded) (found : after.nodes[number]? = some later)
    (closed : later.node.closed = true) : later.node.listenersStopped = true := by
  cases change.origin found with
  | stayed earlier there node =>
      rw [node] at closed ⊢
      exact concluded.stopped number earlier there closed
  | acted earlier context act there _ _ _ steady _ same =>
      subst same
      by_cases teardown : act = .finishesTeardown
      · -- the act sets the mark only when the listeners have stopped
        subst teardown
        have wasStopped : earlier.node.listenersStopped = true := by
          simp only [Situation.step] at closed
          split at closed
          · rename_i ready
            exact ((Bool.and_eq_true _ _).mp ready).2
          · exact concluded.stopped number earlier there closed
        exact Situation.listenersStopped_step steady wasStopped
      · rw [Situation.closed_mark_step _ teardown] at closed
        exact Situation.listenersStopped_step steady
          (concluded.stopped number earlier there closed)
  | launched context _ _ _ fresh =>
      obtain ⟨profile, request, moment, same⟩ := fresh
      dsimp only at same
      rw [same] at closed
      cases closed

theorem Change.concluded (change : Change kept starting before after) (concluded : before.Concluded) :
    after.Concluded where
  stopped := fun _ _ found closed => change.listenersStopped concluded found closed
  answered := by
    intro task number answer found
    cases earlier : before.tasks[task]? with
    | none => cases change.unanswered earlier found
    | some old =>
        obtain ⟨later, same, fate⟩ := change.fate earlier
        rw [found] at same
        cases same
        cases fate with
        | ended awaits =>
            rw [awaitsDial_iff] at awaits
            simp at awaits
        | told told =>
            cases told with
            | kept =>
                obtain ⟨owner, performed, there, flag, member⟩ :=
                  concluded.answered task number answer earlier
                obtain ⟨next, still, kept⟩ := change.returned there member
                exact ⟨next, performed, still, flag, kept⟩
            | answered there member =>
                obtain ⟨next, still, kept⟩ := change.returned there member
                exact ⟨next, _, still, rfl, kept⟩

theorem Orderly.presided (orderly : mesh.Orderly) (found : mesh.nodes[number]? = some entry) :
    ∃ lead, entry.node.Presided lead := by
  obtain ⟨context, known, reached⟩ := orderly.followed number entry found
  exact reached.presided

theorem Concluded.returned (concluded : mesh.Concluded) {owner : Node} {task : Nat}
    {answer : Answer} (there : mesh.node? number = some owner)
    (told : mesh.tasks[task]? = some ⟨.close number, some answer⟩) :
    ∃ performed, answer = .flag performed ∧
      ⟨.application task, .returned performed⟩ ∈ owner.closers.callers := by
  obtain ⟨other, performed, same, flag, member⟩ := concluded.answered task number answer told
  rw [there] at same
  cases same
  exact ⟨performed, flag, member⟩

theorem Concluded.performed (concluded : mesh.Concluded) {owner : Node} {task : Nat}
    (there : mesh.node? number = some owner)
    (told : mesh.tasks[task]? = some ⟨.close number, some (.flag true)⟩) :
    ⟨.application task, .returned true⟩ ∈ owner.closers.callers := by
  obtain ⟨performed, flag, member⟩ := concluded.returned there told
  cases flag
  exact member

theorem concluded_course (host : List Interface) (workingDirectory : String) (disk : Files.Disk)
    (moves : List Move) : ((initial host workingDirectory disk).course moves).Concluded := by
  have start : (initial host workingDirectory disk).Concluded := by
    constructor
    · rintro number entry ⟨⟩
    · rintro task number answer ⟨⟩
  have orderly := orderly_initial host workingDirectory disk
  exact ((changes_course_any orderly moves).induction (fun change _ => change.concluded) orderly
    start).2

/-! ## The teardown goes on by itself -/

/-- The move is one that the process makes by itself, without a connection, or time passes. -/
def Move.isOwn : Move → Bool
  | .passes _ _ => true
  | .proceeds event => (Move.pumps? (.proceeds event)).isNone
  | _ => false

theorem course_append (mesh : Mesh) (first second : List Move) :
    mesh.course (first ++ second) = (mesh.course first).course second :=
  List.foldl_append

theorem node?_updateNode {owner : Node} (there : mesh.node? number = some owner)
    (change : Node → Node) : (mesh.updateNode number change).node? number = some (change owner) := by
  obtain ⟨entry, found, rfl⟩ := found_of_node? there
  obtain ⟨bound, -⟩ := List.getElem?_eq_some_iff.mp found
  rw [node?, nodes_updateNode found, List.getElem?_set_self bound, Option.map_some]

theorem node?_stopListener {owner : Node} (there : mesh.node? number = some owner)
    (stopping : owner.stopping = true) {position : Nat} {listener : Listener}
    (listens : owner.listeners[position]? = some listener) (listening : listener.stopped = false)
    (awake : listener.pausedUntil = none) :
    (mesh.stopListener number position).node? number =
      some (owner.updateListener position fun listener =>
        { listener with queue := [], stopped := true }) := by
  have found : mesh.listener? number position = some listener := by
    rw [listener?, there, Option.bind_some, listens]
  have dropped : (mesh.dropArrivals listener.queue).node? number = some owner := by
    rw [node?, (mesh.dropArrivals_spec listener.queue).1]
    exact there
  simp only [stopListener, there, found, stopping, listening, awake, Bool.not_false,
    Option.isNone_none, Bool.and_self, if_true]
  exact node?_updateNode dropped _

theorem node?_pauseEnded {owner : Node} (there : mesh.node? number = some owner)
    (stopping : owner.stopping = true) {position : Nat} {listener : Listener}
    (listens : owner.listeners[position]? = some listener) (listening : listener.stopped = false)
    {due : Nat} (paused : listener.pausedUntil = some due) (passed : due ≤ mesh.now) :
    (mesh.step (.pauseEnded number position)).node? number =
      some (owner.updateListener position fun listener =>
        { listener with queue := [], pausedUntil := none, stopped := true }) := by
  let wakes : Listener → Listener := fun listener => { listener with pausedUntil := none }
  have woken := node?_updateNode there fun node => node.updateListener position wakes
  have listensStill : (owner.updateListener position wakes).listeners[position]? =
      some (wakes listener) := by
    rw [Node.updateListener, List.getElem?_modify_eq, listens]
    rfl
  have halted := node?_stopListener woken stopping listensStill listening rfl
  have due : ((mesh.listener? number position).bind (·.pausedUntil)).any (· ≤ mesh.now) = true := by
    rw [listener?, there, Option.bind_some, listens, Option.bind_some, paused]
    simpa using passed
  simp only [step, due, if_true]
  rw [halted]
  simp only [Node.updateListener, List.modify_modify_eq]
  rfl

/-- How far a teardown has come with its listeners: those at the first positions have stopped. -/
structure Halting (mesh : Mesh) (number count : Nat) (owner : Node) : Prop where
  there : mesh.node? number = some owner
  stopping : owner.stopping = true
  running : owner.closers.running?.isSome = true
  stopped : ∀ position < count, ∀ listener, owner.listeners[position]? = some listener →
    listener.stopped = true

theorem Halting.stop {count : Nat} {owner : Node} (halting : mesh.Halting number count owner)
    {moves : List Move} {change : Listener → Listener}
    (there : (mesh.course moves).node? number = some (owner.updateListener count change))
    (stops : ∀ listener, (change listener).stopped = true) :
    (mesh.course moves).Halting number (count + 1) (owner.updateListener count change) where
  there := there
  stopping := halting.stopping
  running := halting.running
  stopped := by
    intro position bound listener found
    rw [Node.updateListener, List.getElem?_modify] at found
    obtain ⟨earlier, listens, rfl⟩ := Option.map_eq_some_iff.mp found
    by_cases here : count = position
    · rw [if_pos here]
      exact stops earlier
    · rw [if_neg here]
      exact halting.stopped position (by omega) earlier listens

/-- The next listener stops, once its pause is over if it pauses. -/
theorem Halting.succ {count : Nat} {owner : Node} (halting : mesh.Halting number count owner) :
    ∃ moves later, (∀ move ∈ moves, move.isOwn = true) ∧
      (mesh.course moves).Halting number (count + 1) later ∧
      later.listeners.length = owner.listeners.length := by
  by_cases done : ∀ listener, owner.listeners[count]? = some listener → listener.stopped = true
  · -- the listener has stopped before, and no move is needed
    refine ⟨[], owner, nofun, ?_, rfl⟩
    refine ⟨halting.there, halting.stopping, halting.running, ?_⟩
    intro position bound listener found
    by_cases here : position = count
    · subst here
      exact done listener found
    · exact halting.stopped position (by omega) listener found
  · rw [not_forall] at done
    obtain ⟨listener, unstopped⟩ := done
    rw [Classical.not_imp, Bool.not_eq_true] at unstopped
    obtain ⟨listens, listening⟩ := unstopped
    cases paused : listener.pausedUntil with
    | none =>
        have stopped := node?_stopListener halting.there halting.stopping listens listening paused
        refine ⟨[.proceeds (.listenerStopped number count)], _, by simp [Move.isOwn, Move.pumps?],
          halting.stop stopped fun _ => rfl, ?_⟩
        exact List.length_modify _ _ _
    | some due =>
        -- waiting as long as the deadline is late is more than enough
        have later : (mesh.perform (.passes due 0)).node? number = some owner := halting.there
        have passed : due ≤ (mesh.perform (.passes due 0)).now := Nat.le_add_left due mesh.now
        have stopped := node?_pauseEnded later halting.stopping listens listening paused passed
        refine ⟨[.passes due 0, .proceeds (.pauseEnded number count)], _,
          by simp [Move.isOwn, Move.pumps?], halting.stop stopped fun _ => rfl, ?_⟩
        exact List.length_modify _ _ _

/-- A listener that has stopped takes nothing any more. -/
theorem step_accepted_of_stopped {owner : Node} (there : mesh.node? number = some owner)
    (stopped : owner.listenersStopped = true) (position : Nat) :
    mesh.step (.accepted number position) = mesh := by
  have search : mesh.listener? number position = owner.listeners[position]? := by
    rw [listener?, there, Option.bind_some]
  cases listens : owner.listeners[position]? with
  | none => simp only [step, acceptNext, stopListener, there, search, listens, Option.bind_none]
  | some listener =>
      have here := List.all_eq_true.mp stopped listener (List.mem_of_getElem? listens)
      simp [step, acceptNext, stopListener, there, search, listens, here]

theorem fireExit_of_unhooked {owner : Node} (there : mesh.node? number = some owner)
    (unhooked : owner.hook = none) : (mesh.fireExit number).1 = mesh := by
  obtain ⟨entry, found, rfl⟩ := found_of_node? there
  have silent : entry.node.fireExit = (entry.node, false) := by
    rw [Node.fireExit, unhooked]
    rfl
  have unchanged : (mesh.updateNode number fun _ => entry.node) = mesh :=
    updateNode_of_fixed there rfl
  rw [fireExit, stepNode_of_found found, silent]
  exact unchanged

theorem perform_firesExit_of_unhooked {owner : Node} (there : mesh.node? number = some owner)
    (unhooked : owner.hook = none) : mesh.perform (.calls number .firesExit) = mesh := by
  simp only [perform, performCall, fireExit_of_unhooked there unhooked, ite_self]

theorem step_interrupted_of_unhooked {owner : Node} (there : mesh.node? number = some owner)
    (unhooked : owner.hook = none) : mesh.step (.interrupted number) = mesh := by
  have silent : owner.interrupt = owner := by
    rw [Node.interrupt, Node.hearExit, unhooked]
    rfl
  simp only [step, updateNode_of_fixed there silent, ite_self]

theorem told_of_closedNoticed {owner : Node} (there : mesh.node? number = some owner)
    (closed : owner.closed = true) {task : Nat}
    (asked : mesh.tasks[task]? = some ⟨.waitClosed number, none⟩) :
    (mesh.step (.closedNoticed task)).tasks[task]? = some ⟨.waitClosed number, some .closed⟩ := by
  simp [step, closedNoticed, asked, there, closed, answerTask, List.getElem?_modify_eq]

/-! ## The hook at the end of the teardown -/

theorem Onward.ends {later : Node} (onward : Onward (fun _ => False) before after number entry later)
    (orderly : before.Orderly) (found : before.nodes[number]? = some entry) :
    entry.node.Ends later := by
  cases onward with
  | stayed => exact .refl entry.node
  | @acted context act known steady reports =>
      obtain ⟨lead, presided⟩ := orderly.presided found
      have stores : ∀ hook, act ≠ .storesHook hook := by
        rintro hook rfl
        cases reports with
        | silent _ _ asks => exact asks.stores hook rfl
      have ends : (Situation.mk entry.node context.sessions).node.Ends _ := presided.ends stores
      exact ends

/-- The node is there, and of its hook has become what becomes of it unless a start stores it. -/
def Follows (mesh : Mesh) (number : Nat) (node : Node) : Prop :=
  ∃ later, mesh.node? number = some later ∧ node.Ends later

theorem Change.follows (change : Change kept (fun _ => False) before after)
    (orderly : before.Orderly) {node : Node} (follows : before.Follows number node) :
    after.Follows number node := by
  obtain ⟨between, there, ends⟩ := follows
  obtain ⟨entry, found, rfl⟩ := found_of_node? there
  obtain ⟨later, foundAfter, -, onward⟩ := change.onward found
  exact ⟨later.node, node?_of_found foundAfter, ends.trans (onward.ends orderly found)⟩

theorem Changes.follows (changes : Changes kept (fun _ => False) before after)
    (orderly : before.Orderly) {node : Node} (there : before.node? number = some node) :
    after.Follows number node :=
  (changes.induction (fun change orderly => change.follows orderly) orderly
    ⟨node, there, .refl node⟩).2

theorem node?_of_nodes (same : after.nodes = before.nodes) (number : Nat) :
    after.node? number = before.node? number := by
  rw [node?, node?, same]

end Mesh

/-! ## The hook of a node that is starting -/

namespace Ongoing

open Mesh (Move)

variable {ongoing after : Ongoing} {turn : Turn} {number : Nat} {node : Node}

/-- The hook of a node is at work and not stored yet. -/
def Unstored (ongoing : Ongoing) (node : Nat) : Prop :=
  ∃ hook, ongoing.stage node = some (.storesHook hook)

theorem follows_updateNode {mesh : Mesh} (there : mesh.node? number = some node) {target : Nat}
    {change : Node → Node} (ends : target = number → ∀ node : Node, node.Ends (change node)) :
    (mesh.updateNode target change).Follows number node := by
  obtain ⟨entry, found, rfl⟩ := Mesh.found_of_node? there
  rw [Mesh.Follows, Mesh.node?, Mesh.updateNode, List.getElem?_modify, found]
  by_cases here : target = number
  · exact ⟨change entry.node, by simp [here], ends here entry.node⟩
  · exact ⟨entry.node, by simp [here], .refl entry.node⟩

/-- A turn that does not store the hook of a node does to it what any end does. -/
theorem Takes.follows (takes : ongoing.Takes turn after) (orderly : ongoing.mesh.Orderly)
    (there : ongoing.mesh.node? number = some node)
    (apart : turn = .goesOn number → ¬ ongoing.Unstored number) :
    after.mesh.Follows number node := by
  have stays : ∀ {mesh : Mesh}, mesh.nodes = ongoing.mesh.nodes → mesh.Follows number node :=
    fun same => ⟨node, (Mesh.node?_of_nodes same number).trans there, .refl node⟩
  cases takes with
  | idle => exact stays rfl
  | moved move =>
      have changes : Mesh.Changes (fun _ => False) (fun _ => False) ongoing.mesh
          (ongoing.mesh.perform move) := Mesh.changes_perform orderly fun _ _ _ => id
      exact changes.follows orderly there
  | declined _ prepared => exact stays (nodes_of_prepared prepared)
  | began request prepared =>
      obtain ⟨entry, found, rfl⟩ := Mesh.found_of_node? there
      rw [← nodes_of_prepared prepared] at found
      exact ⟨entry.node, Mesh.node?_of_found (Mesh.getElem?_enlist request _ found),
        .refl entry.node⟩
  | @wentOn target stage reached =>
      cases stage with
      | storesHook hook =>
          refine follows_updateNode there ?_
          rintro rfl
          exact absurd ⟨hook, reached⟩ (apart rfl)
      | registers | opensPaths | joins => exact stays (Mesh.nodes_takeStage _ _ nofun)
  | signaled | took => exact follows_updateNode there fun _ _ => .of_same rfl rfl
  | wrote => exact stays rfl
  | @failed target slot link =>
      have dropped : (ongoing.mesh.dropEndpoint link.socket).node? number = some node := there
      exact follows_updateNode dropped fun _ node => .of_frame (Node.frame_linkEnded node link.slot)

theorem Takes.unstored_iff (takes : ongoing.Takes turn after)
    (there : ongoing.mesh.node? number = some node)
    (apart : turn = .goesOn number → ¬ ongoing.Unstored number) :
    after.Unstored number ↔ ongoing.Unstored number := by
  have updated : ∀ {target : Nat} {stage : Option Stage} {mesh : Mesh},
      (number = target → ((∃ hook, stage = some (.storesHook hook)) ↔ ongoing.Unstored number)) →
      (Unstored { ongoing with
        mesh, stage := Function.update ongoing.stage target stage } number ↔
          ongoing.Unstored number) := by
    intro target stage mesh here
    change (∃ hook, Function.update ongoing.stage target stage number = _) ↔ _
    by_cases same : number = target
    · subst same
      rw [Function.update_self]
      exact here rfl
    · rw [Function.update_of_ne same]
      exact Iff.rfl
  cases takes with
  | began request prepared =>
      obtain ⟨entry, found, rfl⟩ := Mesh.found_of_node? there
      obtain ⟨bound, -⟩ := List.getElem?_eq_some_iff.mp found
      rw [← nodes_of_prepared prepared] at bound
      exact updated fun same => absurd same (Nat.ne_of_lt bound)
  | @wentOn target stage reached =>
      refine updated ?_
      rintro rfl
      have stored := apart rfl
      refine iff_of_false ?_ stored
      rintro ⟨hook, next⟩
      cases stage <;> cases next
  | signaled target reached => exact updated fun same => iff_of_true ⟨_, rfl⟩ ⟨_, same ▸ reached⟩
  | _ => exact Iff.rfl

theorem closed_storesHook (takes : ongoing.Takes (.goesOn number) after)
    (there : ongoing.mesh.node? number = some node) {hook : ExitHook}
    (reached : ongoing.stage number = some (.storesHook hook)) :
    after = ongoing ∨
      after.mesh.node? number = some (node.storeHook hook) ∧ ¬ after.Unstored number := by
  cases takes with
  | idle => exact .inl rfl
  | wentOn _ same =>
      rw [reached] at same
      cases same
      refine .inr ⟨Mesh.node?_updateNode there _, ?_⟩
      rintro ⟨other, next⟩
      change Function.update ongoing.stage number _ number = _ at next
      rw [Function.update_self] at next
      cases next

/-- The node is closed, and has a hook exactly if the hook was unstored when the teardown ended and
has been stored since. -/
structure Closed (ongoing : Ongoing) (number : Nat) (unstored : Prop) : Prop where
  closed : ∃ node, ongoing.mesh.node? number = some node ∧ node.closed = true ∧
    (node.hook.isSome = true ↔ unstored ∧ ¬ ongoing.Unstored number)
  unstored : ongoing.Unstored number → unstored

theorem Closed.stays {unstored : Prop} (closed : ongoing.Closed number unstored)
    (orderly : ongoing.mesh.Orderly) (turn : Turn) : (ongoing.turn turn).Closed number unstored := by
  have takes := ongoing.takes_turn turn
  obtain ⟨⟨node, there, isClosed, hooked⟩, atEnd⟩ := closed
  by_cases stores : turn = .goesOn number ∧ ongoing.Unstored number
  · obtain ⟨rfl, hook, reached⟩ := stores
    rcases closed_storesHook takes there reached with same | ⟨stored, settled⟩
    · rw [same]
      exact ⟨⟨node, there, isClosed, hooked⟩, atEnd⟩
    · exact ⟨⟨_, stored, isClosed, iff_of_true rfl ⟨atEnd ⟨hook, reached⟩, settled⟩⟩,
        fun still => absurd still settled⟩
  · rw [not_and] at stores
    obtain ⟨later, thereAfter, ends⟩ := takes.follows orderly there stores
    obtain ⟨closedAfter, hookAfter⟩ := ends.ended isClosed
    have same := takes.unstored_iff there stores
    exact ⟨⟨later, thereAfter, closedAfter, by rw [hookAfter, same]; exact hooked⟩,
      fun still => atEnd (same.mp still)⟩

theorem Closed.course {unstored : Prop} (closed : ongoing.Closed number unstored)
    (orderly : ongoing.mesh.Orderly) (turns : List Turn) :
    (ongoing.course turns).Closed number unstored := by
  induction turns generalizing ongoing with
  | nil => exact closed
  | cons turn rest ih =>
      have changes := (ongoing.takes_turn turn).changes orderly (Turn.keeps_none turn)
      exact ih (closed.stays orderly turn) (changes.orderly orderly)

/-! ## One teardown -/

theorem concluded_course (host : List Interface) (workingDirectory : String) (disk : Files.Disk)
    (turns : List Turn) :
    ((initial host workingDirectory disk).course turns).mesh.Concluded := by
  have start : (initial host workingDirectory disk).mesh.Concluded :=
    Mesh.concluded_course host workingDirectory disk []
  exact (course_induction (fun change _ => change.concluded)
    (Mesh.orderly_initial host workingDirectory disk) start
    fun turn _ => Turn.keeps_none turn).2

theorem turn_signals_of_stored (stored : ¬ ongoing.Unstored number) :
    ongoing.turn (.signals number) = ongoing := by
  simp only [Ongoing.turn, signal]
  split
  · rename_i hook reached
    exact absurd ⟨hook, reached⟩ stored
  · rfl

/-- A move that changes nothing is a turn that changes nothing. -/
theorem turn_moves_of_fixed {move : Move} (fixed : ongoing.mesh.perform move = ongoing.mesh) :
    ongoing.turn (.moves move) = ongoing := by
  simp only [Ongoing.turn, fixed, ite_self]

/-- What holds of a node from the end of its teardown on. -/
structure Over (ongoing : Ongoing) (number : Nat) (unstored : Prop) : Prop where
  closed : (ongoing.mesh.node? number).any (·.closed) = true
  /-- There is a hook only if it was stored afterwards. -/
  hook : (ongoing.mesh.node? number).any (·.hasExitHook) = true ↔
    unstored ∧ ¬ ongoing.Unstored number
  listeners : ∀ position,
    ongoing.turn (.moves (.proceeds (.accepted number position))) = ongoing
  waiters : ∀ task : Nat, ongoing.mesh.tasks[task]? = some ⟨.waitClosed number, none⟩ →
    (ongoing.turn (.moves (.proceeds (.closedNoticed task)))).mesh.tasks[task]? =
      some ⟨.waitClosed number, some .closed⟩
  signals : ¬ unstored →
    ongoing.turn (.moves (.calls number .firesExit)) = ongoing ∧
      ongoing.turn (.moves (.proceeds (.interrupted number))) = ongoing ∧
      ongoing.turn (.signals number) = ongoing

theorem Closed.over {unstored : Prop} (closed : ongoing.Closed number unstored)
    (concluded : ongoing.mesh.Concluded) : ongoing.Over number unstored := by
  obtain ⟨⟨node, there, isClosed, hooked⟩, atEnd⟩ := closed
  obtain ⟨entry, found, rfl⟩ := Mesh.found_of_node? there
  have stopped := concluded.stopped number entry found isClosed
  constructor
  · rw [there, Option.any_some, isClosed]
  · rw [there, Option.any_some]
    exact hooked
  · exact fun position => turn_moves_of_fixed (Mesh.step_accepted_of_stopped there stopped position)
  · exact fun task asked => Mesh.told_of_closedNoticed there isClosed asked
  · intro stored
    have unhooked : entry.node.hook = none := by
      rw [← Option.not_isSome_iff_eq_none, hooked]
      exact fun both => stored both.1
    exact ⟨turn_moves_of_fixed (Mesh.perform_firesExit_of_unhooked there unhooked),
      turn_moves_of_fixed (Mesh.step_interrupted_of_unhooked there unhooked),
      turn_signals_of_stored fun unstored => stored (atEnd unstored)⟩

/-- The signal comes before the hook is stored, and the hook leads a teardown that does not find it.
-/
example :
    let ongoing := (initial [] "/" .empty).course
      [.moves (.addsContext "m" (some .empty) false),
        .beginsStart ⟨.withPort 5000, 0, none, true, true⟩, .signals 0,
        .moves (.proceeds (.permitGranted 0)), .moves (.proceeds (.listenerStopped 0 0)),
        .moves (.proceeds (.teardownFinished 0)), .goesOn 0]
    (ongoing.mesh.node? 0).any (fun node => node.closed && node.hasExitHook) = true := by
  decide +kernel

end Ongoing

end PeerMesh
