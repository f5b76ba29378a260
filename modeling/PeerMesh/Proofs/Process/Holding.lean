import PeerMesh.Proofs.Process.Preservation
import PeerMesh.Proofs.Process.Teardown

/-!
# An open node is alive

Nobody needs to hold a node for it to go on. It listens until its teardown begins, and from then on
whoever leads the teardown keeps it alive until the teardown has ended: a call to close has not
returned before that, and the exit hook is not disposed of.
-/

set_option autoImplicit false

namespace PeerMesh

open Node (Act Situation)
open Shutdown (Coordinator)

/-! ## One node -/

namespace Node

/-- The signal to exit has reached the hook. -/
def isFired (node : Node) : Bool :=
  node.hook.any fun hook => !hook.awaiting

def askers (node : Node) : List Closer :=
  node.closers.callers.map (·.name)

/-- What an act does to those who close a node, and to what they have told it. -/
inductive Heeds (before : Node) : Act → Node → Prop where
  | aside {act : Act} {after : Node} (hook : after.hook = before.hook)
      (stopping : after.stopping = before.stopping) (closers : after.closers = before.closers) :
      Heeds before act after
  | asked (closer : Closer) : Heeds before (.asksClose closer) (before.askClose closer)
  | granted : Heeds before .grantsPermit before.grantPermit
  | fired {after : Node} (fired : after.isFired = true) (stopping : after.stopping = before.stopping)
      (closers : after.closers = before.closers.turn (.calls .exitHook)) :
      Heeds before .firesExit after
  | stored (hook : ExitHook) : Heeds before (.storesHook hook) (before.storeHook hook)
  | finished : Heeds before .finishesTeardown before.finishTeardown

theorem heeds_hearExit (node : Node) : node.Heeds .firesExit node.hearExit := by
  unfold hearExit
  split
  · split
    · exact .fired rfl rfl rfl
    · exact .aside rfl rfl rfl
  · exact .aside rfl rfl rfl

theorem closers_finishTeardown (node : Node) :
    node.finishTeardown.closers = node.unhookedClosers.turn .finishes :=
  congrArg (·.2.2.2.2.1) (frame_finishTeardown node)

theorem stopping_finishTeardown (node : Node) : node.finishTeardown.stopping = node.stopping :=
  congrArg (·.2.2.1) (frame_finishTeardown node)

theorem mem_askers_of_finishTeardown {node : Node} {closer : Closer}
    (member : closer ∈ node.finishTeardown.askers) : closer ∈ node.askers := by
  rw [askers, closers_finishTeardown] at member
  have unhooked := (Coordinator.mem_names_of_turn member).resolve_right nofun
  unfold unhookedClosers at unhooked
  split at unhooked
  · exact unhooked
  · change closer ∈ (node.closers.turn (.aborts .exitHook)).callers.map (·.name) at unhooked
    exact (Coordinator.mem_names_of_turn unhooked).resolve_right nofun

theorem done_finishTeardown {node : Node} (done : node.closers.done = true) :
    node.finishTeardown.closers.done = true := by
  rw [closers_finishTeardown]
  apply Coordinator.done_turn
  unfold unhookedClosers
  split <;> exact done

namespace Situation

theorem heeds_step (before : Situation) (act : Act) :
    before.node.Heeds act (before.step act).node := by
  cases inner : act.concernsFrame with
  | false =>
      have frame := before.frame_step inner
      exact .aside (congrArg (·.2.2.2.1) frame) (congrArg (·.2.2.1) frame)
        (congrArg (·.2.2.2.2.1) frame)
  | true =>
      cases act with
      | changesListener => exact .aside rfl rfl rfl
      | asksClose closer => exact .asked closer
      | grantsPermit => exact .granted
      | firesExit => exact heeds_hearExit before.node
      | storesHook hook => exact .stored hook
      | finishesTeardown =>
          simp only [step]
          split
          · exact .finished
          · exact .aside rfl rfl rfl
      | _ => cases inner

/-- Who asks for the teardown after an act asked before, or is who the act lets ask. -/
theorem mem_askers_of_step {before : Situation} {act : Act} {closer : Closer}
    (member : closer ∈ (before.step act).node.askers) :
    closer ∈ before.node.askers ∨ act = .asksClose closer ∨
      closer = .exitHook ∧ (before.step act).node.isFired = true := by
  have heeds := before.heeds_step act
  generalize (before.step act).node = after at heeds member
  cases heeds with
  | aside hook stopping closers =>
      rw [askers, closers] at member
      exact .inl member
  | asked other =>
      change closer ∈ (before.node.closers.turn (.calls other)).callers.map (·.name) at member
      cases Coordinator.mem_names_of_turn member with
      | inl old => exact .inl old
      | inr new =>
          cases new
          exact .inr (.inl rfl)
  | granted =>
      change closer ∈ (before.node.closers.turn .grants).callers.map (·.name) at member
      exact .inl ((Coordinator.mem_names_of_turn member).resolve_right nofun)
  | fired fired stopping closers =>
      rw [askers, closers] at member
      cases Coordinator.mem_names_of_turn member with
      | inl old => exact .inl old
      | inr new =>
          cases new
          exact .inr (.inr ⟨rfl, fired⟩)
  | stored => exact .inl member
  | finished => exact .inl (mem_askers_of_finishTeardown member)

/-- A hook that was fired goes about the teardown until the node is closed. -/
theorem isFired_step {before : Situation} {act : Act} (stores : ∀ hook, act ≠ .storesHook hook)
    (isOpen : (before.step act).node.closed = false) (fired : before.node.isFired = true) :
    (before.step act).node.isFired = true := by
  have heeds := before.heeds_step act
  generalize (before.step act).node = after at heeds isOpen
  cases heeds with
  | aside hook stopping closers => rwa [isFired, hook]
  | asked | granted => exact fired
  | fired fires stopping closers => exact fires
  | stored hook => exact absurd rfl (stores hook)
  | finished => cases isOpen

/-- Listeners are told to stop only when a teardown is begun. -/
theorem done_of_stopping_step {before : Situation} {act : Act} {lead}
    (presided : (before.step act).node.Presided lead)
    (begun : before.node.stopping = true → before.node.closers.done = true)
    (stopping : (before.step act).node.stopping = true) :
    (before.step act).node.closers.done = true := by
  have heeds := before.heeds_step act
  generalize (before.step act).node = after at heeds presided stopping
  cases heeds with
  | aside hook same closers =>
      rw [same] at stopping
      rw [closers]
      exact begun stopping
  | asked closer => exact Coordinator.done_turn (.calls closer) (begun stopping)
  | stored => exact begun stopping
  | granted =>
      cases (Bool.or_eq_true _ _).mp stopping with
      | inl told => exact Coordinator.done_turn .grants (begun told)
      | inr running =>
          obtain ⟨others, led⟩ := presided.led
          obtain ⟨name, leads⟩ := led.isSome_running?_iff.mp running
          rw [led.done, leads]
          rfl
  | fired fires same closers =>
      rw [same] at stopping
      rw [closers]
      exact Coordinator.done_turn _ (begun stopping)
  | finished =>
      rw [stopping_finishTeardown] at stopping
      exact done_finishTeardown (begun stopping)

theorem Reached.begun {situation : Situation} (reached : situation.Reached)
    (stopping : situation.node.stopping = true) : situation.node.closers.done = true := by
  obtain ⟨start, acts, initial, rfl⟩ := reached
  suffices both : (∃ lead, (start.run acts).node.Presided lead) ∧
      ((start.run acts).node.stopping = true → (start.run acts).node.closers.done = true) from
    both.2 stopping
  apply run_induction (fun situation => (∃ lead, situation.node.Presided lead) ∧
    (situation.node.stopping = true → situation.node.closers.done = true))
  · intro before act both
    obtain ⟨⟨lead, presided⟩, begun⟩ := both
    obtain ⟨next, presidedNext⟩ := presided.step act
    exact ⟨⟨next, presidedNext⟩, done_of_stopping_step presidedNext begun⟩
  · refine ⟨⟨none, presided_of_initial initial⟩, ?_⟩
    obtain ⟨profile, request, moment, fresh⟩ := initial
    rw [fresh]
    exact nofun

end Situation

end Node

/-! ## All nodes -/

namespace Mesh

variable {mesh before after : Mesh} {kept starting : Nat → Prop} {number : Nat} {entry : NodeEntry}

/-- What a closer has that asks a node for its teardown: its call, or the signal. -/
def Backs (mesh : Mesh) (number : Nat) (node : Node) : Closer → Prop
  | .application task => ∃ answer, mesh.tasks[task]? = some ⟨.close number, answer⟩
  | .exitHook => node.closed = true ∨ node.isFired = true

def Backed (mesh : Mesh) : Prop :=
  ∀ (number : Nat) (entry : NodeEntry), mesh.nodes[number]? = some entry →
    ∀ closer ∈ entry.node.askers, mesh.Backs number entry.node closer

theorem Reports.asks {node : Node} {act : Act}
    (reports : Reports starting before after number node act) :
    before.Asks starting number act := by
  cases reports with
  | silent _ _ asks => exact asks
  | failed | connected => exact ⟨nofun, nofun⟩

theorem Change.close_stays (change : Change kept starting before after) {task : Nat}
    {answer : Option Answer} (asked : before.tasks[task]? = some ⟨.close number, answer⟩) :
    ∃ later, after.tasks[task]? = some ⟨.close number, later⟩ := by
  obtain ⟨later, there, fate⟩ := change.fate asked
  cases fate with
  | told told =>
      cases told with
      | kept => exact ⟨_, there⟩
      | answered => exact ⟨_, there⟩
  | ended awaits =>
      rw [awaitsDial_iff] at awaits
      simp at awaits

theorem Change.backs (change : Change kept starting before after) {node later : Node}
    {closer : Closer}
    (stays : node.closed = true ∨ node.isFired = true →
      later.closed = true ∨ later.isFired = true)
    (backs : before.Backs number node closer) : after.Backs number later closer := by
  cases closer with
  | application task =>
      obtain ⟨answer, asked⟩ := backs
      exact change.close_stays asked
  | exitHook => exact stays backs

theorem Change.backed (change : Change kept (fun _ => False) before after)
    (backed : before.Backed) : after.Backed := by
  intro number later found closer asks
  cases change.origin found with
  | stayed earlier there node =>
      rw [node] at asks ⊢
      exact change.backs id (backed number earlier there closer asks)
  | acted earlier context act there _ _ _ _ reports same =>
      subst same
      have stays : earlier.node.closed = true ∨ earlier.node.isFired = true →
          (Situation.step ⟨earlier.node, context.sessions⟩ act).node.closed = true ∨
            (Situation.step ⟨earlier.node, context.sessions⟩ act).node.isFired = true := by
        intro either
        cases still :
            (Situation.step ⟨earlier.node, context.sessions⟩ act).node.closed with
        | true => exact .inl rfl
        | false =>
            have wasOpen := closed_of_closed_step still
            cases either with
            | inl closed => exact absurd (wasOpen.symm.trans closed) nofun
            | inr fired => exact .inr (Situation.isFired_step reports.asks.stores still fired)
      rcases Situation.mem_askers_of_step asks with old | new | fired
      · exact change.backs stays (backed number earlier there closer old)
      · obtain ⟨task, named, asked⟩ := (reports.asks.calls closer new).resolve_right fun hook => hook.1
        subst named
        exact change.close_stays asked
      · obtain ⟨named, fired⟩ := fired
        subst named
        exact .inr fired
  | launched context _ _ _ fresh =>
      obtain ⟨profile, request, moment, same⟩ := fresh
      dsimp only at same
      rw [same] at asks
      cases asks

theorem backed_course (host : List Interface) (workingDirectory : String) (disk : Files.Disk)
    (moves : List Move) : ((initial host workingDirectory disk).course moves).Backed := by
  have orderly := orderly_initial host workingDirectory disk
  have start : (initial host workingDirectory disk).Backed := by
    intro number entry found
    cases found
  exact ((changes_course_any orderly moves).induction (fun change _ => change.backed) orderly
    start).2

/-! ## Listeners -/

/-- A node listens until it is told to stop. -/
def Listens (mesh : Mesh) : Prop :=
  ∀ (number : Nat) (entry : NodeEntry), mesh.nodes[number]? = some entry →
    entry.node.stopping = false → entry.node.listenersStopped = false

theorem listenersStopped_freshNode {profile : Profile} (listens : profile.localAddresses ≠ [])
    (request : StartRequest) (moment : Nat) :
    (freshNode profile request moment).listenersStopped = false := by
  obtain ⟨address, rest, addresses⟩ := List.exists_cons_of_ne_nil listens
  simp [Node.listenersStopped, freshNode, addresses, Listener.fresh]

theorem Listens.perform (listens : mesh.Listens) (move : Move) :
    (mesh.perform move).Listens := by
  intro number later found unstopped
  cases moved_perform mesh move with
  | launched starts known addresses launched =>
      cases launched.origin found with
      | inl old => exact listens number later old unstopped
      | inr new =>
          obtain ⟨-, files, same⟩ := new
          rw [same]
          exact listenersStopped_freshNode addresses _ mesh.moment
  | preserved preserves =>
      obtain ⟨earlier, there, persists⟩ := preserves.origin found
      obtain ⟨unstoppedBefore, stays⟩ := persists.node.listening unstopped
      exact stays (listens number earlier there unstoppedBefore)

theorem listens_course (host : List Interface) (workingDirectory : String) (disk : Files.Disk)
    (moves : List Move) : ((initial host workingDirectory disk).course moves).Listens := by
  have start : (initial host workingDirectory disk).Listens := by
    intro number entry found
    cases found
  generalize initial host workingDirectory disk = mesh at start
  induction moves generalizing mesh with
  | nil => exact start
  | cons move rest ih => exact ih _ (start.perform move)

/-! ## The open are alive -/

theorem nodeAlive_of_listening (found : mesh.nodes[number]? = some entry)
    (listening : entry.node.listenersStopped = false) : mesh.nodeAlive number = true := by
  obtain ⟨listener, member, unstopped⟩ := List.all_eq_false.mp listening
  obtain ⟨position, there⟩ := List.mem_iff_getElem?.mp member
  rw [Bool.not_eq_true] at unstopped
  exact nodeAlive_of_serving found (isServing_of_listener there unstopped)

theorem nodeAlive_of_close {task : Nat}
    (asked : mesh.tasks[task]? = some ⟨.close number, none⟩)
    (found : mesh.nodes[number]? = some entry) : mesh.nodeAlive number = true := by
  have called : mesh.isCalled number = true := by
    apply List.any_eq_true.mpr
    exact ⟨_, List.mem_of_getElem? asked, by simp [Call.holds]⟩
  rw [nodeAlive_eq found, called, Bool.or_true]

theorem nodeAlive_of_fired (found : mesh.nodes[number]? = some entry)
    (fired : entry.node.isFired = true) : mesh.nodeAlive number = true := by
  apply nodeAlive_of_serving found
  rw [Node.isFired] at fired
  simp [isServing, fired]

theorem Concluded.nodeAlive_of_backs (concluded : mesh.Concluded) {lead}
    (presided : entry.node.Presided lead) (found : mesh.nodes[number]? = some entry)
    (isOpen : entry.node.closed = false) {closer : Closer}
    (backs : mesh.Backs number entry.node closer) : mesh.nodeAlive number = true := by
  cases closer with
  | exitHook =>
      refine nodeAlive_of_fired found (backs.resolve_left ?_)
      rw [isOpen]
      exact Bool.false_ne_true
  | application task =>
      obtain ⟨answer, asked⟩ := backs
      cases answer with
      | none => exact nodeAlive_of_close asked found
      | some answer =>
          -- a call that has its answer has seen the node closed
          obtain ⟨performed, -, returned⟩ := concluded.returned (node?_of_found found) asked
          have closed := presided.closed_of_returned returned
          rw [isOpen] at closed
          cases closed

/-- Whatever has happened to a process, a node that is open is alive. -/
theorem nodeAlive_of_open (host : List Interface) (workingDirectory : String) (disk : Files.Disk)
    (moves : List Move)
    (found : ((initial host workingDirectory disk).course moves).nodes[number]? = some entry)
    (isOpen : entry.node.closed = false) :
    ((initial host workingDirectory disk).course moves).nodeAlive number = true := by
  have orderly := orderly_course host workingDirectory disk moves
  have concluded := concluded_course host workingDirectory disk moves
  have backed := backed_course host workingDirectory disk moves
  have listens := listens_course host workingDirectory disk moves
  generalize (initial host workingDirectory disk).course moves = mesh at *
  cases listening : entry.node.listenersStopped with
  | false => exact nodeAlive_of_listening found listening
  | true =>
      have stopping : entry.node.stopping = true := by
        rw [← Bool.not_eq_false]
        intro unstopped
        rw [listens number entry found unstopped] at listening
        cases listening
      obtain ⟨context, known, reached⟩ := orderly.followed number entry found
      obtain ⟨lead, presided⟩ := reached.presided
      obtain ⟨others, led⟩ := presided.led
      -- the teardown has been begun and has not ended, so somebody leads it
      have running := ((presided.closed_or_running (reached.begun stopping)).resolve_left
        (by rw [isOpen]; exact Bool.false_ne_true)).1
      obtain ⟨closer, leads⟩ := led.isSome_running?_iff.mp running
      have leader : ⟨closer, .running⟩ ∈ entry.node.closers.callers :=
        led.mem_callers.mpr (.inl leads)
      have backs := backed number entry found closer (List.mem_map_of_mem leader)
      exact concluded.nodeAlive_of_backs presided found isOpen backs

end Mesh

end PeerMesh
