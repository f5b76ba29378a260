import Mathlib.Logic.Relation
import PeerMesh.Mesh.Event
import PeerMesh.Proofs.Node.Pending
import PeerMesh.Proofs.Node.Shunning

/-!
# How a process changes

Whatever happens to a process is a sequence of changes, of which there are five kinds: one node
takes an act, the nodes of a context get something else to share, a node is launched, a node is let
go, or neither nodes nor contexts change. In an orderly process each node has come where it is by acts
of its own, between which the other nodes of its context drew placeholders. Changes keep a process
orderly, and its contexts go on listing their open nodes.

A start that is under way does more: its node is there before the context lists it, and its exit hook
may ask for the teardown before it is stored. Changes tell by `starting` for which nodes this may be.
-/

set_option autoImplicit false

namespace PeerMesh

open Node (Act Situation)

/-! ## Situations of started nodes -/

namespace Node.Situation

/-- A node can get into the situation from its start. -/
def Reached (situation : Situation) : Prop :=
  ∃ start acts, Initial start ∧ start.run acts = situation

theorem Reached.of_initial {situation : Situation} (initial : situation.Initial) :
    situation.Reached :=
  ⟨situation, [], initial, rfl⟩

theorem Reached.step {situation : Situation} (reached : situation.Reached) (act : Act) :
    (Situation.step situation act).Reached := by
  obtain ⟨start, acts, initial, rfl⟩ := reached
  refine ⟨start, acts ++ [act], initial, ?_⟩
  rw [run_append]
  rfl

theorem Reached.sound {situation : Situation} (reached : situation.Reached) :
    situation.node.ledger.Sound := by
  obtain ⟨start, acts, initial, rfl⟩ := reached
  exact sound_run initial acts

theorem Reached.threaded {situation : Situation} (reached : situation.Reached) :
    situation.node.Threaded := by
  obtain ⟨start, acts, initial, rfl⟩ := reached
  exact threaded_run initial acts

theorem Reached.shut {situation : Situation} (reached : situation.Reached) : situation.Shut := by
  obtain ⟨start, acts, initial, rfl⟩ := reached
  refine run_induction_of_sound Shut initial (shut_of_initial initial) ?_ acts
  intro before act sound shut
  exact shut.step sound act

/-- An act draws at most one placeholder. -/
theorem sessions_step (situation : Situation) (act : Act) :
    (situation.step act).sessions = situation.sessions ∨
      (situation.step act).sessions = situation.sessions + 1 := by
  cases act with
  | accepts | drawsElsewhere => exact .inr rfl
  | dialConnects number socket moment =>
      simp only [step]
      split
      · exact .inl rfl
      · exact .inr rfl
  | dialFails | receives | linkEnds | finishesTeardown =>
      simp only [step]
      split <;> exact .inl rfl
  | requests | identifies | sends | writes | closesHandle | drops | asksClose | grantsPermit |
    firesExit | storesHook | changesListener => exact .inl rfl

end Node.Situation

namespace Mesh

variable {before after mesh : Mesh} {kept starting : Nat → Prop}

def context? (mesh : Mesh) (number : Nat) : Option Context :=
  (mesh.contexts[number]?).map (·.context)

theorem blocklistOf_of_known {number : Nat} {context : Context}
    (known : mesh.context? number = some context) :
    mesh.blocklistOf number = context.blocklist := by
  obtain ⟨entry, found, rfl⟩ := Option.map_eq_some_iff.mp known
  rw [blocklistOf, found]
  rfl

/-! ## What calls are told -/

/-- What becomes of a call, given by its number, while no node takes an act. -/
inductive Told (before : Mesh) (number : Nat) : Task → Task → Prop where
  | kept (task : Task) : Told before number task task
  | refreshed {node period next : Nat} (later : Nat) :
      Told before number ⟨.refreshStats node period next, none⟩
        ⟨.refreshStats node period later, none⟩
  | refreshEnded {node period next : Nat} :
      Told before number ⟨.refreshStats node period next, none⟩
        ⟨.refreshStats node period next, some (.flag true)⟩
  | noticed {node : Nat} : Told before number ⟨.waitClosed node, none⟩ ⟨.waitClosed node, some .closed⟩
  | answered {node : Nat} {owner : Node} {performed : Bool} (found : before.node? node = some owner)
      (returned : ⟨.application number, .returned performed⟩ ∈ owner.closers.callers) :
      Told before number ⟨.close node, none⟩ ⟨.close node, some (.flag performed)⟩

/-- Calls are told what there is to tell, and new calls may come, only on nodes that are alive. -/
structure Tells (before after : Mesh) : Prop where
  told : ∀ (number : Nat) (task : Task), before.tasks[number]? = some task →
    ∃ later, after.tasks[number]? = some later ∧ Told before number task later
  added : ∀ (number : Nat) (task : Task), before.tasks[number]? = none →
    after.tasks[number]? = some task →
    (∀ node, task.call.holds node = true → before.nodeAlive node = true) ∧
      ∀ answer, task.answer = some answer →
        ∃ node dial, task.call = .connectPeer node dial ∧ answer = .flag false

/-- An error with which a dial of a node fails by itself. -/
inductive DialError (node : Node) (dial : Dial) : MeshError → Prop where
  | refused (error : OsError) : DialError node dial (.dial dial.address error)
  | timedOut : DialError node dial (.dialTimeout dial.address node.profile.connectTimeout)

/-- Who asks a node for its teardown is a call that waits for it, or a stored hook. A hook asks before
it is stored, and is stored, only while the node is starting. -/
structure Asks (mesh : Mesh) (starting : Nat → Prop) (number : Nat) (act : Act) : Prop where
  calls : ∀ closer, act = .asksClose closer →
    (∃ task, closer = .application task ∧ mesh.tasks[task]? = some ⟨.close number, none⟩) ∨
      starting number ∧ closer = .exitHook
  stores : ∀ hook, act = .storesHook hook → starting number

/-- What calls are told when a node takes an act: how a dial has ended, if the act ends one. -/
inductive Reports (starting : Nat → Prop) (before after : Mesh) (number : Nat) (node : Node) :
    Act → Prop where
  | silent {act : Act} (unended : act.ended? = none) (tasks : after.tasks = before.tasks)
      (asks : before.Asks starting number act) : Reports starting before after number node act
  | failed {dial : Dial} (found : node.dial? dial.number = some dial) {error : MeshError}
      (own : DialError node dial error)
      (tasks : after.tasks = (before.reportDial number dial.number (.error error)).tasks) :
      Reports starting before after number node (.dialFails dial.number)
  | connected {dial : Dial} {socket : Endpoint} {moment : Nat}
      (found : node.dial? dial.number = some dial) {outcome : Except MeshError Slot}
      (refused : node.table.closed = true → outcome = .error .shutDown)
      (tasks : after.tasks = (before.reportDial number dial.number outcome).tasks) :
      Reports starting before after number node (.dialConnects dial.number socket moment)

/-! ## Changes -/

/-- A listener that has stopped does not listen again. -/
def Steady (act : Act) : Prop :=
  ∀ position change, act = .changesListener position change →
    ∀ listener : Listener, listener.stopped = true → (change listener).stopped = true

/-- Only nodes that are gone or closed are missing from the later list. -/
def ListsOpen (mesh : Mesh) (earlier later : List Nat) : Prop :=
  ∀ node ∈ earlier, node ∈ later ∨ mesh.nodeAlive node = false ∨
    (mesh.node? node).any (·.closed) = true

/-- A change of a process. The contexts that are `kept` unblock nobody, and what only a start under way
does concerns nodes that are `starting`. -/
inductive Change (kept starting : Nat → Prop) (before after : Mesh) : Prop where
  /-- Contexts may be added, with no node on them yet. -/
  | aside (nodes : after.nodes = before.nodes)
      (contexts : ∀ number context, before.context? number = some context →
        after.context? number = some context)
      (tells : Tells before after)
  | acts (number : Nat) (entry : NodeEntry) (context : Context) (act : Act)
      (found : before.nodes[number]? = some entry)
      (known : before.context? entry.context = some context)
      (sees : ∀ around, act.around? = some around → around = before.surroundings entry)
      (serves : isServing (Situation.step ⟨entry.node, context.sessions⟩ act).node = true →
        before.nodeAlive number = true)
      (steady : Steady act)
      (nodes : after.nodes = before.nodes.set number
        { entry with node := (Situation.step ⟨entry.node, context.sessions⟩ act).node })
      (contexts : ∀ other, after.context? other =
        if other = entry.context then
          some { context with
                 sessions := (Situation.step ⟨entry.node, context.sessions⟩ act).sessions }
        else before.context? other)
      (reports : Reports starting before after number entry.node act)
  | shared (number : Nat) (old new : Context)
      (known : before.context? number = some old)
      (sessions : new.sessions = old.sessions)
      (blocked : kept number → ∀ peer, old.blocklist.contains peer = true →
        new.blocklist.contains peer = true)
      (listed : before.ListsOpen old.nodes new.nodes)
      (nodes : after.nodes = before.nodes)
      (contexts : ∀ other, after.context? other =
        if other = number then some new else before.context? other)
      (tasks : after.tasks = before.tasks)
  | launched (entry : NodeEntry) (context : Context)
      (known : before.context? entry.context = some context)
      (fresh : Situation.Initial ⟨entry.node, context.sessions⟩)
      (listed : before.nodes.length ∈ context.nodes ∨ starting before.nodes.length)
      (nodes : after.nodes = before.nodes ++ [entry])
      (contexts : ∀ other, after.context? other = before.context? other)
      (tasks : after.tasks = before.tasks)
  | letGo (number : Nat)
      (nodes : after.nodes = before.nodes.modify number fun entry => { entry with held := false })
      (contexts : ∀ other, after.context? other = before.context? other)
      (tasks : after.tasks = before.tasks)

/-- Only nodes that were alive come to be held by calls. -/
theorem Tells.calls (tells : Tells before after) {node : Nat}
    (called : after.isCalled node = true) :
    before.isCalled node = true ∨ before.nodeAlive node = true := by
  obtain ⟨task, member, waits⟩ := List.any_eq_true.mp called
  obtain ⟨number, found⟩ := List.mem_iff_getElem?.mp member
  cases earlier : before.tasks[number]? with
  | none =>
      rw [Bool.and_eq_true] at waits
      exact .inr ((tells.added number task earlier found).1 node waits.2)
  | some old =>
      obtain ⟨later, same, told⟩ := tells.told number old earlier
      rw [found] at same
      cases same
      refine .inl (List.any_eq_true.mpr ⟨old, List.mem_of_getElem? earlier, ?_⟩)
      cases told with
      | kept => exact waits
      | refreshed => exact waits
      | refreshEnded | noticed | answered => cases waits

theorem isCalled_reportDial {number dial node : Nat} {outcome : Except MeshError Slot}
    (called : (mesh.reportDial number dial outcome).isCalled node = true) :
    mesh.isCalled node = true := by
  obtain ⟨task, member, waits⟩ := List.any_eq_true.mp called
  obtain ⟨earlier, there, rfl⟩ := List.mem_map.mp member
  refine List.any_eq_true.mpr ⟨earlier, there, ?_⟩
  split at waits
  · cases waits
  · exact waits

theorem Change.calls (change : Change kept starting before after) {node : Nat}
    (called : after.isCalled node = true) :
    before.isCalled node = true ∨ before.nodeAlive node = true := by
  have kept : ∀ {other : Mesh}, other.tasks = before.tasks → other.isCalled node = true →
      before.isCalled node = true := by
    intro other tasks called
    rwa [isCalled, tasks] at called
  cases change with
  | aside _ _ tells => exact tells.calls called
  | shared _ _ _ _ _ _ _ _ _ tasks => exact .inl (kept tasks called)
  | launched _ _ _ _ _ _ _ tasks => exact .inl (kept tasks called)
  | letGo _ _ _ tasks => exact .inl (kept tasks called)
  | acts _ _ _ _ _ _ _ _ _ _ _ reports =>
      left
      cases reports with
      | silent _ tasks => exact kept tasks called
      | failed _ _ tasks =>
          rw [isCalled, tasks] at called
          exact isCalled_reportDial called
      | connected _ _ tasks =>
          rw [isCalled, tasks] at called
          exact isCalled_reportDial called

/-- What a change makes of a context that was there. -/
structure Continues (kept : Prop) (before : Mesh) (old new : Context) : Prop where
  sessions : new.sessions = old.sessions ∨ new.sessions = old.sessions + 1
  blocked : kept → ∀ peer, old.blocklist.contains peer = true →
    new.blocklist.contains peer = true
  listed : before.ListsOpen old.nodes new.nodes

theorem Continues.refl (kept : Prop) (mesh : Mesh) (context : Context) :
    Continues kept mesh context context where
  sessions := .inl rfl
  blocked := fun _ _ blocked => blocked
  listed := fun _ member => .inl member

theorem Change.context? (change : Change kept starting before after) {number : Nat} {old : Context}
    (known : before.context? number = some old) :
    ∃ new, after.context? number = some new ∧ Continues (kept number) before old new := by
  cases change with
  | aside _ contexts =>
      exact ⟨old, contexts number old known, Continues.refl _ _ _⟩
  | acts node entry context act _ same _ _ _ _ contexts =>
      rw [contexts number]
      split
      · rename_i here
        rw [here, same] at known
        cases known
        refine ⟨_, rfl, ?_, fun _ _ blocked => blocked, fun _ member => .inl member⟩
        exact Situation.sessions_step _ act
      · exact ⟨old, known, Continues.refl _ _ _⟩
  | shared other earlier later same sessions blocked listed _ contexts =>
      rw [contexts number]
      split
      · rename_i here
        subst here
        rw [same] at known
        cases known
        exact ⟨later, rfl, .inl sessions, blocked, listed⟩
      · exact ⟨old, known, Continues.refl _ _ _⟩
  | launched _ _ _ _ _ _ contexts =>
      rw [contexts number]
      exact ⟨old, known, Continues.refl _ _ _⟩
  | letGo _ _ contexts =>
      rw [contexts number]
      exact ⟨old, known, Continues.refl _ _ _⟩

/-- Where a node of the changed process comes from. -/
inductive Origin (starting : Nat → Prop) (before after : Mesh) (number : Nat)
    (later : NodeEntry) : Prop where
  | stayed (earlier : NodeEntry) (found : before.nodes[number]? = some earlier)
      (node : later.node = earlier.node) (context : later.context = earlier.context)
      (held : later.held = true → earlier.held = true)
  | acted (earlier : NodeEntry) (context : Context) (act : Act)
      (found : before.nodes[number]? = some earlier)
      (known : before.context? earlier.context = some context)
      (sees : ∀ around, act.around? = some around → around = before.surroundings earlier)
      (serves : isServing (Situation.step ⟨earlier.node, context.sessions⟩ act).node = true →
        before.nodeAlive number = true)
      (steady : Steady act)
      (reports : Reports starting before after number earlier.node act)
      (same : later =
        { earlier with node := (Situation.step ⟨earlier.node, context.sessions⟩ act).node })
      (drawn : after.context? earlier.context =
          some { context with
                 sessions := (Situation.step ⟨earlier.node, context.sessions⟩ act).sessions })
  | launched (context : Context) (last : number = before.nodes.length)
      (known : before.context? later.context = some context)
      (still : after.context? later.context = some context)
      (fresh : Situation.Initial ⟨later.node, context.sessions⟩)
      (listed : number ∈ context.nodes ∨ starting number)

theorem Change.origin (change : Change kept starting before after) {number : Nat} {later : NodeEntry}
    (found : after.nodes[number]? = some later) : Origin starting before after number later := by
  cases change with
  | aside nodes =>
      rw [nodes] at found
      exact .stayed later found rfl rfl id
  | acts node entry context act there known sees serves steady nodes contexts reports =>
      rw [nodes, List.getElem?_set] at found
      split at found
      · rename_i here
        subst here
        split at found
        · cases found
          refine .acted entry context act there known sees serves steady reports rfl ?_
          rw [contexts, if_pos rfl]
        · cases found
      · exact .stayed later found rfl rfl id
  | shared _ _ _ _ _ _ _ nodes =>
      rw [nodes] at found
      exact .stayed later found rfl rfl id
  | launched entry context known fresh listed nodes contexts =>
      rw [nodes] at found
      rcases Nat.lt_or_ge number before.nodes.length with old | new
      · rw [List.getElem?_append_left old] at found
        exact .stayed later found rfl rfl id
      · rw [List.getElem?_append_right new] at found
        obtain ⟨bound, same⟩ := List.getElem?_eq_some_iff.mp found
        have last : number = before.nodes.length := by
          simp only [List.length_singleton] at bound
          omega
        subst last
        simp only [Nat.sub_self, List.getElem_cons_zero] at same
        subst same
        exact .launched context rfl known ((contexts _).trans known) fresh listed
  | letGo node nodes =>
      rw [nodes, List.getElem?_modify] at found
      obtain ⟨earlier, there, same⟩ := Option.map_eq_some_iff.mp found
      subst same
      refine .stayed earlier there ?_ ?_ ?_
      · split <;> rfl
      · split <;> rfl
      · split
        · intro held
          cases held
        · exact id

/-! ## The dead stay dead -/

theorem nodeAlive_eq {number : Nat} {entry : NodeEntry} (found : mesh.nodes[number]? = some entry) :
    mesh.nodeAlive number = (entry.held || isServing entry.node || mesh.isCalled number) := by
  rw [nodeAlive, found]
  rfl

theorem nodeAlive_of_serving {number : Nat} {entry : NodeEntry}
    (found : mesh.nodes[number]? = some entry) (serving : isServing entry.node = true) :
    mesh.nodeAlive number = true := by
  simp [nodeAlive_eq found, serving]

theorem Change.alive (change : Change kept starting before after) {number : Nat} {entry : NodeEntry}
    (found : before.nodes[number]? = some entry) (alive : after.nodeAlive number = true) :
    before.nodeAlive number = true := by
  have called : after.isCalled number = true → before.nodeAlive number = true := by
    intro called
    rcases change.calls called with before | alive
    · simp [nodeAlive_eq found, before]
    · exact alive
  obtain ⟨later, there⟩ : ∃ later, after.nodes[number]? = some later := by
    rw [nodeAlive] at alive
    cases search : after.nodes[number]? with
    | none => simp [search] at alive
    | some later => exact ⟨later, rfl⟩
  rw [nodeAlive_eq there, Bool.or_eq_true, Bool.or_eq_true] at alive
  cases change.origin there with
  | stayed earlier same node _ held =>
      rw [same] at found
      cases found
      rcases alive with (isHeld | serving) | isCalled
      · simp [nodeAlive_eq same, held isHeld]
      · rw [node] at serving
        exact nodeAlive_of_serving same serving
      · exact called isCalled
  | acted earlier context act same _ _ serves _ _ stepped =>
      subst stepped
      rcases alive with (isHeld | serving) | isCalled
      · simp [nodeAlive_eq same, show earlier.held = true from isHeld]
      · exact serves serving
      · exact called isCalled
  | launched context last =>
      rw [last, List.getElem?_eq_none (Nat.le_refl _)] at found
      cases found

/-! ## Order -/

/-- Every node has come where it is by acts of its own. -/
structure Orderly (mesh : Mesh) : Prop where
  followed : ∀ (number : Nat) (entry : NodeEntry), mesh.nodes[number]? = some entry →
    ∃ context, mesh.context? entry.context = some context ∧
      Situation.Reached ⟨entry.node, context.sessions⟩

theorem orderly_initial (host : List Interface) (workingDirectory : String) (disk : Files.Disk) :
    (initial host workingDirectory disk).Orderly where
  followed := by
    rintro number entry ⟨⟩

theorem Change.orderly (change : Change kept starting before after) (orderly : before.Orderly) :
    after.Orderly where
  followed := by
    intro number later found
    cases change.origin found with
    | stayed earlier there node context =>
        obtain ⟨old, known, reached⟩ := orderly.followed number earlier there
        obtain ⟨new, still, continues⟩ := change.context? known
        rw [context, node]
        refine ⟨new, still, ?_⟩
        rcases continues.sessions with same | drawn
        · rwa [same]
        · rw [drawn]
          exact reached.step .drawsElsewhere
    | acted earlier context act there known _ _ _ _ same drawn =>
        obtain ⟨old, knownOld, reached⟩ := orderly.followed number earlier there
        rw [known] at knownOld
        cases knownOld
        subst same
        exact ⟨_, drawn, reached.step act⟩
    | launched context _ _ still fresh => exact ⟨context, still, .of_initial fresh⟩

/-! ## What contexts list -/

/-- A context lists its open nodes, except for the spared ones. -/
def Lists (mesh : Mesh) (spared : Nat → Prop) : Prop :=
  ∀ (number : Nat) (entry : NodeEntry) (context : Context),
    mesh.nodes[number]? = some entry → mesh.context? entry.context = some context →
    mesh.nodeAlive number = true → entry.node.closed = false →
      number ∈ context.nodes ∨ spared number

theorem lists_initial (host : List Interface) (workingDirectory : String) (disk : Files.Disk)
    (spared : Nat → Prop) : (initial host workingDirectory disk).Lists spared := by
  rintro number entry context ⟨⟩

/-- A node that is closed stays closed. -/
theorem closed_of_closed_step {situation : Situation} {act : Act}
    (isOpen : (situation.step act).node.closed = false) : situation.node.closed = false := by
  by_cases teardown : act = .finishesTeardown
  · subst teardown
    simp only [Situation.step] at isOpen
    split at isOpen
    · cases isOpen
    · exact isOpen
  · rwa [Situation.closed_mark_step situation teardown] at isOpen

theorem Change.lists (change : Change kept starting before after) (orderly : before.Orderly)
    {spared : Nat → Prop} (spares : ∀ node, starting node → spared node)
    (lists : before.Lists spared) : after.Lists spared := by
  intro number later new found still alive isOpen
  have kept : ∀ {earlier : NodeEntry}, before.nodes[number]? = some earlier →
      later.context = earlier.context → earlier.node.closed = false →
      number ∈ new.nodes ∨ spared number := by
    intro earlier there context wasOpen
    obtain ⟨old, known, -⟩ := orderly.followed number earlier there
    obtain ⟨other, same, continues⟩ := change.context? known
    rw [← context, still] at same
    cases same
    have wasAlive := change.alive there alive
    rcases lists number earlier old there known wasAlive wasOpen with wasListed | spared
    · rcases continues.listed number wasListed with listed | dead | closed
      · exact .inl listed
      · rw [wasAlive] at dead
        cases dead
      · rw [node?, there, Option.map_some, Option.any_some, wasOpen] at closed
        cases closed
    · exact .inr spared
  cases change.origin found with
  | stayed earlier there node context =>
      rw [node] at isOpen
      exact kept there context isOpen
  | acted earlier context act there _ _ _ _ _ same =>
      subst same
      exact kept there rfl (closed_of_closed_step isOpen)
  | launched context last _ same _ listed =>
      rw [still] at same
      cases same
      exact listed.imp_right (spares number)

/-! ## Sequences of changes -/

def Changes (kept starting : Nat → Prop) : Mesh → Mesh → Prop :=
  Relation.ReflTransGen (Change kept starting)

theorem Changes.refl (mesh : Mesh) : Changes kept starting mesh mesh :=
  Relation.ReflTransGen.refl

theorem Change.single (change : Change kept starting before after) :
    Changes kept starting before after :=
  Relation.ReflTransGen.single change

theorem Changes.trans {between : Mesh} (first : Changes kept starting before between)
    (second : Changes kept starting between after) : Changes kept starting before after :=
  Relation.ReflTransGen.trans first second

theorem Changes.induction {holds : Mesh → Prop}
    (preserved : ∀ {before after}, Change kept starting before after → before.Orderly → holds before →
      holds after)
    (changes : Changes kept starting before after) (orderly : before.Orderly) (start : holds before) :
    after.Orderly ∧ holds after := by
  induction changes with
  | refl => exact ⟨orderly, start⟩
  | tail _ change ih =>
      obtain ⟨orderlyBetween, between⟩ := ih
      exact ⟨change.orderly orderlyBetween, preserved change orderlyBetween between⟩

theorem Changes.orderly (changes : Changes kept starting before after) (orderly : before.Orderly) :
    after.Orderly :=
  (changes.induction (fun _ _ _ => trivial) orderly trivial).1

theorem Changes.lists (changes : Changes kept starting before after) (orderly : before.Orderly)
    {spared : Nat → Prop} (spares : ∀ node, starting node → spared node)
    (lists : before.Lists spared) : after.Lists spared :=
  (changes.induction (fun change orderly => change.lists orderly spares) orderly lists).2

end Mesh

end PeerMesh
