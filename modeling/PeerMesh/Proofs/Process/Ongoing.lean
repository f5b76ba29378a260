import PeerMesh.Proofs.Node.Standing
import PeerMesh.Proofs.Process.Events

/-!
# Starts and writes that are under way

A move is over before the next one begins. Two of the moves are not like this in a process with
several threads. A start goes on when the listeners of its node are served already: the exit hook is
at work before it is stored, and only then does the context list the node, serve its paths and let
the group know. And a connection that writes takes a byte string out of its queue and then waits for
the other end to read; as long as some of it is unwritten, its task does nothing else, and does not
see the close signal either.

Here starts and writes are taken in turns, and any other turns may come in between. A start or a
write whose turns come without a break is the move that it was.
-/

set_option autoImplicit false

namespace PeerMesh

open Mesh (Move NodeCall StartRequest Change Changes)

/-- How far a start has come whose node is there, by what it does next. -/
inductive Stage where
  /-- The hook has been sent about its work, and is not stored yet. -/
  | storesHook (hook : ExitHook)
  | registers
  | opensPaths
  | joins
  deriving DecidableEq

namespace Stage

def next? : Stage → Option Stage
  | .storesHook _ => some .registers
  | .registers => some .opensPaths
  | .opensPaths => some .joins
  | .joins => none

/-- Whether the context does not list the node yet. -/
def isUnlisted : Stage → Bool
  | .storesHook _ | .registers => true
  | .opensPaths | .joins => false

end Stage

/-- The first stage of a start whose node is there. -/
def Mesh.StartRequest.stage (request : StartRequest) : Stage :=
  request.hook?.elim .registers .storesHook

/-- The connection whose task makes a move, if one does. -/
def Mesh.Move.pumps? : Move → Option (Nat × Slot)
  | .proceeds (.linkClosed node slot) | .proceeds (.linkWrote node slot)
  | .proceeds (.linkRead node slot _) | .proceeds (.linkFinished node slot) => some (node, slot)
  | _ => none

def Mesh.takeStage (mesh : Mesh) (node : Nat) : Stage → Mesh
  | .storesHook hook => mesh.storeHook node (some hook)
  | .registers => mesh.registerNode node
  | .opensPaths => mesh.openPaths node
  | .joins => mesh.joinGroup node

/-- A process in which starts and writes may be under way. -/
structure Ongoing where
  mesh : Mesh
  /-- How far the start of a node has come, while it is under way. -/
  stage : Nat → Option Stage
  /-- What a connection has taken out of its queue and not written. -/
  unwritten : Nat × Slot → Bytes

/-- What happens to a process at once. -/
inductive Turn where
  | moves (move : Move)
  /-- A start binds its sockets, and if it does not fail its node is there and listens. -/
  | beginsStart (request : StartRequest)
  /-- The start of a node goes on by one stage. -/
  | goesOn (node : Nat)
  /-- The exit hook of a node hears the signal before it is stored. -/
  | signals (node : Nat)
  | beginsWrite (node : Nat) (slot : Slot)
  /-- The system takes so many bytes of what a connection writes. -/
  | writes (node : Nat) (slot : Slot) (count : Nat)
  /-- A write fails, as the other end is gone, and the connection ends. -/
  | failsWrite (node : Nat) (slot : Slot)

/-- The turn resets no context that is kept. -/
def Turn.Keeps (kept : Nat → Prop) (turn : Turn) : Prop :=
  ∀ move, turn = .moves move → move.Keeps kept

namespace Ongoing

/-- A process that has just begun. -/
def initial (host : List Interface) (workingDirectory : String) (disk : Files.Disk) : Ongoing where
  mesh := .initial host workingDirectory disk
  stage := fun _ => none
  unwritten := fun _ => []

/-- Whether the task that makes the move, if one does, does not wait in a write. -/
def isFree (ongoing : Ongoing) (move : Move) : Bool :=
  move.pumps?.all fun task => (ongoing.unwritten task).isEmpty

/-- The context of a node does not list it yet, as its start is under way. -/
def Unlisted (ongoing : Ongoing) (node : Nat) : Prop :=
  (ongoing.stage node).any Stage.isUnlisted = true

def beginStart (ongoing : Ongoing) (request : StartRequest) : Ongoing :=
  match ongoing.mesh.prepare request with
  | (failed, .error _) => { ongoing with mesh := failed }
  | (listening, .ok profile) =>
    { ongoing with
      mesh := (listening.enlist request profile).1
      stage := Function.update ongoing.stage listening.nodes.length (some request.stage) }

/-- The start of a node goes on, as long as the node is there for it. -/
def goOn (ongoing : Ongoing) (node : Nat) : Ongoing :=
  match ongoing.stage node with
  | none => ongoing
  | some stage =>
    if ongoing.mesh.nodeAlive node then
      { ongoing with
        mesh := ongoing.mesh.takeStage node stage
        stage := Function.update ongoing.stage node stage.next? }
    else ongoing

def signal (ongoing : Ongoing) (node : Nat) : Ongoing :=
  match ongoing.stage node with
  | some (.storesHook hook) =>
    if hook.awaiting then
      { ongoing with
        mesh := ongoing.mesh.updateNode node fun node => node.askClose .exitHook
        stage := Function.update ongoing.stage node
          (some (.storesHook { hook with awaiting := false })) }
    else ongoing
  | _ => ongoing

def beginWrite (ongoing : Ongoing) (node : Nat) (slot : Slot) (link : Link) : Ongoing :=
  match link.handle.receive with
  | (_, none) => ongoing
  | (handle, some bytes) =>
    { ongoing with
      mesh := ongoing.mesh.takeQueued node link handle
      unwritten := Function.update ongoing.unwritten (node, slot) bytes }

def write (ongoing : Ongoing) (node : Nat) (slot : Slot) (count : Nat) (link : Link) : Ongoing :=
  let bytes := ongoing.unwritten (node, slot)
  { ongoing with
    mesh := ongoing.mesh.writeFrom link.socket (bytes.take count)
    unwritten := Function.update ongoing.unwritten (node, slot) (bytes.drop count) }

def failWrite (ongoing : Ongoing) (node : Nat) (slot : Slot) (link : Link) : Ongoing :=
  { ongoing with
    mesh := ongoing.mesh.endLink node link
    unwritten := Function.update ongoing.unwritten (node, slot) [] }

/-- The process after a turn. A turn that cannot happen leaves it as it is. -/
def turn (ongoing : Ongoing) : Turn → Ongoing
  | .moves move =>
    if ongoing.isFree move then { ongoing with mesh := ongoing.mesh.perform move } else ongoing
  | .beginsStart request => ongoing.beginStart request
  | .goesOn node => ongoing.goOn node
  | .signals node => ongoing.signal node
  | .beginsWrite node slot =>
    if (ongoing.unwritten (node, slot)).isEmpty then
      (ongoing.mesh.link? node slot).elim ongoing (ongoing.beginWrite node slot)
    else ongoing
  | .writes node slot count =>
    (ongoing.mesh.link? node slot).elim ongoing fun link =>
      if ongoing.mesh.readerGone link then ongoing else ongoing.write node slot count link
  | .failsWrite node slot =>
    (ongoing.mesh.link? node slot).elim ongoing fun link =>
      if !(ongoing.unwritten (node, slot)).isEmpty && ongoing.mesh.readerGone link then
        ongoing.failWrite node slot link
      else ongoing

def course (ongoing : Ongoing) (turns : List Turn) : Ongoing :=
  turns.foldl turn ongoing

@[simp] theorem course_cons (ongoing : Ongoing) (turn : Turn) (turns : List Turn) :
    ongoing.course (turn :: turns) = (ongoing.turn turn).course turns := rfl

theorem course_append (ongoing : Ongoing) (first second : List Turn) :
    ongoing.course (first ++ second) = (ongoing.course first).course second :=
  List.foldl_append

/-! ## What a turn can do -/

variable {ongoing after : Ongoing}

/-- What becomes of a process in a turn. -/
inductive Takes (ongoing : Ongoing) : Turn → Ongoing → Prop where
  | idle (turn : Turn) : Takes ongoing turn ongoing
  | moved (move : Move) (free : ongoing.isFree move = true) :
      Takes ongoing (.moves move) { ongoing with mesh := ongoing.mesh.perform move }
  | declined (request : StartRequest) {failed : Mesh} {error : MeshError}
      (prepared : ongoing.mesh.prepare request = (failed, .error error)) :
      Takes ongoing (.beginsStart request) { ongoing with mesh := failed }
  | began (request : StartRequest) {listening : Mesh} {profile : Profile}
      (prepared : ongoing.mesh.prepare request = (listening, .ok profile)) :
      Takes ongoing (.beginsStart request)
        { ongoing with
          mesh := (listening.enlist request profile).1
          stage := Function.update ongoing.stage listening.nodes.length (some request.stage) }
  | wentOn (node : Nat) {stage : Stage} (reached : ongoing.stage node = some stage)
      (alive : ongoing.mesh.nodeAlive node = true) :
      Takes ongoing (.goesOn node)
        { ongoing with
          mesh := ongoing.mesh.takeStage node stage
          stage := Function.update ongoing.stage node stage.next? }
  | signaled (node : Nat) {hook : ExitHook}
      (reached : ongoing.stage node = some (.storesHook hook)) (awaiting : hook.awaiting = true) :
      Takes ongoing (.signals node)
        { ongoing with
          mesh := ongoing.mesh.updateNode node fun node => node.askClose .exitHook
          stage := Function.update ongoing.stage node
            (some (.storesHook { hook with awaiting := false })) }
  | took (node : Nat) {slot : Slot} {link : Link} {handle : Handle} {bytes : Bytes}
      (linked : ongoing.mesh.link? node slot = some link)
      (received : link.handle.receive = (handle, some bytes)) :
      Takes ongoing (.beginsWrite node slot)
        { ongoing with
          mesh := ongoing.mesh.takeQueued node link handle
          unwritten := Function.update ongoing.unwritten (node, slot) bytes }
  | wrote (node : Nat) {slot : Slot} (count : Nat) {link : Link}
      (linked : ongoing.mesh.link? node slot = some link)
      (read : ongoing.mesh.readerGone link = false) :
      Takes ongoing (.writes node slot count) (ongoing.write node slot count link)
  | failed (node : Nat) {slot : Slot} {link : Link}
      (linked : ongoing.mesh.link? node slot = some link)
      (unread : ongoing.mesh.readerGone link = true) :
      Takes ongoing (.failsWrite node slot) (ongoing.failWrite node slot link)

theorem nodes_of_prepared {request : StartRequest} {prepared : Mesh}
    {outcome : Except MeshError Profile}
    (result : ongoing.mesh.prepare request = (prepared, outcome)) :
    prepared.nodes = ongoing.mesh.nodes := by
  rw [← ongoing.mesh.nodes_prepare request, result]

theorem takes_turn (ongoing : Ongoing) (turn : Turn) : ongoing.Takes turn (ongoing.turn turn) := by
  cases turn with
  | moves move =>
      simp only [Ongoing.turn]
      split
      · rename_i free
        exact .moved move free
      · exact .idle _
  | beginsStart request =>
      simp only [Ongoing.turn, beginStart]
      split
      · rename_i prepared
        exact .declined request prepared
      · rename_i prepared
        exact .began request prepared
  | goesOn node =>
      simp only [Ongoing.turn, goOn]
      split
      · exact .idle _
      · rename_i reached
        split
        · rename_i alive
          exact .wentOn node reached alive
        · exact .idle _
  | signals node =>
      simp only [Ongoing.turn, signal]
      split
      · rename_i hook reached
        split
        · rename_i awaiting
          exact .signaled node reached awaiting
        · exact .idle _
      · exact .idle _
  | beginsWrite node slot =>
      simp only [Ongoing.turn]
      split
      · cases linked : ongoing.mesh.link? node slot with
        | none => exact .idle _
        | some link =>
            simp only [Option.elim_some, beginWrite]
            split
            · exact .idle _
            · rename_i received
              exact .took node linked received
      · exact .idle _
  | writes node slot count =>
      simp only [Ongoing.turn]
      cases linked : ongoing.mesh.link? node slot with
      | none => exact .idle _
      | some link =>
          simp only [Option.elim_some]
          split
          · exact .idle _
          · rename_i read
            exact .wrote node count linked (Bool.eq_false_iff.mpr read)
  | failsWrite node slot =>
      simp only [Ongoing.turn]
      cases linked : ongoing.mesh.link? node slot with
      | none => exact .idle _
      | some link =>
          simp only [Option.elim_some]
          split
          · rename_i unread
            exact .failed node linked ((Bool.and_eq_true _ _).mp unread).2
          · exact .idle _

end Ongoing

/-! ## Turns as changes -/

namespace Mesh

open Node (Act Situation)

variable {mesh : Mesh} {kept starting : Nat → Prop}

/-- The node of a start is there before the context lists it, and has no hook yet. -/
theorem changes_enlist (request : StartRequest) (profile : Profile) {context : Context}
    (known : mesh.context? request.context = some context)
    (starts : starting mesh.nodes.length) :
    Changes kept starting mesh (mesh.enlist request profile).1 := by
  let unhooked : StartRequest :=
    { request with config := { request.config with installExitHook := false } }
  have grouped : Changes kept starting mesh (mesh.grouped request) := by
    unfold Mesh.grouped
    split
    · exact Changes.refl mesh
    · exact changes_outside rfl rfl rfl
  have nodes : (mesh.grouped request).nodes = mesh.nodes := by
    unfold Mesh.grouped
    split <;> rfl
  have still : (mesh.grouped request).context? request.context = some context := by
    rw [← known]
    unfold Mesh.grouped
    split <;> rfl
  let load : Context → Context := fun context =>
    (context.loadSystems mesh.workingDirectory profile.rootDir).1
  have loaded : Changes kept starting (mesh.grouped request)
      ((mesh.grouped request).updateContext request.context load) :=
    changes_updateContext _ (fun _ => rfl) (fun _ _ _ blocked => blocked)
      (fun _ _ => listsOpen_refl _)
  have there := context?_updateContext (mesh.grouped request) request.context load request.context
  rw [if_pos rfl, still, Option.map_some] at there
  refine (grouped.trans loaded).trans (Change.single (.launched
    { mesh.newcomer request profile with
      node := { freshNode profile request mesh.moment with hook := none } }
    (load context) there ⟨profile, unhooked, mesh.moment, rfl⟩ (.inr ?_) ?_ ?_ ?_))
  · change starting (mesh.grouped request).nodes.length
    rwa [nodes]
  · rw [enlist_eq]
    change _ = (mesh.grouped request).nodes ++ _
    rw [nodes]
  · rw [enlist_eq]
    exact fun _ => rfl
  · rw [enlist_eq]

theorem changes_storeHook (orderly : mesh.Orderly) {node : Nat}
    (alive : mesh.nodeAlive node = true) (starts : starting node) (hook : ExitHook) :
    Changes kept starting mesh (mesh.storeHook node (some hook)) := by
  change Changes kept starting mesh (mesh.updateNode node fun node => node.storeHook hook)
  refine changes_updateNode orderly node (.storesHook hook)
    ⟨rfl, nofun, nofun, fun _ _ => starts⟩ ?_ (fun _ _ _ => rfl) (fun _ _ _ => alive)
  rintro _ _ around ⟨⟩

theorem changes_askEarly (orderly : mesh.Orderly) {node : Nat} (starts : starting node) :
    Changes kept starting mesh (mesh.updateNode node fun node => node.askClose .exitHook) := by
  have asks : mesh.Asks starting node (.asksClose .exitHook) := by
    constructor
    · rintro closer ⟨⟩
      exact .inr ⟨starts, rfl⟩
    · exact nofun
  refine changes_updateNode orderly node (.asksClose .exitHook) ⟨rfl, nofun, asks⟩ ?_
    (fun _ _ _ => rfl) ?_
  · rintro _ _ around ⟨⟩
  · exact fun entry found serving => nodeAlive_of_serving found serving

theorem changes_registerNode (node : Nat) :
    Changes kept starting mesh (mesh.registerNode node) := by
  unfold registerNode
  split
  · exact Changes.refl mesh
  · rename_i entry found
    refine changes_updateContext _ (fun _ => rfl) (fun _ _ _ blocked => blocked) ?_
    intro old _ other member
    by_cases same : other = node
    · exact .inl (List.mem_append_right _ (List.mem_singleton.mpr same))
    · by_cases alive : mesh.nodeAlive other = true
      · left
        refine List.mem_append_left _ (List.mem_filter.mpr ⟨member, ?_⟩)
        rw [alive, bne_iff_ne.mpr same]
        rfl
      · exact .inr (.inl (Bool.eq_false_iff.mpr alive))

theorem nodes_registerNode (mesh : Mesh) (node : Nat) :
    (mesh.registerNode node).nodes = mesh.nodes := by
  unfold registerNode
  split <;> rfl

/-- Only the stage that stores the hook concerns nodes. -/
theorem nodes_takeStage (mesh : Mesh) (node : Nat) {stage : Stage}
    (stored : ∀ hook, stage ≠ .storesHook hook) :
    (mesh.takeStage node stage).nodes = mesh.nodes := by
  cases stage with
  | storesHook hook => exact absurd rfl (stored hook)
  | registers => exact nodes_registerNode mesh node
  | opensPaths =>
      simp only [takeStage, openPaths]
      split <;> rfl
  | joins =>
      simp only [takeStage, joinGroup]
      split <;> rfl

theorem changes_takeStage (orderly : mesh.Orderly) {node : Nat}
    (alive : mesh.nodeAlive node = true) (stage : Stage)
    (starts : ∀ hook, stage = .storesHook hook → starting node) :
    Changes kept starting mesh (mesh.takeStage node stage) := by
  cases stage with
  | storesHook hook => exact changes_storeHook orderly alive (starts hook rfl) hook
  | registers => exact changes_registerNode node
  | opensPaths =>
      simp only [takeStage, openPaths]
      split
      · exact Changes.refl mesh
      · exact changes_updateContext _ (fun _ => rfl) (fun _ _ _ blocked => blocked)
          (fun _ _ => listsOpen_refl _)
  | joins =>
      simp only [takeStage, joinGroup]
      split
      · exact Changes.refl mesh
      · exact changes_outside rfl rfl rfl

end Mesh

namespace Ongoing

variable {ongoing after : Ongoing} {turn : Turn} {kept : Nat → Prop}

theorem unlisted_update_self {node : Nat} {stage : Stage} (unlisted : stage.isUnlisted = true)
    (ongoing : Ongoing) (mesh : Mesh) :
    Unlisted { ongoing with
      mesh, stage := Function.update ongoing.stage node (some stage) } node := by
  rw [Unlisted]
  simp [unlisted]

theorem isUnlisted_stage (request : StartRequest) : request.stage.isUnlisted = true := by
  rw [StartRequest.stage]
  cases request.hook? <;> rfl

/-- A turn is a sequence of changes, in which only nodes that are not listed yet do what a node does
that is starting. -/
theorem Takes.changes (takes : ongoing.Takes turn after) (orderly : ongoing.mesh.Orderly)
    (keeps : turn.Keeps kept) : Changes kept after.Unlisted ongoing.mesh after.mesh := by
  cases takes with
  | idle => exact Changes.refl _
  | moved move => exact Mesh.changes_perform orderly (keeps move rfl)
  | @declined request failed error prepared =>
      have preparation := Mesh.preparation_prepare ongoing.mesh request
      rw [prepared] at preparation
      cases preparation with
      | untouched => exact Changes.refl _
      | failed catalog nextPort => exact Mesh.changes_catalogued request.context catalog nextPort
  | @began request listening profile prepared =>
      have preparation := Mesh.preparation_prepare ongoing.mesh request
      rw [prepared] at preparation
      cases preparation with
      | listening context known catalog nextPort =>
          have still := ongoing.mesh.context?_catalogued request.context catalog nextPort
            request.context
          rw [if_pos rfl, known, Option.map_some] at still
          exact (Mesh.changes_catalogued request.context catalog nextPort).trans
            (Mesh.changes_enlist request profile still
              (unlisted_update_self (isUnlisted_stage request) ongoing _))
  | wentOn node reached alive =>
      refine Mesh.changes_takeStage orderly alive _ ?_
      rintro hook rfl
      exact unlisted_update_self rfl ongoing _
  | signaled node =>
      exact Mesh.changes_askEarly orderly (unlisted_update_self rfl ongoing _)
  | took node linked received =>
      exact Mesh.changes_takeQueued orderly (Mesh.link?_self linked) received
  | wrote => exact Mesh.changes_outside rfl rfl rfl
  | failed node linked => exact Mesh.changes_endLink orderly (Mesh.link?_self linked)

/-- In a turn other than the one that lists it, a node that was not listed is not. -/
theorem Takes.unlisted (takes : ongoing.Takes turn after)
    (unregistered : ∀ node, turn = .goesOn node → ongoing.stage node ≠ some .registers)
    {node : Nat} (unlisted : ongoing.Unlisted node) : after.Unlisted node := by
  have updated : ∀ {other : Nat} {stage : Option Stage} {mesh : Mesh},
      (node = other → stage.any Stage.isUnlisted = true) →
      Unlisted { ongoing with
        mesh, stage := Function.update ongoing.stage other stage } node := by
    intro other stage mesh here
    change (Function.update ongoing.stage other stage node).any Stage.isUnlisted = true
    by_cases same : node = other
    · subst same
      rw [Function.update_self]
      exact here rfl
    · rw [Function.update_of_ne same]
      exact unlisted
  cases takes with
  | began request => exact updated fun _ => isUnlisted_stage request
  | signaled => exact updated fun _ => rfl
  | @wentOn other stage reached =>
      refine updated ?_
      rintro rfl
      cases stage with
      | storesHook => rfl
      | registers => exact absurd reached (unregistered node rfl)
      | opensPaths | joins =>
          rw [Unlisted, reached] at unlisted
          cases unlisted
  | _ => exact unlisted

/-- What a context lists when the start of a node registers it. -/
theorem lists_registerNode (orderly : ongoing.mesh.Orderly)
    (lists : ongoing.mesh.Lists ongoing.Unlisted) (node : Nat) :
    (ongoing.mesh.registerNode node).Lists
      (Unlisted { ongoing with stage := Function.update ongoing.stage node (some .opensPaths) }) := by
  have changes : Changes (fun _ => False) (fun _ => False) ongoing.mesh
      (ongoing.mesh.registerNode node) := Mesh.changes_registerNode node
  have still := changes.lists orderly (fun _ => False.elim) lists
  intro other entry context found known alive isOpen
  by_cases same : other = node
  · subst same
    left
    rw [Mesh.nodes_registerNode] at found
    rw [Mesh.registerNode, found] at known
    dsimp only at known
    rw [Mesh.context?_updateContext, if_pos rfl] at known
    obtain ⟨old, -, rfl⟩ := Option.map_eq_some_iff.mp known
    exact List.mem_append_right _ List.mem_cons_self
  · refine (still other entry context found known alive isOpen).imp_right ?_
    intro unlisted
    change (Function.update ongoing.stage node _ other).any Stage.isUnlisted = true
    rw [Function.update_of_ne same]
    exact unlisted

/-- A context lists its open nodes, except for those whose start has not come so far. -/
theorem Takes.lists (takes : ongoing.Takes turn after) (orderly : ongoing.mesh.Orderly)
    (lists : ongoing.mesh.Lists ongoing.Unlisted) : after.mesh.Lists after.Unlisted := by
  have changes : Changes (fun _ => False) after.Unlisted ongoing.mesh after.mesh :=
    takes.changes orderly fun _ _ _ _ _ => id
  by_cases registers : ∃ node, turn = .goesOn node ∧ ongoing.stage node = some .registers
  · obtain ⟨node, rfl, reached⟩ := registers
    cases takes with
    | idle => exact lists
    | wentOn _ there =>
        rw [reached] at there
        cases there
        exact lists_registerNode orderly lists node
  · refine changes.lists orderly (fun _ => id) ?_
    intro number entry context found known alive isOpen
    refine (lists number entry context found known alive isOpen).imp_right ?_
    apply takes.unlisted
    intro node same reached
    exact registers ⟨node, same, reached⟩

/-! ## Courses -/

/-- What every change preserves, a course preserves. -/
theorem course_induction {holds : Mesh → Prop}
    (preserved : ∀ {starting : Nat → Prop} {before after : Mesh},
      Change kept starting before after → before.Orderly → holds before → holds after)
    (orderly : ongoing.mesh.Orderly) (start : holds ongoing.mesh) {turns : List Turn}
    (keep : ∀ turn ∈ turns, turn.Keeps kept) :
    (ongoing.course turns).mesh.Orderly ∧ holds (ongoing.course turns).mesh := by
  induction turns generalizing ongoing with
  | nil => exact ⟨orderly, start⟩
  | cons turn rest ih =>
      have changes := (ongoing.takes_turn turn).changes orderly (keep turn List.mem_cons_self)
      obtain ⟨orderlyNext, next⟩ := changes.induction (fun change => preserved change) orderly start
      exact ih orderlyNext next fun turn member => keep turn (List.mem_cons_of_mem _ member)

theorem Turn.keeps_none (turn : Turn) : turn.Keeps fun _ => False :=
  fun _ _ _ _ _ => id

theorem lists_course (orderly : ongoing.mesh.Orderly)
    (lists : ongoing.mesh.Lists ongoing.Unlisted) (turns : List Turn) :
    (ongoing.course turns).mesh.Orderly ∧
      (ongoing.course turns).mesh.Lists (ongoing.course turns).Unlisted := by
  induction turns generalizing ongoing with
  | nil => exact ⟨orderly, lists⟩
  | cons turn rest ih =>
      have takes := ongoing.takes_turn turn
      have changes := takes.changes orderly (Turn.keeps_none turn)
      exact ih (changes.orderly orderly) (takes.lists orderly lists)

/-- Whatever happens to a process that began empty, each of its nodes has come where it is by acts
of its own, and a context lists its open nodes as soon as they are registered. -/
theorem orderly_course (host : List Interface) (workingDirectory : String) (disk : Files.Disk)
    (turns : List Turn) :
    ((initial host workingDirectory disk).course turns).mesh.Orderly ∧
      ((initial host workingDirectory disk).course turns).mesh.Lists
        ((initial host workingDirectory disk).course turns).Unlisted :=
  lists_course (Mesh.orderly_initial host workingDirectory disk)
    (Mesh.lists_initial host workingDirectory disk _) turns

/-! ## Turns without a break -/

theorem turn_goesOn {node : Nat} {stage : Stage} (reached : ongoing.stage node = some stage)
    (alive : ongoing.mesh.nodeAlive node = true) :
    ongoing.turn (.goesOn node) =
      ⟨ongoing.mesh.takeStage node stage, Function.update ongoing.stage node stage.next?,
        ongoing.unwritten⟩ := by
  simp only [Ongoing.turn, goOn, reached, alive, if_true]

theorem turn_goesOn_of_none {node : Nat} (none : ongoing.stage node = none) :
    ongoing.turn (.goesOn node) = ongoing := by
  simp only [Ongoing.turn, goOn, none]

/-- The application holds a node while its start is under way. -/
theorem held_takeStage {mesh : Mesh} {node : Nat}
    (held : (mesh.nodes[node]?).any (·.held) = true) (stage : Stage) :
    ((mesh.takeStage node stage).nodes[node]?).any (·.held) = true := by
  by_cases stores : ∃ hook, stage = .storesHook hook
  · obtain ⟨hook, rfl⟩ := stores
    simp only [Mesh.takeStage, Mesh.storeHook, Mesh.updateNode, List.getElem?_modify_eq]
    rw [Option.map_eq_map, Option.any_map]
    exact held
  · rwa [Mesh.nodes_takeStage mesh node fun hook same => stores ⟨hook, same⟩]

theorem nodeAlive_of_held {mesh : Mesh} {node : Nat}
    (held : (mesh.nodes[node]?).any (·.held) = true) : mesh.nodeAlive node = true := by
  obtain ⟨entry, found, isHeld⟩ := (Option.any_eq_true _ _).mp held
  rw [Mesh.nodeAlive_eq found, isHeld]
  rfl

theorem turn_goesOn_of_held {node : Nat} {stage : Stage} (reached : ongoing.stage node = some stage)
    (held : (ongoing.mesh.nodes[node]?).any (·.held) = true) :
    ongoing.turn (.goesOn node) =
      ⟨ongoing.mesh.takeStage node stage, Function.update ongoing.stage node stage.next?,
        ongoing.unwritten⟩ :=
  turn_goesOn reached (nodeAlive_of_held held)

/-- What a start still does when its hook is stored, or when there is none. -/
theorem course_goesOn (ongoing : Ongoing) {node : Nat}
    (reached : ongoing.stage node = some .registers)
    (held : (ongoing.mesh.nodes[node]?).any (·.held) = true) :
    ongoing.course (List.replicate 3 (.goesOn node)) =
      ⟨((ongoing.mesh.registerNode node).openPaths node).joinGroup node,
        Function.update ongoing.stage node none, ongoing.unwritten⟩ := by
  have registered := held_takeStage held .registers
  have opened := held_takeStage registered .opensPaths
  simp only [List.replicate]
  rw [course_cons, turn_goesOn_of_held reached held, course_cons,
    turn_goesOn_of_held (Function.update_self node _ _) registered, course_cons,
    turn_goesOn_of_held (Function.update_self node _ _) opened]
  simp only [Function.update_idem]
  rfl

theorem course_goesOn_of_none (ongoing : Ongoing) {node : Nat} (finished : ongoing.stage node = none)
    (count : Nat) : ongoing.course (List.replicate count (.goesOn node)) = ongoing := by
  induction count with
  | zero => rfl
  | succ count ih => rw [List.replicate_succ, course_cons, turn_goesOn_of_none finished, ih]

theorem held_enlist (mesh : Mesh) (request : StartRequest) (profile : Profile) :
    ((mesh.enlist request profile).1.nodes[mesh.nodes.length]?).any (·.held) = true := by
  rw [Mesh.enlist_eq, List.getElem?_concat_length]
  rfl

/-- The stages of a start without a break. -/
theorem course_stages {mesh : Mesh} (request : StartRequest) (profile : Profile)
    (unstarted : ongoing.stage mesh.nodes.length = none) :
    course ⟨(mesh.enlist request profile).1,
        Function.update ongoing.stage mesh.nodes.length (some request.stage), ongoing.unwritten⟩
        (List.replicate 4 (.goesOn mesh.nodes.length)) =
      ⟨(mesh.launch request profile).1, ongoing.stage, ongoing.unwritten⟩ := by
  have held := held_enlist mesh request profile
  have number : (mesh.enlist request profile).2 = mesh.nodes.length := by rw [Mesh.enlist_eq]
  have restored : Function.update ongoing.stage mesh.nodes.length none = ongoing.stage := by
    rw [← unstarted, Function.update_eq_self]
  rw [StartRequest.stage]
  simp only [Mesh.launch, number]
  cases request.hook? with
  | none =>
      rw [List.replicate_succ', course_append, course_goesOn _ (Function.update_self _ _ _) held]
      simp only [Function.update_idem, restored]
      refine course_goesOn_of_none ⟨_, ongoing.stage, ongoing.unwritten⟩ ?_ 1
      exact unstarted
  | some hook =>
      rw [List.replicate_succ, course_cons, turn_goesOn_of_held (Function.update_self _ _ _) held,
        course_goesOn _ (Function.update_self _ _ _) (held_takeStage held (.storesHook hook))]
      simp only [Function.update_idem, restored]
      rfl

/-- A start whose turns come without a break is the move that it was. -/
theorem course_start (request : StartRequest)
    (unstarted : ongoing.stage ongoing.mesh.nodes.length = none) :
    ongoing.course (.beginsStart request :: List.replicate 4 (.goesOn ongoing.mesh.nodes.length)) =
      ongoing.turn (.moves (.starts request)) := by
  have preparation := Mesh.preparation_prepare ongoing.mesh request
  have moved : ongoing.turn (.moves (.starts request)) =
      { ongoing with mesh := (ongoing.mesh.start request).1 } := rfl
  rw [moved, course_cons, Ongoing.turn, beginStart, Mesh.start]
  generalize ongoing.mesh.prepare request = result at preparation
  cases preparation with
  | untouched => exact course_goesOn_of_none ongoing unstarted 4
  | failed catalog nextPort =>
      exact course_goesOn_of_none
        { ongoing with mesh := ongoing.mesh.catalogued request.context catalog nextPort }
        unstarted 4
  | listening context known catalog nextPort profile =>
      exact course_stages request profile unstarted

/-- A write that is read at once is the move that it was. -/
theorem course_write {node : Nat} {slot : Slot} {link : Link} {handle : Handle} {bytes : Bytes}
    (unoccupied : ongoing.unwritten (node, slot) = [])
    (linked : ongoing.mesh.link? node slot = some link)
    (received : link.handle.receive = (handle, some bytes))
    (read : ongoing.mesh.readerGone link = false) :
    ongoing.course [.beginsWrite node slot, .writes node slot bytes.length] =
      ongoing.turn (.moves (.proceeds (.linkWrote node slot))) := by
  have free : ongoing.isFree (.proceeds (.linkWrote node slot)) = true := by
    rw [isFree, Move.pumps?, Option.all_some, unoccupied]
    rfl
  have moved : ongoing.turn (.moves (.proceeds (.linkWrote node slot))) =
      { ongoing with
        mesh := (ongoing.mesh.takeQueued node link handle).writeFrom link.socket bytes } := by
    simp only [Ongoing.turn, free, if_true, Mesh.perform, Mesh.step, linked, Option.elim_some,
      Mesh.writeLink, received, read, Bool.and_false, Bool.false_eq_true, if_false]
  have took : ongoing.turn (.beginsWrite node slot) =
      ⟨ongoing.mesh.takeQueued node link handle, ongoing.stage,
        Function.update ongoing.unwritten (node, slot) bytes⟩ := by
    simp only [Ongoing.turn, unoccupied, List.isEmpty_nil, if_true, linked, Option.elim_some,
      beginWrite, received]
  have still : (ongoing.mesh.takeQueued node link handle).link? node slot =
      some { link with handle } := by
    obtain ⟨owner, there, found⟩ := Option.bind_eq_some_iff.mp linked
    obtain ⟨entry, here, rfl⟩ := Mesh.found_of_node? there
    obtain ⟨bound, -⟩ := List.getElem?_eq_some_iff.mp here
    rw [Mesh.link?, Mesh.node?, Mesh.takeQueued, Mesh.nodes_updateNode here,
      List.getElem?_set_self bound, Option.map_some, Option.bind_some, Node.link?_updateHandle,
      found, Option.map_some, if_pos rfl]
  have stillRead : (ongoing.mesh.takeQueued node link handle).readerGone { link with handle } =
      false := read
  rw [moved, course_cons, took, course_cons]
  simp only [Ongoing.turn, still, Option.elim_some, stillRead, Bool.false_eq_true, if_false, write,
    Function.update_self, List.take_length, List.drop_length, Function.update_idem]
  rw [← unoccupied, Function.update_eq_self]
  rfl

end Ongoing

end PeerMesh
