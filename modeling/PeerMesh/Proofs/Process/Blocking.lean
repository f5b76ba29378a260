import PeerMesh.Proofs.Process.Ongoing

/-!
# Blocked peers stay out

A peer is blocked for a context in three steps: it is put on the blocklist, the open nodes of the
context are looked up, and one after the other they drop it. Whoever is not among these nodes has no
part in the peer: a node that is gone has no connection, a closed one has no entry, and one that is
started later begins without either. From the first step on no node of the context takes the peer's
name for a connection, so at the end all nodes shun it, and do so as long as the context is not
reset.

A node whose start is under way is served before its context lists it. If it is looked for in
between, it is not found; should a connection of it have been identified as the peer before the peer
was put on the blocklist, it keeps that connection.
-/

set_option autoImplicit false

namespace PeerMesh

theorem Node.Situation.Initial.shuns {situation : Situation} (initial : situation.Initial)
    (peer : String) : situation.node.Shuns peer := by
  obtain ⟨profile, request, moment, fresh⟩ := initial
  refine Shuns.of_no_entries ?_
  rw [fresh]
  rfl

namespace Mesh

open Node (Act Situation)

variable {mesh before after : Mesh} {starting : Nat → Prop} {number : Nat} {peer : String}
  {rest spared : Nat → Prop}

/-! ## The invariant -/

/-- The node has an open connection that is identified as the peer. -/
def Keeps (mesh : Mesh) (peer : String) (node : Nat) : Prop :=
  ∃ entry, mesh.nodes[node]? = some entry ∧ ¬ entry.node.Shuns peer

/-- The peer is on the blocklist of the context, and all nodes of the context but those in `rest`
shun it. -/
structure Banishes (mesh : Mesh) (number : Nat) (peer : String) (rest : Nat → Prop) : Prop where
  blocked : ∃ context, mesh.context? number = some context ∧
    context.blocklist.contains peer = true
  shunned : ∀ (node : Nat) (entry : NodeEntry), mesh.nodes[node]? = some entry →
    entry.context = number → rest node ∨ entry.node.Shuns peer

theorem Banishes.mono (banishes : mesh.Banishes number peer rest) {fewer : Nat → Prop}
    (among : ∀ node, rest node → fewer node) : mesh.Banishes number peer fewer where
  blocked := banishes.blocked
  shunned := fun node entry found on => (banishes.shunned node entry found on).imp_left (among node)

theorem Banishes.blocks (banishes : mesh.Banishes number peer rest)
    {entry : NodeEntry} (on : entry.context = number) :
    (mesh.surroundings entry).blocks peer = true := by
  obtain ⟨context, known, blocked⟩ := banishes.blocked
  change (mesh.blocklistOf entry.context).contains peer = true
  rw [on, blocklistOf_of_known known]
  exact blocked

theorem Change.banishes (change : Change (· = number) starting before after)
    (orderly : before.Orderly) (banishes : before.Banishes number peer rest) :
    after.Banishes number peer rest where
  blocked := by
    obtain ⟨context, known, blocked⟩ := banishes.blocked
    obtain ⟨new, still, continues⟩ := change.context? known
    exact ⟨new, still, continues.blocked rfl peer blocked⟩
  shunned := by
    intro node later found on
    cases change.origin found with
    | stayed earlier there same context =>
        rw [context] at on
        rw [same]
        exact banishes.shunned node earlier there on
    | acted earlier context act there known sees _ _ _ same =>
        subst same
        refine (banishes.shunned node earlier there on).imp_right ?_
        intro shuns
        obtain ⟨shared, sharedKnown, reached⟩ := orderly.followed node earlier there
        rw [known] at sharedKnown
        cases sharedKnown
        refine shuns.step reached.sound reached.threaded ?_
        intro around seen
        rw [sees around seen]
        exact banishes.blocks on
    | launched context _ _ _ fresh => exact .inr (fresh.shuns peer)

/-! ## Its steps -/

/-- Once the peer is on the blocklist, only nodes that have a connection to it already do not shun
it. -/
theorem banishes_addToBlocklist (known : (mesh.context? number).isSome = true) (peer : String) :
    (mesh.addToBlocklist number peer).Banishes number peer (mesh.Keeps peer) where
  blocked := by
    obtain ⟨context, found⟩ := Option.isSome_iff_exists.mp known
    refine ⟨{ context with blocklist := context.blocklist.insert peer }, ?_, ?_⟩
    · refine (context?_updateContext mesh number _ number).trans ?_
      rw [if_pos rfl, found, Option.map_some]
    · rw [Blocklist.contains_insert, beq_self_eq_true, Bool.true_or]
  shunned := by
    intro node entry found _
    by_cases shuns : entry.node.Shuns peer
    · exact .inr shuns
    · exact .inl ⟨entry, found, shuns⟩

/-- Nodes that are not open have no part in any peer, and open nodes are found unless they are
spared. -/
theorem Banishes.found (banishes : mesh.Banishes number peer rest) (orderly : mesh.Orderly)
    (lists : mesh.Lists spared) :
    mesh.Banishes number peer fun node =>
      rest node ∧ (node ∈ mesh.openNodes number ∨ spared node) where
  blocked := banishes.blocked
  shunned := by
    rintro node entry found rfl
    rcases banishes.shunned node entry found rfl with among | shuns
    · obtain ⟨shared, sharedKnown, reached⟩ := orderly.followed node entry found
      by_cases alive : mesh.nodeAlive node = true
      · cases closed : entry.node.closed with
        | true => exact .inr (.of_no_entries (reached.shut.no_entries closed))
        | false =>
            refine .inl ⟨among, ?_⟩
            refine (lists node entry shared found sharedKnown alive closed).imp_left ?_
            intro listed
            obtain ⟨holder, there, rfl⟩ := Option.map_eq_some_iff.mp sharedKnown
            rw [openNodes, there]
            refine List.mem_filter.mpr ⟨listed, ?_⟩
            simp only [alive, node?, found, Option.map_some, Option.any_some, closed, Bool.not_false,
              Bool.and_self]
      · refine .inr (.of_no_links ?_)
        rw [nodeAlive_eq found, Bool.or_eq_true, Bool.or_eq_true, not_or, not_or] at alive
        have unserved := alive.1.2
        rw [isServing, Bool.or_eq_true, not_or] at unserved
        simpa using unserved.2
    · exact .inr shuns

/-- A node that drops the peer is settled. -/
theorem Banishes.dropped (banishes : mesh.Banishes number peer rest) (orderly : mesh.Orderly)
    (node : Nat) :
    (mesh.dropPeer node peer).1.Banishes number peer fun other => rest other ∧ other ≠ node := by
  have changes : Changes (fun other => other = number) (fun _ => False) mesh
      (mesh.dropPeer node peer).1 := changes_dropPeer orderly node peer
  have still :=
    (changes.induction (fun change orderly => change.banishes orderly) orderly banishes).2
  refine ⟨still.blocked, ?_⟩
  intro other later found on
  refine (still.shunned other later found on).elim ?_ .inr
  intro among
  by_cases here : other = node
  · subst here
    right
    cases there : mesh.nodes[other]? with
    | none =>
        rw [dropPeer, stepNode, there] at found
        rw [there] at found
        cases found
    | some entry =>
        obtain ⟨context, -, reached⟩ := orderly.followed other entry there
        have nodes := nodes_updateNode there fun _ => (entry.node.dropPeer peer).1
        obtain ⟨bound, -⟩ := List.getElem?_eq_some_iff.mp there
        rw [dropPeer, stepNode_of_found there, nodes, List.getElem?_set_self bound] at found
        cases found
        exact Node.shuns_dropPeer reached.sound peer
  · exact .inl ⟨among, here⟩

/-! ## Blocking -/

/-- A move by which the application blocks a peer for a context: it asks for that, or it reads a
path that bans, with the peer as the host. -/
inductive Blocks (mesh : Mesh) (number : Nat) (peer : String) : Move → Prop where
  | asked (known : (mesh.context? number).isSome = true) :
      Blocks mesh number peer (.blocks number peer)
  | banned (known : (mesh.context? number).isSome = true) :
      Blocks mesh number peer (.bans number (some peer))
  | read {path : String} {options : Files.PathOptions}
      (serves : (mesh.context? number).bind (·.messages.handler? path) = some .ban)
      (host : options.get? Control.hostOption = some peer)
      (alive : mesh.contextAlive number = true) :
      Blocks mesh number peer (.reads number path options)
  | readThrough {node : Nat} {path : String} {options : Files.PathOptions}
      (on : (mesh.nodes[node]?).map (·.context) = some number)
      (serves : (mesh.context? number).bind (·.messages.handler? path) = some .ban)
      (host : options.get? Control.hostOption = some peer)
      (alive : mesh.nodeAlive node = true) :
      Blocks mesh number peer (.calls node (.reads path options))

theorem Blocks.known {move : Move} (blocks : mesh.Blocks number peer move) :
    (mesh.context? number).isSome = true := by
  have served : ∀ {path : String},
      (mesh.context? number).bind (·.messages.handler? path) = some .ban →
      (mesh.context? number).isSome = true := by
    intro path serves
    obtain ⟨context, known, -⟩ := Option.bind_eq_some_iff.mp serves
    rw [known]
    rfl
  cases blocks with
  | asked known => exact known
  | banned known => exact known
  | read serves => exact served serves
  | readThrough _ serves => exact served serves

theorem perform_of_blocks {move : Move} (blocks : mesh.Blocks number peer move) :
    mesh.perform move = (mesh.blockPeer number peer).1 := by
  have reading : ∀ {path : String} {options : Files.PathOptions},
      (mesh.context? number).bind (·.messages.handler? path) = some .ban →
      options.get? Control.hostOption = some peer → mesh.contextAlive number = true →
      ∃ report, mesh.readMessage number path options =
        ((mesh.blockPeer number peer).1, some report) := by
    intro path options serves host alive
    have handled : ((mesh.contexts[number]?).bind fun entry =>
        entry.context.messages.handler? path) = some .ban := by
      rwa [context?, Option.bind_map] at serves
    rw [readMessage, handled]
    simp only [serve, alive, if_true, host, ban]
    exact ⟨_, rfl⟩
  cases blocks with
  | asked => rfl
  | banned => rfl
  | read serves host alive =>
      obtain ⟨report, result⟩ := reading serves host alive
      rw [perform, result]
  | @readThrough node path options on serves host alive =>
      obtain ⟨entry, found, same⟩ := Option.map_eq_some_iff.mp on
      have contextAlive : mesh.contextAlive number = true := by
        obtain ⟨bound, -⟩ := List.getElem?_eq_some_iff.mp found
        have living : node ∈ mesh.livingNodes :=
          List.mem_filter.mpr ⟨List.mem_range.mpr bound, alive⟩
        rw [Mesh.contextAlive, Bool.or_eq_true]
        refine .inr (List.any_eq_true.mpr ⟨node, living, ?_⟩)
        rw [found, Option.any_some, same, beq_self_eq_true]
      obtain ⟨report, result⟩ := reading serves host contextAlive
      obtain ⟨rest, members⟩ := List.head?_eq_some_iff.mp entry.files.led
      rw [perform, if_pos alive, performCall, found, Option.elim_some, readThrough, same, members,
        readFirst, readFrom, result]

end Mesh

namespace Ongoing

open Mesh (Move Banishes Blocks)

variable {ongoing before lookup last : Ongoing} {number : Nat} {peer : String}
  {rest : Nat → Prop}

/-- The process when a peer has been put on the blocklist of a context. -/
def addToBlocklist (ongoing : Ongoing) (number : Nat) (peer : String) : Ongoing :=
  { ongoing with mesh := ongoing.mesh.addToBlocklist number peer }

/-- The process when a node has dropped a peer. -/
def dropPeer (ongoing : Ongoing) (node : Nat) (peer : String) : Ongoing :=
  { ongoing with mesh := (ongoing.mesh.dropPeer node peer).1 }

/-- Nodes drop the peer one after the other, with any turns in between that do not reset the
context. -/
inductive DropsInTurn (number : Nat) (peer : String) : Ongoing → List Nat → Ongoing → Prop where
  | done (ongoing : Ongoing) : DropsInTurn number peer ongoing [] ongoing
  | next {ongoing last : Ongoing} {node : Nat} {rest : List Nat} (turns : List Turn)
      (keep : ∀ turn ∈ turns, turn.Keeps (· = number))
      (others : DropsInTurn number peer ((ongoing.dropPeer node peer).course turns) rest last) :
      DropsInTurn number peer ongoing (node :: rest) last

/-- The peer has been blocked for the context: by one move, or step by step with other turns in
between. The nodes of the context were looked up in the state `lookup`. -/
inductive Blocked (number : Nat) (peer : String) (before : Ongoing) : Ongoing → Ongoing → Prop where
  | atOnce (move : Move) (blocks : before.mesh.Blocks number peer move) :
      Blocked number peer before (before.addToBlocklist number peer) (before.turn (.moves move))
  | inSteps {last : Ongoing} (known : (before.mesh.context? number).isSome = true)
      (turns : List Turn) (keep : ∀ turn ∈ turns, turn.Keeps (· = number))
      (drops : DropsInTurn number peer ((before.addToBlocklist number peer).course turns)
        (((before.addToBlocklist number peer).course turns).mesh.openNodes number) last) :
      Blocked number peer before ((before.addToBlocklist number peer).course turns) last

theorem banishes_course (orderly : ongoing.mesh.Orderly) {turns : List Turn}
    (keep : ∀ turn ∈ turns, turn.Keeps (· = number))
    (banishes : ongoing.mesh.Banishes number peer rest) :
    (ongoing.course turns).mesh.Orderly ∧
      (ongoing.course turns).mesh.Banishes number peer rest := by
  exact course_induction (fun change orderly => change.banishes orderly) orderly banishes keep

theorem dropsInTurn_dropPeerOn (ongoing : Ongoing) (number : Nat) (peer : String)
    (nodes : List Nat) :
    DropsInTurn number peer ongoing nodes
      { ongoing with mesh := (ongoing.mesh.dropPeerOn peer nodes).1 } := by
  induction nodes generalizing ongoing with
  | nil => exact .done ongoing
  | cons node rest ih =>
      refine .next [] ?_ (ih _)
      rintro turn ⟨⟩

theorem DropsInTurn.banishes {nodes : List Nat} (drops : DropsInTurn number peer ongoing nodes last)
    (orderly : ongoing.mesh.Orderly) {spared : Nat → Prop}
    (banishes : ongoing.mesh.Banishes number peer fun node =>
      rest node ∧ (node ∈ nodes ∨ spared node)) :
    last.mesh.Orderly ∧ last.mesh.Banishes number peer fun node => rest node ∧ spared node := by
  induction drops with
  | done =>
      refine ⟨orderly, banishes.mono ?_⟩
      rintro node ⟨among, listed | exempt⟩
      · cases listed
      · exact ⟨among, exempt⟩
  | @next ongoing last node others turns keep _ ih =>
      have changes : Mesh.Changes (fun _ => False) (fun _ => False) ongoing.mesh
          (ongoing.mesh.dropPeer node peer).1 := Mesh.changes_dropPeer orderly node peer
      have remaining : (ongoing.dropPeer node peer).mesh.Banishes number peer fun other =>
          rest other ∧ (other ∈ others ∨ spared other) := by
        refine (banishes.dropped orderly node).mono ?_
        rintro other ⟨⟨among, unsettled⟩, different⟩
        refine ⟨among, unsettled.imp_left ?_⟩
        intro listed
        exact (List.mem_cons.mp listed).resolve_left different
      obtain ⟨orderlyNext, banishesNext⟩ := banishes_course (changes.orderly orderly) keep remaining
      exact ih orderlyNext banishesNext

/-- When a peer has been blocked, all nodes of the context shun it, except for those that were
connected to it before and could not be found. -/
theorem Blocked.banishes (blocked : Blocked number peer before lookup last)
    (orderly : before.mesh.Orderly) (lists : before.mesh.Lists before.Unlisted) :
    last.mesh.Orderly ∧ last.mesh.Banishes number peer fun node =>
      before.mesh.Keeps peer node ∧ lookup.Unlisted node := by
  have steps : ∀ {last : Ongoing} (turns : List Turn),
      (∀ turn ∈ turns, turn.Keeps (· = number)) →
      (before.mesh.context? number).isSome = true →
      DropsInTurn number peer ((before.addToBlocklist number peer).course turns)
        (((before.addToBlocklist number peer).course turns).mesh.openNodes number) last →
      last.mesh.Orderly ∧ last.mesh.Banishes number peer fun node =>
        before.mesh.Keeps peer node ∧
          ((before.addToBlocklist number peer).course turns).Unlisted node := by
    intro last turns keep known drops
    have blocks : Mesh.Changes (fun _ => False) (fun _ => False) before.mesh
        (before.addToBlocklist number peer).mesh := Mesh.changes_addToBlocklist number peer
    have between := blocks.orderly orderly
    have listsNow : (before.addToBlocklist number peer).mesh.Lists
        (before.addToBlocklist number peer).Unlisted :=
      blocks.lists orderly (fun _ => False.elim) lists
    obtain ⟨orderlyThen, banishes⟩ :=
      banishes_course between keep (Mesh.banishes_addToBlocklist known peer)
    have listsThen := (lists_course between listsNow turns).2
    exact drops.banishes orderlyThen (banishes.found orderlyThen listsThen)
  cases blocked with
  | inSteps known turns keep drops => exact steps turns keep known drops
  | atOnce move blocks =>
      have free : before.isFree move = true := by cases blocks <;> rfl
      rw [Ongoing.turn, if_pos free, Mesh.perform_of_blocks blocks]
      refine steps [] ?_ blocks.known (dropsInTurn_dropPeerOn _ number peer _)
      rintro turn ⟨⟩

/-- A peer that is identified while the start of its node is under way is not found. -/
example :
    let early : Ongoing := (initial [] "/" .empty).course
      [.moves (.addsContext "m" (some .empty) false),
        .beginsStart ⟨.withPort 5000, 0, none, true, false⟩, .moves .opensStream,
        .moves (.arrives 0 0 (.connection (.v4 ⟨192, 0, 2, 1⟩ 40000) ⟨0, .callee⟩)),
        .moves (.proceeds (.accepted 0 0)), .moves (.calls 0 (.identifies ⟨1⟩ "p"))]
    let after := early.course (.moves (.blocks 0 "p") :: List.replicate 4 (.goesOn 0))
    (after.mesh.node? 0).map (·.isConnectedTo "p") = some true ∧ after.stage 0 = none := by
  decide +kernel

end Ongoing

end PeerMesh
