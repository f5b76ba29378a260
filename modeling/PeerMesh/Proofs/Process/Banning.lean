import PeerMesh.Proofs.Node.Standing
import PeerMesh.Proofs.Process.Directory
import PeerMesh.Proofs.Process.Requests
import PeerMesh.Proofs.Text.Order

/-!
# The ban path

Every handler that is ever registered for the ban path of a realm acts on the context alone, so it
does not matter which node registered it, nor what has become of that node. Read with a host, the
path blocks that host: each open node of the context drops the open connection that it finds under
the host's name, be it the first such node or a later one. Read without a host, it lists the
blocklist.
-/

set_option autoImplicit false

namespace PeerMesh

/-! ## One node -/

namespace Node

variable {node : Node} {peer : String} {connection : Connection}

/-- The open connection that a node finds under a name. -/
structure Finds (node : Node) (peer : String) (connection : Connection) : Prop where
  resolved : node.table.registry.slotForName? peer = some connection.slot
  registered : node.table.registry.get? connection.slot = some connection
  isOpen : node.isOpen connection.slot = true

theorem Finds.dropPeer (finds : node.Finds peer connection) :
    node.dropPeer peer = (node.expelled connection, true) := by
  simp only [Node.dropPeer, Registry.removeOpenNamed, finds.resolved, finds.registered,
    finds.isOpen, Option.isSome_some, Bool.and_self, if_true,
    Registry.remove_of_get? finds.registered]
  rfl

theorem found_dropPeer_iff (node : Node) (peer : String) :
    (node.dropPeer peer).2 = true ↔ ∃ connection, node.Finds peer connection := by
  constructor
  · intro found
    rcases dropPeer_cases node peer with same | ⟨connection, resolved, registered, isOpen, -⟩
    · rw [same] at found
      cases found
    · exact ⟨connection, resolved, registered, isOpen⟩
  · intro ⟨connection, finds⟩
    rw [finds.dropPeer]

theorem isPumped_of_isOpen {slot : Slot} (isOpen : node.isOpen slot = true) :
    node.IsPumped slot := by
  rw [Node.isOpen, Option.any_eq_true] at isOpen
  obtain ⟨link, found, -⟩ := isOpen
  refine ⟨link.socket, List.mem_map.mpr ⟨link, List.mem_of_find?_eq_some found, ?_⟩⟩
  rw [slot_of_link? found]

/-- A node drops the connection that it finds. -/
theorem Finds.ousted (finds : node.Finds peer connection) :
    ((node.dropPeer peer).1.standing connection.slot).Ousted := by
  rw [finds.dropPeer]
  exact ousted_expelled (isPumped_of_isOpen finds.isOpen)

end Node

/-! ## The list -/

theorem Utf8.encode_join (texts : List String) :
    encode (String.join texts) = texts.flatMap encode := by
  induction texts with
  | nil => rfl
  | cons text rest ih => rw [String.join_cons, encode_append, ih, List.flatMap_cons]

theorem Control.encode_blockedLines (peers : List String) :
    Utf8.encode (blockedLines peers) = peers.flatMap fun peer => Utf8.encode peer ++ [10] := by
  rw [blockedLines, Utf8.encode_join, List.flatMap_map]
  refine List.flatMap_congr ?_
  intro peer _
  exact Utf8.encode_append peer "\n"

namespace Blocklist

theorem mem_list {blocklist : Blocklist} {peer : String} :
    peer ∈ blocklist.list ↔ blocklist.contains peer = true := by
  simp [list, contains, NameMap.names, NameMap.contains]

theorem nodup_list (blocklist : Blocklist) : blocklist.list.Nodup :=
  blocklist.peers.names_nodup

/-- The blocklist is listed in the order of the bytes. -/
theorem encode_ascending_list (blocklist : Blocklist) :
    (blocklist.list.map Utf8.encode).Pairwise (· < ·) := by
  rw [list, NameMap.names, List.map_map, List.pairwise_map]
  exact blocklist.peers.ascending.imp Utf8.encode_lt

end Blocklist

namespace Mesh

open Control (banPath)

variable {mesh : Mesh} {number : Nat} {peer : String}

/-! ## Several nodes -/

/-- The entry of a node that has dropped a peer. -/
def dropped (peer : String) (entry : NodeEntry) : NodeEntry :=
  { entry with node := (entry.node.dropPeer peer).1 }

theorem dropPeer_of_found {node : Nat} {entry : NodeEntry}
    (found : mesh.nodes[node]? = some entry) (peer : String) :
    mesh.dropPeer node peer =
      (mesh.updateNode node fun _ => (entry.node.dropPeer peer).1,
        (entry.node.dropPeer peer).2) := by
  simp only [dropPeer, stepNode_of_found found]
  cases (entry.node.dropPeer peer).2 <;> rfl

theorem dropPeer_of_unknown {node : Nat} (unknown : mesh.nodes[node]? = none) (peer : String) :
    mesh.dropPeer node peer = (mesh, false) := by
  simp only [dropPeer, stepNode, unknown]
  rfl

theorem nodes_dropPeer (mesh : Mesh) (node : Nat) (peer : String) (other : Nat) :
    (mesh.dropPeer node peer).1.nodes[other]? =
      if other = node then (mesh.nodes[other]?).map (dropped peer) else mesh.nodes[other]? := by
  cases there : mesh.nodes[node]? with
  | none =>
      rw [dropPeer_of_unknown there]
      split
      · rename_i here
        rw [here, there]
        rfl
      · rfl
  | some entry =>
      rw [dropPeer_of_found there]
      split
      · rename_i here
        subst here
        rw [node_updateNode there, there]
        rfl
      · rename_i elsewhere
        rw [nodes_updateNode there]
        exact List.getElem?_set_ne (Ne.symm elsewhere)

theorem found_dropPeer_iff (mesh : Mesh) (node : Nat) (peer : String) :
    (mesh.dropPeer node peer).2 = true ↔
      ∃ entry, mesh.nodes[node]? = some entry ∧ ∃ connection, entry.node.Finds peer connection := by
  cases there : mesh.nodes[node]? with
  | none =>
      rw [dropPeer_of_unknown there]
      constructor
      · intro found
        cases found
      · rintro ⟨other, same, -⟩
        cases same
  | some entry =>
      rw [dropPeer_of_found there, Node.found_dropPeer_iff]
      constructor
      · intro found
        exact ⟨entry, rfl, found⟩
      · rintro ⟨other, same, found⟩
        cases same
        exact found

/-- Each of several nodes drops the peer, whatever the others found. -/
theorem nodes_dropPeerOn (mesh : Mesh) (peer : String) {nodes : List Nat} (distinct : nodes.Nodup)
    (other : Nat) :
    (mesh.dropPeerOn peer nodes).1.nodes[other]? =
      if other ∈ nodes then (mesh.nodes[other]?).map (dropped peer) else mesh.nodes[other]? := by
  induction nodes generalizing mesh with
  | nil => rfl
  | cons node rest ih =>
      obtain ⟨apart, distinctRest⟩ := List.nodup_cons.mp distinct
      change ((mesh.dropPeer node peer).1.dropPeerOn peer rest).1.nodes[other]? = _
      rw [ih _ distinctRest, nodes_dropPeer]
      by_cases here : other = node
      · subst here
        rw [if_neg apart, if_pos rfl, if_pos List.mem_cons_self]
      · simp only [List.mem_cons, here, false_or, if_false]

theorem found_dropPeerOn_iff (mesh : Mesh) (peer : String) {nodes : List Nat}
    (distinct : nodes.Nodup) :
    (mesh.dropPeerOn peer nodes).2 = true ↔ ∃ node ∈ nodes, ∃ entry,
      mesh.nodes[node]? = some entry ∧ ∃ connection, entry.node.Finds peer connection := by
  induction nodes generalizing mesh with
  | nil => simp [dropPeerOn]
  | cons node rest ih =>
      obtain ⟨apart, distinctRest⟩ := List.nodup_cons.mp distinct
      change ((mesh.dropPeer node peer).2 ||
        ((mesh.dropPeer node peer).1.dropPeerOn peer rest).2) = true ↔ _
      rw [Bool.or_eq_true, found_dropPeer_iff, ih _ distinctRest, List.exists_mem_cons_iff]
      -- the nodes after the first one are as they were
      refine or_congr_right ?_
      refine exists_congr fun later => and_congr_right fun listed => ?_
      rw [nodes_dropPeer, if_neg (ne_of_mem_of_not_mem listed apart)]

/-! ## The handlers of ban paths -/

/-- A directory lists the nodes of its context, and what it has under ban paths bans. -/
structure Administers (mesh : Mesh) (number : Nat)
    (directory : Files.MessageFiles Control.Served × List Nat) : Prop where
  bans : ∀ realm served, directory.1.handler? (banPath realm) = some served → served = .ban
  enlists : mesh.Enlists number directory.2

theorem handler?_enrolled_banPath (mesh : Mesh) (profile : Profile) (group : Nat)
    (context : Context) (realm : String) :
    (mesh.enrolled profile group context).messages.handler? (banPath realm) =
      if banPath profile.realm = banPath realm then some .ban
      else context.messages.handler? (banPath realm) := by
  simp only [enrolled, registerPaths, Context.loadSystems, Files.MessageFiles.handler?_add,
    if_neg (Control.banPath_ne_statsMapPath realm profile.realm).symm,
    if_neg (Control.statsPath_ne_banPath profile.realm profile.id realm)]

theorem administers_perform {directory : Files.MessageFiles Control.Served × List Nat}
    (administers : ∀ directory, mesh.directory? number = some directory →
      mesh.Administers number directory) (move : Move)
    (known : (mesh.perform move).directory? number = some directory) :
    (mesh.perform move).Administers number directory := by
  cases directed_perform known with
  | @entered request profile context there here launched =>
      subst here
      obtain ⟨bans, enlists⟩ := administers _ there
      refine ⟨?_, (enlists.filter mesh.nodeAlive).entered launched⟩
      intro realm served registered
      simp only [Context.directory, handler?_enrolled_banPath] at registered
      split at registered
      · exact (Option.some.inj registered).symm
      · exact bans realm served registered
  | beside there other launched =>
      obtain ⟨bans, enlists⟩ := administers directory there
      exact ⟨bans, enlists.launched launched⟩
  | kept there preserves =>
      obtain ⟨bans, enlists⟩ := administers directory there
      exact ⟨bans, enlists.carried preserves⟩
  | added base catalog new preserves =>
      refine ⟨?_, enlists_nil _ number⟩
      intro realm served registered
      cases registered
  | reset there resets preserves =>
      refine ⟨?_, (administers _ there).enlists.carried preserves⟩
      intro realm served registered
      cases registered
  | left there profile stays preserves =>
      obtain ⟨bans, enlists⟩ := administers _ there
      refine ⟨?_, (enlists.filter stays).carried preserves⟩
      intro realm served registered
      rw [left, Files.MessageFiles.handler?_remove,
        if_neg (Control.statsPath_ne_banPath _ _ _)] at registered
      exact bans realm served registered

theorem administers_course (host : List Interface) (workingDirectory : String) (disk : Files.Disk)
    (moves : List Move) {directory : Files.MessageFiles Control.Served × List Nat}
    (known : ((initial host workingDirectory disk).course moves).directory? number =
      some directory) :
    ((initial host workingDirectory disk).course moves).Administers number directory :=
  directory_induction (fun mesh directory => mesh.Administers number directory)
    (fun _ move _ administers there => administers_perform administers move there) host
    workingDirectory disk moves known

/-! ## Blocking -/

/-- A node is open on a context. -/
structure IsOpenOn (mesh : Mesh) (number node : Nat) (entry : NodeEntry) : Prop where
  found : mesh.nodes[node]? = some entry
  on : entry.context = number
  isOpen : entry.node.closed = false

/-- What is made of a process by blocking a peer for a context. -/
structure Bars (before : Mesh) (number : Nat) (peer : String) (after : Mesh) : Prop where
  contexts : ∀ other, after.context? other =
    if other = number then (before.context? number).map fun context =>
      { context with blocklist := context.blocklist.insert peer }
    else before.context? other
  drops : ∀ node entry, before.IsOpenOn number node entry →
    after.nodes[node]? = some (dropped peer entry)
  spares : ∀ node, (∀ entry, ¬ before.IsOpenOn number node entry) →
    after.nodes[node]? = before.nodes[node]?

theorem openNodes_eq (mesh : Mesh) (number : Nat) :
    mesh.openNodes number = ((mesh.directory? number).elim [] (·.2)).filter fun node =>
      mesh.nodeAlive node && !((mesh.node? node).any (·.closed)) := by
  rw [directory?, context?, Option.elim_map, Option.elim_map]
  rfl

theorem openNodes_addToBlocklist (mesh : Mesh) (number : Nat) (peer : String) (other : Nat) :
    (mesh.addToBlocklist number peer).openNodes other = mesh.openNodes other := by
  have same : (mesh.addToBlocklist number peer).directory? other = mesh.directory? other := by
    apply directory?_updateContext
    intro context
    rfl
  rw [openNodes_eq, openNodes_eq, same]
  rfl

theorem contexts_dropPeerOn (mesh : Mesh) (peer : String) (nodes : List Nat) :
    (mesh.dropPeerOn peer nodes).1.contexts = mesh.contexts := by
  induction nodes generalizing mesh with
  | nil => rfl
  | cons node rest ih =>
      refine (ih (mesh.dropPeer node peer).1).trans ?_
      cases there : mesh.nodes[node]? with
      | none => rw [dropPeer_of_unknown there]
      | some entry =>
          rw [dropPeer_of_found there]
          rfl

theorem nodup_openNodes {context : Context} (known : mesh.context? number = some context)
    (enlists : mesh.Enlists number context.nodes) : (mesh.openNodes number).Nodup := by
  have directory : mesh.directory? number = some context.directory := by
    rw [directory?, known, Option.map_some]
  rw [openNodes_eq, directory, Option.elim_some]
  exact (enlists.ascending.imp Nat.ne_of_lt).filter _

/-- The open nodes that a context lists are all there are. -/
theorem mem_openNodes_iff {context : Context} (lists : mesh.Lists fun _ => False)
    (known : mesh.context? number = some context)
    (enlists : mesh.Enlists number context.nodes)
    (living : ∀ (node : Nat) (entry : NodeEntry), mesh.nodes[node]? = some entry →
      entry.node.closed = false → mesh.nodeAlive node = true) (node : Nat) :
    node ∈ mesh.openNodes number ↔ ∃ entry, mesh.IsOpenOn number node entry := by
  have directory : mesh.directory? number = some context.directory := by
    rw [directory?, known, Option.map_some]
  rw [openNodes_eq, directory, Option.elim_some, List.mem_filter, Bool.and_eq_true,
    Bool.not_eq_true']
  constructor
  · rintro ⟨listed, -, isOpen⟩
    obtain ⟨entry, found, on⟩ := enlists.placed node listed
    rw [node?_of_found found, Option.any_some] at isOpen
    exact ⟨entry, found, on, isOpen⟩
  · rintro ⟨entry, found, rfl, isOpen⟩
    have alive := living node entry found isOpen
    have listed := (lists node entry context found known alive isOpen).resolve_right id
    refine ⟨listed, alive, ?_⟩
    rw [node?_of_found found, Option.any_some, isOpen]

theorem blockPeer_eq (mesh : Mesh) (number : Nat) (peer : String) :
    mesh.blockPeer number peer =
      (mesh.addToBlocklist number peer).dropPeerOn peer (mesh.openNodes number) := by
  rw [blockPeer, dropPeerEverywhere, openNodes_addToBlocklist]

theorem found_blockPeer_iff (distinct : (mesh.openNodes number).Nodup)
    (opens : ∀ node, node ∈ mesh.openNodes number ↔ ∃ entry, mesh.IsOpenOn number node entry)
    (peer : String) :
    (mesh.blockPeer number peer).2 = true ↔ ∃ node entry, mesh.IsOpenOn number node entry ∧
      ∃ connection, entry.node.Finds peer connection := by
  rw [blockPeer_eq, found_dropPeerOn_iff _ _ distinct]
  refine exists_congr fun node => ?_
  constructor
  · rintro ⟨listed, entry, found, finds⟩
    obtain ⟨other, isOpen⟩ := (opens node).mp listed
    obtain rfl : other = entry := Option.some.inj (isOpen.found.symm.trans found)
    exact ⟨other, isOpen, finds⟩
  · rintro ⟨entry, isOpen, finds⟩
    exact ⟨(opens node).mpr ⟨entry, isOpen⟩, entry, isOpen.found, finds⟩

theorem bars_blockPeer (distinct : (mesh.openNodes number).Nodup)
    (opens : ∀ node, node ∈ mesh.openNodes number ↔ ∃ entry, mesh.IsOpenOn number node entry)
    (peer : String) : mesh.Bars number peer (mesh.blockPeer number peer).1 := by
  rw [blockPeer_eq]
  have nodes := nodes_dropPeerOn (mesh.addToBlocklist number peer) peer distinct
  constructor
  · intro other
    rw [context?_of_contexts (contexts_dropPeerOn _ peer _)]
    exact context?_updateContext mesh number _ other
  · intro node entry isOpen
    rw [nodes, if_pos ((opens node).mpr ⟨entry, isOpen⟩)]
    change (mesh.nodes[node]?).map _ = _
    rw [isOpen.found, Option.map_some]
  · intro node absent
    rw [nodes, if_neg]
    · rfl
    · rw [opens]
      exact not_exists.mpr absent

/-! ## Reading -/

theorem readMessage_ban {context : Context} {realm : String}
    (known : mesh.context? number = some context)
    (administers : mesh.Administers number context.directory)
    (registered : context.messages.contains (banPath realm) = true)
    (alive : mesh.contextAlive number = true) (options : Files.PathOptions) :
    mesh.readMessage number (banPath realm) options =
      ((mesh.ban number (options.get? Control.hostOption)).1,
        some (Utf8.encode (mesh.ban number (options.get? Control.hostOption)).2)) := by
  rw [Files.MessageFiles.contains, NameMap.contains_eq_isSome_get?] at registered
  obtain ⟨served, handled⟩ := Option.isSome_iff_exists.mp registered
  obtain rfl := administers.bans realm served handled
  have found : mesh.served? number (banPath realm) = some .ban := by
    rw [served?, directory?, known]
    exact handled
  rw [readMessage_of_served? found, serve, if_pos alive]

/-- Reading the ban path of a realm with a host blocks the host for the context, and reports whether
it was blocked before and whether some open node of the context had an open connection found under
that name; all that had one drop it. Reading it without a host leaves everything as it was, and gives
the blocked identifiers line by line in the order of their bytes. -/
theorem reads_ban_path (host : List Interface) (workingDirectory : String) (disk : Files.Disk)
    (moves : List Move) {number : Nat} {context : Context} {realm : String}
    (known : ((initial host workingDirectory disk).course moves).context? number = some context)
    (registered : context.messages.contains (banPath realm) = true)
    (alive : ((initial host workingDirectory disk).course moves).contextAlive number = true)
    (options : Files.PathOptions) :
    let mesh := (initial host workingDirectory disk).course moves
    (∀ peer, options.get? Control.hostOption = some peer →
      let blocked := (mesh.blockPeer number peer).1
      let found := (mesh.blockPeer number peer).2
      mesh.readMessage number (banPath realm) options = (blocked, some (Utf8.encode
        (peer ++ (if context.blocklist.contains peer then " already in blocked peers\n"
            else " added to blocked peers\n") ++
          peer ++ (if found then " connection closed (async)\n"
            else " connection not found\n")))) ∧
      (found = true ↔ ∃ node entry, mesh.IsOpenOn number node entry ∧
        ∃ connection, entry.node.Finds peer connection) ∧
      (∀ node entry connection, mesh.IsOpenOn number node entry →
        entry.node.Finds peer connection → ∃ later, blocked.nodes[node]? = some later ∧
          (later.node.standing connection.slot).Ousted) ∧
      mesh.Bars number peer blocked) ∧
    (options.get? Control.hostOption = none →
      let peers := context.blocklist.list
      mesh.readMessage number (banPath realm) options =
        (mesh, some (peers.flatMap fun peer => Utf8.encode peer ++ [10])) ∧
      (∀ peer, peer ∈ peers ↔ context.blocklist.contains peer = true) ∧ peers.Nodup ∧
      (peers.map Utf8.encode).Pairwise (· < ·)) := by
  intro mesh
  have lists := lists_course host workingDirectory disk moves
  have living : ∀ (node : Nat) (entry : NodeEntry), mesh.nodes[node]? = some entry →
      entry.node.closed = false → mesh.nodeAlive node = true := fun _ _ found isOpen =>
    nodeAlive_of_open host workingDirectory disk moves found isOpen
  have administers : mesh.Administers number context.directory := by
    apply administers_course host workingDirectory disk moves
    rw [directory?, known, Option.map_some]
  have read := readMessage_ban known administers registered alive options
  have blocklist : mesh.blocklistOf number = context.blocklist := blocklistOf_of_known known
  constructor
  · intro peer asked blocked found
    have distinct := nodup_openNodes known administers.enlists
    have opens := mem_openNodes_iff lists known administers.enlists living
    have bars := bars_blockPeer distinct opens peer
    refine ⟨?_, found_blockPeer_iff distinct opens peer, ?_, bars⟩
    · rw [read, asked, ← blocklist]
      rfl
    · intro node entry connection isOpen finds
      exact ⟨dropped peer entry, bars.drops node entry isOpen, finds.ousted⟩
  · intro unasked peers
    refine ⟨?_, fun _ => Blocklist.mem_list, Blocklist.nodup_list _,
      Blocklist.encode_ascending_list _⟩
    rw [read, unasked, ban, blocklist, ← Control.encode_blockedLines]

/-- Two nodes of a realm; the one that was started last and registered the ban path is closed, and a
peer is connected to the other one. -/
def peerOfOlderNode : List Move :=
  [.addsContext "m" (some .empty) false, .starts ⟨.withPort 5000, 0, none, true, false⟩,
    .starts ⟨.withPort 5001, 0, none, true, false⟩, .opensStream,
    .arrives 0 0 (.connection (.v4 ⟨192, 0, 2, 1⟩ 40000) ⟨0, .callee⟩),
    .proceeds (.accepted 0 0), .calls 0 (.identifies ⟨1⟩ "p"), .calls 1 .closes,
    .proceeds (.permitGranted 1), .proceeds (.listenerStopped 1 0),
    .proceeds (.teardownFinished 1), .lists 0 "q"]

theorem reads_ban_path_peerOfOlderNode :
    let mesh := (initial [] "/" .empty).course peerOfOlderNode
    mesh.readMessage 0 "/mesh/host/ban" (.ofList [("host", "p")]) =
        ((mesh.blockPeer 0 "p").1,
          some (Utf8.encode "p added to blocked peers\np connection closed (async)\n")) ∧
      mesh.readMessage 0 "/mesh/host/ban" .empty = (mesh, some [113, 10]) := by
  intro mesh
  have shape : (mesh.context? 0).map (fun context =>
      (context.messages.contains (banPath "mesh"), context.blocklist.list)) =
        some (true, ["q"]) := by decide +kernel
  obtain ⟨context, known, same⟩ := Option.map_eq_some_iff.mp shape
  simp only [Prod.mk.injEq] at same
  obtain ⟨registered, blocklist⟩ := same
  have alive : mesh.contextAlive 0 = true := by decide +kernel
  have reads := reads_ban_path [] "/" .empty peerOfOlderNode known registered alive
  constructor
  · obtain ⟨read, -⟩ := (reads (.ofList [("host", "p")])).1 "p" (by decide +kernel)
    have unblocked : context.blocklist.contains "p" = false := by
      rw [← Bool.not_eq_true, ← Blocklist.mem_list, blocklist]
      decide
    have found : (mesh.blockPeer 0 "p").2 = true := by decide +kernel
    rw [unblocked, found] at read
    exact read
  · obtain ⟨read, -⟩ := (reads .empty).2 (by decide +kernel)
    rw [blocklist] at read
    exact read

end Mesh

end PeerMesh
