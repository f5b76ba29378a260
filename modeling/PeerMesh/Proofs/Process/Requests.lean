import PeerMesh.Proofs.Node.Decision
import PeerMesh.Proofs.Process.Events

/-!
# Requests on a process

A request is decided by what the node and its surroundings are at the time. It changes nothing but
the node that is asked: a declined one leaves its books as they are, and an accepted one enters the
dial and its marks. As marks stay while nothing but requests comes, no two of these requests are
accepted with one identifier, nor with one address.
-/

set_option autoImplicit false

namespace PeerMesh.Mesh

open Node (Begins)

variable {mesh : Mesh} {number : Nat} {entry : NodeEntry}

/-! ## One request -/

/-- What comes of a request to the node of an entry. -/
inductive Asked (mesh : Mesh) (number : Nat) (entry : NodeEntry) (peer : Option String)
    (address : SocketAddress) : Mesh × Option Node.Decision → Prop where
  | declined {reason : RejectReason} {later : Node} :
      entry.node.refusal? (mesh.surroundings entry) peer address = some reason →
      later.ledger = entry.node.ledger →
      Asked mesh number entry peer address
        (mesh.updateNode number fun _ => later, some (.rejected reason))
  | begun {later : Node} :
      entry.node.refusal? (mesh.surroundings entry) peer address = none →
      Begins entry.node later (entry.node.dialOf peer address mesh.now) →
      Asked mesh number entry peer address
        (mesh.updateNode number fun _ => later, some (.dialing entry.node.dialCount))

theorem asked_requestPeering (found : mesh.nodes[number]? = some entry) (peer : Option String)
    (address : SocketAddress) :
    Asked mesh number entry peer address (mesh.requestPeering number peer address) := by
  rw [requestPeering, stepNode_of_found found]
  cases search : entry.node.refusal? (mesh.surroundings entry) peer address with
  | none =>
      rw [Node.answer_of_accepted search]
      exact .begun search (Node.begins_of_accepted search _ _)
  | some reason =>
      rw [Node.answer_of_refused search]
      exact .declined search (Node.ledger_requestPeering_of_refused search _ _)

variable {peer : Option String} {address : SocketAddress} {result : Mesh × Option Node.Decision}

theorem Asked.dialing_iff (asked : Asked mesh number entry peer address result) :
    (∃ dial, result.2 = some (.dialing dial)) ↔
      entry.node.refusal? (mesh.surroundings entry) peer address = none := by
  cases asked with
  | declined refused _ => simp [refused]
  | begun unrefused _ => simp [unrefused]

theorem Asked.rejected_iff (asked : Asked mesh number entry peer address result)
    {reason : RejectReason} :
    result.2 = some (.rejected reason) ↔
      entry.node.refusal? (mesh.surroundings entry) peer address = some reason := by
  cases asked with
  | declined refused _ => simp [refused]
  | begun unrefused _ => simp [unrefused]

theorem node_updateNode (found : mesh.nodes[number]? = some entry) (later : Node) :
    (mesh.updateNode number fun _ => later).nodes[number]? = some { entry with node := later } := by
  rw [nodes_updateNode found]
  obtain ⟨bound, -⟩ := List.getElem?_eq_some_iff.mp found
  exact List.getElem?_set_self bound

/-! ## One request after another -/

/-- A request, with the time that passes before it comes. -/
structure Request where
  peer : Option String
  address : SocketAddress
  milliseconds : Nat
  moments : Nat

def ask (mesh : Mesh) (number : Nat) (request : Request) : Mesh × Option Node.Decision :=
  (mesh.perform (.passes request.milliseconds request.moments)).requestPeering number request.peer
    request.address

/-- The requests that a node accepts, of those that come to it one after another while nothing else
happens. -/
def accepted (mesh : Mesh) (number : Nat) : List Request → List Request
  | [] => []
  | request :: rest =>
    match mesh.ask number request with
    | (asked, some (.dialing _)) => request :: asked.accepted number rest
    | (asked, _) => asked.accepted number rest

/-- Neither the identifier nor the address of the request is marked. -/
structure Unmarked (node : Node) (request : Request) : Prop where
  peer : ∀ name, request.peer = some name → name ∉ node.table.inFlight.dialing
  address : request.address ∉ node.table.inFlight.pending

theorem unmarked_of_accepted {node : Node} {around : Surroundings} {request : Request}
    (accepted : node.refusal? around request.peer request.address = none) :
    Unmarked node request := by
  obtain ⟨-, -, -, -, -, -, -, undialed, unmarked⟩ := Node.refusal?_eq_none_iff.mp accepted
  constructor
  · intro name asked marked
    rw [asked, Option.any_some, InFlight.isDialing_iff.mpr marked] at undialed
    cases undialed
  · intro marked
    rw [InFlight.hasPending_iff.mpr marked] at unmarked
    cases unmarked

/-- The marks of a dial are there from its begin on, and the earlier ones remain. -/
theorem Unmarked.of_begins {before after : Node} {dial : Dial} (begins : Begins before after dial)
    {request : Request} (unmarked : Unmarked after request) :
    Unmarked before request ∧ (∀ name, request.peer = some name → dial.peer ≠ some name) ∧
      request.address ≠ dial.address := by
  refine ⟨⟨?_, ?_⟩, ?_, ?_⟩
  · intro name asked marked
    exact unmarked.peer name asked ((begins.dialing name).mpr (.inl marked))
  · intro marked
    exact unmarked.address ((begins.pending _).mpr (.inl marked))
  · intro name asked same
    exact unmarked.peer name asked ((begins.dialing name).mpr (.inr same))
  · intro same
    exact unmarked.address ((begins.pending _).mpr (.inr same))

theorem Unmarked.of_ledger {before after : Node} (same : after.ledger = before.ledger)
    {request : Request} (unmarked : Unmarked after request) : Unmarked before request := by
  have marks : after.table.inFlight = before.table.inFlight :=
    congrArg (fun ledger : Node.Ledger => ledger.inFlight) same
  constructor
  · rw [← marks]
    exact unmarked.peer
  · rw [← marks]
    exact unmarked.address

/-- The accepted requests differ from one another and from all dials under way. -/
structure Disjoint (node : Node) (requests : List Request) : Prop where
  unmarked : ∀ request ∈ requests, Unmarked node request
  peers : (requests.filterMap (·.peer)).Nodup
  addresses : (requests.map (·.address)).Nodup

theorem Disjoint.cons {before after : Node} {request : Request} {number deadline : Nat}
    (begins : Begins before after ⟨number, request.peer, request.address, deadline⟩)
    (unmarked : Unmarked before request) {rest : List Request} (disjoint : Disjoint after rest) :
    Disjoint before (request :: rest) where
  unmarked := by
    intro other listed
    cases List.mem_cons.mp listed with
    | inl same =>
        subst same
        exact unmarked
    | inr later => exact ((disjoint.unmarked other later).of_begins begins).1
  peers := by
    cases asked : request.peer with
    | none =>
        rw [List.filterMap_cons_none asked]
        exact disjoint.peers
    | some name =>
        rw [List.filterMap_cons_some asked]
        refine List.nodup_cons.mpr ⟨?_, disjoint.peers⟩
        intro listed
        obtain ⟨other, later, same⟩ := List.mem_filterMap.mp listed
        exact ((disjoint.unmarked other later).of_begins begins).2.1 name same asked
  addresses := by
    refine List.nodup_cons.mpr ⟨?_, disjoint.addresses⟩
    intro listed
    obtain ⟨other, later, same⟩ := List.mem_map.mp listed
    exact ((disjoint.unmarked other later).of_begins begins).2.2 same

theorem disjoint_accepted (found : mesh.nodes[number]? = some entry) (requests : List Request) :
    Disjoint entry.node (mesh.accepted number requests) := by
  induction requests generalizing mesh entry with
  | nil => exact ⟨nofun, List.nodup_nil, List.nodup_nil⟩
  | cons request rest ih =>
      let waited := mesh.perform (.passes request.milliseconds request.moments)
      have there : waited.nodes[number]? = some entry := found
      have asked := asked_requestPeering there request.peer request.address
      rw [accepted, ask]
      revert asked
      generalize waited.requestPeering number request.peer request.address = answer
      intro asked
      cases asked with
      | @declined reason later refused same =>
          have disjoint := ih (node_updateNode there later)
          exact ⟨fun other listed => (disjoint.unmarked other listed).of_ledger same,
            disjoint.peers, disjoint.addresses⟩
      | begun unrefused begins =>
          exact .cons begins (unmarked_of_accepted unrefused) (ih (node_updateNode there _))

/-! ## The decision -/

/-- A request begins a dial if no reason speaks against it, and otherwise is declined for the first
reason that does. A declined request leaves the registry, the marks, the dials, the blocklists and
the groups as they are; an accepted one adds exactly its dial and the marks of that. Of requests
that come one after another, no two with one identifier and no two with one address are accepted. -/
theorem requestPeering_decides (host : List Interface) (workingDirectory : String)
    (disk : Files.Disk) (moves : List Move) {number : Nat} {entry : NodeEntry}
    (found : ((initial host workingDirectory disk).course moves).nodes[number]? = some entry)
    (peer : Option String) (address : SocketAddress) :
    let mesh := (initial host workingDirectory disk).course moves
    let asked := mesh.requestPeering number peer address
    let against := entry.node.SpeaksAgainst (mesh.surroundings entry) peer address
    ((∃ dial, asked.2 = some (.dialing dial)) ↔ ∀ reason, ¬ against reason) ∧
    (∀ reason, asked.2 = some (.rejected reason) ↔
      against reason ∧ ∀ other, against other → reason.rank ≤ other.rank) ∧
    asked.1.contexts = mesh.contexts ∧ asked.1.groups = mesh.groups ∧
    (∀ reason, asked.2 = some (.rejected reason) →
      ∃ later, asked.1 = mesh.updateNode number (fun _ => later) ∧
        later.ledger = entry.node.ledger) ∧
    (∀ dial, asked.2 = some (.dialing dial) → dial = entry.node.dialCount ∧
      ∃ later, asked.1 = mesh.updateNode number (fun _ => later) ∧
        Begins entry.node later
          ⟨dial, peer, address, mesh.now + entry.node.profile.connectTimeout⟩) ∧
    ∀ requests : List Request,
      ((mesh.accepted number requests).filterMap (·.peer)).Nodup ∧
        ((mesh.accepted number requests).map (·.address)).Nodup := by
  intro mesh asked against
  have orderly : mesh.Orderly := orderly_course host workingDirectory disk moves
  obtain ⟨context, known, reached⟩ := orderly.followed number entry found
  have sound := reached.sound.registry
  have outcome : Asked mesh number entry peer address asked :=
    asked_requestPeering found peer address
  clear_value asked
  refine ⟨?_, ?_, ?_, ?_, ?_, ?_, ?_⟩
  · rw [outcome.dialing_iff, Node.unopposed_iff sound]
  · intro reason
    rw [outcome.rejected_iff, Node.refusal?_eq_some_iff sound]
  · cases outcome <;> rfl
  · cases outcome <;> rfl
  · intro reason answered
    cases outcome with
    | declined _ same => exact ⟨_, rfl, same⟩
    | begun _ _ => cases answered
  · intro dial answered
    cases outcome with
    | declined _ _ => cases answered
    | begun _ begins =>
        cases answered
        exact ⟨rfl, _, rfl, begins⟩
  · intro requests
    have disjoint := disjoint_accepted found requests
    exact ⟨disjoint.peers, disjoint.addresses⟩

/-- A node dials an address under the identifier of a peer. -/
def dialingUnderName : List Move :=
  [.addsContext "m" (some .empty) false, .starts ⟨.withPort 5000, 0, none, true, false⟩,
    .calls 0 (.requests (some "p") (.v4 ⟨192, 0, 2, 1⟩ 40000))]

theorem requestPeering_decides_dialingUnderName :
    let mesh := (initial [] "/" .empty).course dialingUnderName
    ∃ entry, mesh.nodes[0]? = some entry ∧
      entry.node.SpeaksAgainst (mesh.surroundings entry) (some "p") (.v4 ⟨192, 0, 2, 2⟩ 40000)
        .alreadyDialing ∧
      (∃ dial, (mesh.requestPeering 0 none (.v4 ⟨192, 0, 2, 2⟩ 40000)).2 = some (.dialing dial)) ∧
      ∀ reason, ¬ entry.node.SpeaksAgainst (mesh.surroundings entry) none
        (.v4 ⟨192, 0, 2, 2⟩ 40000) reason := by
  intro mesh
  have there : (mesh.nodes[0]?).isSome = true := by decide +kernel
  obtain ⟨entry, found⟩ := Option.isSome_iff_exists.mp there
  have named := requestPeering_decides [] "/" .empty dialingUnderName found (some "p")
    (.v4 ⟨192, 0, 2, 2⟩ 40000)
  have unnamed := requestPeering_decides [] "/" .empty dialingUnderName found none
    (.v4 ⟨192, 0, 2, 2⟩ 40000)
  have rejected : (mesh.requestPeering 0 (some "p") (.v4 ⟨192, 0, 2, 2⟩ 40000)).2 =
      some (.rejected .alreadyDialing) := by decide +kernel
  have begins : (mesh.requestPeering 0 none (.v4 ⟨192, 0, 2, 2⟩ 40000)).2 =
      some (.dialing 1) := by decide +kernel
  exact ⟨entry, found, ((named.2.1 .alreadyDialing).mp rejected).1, ⟨1, begins⟩,
    unnamed.1.mp ⟨1, begins⟩⟩

end PeerMesh.Mesh
