import PeerMesh.Proofs.Node.Effect

/-!
# The decision on a request to dial

Which reasons speak against a request is said here for each reason on its own. A request is declined
for the one of them that comes first in the order of precedence, and otherwise begins a dial.
-/

set_option autoImplicit false

namespace PeerMesh

/-- The place of a reason in the order of precedence. -/
def RejectReason.rank : RejectReason → Nat
  | .blocked => 0
  | .selfPeer => 1
  | .selfAddress => 2
  | .localSegment => 3
  | .shutDown => 4
  | .alreadyConnected => 5
  | .alreadyDialing => 6

theorem RejectReason.eq_of_rank_eq {first second : RejectReason}
    (same : first.rank = second.rank) : first = second := by
  cases first <;> cases second <;> first | rfl | cases same

namespace Node

variable {node : Node} {around : Surroundings} {peer : Option String} {address : SocketAddress}

/-- The reason speaks against the request. A name counts as connected if it resolves to an entry of
the registry. -/
inductive SpeaksAgainst (node : Node) (around : Surroundings) (peer : Option String)
    (address : SocketAddress) : RejectReason → Prop where
  | blocked {name : String} : peer = some name → around.blocklist.contains name = true →
      SpeaksAgainst node around peer address .blocked
  | sibling {name : String} : peer = some name → name ∈ around.members →
      SpeaksAgainst node around peer address .selfPeer
  | ownAddress : node.isOwnAddress address = true →
      SpeaksAgainst node around peer address .selfAddress
  | segment : node.profile.allowPeerLocal = false →
      node.profile.catalog.isLocal address.ip = true →
      SpeaksAgainst node around peer address .localSegment
  | closed : node.table.closed = true → SpeaksAgainst node around peer address .shutDown
  | connectedName {name : String} {entry : Connection} : peer = some name →
      entry ∈ node.table.registry.entries → entry.name = name →
      node.table.registry.slotForName? name = some entry.slot →
      SpeaksAgainst node around peer address .alreadyConnected
  | connectedAddress {entry : Connection} : entry ∈ node.table.registry.entries →
      entry.remote = address → SpeaksAgainst node around peer address .alreadyConnected
  | dialedName {name : String} : peer = some name → name ∈ node.table.inFlight.dialing →
      SpeaksAgainst node around peer address .alreadyDialing
  | dialedAddress : address ∈ node.table.inFlight.pending →
      SpeaksAgainst node around peer address .alreadyDialing

/-- The test that a request undergoes for a reason. -/
def meets (node : Node) (around : Surroundings) (peer : Option String) (address : SocketAddress) :
    RejectReason → Bool
  | .blocked => peer.any around.blocks
  | .selfPeer => peer.any around.isMember
  | .selfAddress => node.isOwnAddress address
  | .localSegment => node.declinesSegment address
  | .shutDown => node.table.closed
  | .alreadyConnected =>
    peer.any node.table.registry.containsName || node.table.registry.containsAddress address
  | .alreadyDialing =>
    peer.any node.table.inFlight.isDialing || node.table.inFlight.hasPending address

/-- The reasons in the order of precedence. -/
def precedence : List RejectReason :=
  [.blocked, .selfPeer, .selfAddress, .localSegment, .shutDown, .alreadyConnected, .alreadyDialing]

theorem mem_precedence (reason : RejectReason) : reason ∈ precedence := by
  cases reason <;> decide

theorem precedence_ranked :
    precedence.Pairwise fun earlier later => earlier.rank < later.rank := by
  decide

theorem containsName_iff (sound : node.table.registry.Sound) {name : String} :
    node.table.registry.containsName name = true ↔
      ∃ entry ∈ node.table.registry.entries, entry.name = name ∧
        node.table.registry.slotForName? name = some entry.slot := by
  rw [Registry.containsName, Option.isSome_iff_exists]
  constructor
  · intro ⟨slot, resolved⟩
    obtain ⟨entry, found, named⟩ := sound.nameBorne name slot resolved
    refine ⟨entry, Registry.mem_of_get? found, named, ?_⟩
    rw [resolved, Registry.slot_of_get? found]
  · intro ⟨entry, _, _, resolved⟩
    exact ⟨entry.slot, resolved⟩

theorem containsAddress_iff :
    node.table.registry.containsAddress address = true ↔
      ∃ entry ∈ node.table.registry.entries, entry.remote = address := by
  simp [Registry.containsAddress]

theorem meets_iff (sound : node.table.registry.Sound) {reason : RejectReason} :
    node.meets around peer address reason = true ↔
      node.SpeaksAgainst around peer address reason := by
  constructor
  · intro met
    cases reason with
    | blocked =>
        obtain ⟨name, asked, blocked⟩ := (Option.any_eq_true _ _).mp met
        exact .blocked asked blocked
    | selfPeer =>
        obtain ⟨name, asked, member⟩ := (Option.any_eq_true _ _).mp met
        exact .sibling asked (List.contains_iff_mem.mp member)
    | selfAddress => exact .ownAddress met
    | localSegment =>
        obtain ⟨refused, isLocal⟩ := (Bool.and_eq_true _ _).mp met
        exact .segment (by simpa using refused) isLocal
    | shutDown => exact .closed met
    | alreadyConnected =>
        cases (Bool.or_eq_true _ _).mp met with
        | inl known =>
            obtain ⟨name, asked, contained⟩ := (Option.any_eq_true _ _).mp known
            obtain ⟨entry, member, named, resolved⟩ := (containsName_iff sound).mp contained
            exact .connectedName asked member named resolved
        | inr known =>
            obtain ⟨entry, member, same⟩ := containsAddress_iff.mp known
            exact .connectedAddress member same
    | alreadyDialing =>
        cases (Bool.or_eq_true _ _).mp met with
        | inl marked =>
            obtain ⟨name, asked, dialing⟩ := (Option.any_eq_true _ _).mp marked
            exact .dialedName asked (InFlight.isDialing_iff.mp dialing)
        | inr marked => exact .dialedAddress (InFlight.hasPending_iff.mp marked)
  · intro against
    cases against with
    | blocked asked blocked => exact (Option.any_eq_true _ _).mpr ⟨_, asked, blocked⟩
    | sibling asked member =>
        exact (Option.any_eq_true _ _).mpr ⟨_, asked, List.contains_iff_mem.mpr member⟩
    | ownAddress own => exact own
    | segment refused isLocal => simp [meets, declinesSegment, refused, isLocal]
    | closed closed => exact closed
    | connectedName asked member named resolved =>
        exact (Bool.or_eq_true _ _).mpr (.inl ((Option.any_eq_true _ _).mpr
          ⟨_, asked, (containsName_iff sound).mpr ⟨_, member, named, resolved⟩⟩))
    | connectedAddress member same =>
        exact (Bool.or_eq_true _ _).mpr (.inr (containsAddress_iff.mpr ⟨_, member, same⟩))
    | dialedName asked dialing =>
        exact (Bool.or_eq_true _ _).mpr (.inl ((Option.any_eq_true _ _).mpr
          ⟨_, asked, InFlight.isDialing_iff.mpr dialing⟩))
    | dialedAddress pending =>
        exact (Bool.or_eq_true _ _).mpr (.inr (InFlight.hasPending_iff.mpr pending))

/-! ## The first reason -/

theorem least_of_find? {test : RejectReason → Bool} {reason : RejectReason}
    (search : precedence.find? test = some reason) :
    test reason = true ∧ ∀ other, test other = true → reason.rank ≤ other.rank := by
  obtain ⟨met, earlier, later, split, unmet⟩ := List.find?_eq_some_iff_append.mp search
  refine ⟨met, ?_⟩
  intro other metToo
  have ranked := precedence_ranked
  have listed := mem_precedence other
  rw [split] at ranked listed
  cases List.mem_append.mp listed with
  | inl before =>
      have unmetToo := unmet other before
      rw [metToo] at unmetToo
      cases unmetToo
  | inr rest =>
      cases List.mem_cons.mp rest with
      | inl same =>
          subst same
          exact Nat.le_refl _
      | inr after =>
          have below := (List.pairwise_cons.mp (List.pairwise_append.mp ranked).2.1).1
          exact Nat.le_of_lt (below other after)

theorem find?_precedence_eq_some_iff {test : RejectReason → Bool} {reason : RejectReason} :
    precedence.find? test = some reason ↔
      test reason = true ∧ ∀ other, test other = true → reason.rank ≤ other.rank := by
  constructor
  · exact least_of_find?
  · intro ⟨met, least⟩
    cases search : precedence.find? test with
    | none => exact absurd met (List.find?_eq_none.mp search reason (mem_precedence reason))
    | some found =>
        obtain ⟨metToo, leastToo⟩ := least_of_find? search
        have same : found.rank = reason.rank :=
          Nat.le_antisymm (leastToo reason met) (least found metToo)
        rw [RejectReason.eq_of_rank_eq same]

theorem refusal?_eq_find? (node : Node) (around : Surroundings) (peer : Option String)
    (address : SocketAddress) :
    node.refusal? around peer address = precedence.find? (node.meets around peer address) := by
  have tried : ∀ (test : RejectReason → Bool) (reason : RejectReason) (rest : List RejectReason),
      (reason :: rest).find? test = if test reason then some reason else rest.find? test := by
    intro test reason rest
    cases met : test reason with
    | true => rw [List.find?_cons_of_pos met, if_pos rfl]
    | false => rw [List.find?_cons_of_neg (by simp [met]), if_neg Bool.false_ne_true]
  simp only [precedence, tried]
  rfl

theorem refusal?_eq_some_iff (sound : node.table.registry.Sound) {reason : RejectReason} :
    node.refusal? around peer address = some reason ↔
      node.SpeaksAgainst around peer address reason ∧
        ∀ other, node.SpeaksAgainst around peer address other → reason.rank ≤ other.rank := by
  simp only [refusal?_eq_find?, find?_precedence_eq_some_iff, meets_iff sound]

theorem unopposed_iff (sound : node.table.registry.Sound) :
    node.refusal? around peer address = none ↔
      ∀ reason, ¬ node.SpeaksAgainst around peer address reason := by
  rw [refusal?_eq_find?, List.find?_eq_none]
  constructor
  · intro unmet reason against
    exact unmet reason (mem_precedence reason) ((meets_iff sound).mpr against)
  · intro unopposed reason _ met
    exact unopposed reason ((meets_iff sound).mp met)

/-! ## The answer -/

theorem answer_of_refused {reason : RejectReason}
    (refused : node.refusal? around peer address = some reason) (now moment : Nat) :
    (node.requestPeering around peer address now moment).2 = .rejected reason := by
  rw [requestPeering, refused]
  cases reason <;> rfl

theorem answer_of_accepted (accepted : node.refusal? around peer address = none)
    (now moment : Nat) :
    (node.requestPeering around peer address now moment).2 = .dialing node.dialCount := by
  rw [requestPeering, accepted]

/-- A dial has begun, and with it exactly the marks of its identifier and its address. -/
structure Begins (before after : Node) (dial : Dial) : Prop where
  registry : after.table.registry = before.table.registry
  closed : after.table.closed = before.table.closed
  dialing : ∀ name, name ∈ after.table.inFlight.dialing ↔
    name ∈ before.table.inFlight.dialing ∨ dial.peer = some name
  pending : ∀ other, other ∈ after.table.inFlight.pending ↔
    other ∈ before.table.inFlight.pending ∨ other = dial.address
  dials : after.dials = before.dials ++ [dial]
  dialCount : after.dialCount = before.dialCount + 1

theorem begins_of_accepted (accepted : node.refusal? around peer address = none)
    (now moment : Nat) :
    Begins node (node.requestPeering around peer address now moment).1
      (node.dialOf peer address now) := by
  rw [requestPeering, accepted]
  exact ⟨rfl, rfl, fun _ => InFlight.mem_dialing_begin, fun _ => InFlight.mem_pending_begin, rfl,
    rfl⟩

end Node

end PeerMesh
