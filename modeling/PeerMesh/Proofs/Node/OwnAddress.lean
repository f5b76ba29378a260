import PeerMesh.Proofs.Node.Decision
import PeerMesh.Proofs.Node.Teardown

/-!
# Dials to the node itself

An address leads back to the node if it has the node's port and one of the host's addresses. The
host is reached under an IPv4 address also by the IPv6 address that embeds it, but the check of a
request takes the two for different addresses, except where it looks for the local segment.
-/

set_option autoImplicit false

namespace PeerMesh

/-- The address, with an embedded IPv4 address in place of the one that embeds it. -/
def Ip.unmapped (ip : Ip) : Ip :=
  ip.asV4?.elim ip .v4

/-- The address is one of the node's own, when addresses are compared by what `seen` makes of them.
-/
structure Profile.Owns (profile : Profile) (seen : Ip → Ip) (address : SocketAddress) : Prop where
  port : address.port = profile.port
  ip : (seen address.ip).isUnspecified = true ∨ (seen address.ip).isLoopback = true ∨
    (∃ host ∈ profile.catalog.host, seen host = seen address.ip) ∨
    ∃ own ∈ profile.localAddresses, seen own.ip = seen address.ip

/-- No address of the host or of a listener embeds an IPv4 address. -/
structure Profile.Plain (profile : Profile) : Prop where
  host : ∀ host ∈ profile.catalog.host, host.unmapped = host
  listeners : ∀ own ∈ profile.localAddresses, own.ip.unmapped = own.ip

/-- Where no address embeds an IPv4 address, both comparisons agree. -/
theorem owns_of_owns_unmapped {profile : Profile} (plain : profile.Plain)
    {address : SocketAddress} (unembedding : address.ip.unmapped = address.ip)
    (owns : profile.Owns Ip.unmapped address) : profile.Owns id address := by
  refine ⟨owns.port, ?_⟩
  have ip := owns.ip
  rw [unembedding] at ip
  cases ip with
  | inl unspecified => exact .inl unspecified
  | inr ip =>
      cases ip with
      | inl loopback => exact .inr (.inl loopback)
      | inr ip =>
          cases ip with
          | inl onHost =>
              obtain ⟨host, member, same⟩ := onHost
              exact .inr (.inr (.inl ⟨host, member, (plain.host host member).symm.trans same⟩))
          | inr bound =>
              obtain ⟨own, member, same⟩ := bound
              exact .inr (.inr (.inr ⟨own, member, (plain.listeners own member).symm.trans same⟩))

namespace Node

theorem isOwnAddress_iff {node : Node} {address : SocketAddress} :
    node.isOwnAddress address = true ↔ node.profile.Owns id address := by
  simp only [isOwnAddress, Bool.and_eq_true, beq_iff_eq, Bool.or_eq_true, or_assoc, List.any_eq_true,
    Catalog.isHost, decide_eq_true_eq]
  constructor
  · intro ⟨port, ip⟩
    refine ⟨port, ip.imp_right (Or.imp_right (Or.imp_left ?_))⟩
    intro member
    exact ⟨address.ip, member, rfl⟩
  · intro ⟨port, ip⟩
    refine ⟨port, ip.imp_right (Or.imp_right (Or.imp_left ?_))⟩
    intro ⟨host, member, same⟩
    cases same
    exact member

namespace Situation

/-- A node that has just been started has nothing against a request but the address. -/
theorem Initial.refusal?_eq_none {start : Situation} (initial : start.Initial)
    {address : SocketAddress} (foreign : start.node.isOwnAddress address = false)
    (accepted : start.node.declinesSegment address = false) (around : Surroundings) :
    start.node.refusal? around none address = none := by
  obtain ⟨profile, request, moment, fresh⟩ := initial
  rw [fresh] at foreign accepted ⊢
  exact refusal?_eq_none_iff.mpr ⟨rfl, rfl, foreign, accepted, rfl, rfl, rfl, rfl, rfl⟩

/-- Whatever comes, the node does not dial the address. -/
def NeverDials (start : Situation) (address : SocketAddress) : Prop :=
  ∀ (acts : List Act) (around : Surroundings) (peer : Option String) (now moment number : Nat),
    ((start.run acts).node.requestPeering around peer address now moment).2 ≠ .dialing number

theorem never_dials_of_opposed {start : Situation} {address : SocketAddress}
    (opposed : start.node.profile.Owns id address ∨ start.node.declinesSegment address = true) :
    start.NeverDials address := by
  intro acts around peer now moment number dialing
  have same := profile_run start acts
  cases search : (start.run acts).node.refusal? around peer address with
  | some reason =>
      rw [answer_of_refused search] at dialing
      cases dialing
  | none =>
      obtain ⟨-, -, foreign, accepted, -⟩ := refusal?_eq_none_iff.mp search
      cases opposed with
      | inl owned =>
          rw [← same, ← isOwnAddress_iff, foreign] at owned
          cases owned
      | inr declined =>
          rw [declinesSegment, ← same] at declined
          rw [declinesSegment, declined] at accepted
          cases accepted

/-- A node never dials an address if and only if that is one of its own as it is written, or lies on
a segment that the node declines. So it never dials itself where no address embeds an IPv4 address.
-/
theorem never_dials_own_iff {start : Situation} (initial : start.Initial)
    (address : SocketAddress) :
    (start.NeverDials address ↔
      start.node.profile.Owns id address ∨ start.node.declinesSegment address = true) ∧
    (start.node.profile.Plain → address.ip.unmapped = address.ip →
      start.node.profile.Owns Ip.unmapped address → start.NeverDials address) := by
  refine ⟨⟨?_, never_dials_of_opposed⟩, ?_⟩
  · intro never
    by_contra unopposed
    rw [not_or, ← isOwnAddress_iff, Bool.not_eq_true, Bool.not_eq_true] at unopposed
    have accepted := initial.refusal?_eq_none unopposed.1 unopposed.2 aloof
    exact never [] aloof none 0 0 _ (answer_of_accepted accepted 0 0)
  · intro plain unembedding owns
    exact never_dials_of_opposed (.inl (owns_of_owns_unmapped plain unembedding owns))

/-- The IPv6 address that embeds `127.0.0.1`. -/
def mappedLoopback (port : UInt16) : SocketAddress :=
  .v6 ⟨#v[0, 0, 0, 0, 0, 0xFFFF, 0x7F00, 1]⟩ port 0

theorem not_never_dials_own_mappedLoopback :
    (lone 40000).node.profile.Owns Ip.unmapped (mappedLoopback 40000) ∧
      ¬ (lone 40000).NeverDials (mappedLoopback 40000) := by
  refine ⟨⟨rfl, .inr (.inl (by decide))⟩, ?_⟩
  rw [(never_dials_own_iff (initial_lone 40000) (mappedLoopback 40000)).1, ← isOwnAddress_iff]
  decide

end Situation

end Node

end PeerMesh
