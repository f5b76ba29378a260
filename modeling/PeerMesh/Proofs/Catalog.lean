import PeerMesh.Catalog
import PeerMesh.Proofs.Distinct

/-!
# What a catalog tells of a host

A catalog is built from the entries of the host's interfaces, among which addresses and names may
recur with other flags. One entry that qualifies is enough for an address to lie on the local
segment, whatever the others say, and the order of the entries decides no answer on an address.
-/

set_option autoImplicit false

namespace PeerMesh

/-! ## Embedded addresses -/

/-- The IPv6 address that embeds an IPv4 address in its last two groups. -/
def Ipv4.mapped (address : Ipv4) : Ipv6 :=
  ⟨#v[0, 0, 0, 0, 0, 0xFFFF, address.first.toUInt16 <<< 8 ||| address.second.toUInt16,
    address.third.toUInt16 <<< 8 ||| address.fourth.toUInt16]⟩

namespace Ipv6

theorem join_octets (group : UInt16) :
    (octets group).1.toUInt16 <<< 8 ||| (octets group).2.toUInt16 = group := by
  apply UInt16.toBitVec_inj.mp
  ext index bound
  simp only [octets, UInt16.toBitVec_or, UInt16.toBitVec_shiftLeft, UInt8.toBitVec_toUInt16,
    UInt16.toBitVec_toUInt8, UInt16.toBitVec_shiftRight, UInt16.toBitVec_ofNat,
    BitVec.ofNat_eq_ofNat, BitVec.reduceMod, BitVec.ushiftRight_eq', BitVec.toNat_ofNat,
    Nat.reducePow, Nat.reduceMod, BitVec.shiftLeft_eq', BitVec.getElem_or,
    BitVec.getElem_shiftLeft, BitVec.getElem_setWidth, BitVec.getLsbD_setWidth,
    BitVec.getLsbD_ushiftRight]
  -- each bit of the group lies in exactly one of its octets
  grind

theorem octets_join (high low : UInt8) :
    octets (high.toUInt16 <<< 8 ||| low.toUInt16) = (high, low) := by
  apply Prod.ext
  · apply UInt8.toBitVec_inj.mp
    ext index bound
    simp [octets]
    grind
  · apply UInt8.toBitVec_inj.mp
    ext index bound
    simp [octets]

theorem exists_groups (address : Ipv6) :
    ∃ a b c d e f g h, address = ⟨#v[a, b, c, d, e, f, g, h]⟩ := by
  obtain ⟨⟨⟨groups⟩, size⟩⟩ := address
  match groups, size with
  | [a, b, c, d, e, f, g, h], _ => exact ⟨a, b, c, d, e, f, g, h, rfl⟩

theorem embedded?_eq_some_iff {address : Ipv6} {inner : Ipv4} :
    address.embedded? = some inner ↔ address = inner.mapped := by
  constructor
  · intro embeds
    obtain ⟨a, b, c, d, e, f, g, h, same⟩ := address.exists_groups
    subst same
    unfold embedded? at embeds
    split at embeds
    · rename_i leading
      cases embeds
      simp only [Vector.toList_mk, List.take_succ_cons, List.take_zero, List.cons.injEq, and_true]
        at leading
      obtain ⟨rfl, rfl, rfl, rfl, rfl, rfl⟩ := leading
      simp [Ipv4.mapped, join_octets]
    · cases embeds
  · intro same
    subst same
    simp [embedded?, Ipv4.mapped, octets_join]

end Ipv6

theorem Ip.asV4?_eq_some_iff {ip : Ip} {address : Ipv4} :
    ip.asV4? = some address ↔ ip = .v4 address ∨ ip = .v6 address.mapped := by
  cases ip with
  | v4 own => simp [asV4?]
  | v6 own => simp [asV4?, Ipv6.embedded?_eq_some_iff]

/-- The address, if it is an IPv4 address as it is written. -/
def Ip.plain? : Ip → Option Ipv4
  | .v4 address => some address
  | .v6 _ => none

/-! ## The local segment -/

/-- The interface puts the address on the local segment. -/
structure Interface.Places (interface : Interface) (address : Ipv4) : Prop where
  written : interface.address = .v4 address
  up : interface.up = true
  shared : interface.pointToPoint = false
  outward : address.isLoopback = false

theorem Interface.segmentAddress?_eq_some_iff {interface : Interface} {address : Ipv4} :
    interface.segmentAddress? = some address ↔ interface.Places address := by
  unfold segmentAddress?
  cases written : interface.address with
  | v6 own =>
      constructor
      · intro placed
        cases placed
      · intro places
        cases written.symm.trans places.written
  | v4 own =>
      simp only [Option.ite_none_left_eq_some, Bool.or_eq_true, Bool.not_eq_true', not_or,
        Bool.not_eq_true, Bool.not_eq_false, Option.some.injEq]
      constructor
      · intro ⟨⟨⟨outward, up⟩, shared⟩, same⟩
        subst same
        exact ⟨written, up, shared, outward⟩
      · intro places
        cases written.symm.trans places.written
        exact ⟨⟨⟨places.outward, places.up⟩, places.shared⟩, rfl⟩

/-- An interface places the first address, and neither it nor one before it places the second. -/
def PlacedBefore (interfaces : List Interface) (first second : Ipv4) : Prop :=
  ∃ front interface back, interfaces = front ++ interface :: back ∧ interface.Places first ∧
    ∀ other ∈ front ++ [interface], ¬ other.Places second

namespace Catalog

theorem ofInterfaces_eq (interfaces : List Interface) :
    ofInterfaces interfaces =
      { segment := Distinct.gather (interfaces.filterMap Interface.segmentAddress?)
        host := Distinct.gather (interfaces.map (·.address))
        named := interfaces.map fun interface => (interface.name, interface.address) } := by
  induction interfaces using List.reverseRecOn with
  | nil => rfl
  | append_singleton front last ih =>
      rw [ofInterfaces, List.foldl_append, List.foldl_cons, List.foldl_nil, ← ofInterfaces, ih, add,
        List.filterMap_append, List.map_append, List.map_append, List.map_singleton,
        List.map_singleton, Distinct.gather_append_singleton]
      cases placed : last.segmentAddress? with
      | none => simp [placed]
      | some address => simp [placed, Distinct.gather_append_singleton]

theorem mem_segment_iff {interfaces : List Interface} {address : Ipv4} :
    address ∈ (ofInterfaces interfaces).segment ↔
      ∃ interface ∈ interfaces, interface.Places address := by
  simp only [ofInterfaces_eq, Distinct.mem_gather, List.mem_filterMap,
    Interface.segmentAddress?_eq_some_iff]

theorem pairwise_segment (interfaces : List Interface) :
    (ofInterfaces interfaces).segment.Pairwise (PlacedBefore interfaces) := by
  rw [ofInterfaces_eq]
  refine (Distinct.pairwise_gather _).imp ?_
  intro first second ⟨front, back, split, absent, different⟩
  obtain ⟨before, rest, whole, placedBefore, placed⟩ := List.filterMap_eq_append_iff.mp split
  obtain ⟨silent, interface, after, cut, unplaced, places, -⟩ :=
    List.filterMap_eq_cons_iff.mp placed
  refine ⟨before ++ silent, interface, after, by rw [whole, cut, List.append_assoc],
    Interface.segmentAddress?_eq_some_iff.mp places, ?_⟩
  intro other member placesSecond
  rw [← Interface.segmentAddress?_eq_some_iff] at placesSecond
  rw [List.mem_append, List.mem_append, List.mem_singleton] at member
  rcases member with (early | among) | last
  · apply absent
    rw [← placedBefore]
    exact List.mem_filterMap.mpr ⟨other, early, placesSecond⟩
  · cases (unplaced other among).symm.trans placesSecond
  · rw [last, places] at placesSecond
    exact different (Option.some.inj placesSecond).symm

/-! ## Answers -/

theorem isLocal_iff {catalog : Catalog} {ip : Ip} :
    catalog.isLocal ip = true ↔
      ∃ address ∈ catalog.segment, ip = .v4 address ∨ ip = .v6 address.mapped := by
  rw [isLocal, Option.any_eq_true]
  simp only [Ip.asV4?_eq_some_iff, decide_eq_true_eq, and_comm]

theorem isHost_iff {interfaces : List Interface} {ip : Ip} :
    (ofInterfaces interfaces).isHost ip = true ↔
      ∃ interface ∈ interfaces, interface.address = ip := by
  rw [isHost, decide_eq_true_eq, ofInterfaces_eq, Distinct.mem_gather, List.mem_map]

theorem addressesOf?_eq (interfaces : List Interface) (name : String) :
    (ofInterfaces interfaces).addressesOf? name =
      if (interfaces.filter fun interface => interface.name == name).isEmpty then none
      else some ((interfaces.filter fun interface => interface.name == name).filterMap
        (·.address.plain?)) := by
  rw [addressesOf?, ofInterfaces_eq]
  simp only [List.filter_map, List.isEmpty_map, List.filterMap_map]
  rfl

/-- What a catalog is to tell of a host with these interfaces. -/
structure Describes (catalog : Catalog) (interfaces : List Interface) : Prop where
  segment : ∀ address, address ∈ catalog.segment ↔
    ∃ interface ∈ interfaces, interface.Places address
  once : catalog.segment.Nodup
  order : catalog.segment.Pairwise (PlacedBefore interfaces)
  isLocal : ∀ ip, catalog.isLocal ip = true ↔
    ∃ address ∈ catalog.segment, ip = .v4 address ∨ ip = .v6 address.mapped
  isHost : ∀ ip, catalog.isHost ip = true ↔ ∃ interface ∈ interfaces, interface.address = ip
  unknown : ∀ name, catalog.addressesOf? name = none ↔
    ∀ interface ∈ interfaces, interface.name ≠ name
  known : ∀ name addresses, catalog.addressesOf? name = some addresses ↔
    (∃ interface ∈ interfaces, interface.name = name) ∧
      addresses =
        (interfaces.filter fun interface => interface.name == name).filterMap (·.address.plain?)

theorem describes_ofInterfaces (interfaces : List Interface) :
    (ofInterfaces interfaces).Describes interfaces where
  segment := fun _ => mem_segment_iff
  once := by
    rw [ofInterfaces_eq]
    exact Distinct.nodup_gather _
  order := pairwise_segment interfaces
  isLocal := fun _ => isLocal_iff
  isHost := fun _ => isHost_iff
  unknown := by
    intro name
    rw [addressesOf?_eq]
    split
    · rename_i missing
      simpa [List.filter_eq_nil_iff] using missing
    · rename_i present
      simpa [List.filter_eq_nil_iff] using present
  known := by
    intro name addresses
    rw [addressesOf?_eq]
    split
    · rename_i missing
      have unnamed : ¬ ∃ interface ∈ interfaces, interface.name = name := by
        simpa [List.filter_eq_nil_iff] using missing
      simp [unnamed]
    · rename_i present
      have named : ∃ interface ∈ interfaces, interface.name = name := by
        simpa [List.filter_eq_nil_iff] using present
      rw [Option.some.injEq, eq_comm, and_iff_right named]

/-- An answer rests on which entries there are, and so not on their order. -/
theorem isLocal_congr {interfaces others : List Interface}
    (same : ∀ interface, interface ∈ others ↔ interface ∈ interfaces) (ip : Ip) :
    (ofInterfaces others).isLocal ip = (ofInterfaces interfaces).isLocal ip := by
  rw [Bool.eq_iff_iff, isLocal_iff, isLocal_iff]
  simp only [mem_segment_iff, same]

theorem isHost_congr {interfaces others : List Interface}
    (same : ∀ interface, interface ∈ others ↔ interface ∈ interfaces) (ip : Ip) :
    (ofInterfaces others).isHost ip = (ofInterfaces interfaces).isHost ip := by
  rw [Bool.eq_iff_iff, isHost_iff, isHost_iff]
  simp only [same]

/-- The catalog of a list of interfaces describes them, and answers alike on every address when the
entries come in another order. -/
theorem describes_and_answers_in_any_order (interfaces : List Interface) :
    (ofInterfaces interfaces).Describes interfaces ∧
      ∀ others, others.Perm interfaces → ∀ ip,
        (ofInterfaces others).isLocal ip = (ofInterfaces interfaces).isLocal ip ∧
          (ofInterfaces others).isHost ip = (ofInterfaces interfaces).isHost ip := by
  refine ⟨describes_ofInterfaces interfaces, ?_⟩
  intro others permuted ip
  have same : ∀ interface, interface ∈ others ↔ interface ∈ interfaces :=
    fun _ => permuted.mem_iff
  exact ⟨isLocal_congr same ip, isHost_congr same ip⟩

/-- One address on three interfaces, of which only the last is on a segment. -/
def recurring : List Interface :=
  [⟨"eth0", .v4 ⟨10, 0, 0, 7⟩, false, false⟩, ⟨"tun", .v4 ⟨10, 0, 0, 7⟩, true, true⟩,
    ⟨"eth0", .v6 .loopback, true, false⟩, ⟨"eth1", .v4 ⟨10, 0, 0, 7⟩, true, false⟩]

theorem describes_and_answers_in_any_order_recurring :
    (ofInterfaces recurring).Describes recurring ∧ recurring.reverse.Perm recurring ∧
      (ofInterfaces recurring.reverse).isLocal (.v6 (Ipv4.mapped ⟨10, 0, 0, 7⟩)) = true := by
  have permuted : recurring.reverse.Perm recurring := List.reverse_perm recurring
  obtain ⟨describes, alike⟩ := describes_and_answers_in_any_order recurring
  refine ⟨describes, permuted, ?_⟩
  rw [(alike recurring.reverse permuted _).1]
  decide

end Catalog

end PeerMesh
