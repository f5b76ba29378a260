import PeerMesh.Proofs.Crossing.Operations
import PeerMesh.Proofs.Node.Admission

/-!
# How ends come and go

A connected socket becomes an end, and an end is gone with the task that pumps it. Both keep the links
in step with the registry, and change no other end.
-/

set_option autoImplicit false

namespace PeerMesh.Node

open Crossing (End Standing)

variable {node : Node} {endpoint : Endpoint}

/-! ## New links -/

section Admission

variable {arrived : Arrived}

theorem Linked.slot_ne_nextSlot (linked : node.Linked) {link : Link} (member : link ∈ node.links) :
    link.slot ≠ node.nextSlot := by
  intro same
  have issued := linked.issued link member
  rw [same] at issued
  exact Nat.not_succ_le_self _ issued

theorem Linked.admitted (linked : node.Linked) (sound : node.table.registry.Sound)
    (unpumped : node.endAt? arrived.socket = none)
    (sides : arrived.direction = .outbound ↔ arrived.socket.side = .caller) (moment : Nat) :
    (node.admitted arrived moment).Linked where
  slotsDistinct := by
    simp only [Node.admitted, List.map_append, List.map_cons, List.map_nil, List.nodup_append]
    refine ⟨linked.slotsDistinct, by simp, ?_⟩
    intro slot old fresh added
    obtain ⟨link, member, rfl⟩ := List.mem_map.mp old
    rw [List.mem_singleton.mp added]
    exact linked.slot_ne_nextSlot member
  socketsDistinct := by
    simp only [Node.admitted, List.map_append, List.map_cons, List.map_nil, List.nodup_append]
    refine ⟨linked.socketsDistinct, by simp, ?_⟩
    intro socket old fresh added
    obtain ⟨link, member, rfl⟩ := List.mem_map.mp old
    rw [List.mem_singleton.mp added]
    exact endAt?_eq_none_iff.mp unpumped link member
  issued := by
    intro link member
    rcases List.mem_append.mp member with old | fresh
    · exact Nat.le_succ_of_le (linked.issued link old)
    · rw [List.mem_singleton.mp fresh]
      exact Nat.le_refl _
  pumped := by
    intro entry member
    rcases List.mem_append.mp member with old | fresh
    · obtain ⟨link, linkMember, slot⟩ := linked.pumped entry old
      exact ⟨link, List.mem_append_left _ linkMember, slot⟩
    · refine ⟨_, List.mem_append_right _ List.mem_cons_self, ?_⟩
      rw [List.mem_singleton.mp fresh]
      rfl
  closed_iff := by
    intro link member
    simp only [Node.admitted, Registry.get?_insert sound]
    rcases List.mem_append.mp member with old | fresh
    · have different := linked.slot_ne_nextSlot old
      rw [nextSlot] at different
      rw [if_neg different]
      exact linked.closed_iff link old
    · rw [List.mem_singleton.mp fresh, if_pos (by rfl)]
      simp [Handle.fresh]
  queue := by
    intro link member
    rcases List.mem_append.mp member with old | fresh
    · exact linked.queue link old
    · rw [List.mem_singleton.mp fresh]
      rfl
  side := by
    intro link member entry found
    simp only [Node.admitted, Registry.get?_insert sound] at found
    rcases List.mem_append.mp member with old | fresh
    · have different := linked.slot_ne_nextSlot old
      rw [nextSlot] at different
      rw [if_neg different] at found
      exact linked.side link old entry found
    · rw [List.mem_singleton.mp fresh] at found ⊢
      rw [if_pos (by rfl)] at found
      cases found
      exact sides

theorem linkOn?_admitted (arrived : Arrived) (moment : Nat) :
    (node.admitted arrived moment).linkOn? endpoint = (node.linkOn? endpoint).or
      (if endpoint = arrived.socket then some ⟨node.nextSlot, .fresh, arrived.socket⟩ else none) := by
  simp only [linkOn?, Node.admitted, List.find?_append, List.find?_cons, List.find?_nil]
  by_cases same : endpoint = arrived.socket
  · simp [same]
  · have missed : (arrived.socket == endpoint) = false := by
      rw [beq_eq_false_iff_ne]
      exact fun sameNow => same sameNow.symm
    simp [same, missed]

theorem Linked.endAt?_admitted (linked : node.Linked) (sound : node.table.registry.Sound)
    (unpumped : node.endAt? arrived.socket = none) (moment : Nat) :
    (node.admitted arrived moment).endAt? endpoint =
      if endpoint = arrived.socket then
        some ⟨node.nextSlot, .unnamed, node.progress node.nextSlot, []⟩
      else node.endAt? endpoint := by
  rw [endAt?, linkOn?_admitted]
  by_cases same : endpoint = arrived.socket
  · subst same
    have unlinked : node.linkOn? arrived.socket = none := by simpa [endAt?] using unpumped
    rw [unlinked, if_pos rfl, if_pos rfl]
    simp only [Option.none_or, Option.map_some, endOf, Node.admitted,
      Registry.standing_insert sound, Option.some.injEq]
    rw [if_pos (by rfl)]
    rfl
  · rw [if_neg same, if_neg same, Option.or_none, endAt?]
    cases search : node.linkOn? endpoint with
    | none => rfl
    | some link =>
        have different := linked.slot_ne_nextSlot (linkOn?_eq_some search).1
        rw [nextSlot] at different
        simp only [Option.map_some, endOf, Node.admitted, Registry.standing_insert sound,
          if_neg different]
        rfl

/-- The link of a connection that has just been registered. -/
theorem mem_links_admitted (arrived : Arrived) (moment : Nat) :
    (⟨node.nextSlot, .fresh, arrived.socket⟩ : Link) ∈ (node.admitted arrived moment).links :=
  List.mem_append_right _ List.mem_cons_self

theorem get?_admitted (sound : node.table.registry.Sound) (arrived : Arrived) (moment : Nat) :
    (node.admitted arrived moment).table.registry.get? node.nextSlot =
      some (node.table.registry.admitted
        ⟨arrived.placeholder, arrived.remote, arrived.direction, arrived.dialedAs⟩ moment) := by
  simp only [Node.admitted, Registry.get?_insert sound]
  exact if_pos rfl

theorem startHandshake_admitted {hello : Hello} (exchange : node.hello = some hello)
    (arrived : Arrived) (moment : Nat) :
    (node.admitted arrived moment).startHandshake node.nextSlot =
      (({ node.admitted arrived moment with
        hello := some (hello.initiate node.nextSlot) } : Node).send node.nextSlot
          (Hello.line node.profile.id)).1 := by
  have exchangeNow : (node.admitted arrived moment).hello = some hello := exchange
  simp only [startHandshake, exchangeNow]
  rfl

/-- A connected socket becomes an unnamed end; the node greets where its handshake was pending. -/
theorem Linked.endAt?_connected (linked : node.Linked) (sound : node.table.registry.Sound)
    (admitting : node.table.closed = false) (unpumped : node.endAt? arrived.socket = none)
    (sides : arrived.direction = .outbound ↔ arrived.socket.side = .caller) {hello : Hello}
    (exchange : node.hello = some hello) (unheard : hello.progress node.nextSlot = .none)
    (moment : Nat) :
    (node.connected arrived moment).1.endAt? endpoint =
      if endpoint = arrived.socket then
        some ⟨node.nextSlot, .unnamed,
          ⟨false, node.table.inFlight.hasPending arrived.remote, []⟩,
          if node.table.inFlight.hasPending arrived.remote then Hello.line node.profile.id else []⟩
      else node.endAt? endpoint := by
  have admitted := linked.admitted sound unpumped sides moment
  have view : (node.admitted arrived moment).endAt? endpoint = _ :=
    linked.endAt?_admitted sound unpumped moment
  have silent : node.progress node.nextSlot = .none := by
    rw [progress, exchange]
    exact unheard
  rw [silent] at view
  rw [connected_of_open admitting]
  by_cases pending : node.table.inFlight.hasPending arrived.remote = true
  · have greeting : ({ node.admitted arrived moment with
        hello := some (hello.initiate node.nextSlot) } : Node).Linked := admitted.congr rfl rfl
    rw [if_pos pending, startHandshake_admitted exchange,
      greeting.endAt?_answered (mem_links_admitted arrived moment) (get?_admitted sound arrived moment),
      endAt?_withHello, view]
    by_cases same : endpoint = arrived.socket
    · simp only [same, if_true, Option.map_some, pending, Hello.progress_initiate, unheard,
        End.onSlot]
      rfl
    · simp only [same, if_false, Option.map_map]
      cases search : node.endAt? endpoint with
      | none => rfl
      | some other =>
          obtain ⟨link, linkMember, -, rfl⟩ := exists_link_of_endAt? search
          have different : (node.endOf link).slot ≠ node.nextSlot :=
            linked.slot_ne_nextSlot linkMember
          simp only [Option.map_some, Function.comp_apply, Hello.progress_initiate, different,
            End.onSlot, if_false]
          simp only [endOf, progress, exchange, Option.elim_some]
  · rw [if_neg pending, view]
    simp only [Bool.not_eq_true] at pending
    rw [pending]
    rfl

end Admission

/-! ## Ended links -/

section Ending

variable {link : Link}

theorem Linked.linkEnded (linked : node.Linked) (slot : Slot) : (node.linkEnded slot).Linked where
  slotsDistinct := by
    rw [links_linkEnded]
    exact linked.slotsDistinct.sublist (List.filter_sublist.map _)
  socketsDistinct := by
    rw [links_linkEnded]
    exact linked.socketsDistinct.sublist (List.filter_sublist.map _)
  issued := by
    intro link member
    rw [links_linkEnded] at member
    rw [registry_linkEnded, Registry.lastSlot_remove]
    exact linked.issued link (List.mem_filter.mp member).1
  pumped := by
    intro entry member
    rw [registry_linkEnded] at member
    obtain ⟨old, different⟩ := Registry.mem_entries_remove.mp member
    obtain ⟨link, linkMember, same⟩ := linked.pumped entry old
    refine ⟨link, ?_, same⟩
    rw [links_linkEnded]
    refine List.mem_filter.mpr ⟨linkMember, ?_⟩
    rw [same]
    simpa using different
  closed_iff := by
    intro link member
    rw [links_linkEnded] at member
    obtain ⟨old, different⟩ := List.mem_filter.mp member
    rw [registry_linkEnded, Registry.get?_remove, if_neg (by simpa using different)]
    exact linked.closed_iff link old
  queue := by
    intro link member
    rw [links_linkEnded] at member
    exact linked.queue link (List.mem_filter.mp member).1
  side := by
    intro link member entry found
    rw [links_linkEnded] at member
    obtain ⟨old, different⟩ := List.mem_filter.mp member
    rw [registry_linkEnded, Registry.get?_remove, if_neg (by simpa using different)] at found
    exact linked.side link old entry found

theorem Linked.slot_ne_of_socket_ne (linked : node.Linked) (member : link ∈ node.links)
    {other : Link} (otherMember : other ∈ node.links) (different : other.socket ≠ link.socket) :
    other.slot ≠ link.slot := by
  intro same
  rw [linked.eq_of_slot_eq otherMember member same] at different
  exact different rfl

theorem Linked.linkOn?_linkEnded (linked : node.Linked) (member : link ∈ node.links) :
    (node.linkEnded link.slot).linkOn? endpoint =
      if endpoint = link.socket then none else node.linkOn? endpoint := by
  rw [linkOn?, links_linkEnded, ← List.head?_filter, List.filter_filter]
  split
  · rename_i same
    rw [List.head?_eq_none_iff, List.filter_eq_nil_iff]
    intro other otherMember both
    simp only [same, bne_iff_ne, ne_eq, Bool.and_eq_true, beq_iff_eq] at both
    have sameLink := List.inj_on_of_nodup_map linked.socketsDistinct otherMember member both.1
    rw [sameLink] at both
    exact both.2 rfl
  · rename_i different
    rw [linkOn?, ← List.head?_filter]
    refine congrArg List.head? (List.filter_congr ?_)
    intro other otherMember
    by_cases asked : other.socket = endpoint
    · subst asked
      simp [linked.slot_ne_of_socket_ne member otherMember different]
    · simp [asked]

theorem Linked.endAt?_linkEnded (linked : node.Linked) (member : link ∈ node.links) :
    (node.linkEnded link.slot).endAt? endpoint =
      if endpoint = link.socket then none else node.endAt? endpoint := by
  rw [endAt?, linked.linkOn?_linkEnded member, endAt?]
  split
  · rfl
  · rename_i different
    cases search : node.linkOn? endpoint with
    | none => rfl
    | some other =>
        obtain ⟨otherMember, rfl⟩ := linkOn?_eq_some search
        have apart := linked.slot_ne_of_socket_ne member otherMember different
        simp only [Option.map_some, endOf, registry_linkEnded, Registry.standing_remove, apart,
          if_false, progress, hello_linkEnded, Option.some.injEq, End.mk.injEq, true_and, and_true]
        cases exchange : node.hello with
        | none => rfl
        | some hello => exact Hello.progress_forget hello apart

end Ending

end PeerMesh.Node
