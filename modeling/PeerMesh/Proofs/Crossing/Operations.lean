import PeerMesh.Proofs.Crossing.Ends
import PeerMesh.Proofs.Node.Frame

/-!
# What the operations of a node do to its ends

Each operation on the connections that there are keeps the links in step with the registry, and
changes the ends of one slot, or of none. An end that is closed keeps its place until its task ends.
-/

set_option autoImplicit false

namespace PeerMesh.Node

open Crossing (End Standing)

variable {node after : Node} {endpoint : Endpoint} {entry : Connection} {slot : Slot}

/-! ## Frames -/

theorem Linked.congr (linked : node.Linked) (links : after.links = node.links)
    (registry : after.table.registry = node.table.registry) : after.Linked where
  slotsDistinct := by
    rw [links]
    exact linked.slotsDistinct
  socketsDistinct := by
    rw [links]
    exact linked.socketsDistinct
  issued := by
    rw [links, registry]
    exact linked.issued
  pumped := by
    rw [links, registry]
    exact linked.pumped
  closed_iff := by
    rw [links, registry]
    exact linked.closed_iff
  queue := by
    rw [links]
    exact linked.queue
  side := by
    rw [links, registry]
    exact linked.side

theorem endAt?_congr (links : after.links = node.links)
    (registry : after.table.registry = node.table.registry) (hello : after.hello = node.hello) :
    after.endAt? endpoint = node.endAt? endpoint := by
  have views : after.endOf = node.endOf := by
    funext link
    simp only [endOf, progress, registry, hello]
  rw [endAt?, endAt?, linkOn?, linkOn?, links, views]

/-- Where links change and keep their sockets, so do the ends. -/
theorem endAt?_of_map (change : Link → Link) (view : End → End)
    (links : after.links = node.links.map change)
    (sockets : ∀ link, (change link).socket = link.socket)
    (views : ∀ link ∈ node.links, after.endOf (change link) = view (node.endOf link)) :
    after.endAt? endpoint = (node.endAt? endpoint).map view := by
  have searched : after.linkOn? endpoint = (node.linkOn? endpoint).map change := by
    rw [linkOn?, links, List.find?_map, linkOn?]
    congr 2
    funext link
    exact congrArg (· == endpoint) (sockets link)
  rw [endAt?, searched, endAt?]
  cases search : node.linkOn? endpoint with
  | none => rfl
  | some link => exact congrArg some (views link (linkOn?_eq_some search).1)

/-! ## Registry -/

/-- A change of one connection that keeps its slot and its direction. -/
theorem Linked.updated (linked : node.Linked) {slot : Slot} {change : Connection → Connection}
    (links : after.links = node.links)
    (entries : after.table.registry.entries = (node.table.registry.update slot change).entries)
    (lastSlot : after.table.registry.lastSlot = node.table.registry.lastSlot)
    (keepsSlot : ∀ entry, (change entry).slot = entry.slot)
    (keepsDirection : ∀ entry, (change entry).direction = entry.direction) : after.Linked := by
  have search : ∀ asked, after.table.registry.get? asked =
      (node.table.registry.get? asked).map fun entry =>
        if entry.slot = slot then change entry else entry := by
    intro asked
    rw [← Registry.get?_update keepsSlot, Registry.get?, Registry.get?, entries]
  constructor
  · rw [links]
    exact linked.slotsDistinct
  · rw [links]
    exact linked.socketsDistinct
  · rw [links, lastSlot]
    exact linked.issued
  · rw [links, entries]
    intro other member
    obtain ⟨old, oldMember, rfl⟩ := Registry.mem_entries_update.mp member
    obtain ⟨link, linkMember, same⟩ := linked.pumped old oldMember
    refine ⟨link, linkMember, same.trans ?_⟩
    split
    · exact (keepsSlot old).symm
    · rfl
  · rw [links]
    intro link member
    rw [linked.closed_iff link member, search, Option.map_eq_none_iff]
  · rw [links]
    exact linked.queue
  · rw [links]
    intro link member other found
    rw [search, Option.map_eq_some_iff] at found
    obtain ⟨old, oldFound, rfl⟩ := found
    rw [← linked.side link member old oldFound]
    split
    · rw [keepsDirection]
    · rfl

theorem Linked.touched (linked : node.Linked) (touched : Slot) (moment : Nat) :
    (node.withRegistry (node.table.registry.touch touched moment)).Linked :=
  linked.updated rfl rfl rfl (fun _ => rfl) (fun _ => rfl)

theorem endAt?_touched (touched : Slot) (moment : Nat) :
    (node.withRegistry (node.table.registry.touch touched moment)).endAt? endpoint =
      node.endAt? endpoint := by
  have views : (node.withRegistry (node.table.registry.touch touched moment)).endOf = node.endOf := by
    funext link
    simp only [endOf, withRegistry, Registry.standing_touch]
    rfl
  rw [endAt?, views]
  rfl

theorem Linked.expelled (linked : node.Linked) (entry : Connection) :
    (node.expelled entry).Linked where
  slotsDistinct := by
    change ((node.updateHandle entry.slot fun handle => handle.close.1).links.map (·.slot)).Nodup
    rw [slots_updateHandle]
    exact linked.slotsDistinct
  socketsDistinct := by
    change ((node.updateHandle entry.slot fun handle => handle.close.1).links.map (·.socket)).Nodup
    rw [sockets_updateHandle]
    exact linked.socketsDistinct
  issued := by
    intro link member
    obtain ⟨old, oldMember, rfl⟩ := List.mem_map.mp member
    have bound := linked.issued old oldMember
    split <;> exact bound
  pumped := by
    intro other member
    obtain ⟨link, linkMember, slot⟩ :=
      linked.pumped other (Registry.mem_entries_without.mp member).1
    refine ⟨_, List.mem_map.mpr ⟨link, linkMember, rfl⟩, ?_⟩
    split <;> exact slot
  closed_iff := by
    intro link member
    obtain ⟨old, oldMember, rfl⟩ := List.mem_map.mp member
    rw [registry_expelled, Registry.get?_without]
    by_cases same : old.slot = entry.slot
    · simp [same, Handle.close]
    · simp only [same, if_false]
      exact linked.closed_iff old oldMember
  queue := by
    intro link member
    obtain ⟨old, oldMember, rfl⟩ := List.mem_map.mp member
    have queue := linked.queue old oldMember
    split <;> exact queue
  side := by
    intro link member other search
    obtain ⟨old, oldMember, rfl⟩ := List.mem_map.mp member
    rw [registry_expelled, Registry.get?_without] at search
    by_cases same : old.slot = entry.slot
    · simp [same] at search
    · simp only [same, if_false] at search ⊢
      exact linked.side old oldMember other search

theorem endAt?_expelled :
    (node.expelled entry).endAt? endpoint = (node.endAt? endpoint).map
      (End.onSlot entry.slot fun view => view.stood .gone) := by
  refine endAt?_of_map (fun link =>
    if link.slot = entry.slot then { link with handle := link.handle.close.1 } else link) _ rfl ?_ ?_
  · intro link
    split <;> rfl
  · intro link _
    simp only [endOf, registry_expelled, Registry.standing_without, End.onSlot]
    by_cases same : link.slot = entry.slot
    · simp only [same, if_true]
      rfl
    · simp only [same, if_false]
      rfl

theorem endAt?_dismissed :
    (node.dismissed entry).endAt? endpoint = (node.endAt? endpoint).map
      (End.onSlot entry.slot fun view => view.stood .gone) := by
  rw [← endAt?_expelled]
  unfold dismissed
  split
  · rfl
  · exact endAt?_congr rfl rfl rfl

theorem Linked.withName (linked : node.Linked) (entry : Connection) (name : String) :
    (node.withName entry name).Linked :=
  linked.updated rfl rfl rfl (fun _ => rfl) (fun _ => rfl)

theorem endAt?_withName (found : node.table.registry.get? entry.slot = some entry) (name : String) :
    (node.withName entry name).endAt? endpoint = (node.endAt? endpoint).map
      (End.onSlot entry.slot fun view => view.stood .named) := by
  refine endAt?_of_map id _ (List.map_id _).symm (fun _ => rfl) ?_
  intro link _
  change (⟨link.slot, (node.table.registry.identifiedAs entry name).standing link.slot, _, _⟩ : End) =
    _
  rw [Registry.standing_identifiedAs found]
  by_cases same : link.slot = entry.slot
  · rw [if_pos same]
    exact (if_pos same).symm
  · rw [if_neg same]
    exact (if_neg same).symm

/-! ## Handles -/

theorem Linked.updateHandle (linked : node.Linked) (slot : Slot) {change : Handle → Handle}
    (closed : ∀ handle, (change handle).closed = handle.closed)
    (queue : ∀ handle, handle.queue.isSome = true → (change handle).queue.isSome = true) :
    (node.updateHandle slot change).Linked where
  slotsDistinct := by
    rw [slots_updateHandle]
    exact linked.slotsDistinct
  socketsDistinct := by
    rw [sockets_updateHandle]
    exact linked.socketsDistinct
  issued := by
    intro link member
    obtain ⟨old, oldMember, rfl⟩ := List.mem_map.mp member
    have bound := linked.issued old oldMember
    split <;> exact bound
  pumped := by
    intro other member
    obtain ⟨link, linkMember, slot⟩ := linked.pumped other member
    refine ⟨_, List.mem_map.mpr ⟨link, linkMember, rfl⟩, ?_⟩
    split <;> exact slot
  closed_iff := by
    intro link member
    obtain ⟨old, oldMember, rfl⟩ := List.mem_map.mp member
    have iff := linked.closed_iff old oldMember
    split
    · rw [closed]
      exact iff
    · exact iff
  queue := by
    intro link member
    obtain ⟨old, oldMember, rfl⟩ := List.mem_map.mp member
    have present := linked.queue old oldMember
    split
    · exact queue old.handle present
    · exact present
  side := by
    intro link member other search
    obtain ⟨old, oldMember, rfl⟩ := List.mem_map.mp member
    have iff := linked.side old oldMember
    split at search <;> split <;> exact iff other search

/-- A change to the handle under one slot changes what waits there. -/
theorem Linked.endAt?_updateHandle (linked : node.Linked) {link : Link} (member : link ∈ node.links)
    (change : Handle → Handle) (queued : Bytes) (changed : waiting (change link.handle) = queued) :
    (node.updateHandle link.slot change).endAt? endpoint = (node.endAt? endpoint).map
      (End.onSlot link.slot fun view => { view with queued }) := by
  refine endAt?_of_map (fun other =>
    if other.slot = link.slot then { other with handle := change other.handle } else other) _ rfl
    ?_ ?_
  · intro other
    split <;> rfl
  · intro other otherMember
    by_cases same : other.slot = link.slot
    · obtain rfl := linked.eq_of_slot_eq otherMember member same
      subst changed
      simp only [if_true, endOf, End.onSlot]
      rfl
    · simp only [same, if_false, endOf, End.onSlot]
      rfl

theorem Linked.open_of_registered (linked : node.Linked) {link : Link} (member : link ∈ node.links)
    (registered : node.table.registry.get? link.slot = some entry) : link.handle.closed = false := by
  rw [← Bool.not_eq_true, linked.closed_iff link member, registered]
  exact Option.some_ne_none entry

theorem Linked.send_of_registered (linked : node.Linked) {link : Link} (member : link ∈ node.links)
    (registered : node.table.registry.get? link.slot = some entry) (bytes : Bytes) :
    (node.send link.slot bytes).1 =
        node.updateHandle link.slot (fun handle => (handle.send bytes).1) ∧
      waiting (link.handle.send bytes).1 = waiting link.handle ++ bytes := by
  have isOpen := linked.open_of_registered member registered
  obtain ⟨queue, present⟩ := Option.isSome_iff_exists.mp (linked.queue link member)
  have sent : link.handle.send bytes = ({ link.handle with queue := some (queue ++ [bytes]) }, true) := by
    simp only [Handle.send, isOpen, Bool.false_eq_true, if_false, present]
  constructor
  · simp only [send, registered, linked.link?_of_mem member, sent, if_true]
  · rw [sent]
    simp [waiting, present]

theorem Linked.answered (linked : node.Linked) {link : Link} (member : link ∈ node.links)
    (registered : node.table.registry.get? link.slot = some entry) (bytes : Bytes) :
    (node.send link.slot bytes).1.Linked := by
  rw [(linked.send_of_registered member registered bytes).1]
  refine linked.updateHandle link.slot ?_ ?_
  · intro handle
    unfold Handle.send
    split
    · rfl
    · split <;> rfl
  · intro handle present
    unfold Handle.send
    split
    · exact present
    · split
      · exact present
      · rfl

theorem Linked.endAt?_answered (linked : node.Linked) {link : Link} (member : link ∈ node.links)
    (registered : node.table.registry.get? link.slot = some entry) (bytes : Bytes) :
    (node.send link.slot bytes).1.endAt? endpoint = (node.endAt? endpoint).map
      (End.onSlot link.slot fun view => { view with queued := view.queued ++ bytes }) := by
  obtain ⟨sent, queued⟩ := linked.send_of_registered member registered bytes
  rw [sent, linked.endAt?_updateHandle member _ _ queued]
  cases search : node.endAt? endpoint with
  | none => rfl
  | some view =>
      simp only [Option.map_some, End.onSlot]
      split
      · rename_i same
        obtain ⟨other, otherMember, -, rfl⟩ := exists_link_of_endAt? search
        obtain rfl := linked.eq_of_slot_eq otherMember member same
        rfl
      · rfl

/-! ## The hello exchange -/

theorem endAt?_withHello (hello : Hello) :
    ({ node with hello := some hello } : Node).endAt? endpoint = (node.endAt? endpoint).map fun view =>
      { view with progress := hello.progress view.slot } :=
  endAt?_of_map id _ (List.map_id _).symm (fun _ => rfl) (fun _ _ => rfl)

end PeerMesh.Node
