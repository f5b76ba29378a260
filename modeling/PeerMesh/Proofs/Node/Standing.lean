import PeerMesh.Proofs.Node.Pumps

/-!
# What a node has under a slot

Under a slot stand the entry of a connection and the link of the task that pumps it. The entry may
go before the task ends; then the link tells whether the close signal was given. A connection that
goes is ousted: it has no entry, and its task has the signal. Whatever an identification does, it
does to at most two slots, and every other slot stands as it did.
-/

set_option autoImplicit false

namespace PeerMesh.Node

structure Standing where
  entry : Option Connection
  link : Option Link
  deriving DecidableEq

/-- What a node has under `slot`. -/
def standing (node : Node) (slot : Slot) : Standing :=
  ⟨node.table.registry.get? slot, node.link? slot⟩

/-- The connection is not registered any more, and the task that pumps it has the close signal. -/
structure Standing.Ousted (standing : Standing) : Prop where
  unregistered : standing.entry = none
  signalled : ∃ link, standing.link = some link ∧ link.handle.closed = true

variable {node : Node} {entry : Connection} {slot other : Slot}

/-! ## Links under slots -/

theorem link?_updateHandle (node : Node) (changed slot : Slot) (change : Handle → Handle) :
    (node.updateHandle changed change).link? slot = (node.link? slot).map fun link =>
      if link.slot = changed then { link with handle := change link.handle } else link := by
  rw [link?, updateHandle, List.find?_map, link?]
  congr 2
  funext link
  by_cases same : link.slot = changed <;> simp [same]

theorem slot_of_link? {link : Link} (found : node.link? slot = some link) : link.slot = slot := by
  simpa using List.find?_some found

theorem Threaded.issued_of_link? (threaded : node.Threaded)
    (linked : (node.link? slot).isSome = true) :
    slot.number ≤ node.table.registry.lastSlot := by
  obtain ⟨link, found⟩ := Option.isSome_iff_exists.mp linked
  have issued := threaded.issued link (List.mem_of_find?_eq_some found)
  rwa [slot_of_link? found] at issued

theorem link?_closeHandle_self (node : Node) (slot : Slot) :
    (node.closeHandle slot).link? slot =
      (node.link? slot).map fun link => { link with handle := link.handle.close.1 } := by
  rw [closeHandle, link?_updateHandle]
  refine Option.map_congr ?_
  intro link found
  rw [if_pos (slot_of_link? found)]

theorem link?_updateHandle_of_ne (different : other ≠ slot) (change : Handle → Handle) :
    (node.updateHandle slot change).link? other = node.link? other := by
  rw [link?_updateHandle]
  refine (Option.map_congr ?_).trans Option.map_id'
  intro link found
  rw [slot_of_link? found, if_neg different]

theorem link?_closeHandle_of_ne (different : other ≠ slot) :
    (node.closeHandle slot).link? other = node.link? other :=
  link?_updateHandle_of_ne different _

theorem link?_linkEnded (node : Node) (slot other : Slot) :
    (node.linkEnded slot).link? other = if other = slot then none else node.link? other := by
  rw [link?, links_linkEnded, List.find?_filter]
  by_cases same : other = slot
  · subst same
    rw [if_pos rfl, List.find?_eq_none]
    intro link _
    simp
  · rw [if_neg same, link?]
    congr 1
    funext link
    by_cases found : link.slot = other
    · simp [found, same]
    · simp [found]

theorem exists_link?_of_isPumped (pumped : node.IsPumped slot) :
    ∃ link, node.link? slot = some link := by
  obtain ⟨socket, member⟩ := pumped
  obtain ⟨link, linkMember, same⟩ := List.mem_map.mp member
  obtain ⟨rfl, -⟩ := Prod.mk.inj same
  exact Option.isSome_iff_exists.mp (List.find?_isSome.mpr ⟨link, linkMember, by simp⟩)

/-! ## Entries that go -/

theorem standing_expelled_of_ne (different : other ≠ entry.slot) :
    (node.expelled entry).standing other = node.standing other := by
  have link : (node.expelled entry).link? other = node.link? other :=
    link?_closeHandle_of_ne different
  rw [standing, registry_expelled, Registry.get?_without, if_neg different, link, standing]

/-- A pumped connection that is removed and closed is ousted. -/
theorem ousted_expelled (pumped : node.IsPumped entry.slot) :
    ((node.expelled entry).standing entry.slot).Ousted where
  unregistered := by
    rw [standing, registry_expelled, Registry.get?_without, if_pos rfl]
  signalled := by
    obtain ⟨link, found⟩ := exists_link?_of_isPumped pumped
    have closed : (node.expelled entry).link? entry.slot =
        (node.link? entry.slot).map fun link => { link with handle := link.handle.close.1 } :=
      link?_closeHandle_self _ entry.slot
    rw [found] at closed
    exact ⟨_, closed, rfl⟩

theorem standing_dismissed (node : Node) (entry : Connection) (slot : Slot) :
    (node.dismissed entry).standing slot = (node.expelled entry).standing slot := by
  unfold dismissed
  split <;> rfl

/-! ## Entries that get a name -/

theorem standing_withName (node : Node) (entry : Connection) (name : String) (slot : Slot) :
    (node.withName entry name).standing slot =
      ⟨(node.table.registry.get? slot).map fun other =>
        if other.slot = entry.slot then { other with name, identified := true } else other,
        node.link? slot⟩ := by
  rw [standing]
  congr 1
  exact Registry.get?_identifiedAs node.table.registry entry name slot

theorem standing_withName_of_ne (different : other ≠ entry.slot) (name : String) :
    (node.withName entry name).standing other = node.standing other := by
  rw [standing_withName, standing]
  congr 1
  refine (Option.map_congr ?_).trans Option.map_id'
  intro found search
  rw [Registry.slot_of_get? search, if_neg different]

theorem standing_withName_self (found : node.table.registry.get? entry.slot = some entry)
    (name : String) :
    (node.withName entry name).standing entry.slot =
      ⟨some { entry with name, identified := true }, node.link? entry.slot⟩ := by
  rw [standing_withName, found, Option.map_some, if_pos rfl]

end PeerMesh.Node
