import Mathlib.Logic.Function.Basic
import PeerMesh.Proofs.Crossing.Sockets
import PeerMesh.Proofs.Hello.Progress
import PeerMesh.Proofs.Node.Identification
import PeerMesh.Proofs.Node.Links

/-!
# What a node has of a socket

A node pumps its end of a socket under a slot; the registry tells whether the end is named, the
handle what waits to be written, the hello exchange what has been read. These are gathered here into
one value per end, and every operation of a node is described by what it does to those values.
-/

set_option autoImplicit false

namespace PeerMesh

namespace Registry

open Crossing (Standing)

/-- Where the connection under a slot stands, given that it was registered once. -/
def standing (registry : Registry) (slot : Slot) : Standing :=
  match registry.get? slot with
  | none => .gone
  | some entry => if entry.identified then .named else .unnamed

theorem standing_eq_gone_iff {registry : Registry} {slot : Slot} :
    registry.standing slot = .gone ↔ registry.get? slot = none := by
  unfold standing
  cases registry.get? slot with
  | none => simp
  | some entry => cases identified : entry.identified <;> simp [identified]

theorem standing_eq_named_iff {registry : Registry} {slot : Slot} :
    registry.standing slot = .named ↔
      ∃ entry, registry.get? slot = some entry ∧ entry.identified = true := by
  unfold standing
  cases registry.get? slot with
  | none => simp
  | some entry => cases entry.identified <;> simp

theorem standing_eq_unnamed_iff {registry : Registry} {slot : Slot} :
    registry.standing slot = .unnamed ↔
      ∃ entry, registry.get? slot = some entry ∧ entry.identified = false := by
  unfold standing
  cases registry.get? slot with
  | none => simp
  | some entry => cases entry.identified <;> simp

theorem standing_touch (registry : Registry) (touched slot : Slot) (moment : Nat) :
    (registry.touch touched moment).standing slot = registry.standing slot := by
  unfold standing
  rw [get?_touch]
  cases registry.get? slot with
  | none => rfl
  | some entry =>
      simp only [Option.map_some]
      split <;> rfl

theorem standing_without (registry : Registry) (entry : Connection) (slot : Slot) :
    (registry.without entry).standing slot =
      if slot = entry.slot then .gone else registry.standing slot := by
  unfold standing
  rw [get?_without]
  by_cases same : slot = entry.slot
  · simp [same]
  · rw [if_neg same, if_neg same]

theorem standing_remove (registry : Registry) (removed slot : Slot) :
    (registry.remove removed).1.standing slot =
      if slot = removed then .gone else registry.standing slot := by
  unfold standing
  rw [get?_remove]
  by_cases same : slot = removed
  · simp [same]
  · rw [if_neg same, if_neg same]

theorem standing_identifiedAs {registry : Registry} {entry : Connection}
    (found : registry.get? entry.slot = some entry) (name : String) (slot : Slot) :
    (registry.identifiedAs entry name).standing slot =
      if slot = entry.slot then .named else registry.standing slot := by
  unfold standing
  rw [get?_identifiedAs]
  by_cases same : slot = entry.slot
  · subst same
    simp [found]
  · rw [if_neg same]
    cases search : registry.get? slot with
    | none => rfl
    | some other =>
        have different : other.slot ≠ entry.slot := by
          rw [slot_of_get? search]
          exact same
        simp [different]

theorem standing_insert {registry : Registry} (sound : registry.Sound) (new : NewConnection)
    (moment : Nat) (slot : Slot) :
    (registry.insert new moment).1.standing slot =
      if slot = ⟨registry.lastSlot + 1⟩ then .unnamed else registry.standing slot := by
  unfold standing
  rw [get?_insert sound]
  by_cases fresh : slot = ⟨registry.lastSlot + 1⟩
  · rw [if_pos fresh, if_pos fresh]
    rfl
  · rw [if_neg fresh, if_neg fresh]

end Registry

namespace Crossing

/-- What a node has of one end of a socket. -/
structure End where
  slot : Slot
  standing : Standing
  progress : Hello.Progress
  /-- The bytes that wait to be written. -/
  queued : Bytes

def End.stood (view : End) (standing : Standing) : End :=
  { view with standing }

def End.onSlot (slot : Slot) (change : End → End) (view : End) : End :=
  if view.slot = slot then change view else view

theorem End.onSlot_of_eq {slot : Slot} {change : End → End} {view : End} (same : view.slot = slot) :
    End.onSlot slot change view = change view :=
  if_pos same

theorem End.onSlot_of_ne {slot : Slot} {change : End → End} {view : End}
    (different : view.slot ≠ slot) : End.onSlot slot change view = view :=
  if_neg different

end Crossing

namespace Handle

theorem closed_receive (handle : Handle) : handle.receive.1.closed = handle.closed := by
  obtain ⟨closed, _ | _ | _⟩ := handle <;> rfl

theorem isSome_queue_receive (handle : Handle) :
    handle.receive.1.queue.isSome = handle.queue.isSome := by
  obtain ⟨closed, _ | _ | _⟩ := handle <;> rfl

theorem queue_of_receive {handle after : Handle} {bytes : Bytes}
    (receives : handle.receive = (after, some bytes)) :
    ∃ rest, handle.queue = some (bytes :: rest) ∧ after.queue = some rest := by
  obtain ⟨closed, _ | _ | ⟨first, rest⟩⟩ := handle
  · cases receives
  · cases receives
  · cases receives
    exact ⟨rest, rfl, rfl⟩

end Handle

namespace Node

open Crossing (End Standing)

/-- The bytes that wait on a handle. -/
def waiting (handle : Handle) : Bytes :=
  (handle.queue.getD []).flatten

/-- What the exchange has come to on the connection under a slot. -/
def progress (node : Node) (slot : Slot) : Hello.Progress :=
  node.hello.elim .none fun hello => hello.progress slot

/-- What a node has of the end that a link pumps. -/
def endOf (node : Node) (link : Link) : End :=
  ⟨link.slot, node.table.registry.standing link.slot, node.progress link.slot, waiting link.handle⟩

def linkOn? (node : Node) (endpoint : Endpoint) : Option Link :=
  node.links.find? fun link => link.socket == endpoint

/-- What a node has of an end, if it pumps it. -/
def endAt? (node : Node) (endpoint : Endpoint) : Option End :=
  (node.linkOn? endpoint).map node.endOf

/-- How the links of a node go with its registry. -/
structure Linked (node : Node) : Prop where
  slotsDistinct : (node.links.map (·.slot)).Nodup
  socketsDistinct : (node.links.map (·.socket)).Nodup
  issued : ∀ link ∈ node.links, link.slot.number ≤ node.table.registry.lastSlot
  pumped : ∀ entry ∈ node.table.registry.entries, ∃ link ∈ node.links, link.slot = entry.slot
  /-- A handle is closed exactly when its connection is not registered any more. -/
  closed_iff : ∀ link ∈ node.links,
    link.handle.closed = true ↔ node.table.registry.get? link.slot = none
  queue : ∀ link ∈ node.links, link.handle.queue.isSome = true
  side : ∀ link ∈ node.links, ∀ entry, node.table.registry.get? link.slot = some entry →
    (entry.direction = .outbound ↔ link.socket.side = .caller)

section Search

variable {node : Node} {link other : Link} {endpoint : Endpoint} {view : End}

theorem linkOn?_eq_some (found : node.linkOn? endpoint = some link) :
    link ∈ node.links ∧ link.socket = endpoint :=
  ⟨List.mem_of_find?_eq_some found, by simpa using List.find?_some found⟩

theorem Linked.linkOn?_of_mem (linked : node.Linked) (member : link ∈ node.links) :
    node.linkOn? link.socket = some link := by
  have present : (node.linkOn? link.socket).isSome = true :=
    List.find?_isSome.mpr ⟨link, member, by simp⟩
  obtain ⟨found, search⟩ := Option.isSome_iff_exists.mp present
  obtain ⟨foundMember, same⟩ := linkOn?_eq_some search
  rw [search, List.inj_on_of_nodup_map linked.socketsDistinct foundMember member same]

theorem Linked.link?_of_mem (linked : node.Linked) (member : link ∈ node.links) :
    node.link? link.slot = some link :=
  Node.link?_of_mem linked.slotsDistinct member

theorem Linked.eq_of_slot_eq (linked : node.Linked) (member : link ∈ node.links)
    (otherMember : other ∈ node.links) (same : link.slot = other.slot) : link = other :=
  List.inj_on_of_nodup_map linked.slotsDistinct member otherMember same

theorem Linked.endAt?_of_mem (linked : node.Linked) (member : link ∈ node.links) :
    node.endAt? link.socket = some (node.endOf link) := by
  rw [endAt?, linked.linkOn?_of_mem member]
  rfl

theorem exists_link_of_endAt? (found : node.endAt? endpoint = some view) :
    ∃ link ∈ node.links, link.socket = endpoint ∧ node.endOf link = view := by
  obtain ⟨link, search, same⟩ := Option.map_eq_some_iff.mp found
  obtain ⟨member, socket⟩ := linkOn?_eq_some search
  exact ⟨link, member, socket, same⟩

theorem endAt?_eq_none_iff : node.endAt? endpoint = none ↔ ∀ link ∈ node.links, link.socket ≠ endpoint := by
  simp [endAt?, linkOn?]

/-- A change to the ends under the slot of a link is a change to the end that the link pumps. -/
theorem Linked.endAt?_eq_update {after : Node} (linked : node.Linked) (member : link ∈ node.links)
    {change : End → End}
    (changed : ∀ endpoint, after.endAt? endpoint =
      (node.endAt? endpoint).map (End.onSlot link.slot change)) :
    after.endAt? = Function.update node.endAt? link.socket (some (change (node.endOf link))) := by
  funext endpoint
  rw [changed, Function.update_apply]
  by_cases same : endpoint = link.socket
  · rw [if_pos same, same, linked.endAt?_of_mem member, Option.map_some]
    exact congrArg some (End.onSlot_of_eq rfl)
  · rw [if_neg same]
    cases search : node.endAt? endpoint with
    | none => rfl
    | some view =>
        obtain ⟨third, thirdMember, rfl, rfl⟩ := exists_link_of_endAt? search
        refine congrArg some (End.onSlot_of_ne ?_)
        intro sameSlot
        exact same (congrArg Link.socket (linked.eq_of_slot_eq thirdMember member sameSlot))

end Search

end Node

end PeerMesh
