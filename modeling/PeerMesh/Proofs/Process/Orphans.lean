import PeerMesh.Proofs.Process.Preservation
import PeerMesh.Proofs.Process.Teardown

/-!
# No connection is orphaned

A task that pumps an open connection has its entry, and every entry has its task. So whatever takes
an entry out of the registry closes the connection in the same step. The task gives up the socket
when it notices, which it does not as long as it waits in a write, and a task that ends for another
reason takes its entry along.
-/

set_option autoImplicit false

namespace PeerMesh

open Node (Situation)

namespace Node.Situation

theorem Reached.pumped {situation : Situation} (reached : situation.Reached) :
    situation.node.Pumped := by
  obtain ⟨start, acts, initial, rfl⟩ := reached
  exact pumped_run initial acts

end Node.Situation

namespace Mesh

variable {mesh : Mesh} {number : Nat} {entry : NodeEntry} {link : Link}

/-! ## The end of a task -/

/-- A task pumps the connection still, which is registered unless it is closed. -/
def Tended (mesh : Mesh) (number : Nat) (link : Link) : Prop :=
  ∃ node still, mesh.node? number = some node ∧ node.link? link.slot = some still ∧
    still.socket = link.socket ∧
      (still.handle.closed = true ∨ (node.table.registry.get? link.slot).isSome = true)

theorem Orderly.tended (orderly : mesh.Orderly) (found : mesh.nodes[number]? = some entry)
    (pump : (link.slot, link.socket) ∈ entry.node.pumps) : mesh.Tended number link := by
  obtain ⟨context, known, reached⟩ := orderly.followed number entry found
  obtain ⟨still, member, same⟩ := List.mem_map.mp pump
  obtain ⟨slot, socket⟩ := Prod.mk.inj same
  have search := Node.link?_of_mem reached.threaded.distinct member
  rw [slot] at search
  refine ⟨entry.node, still, node?_of_found found, search, socket, ?_⟩
  cases closed : still.handle.closed with
  | true => exact .inl rfl
  | false =>
      have isOpen : still.handle.isOpen = true := by rw [Handle.isOpen, closed, Bool.not_false]
      obtain ⟨connection, registered, named⟩ := reached.tidy.anchored still member isOpen
      rw [← slot, ← named]
      exact .inr (Registry.get?_isSome_of_mem registered)

theorem Orderly.link?_of_mem (orderly : mesh.Orderly) (found : mesh.nodes[number]? = some entry)
    (member : link ∈ entry.node.links) : mesh.link? number link.slot = some link := by
  obtain ⟨context, known, reached⟩ := orderly.followed number entry found
  rw [link?, node?_of_found found]
  exact Node.link?_of_mem reached.threaded.distinct member

end Mesh

/-! ## Turns -/

namespace Ongoing

open Mesh (Preserves)

variable {ongoing after : Ongoing} {turn : Turn} {number : Nat} {entry : NodeEntry} {link : Link}

/-- The task of a connection goes on, unless it is the one whose write fails. -/
theorem Takes.stays (takes : ongoing.Takes turn after)
    (found : ongoing.mesh.nodes[number]? = some entry) {pump : Slot × Endpoint}
    (member : pump ∈ entry.node.pumps) (whole : ∀ move, turn ≠ .moves move)
    (other : turn ≠ .failsWrite number pump.1) :
    ∃ later, after.mesh.nodes[number]? = some later ∧ pump ∈ later.node.pumps := by
  have kept : ∀ {mesh : Mesh}, mesh.nodes = ongoing.mesh.nodes →
      ∃ later, mesh.nodes[number]? = some later ∧ pump ∈ later.node.pumps := by
    intro mesh same
    exact ⟨entry, by rw [same, found], member⟩
  have preserved : ∀ {ended : Nat → Slot → Prop} {mesh : Mesh},
      Preserves ended (fun _ => False) ongoing.mesh mesh → ¬ ended number pump.1 →
      ∃ later, mesh.nodes[number]? = some later ∧ pump ∈ later.node.pumps := by
    intro ended mesh preserves unended
    obtain ⟨later, there, persists⟩ := preserves.nodes number entry found
    exact ⟨later, there, persists.node.pumps pump member unended⟩
  have updated : ∀ {target : Nat} {change : Node → Node},
      (∀ node : Node, Node.Upholds (fun _ => False) node (change node)) →
      ∃ later, (ongoing.mesh.updateNode target change).nodes[number]? = some later ∧
        pump ∈ later.node.pumps := by
    intro target change upholds
    have preserves : Preserves (fun _ _ => False) (fun _ => False) ongoing.mesh
        (ongoing.mesh.updateNode target change) :=
      Mesh.preserves_updateNode _ target fun node _ => upholds node
    exact preserved preserves id
  have listens : ∀ {node later : Node}, later.profile = node.profile →
      later.listeners = node.listeners → later.stopping = node.stopping →
      later.pumps = node.pumps → Node.Upholds (fun _ => False) node later := by
    intro node later profile listeners stopping pumps
    refine .of_listeners profile listeners stopping ?_
    rw [pumps]
    exact fun _ member _ => member
  cases takes with
  | idle => exact kept rfl
  | moved move => exact absurd rfl (whole move)
  | declined _ prepared => exact kept (nodes_of_prepared prepared)
  | began request prepared =>
      rw [← nodes_of_prepared prepared] at found
      exact ⟨entry, Mesh.getElem?_enlist request _ found, member⟩
  | @wentOn target stage =>
      cases stage with
      | storesHook hook => exact updated fun _ => listens rfl rfl rfl rfl
      | registers | opensPaths | joins => exact kept (Mesh.nodes_takeStage _ _ nofun)
  | signaled => exact updated fun _ => listens rfl rfl rfl rfl
  | @took target slot link =>
      exact updated fun node => listens rfl rfl rfl (Node.pumps_updateHandle node link.slot _)
  | wrote => exact kept rfl
  | @failed target slot link linked =>
      have ends : Preserves (fun node slot => target = node ∧ link.slot = slot) (fun _ => False)
          ongoing.mesh (ongoing.mesh.endLink target link) :=
        Mesh.preserves_endLink ongoing.mesh ⟨rfl, rfl⟩
      refine preserved ends ?_
      rintro ⟨rfl, same⟩
      rw [Mesh.slot_of_link? linked] at same
      exact other (same ▸ rfl)

end Ongoing

end PeerMesh
