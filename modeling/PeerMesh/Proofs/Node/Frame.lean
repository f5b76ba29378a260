import PeerMesh.Node.Teardown
import PeerMesh.Proofs.Node.Admission
import PeerMesh.Proofs.Node.Greetings
import PeerMesh.Proofs.Node.Identification

/-!
# What the life of a connection leaves alone

What a node is, how it listens and how far its teardown has come is no concern of its connections.
The hello exchange is told of new connections, of bytes and of ends, and of nothing else.
-/

set_option autoImplicit false

namespace PeerMesh.Node

/-- What a node has besides its table, its dials, its connections and its hello exchange. -/
def frame (node : Node) :
    Profile × List Listener × Bool × Option ExitHook × Shutdown.Coordinator Closer × Bool :=
  (node.profile, node.listeners, node.stopping, node.hook, node.closers, node.closed)

/-- The frame together with the hello exchange. -/
def shell (node : Node) :
    (Profile × List Listener × Bool × Option ExitHook × Shutdown.Coordinator Closer × Bool) ×
      Option Hello :=
  (node.frame, node.hello)

/-! ## With the hello exchange -/

theorem shell_send (node : Node) (slot : Slot) (bytes : Bytes) :
    (node.send slot bytes).1.shell = node.shell := by
  unfold send
  split
  · rfl
  · split
    · rfl
    · split <;> rfl

theorem shell_evict (node : Node) (slot : Slot) : (node.evict slot).1.shell = node.shell := by
  unfold evict
  split <;> rfl

theorem shell_discard (node : Node) (slot : Slot) : (node.discard slot).shell = node.shell := by
  have evicted := shell_evict node slot
  unfold discard
  split
  · rename_i rest result
    rwa [result] at evicted
  · rename_i rest entry result
    rw [result] at evicted
    split <;> exact evicted

theorem shell_identify (node : Node) (around : Surroundings) (slot : Slot) (name : String) :
    (node.identify around slot name).1.shell = node.shell := by
  unfold identify
  split
  · rfl
  · split
    · exact shell_evict node slot
    · split
      · rfl
      · rename_i holder _
        split
        · dsimp only
          split <;> exact shell_discard node holder
        · exact shell_discard node slot

theorem shell_answerHello (node : Node) (slot : Slot) (spoke : Bool) :
    (node.answerHello slot spoke).shell = node.shell := by
  unfold answerHello
  split
  · rfl
  · exact shell_send _ _ _

theorem shell_requestPeering (node : Node) (around : Surroundings) (peer : Option String)
    (address : SocketAddress) (now moment : Nat) :
    (node.requestPeering around peer address now moment).1.shell = node.shell := by
  unfold requestPeering
  split <;> rfl

theorem shell_dropPeer (node : Node) (peer : String) :
    (node.dropPeer peer).1.shell = node.shell := by
  unfold dropPeer
  split <;> rfl

/-! ## Without it -/

theorem frame_send (node : Node) (slot : Slot) (bytes : Bytes) :
    (node.send slot bytes).1.frame = node.frame :=
  congrArg Prod.fst (shell_send node slot bytes)

theorem frame_startHandshake (node : Node) (slot : Slot) :
    (node.startHandshake slot).frame = node.frame := by
  unfold startHandshake
  split
  · rfl
  · exact frame_send _ _ _

theorem frame_connected (node : Node) (arrived : Arrived) (moment : Nat) :
    (node.connected arrived moment).1.frame = node.frame := by
  refine connected_induction (motive := fun later => later.frame = node.frame) ?_ rfl ?_
  · unfold turnAway
    cases arrived.direction <;> rfl
  · intro later slot same
    rw [frame_startHandshake, same]

theorem frame_received (node : Node) (around : Surroundings) (slot : Slot) (bytes : Bytes)
    (moment : Nat) : (node.received around slot bytes moment).frame = node.frame := by
  refine received_induction (motive := fun later => later.frame = node.frame) rfl ?_ ?_
  · intro name initiated _
    exact congrArg Prod.fst (shell_identify (node.listened slot bytes moment) around slot name)
  · intro identified initiated same
    exact (congrArg Prod.fst (shell_answerHello identified slot initiated)).trans same

theorem frame_linkEnded (node : Node) (slot : Slot) :
    (node.linkEnded slot).frame = node.frame := by
  simp only [linkEnded, reportClosed]
  split
  · rfl
  · split <;> rfl

/-! ## Links -/

/-- Closing a list of connections keeps what closing each of them keeps. -/
theorem closeAll_induction {motive : Node → Prop}
    (kept : ∀ node slot, motive node → motive (node.closeHandle slot)) {node : Node}
    (start : motive node) (entries : List Connection) : motive (node.closeAll entries) := by
  unfold closeAll
  induction entries generalizing node with
  | nil => exact start
  | cons entry rest ih => exact ih (kept node entry.slot start)

theorem slots_updateHandle (node : Node) (slot : Slot) (change : Handle → Handle) :
    (node.updateHandle slot change).links.map (·.slot) = node.links.map (·.slot) := by
  rw [updateHandle, List.map_map]
  refine List.map_congr_left ?_
  intro link _
  simp only [Function.comp_apply]
  split <;> rfl

theorem sockets_updateHandle (node : Node) (slot : Slot) (change : Handle → Handle) :
    (node.updateHandle slot change).links.map (·.socket) = node.links.map (·.socket) := by
  rw [updateHandle, List.map_map]
  refine List.map_congr_left ?_
  intro link _
  simp only [Function.comp_apply]
  split <;> rfl

theorem links_linkEnded (node : Node) (slot : Slot) :
    (node.linkEnded slot).links = node.links.filter fun link => link.slot != slot := by
  have kept : (node.linkEnded slot).links =
      (node.closeHandle slot).links.filter fun link => link.slot != slot := by
    simp only [linkEnded, reportClosed]
    split
    · rfl
    · split <;> rfl
  rw [kept, closeHandle, updateHandle, List.filter_map]
  refine (List.map_congr_left ?_).trans ((List.map_id _).trans ?_)
  · intro link member
    have different := (List.mem_filter.mp member).2
    by_cases same : link.slot = slot
    · simp [same] at different
    · rw [if_neg same]
      rfl
  · congr 1
    funext link
    by_cases same : link.slot = slot <;> simp [same]

theorem registry_linkEnded (node : Node) (slot : Slot) :
    (node.linkEnded slot).table.registry = (node.table.registry.remove slot).1 := by
  simp only [linkEnded, reportClosed]
  split
  · rfl
  · split <;> rfl

theorem hello_linkEnded (node : Node) (slot : Slot) :
    (node.linkEnded slot).hello = node.hello.map fun hello => hello.forget slot := by
  simp only [linkEnded, reportClosed]
  split
  · rfl
  · split <;> rfl

/-! ## The signal to exit -/

theorem fireExit_cases (node : Node) : node.fireExit.1 = node ∨ node.fireExit.1 = node.hearExit := by
  unfold fireExit
  split
  · exact .inr rfl
  · exact .inl rfl

theorem interrupt_cases (node : Node) : node.interrupt = node ∨ node.interrupt = node.hearExit := by
  unfold interrupt
  split
  · exact .inl rfl
  · exact .inr rfl

end PeerMesh.Node
