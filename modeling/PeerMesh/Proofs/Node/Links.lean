import PeerMesh.Proofs.Node.Frame
import PeerMesh.Proofs.Node.Slots

/-!
# What becomes of links

A link comes with a new connection, under its slot, and goes when its task ends. In between its
handle may be closed, and never opens again. So what is open under a slot that was given out before
was open before.
-/

set_option autoImplicit false

namespace PeerMesh

namespace Handle

theorem isOpen_send (handle : Handle) (bytes : Bytes) :
    (handle.send bytes).1.isOpen = handle.isOpen := by
  unfold send
  split
  · rfl
  · split <;> rfl

theorem isOpen_receive (handle : Handle) : handle.receive.1.isOpen = handle.isOpen := by
  unfold receive
  split <;> rfl

end Handle

namespace Node

/-! ## Fewer links, and fewer of them open -/

/-- Links are gone or closed, and there are no others. -/
structure Wanes (earlier later : List Link) : Prop where
  slots : (later.map (·.slot)).Sublist (earlier.map (·.slot))
  opened : ∀ link ∈ later, link.handle.isOpen = true →
    ∃ old ∈ earlier, old.slot = link.slot ∧ old.handle.isOpen = true

theorem Wanes.refl (links : List Link) : Wanes links links where
  slots := List.Sublist.refl _
  opened := fun link member isOpen => ⟨link, member, rfl, isOpen⟩

theorem Wanes.trans {first second third : List Link} (earlier : Wanes first second)
    (later : Wanes second third) : Wanes first third where
  slots := later.slots.trans earlier.slots
  opened := by
    intro link member isOpen
    obtain ⟨old, oldMember, sameSlot, oldOpen⟩ := later.opened link member isOpen
    obtain ⟨oldest, oldestMember, slot, oldestOpen⟩ := earlier.opened old oldMember oldOpen
    exact ⟨oldest, oldestMember, slot.trans sameSlot, oldestOpen⟩

theorem wanes_filter (links : List Link) (keeps : Link → Bool) :
    Wanes links (links.filter keeps) where
  slots := List.filter_sublist.map _
  opened := fun link member isOpen => ⟨link, (List.mem_filter.mp member).1, rfl, isOpen⟩

variable {node : Node}

theorem wanes_updateHandle (node : Node) (slot : Slot) {change : Handle → Handle}
    (closes : ∀ handle, (change handle).isOpen = true → handle.isOpen = true) :
    Wanes node.links (node.updateHandle slot change).links where
  slots := by
    rw [slots_updateHandle]
  opened := by
    intro link member isOpen
    obtain ⟨old, oldMember, rfl⟩ := List.mem_map.mp member
    refine ⟨old, oldMember, ?_, ?_⟩
    · split <;> rfl
    · split at isOpen
      · exact closes _ isOpen
      · exact isOpen

theorem wanes_closeHandle (node : Node) (slot : Slot) :
    Wanes node.links (node.closeHandle slot).links :=
  wanes_updateHandle node slot fun _ isOpen => absurd isOpen Bool.false_ne_true

theorem wanes_send (node : Node) (slot : Slot) (bytes : Bytes) :
    Wanes node.links (node.send slot bytes).1.links := by
  unfold send
  split
  · exact Wanes.refl _
  · split
    · exact Wanes.refl _
    · split
      · refine wanes_updateHandle node slot ?_
        intro handle isOpen
        rwa [Handle.isOpen_send] at isOpen
      · exact Wanes.refl _

theorem wanes_startHandshake (node : Node) (slot : Slot) :
    Wanes node.links (node.startHandshake slot).links := by
  unfold startHandshake
  split
  · exact Wanes.refl _
  · rename_i hello _
    exact wanes_send ({ node with hello := some (hello.initiate slot) } : Node) slot _

theorem wanes_evict (node : Node) (slot : Slot) :
    Wanes node.links (node.evict slot).1.links := by
  unfold evict
  split
  · exact Wanes.refl _
  · exact wanes_closeHandle (node.withRegistry _) slot

theorem wanes_discard (node : Node) (slot : Slot) :
    Wanes node.links (node.discard slot).links := by
  have evicted := wanes_evict node slot
  unfold discard
  split
  · rename_i rest result
    rwa [result] at evicted
  · rename_i rest entry result
    rw [result] at evicted
    split <;> exact evicted

theorem wanes_identify (node : Node) (around : Surroundings) (slot : Slot) (name : String) :
    Wanes node.links (node.identify around slot name).1.links := by
  unfold identify
  split
  · exact Wanes.refl _
  · split
    · exact wanes_evict node slot
    · split
      · exact Wanes.refl _
      · rename_i holder _
        split
        · dsimp only
          split <;> exact wanes_discard node holder
        · exact wanes_discard node slot

theorem wanes_answerHello (node : Node) (slot : Slot) (spoke : Bool) :
    Wanes node.links (node.answerHello slot spoke).links := by
  unfold answerHello
  split
  · exact Wanes.refl _
  · exact wanes_send node slot _

theorem wanes_received (node : Node) (around : Surroundings) (slot : Slot) (bytes : Bytes)
    (moment : Nat) : Wanes node.links (node.received around slot bytes moment).links := by
  refine received_induction (motive := fun later => Wanes node.links later.links) (Wanes.refl _) ?_ ?_
  · intro name initiated _
    exact wanes_identify (node.listened slot bytes moment) around slot name
  · intro identified initiated fewer
    exact fewer.trans (wanes_answerHello identified slot initiated)

theorem wanes_linkEnded (node : Node) (slot : Slot) :
    Wanes node.links (node.linkEnded slot).links := by
  rw [links_linkEnded]
  exact wanes_filter node.links _

theorem wanes_dropPeer (node : Node) (peer : String) :
    Wanes node.links (node.dropPeer peer).1.links := by
  unfold dropPeer
  split
  · exact Wanes.refl _
  · exact wanes_closeHandle (node.withRegistry _) _

theorem wanes_closeAll (node : Node) (entries : List Connection) :
    Wanes node.links (node.closeAll entries).links := by
  refine closeAll_induction (motive := fun other => Wanes node.links other.links) ?_
    (Wanes.refl node.links) entries
  intro other slot fewer
  exact fewer.trans (wanes_closeHandle other slot)

theorem links_disposeHook (node : Node) : node.disposeHook.links = node.links := by
  unfold disposeHook
  split <;> rfl

theorem wanes_finishTeardown (node : Node) : Wanes node.links node.finishTeardown.links := by
  change Wanes node.links node.emptyTable.disposeHook.links
  rw [links_disposeHook]
  exact wanes_closeAll { node with table := ⟨node.table.registry.drain.1, .empty, true⟩ } _

/-! ## Acts -/

/-- The link of a connection that is registered next. -/
def nextLink (node : Node) (socket : Endpoint) : Link :=
  ⟨node.nextSlot, .fresh, socket⟩

theorem links_connected (node : Node) (arrived : Arrived) (moment : Nat) :
    Wanes node.links (node.connected arrived moment).1.links ∨
      Wanes (node.links ++ [node.nextLink arrived.socket])
          (node.connected arrived moment).1.links ∧
        (node.connected arrived moment).1.table.registry.lastSlot =
          node.table.registry.lastSlot + 1 := by
  cases closed : node.table.closed with
  | true =>
      left
      rw [connected_of_closed closed, turnAway]
      cases arrived.direction <;> exact Wanes.refl _
  | false =>
      right
      constructor
      · rw [connected_of_open closed]
        split
        · exact wanes_startHandshake (node.admitted arrived moment) _
        · exact Wanes.refl _
      · exact congrArg (·.registry.lastSlot) (ledger_connected_of_open closed arrived moment)

namespace Situation

/-- What an act makes of the links: fewer of those there were, and perhaps one more. -/
theorem links_step (before : Situation) (act : Act) :
    Wanes before.node.links (before.step act).node.links ∨
      ∃ socket, Wanes (before.node.links ++ [before.node.nextLink socket])
          (before.step act).node.links ∧
        (before.step act).node.table.registry.lastSlot =
          before.node.table.registry.lastSlot + 1 := by
  cases act with
  | accepts remote socket moment =>
      exact (links_connected before.node _ moment).imp_right fun more => ⟨socket, more⟩
  | dialConnects number socket moment =>
      simp only [step]
      split
      · exact .inl (Wanes.refl _)
      · exact (links_connected (before.node.withoutDial number) _ moment).imp_right fun more =>
          ⟨socket, more⟩
  | requests around peer address now moment =>
      left
      simp only [step, requestPeering]
      split <;> exact Wanes.refl _
  | dialFails number =>
      left
      simp only [step]
      split <;> exact Wanes.refl _
  | identifies around slot name => exact .inl (wanes_identify before.node around slot name)
  | receives around slot bytes moment =>
      left
      simp only [step]
      split
      · exact wanes_received before.node around slot bytes moment
      · exact Wanes.refl _
  | sends slot bytes => exact .inl (wanes_send before.node slot bytes)
  | writes slot =>
      left
      refine wanes_updateHandle before.node slot ?_
      intro handle isOpen
      rwa [Handle.isOpen_receive] at isOpen
  | closesHandle slot => exact .inl (wanes_closeHandle before.node slot)
  | linkEnds slot =>
      left
      simp only [step]
      split
      · exact wanes_linkEnded before.node slot
      · exact Wanes.refl _
  | drops peer => exact .inl (wanes_dropPeer before.node peer)
  | finishesTeardown =>
      left
      simp only [step]
      split
      · exact wanes_finishTeardown before.node
      · exact Wanes.refl _
  | firesExit =>
      left
      simp only [step, hearExit]
      split
      · split <;> exact Wanes.refl _
      · exact Wanes.refl _
  | asksClose | grantsPermit | storesHook | changesListener | drawsElsewhere =>
      exact .inl (Wanes.refl _)

end Situation

/-- No two links have one slot, and their slots have been given out. -/
structure Threaded (node : Node) : Prop where
  distinct : (node.links.map (·.slot)).Nodup
  issued : ∀ link ∈ node.links, link.slot.number ≤ node.table.registry.lastSlot

theorem link?_of_mem {node : Node} (distinct : (node.links.map (·.slot)).Nodup) {link : Link}
    (member : link ∈ node.links) : node.link? link.slot = some link := by
  have present : (node.link? link.slot).isSome = true :=
    List.find?_isSome.mpr ⟨link, member, by simp⟩
  obtain ⟨found, search⟩ := Option.isSome_iff_exists.mp present
  have foundMember : found ∈ node.links := List.mem_of_find?_eq_some search
  have same : found.slot = link.slot := by simpa using List.find?_some search
  rw [search, List.inj_on_of_nodup_map distinct foundMember member same]

theorem Threaded.slot_issued (threaded : node.Threaded) {slot : Slot}
    (pumped : slot ∈ node.links.map (·.slot)) : slot.number ≤ node.table.registry.lastSlot := by
  obtain ⟨link, member, rfl⟩ := List.mem_map.mp pumped
  exact threaded.issued link member

theorem Threaded.of_slots {slots : List Slot} (distinct : slots.Nodup) {lastSlot : Nat}
    (issued : ∀ slot ∈ slots, slot.number ≤ lastSlot)
    (fewer : (node.links.map (·.slot)).Sublist slots)
    (later : lastSlot ≤ node.table.registry.lastSlot) : node.Threaded where
  distinct := distinct.sublist fewer
  issued := by
    intro link member
    have slot := fewer.subset (List.mem_map_of_mem member)
    exact Nat.le_trans (issued _ slot) later

theorem Threaded.step {before : Situation} (threaded : before.node.Threaded)
    (sound : before.node.ledger.Sound) (act : Act) : (before.step act).node.Threaded := by
  rcases before.links_step act with fewer | ⟨socket, more, last⟩
  · exact Threaded.of_slots threaded.distinct (fun _ => threaded.slot_issued) fewer.slots
      (Situation.lastSlot_le_step sound act)
  · have slots := more.slots
    rw [List.map_append] at slots
    refine Threaded.of_slots ?_ ?_ slots (Nat.le_of_eq last.symm)
    · refine List.nodup_append.mpr ⟨threaded.distinct, by simp, ?_⟩
      intro slot old fresh added same
      have bound := threaded.slot_issued old
      rw [same, List.mem_singleton.mp added] at bound
      exact Nat.not_succ_le_self _ bound
    · intro slot member
      rcases List.mem_append.mp member with old | fresh
      · exact Nat.le_succ_of_le (threaded.slot_issued old)
      · rw [List.mem_singleton.mp fresh]
        exact Nat.le_refl _

theorem threaded_run {start : Situation} (initial : start.Initial) (acts : List Act) :
    (start.run acts).node.Threaded := by
  apply run_induction_of_sound (·.node.Threaded) initial
  · obtain ⟨profile, request, moment, fresh⟩ := initial
    rw [fresh]
    constructor
    · exact List.nodup_nil
    · rintro link ⟨⟩
  · intro before act sound threaded
    exact threaded.step sound act

theorem Threaded.isOpen_iff (threaded : node.Threaded) {slot : Slot} :
    node.isOpen slot = true ↔
      ∃ link ∈ node.links, link.slot = slot ∧ link.handle.isOpen = true := by
  unfold isOpen link?
  constructor
  · intro isOpen
    cases search : node.links.find? fun link => link.slot == slot with
    | none =>
        rw [search] at isOpen
        cases isOpen
    | some link =>
        rw [search] at isOpen
        have same : link.slot = slot := by simpa using List.find?_some search
        exact ⟨link, List.mem_of_find?_eq_some search, same, isOpen⟩
  · rintro ⟨link, member, rfl, handle⟩
    have present : (node.links.find? fun other => other.slot == link.slot).isSome = true :=
      List.find?_isSome.mpr ⟨link, member, by simp⟩
    obtain ⟨found, search⟩ := Option.isSome_iff_exists.mp present
    have same : found = link := by
      refine List.inj_on_of_nodup_map threaded.distinct (List.mem_of_find?_eq_some search) member ?_
      simpa using List.find?_some search
    rw [search, same]
    exact handle

/-- What an act leaves open under a slot that was given out before it was open before. -/
theorem isOpen_of_step {before : Situation} (threaded : before.node.Threaded)
    (sound : before.node.ledger.Sound) {act : Act} {slot : Slot}
    (issued : slot.number ≤ before.node.table.registry.lastSlot)
    (isOpen : (before.step act).node.isOpen slot = true) : before.node.isOpen slot = true := by
  obtain ⟨link, member, rfl, handle⟩ := (threaded.step sound act).isOpen_iff.mp isOpen
  refine threaded.isOpen_iff.mpr ?_
  rcases before.links_step act with fewer | ⟨socket, more, -⟩
  · exact fewer.opened link member handle
  · obtain ⟨old, oldMember, same, oldOpen⟩ := more.opened link member handle
    rcases List.mem_append.mp oldMember with earlier | fresh
    · exact ⟨old, earlier, same, oldOpen⟩
    · rw [← same, List.mem_singleton.mp fresh] at issued
      exact absurd issued (Nat.not_succ_le_self _)

end Node

end PeerMesh
