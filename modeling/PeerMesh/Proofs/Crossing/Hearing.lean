import PeerMesh.Proofs.Crossing.Lifetimes
import PeerMesh.Proofs.Hello.Line
import PeerMesh.Proofs.Node.Effect

/-!
# What a node hears

A node that exchanges lines with one peer only, and what becomes of an end on which the peer's line
comes in: a front part is kept; the whole line names the end, unless another end has the name. Then
one of the two is closed.
-/

set_option autoImplicit false

namespace PeerMesh.Node

open Crossing (End Standing)

/-- A node all of whose identified connections have the name `peer`. -/
structure Engaged (node : Node) (peer : String) : Prop where
  linked : node.Linked
  sound : node.table.registry.Sound
  admitting : node.table.closed = false
  exchange : ∃ hello, node.hello = some hello
  /-- Nothing has been said or heard on connections that are yet to come. -/
  unheard : ∀ slot : Slot, node.table.registry.lastSlot < slot.number → node.progress slot = .none
  named : ∀ entry ∈ node.table.registry.entries, entry.identified = true ↔ entry.name = peer

variable {node after : Node} {peer : String} {endpoint : Endpoint} {entry : Connection}
  {link : Link} {bytes : Bytes}

theorem Engaged.congr (engaged : node.Engaged peer) (links : after.links = node.links)
    (registry : after.table.registry = node.table.registry)
    (closed : after.table.closed = node.table.closed) (hello : after.hello = node.hello) :
    after.Engaged peer where
  linked := engaged.linked.congr links registry
  sound := by
    rw [registry]
    exact engaged.sound
  admitting := by
    rw [closed]
    exact engaged.admitting
  exchange := by
    rw [hello]
    exact engaged.exchange
  unheard := by
    unfold progress
    rw [registry, hello]
    exact engaged.unheard
  named := by
    rw [registry]
    exact engaged.named

theorem Engaged.touched (engaged : node.Engaged peer) (touched : Slot) (moment : Nat) :
    (node.withRegistry (node.table.registry.touch touched moment)).Engaged peer where
  linked := engaged.linked.touched touched moment
  sound := Registry.sound_touch engaged.sound touched moment
  admitting := engaged.admitting
  exchange := engaged.exchange
  unheard := engaged.unheard
  named := by
    intro other member
    obtain ⟨old, oldMember, same⟩ := Registry.mem_entries_touch member
    rw [same]
    exact engaged.named old oldMember

theorem Engaged.dismissed (engaged : node.Engaged peer)
    (found : node.table.registry.get? entry.slot = some entry) :
    (node.dismissed entry).Engaged peer := by
  have expelled : (node.expelled entry).Engaged peer := {
    linked := engaged.linked.expelled entry
    sound := Registry.sound_without engaged.sound (Registry.mem_of_get? found)
    admitting := engaged.admitting
    exchange := engaged.exchange
    unheard := engaged.unheard
    named := fun other member =>
      engaged.named other (Registry.mem_entries_without.mp member).1 }
  unfold Node.dismissed
  split
  · exact expelled
  · exact expelled.congr rfl rfl rfl rfl

theorem Engaged.withName (engaged : node.Engaged peer)
    (found : node.table.registry.get? entry.slot = some entry)
    (free : ∀ holder, node.table.registry.slotForName? peer = some holder → holder = entry.slot) :
    (node.withName entry peer).Engaged peer where
  linked := engaged.linked.withName entry peer
  sound := Registry.sound_identifiedAs engaged.sound found free
  admitting := engaged.admitting
  exchange := engaged.exchange
  unheard := engaged.unheard
  named := by
    intro other member
    obtain ⟨old, oldMember, rfl⟩ := Registry.mem_entries_identifiedAs.mp member
    split
    · simp
    · exact engaged.named old oldMember

theorem Engaged.answered (engaged : node.Engaged peer) (member : link ∈ node.links)
    (registered : node.table.registry.get? link.slot = some entry) (bytes : Bytes) :
    (node.send link.slot bytes).1.Engaged peer := by
  have linked := engaged.linked.answered member registered bytes
  rw [(engaged.linked.send_of_registered member registered bytes).1] at linked ⊢
  exact ⟨linked, engaged.sound, engaged.admitting, engaged.exchange, engaged.unheard,
    engaged.named⟩

theorem Engaged.withHello (engaged : node.Engaged peer) {hello : Hello}
    (unheard : ∀ slot : Slot, node.table.registry.lastSlot < slot.number →
      hello.progress slot = .none) :
    ({ node with hello := some hello } : Node).Engaged peer where
  linked := engaged.linked.congr rfl rfl
  sound := engaged.sound
  admitting := engaged.admitting
  exchange := ⟨hello, rfl⟩
  unheard := unheard
  named := engaged.named

theorem Engaged.updateHandle (engaged : node.Engaged peer) (slot : Slot) {change : Handle → Handle}
    (closed : ∀ handle, (change handle).closed = handle.closed)
    (queue : ∀ handle, handle.queue.isSome = true → (change handle).queue.isSome = true) :
    (node.updateHandle slot change).Engaged peer :=
  ⟨engaged.linked.updateHandle slot closed queue, engaged.sound, engaged.admitting,
    engaged.exchange, engaged.unheard, engaged.named⟩

theorem Engaged.linkEnded (engaged : node.Engaged peer) (member : link ∈ node.links) :
    (node.linkEnded link.slot).Engaged peer where
  linked := engaged.linked.linkEnded link.slot
  sound := by
    rw [registry_linkEnded]
    exact Registry.sound_remove engaged.sound link.slot
  admitting := by
    simp only [Node.linkEnded, reportClosed]
    split
    · exact engaged.admitting
    · split <;> exact engaged.admitting
  exchange := by
    obtain ⟨hello, exchange⟩ := engaged.exchange
    exact ⟨hello.forget link.slot, by rw [hello_linkEnded, exchange]; rfl⟩
  unheard := by
    intro slot unissued
    rw [registry_linkEnded, Registry.lastSlot_remove] at unissued
    obtain ⟨hello, exchange⟩ := engaged.exchange
    have issued := engaged.linked.issued link member
    have different : slot ≠ link.slot := by
      rintro rfl
      exact Nat.not_lt.mpr issued unissued
    have silent := engaged.unheard slot unissued
    rw [progress, exchange, Option.elim_some] at silent
    rw [progress, hello_linkEnded, exchange, Option.map_some, Option.elim_some,
      Hello.progress_forget _ different, silent]
  named := by
    rw [registry_linkEnded]
    intro other otherMember
    exact engaged.named other (Registry.mem_entries_remove.mp otherMember).1

theorem Engaged.connected (engaged : node.Engaged peer) {arrived : Arrived}
    (unpumped : node.endAt? arrived.socket = none)
    (sides : arrived.direction = .outbound ↔ arrived.socket.side = .caller)
    (strange : arrived.placeholder ≠ peer) (moment : Nat) :
    (node.connected arrived moment).1.Engaged peer := by
  obtain ⟨hello, exchange⟩ := engaged.exchange
  have admitted : (node.admitted arrived moment).Engaged peer := {
    linked := engaged.linked.admitted engaged.sound unpumped sides moment
    sound := Registry.sound_insert engaged.sound _ moment
    admitting := engaged.admitting
    exchange := engaged.exchange
    unheard := fun slot unissued => engaged.unheard slot (Nat.lt_of_succ_lt unissued)
    named := by
      intro other member
      rcases List.mem_append.mp member with old | fresh
      · exact engaged.named other old
      · rw [List.mem_singleton.mp fresh]
        exact ⟨fun identified => absurd identified Bool.false_ne_true,
          fun same => absurd same strange⟩ }
  rw [connected_of_open engaged.admitting]
  split
  · rw [startHandshake_admitted exchange]
    refine (admitted.withHello ?_).answered (mem_links_admitted arrived moment)
      (get?_admitted engaged.sound arrived moment) _
    intro slot unissued
    have silent := engaged.unheard slot (Nat.lt_of_succ_lt unissued)
    have different : slot ≠ node.nextSlot := by
      rintro rfl
      exact Nat.lt_irrefl _ unissued
    rw [progress, exchange, Option.elim_some] at silent
    rw [Hello.progress_initiate, if_neg different, silent]
  · exact admitted

/-- The new end; the node greets on it where its handshake was pending. -/
theorem Engaged.endAt?_connected (engaged : node.Engaged peer) {arrived : Arrived}
    (unpumped : node.endAt? arrived.socket = none)
    (sides : arrived.direction = .outbound ↔ arrived.socket.side = .caller) (moment : Nat) :
    (node.connected arrived moment).1.endAt? = Function.update node.endAt? arrived.socket
      (some ⟨node.nextSlot, .unnamed, ⟨false, node.table.inFlight.hasPending arrived.remote, []⟩,
        if node.table.inFlight.hasPending arrived.remote then Hello.line node.profile.id else []⟩) := by
  obtain ⟨hello, exchange⟩ := engaged.exchange
  have silent := engaged.unheard node.nextSlot (Nat.lt_succ_self _)
  rw [progress, exchange, Option.elim_some] at silent
  funext endpoint
  rw [Function.update_apply]
  exact engaged.linked.endAt?_connected engaged.sound engaged.admitting unpumped sides exchange
    silent moment

/-! ## Bytes -/

/-- The node after it has noted that bytes came in, and what the exchange makes of them. -/
def noting (node : Node) (hello : Hello) (slot : Slot) (bytes : Bytes) (moment : Nat) : Node :=
  { node.withRegistry (node.table.registry.touch slot moment) with
    hello := some (hello.receive slot bytes).1 }

theorem Engaged.noting (engaged : node.Engaged peer) (member : link ∈ node.links) {hello : Hello}
    (exchange : node.hello = some hello) (bytes : Bytes) (moment : Nat) :
    (node.noting hello link.slot bytes moment).Engaged peer := by
  refine (engaged.touched link.slot moment).withHello ?_
  intro slot unissued
  have issued := engaged.linked.issued link member
  have different : slot ≠ link.slot := by
    rintro rfl
    exact Nat.not_lt.mpr issued unissued
  have silent := engaged.unheard slot unissued
  rw [progress, exchange, Option.elim_some] at silent
  rw [Hello.progress_receive_of_ne hello different, silent]

theorem endAt?_noting {hello : Hello} (exchange : node.hello = some hello) {slot : Slot}
    {progress : Hello.Progress} (heard : (hello.receive slot bytes).1.progress slot = progress)
    (moment : Nat) :
    (node.noting hello slot bytes moment).endAt? endpoint = (node.endAt? endpoint).map
      (End.onSlot slot fun view => { view with progress }) := by
  rw [noting, endAt?_withHello, endAt?_touched]
  cases search : node.endAt? endpoint with
  | none => rfl
  | some view =>
      obtain ⟨other, -, -, rfl⟩ := exists_link_of_endAt? search
      simp only [Option.map_some, End.onSlot]
      split
      · rename_i same
        rw [same, heard]
      · rename_i different
        rw [Hello.progress_receive_of_ne hello different]
        simp only [endOf, Node.progress, exchange, Option.elim_some]

/-- A front part of the peer's line is kept. -/
theorem Engaged.received_front (engaged : node.Engaged peer) (sayable : Hello.Sayable peer)
    (member : link ∈ node.links) (unheard : (node.progress link.slot).heard = false)
    (front : (node.progress link.slot).buffer ++ bytes <+: Hello.line peer)
    (proper : (node.progress link.slot).buffer ++ bytes ≠ Hello.line peer)
    (around : Surroundings) (moment : Nat) :
    (node.received around link.slot bytes moment).Engaged peer ∧
      (node.received around link.slot bytes moment).endAt? =
        Function.update node.endAt? link.socket (some
          { node.endOf link with progress :=
              { node.progress link.slot with
                buffer := (node.progress link.slot).buffer ++ bytes } }) := by
  obtain ⟨hello, exchange⟩ := engaged.exchange
  have same : node.progress link.slot = hello.progress link.slot := by
    rw [progress, exchange, Option.elim_some]
  rw [same] at unheard front proper ⊢
  obtain ⟨incomplete, kept⟩ := Hello.receive_of_front sayable unheard front proper
  have result : node.received around link.slot bytes moment =
      node.noting hello link.slot bytes moment := by
    simp only [received, withRegistry, exchange, incomplete]
    rfl
  rw [result]
  exact ⟨engaged.noting member exchange bytes moment, engaged.linked.endAt?_eq_update member
    fun endpoint => endAt?_noting exchange kept moment⟩

/-- The whole line asks for the peer's name. -/
theorem received_of_whole {hello : Hello} (exchange : node.hello = some hello)
    (sayable : Hello.Sayable peer) {slot : Slot}
    (unheard : (hello.progress slot).heard = false)
    (whole : (hello.progress slot).buffer ++ bytes = Hello.line peer)
    (around : Surroundings) (moment : Nat) :
    node.received around slot bytes moment =
      match (node.noting hello slot bytes moment).identify around slot peer with
      | (identified, .ok ()) => identified.answerHello slot (hello.progress slot).initiated
      | (refused, .error _) => refused := by
  obtain ⟨greeted, -⟩ := Hello.receive_of_whole sayable unheard whole
  simp only [received, withRegistry, exchange, greeted]
  rfl

/-! ## Names -/

theorem Engaged.slotForName?_of_named (engaged : node.Engaged peer)
    (named : (node.endOf link).standing = .named) :
    node.table.registry.slotForName? peer = some link.slot := by
  obtain ⟨other, found, identified⟩ := Registry.standing_eq_named_iff.mp named
  have otherMember := Registry.mem_of_get? found
  have resolved := engaged.sound.identifiedFound other otherMember identified
  rwa [(engaged.named other otherMember).mp identified, Registry.slot_of_get? found] at resolved

/-- The link of the connection that has the peer's name. -/
theorem Engaged.exists_link_of_held (engaged : node.Engaged peer) {holder : Connection}
    (found : node.table.registry.get? holder.slot = some holder)
    (held : node.table.registry.slotForName? peer = some holder.slot) :
    ∃ other ∈ node.links, other.slot = holder.slot ∧ (node.endOf other).standing = .named := by
  have named := Registry.name_of_slotForName? engaged.sound found held
  have member := Registry.mem_of_get? found
  obtain ⟨other, otherMember, slot⟩ := engaged.linked.pumped holder member
  refine ⟨other, otherMember, slot, ?_⟩
  refine Registry.standing_eq_named_iff.mpr ⟨holder, ?_, (engaged.named holder member).mpr named⟩
  rw [slot, found]

theorem direction_eq_preferred_iff (node : Node) (peer : String) {direction : Direction}
    {side : Side} (sides : direction = .outbound ↔ side = .caller) :
    direction = node.preferredDirection peer ↔ (side = .caller ↔ node.profile.id < peer) := by
  rw [← sides, preferredDirection]
  split
  · rename_i smaller
    simp only [smaller, iff_true]
  · rename_i larger
    simp only [larger, iff_false]
    cases direction <;> simp

theorem direction_eq_iff {left right : Direction} {leftSide rightSide : Side}
    (leftSides : left = .outbound ↔ leftSide = .caller)
    (rightSides : right = .outbound ↔ rightSide = .caller) :
    left = right ↔ leftSide = rightSide := by
  cases left <;> cases right <;> cases leftSide <;> cases rightSide <;> simp_all

/-- What becomes of the ends of a node when the one that `link` pumps gets the name of the peer, and
is `view` afterwards. -/
inductive Winning (node : Node) (link : Link) (peer : String) (view : End) :
    (Endpoint → Option End) → Prop
  /-- No other end has the name. -/
  | free (unheld : ∀ other ∈ node.links, (node.endOf other).standing ≠ .named) :
      Winning node link peer view (Function.update node.endAt? link.socket (some view))
  /-- The end takes the name from another. -/
  | taken (holder : Link) (holderMember : holder ∈ node.links)
      (named : (node.endOf holder).standing = .named)
      (opposite : holder.socket.side ≠ link.socket.side)
      (preferred : link.socket.side = .caller ↔ node.profile.id < peer) :
      Winning node link peer view
        (Function.update (Function.update node.endAt? holder.socket
          (some ((node.endOf holder).stood .gone))) link.socket (some view))

/-- Another end has the name of the peer, and keeps it from the one that `link` pumps. -/
def Outranked (node : Node) (link : Link) (peer : String) : Prop :=
  ∃ holder ∈ node.links, (node.endOf holder).standing = .named ∧
    (holder.socket.side ≠ link.socket.side →
      ¬ (link.socket.side = .caller ↔ node.profile.id < peer))

/-- A link stays where connections are removed and closed. -/
theorem mem_links_dismissed {holder : Connection} (member : link ∈ node.links)
    (different : holder.slot ≠ link.slot) : link ∈ (node.dismissed holder).links := by
  have expelled : link ∈ (node.expelled holder).links :=
    List.mem_map.mpr ⟨link, member, if_neg different.symm⟩
  unfold dismissed
  split <;> exact expelled

theorem profile_dismissed (node : Node) (entry : Connection) :
    (node.dismissed entry).profile = node.profile := by
  unfold dismissed
  split <;> rfl

theorem endOf_dismissed {holder : Connection} (different : holder.slot ≠ link.slot) :
    (node.dismissed holder).endOf link = node.endOf link := by
  have standing : (node.dismissed holder).table.registry.standing link.slot =
      node.table.registry.standing link.slot := by
    rw [registry_dismissed, Registry.standing_without, if_neg different.symm]
  have progress : (node.dismissed holder).progress link.slot = node.progress link.slot := by
    unfold dismissed
    split <;> rfl
  simp only [endOf, standing, progress]

theorem Linked.endAt?_eq_update_dismissed (linked : node.Linked) (member : link ∈ node.links)
    (slot : entry.slot = link.slot) :
    (node.dismissed entry).endAt? =
      Function.update node.endAt? link.socket (some ((node.endOf link).stood .gone)) := by
  have closing : ∀ endpoint, (node.dismissed entry).endAt? endpoint =
      (node.endAt? endpoint).map (End.onSlot link.slot fun view => view.stood .gone) := by
    rw [← slot]
    exact fun _ => endAt?_dismissed
  rw [linked.endAt?_eq_update member closing]

theorem Linked.endAt?_eq_update_withName (linked : node.Linked) (member : link ∈ node.links)
    (slot : entry.slot = link.slot) (found : node.table.registry.get? entry.slot = some entry)
    (name : String) :
    (node.withName entry name).endAt? =
      Function.update node.endAt? link.socket (some ((node.endOf link).stood .named)) := by
  have naming : ∀ endpoint, (node.withName entry name).endAt? endpoint =
      (node.endAt? endpoint).map (End.onSlot link.slot fun view => view.stood .named) := by
    rw [← slot]
    exact fun _ => endAt?_withName found name
  rw [linked.endAt?_eq_update member naming]

/-- No end has the name that no connection has, but the one that asks for it. -/
theorem Engaged.unheld_of_free (engaged : node.Engaged peer) (member : link ∈ node.links)
    (unnamed : (node.endOf link).standing = .unnamed)
    (free : ∀ holder, node.table.registry.slotForName? peer = some holder → holder = link.slot) :
    ∀ other ∈ node.links, (node.endOf other).standing ≠ .named := by
  intro other otherMember named
  have same := free other.slot (engaged.slotForName?_of_named named)
  rw [engaged.linked.eq_of_slot_eq otherMember member same, unnamed] at named
  cases named

/-- Which of two connections is kept is told by the sides of their ends. -/
theorem Linked.sides_of_entries (linked : node.Linked) {other : Link} {holder : Connection}
    (member : link ∈ node.links) (slot : entry.slot = link.slot)
    (found : node.table.registry.get? entry.slot = some entry) (otherMember : other ∈ node.links)
    (otherSlot : other.slot = holder.slot)
    (holderFound : node.table.registry.get? holder.slot = some holder) (peer : String) :
    (holder.direction = entry.direction ↔ other.socket.side = link.socket.side) ∧
      (entry.direction = node.preferredDirection peer ↔
        (link.socket.side = .caller ↔ node.profile.id < peer)) := by
  have own := linked.side link member entry (slot ▸ found)
  have others := linked.side other otherMember holder (otherSlot ▸ holderFound)
  exact ⟨direction_eq_iff others own, direction_eq_preferred_iff node peer own⟩

/-- The connection that has the name is closed, and the other gets it. -/
theorem Engaged.displaced (engaged : node.Engaged peer) (member : link ∈ node.links)
    (slot : entry.slot = link.slot) (found : node.table.registry.get? entry.slot = some entry)
    {holder : Connection} (holderFound : node.table.registry.get? holder.slot = some holder)
    (held : node.table.registry.slotForName? peer = some holder.slot)
    (different : holder.slot ≠ link.slot) {other : Link} (otherMember : other ∈ node.links)
    (otherSlot : other.slot = holder.slot) :
    ((node.dismissed holder).withName entry peer).Engaged peer ∧
      link ∈ (node.dismissed holder).links ∧
      ((node.dismissed holder).withName entry peer).endAt? =
        Function.update (Function.update node.endAt? other.socket
          (some ((node.endOf other).stood .gone))) link.socket
            (some ((node.endOf link).stood .named)) := by
  have dismissed := engaged.dismissed holderFound
  have stillMember := mem_links_dismissed member different
  have stillFound : (node.dismissed holder).table.registry.get? entry.slot = some entry := by
    rw [registry_dismissed, Registry.get?_without, if_neg (slot ▸ different.symm), found]
  refine ⟨dismissed.withName stillFound ?_, stillMember, ?_⟩
  · intro third heldNow
    rw [registry_dismissed, slotForName?_without_holder engaged.sound holderFound held] at heldNow
    cases heldNow
  · rw [dismissed.linked.endAt?_eq_update_withName stillMember slot stillFound,
      engaged.linked.endAt?_eq_update_dismissed otherMember otherSlot.symm, endOf_dismissed different]

theorem Engaged.identify_cases (engaged : node.Engaged peer) (member : link ∈ node.links)
    (unnamed : (node.endOf link).standing = .unnamed) {around : Surroundings}
    (welcome : nameRefusal? around peer = none) :
    (∃ named, node.identify around link.slot peer = (named, .ok ()) ∧ named.Engaged peer ∧
      node.Winning link peer ((node.endOf link).stood .named) named.endAt? ∧
      link ∈ named.links ∧ named.profile = node.profile) ∨
    ∃ refused error, node.identify around link.slot peer = (refused, .error error) ∧
      refused.Engaged peer ∧ node.Outranked link peer ∧
      refused.endAt? =
        Function.update node.endAt? link.socket (some ((node.endOf link).stood .gone)) := by
  obtain ⟨own, ownFound, unidentified⟩ := Registry.standing_eq_unnamed_iff.mp unnamed
  have outcome := identify_spec engaged.sound around link.slot peer
  generalize node.identify around link.slot peer = result at outcome ⊢
  cases outcome with
  | unknown absent =>
      rw [ownFound] at absent
      cases absent
  | refused entry reason found refusal =>
      rw [welcome] at refusal
      cases refusal
  | free entry found accepted free =>
      have slot := Registry.slot_of_get? found
      have unheld := engaged.unheld_of_free member unnamed free
      rw [← slot] at found free
      refine .inl ⟨_, rfl, engaged.withName found free, ?_, member, rfl⟩
      rw [engaged.linked.endAt?_eq_update_withName member slot found]
      exact .free unheld
  | taken entry holder found accepted holderFound held different opposite preferred =>
      have slot := Registry.slot_of_get? found
      rw [← slot] at found
      obtain ⟨other, otherMember, otherSlot, named⟩ :=
        engaged.exists_link_of_held holderFound held
      obtain ⟨displaced, stillMember, ends⟩ :=
        engaged.displaced member slot found holderFound held different otherMember otherSlot
      refine .inl ⟨_, rfl, displaced, ?_, stillMember, profile_dismissed node holder⟩
      obtain ⟨sameSide, rank⟩ :=
        engaged.linked.sides_of_entries member slot found otherMember otherSlot holderFound peer
      rw [ends]
      exact .taken other otherMember named (fun same => opposite (sameSide.mpr same))
        (rank.mp preferred)
  | lost entry holder found accepted holderFound held different outranked =>
      have slot := Registry.slot_of_get? found
      rw [← slot] at found
      obtain ⟨other, otherMember, otherSlot, named⟩ :=
        engaged.exists_link_of_held holderFound held
      obtain ⟨sameSide, rank⟩ :=
        engaged.linked.sides_of_entries member slot found otherMember otherSlot holderFound peer
      refine .inr ⟨_, _, rfl, engaged.dismissed found, ⟨other, otherMember, named, ?_⟩,
        engaged.linked.endAt?_eq_update_dismissed member slot⟩
      intro opposite preferred
      exact outranked (fun same => opposite (sameSide.mp same)) (rank.mpr preferred)

/-! ## The whole line -/

namespace Winning

variable {view : End} {ends : Endpoint → Option End}

theorem view_eq (winning : node.Winning link peer view ends) : ends link.socket = some view := by
  cases winning <;> exact Function.update_self _ _ _

/-- The end may change once more. -/
theorem update (winning : node.Winning link peer view ends) (later : End) :
    node.Winning link peer later (Function.update ends link.socket (some later)) := by
  cases winning with
  | free unheld =>
      rw [Function.update_idem]
      exact .free unheld
  | taken holder holderMember named opposite preferred =>
      rw [Function.update_idem]
      exact .taken holder holderMember named opposite preferred

/-- Before the name the end that gets it may have changed, and no other. -/
theorem of_update (winning : after.Winning link peer view ends) (links : after.links = node.links)
    (profile : after.profile = node.profile) {between : End}
    (changed : after.endAt? = Function.update node.endAt? link.socket (some between))
    (standing : ∀ other ∈ node.links, (after.endOf other).standing = (node.endOf other).standing)
    (others : ∀ other ∈ node.links, other.socket ≠ link.socket →
      after.endOf other = node.endOf other) : node.Winning link peer view ends := by
  cases winning with
  | free unheld =>
      rw [changed, Function.update_idem]
      refine .free ?_
      intro other member
      rw [← standing other member]
      exact unheld other (links ▸ member)
  | taken holder holderMember named opposite preferred =>
      rw [links] at holderMember
      have apart : holder.socket ≠ link.socket := fun same => opposite (congrArg Endpoint.side same)
      rw [changed, Function.update_comm apart, Function.update_idem, Function.update_comm apart.symm,
        others holder holderMember apart]
      rw [standing holder holderMember] at named
      rw [profile] at preferred
      exact .taken holder holderMember named opposite preferred

end Winning

/-- The end after its node has named it, and answered. -/
def welcomed (view : End) (answer : Bytes) : End :=
  ⟨view.slot, .named, ⟨true, false, []⟩, view.queued ++ answer⟩

/-- The end after its node has heard the whole line and closed it. -/
def turnedAway (view : End) : End :=
  ⟨view.slot, .gone, ⟨true, false, []⟩, view.queued⟩

/-- What a node answers to a greeting: nothing if it has spoken first. -/
def answer (node : Node) (slot : Slot) : Bytes :=
  if (node.progress slot).initiated then [] else Hello.line node.profile.id

theorem Engaged.answerHello (engaged : after.Engaged peer) (member : link ∈ after.links)
    {view : End} {ends : Endpoint → Option End} (winning : node.Winning link peer view ends)
    (changed : after.endAt? = ends) (named : view.standing = .named) (initiated : Bool) :
    (after.answerHello link.slot initiated).Engaged peer ∧
      node.Winning link peer
        { view with queued :=
            view.queued ++ if initiated then [] else Hello.line after.profile.id }
        (after.answerHello link.slot initiated).endAt? := by
  subst changed
  cases initiated with
  | true =>
      simp only [Node.answerHello, if_true, List.append_nil]
      exact ⟨engaged, winning⟩
  | false =>
      have views : after.endOf link = view := by
        have found := winning.view_eq
        rw [engaged.linked.endAt?_of_mem member] at found
        exact Option.some.inj found
      have standing : (after.endOf link).standing = .named := by rw [views, named]
      obtain ⟨entry, registered, -⟩ := Registry.standing_eq_named_iff.mp standing
      simp only [Node.answerHello, Bool.false_eq_true, if_false]
      rw [engaged.linked.endAt?_eq_update member
        fun _ => engaged.linked.endAt?_answered member registered _, views]
      exact ⟨engaged.answered member registered _, winning.update _⟩

/-- The whole line names the end that it comes in on, or has it closed. -/
theorem Engaged.received_whole (engaged : node.Engaged peer) (sayable : Hello.Sayable peer)
    (member : link ∈ node.links) (unnamed : (node.endOf link).standing = .unnamed)
    (unheard : (node.progress link.slot).heard = false)
    (whole : (node.progress link.slot).buffer ++ bytes = Hello.line peer) {around : Surroundings}
    (welcome : nameRefusal? around peer = none) (moment : Nat) :
    (node.received around link.slot bytes moment).Engaged peer ∧
      (node.Winning link peer (welcomed (node.endOf link) (node.answer link.slot))
          (node.received around link.slot bytes moment).endAt? ∨
        node.Outranked link peer ∧ (node.received around link.slot bytes moment).endAt? =
          Function.update node.endAt? link.socket (some (turnedAway (node.endOf link)))) := by
  obtain ⟨hello, exchange⟩ := engaged.exchange
  have same : node.progress link.slot = hello.progress link.slot := by
    rw [progress, exchange, Option.elim_some]
  have answering : node.answer link.slot =
      if (hello.progress link.slot).initiated then [] else Hello.line node.profile.id := by
    rw [answer, same]
  rw [same] at unheard whole
  obtain ⟨-, settled⟩ := Hello.receive_of_whole sayable unheard whole
  have noted := engaged.noting member exchange bytes moment
  have noting := engaged.linked.endAt?_eq_update member
    fun _ => endAt?_noting exchange settled moment
  rw [received_of_whole exchange sayable unheard whole, answering]
  -- Noting the bytes changes nothing but how far the exchange on this end has come.
  have standing : ∀ other ∈ node.links,
      ((node.noting hello link.slot bytes moment).endOf other).standing =
        (node.endOf other).standing := fun other _ => Registry.standing_touch _ _ _ _
  have others : ∀ other ∈ node.links, other.socket ≠ link.socket →
      (node.noting hello link.slot bytes moment).endOf other = node.endOf other := by
    intro other otherMember apart
    have after := noted.linked.endAt?_of_mem otherMember
    rw [noting, Function.update_of_ne apart, engaged.linked.endAt?_of_mem otherMember] at after
    exact (Option.some.inj after).symm
  have own : (node.noting hello link.slot bytes moment).endOf link =
      { node.endOf link with progress := ⟨true, false, []⟩ } := by
    have after := noted.linked.endAt?_of_mem member
    rw [noting, Function.update_self] at after
    exact (Option.some.inj after).symm
  have stillUnnamed := (standing link member).trans unnamed
  rcases noted.identify_cases member stillUnnamed welcome with
    ⟨named, identified, namedEngaged, winning, namedMember, profile⟩ |
    ⟨refused, error, identified, refusedEngaged, outranked, changed⟩
  · rw [identified]
    have won : node.Winning link peer _ named.endAt? :=
      winning.of_update rfl rfl noting standing others
    rw [own] at won
    obtain ⟨answered, answeredEnds⟩ := namedEngaged.answerHello namedMember won rfl rfl
      (hello.progress link.slot).initiated
    rw [profile] at answeredEnds
    exact ⟨answered, .inl answeredEnds⟩
  · rw [identified]
    refine ⟨refusedEngaged, .inr ⟨?_, ?_⟩⟩
    · obtain ⟨holder, holderMember, named, keeps⟩ := outranked
      rw [standing holder holderMember] at named
      exact ⟨holder, holderMember, named, keeps⟩
    · change refused.endAt? = _
      rw [changed, noting, Function.update_idem, own]
      rfl

end PeerMesh.Node
