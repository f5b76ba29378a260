import PeerMesh.Proofs.Hello.Retention
import PeerMesh.Proofs.Node.Opening

/-!
# What the hello exchange of a node keeps

What the hello exchange of a node keeps of bytes is about connections that are pumped, whether they
are still registered or not, and it goes when the task of the connection ends. It also keeps on which
connections the node speaks first, from the start of the handshake on. That goes with the task too,
unless the task has ended already: what is noted by a start that comes so late is kept for good.
-/

set_option autoImplicit false

namespace PeerMesh.Node

variable {node later : Node} {slot : Slot} {left : List Slot}

theorem isPumped_iff : node.IsPumped slot ↔ ∃ link ∈ node.links, link.slot = slot := by
  constructor
  · rintro ⟨socket, pump⟩
    obtain ⟨link, member, same⟩ := List.mem_map.mp pump
    exact ⟨link, member, (Prod.mk.inj same).1⟩
  · rintro ⟨link, member, rfl⟩
    exact ⟨link.socket, List.mem_map_of_mem member⟩

/-! ## Acts without the handshake -/

/-- The hello exchange keeps little, of connections that are pumped, and besides only that the node
speaks first on those of `left`. -/
def Confined (node : Node) (left : List Slot) : Prop :=
  ∀ hello, node.hello = some hello →
    hello.Confined node.IsPumped fun slot => node.IsPumped slot ∨ slot ∈ left

theorem Confined.of_same (confined : node.Confined left) (hello : later.hello = node.hello)
    (still : ∀ slot, node.IsPumped slot → later.IsPumped slot) : later.Confined left := by
  intro exchange kept
  rw [hello] at kept
  exact (confined exchange kept).mono still fun slot => Or.imp_left (still slot)

theorem Confined.of_map (confined : node.Confined left) {change : Hello → Hello}
    {leftLater : List Slot} (hello : later.hello = node.hello.map change)
    (preserved : ∀ hello : Hello,
      hello.Confined node.IsPumped (fun slot => node.IsPumped slot ∨ slot ∈ left) →
      (change hello).Confined later.IsPumped fun slot => later.IsPumped slot ∨ slot ∈ leftLater) :
    later.Confined leftLater := by
  intro exchange kept
  rw [hello, Option.map_eq_some_iff] at kept
  obtain ⟨earlier, before, rfl⟩ := kept
  exact preserved earlier (confined earlier before)

theorem isPumped_of_pumps (same : later.pumps = node.pumps) : later.IsPumped = node.IsPumped := by
  funext slot
  rw [IsPumped, same, IsPumped]

theorem Confined.received (confined : node.Confined left) (around : Surroundings)
    (pumped : node.IsPumped slot) (bytes : Bytes) (moment : Nat) :
    (node.received around slot bytes moment).Confined left := by
  refine confined.of_map (hello_received node around slot bytes moment) ?_
  intro hello before
  rw [isPumped_of_pumps (pumps_received node around slot bytes moment)]
  exact before.receive pumped bytes

theorem Confined.linkEnded (confined : node.Confined left) (slot : Slot) :
    (node.linkEnded slot).Confined left := by
  have still : ∀ other, node.IsPumped other ∧ other ≠ slot → (node.linkEnded slot).IsPumped other := by
    rintro other ⟨⟨socket, pump⟩, different⟩
    refine ⟨socket, ?_⟩
    rw [pumps_linkEnded]
    exact List.mem_filter.mpr ⟨pump, bne_iff_ne.mpr different⟩
  refine confined.of_map (hello_linkEnded node slot) ?_
  intro hello before
  refine (before.forget slot).mono still ?_
  rintro other ⟨pumped | among, different⟩
  · exact .inl (still other ⟨pumped, different⟩)
  · exact .inr among

/-- The start of a handshake notes that the node speaks first, whether the connection is pumped or
not. -/
theorem Confined.startHandshake (confined : node.Confined left) {leftLater : List Slot}
    (more : ∀ other ∈ left, other ∈ leftLater) (told : node.IsPumped slot ∨ slot ∈ leftLater) :
    (node.startHandshake slot).Confined leftLater := by
  refine confined.of_map (hello_startHandshake node slot) ?_
  intro hello before
  rw [isPumped_of_pumps (pumps_startHandshake node slot)]
  refine Hello.Confined.initiate ?_ told
  exact before.mono (fun _ => id) fun other => Or.imp_right (more other)

namespace Situation

variable {before : Situation}

theorem hello_enter (situation : Situation) (node : Node) (remote : SocketAddress)
    (direction : Direction) (dialedAs : Option String) (socket : Endpoint) (moment : Nat) :
    (situation.enter node remote direction dialedAs socket moment).1.node.hello = node.hello := by
  cases closed : node.table.closed with
  | true =>
      rw [enter_of_closed situation closed, turnAway]
      cases direction <;> rfl
  | false => rw [enter_of_open situation closed, admitted]

theorem isPumped_enact (pumped : before.node.IsPumped slot) {act : Act}
    (unended : act ≠ .linkEnds slot) : (before.enact act).1.node.IsPumped slot := by
  obtain ⟨socket, pump⟩ := pumped
  refine ⟨socket, ?_⟩
  rw [enact_of_kept pumps_startHandshake]
  exact mem_pumps_step pump unended

/-- An act tells the exchange of bytes on a connection or of its end, or tells it nothing. -/
theorem confined_enact (confined : before.node.Confined left) (act : Act) :
    (before.enact act).1.node.Confined left := by
  have untold : (before.enact act).1.node.hello = before.node.hello →
      (∀ slot, act ≠ .linkEnds slot) → (before.enact act).1.node.Confined left := by
    intro hello unended
    exact confined.of_same hello fun slot pumped => isPumped_enact pumped (unended slot)
  cases act with
  | accepts remote socket moment =>
      refine untold (hello_enter _ _ _ _ _ _ _) ?_
      rintro slot ⟨⟩
  | dialConnects number socket moment =>
      refine untold ?_ ?_
      · simp only [enact]
        cases before.node.dial? number with
        | none => rfl
        | some dial => exact hello_enter _ _ _ _ _ _ _
      · rintro slot ⟨⟩
  | receives around slot bytes moment =>
      simp only [enact, step]
      split
      · rename_i linked
        exact confined.received around (isSome_link?_iff.mp linked) bytes moment
      · exact confined
  | linkEnds slot =>
      simp only [enact, step]
      split
      · exact confined.linkEnded slot
      · exact confined
  | _ =>
      refine untold (hello_step before rfl) ?_
      rintro slot ⟨⟩

end Situation

/-! ## Strides -/

namespace Opening

/-- The connection on which a stride starts the handshake when the task has ended. -/
def late (before : Opening) : Stride → List Slot
  | .acts _ => []
  | .starts slot =>
    if slot ∈ before.owed ∧ (before.situation.node.link? slot).isNone = true then [slot] else []

/-- The task of the connection has ended, and what the exchange keeps of it is kept for good. -/
structure Lasting (opening : Opening) (slot : Slot) : Prop where
  issued : slot.number ≤ opening.situation.node.table.registry.lastSlot
  unlinked : (opening.situation.node.link? slot).isSome = false
  unowed : slot ∉ opening.owed
  spoke : opening.situation.node.hello.isSome = true →
    (opening.situation.node.progress slot).initiated = true

variable {opening : Opening}

theorem isSome_hello_step (opening : Opening) (stride : Stride) :
    (opening.step stride).situation.node.hello.isSome = opening.situation.node.hello.isSome := by
  have kept : ∀ node slot, (startHandshake node slot).hello.isSome = node.hello.isSome := by
    intro node slot
    rw [hello_startHandshake, Option.isSome_map]
  cases stride with
  | acts act =>
      have same : (opening.situation.enact act).1.node.hello.isSome =
          (opening.situation.step act).node.hello.isSome :=
        @Situation.enact_of_kept Bool (·.hello.isSome) kept opening.situation act
      exact same.trans (opening.situation.isSome_hello_step act)
  | starts slot =>
      rw [Opening.step]
      split
      · exact kept _ slot
      · rfl

theorem Lasting.step (lasting : opening.Lasting slot) (sound : opening.Sound) (stride : Stride) :
    (opening.step stride).Lasting slot := by
  have issued := Nat.le_trans lasting.issued (lastSlot_le_step sound stride)
  have undisturbed : ∀ {after : Opening}, opening.step stride = after →
      (slot ∈ after.owed ↔ slot ∈ opening.owed) →
      (after.situation.node.link? slot).isSome = (opening.situation.node.link? slot).isSome →
      after.situation.node.progress slot = opening.situation.node.progress slot →
      after.Lasting slot := by
    rintro after rfl owed linked progress
    refine ⟨issued, linked.trans lasting.unlinked, mt owed.mp lasting.unowed, ?_⟩
    rw [isSome_hello_step, progress]
    exact lasting.spoke
  have pass := pass_step sound stride slot
  generalize result : opening.step stride = after at pass
  cases pass with
  | elsewhere same owed => exact undisturbed result owed same.linked same.progress
  | opened born next =>
      rw [next] at lasting
      exact absurd lasting.issued (Nat.not_succ_le_self _)
  | started owed => exact absurd owed lasting.unowed
  | heard owed linked =>
      rw [lasting.unlinked] at linked
      cases linked
  | sent owed linked progress | wrote owed linked progress =>
      exact undisturbed result owed linked progress
  | ended owed linked =>
      rw [lasting.unlinked] at linked
      cases linked

/-- The start of a handshake that comes too late is noted for good. -/
theorem lasting_of_late (sound : opening.Sound) {stride : Stride}
    (member : slot ∈ opening.late stride) : (opening.step stride).Lasting slot := by
  cases stride with
  | acts => cases member
  | starts started =>
      rw [late] at member
      split at member
      · rename_i comesLate
        obtain rfl := List.mem_singleton.mp member
        obtain ⟨owed, unlinked⟩ := comesLate
        have begun : opening.step (.starts slot) =
            ⟨opening.situation.startOn slot, opening.owed.filter (· != slot)⟩ := by
          rw [Opening.step, if_pos owed]
        have unpumped : (opening.situation.node.link? slot).isSome = false := by
          rwa [← Option.not_isSome, Bool.not_eq_true'] at unlinked
        have pumps := pumps_startHandshake opening.situation.node slot
        refine ⟨Nat.le_trans (sound.issued slot owed) (lastSlot_le_step sound (.starts slot)), ?_, ?_,
          ?_⟩
        · rw [begun]
          exact (isSome_link?_of_pumps pumps slot).trans unpumped
        · rw [begun]
          simp
        · rw [isSome_hello_step, begun]
          intro greets
          change ((opening.situation.node.startHandshake slot).progress slot).initiated = true
          rw [progress_startHandshake, if_pos ⟨rfl, greets⟩]
      · cases member

/-- What is left for good has been noted and stays, and the rest is about connections that are
pumped. -/
structure Retains (opening : Opening) (left : List Slot) : Prop where
  confined : opening.situation.node.Confined left
  lasting : ∀ slot ∈ left, opening.Lasting slot

theorem Retains.step (retains : opening.Retains left) (sound : opening.Sound) (stride : Stride) :
    (opening.step stride).Retains (left ++ opening.late stride) := by
  constructor
  · cases stride with
    | acts act =>
        rw [late, List.append_nil]
        exact Situation.confined_enact retains.confined act
    | starts slot =>
        rw [Opening.step, late]
        by_cases owed : slot ∈ opening.owed
        · rw [if_pos owed]
          refine retains.confined.startHandshake (fun _ => List.mem_append_left _) ?_
          cases linked : (opening.situation.node.link? slot).isSome with
          | true => exact .inl (isSome_link?_iff.mp linked)
          | false =>
              right
              rw [if_pos ⟨owed, by rw [← Option.not_isSome, linked]; rfl⟩]
              exact List.mem_append_right _ List.mem_cons_self
        · rw [if_neg owed, if_neg fun both => owed both.1, List.append_nil]
          exact retains.confined
  · intro slot member
    rcases List.mem_append.mp member with earlier | now
    · exact (retains.lasting slot earlier).step sound stride
    · exact lasting_of_late sound now

theorem retains_run {start : Situation} (initial : start.Initial) (strides : List Stride) :
    ((beginning start).run strides).Retains (gathered late (beginning start) strides) := by
  induction strides using List.reverseRecOn with
  | nil =>
      obtain ⟨profile, request, moment, fresh⟩ := initial
      refine ⟨?_, nofun⟩
      intro hello kept
      simp only [run_nil, beginning, fresh, Mesh.freshNode] at kept
      split at kept <;> cases kept
      exact Hello.confined_initial _ _
  | append_singleton past stride ih =>
      rw [gathered_concat, run_append]
      exact ih.step (sound_run initial past) stride

/-- Whatever comes in on the connections of a node, its hello exchange keeps front parts of lines
within the limit, without a line feed, and none of a line that has been dealt with. Where bytes have
come in on a connection it knows that as long as the task of the connection has not ended, so all the
bytes that it keeps are within the limit for each task. When all tasks have ended, it keeps exactly
those connections on which the handshake was started after the end of the task. -/
theorem hello_stays_bounded {start : Situation} (initial : start.Initial) (strides : List Stride)
    {hello : Hello}
    (exchange : ((beginning start).run strides).situation.node.hello = some hello) :
    let node := ((beginning start).run strides).situation.node
    let left := gathered late (beginning start) strides
    (∀ buffered ∈ hello.buffers, buffered.2.length ≤ Hello.lineLimit ∧
      Hello.lineFeed ∉ buffered.2 ∧ buffered.1 ∉ hello.done) ∧
    (∀ slot, hello.Minds slot → ∃ link ∈ node.links, link.slot = slot) ∧
    (∀ slot ∈ hello.initiated, (∃ link ∈ node.links, link.slot = slot) ∨ slot ∈ left) ∧
    (hello.buffers.map (·.2.length)).sum ≤ node.links.length * Hello.lineLimit ∧
    (node.links = [] → hello.buffers = [] ∧ hello.done = [] ∧
      ∀ slot, slot ∈ hello.initiated ↔ slot ∈ left) := by
  intro node left
  obtain ⟨kept, lasting⟩ := retains_run initial strides
  have confined := kept hello exchange
  refine ⟨?_, ?_, ?_, ?_, ?_⟩
  · intro buffered member
    exact ⟨confined.short buffered member, confined.unfinished buffered member,
      confined.unheard buffered member⟩
  · intro slot minded
    exact isPumped_iff.mp (confined.tended slot minded)
  · intro slot member
    exact (confined.begun slot member).imp_left isPumped_iff.mp
  · rw [← List.length_map (f := Link.slot)]
    apply confined.total_le
    intro slot pumped
    exact List.mem_map.mpr (isPumped_iff.mp pumped)
  · intro none
    have unpumped : ∀ slot, ¬ node.IsPumped slot := by
      intro slot pumped
      obtain ⟨link, member, -⟩ := isPumped_iff.mp pumped
      rw [none] at member
      cases member
    obtain ⟨buffers, done⟩ := confined.eq_of_unpumped unpumped
    refine ⟨buffers, done, fun slot => ⟨?_, ?_⟩⟩
    · intro member
      exact (confined.begun slot member).resolve_left (unpumped slot)
    · intro member
      have spoke := (lasting slot member).spoke (by rw [exchange]; rfl)
      simpa [progress, exchange, Hello.progress] using spoke

/-- A peer that is dialed closes at once, and the task ends before the handshake is started. -/
example :
    let closes : List Stride :=
      [.acts (.requests Situation.aloof none (.v4 ⟨192, 0, 2, 1⟩ 5000) 0 1),
        .acts (.dialConnects 0 ⟨0, .caller⟩ 2), .acts (.linkEnds ⟨1⟩), .starts ⟨1⟩]
    let after := ((beginning (Situation.lone 40000).listening).run closes).situation.node
    after.links = [] ∧ after.hello = some ⟨[], [⟨1⟩], []⟩ := by
  decide

end Opening

end PeerMesh.Node
