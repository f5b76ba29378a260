import PeerMesh.Proofs.Node.Teardown
import PeerMesh.Proofs.Node.Turns

/-!
# Handshakes that are still to be started

When a connected socket has been registered, a task begins to pump it, and then the handshake is
started on it if its address was marked. In a process with several threads the task may be faster: it
may read and answer, and even end, before the handshake is started. Here the two are taken apart. A
connection that is registered with the mark is owed a handshake, and whatever else happens to the node
may come before that. An act whose handshake is started at once is the act that it was.
-/

set_option autoImplicit false

namespace PeerMesh.Node

/-- A situation, with the connections on which the handshake is still to be started. -/
structure Opening where
  situation : Situation
  owed : List Slot

/-- What happens to a node at once. -/
inductive Stride where
  /-- An act. A connection that it registers is pumped from then on, and the handshake on it is not
  started yet. -/
  | acts (act : Act)
  /-- The handshake is started on a connection that was registered with the mark. -/
  | starts (slot : Slot)

/-! ## Acts without the handshake -/

namespace Situation

def startOn (situation : Situation) (slot : Slot) : Situation :=
  { situation with node := situation.node.startHandshake slot }

/-- Registers a connected socket under the next placeholder, and tells on which connection the
handshake is to be started, if it is. -/
def enter (situation : Situation) (node : Node) (remote : SocketAddress) (direction : Direction)
    (dialedAs : Option String) (socket : Endpoint) (moment : Nat) : Situation × Option Slot :=
  match node.registerSocket
      ⟨Context.placeholder (situation.sessions + 1), remote, direction, dialedAs, socket⟩ moment with
  | (refusing, .error _) => (⟨refusing, situation.sessions + 1⟩, none)
  | (registered, .ok (slot, initiator)) =>
    (⟨registered, situation.sessions + 1⟩, if initiator then some slot else none)

/-- The situation after an act that starts no handshake, and the connection on which it should. -/
def enact (situation : Situation) : Act → Situation × Option Slot
  | .dialConnects number socket moment =>
    match situation.node.dial? number with
    | none => (situation, none)
    | some dial =>
      situation.enter (situation.node.withoutDial number) dial.address .outbound dial.peer socket
        moment
  | .accepts remote socket moment =>
    situation.enter situation.node remote .inbound none socket moment
  | act => (situation.step act, none)

variable {before : Situation} {slot : Slot}

theorem register_eq_enter (situation : Situation) (node : Node) (remote : SocketAddress)
    (direction : Direction) (dialedAs : Option String) (socket : Endpoint) (moment : Nat) :
    let entered := situation.enter node remote direction dialedAs socket moment
    situation.register node remote direction dialedAs socket moment =
      entered.2.elim entered.1 entered.1.startOn := by
  intro entered
  simp only [entered, register, connected, enter]
  generalize node.registerSocket _ moment = result
  obtain ⟨later, _ | ⟨registered, _ | _⟩⟩ := result <;> rfl

/-- An act is what it does without the handshake, and then the handshake. -/
theorem step_eq_enact (before : Situation) (act : Act) :
    before.step act =
      (before.enact act).2.elim (before.enact act).1 (before.enact act).1.startOn := by
  cases act with
  | accepts remote socket moment => exact register_eq_enter _ _ _ _ _ _ _
  | dialConnects number socket moment =>
      simp only [step, enact]
      cases before.node.dial? number with
      | none => rfl
      | some dial => exact register_eq_enter _ _ _ _ _ _ _
  | _ => rfl

/-- What the start of a handshake leaves as it is, an act leaves as it does without the handshake. -/
theorem enact_of_kept {α : Type} {view : Node → α}
    (kept : ∀ node slot, view (startHandshake node slot) = view node) (before : Situation)
    (act : Act) : view (before.enact act).1.node = view (before.step act).node := by
  rw [step_eq_enact]
  cases (before.enact act).2 with
  | none => rfl
  | some slot => exact (kept _ slot).symm

theorem enter_of_open (situation : Situation) {node : Node} (admitting : node.table.closed = false)
    (remote : SocketAddress) (direction : Direction) (dialedAs : Option String) (socket : Endpoint)
    (moment : Nat) :
    situation.enter node remote direction dialedAs socket moment =
      (⟨node.admitted ⟨Context.placeholder (situation.sessions + 1), remote, direction, dialedAs,
          socket⟩ moment, situation.sessions + 1⟩,
        if node.table.inFlight.hasPending remote then some node.nextSlot else none) := by
  rw [enter, registerSocket_of_open admitting]

theorem enter_of_closed (situation : Situation) {node : Node} (refusing : node.table.closed = true)
    (remote : SocketAddress) (direction : Direction) (dialedAs : Option String) (socket : Endpoint)
    (moment : Nat) :
    situation.enter node remote direction dialedAs socket moment =
      (⟨node.turnAway ⟨Context.placeholder (situation.sessions + 1), remote, direction, dialedAs,
          socket⟩, situation.sessions + 1⟩, none) := by
  rw [enter, registerSocket_of_closed refusing]

/-- What an act without its handshake means for the connection under `slot`. -/
inductive Enacts (before : Situation) (slot : Slot) : Act → Situation × Option Slot → Prop
  | unborn {act : Act} (unborn : before.origin? act = none) :
      Enacts before slot act (before.step act, none)
  | elsewhere {act : Act} {address : SocketAddress} {after : Situation} {owing : Option Slot}
      (born : before.origin? act = some address) (other : owing ≠ some slot)
      (undisturbed : Undisturbed before.node after.node slot) :
      Enacts before slot act (after, owing)
  | opened {act : Act} {address : SocketAddress} {after : Situation} {owing : Option Slot}
      (born : before.origin? act = some address) (next : slot = before.node.nextSlot)
      (opens : Opens before.node after.node slot false) : Enacts before slot act (after, owing)

theorem enacts_enter {act : Act} {node : Node} {remote : SocketAddress}
    (born : before.origin? act = some remote) (threaded : node.Threaded)
    (next : node.nextSlot = before.node.nextSlot)
    (undisturbed : ∀ {later : Node}, Undisturbed node later slot → Undisturbed before.node later slot)
    (opens : ∀ {later : Node}, Opens node later slot false → Opens before.node later slot false)
    (direction : Direction) (dialedAs : Option String) (socket : Endpoint) (moment : Nat) :
    before.Enacts slot act (before.enter node remote direction dialedAs socket moment) := by
  cases closed : node.table.closed with
  | true =>
      rw [enter_of_closed before closed]
      refine .elsewhere born nofun (undisturbed ?_)
      rw [turnAway]
      cases direction <;> (refine .of_links ?_ ?_ slot <;> rfl)
  | false =>
      rw [enter_of_open before closed]
      by_cases same : slot = node.nextSlot
      · subst same
        exact .opened born next (opens (opens_admitted threaded _ moment))
      · refine .elsewhere born ?_ (undisturbed (undisturbed_admitted same _ moment))
        split
        · rintro ⟨⟩
          exact same rfl
        · exact nofun

theorem enacts_enact (threaded : before.node.Threaded) (act : Act) (slot : Slot) :
    before.Enacts slot act (before.enact act) := by
  cases act with
  | accepts remote socket moment => exact enacts_enter rfl threaded rfl id id _ _ _ _
  | dialConnects number socket moment =>
      cases search : before.node.dial? number with
      | none =>
          have same : before.enact (.dialConnects number socket moment) =
              (before.step (.dialConnects number socket moment), none) := by
            simp only [enact, step, search]
          rw [same]
          exact .unborn (by rw [origin?, search, Option.map_none])
      | some dial =>
          have born : before.origin? (.dialConnects number socket moment) = some dial.address := by
            rw [origin?, search, Option.map_some]
          have rest : (before.node.withoutDial number).Threaded :=
            ⟨threaded.distinct, threaded.issued⟩
          simp only [enact, search]
          refine enacts_enter born rest rfl ?_ ?_ _ _ _ _
          · intro later undisturbed
            exact ⟨undisturbed.linked, undisturbed.progress, undisturbed.queued⟩
          · intro later opens
            exact ⟨opens.unlinked, opens.linked, opens.progress, opens.queued⟩
  | _ => exact .unborn rfl

/-- The connection on which an act should start the handshake is the next one. -/
theorem enact_owing {act : Act} (owing : (before.enact act).2 = some slot) :
    slot = before.node.nextSlot ∧
      (before.step act).node.table.registry.lastSlot = slot.number := by
  have entered : ∀ {node : Node} {remote : SocketAddress} {direction : Direction}
      {dialedAs : Option String} {socket : Endpoint} {moment : Nat},
      node.table.registry = before.node.table.registry →
      (before.enter node remote direction dialedAs socket moment).2 = some slot →
      slot = before.node.nextSlot ∧
        (before.enter node remote direction dialedAs socket moment).1.node.table.registry.lastSlot =
          slot.number := by
    intro node remote direction dialedAs socket moment same owing
    cases closed : node.table.closed with
    | true =>
        rw [enter_of_closed before closed] at owing
        cases owing
    | false =>
        rw [enter_of_open before closed] at owing ⊢
        dsimp only at owing ⊢
        split at owing
        · cases owing
          refine ⟨?_, rfl⟩
          rw [nextSlot, same, nextSlot]
        · cases owing
  have books := enact_of_kept ledger_startHandshake before act
  have last : (before.step act).node.table.registry.lastSlot =
      (before.enact act).1.node.table.registry.lastSlot :=
    congrArg (fun ledger : Ledger => ledger.registry.lastSlot) books.symm
  rw [last]
  cases act with
  | accepts => exact entered rfl owing
  | dialConnects number socket moment =>
      cases search : before.node.dial? number with
      | none =>
          simp only [enact, search] at owing
          cases owing
      | some dial =>
          simp only [enact, search] at owing ⊢
          exact entered rfl owing
  | _ => cases owing

end Situation

/-! ## Strides -/

namespace Opening

/-- The situation as it is, with no handshake to be started. -/
def beginning (situation : Situation) : Opening := ⟨situation, []⟩

/-- What a node has come to after a stride. A handshake that is not owed is not started. -/
def step (opening : Opening) : Stride → Opening
  | .acts act =>
    ⟨(opening.situation.enact act).1, opening.owed ++ (opening.situation.enact act).2.toList⟩
  | .starts slot =>
    if slot ∈ opening.owed then
      ⟨opening.situation.startOn slot, opening.owed.filter (· != slot)⟩
    else opening

def run (opening : Opening) (strides : List Stride) : Opening :=
  strides.foldl step opening

@[simp] theorem run_nil (opening : Opening) : opening.run [] = opening := rfl

@[simp] theorem run_cons (opening : Opening) (stride : Stride) (strides : List Stride) :
    opening.run (stride :: strides) = (opening.step stride).run strides := rfl

theorem run_append (opening : Opening) (first second : List Stride) :
    opening.run (first ++ second) = (opening.run first).run second :=
  List.foldl_append

/-- What strides yield one after the other, each where it finds the node. -/
def gathered {α : Type} (yields : Opening → Stride → List α) (before : Opening) :
    List Stride → List α
  | [] => []
  | stride :: rest => yields before stride ++ gathered yields (before.step stride) rest

theorem gathered_concat {α : Type} (yields : Opening → Stride → List α) (before : Opening)
    (past : List Stride) (stride : Stride) :
    gathered yields before (past ++ [stride]) =
      gathered yields before past ++ yields (before.run past) stride := by
  induction past generalizing before with
  | nil => simp [gathered]
  | cons first rest ih => rw [List.cons_append, gathered, ih, gathered, run_cons, List.append_assoc]

/-- The books are sound, the tasks have slots of their own, and handshakes are owed on slots that
have been given out. -/
structure Sound (opening : Opening) : Prop where
  books : opening.situation.node.ledger.Sound
  threaded : opening.situation.node.Threaded
  issued : ∀ slot ∈ opening.owed,
    slot.number ≤ opening.situation.node.table.registry.lastSlot

variable {opening : Opening} {slot : Slot}

theorem threaded_of_pumps {node later : Node} (threaded : node.Threaded)
    (pumps : later.pumps = node.pumps) (ledger : later.ledger = node.ledger) : later.Threaded := by
  have slots : later.links.map (·.slot) = node.links.map (·.slot) := by
    have firsts := congrArg (List.map (·.1)) pumps
    rw [Node.pumps, Node.pumps, List.map_map, List.map_map] at firsts
    exact firsts
  have last : later.table.registry.lastSlot = node.table.registry.lastSlot :=
    congrArg (fun ledger : Ledger => ledger.registry.lastSlot) ledger
  constructor
  · rw [slots]
    exact threaded.distinct
  · intro link member
    rw [last]
    refine threaded.slot_issued ?_
    rw [← slots]
    exact List.mem_map_of_mem member

theorem lastSlot_enact (before : Situation) (act : Act) :
    (before.enact act).1.node.table.registry.lastSlot =
      (before.step act).node.table.registry.lastSlot :=
  congrArg (fun ledger : Ledger => ledger.registry.lastSlot)
    (Situation.enact_of_kept ledger_startHandshake before act)

theorem lastSlot_startOn (before : Situation) (slot : Slot) :
    (before.startOn slot).node.table.registry.lastSlot = before.node.table.registry.lastSlot :=
  congrArg (fun ledger : Ledger => ledger.registry.lastSlot)
    (ledger_startHandshake before.node slot)

theorem lastSlot_le_step (sound : opening.Sound) (stride : Stride) :
    opening.situation.node.table.registry.lastSlot ≤
      (opening.step stride).situation.node.table.registry.lastSlot := by
  cases stride with
  | acts act =>
      change _ ≤ (opening.situation.enact act).1.node.table.registry.lastSlot
      rw [lastSlot_enact]
      exact Situation.lastSlot_le_step sound.books act
  | starts slot =>
      rw [Opening.step]
      split
      · exact Nat.le_of_eq (lastSlot_startOn opening.situation slot).symm
      · exact Nat.le_refl _

theorem Sound.step (sound : opening.Sound) (stride : Stride) : (opening.step stride).Sound := by
  cases stride with
  | acts act =>
      have books := Situation.enact_of_kept ledger_startHandshake opening.situation act
      have pumps := Situation.enact_of_kept pumps_startHandshake opening.situation act
      refine ⟨?_, ?_, ?_⟩
      · change (opening.situation.enact act).1.node.ledger.Sound
        rw [books]
        exact sound_step sound.books act
      · exact threaded_of_pumps (sound.threaded.step sound.books act) pumps books
      · intro slot owed
        rcases List.mem_append.mp owed with earlier | owing
        · exact Nat.le_trans (sound.issued slot earlier) (lastSlot_le_step sound (.acts act))
        · change slot.number ≤ (opening.situation.enact act).1.node.table.registry.lastSlot
          rw [lastSlot_enact]
          obtain ⟨-, issued⟩ := Situation.enact_owing (Option.mem_toList.mp owing)
          exact Nat.le_of_eq issued.symm
  | starts slot =>
      rw [Opening.step]
      split
      · have books := ledger_startHandshake opening.situation.node slot
        refine ⟨?_, ?_, ?_⟩
        · change (opening.situation.node.startHandshake slot).ledger.Sound
          rw [books]
          exact sound.books
        · exact threaded_of_pumps sound.threaded (pumps_startHandshake _ slot) books
        · intro other owed
          rw [lastSlot_startOn]
          exact sound.issued other (List.mem_filter.mp owed).1
      · exact sound

theorem sound_run {start : Situation} (initial : start.Initial) (strides : List Stride) :
    ((beginning start).run strides).Sound := by
  induction strides using List.reverseRecOn with
  | nil => exact ⟨sound_of_initial initial, threaded_run initial [], nofun⟩
  | append_singleton past stride ih =>
      rw [run_append]
      exact ih.step stride

theorem profile_run (start : Situation) (strides : List Stride) :
    ((beginning start).run strides).situation.node.profile = start.node.profile := by
  have kept : ∀ node slot, (startHandshake node slot).profile = node.profile := by
    intro node slot
    unfold startHandshake
    split
    · rfl
    · exact congrArg (·.1.1) (shell_send _ slot _)
  induction strides using List.reverseRecOn with
  | nil => rfl
  | append_singleton past stride ih =>
      rw [run_append, ← ih]
      generalize (beginning start).run past = opening
      cases stride with
      | acts act =>
          exact (Situation.enact_of_kept kept opening.situation act).trans
            (profile_step opening.situation act)
      | starts slot =>
          change (opening.step (.starts slot)).situation.node.profile = _
          rw [Opening.step]
          split
          · exact kept _ slot
          · rfl

/-- An act whose handshake is started at once is the act that it was. -/
theorem run_acts_starts (sound : opening.Sound) (act : Act) :
    opening.run (.acts act :: (opening.situation.enact act).2.toList.map .starts) =
      ⟨opening.situation.step act, opening.owed⟩ := by
  rw [Situation.step_eq_enact]
  simp only [run_cons, Opening.step]
  cases owing : (opening.situation.enact act).2 with
  | none => simp
  | some slot =>
      obtain ⟨rfl, -⟩ := Situation.enact_owing owing
      have fresh : ∀ other ∈ opening.owed, other ≠ opening.situation.node.nextSlot := by
        rintro other owed rfl
        exact Nat.not_succ_le_self _ (sound.issued _ owed)
      simpa [Opening.step, List.filter_append] using fresh

/-! ## One connection -/

/-- The names that the hello exchange asks for on the connection under `slot`. -/
def asked (slot : Slot) (opening : Opening) : Stride → List String
  | .acts act => (opening.situation.asked? slot act).toList
  | .starts _ => []

/-- What is taken out of the queue of the connection under `slot` to be written. -/
def taken (slot : Slot) (opening : Opening) : Stride → List Bytes
  | .acts act => opening.situation.taken slot act
  | .starts _ => []

/-- What a stride means for the connection under `slot`. -/
inductive Pass (opening : Opening) (slot : Slot) : Stride → Opening → Prop
  | elsewhere {stride : Stride} {after : Opening}
      (undisturbed : Undisturbed opening.situation.node after.situation.node slot)
      (owed : slot ∈ after.owed ↔ slot ∈ opening.owed)
      (unasked : opening.asked slot stride = []) (untaken : opening.taken slot stride = []) :
      Pass opening slot stride after
  | opened {act : Act} {address : SocketAddress} {after : Opening}
      (born : opening.situation.origin? act = some address)
      (next : slot = opening.situation.node.nextSlot)
      (opens : Opens opening.situation.node after.situation.node slot false) :
      Pass opening slot (.acts act) after
  | started {after : Opening} (owed : slot ∈ opening.owed) (settled : slot ∉ after.owed)
      (linked : (after.situation.node.link? slot).isSome =
        (opening.situation.node.link? slot).isSome)
      (progress : after.situation.node.progress slot =
        { opening.situation.node.progress slot with
          initiated := (after.situation.node.progress slot).initiated })
      (queued : ∃ line, after.situation.node.queued slot =
          opening.situation.node.queued slot ++ line ∧
        (line = [] ∨ line = [Hello.line opening.situation.node.profile.id] ∧
          (after.situation.node.progress slot).initiated = true)) :
      Pass opening slot (.starts slot) after
  | heard {around : Surroundings} {bytes : Bytes} {moment : Nat} {after : Opening}
      (owed : slot ∈ after.owed ↔ slot ∈ opening.owed)
      (linked : (opening.situation.node.link? slot).isSome = true)
      (hello : after.situation.node.hello =
        (opening.situation.node.listened slot bytes moment).hello)
      (queued : ∃ answer, after.situation.node.queued slot =
          opening.situation.node.queued slot ++ answer ∧
        (answer = [] ∨ answer = [Hello.line opening.situation.node.profile.id] ∧
          opening.situation.node.Answers around slot bytes moment)) :
      Pass opening slot (.acts (.receives around slot bytes moment)) after
  | sent {bytes : Bytes} {after : Opening} (owed : slot ∈ after.owed ↔ slot ∈ opening.owed)
      (linked : (after.situation.node.link? slot).isSome =
        (opening.situation.node.link? slot).isSome)
      (progress : after.situation.node.progress slot = opening.situation.node.progress slot) :
      Pass opening slot (.acts (.sends slot bytes)) after
  | wrote {after : Opening} (owed : slot ∈ after.owed ↔ slot ∈ opening.owed)
      (linked : (after.situation.node.link? slot).isSome =
        (opening.situation.node.link? slot).isSome)
      (progress : after.situation.node.progress slot = opening.situation.node.progress slot)
      (queued : after.situation.node.queued slot = (opening.situation.node.queued slot).tail) :
      Pass opening slot (.acts (.writes slot)) after
  | ended {after : Opening} (owed : slot ∈ after.owed ↔ slot ∈ opening.owed)
      (linked : (opening.situation.node.link? slot).isSome = true)
      (unlinked : after.situation.node.link? slot = none)
      (progress : after.situation.node.progress slot = .none) :
      Pass opening slot (.acts (.linkEnds slot)) after

theorem asked_of_born {act : Act} {address : SocketAddress}
    (born : opening.situation.origin? act = some address) :
    opening.asked slot (.acts act) = [] ∧ opening.taken slot (.acts act) = [] := by
  cases act with
  | accepts | dialConnects => exact ⟨rfl, rfl⟩
  | _ => cases born

theorem pass_starts (opening : Opening) (started slot : Slot) :
    opening.Pass slot (.starts started) (opening.step (.starts started)) := by
  rw [Opening.step]
  split
  · rename_i owed
    have others : ∀ other, other ≠ started →
        (other ∈ opening.owed.filter (· != started) ↔ other ∈ opening.owed) := by
      intro other different
      simp [different]
    by_cases here : slot = started
    · subst here
      have linked := isSome_link?_of_pumps (pumps_startHandshake opening.situation.node slot) slot
      exact .started owed (by simp) linked
        (progress_startHandshake_self opening.situation.node slot)
        (queued_startHandshake opening.situation.node slot)
    · exact .elsewhere (undisturbed_startHandshake _ here) (others slot here) rfl rfl
  · exact .elsewhere (.refl _ _) Iff.rfl rfl rfl

theorem pass_acts (sound : opening.Sound) (act : Act) (slot : Slot) :
    opening.Pass slot (.acts act) (opening.step (.acts act)) := by
  have enacts := Situation.enacts_enact sound.threaded act slot
  rw [Opening.step]
  generalize opening.situation.enact act = result at enacts
  cases enacts with
  | unborn unborn =>
      have owed : slot ∈ opening.owed ++ (none : Option Slot).toList ↔ slot ∈ opening.owed := by
        simp
      have turn := Situation.turn_step sound.books sound.threaded act slot
      generalize result : (opening.situation.step act).node = node at turn
      cases turn with
      | elsewhere undisturbed unasked untaken =>
          rw [← result] at undisturbed
          refine .elsewhere undisturbed owed ?_ untaken
          rw [asked, unasked, Option.toList_none]
      | opened born =>
          rw [unborn] at born
          cases born
      | heard linked still hello queued =>
          rw [← result] at hello queued
          exact .heard owed linked hello queued
      | sent linked progress =>
          rw [← result] at linked progress
          exact .sent owed linked progress
      | wrote linked progress queued =>
          rw [← result] at linked progress queued
          exact .wrote owed linked progress queued
      | ended linked unlinked progress =>
          rw [← result] at unlinked progress
          exact .ended owed linked unlinked progress
  | elsewhere born other undisturbed =>
      obtain ⟨unasked, untaken⟩ := asked_of_born born
      refine .elsewhere undisturbed ?_ unasked untaken
      rw [List.mem_append, Option.mem_toList]
      exact or_iff_left other
  | opened born next opens => exact .opened born next opens

theorem pass_step (sound : opening.Sound) (stride : Stride) (slot : Slot) :
    opening.Pass slot stride (opening.step stride) := by
  cases stride with
  | acts act => exact pass_acts sound act slot
  | starts started => exact pass_starts opening started slot

end Opening

end PeerMesh.Node
