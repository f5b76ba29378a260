import PeerMesh.Proofs.Node.Closing
import PeerMesh.Proofs.Shutdown

/-!
# The leader of a teardown is not cancelled

The exit hook is the only closer that is ever cancelled, and only in the second step of a teardown
that an application's call leads. So the leader of a node's teardown goes on until the teardown has
ended, and that is when the node is marked as closed and its hook disposed of.
-/

set_option autoImplicit false

namespace PeerMesh

namespace Node

open Shutdown (Caller Coordinator)

theorem frame_closeAll (node : Node) (entries : List Connection) :
    (node.closeAll entries).frame = node.frame :=
  closeAll_induction (motive := fun other => other.frame = node.frame) (fun _ _ same => same) rfl
    entries

/-- The closers of a node whose hook is disposed of. -/
def unhookedClosers (node : Node) : Coordinator Closer :=
  if node.hook.isNone || node.closers.running? == some .exitHook then node.closers
  else node.closers.abort .exitHook

theorem frame_finishTeardown (node : Node) :
    node.finishTeardown.frame = (node.profile, node.listeners, node.stopping, none,
      node.unhookedClosers.finish, true) := by
  have disposed : ∀ other : Node, other.frame = node.frame →
      other.disposeHook.frame = (node.profile, node.listeners, node.stopping, none,
        node.unhookedClosers, node.closed) := by
    intro other same
    simp only [frame, Prod.mk.injEq] at same
    obtain ⟨profile, listeners, stopping, hook, closers, closed⟩ := same
    simp only [disposeHook, unhookedClosers, hook, closers]
    split <;> simp [frame, *]
  have emptied := disposed node.emptyTable (frame_closeAll _ _)
  simp only [frame, Prod.mk.injEq] at emptied
  obtain ⟨profile, listeners, stopping, hook, closers, -⟩ := emptied
  simp only [finishTeardown, frame, Prod.mk.injEq, and_true]
  exact ⟨profile, listeners, stopping, hook, congrArg Coordinator.finish closers⟩

theorem profile_step (before : Situation) (act : Act) :
    (before.step act).node.profile = before.node.profile := by
  cases inner : act.concernsFrame with
  | false => exact congrArg (·.1) (before.frame_step inner)
  | true =>
      cases act with
      | asksClose | grantsPermit | storesHook | changesListener => rfl
      | finishesTeardown =>
          simp only [Situation.step]
          split
          · exact congrArg (·.1) (frame_finishTeardown before.node)
          · rfl
      | firesExit =>
          simp only [Situation.step, hearExit]
          split
          · split <;> rfl
          · rfl
      | _ => cases inner

theorem profile_run (start : Situation) (acts : List Act) :
    (start.run acts).node.profile = start.node.profile := by
  refine Situation.run_induction (fun reached => reached.node.profile = start.node.profile) ?_ rfl
    acts
  intro reached act same
  rw [profile_step, same]

/-! ## The leader -/

/-- The callers of a node's coordinator are led, and their leader is not cancelled. -/
structure Presided (node : Node) (lead : Option (Caller Closer)) : Prop where
  led : ∃ others, node.closers.Led lead others
  uncut : ∀ name, lead ≠ some ⟨name, .aborted⟩
  closed_iff : node.closed = true ↔ ∃ name, lead = some ⟨name, .returned true⟩
  stopping : lead.isSome = true → node.stopping = true

variable {node later : Node} {lead : Option (Caller Closer)}

theorem Presided.of_frame (presided : node.Presided lead) (same : later.frame = node.frame) :
    later.Presided lead := by
  simp only [frame, Prod.mk.injEq] at same
  obtain ⟨-, -, stopping, -, closers, closed⟩ := same
  exact {
    led := by rw [closers]; exact presided.led
    uncut := presided.uncut
    closed_iff := by rw [closed]; exact presided.closed_iff
    stopping := by rw [stopping]; exact presided.stopping }

/-- Whether a hook is stored is no concern of the closers. -/
theorem Presided.withHook (presided : node.Presided lead) (hook : Option ExitHook) :
    Presided { node with hook } lead :=
  ⟨presided.led, presided.uncut, presided.closed_iff, presided.stopping⟩

theorem Presided.askClose (presided : node.Presided lead) (closer : Closer) :
    (node.askClose closer).Presided lead where
  led := by
    obtain ⟨others, led⟩ := presided.led
    exact ⟨_, led.call closer⟩
  uncut := presided.uncut
  closed_iff := presided.closed_iff
  stopping := presided.stopping

theorem Presided.grantPermit (presided : node.Presided lead) :
    ∃ next, node.grantPermit.Presided next := by
  obtain ⟨others, led⟩ := presided.led
  obtain ⟨next, rest, granted, outcome⟩ := led.grant
  have stopping : node.stopping = true → node.grantPermit.stopping = true := by
    intro stopping
    simp [Node.grantPermit, stopping]
  refine ⟨next, ?_⟩
  cases outcome with
  | inl same =>
      subst same
      exact {
        led := ⟨rest, granted⟩
        uncut := presided.uncut
        closed_iff := presided.closed_iff
        stopping := fun led => stopping (presided.stopping led) }
  | inr begun =>
      obtain ⟨rfl, name, rfl⟩ := begun
      have running : node.closers.grant.running?.isSome = true :=
        granted.isSome_running?_iff.mpr ⟨name, rfl⟩
      exact {
        led := ⟨rest, granted⟩
        uncut := by simp
        closed_iff := by
          have isOpen := presided.closed_iff
          simpa [Node.grantPermit] using isOpen
        stopping := fun _ => by simp [Node.grantPermit, running] }

/-- The hook is not the leader when it is cancelled. -/
theorem led_unhookedClosers {others : List (Caller Closer)} {name : Closer}
    (led : node.closers.Led (some ⟨name, .running⟩) others) :
    ∃ rest, node.unhookedClosers.Led (some ⟨name, .running⟩) rest := by
  unfold unhookedClosers
  split
  · exact ⟨others, led⟩
  · rename_i hooked
    rw [Bool.or_eq_true, not_or, beq_iff_eq, led.running?_eq_some_iff] at hooked
    have spared : Coordinator.cancelled .exitHook ⟨name, .running⟩ = ⟨name, .running⟩ := by
      apply if_neg
      intro cancelled
      have same : name = .exitHook := cancelled.1
      exact hooked.2 (by rw [same])
    have aborted := led.abort .exitHook
    rw [Option.map_some, spared] at aborted
    exact ⟨_, aborted⟩

theorem Presided.finishTeardown (presided : node.Presided lead)
    (ready : node.canFinishTeardown = true) : ∃ next, node.finishTeardown.Presided next := by
  obtain ⟨others, led⟩ := presided.led
  obtain ⟨running, -⟩ := (Bool.and_eq_true _ _).mp ready
  obtain ⟨name, rfl⟩ := led.isSome_running?_iff.mp running
  obtain ⟨rest, unhooked⟩ := led_unhookedClosers led
  obtain ⟨next, finished, leads⟩ := unhooked.finish
  have books := frame_finishTeardown node
  simp only [frame, Prod.mk.injEq] at books
  obtain ⟨-, -, stopping, -, closers, closed⟩ := books
  cases leads with
  | stays unended => exact absurd rfl (unended rfl name)
  | ends =>
      exact ⟨some ⟨name, .returned true⟩, {
        led := ⟨rest, by rwa [closers]⟩
        uncut := by simp
        closed_iff := by simp [closed]
        stopping := by
          intro _
          rw [stopping]
          exact presided.stopping rfl }⟩

theorem Presided.hearExit (presided : node.Presided lead) : node.hearExit.Presided lead := by
  unfold Node.hearExit
  split
  · rename_i hook _
    split
    · exact (presided.withHook (some { hook with awaiting := false })).askClose .exitHook
    · exact presided
  · exact presided

theorem Presided.step {before : Situation} (presided : before.node.Presided lead) (act : Act) :
    ∃ next, (before.step act).node.Presided next := by
  cases inner : act.concernsFrame with
  | false => exact ⟨lead, presided.of_frame (before.frame_step inner)⟩
  | true =>
      cases act with
      | asksClose closer => exact ⟨lead, presided.askClose closer⟩
      | grantsPermit => exact presided.grantPermit
      | finishesTeardown =>
          simp only [Situation.step]
          split
          · rename_i ready
            exact presided.finishTeardown ready
          · exact ⟨lead, presided⟩
      | firesExit => exact ⟨lead, presided.hearExit⟩
      | storesHook hook => exact ⟨lead, presided.withHook (some hook)⟩
      | changesListener =>
          exact ⟨lead, presided.led, presided.uncut, presided.closed_iff, presided.stopping⟩
      | _ => cases inner

/-! ## What the callers know -/

theorem Presided.closed_of_returned (presided : node.Presided lead) {name : Closer}
    {performed : Bool} (member : ⟨name, .returned performed⟩ ∈ node.closers.callers) :
    node.closed = true := by
  obtain ⟨others, led⟩ := presided.led
  obtain ⟨leader, stopped⟩ := led.stopped_of_returned member rfl
  cases stopped with
  | inl returned => exact presided.closed_iff.mpr ⟨leader, returned⟩
  | inr aborted => exact absurd aborted (presided.uncut leader)

/-- A teardown that was begun has ended, or it is run still. -/
theorem Presided.closed_or_running (presided : node.Presided lead)
    (begun : node.closers.done = true) :
    node.closed = true ∨ node.closers.running?.isSome = true ∧ node.stopping = true := by
  obtain ⟨others, led⟩ := presided.led
  rw [led.done] at begun
  obtain ⟨⟨name, status⟩, rfl⟩ := Option.isSome_iff_exists.mp begun
  rcases led.leads _ rfl with rfl | rfl | rfl
  · exact .inr ⟨led.isSome_running?_iff.mpr ⟨name, rfl⟩, presided.stopping rfl⟩
  · exact .inl (presided.closed_iff.mpr ⟨name, rfl⟩)
  · exact absurd rfl (presided.uncut name)

/-- A teardown that has ended does not end again. -/
theorem Presided.not_ready (presided : node.Presided lead) (closed : node.closed = true) :
    node.canFinishTeardown = false := by
  obtain ⟨others, led⟩ := presided.led
  obtain ⟨name, rfl⟩ := presided.closed_iff.mp closed
  have idle : node.closers.running?.isSome = false := by
    rw [Bool.eq_false_iff, Ne, led.isSome_running?_iff]
    rintro ⟨other, running⟩
    cases running
  rw [canFinishTeardown, idle, Bool.false_and]

/-! ## The hook at the end -/

/-- What becomes of the hook of a node, unless a start stores it: the end of the teardown takes it away,
and afterwards there is one, or none, as before. -/
structure Ends (earlier later : Node) : Prop where
  ending : earlier.closed = false → later.closed = true → later.hook.isSome = false
  ended : earlier.closed = true → later.closed = true ∧ later.hook.isSome = earlier.hook.isSome

theorem Ends.of_same (closed : later.closed = node.closed)
    (hook : later.hook.isSome = node.hook.isSome) : Ends node later where
  ended := fun wasClosed => ⟨closed.trans wasClosed, hook⟩
  ending := by
    intro wasOpen isClosed
    rw [closed, wasOpen] at isClosed
    cases isClosed

theorem Ends.of_frame (same : later.frame = node.frame) : Ends node later :=
  .of_same (congrArg (·.2.2.2.2.2) same) (congrArg (·.2.2.2.1.isSome) same)

theorem Ends.refl (node : Node) : Ends node node :=
  .of_same rfl rfl

theorem Ends.trans {between : Node} (first : Ends node between) (second : Ends between later) :
    Ends node later where
  ending := by
    intro wasOpen closed
    cases between : between.closed with
    | true => rw [(second.ended between).2, first.ending wasOpen between]
    | false => exact second.ending between closed
  ended := by
    intro closed
    obtain ⟨closedBetween, hook⟩ := first.ended closed
    obtain ⟨closedStill, hookStill⟩ := second.ended closedBetween
    exact ⟨closedStill, hookStill.trans hook⟩

theorem ends_hearExit (node : Node) : Ends node node.hearExit := by
  unfold Node.hearExit
  split
  · rename_i hook hooked
    split
    · refine .of_same rfl ?_
      rw [hooked]
      rfl
    · exact .refl node
  · exact .refl node

theorem Presided.ends {before : Situation} (presided : before.node.Presided lead) {act : Act}
    (stores : ∀ hook, act ≠ .storesHook hook) : Ends before.node (before.step act).node := by
  cases inner : act.concernsFrame with
  | false => exact .of_frame (before.frame_step inner)
  | true =>
      cases act with
      | asksClose | grantsPermit | changesListener => exact .of_same rfl rfl
      | firesExit => exact ends_hearExit before.node
      | storesHook hook => exact absurd rfl (stores hook)
      | finishesTeardown =>
          simp only [Situation.step]
          split
          · rename_i ready
            constructor
            · intro _ _
              exact congrArg (·.2.2.2.1.isSome) (frame_finishTeardown before.node)
            · intro closed
              rw [presided.not_ready closed] at ready
              cases ready
          · exact .refl before.node
      | _ => cases inner

/-! ## Answers -/

/-- No act takes an answer back. -/
theorem mem_returned_step {before : Situation} (act : Act) {name : Closer} {performed : Bool}
    (member : ⟨name, .returned performed⟩ ∈ before.node.closers.callers) :
    ⟨name, .returned performed⟩ ∈ (before.step act).node.closers.callers := by
  have stays : ∀ {coordinator : Coordinator Closer} (turn : Shutdown.Turn Closer),
      ⟨name, .returned performed⟩ ∈ coordinator.callers →
      ⟨name, .returned performed⟩ ∈ (coordinator.turn turn).callers :=
    fun _ member => Coordinator.mem_turn_of_returned member
  cases inner : act.concernsFrame with
  | false =>
      have closers : (before.step act).node.closers = before.node.closers :=
        congrArg (·.2.2.2.2.1) (before.frame_step inner)
      rwa [closers]
  | true =>
      cases act with
      | asksClose closer => exact stays (.calls closer) member
      | grantsPermit => exact stays .grants member
      | storesHook | changesListener => exact member
      | finishesTeardown =>
          simp only [Situation.step]
          split
          · have closers : before.node.finishTeardown.closers = before.node.unhookedClosers.finish :=
              congrArg (·.2.2.2.2.1) (frame_finishTeardown before.node)
            rw [closers]
            apply stays .finishes
            unfold unhookedClosers
            split
            · exact member
            · exact stays (.aborts .exitHook) member
          · exact member
      | firesExit =>
          simp only [Situation.step, hearExit]
          split
          · split
            · exact stays (.calls .exitHook) member
            · exact member
          · exact member
      | _ => cases inner

end Node

end PeerMesh
