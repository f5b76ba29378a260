import Mathlib.Data.List.Induction
import PeerMesh.Scenario.Handles

/-!
# What a handle promises

The copies of a handle share one close signal and one queue. Steps on the copies and on the queue come
in any order, and between any two of them any waiting task may take a step. What a step is answered
then depends on what was answered before: on whether a copy was closed, whether the queue was given
up, and which byte strings were taken and handed out. Since a task that waits has a copy of its own,
it can be woken by the signal alone.
-/

set_option autoImplicit false

namespace PeerMesh.Scenario.Handles

/-! ## Courses and their histories -/

/-- What can happen next: a step on the handle or on its queue, or a step of a waiting task. -/
inductive Event where
  | acts (step : HandleStep)
  | resumes (number : Nat)
  deriving DecidableEq

def perform (state : Handles) : Event → Handles × HandleReply
  | .acts step => state.act step
  | .resumes number => (state.resume number, .none)

def course (state : Handles) (events : List Event) : Handles :=
  events.foldl (fun state event => (state.perform event).1) state

/-- Events with the replies to them. -/
abbrev History := List (Event × HandleReply)

def history (state : Handles) : List Event → History
  | [] => []
  | event :: rest => (event, (state.perform event).2) :: (state.perform event).1.history rest

theorem history_append (state : Handles) (early late : List Event) :
    state.history (early ++ late) = state.history early ++ (state.course early).history late := by
  induction early generalizing state with
  | nil => rfl
  | cons event rest ih => exact congrArg (_ :: ·) (ih _)

/-! ## Reading a history -/

def isClosing : Event × HandleReply → Bool
  | (.acts (.close _), .flag _) => true
  | _ => false

/-- Whether a copy was closed. -/
def closed (history : History) : Bool :=
  history.any isClosing

def isQueueDrop : Event × HandleReply → Bool
  | (.acts .dropQueue, .flag there) => there
  | _ => false

/-- Whether the reading end of the queue was given up. -/
def queueDropped (history : History) : Bool :=
  history.any isQueueDrop

def accepted? : Event × HandleReply → Option Bytes
  | (.acts (.send _ bytes), .flag true) => some bytes
  | _ => none

/-- The byte strings that were taken, in the order in which they were sent. -/
def accepted (history : History) : List Bytes :=
  history.filterMap accepted?

def received? : Event × HandleReply → Option Bytes
  | (.acts .receive, .received bytes) => some bytes
  | _ => none

/-- The byte strings that were handed out. -/
def received (history : History) : List Bytes :=
  history.filterMap received?

/-! ## What an event does -/

/-- Nothing that a later reply depends on is told by the event and its reply. -/
structure Tacit (entry : Event × HandleReply) : Prop where
  closing : isClosing entry = false
  drop : isQueueDrop entry = false
  accepted : accepted? entry = none
  received : received? entry = none

/-- All that an event can do. -/
inductive Occurs (before : Handles) : Event → Handles × HandleReply → Prop where
  | aside {step : HandleStep} {reply : HandleReply} (copies : List String)
      (tacit : Tacit (.acts step, reply)) :
      Occurs before (.acts step) ({ before with copies }, reply)
  | closes (copy : String) :
      Occurs before (.acts (.close copy))
        ({ before with handle := before.handle.close.1, closings := before.closings + 1 },
          .flag before.handle.isOpen)
  | sends (copy : String) (bytes : Bytes) :
      Occurs before (.acts (.send copy bytes))
        ({ before with handle := (before.handle.send bytes).1 },
          .flag (before.handle.send bytes).2)
  | dropsQueue :
      Occurs before (.acts .dropQueue)
        ({ before with handle := before.handle.dropQueue.1 }, .flag before.handle.dropQueue.2)
  | receives :
      Occurs before (.acts .receive)
        ({ before with handle := before.handle.receive.1 }, before.receiveReply)
  | waits (copy name : String) :
      Occurs before (.acts (.wait copy name))
        ({ before with waiters := before.waiters ++ [⟨name, .looks⟩] }, .none)
  | resumes (number : Nat) : Occurs before (.resumes number) (before.resume number, .none)

theorem occurs_perform (state : Handles) (event : Event) :
    state.Occurs event (state.perform event) := by
  -- a step on a copy that is not there does nothing
  have absent : ∀ step, Tacit (.acts step, .none) → state.Occurs (.acts step) (state, .none) :=
    fun step tacit => .aside state.copies tacit
  cases event with
  | resumes number => exact .resumes number
  | acts step =>
      cases step with
      | isOpen copy =>
          simp only [perform, act, onCopy]
          split
          · exact .aside state.copies ⟨rfl, rfl, rfl, rfl⟩
          · exact absent _ ⟨rfl, rfl, rfl, rfl⟩
      | close copy =>
          simp only [perform, act, onCopy]
          split
          · exact .closes copy
          · exact absent _ ⟨rfl, rfl, rfl, rfl⟩
      | send copy bytes =>
          simp only [perform, act, onCopy]
          split
          · exact .sends copy bytes
          · exact absent _ ⟨rfl, rfl, rfl, rfl⟩
      | copyAs copy name =>
          simp only [perform, act, onCopy]
          split
          · exact .aside _ ⟨rfl, rfl, rfl, rfl⟩
          · exact absent _ ⟨rfl, rfl, rfl, rfl⟩
      | drop copy => exact .aside _ ⟨rfl, rfl, rfl, rfl⟩
      | dropQueue => exact .dropsQueue
      | receive => exact .receives
      | wait copy name =>
          simp only [perform, act, onCopy]
          split
          · exact .waits copy name
          · exact absent _ ⟨rfl, rfl, rfl, rfl⟩

/-! ## What the state tells of its history -/

variable {state before after : Handles} {past : History} {entry : Event × HandleReply}

theorem closed_concat (past : History) (entry : Event × HandleReply) :
    closed (past ++ [entry]) = (closed past || isClosing entry) := by
  simp [closed]

theorem queueDropped_concat (past : History) (entry : Event × HandleReply) :
    queueDropped (past ++ [entry]) = (queueDropped past || isQueueDrop entry) := by
  simp [queueDropped]

theorem accepted_concat (past : History) (entry : Event × HandleReply) :
    accepted (past ++ [entry]) = accepted past ++ (accepted? entry).toList := by
  rw [accepted, List.filterMap_append]
  cases told : accepted? entry <;> simp [accepted, told]

theorem received_concat (past : History) (entry : Event × HandleReply) :
    received (past ++ [entry]) = received past ++ (received? entry).toList := by
  rw [received, List.filterMap_append]
  cases told : received? entry <;> simp [received, told]

/-- A waiting task is done only after a close, and it has not seen any close before it slept. -/
structure Honest (state : Handles) (stage : Waiting) : Prop where
  done : stage = .done → state.handle.closed = true
  asleep : ∀ seen, stage = .sleeps seen → seen = 0

/-- What the close signal and the waiting tasks tell. -/
structure Signals (state : Handles) (past : History) : Prop where
  closed : state.handle.closed = Handles.closed past
  closings : state.closings = 0 ↔ state.handle.closed = false
  waiters : ∀ waiter ∈ state.waiters, state.Honest waiter.stage

/-- What the queue tells. -/
structure Queues (queue : Option (List Bytes)) (past : History) : Prop where
  dropped : queue.isNone = queueDropped past
  queued : ∀ queued, queue = some queued → accepted past = received past ++ queued
  inOrder : received past <+: accepted past

structure Tells (state : Handles) (past : History) : Prop where
  signals : state.Signals past
  queues : Queues state.handle.queue past

theorem tells_initial (name : String) : (initial name).Tells [] where
  signals := ⟨rfl, ⟨fun _ => rfl, fun _ => rfl⟩, nofun⟩
  queues := by
    refine ⟨rfl, ?_, List.prefix_rfl⟩
    intro queued same
    cases same
    rfl

/-! ### The signal -/

/-- A task that waits holds a copy of the handle itself, so that only a close can wake it. -/
theorem Honest.proceed {stage : Waiting} (honest : state.Honest stage)
    (closings : state.closings = 0 ↔ state.handle.closed = false)
    (held : stage ≠ .done → state.isHeld = true) : state.Honest (state.proceed stage) := by
  cases stage with
  | looks =>
      simp only [Handles.proceed]
      split
      · rename_i closed
        exact ⟨fun _ => closed, nofun⟩
      · rename_i unclosed
        refine ⟨nofun, ?_⟩
        rintro seen ⟨⟩
        exact closings.mpr (Bool.not_eq_true _ ▸ unclosed)
  | sleeps seen =>
      simp only [Handles.proceed, held nofun, if_true]
      split
      · exact ⟨nofun, nofun⟩
      · exact honest
  | done => exact honest

/-- Nobody closes a copy. -/
theorem Signals.quiet (signals : before.Signals past) (quiet : isClosing entry = false)
    (closed : after.handle.closed = before.handle.closed)
    (closings : after.closings = before.closings)
    (waiters : ∀ waiter ∈ after.waiters, before.Honest waiter.stage) :
    after.Signals (past ++ [entry]) where
  closed := by rw [closed, closed_concat, quiet, Bool.or_false, signals.closed]
  closings := by rw [closings, closed, signals.closings]
  waiters := by
    intro waiter member
    obtain ⟨done, asleep⟩ := waiters waiter member
    exact ⟨fun finished => closed.trans (done finished), asleep⟩

theorem Signals.closes (signals : before.Signals past) (copy : String) :
    ({ before with handle := before.handle.close.1, closings := before.closings + 1 } :
      Handles).Signals (past ++ [(.acts (.close copy), .flag before.handle.isOpen)]) where
  closed := by
    rw [closed_concat]
    exact (Bool.or_true _).symm
  closings := ⟨nofun, nofun⟩
  waiters := fun waiter member => ⟨fun _ => rfl, (signals.waiters waiter member).asleep⟩

theorem isHeld_of_waiter {waiter : Waiter} (member : waiter ∈ state.waiters)
    (waits : waiter.stage ≠ .done) : state.isHeld = true := by
  rw [isHeld, Bool.or_eq_true]
  exact .inr (List.any_eq_true.mpr ⟨waiter, member, bne_iff_ne.mpr waits⟩)

theorem Signals.honest_resume (signals : before.Signals past) (number : Nat) :
    ∀ waiter ∈ (before.resume number).waiters, before.Honest waiter.stage := by
  intro waiter member
  obtain ⟨position, found⟩ := List.mem_iff_getElem?.mp member
  rw [resume, List.getElem?_modify] at found
  obtain ⟨earlier, there, same⟩ := Option.map_eq_some_iff.mp found
  have listed := List.mem_of_getElem? there
  have honest := signals.waiters earlier listed
  split at same
  · subst same
    exact honest.proceed signals.closings (isHeld_of_waiter listed)
  · subst same
    exact honest

/-! ### The queue -/

theorem Queues.quiet {queue : Option (List Bytes)} (queues : Queues queue past)
    (drop : isQueueDrop entry = false) (unsent : accepted? entry = none)
    (unheard : received? entry = none) : Queues queue (past ++ [entry]) where
  dropped := by rw [queueDropped_concat, drop, Bool.or_false, queues.dropped]
  queued := by
    rw [accepted_concat, received_concat, unsent, unheard, Option.toList_none, List.append_nil,
      List.append_nil]
    exact queues.queued
  inOrder := by
    rw [accepted_concat, received_concat, unsent, unheard, Option.toList_none, List.append_nil,
      List.append_nil]
    exact queues.inOrder

theorem Queues.takes {queued : List Bytes} (queues : Queues (some queued) past) (copy : String)
    (bytes : Bytes) :
    Queues (some (queued ++ [bytes])) (past ++ [(.acts (.send copy bytes), .flag true)]) := by
  have taken : accepted (past ++ [(.acts (.send copy bytes), .flag true)]) =
      accepted past ++ [bytes] := accepted_concat past _
  have unheard : received (past ++ [(.acts (.send copy bytes), .flag true)]) = received past :=
    (received_concat past _).trans (List.append_nil _)
  constructor
  · rw [queueDropped_concat, ← queues.dropped]
    rfl
  · rintro later ⟨⟩
    rw [taken, unheard, queues.queued queued rfl, List.append_assoc]
  · rw [taken, unheard]
    exact queues.inOrder.trans (List.prefix_append _ _)

theorem Queues.gives {first : Bytes} {rest : List Bytes}
    (queues : Queues (some (first :: rest)) past) :
    Queues (some rest) (past ++ [(.acts .receive, .received first)]) := by
  have heard : received (past ++ [(.acts .receive, .received first)]) =
      received past ++ [first] := received_concat past _
  have unsent : accepted (past ++ [(.acts .receive, .received first)]) = accepted past :=
    (accepted_concat past _).trans (List.append_nil _)
  have same := queues.queued _ rfl
  constructor
  · rw [queueDropped_concat, ← queues.dropped]
    rfl
  · rintro later ⟨⟩
    rw [heard, unsent, same, List.append_assoc, List.singleton_append]
  · rw [heard, unsent, same]
    exact (List.prefix_append_right_inj _).mpr (List.prefix_append [first] rest)

theorem Queues.ends {queue : Option (List Bytes)} (queues : Queues queue past) :
    Queues none (past ++ [(.acts .dropQueue, .flag queue.isSome)]) where
  dropped := by
    rw [queueDropped_concat, ← queues.dropped]
    cases queue <;> rfl
  queued := nofun
  inOrder := by
    rw [accepted_concat, received_concat]
    simpa [accepted?, received?] using queues.inOrder

/-! ### Events -/

/-- An event that tells nothing changes neither the handle nor what the history tells. -/
theorem Tells.tacit (tells : before.Tells past) (tacit : Tacit entry)
    (handle : after.handle = before.handle) (closings : after.closings = before.closings)
    (waiters : ∀ waiter ∈ after.waiters, before.Honest waiter.stage) :
    after.Tells (past ++ [entry]) where
  signals := tells.signals.quiet tacit.closing (congrArg Handle.closed handle) closings waiters
  queues := handle ▸ tells.queues.quiet tacit.drop tacit.accepted tacit.received

theorem Tells.sends (tells : before.Tells past) (copy : String) (bytes : Bytes) :
    ({ before with handle := (before.handle.send bytes).1 } : Handles).Tells
      (past ++ [(.acts (.send copy bytes), .flag (before.handle.send bytes).2)]) := by
  obtain ⟨signals, queues⟩ := tells
  unfold Handle.send
  split
  · exact ⟨signals.quiet rfl rfl rfl signals.waiters, queues.quiet rfl rfl rfl⟩
  · split
    · exact ⟨signals.quiet rfl rfl rfl signals.waiters, queues.quiet rfl rfl rfl⟩
    · rename_i queued there
      rw [there] at queues
      exact ⟨signals.quiet rfl rfl rfl signals.waiters, queues.takes copy bytes⟩

theorem Tells.receives (tells : before.Tells past) :
    ({ before with handle := before.handle.receive.1 } : Handles).Tells
      (past ++ [(.acts .receive, before.receiveReply)]) := by
  have idle : ∀ reply, received? (.acts .receive, reply) = none →
      Tacit (.acts .receive, reply) := fun reply silent => ⟨rfl, rfl, rfl, silent⟩
  unfold Handle.receive receiveReply
  cases there : before.handle.queue with
  | none => exact tells.tacit (idle _ rfl) rfl rfl tells.signals.waiters
  | some queued =>
      cases queued with
      | nil =>
          dsimp only
          split <;> exact tells.tacit (idle _ rfl) rfl rfl tells.signals.waiters
      | cons first rest =>
          obtain ⟨signals, queues⟩ := tells
          rw [there] at queues
          exact ⟨signals.quiet rfl rfl rfl signals.waiters, queues.gives⟩

theorem Tells.perform (tells : state.Tells past) (event : Event) :
    (state.perform event).1.Tells (past ++ [(event, (state.perform event).2)]) := by
  have occurs := state.occurs_perform event
  generalize state.perform event = result at occurs ⊢
  have signals := tells.signals
  cases occurs with
  | aside copies tacit => exact tells.tacit tacit rfl rfl signals.waiters
  | closes copy => exact ⟨signals.closes copy, tells.queues.quiet rfl rfl rfl⟩
  | sends copy bytes => exact tells.sends copy bytes
  | dropsQueue => exact ⟨signals.quiet rfl rfl rfl signals.waiters, tells.queues.ends⟩
  | receives => exact tells.receives
  | waits copy name =>
      refine tells.tacit ⟨rfl, rfl, rfl, rfl⟩ rfl rfl ?_
      intro waiter member
      cases List.mem_append.mp member with
      | inl old => exact signals.waiters waiter old
      | inr new =>
          cases List.mem_singleton.mp new
          exact ⟨nofun, nofun⟩
  | resumes number =>
      exact tells.tacit ⟨rfl, rfl, rfl, rfl⟩ rfl rfl (signals.honest_resume number)

theorem Tells.course (tells : state.Tells past) (events : List Event) :
    (state.course events).Tells (past ++ state.history events) := by
  induction events generalizing state past with
  | nil =>
      rw [history, List.append_nil]
      exact tells
  | cons event rest ih =>
      have next := ih (tells.perform event)
      rwa [List.append_assoc] at next

theorem tells_course_initial (name : String) (events : List Event) :
    ((initial name).course events).Tells ((initial name).history events) :=
  (tells_initial name).course events

/-! ## Replies -/

theorem Tells.isOpen_reply (tells : state.Tells past) {copy : String} (there : copy ∈ state.copies) :
    (state.act (.isOpen copy)).2 = .flag !Handles.closed past := by
  simp only [act, onCopy, if_pos there, Handle.isOpen, tells.signals.closed]

theorem Tells.close_reply (tells : state.Tells past) {copy : String} (there : copy ∈ state.copies) :
    (state.act (.close copy)).2 = .flag !Handles.closed past := by
  simp only [act, onCopy, if_pos there, Handle.close, Handle.isOpen, tells.signals.closed]

theorem Tells.send_reply (tells : state.Tells past) {copy : String} (there : copy ∈ state.copies)
    (bytes : Bytes) :
    (state.act (.send copy bytes)).2 =
      .flag (!Handles.closed past && !queueDropped past) := by
  simp only [act, onCopy, if_pos there, Handle.send, ← tells.signals.closed, ← tells.queues.dropped]
  cases state.handle.closed <;> cases state.handle.queue <;> rfl

/-- While the queue lives, it hands out what was taken and not yet handed out, and what was sent
first comes first. -/
theorem Tells.receive_reply (tells : state.Tells past) (lives : queueDropped past = false)
    (bytes : Bytes) :
    (state.act .receive).2 = .received bytes ↔
      (accepted past)[(received past).length]? = some bytes := by
  rw [← tells.queues.dropped, Option.isNone_eq_false_iff, Option.isSome_iff_exists] at lives
  obtain ⟨queued, there⟩ := lives
  rw [tells.queues.queued queued there, List.getElem?_append_right (Nat.le_refl _), Nat.sub_self, act,
    receiveReply, there]
  cases queued with
  | nil =>
      dsimp only
      split <;> exact ⟨nofun, nofun⟩
  | cons first rest => simp

theorem Tells.received_drained (tells : state.Tells past) {queued : List Bytes}
    (there : state.handle.queue = some queued) :
    received (past ++ state.history (List.replicate queued.length (.acts .receive))) =
      accepted past := by
  induction queued generalizing state past with
  | nil => simpa [history] using (tells.queues.queued [] there).symm
  | cons first rest ih =>
      have reply : (state.perform (.acts .receive)).2 = .received first := by
        simp only [Handles.perform, act, receiveReply, there]
      have left : (state.perform (.acts .receive)).1.handle.queue = some rest := by
        simp only [Handles.perform, act, Handle.receive, there]
      have drained := ih (tells.perform (.acts .receive)) left
      rw [accepted_concat] at drained
      rw [List.length_cons, List.replicate_succ, history, ← List.singleton_append,
        ← List.append_assoc]
      exact drained.trans (List.append_nil _)

/-! ## Waiting tasks -/

/-- The steps that a waiting task still takes once the signal has been given. -/
def remaining : Waiting → Nat
  | .looks => 1
  | .sleeps _ => 2
  | .done => 0

theorem remaining_proceed (tells : state.Tells past) (closed : Handles.closed past = true)
    {stage : Waiting} (honest : state.Honest stage) :
    remaining (state.proceed stage) = remaining stage - 1 := by
  rw [← tells.signals.closed] at closed
  cases stage with
  | looks => rw [proceed, if_pos closed]; rfl
  | sleeps seen =>
      have given : state.closings ≠ 0 := by
        rw [Ne, tells.signals.closings, closed]
        exact nofun
      rw [proceed, honest.asleep seen rfl, if_pos given.symm]
      rfl
  | done => rfl

/-- Only its own steps move a waiting task. -/
theorem waiter_perform (event : Event) {number : Nat} {waiter : Waiter}
    (found : state.waiters[number]? = some waiter) :
    (state.perform event).1.waiters[number]? =
      some { waiter with
        stage := if event = .resumes number then state.proceed waiter.stage else waiter.stage } := by
  have occurs := state.occurs_perform event
  generalize state.perform event = result at occurs ⊢
  cases occurs with
  | aside copies tacit => exact found
  | closes copy => exact found
  | sends copy bytes => exact found
  | dropsQueue => exact found
  | receives => exact found
  | waits copy name =>
      rw [if_neg nofun]
      exact (List.getElem?_append_left (List.getElem?_eq_some_iff.mp found).1).trans found
  | resumes other =>
      simp only [resume, List.getElem?_modify, found, Event.resumes.injEq]
      split <;> rfl

theorem remaining_course (tells : state.Tells past) (closed : Handles.closed past = true)
    {number : Nat} {waiter : Waiter} (found : state.waiters[number]? = some waiter)
    (later : List Event) :
    ∃ last, (state.course later).waiters[number]? = some last ∧
      remaining last.stage = remaining waiter.stage - later.count (.resumes number) := by
  induction later generalizing state past waiter with
  | nil => exact ⟨waiter, found, rfl⟩
  | cons event rest ih =>
      have stillClosed : Handles.closed (past ++ [(event, (state.perform event).2)]) = true := by
        rw [closed_concat, closed, Bool.true_or]
      obtain ⟨last, reached, left⟩ := ih (tells.perform event) stillClosed (waiter_perform event found)
      refine ⟨last, reached, left.trans ?_⟩
      rw [List.count_cons]
      split
      · have honest := tells.signals.waiters waiter (List.mem_of_getElem? found)
        simp only [‹event = .resumes number›, remaining_proceed tells closed honest, beq_self_eq_true,
          if_true]
        omega
      · simp only [beq_iff_eq, ‹¬event = .resumes number›, if_false, Nat.add_zero]

theorem remaining_le (stage : Waiting) : remaining stage ≤ 2 := by
  cases stage with
  | looks => exact Nat.le_succ 1
  | sleeps seen => exact Nat.le_refl 2
  | done => exact Nat.zero_le 2

theorem done_of_remaining {stage : Waiting} (none : remaining stage = 0) : stage = .done := by
  cases stage with
  | done => rfl
  | looks => cases none
  | sleeps seen => cases none

/-- Once the signal has been given, two of its own steps are enough for a waiting task. -/
theorem done_course (tells : state.Tells past) (closed : Handles.closed past = true) {number : Nat}
    {waiter : Waiter} (found : state.waiters[number]? = some waiter) {later : List Event}
    (twice : 2 ≤ later.count (.resumes number)) :
    ∃ last, (state.course later).waiters[number]? = some last ∧ last.stage = .done := by
  obtain ⟨last, reached, left⟩ := remaining_course tells closed found later
  have few := remaining_le waiter.stage
  exact ⟨last, reached, done_of_remaining (by omega)⟩

/-! ## Steps of a script -/

/-- The steps that waiting tasks take after each step of a script. -/
def turns (waiters : Nat) : List Event :=
  (List.range waiters).flatMap fun number => [.resumes number, .resumes number]

theorem settle_eq_course (state : Handles) :
    state.settle = state.course (turns state.waiters.length) := by
  rw [settle, course, turns, List.foldl_flatMap]
  rfl

theorem two_le_count_turns {number waiters : Nat} (bound : number < waiters) :
    2 ≤ (turns waiters).count (.resumes number) := by
  obtain ⟨early, late, same⟩ := List.append_of_mem (List.mem_range.mpr bound)
  rw [turns, same, List.flatMap_append, List.flatMap_cons, List.count_append, List.count_append]
  simp only [List.count_cons_self, List.count_nil]
  omega

theorem closed_history_resumes (state : Handles) {events : List Event}
    (own : ∀ event ∈ events, ∃ number, event = .resumes number) :
    closed (state.history events) = false := by
  induction events generalizing state with
  | nil => rfl
  | cons event rest ih =>
      obtain ⟨number, rfl⟩ := own event List.mem_cons_self
      exact ih _ fun other listed => own other (List.mem_cons_of_mem _ listed)

theorem resumes_of_mem_turns {waiters : Nat} {event : Event} (member : event ∈ turns waiters) :
    ∃ number, event = .resumes number := by
  obtain ⟨number, -, listed⟩ := List.mem_flatMap.mp member
  exact ⟨number, by simpa using listed⟩

theorem length_waiters_settle (state : Handles) :
    state.settle.waiters.length = state.waiters.length := by
  unfold settle
  induction List.range state.waiters.length using List.reverseRecOn with
  | nil => rfl
  | append_singleton early number ih =>
      rw [List.foldl_append]
      simp only [List.foldl_cons, List.foldl_nil, resume, List.length_modify]
      exact ih

theorem Tells.step (tells : state.Tells past) (next : HandleStep) :
    ∃ quiet : History, Handles.closed quiet = false ∧
      (state.step next).1.Tells (past ++ [(.acts next, (state.act next).2)] ++ quiet) := by
  let turns := turns (state.act next).1.waiters.length
  refine ⟨(state.act next).1.history turns,
    closed_history_resumes _ fun _ => resumes_of_mem_turns, ?_⟩
  have settled := (tells.perform (.acts next)).course turns
  change ((state.act next).1.course _).Tells _ at settled
  rwa [← settle_eq_course] at settled

/-- After each step of a script the waiting tasks are done if a copy has been closed, and none is
otherwise. -/
theorem done_step_iff (tells : state.Tells past) (next : HandleStep) {waiter : Waiter}
    (member : waiter ∈ (state.step next).1.waiters) :
    waiter.stage = .done ↔
      closed (past ++ [(.acts next, (state.act next).2)]) = true := by
  constructor
  · intro done
    obtain ⟨quiet, silent, settled⟩ := tells.step next
    have given := (settled.signals.waiters waiter member).done done
    rwa [settled.signals.closed, Handles.closed, List.any_append, ← Handles.closed, ← Handles.closed, silent,
      Bool.or_false] at given
  · intro given
    change waiter ∈ (state.act next).1.settle.waiters at member
    obtain ⟨number, found⟩ := List.mem_iff_getElem?.mp member
    have bound := (List.getElem?_eq_some_iff.mp found).1
    rw [length_waiters_settle] at bound
    obtain ⟨last, reached, done⟩ := done_course (tells.perform (.acts next)) given
      (List.getElem?_eq_getElem bound) (two_le_count_turns bound)
    change ((state.act next).1.course _).waiters[number]? = _ at reached
    rw [← settle_eq_course, found] at reached
    cases reached
    exact done

/-! ## The promise -/

/-- Whatever happened so far on any number of copies: a copy is open until one is closed, the first
close and no other is told that it was the first, and a byte string is taken exactly before that and
while the queue lives. The queue hands out what was taken, in the order in which it was sent, each
once, and while it lives all of it, also after the close. Only a close lets a waiting task finish,
and after a close two of its own steps are enough, whatever else happens; so between the steps of a
script either all waiting tasks are done or none. -/
theorem replies_follow_history (name : String) (events : List Event) :
    let state := (initial name).course events
    let past := (initial name).history events
    (∀ copy ∈ state.copies,
      (state.act (.isOpen copy)).2 = .flag (!closed past) ∧
      (state.act (.close copy)).2 = .flag (!closed past) ∧
      ∀ bytes, (state.act (.send copy bytes)).2 = .flag (!closed past && !queueDropped past)) ∧
    received past <+: accepted past ∧
    (queueDropped past = false →
      (∀ bytes, (state.act .receive).2 = .received bytes ↔
        (accepted past)[(received past).length]? = some bytes) ∧
      ∃ times, received ((initial name).history (events ++ List.replicate times (.acts .receive))) =
        accepted past) ∧
    (∀ waiter ∈ state.waiters, waiter.stage = .done → closed past = true) ∧
    (closed past = true →
      ∀ number waiter, state.waiters[number]? = some waiter →
        ∀ later : List Event, 2 ≤ later.count (.resumes number) →
          ∃ last, (state.course later).waiters[number]? = some last ∧ last.stage = .done) ∧
    ∀ next, ∀ waiter ∈ (state.step next).1.waiters,
      (waiter.stage = .done ↔ closed (past ++ [(.acts next, (state.act next).2)]) = true) := by
  intro state past
  have tells : state.Tells past := tells_course_initial name events
  refine ⟨?_, tells.queues.inOrder, ?_, ?_, ?_, ?_⟩
  · intro copy there
    exact ⟨tells.isOpen_reply there, tells.close_reply there, tells.send_reply there⟩
  · intro lives
    refine ⟨tells.receive_reply lives, ?_⟩
    obtain ⟨queued, there⟩ := Option.isSome_iff_exists.mp
      (Option.isNone_eq_false_iff.mp (tells.queues.dropped.trans lives))
    refine ⟨queued.length, ?_⟩
    rw [history_append]
    exact tells.received_drained there
  · intro waiter member done
    rw [← tells.signals.closed]
    exact (tells.signals.waiters waiter member).done done
  · intro closed number waiter found later twice
    exact done_course tells closed found twice
  · intro next waiter member
    exact done_step_iff tells next member

/-- Two copies and a task that waits; two byte strings are sent, one copy is dropped, and the other is
closed while one byte string is still queued. -/
theorem replies_follow_history_after_close :
    let events : List Event :=
      [.acts (.copyAs "first" "second"), .acts (.wait "second" "task"), .resumes 0,
        .acts (.send "first" [1]), .acts (.send "second" [2]), .acts (.drop "first"),
        .acts .receive, .acts (.close "second")]
    let state := (initial "first").course events
    (state.act (.close "second")).2 = .flag false ∧
      (state.act (.send "second" [3])).2 = .flag false ∧
      (state.act .receive).2 = .received [2] ∧
      ∃ last, (state.course [.resumes 0, .resumes 0]).waiters[0]? = some last ∧
        last.stage = .done := by
  intro events state
  have there : "second" ∈ state.copies := by decide +kernel
  have given : closed ((initial "first").history events) = true := by decide +kernel
  have lives : queueDropped ((initial "first").history events) = false := by decide +kernel
  obtain ⟨answers, -, queue, -, wakes, -⟩ := replies_follow_history "first" events
  have closes := (answers "second" there).2.1
  have sends := (answers "second" there).2.2 [3]
  rw [given] at closes sends
  refine ⟨closes, sends, ((queue lives).1 [2]).mpr (by decide +kernel), ?_⟩
  exact wakes given 0 ⟨"task", .sleeps 0⟩ (by decide +kernel) _ (by decide +kernel)

end PeerMesh.Scenario.Handles
