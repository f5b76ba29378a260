import PeerMesh.Proofs.Hello.Line
import PeerMesh.Proofs.Node.Opening

/-!
# What is said on a connection

On each connection the hello exchange asks for at most one name. It says its line when the handshake
is started on the connection, at most once, and as the answer to the first line that it hears, at most
once. Where the start comes before the answer, there is none; so both are said only where the first
line is answered while the start is still owed. And what is said is one line on the other side only if
the identifier of the node does not break it. After the task of the connection has ended, its slot is
not used again.
-/

set_option autoImplicit false

namespace PeerMesh

namespace Node

variable {node : Node} {slot : Slot} {bytes : Bytes}

/-! ## Greetings -/

theorem progress_of_greeting {name : String} {initiated : Bool}
    (greeted : node.greeting? slot bytes = some (name, initiated)) (moment : Nat) :
    (node.progress slot).heard = false ∧ initiated = (node.progress slot).initiated ∧
      ((node.listened slot bytes moment).progress slot).heard = true := by
  obtain ⟨hello, exchange, reception⟩ := greeting?_eq_some_iff.mp greeted
  obtain ⟨unheard, spoke, settled⟩ := Hello.eq_of_greeted reception
  simp only [progress, listened, exchange, Option.map_some, Option.elim_some, settled]
  exact ⟨unheard, spoke, trivial⟩

theorem unheard_of_listened {moment : Nat}
    (unheard : ((node.listened slot bytes moment).progress slot).heard = false) :
    (node.progress slot).heard = false ∧
      ((node.listened slot bytes moment).progress slot).initiated =
        (node.progress slot).initiated := by
  cases exchange : node.hello with
  | none => simp [progress, listened, exchange, Hello.Progress.none]
  | some hello =>
      simp only [progress, listened, exchange, Option.map_some, Option.elim_some] at unheard ⊢
      exact Hello.unheard_of_receive unheard

/-- Whether the application sends. -/
def Act.isSend : Act → Bool
  | .sends _ _ => true
  | _ => false

namespace Opening

/-! ## What is said -/

/-- What a stride puts at the end of the queue of the connection under `slot`. -/
def added (slot : Slot) (before : Opening) (stride : Stride) : List Bytes :=
  ((before.step stride).situation.node.queued slot).drop (before.situation.node.queued slot).length

/-- What the hello exchange says as the handshake is started. -/
def opened (slot : Slot) (before : Opening) : Stride → List Bytes
  | .acts _ => []
  | .starts started => before.added slot (.starts started)

/-- What the hello exchange says otherwise: whatever is added, except by the application. -/
def answered (slot : Slot) (before : Opening) : Stride → List Bytes
  | .acts act => if act.isSend then [] else before.added slot (.acts act)
  | .starts _ => []

/-- What the hello exchange answers while the start of the handshake is owed. -/
def answeredEarly (slot : Slot) (before : Opening) (stride : Stride) : List Bytes :=
  if slot ∈ before.owed then before.answered slot stride else []

def said (slot : Slot) (before : Opening) (stride : Stride) : List Bytes :=
  before.opened slot stride ++ before.answered slot stride

/-- The exchange may say its line when a handshake that is owed is started, and when bytes that it has
not spoken before have given the connection a name. -/
inductive MaySpeak (before : Opening) (slot : Slot) : Stride → Prop
  | starts (owed : slot ∈ before.owed) : MaySpeak before slot (.starts slot)
  | answers {around : Surroundings} {bytes : Bytes} {moment : Nat}
      (answers : before.situation.node.Answers around slot bytes moment) :
      MaySpeak before slot (.acts (.receives around slot bytes moment))

variable {before : Opening}

theorem added_of_queued {stride : Stride} {more : List Bytes}
    (queued : (before.step stride).situation.node.queued slot =
      before.situation.node.queued slot ++ more) : before.added slot stride = more := by
  rw [added, queued, List.drop_left]

theorem added_of_length {stride : Stride}
    (shorter : ((before.step stride).situation.node.queued slot).length ≤
      (before.situation.node.queued slot).length) : before.added slot stride = [] := by
  rw [added, List.drop_eq_nil_of_le shorter]

theorem said_of_added {stride : Stride} (unadded : before.added slot stride = []) :
    before.said slot stride = [] := by
  cases stride with
  | acts act => rw [said, opened, answered, unadded, ite_self, List.append_nil]
  | starts started => rw [said, opened, answered, unadded, List.append_nil]

theorem said_of_undisturbed {stride : Stride}
    (undisturbed : Undisturbed before.situation.node (before.step stride).situation.node slot) :
    before.said slot stride = [] :=
  said_of_added (added_of_length (Nat.le_of_eq (by rw [undisturbed.queued])))

theorem said_of_tail {stride : Stride}
    (queued : (before.step stride).situation.node.queued slot =
      (before.situation.node.queued slot).tail) : before.said slot stride = [] := by
  refine said_of_added (added_of_length ?_)
  rw [queued, List.length_tail]
  exact Nat.sub_le _ _

theorem said_of_unlinked {stride : Stride}
    (unlinked : (before.step stride).situation.node.link? slot = none) :
    before.said slot stride = [] := by
  refine said_of_added (added_of_length ?_)
  rw [queued, unlinked]
  exact Nat.zero_le _

theorem queued_of_opens {node later : Node} (opens : Opens node later slot false) :
    later.queued slot = [] := by
  rcases opens.queued with nothing | ⟨pending, -⟩
  · exact nothing
  · cases pending

theorem said_of_opens {stride : Stride}
    (opens : Opens before.situation.node (before.step stride).situation.node slot false) :
    before.said slot stride = [] := by
  refine said_of_added (added_of_length ?_)
  rw [queued_of_opens opens]
  exact Nat.zero_le _

theorem said_of_started {line : List Bytes}
    (queued : (before.step (.starts slot)).situation.node.queued slot =
      before.situation.node.queued slot ++ line) : before.said slot (.starts slot) = line := by
  rw [said, opened, answered, added_of_queued queued, List.append_nil]

theorem said_of_heard {around : Surroundings} {moment : Nat} {answer : List Bytes}
    (queued : (before.step (.acts (.receives around slot bytes moment))).situation.node.queued slot =
      before.situation.node.queued slot ++ answer) :
    before.said slot (.acts (.receives around slot bytes moment)) = answer := by
  rw [said, opened, answered, added_of_queued queued]
  rfl

theorem maySpeak_of_said (sound : before.Sound) {stride : Stride}
    (spoke : before.said slot stride ≠ []) : before.MaySpeak slot stride := by
  have pass := pass_step sound stride slot
  generalize result : before.step stride = after at pass
  cases pass with
  | elsewhere undisturbed =>
      rw [← result] at undisturbed
      exact absurd (said_of_undisturbed undisturbed) spoke
  | opened born next opens =>
      rw [← result] at opens
      exact absurd (said_of_opens opens) spoke
  | started owed => exact .starts owed
  | heard owed linked hello queued =>
      obtain ⟨answer, queued, nothing | ⟨-, answers⟩⟩ := queued
      · rw [← result] at queued
        exact absurd ((said_of_heard queued).trans nothing) spoke
      · exact .answers answers
  | sent => exact absurd rfl spoke
  | wrote owed linked progress queued =>
      rw [← result] at queued
      exact absurd (said_of_tail queued) spoke
  | ended owed linked unlinked =>
      rw [← result] at unlinked
      exact absurd (said_of_unlinked unlinked) spoke

/-! ## How far the exchange has got -/

/-- How far the exchange on a connection has got when it has asked for names, and said `first` as it
started the handshake and `answers` otherwise, of these `early` while it was to start. -/
structure Conversation (opening : Opening) (slot : Slot) (line : Bytes) (names : List String)
    (first answers early : List Bytes) : Prop where
  askedOnce : names.length ≤ 1
  openedOnce : first <+: [line]
  answeredOnce : answers <+: [line]
  timely : answers = early ∨ early = [] ∧ first = [] ∧ slot ∉ opening.owed
  owing : slot ∈ opening.owed → first = []
  unopened : opening.situation.node.table.registry.lastSlot < slot.number →
    names = [] ∧ first = [] ∧ answers = [] ∧ opening.situation.node.progress slot = .none
  unheard : (opening.situation.node.link? slot).isSome = true →
    (opening.situation.node.progress slot).heard = false →
      names = [] ∧ answers = [] ∧ (slot ∈ opening.owed ∨ first = [] ∨
        (opening.situation.node.progress slot).initiated = true)

variable {line : Bytes} {names : List String} {first answers early : List Bytes} {stride : Stride}

theorem Conversation.early_nil
    (talk : before.Conversation slot line names first answers early) (unanswered : answers = []) :
    early = [] := by
  rcases talk.timely with same | ⟨nothing, -⟩
  · rw [← same, unanswered]
  · exact nothing

/-- The conversation after a stride. -/
def Conversation.After (before : Opening) (slot : Slot) (line : Bytes) (names : List String)
    (first answers early : List Bytes) (stride : Stride) : Prop :=
  (before.step stride).Conversation slot line (names ++ before.asked slot stride)
    (first ++ before.opened slot stride) (answers ++ before.answered slot stride)
    (early ++ before.answeredEarly slot stride)

/-- Where nothing is asked and nothing said, the lists are what they were. -/
theorem Conversation.after_of_silent (unasked : before.asked slot stride = [])
    (unsaid : before.said slot stride = [])
    (talk : (before.step stride).Conversation slot line names first answers early) :
    Conversation.After before slot line names first answers early stride := by
  obtain ⟨unopened, unanswered⟩ := List.append_eq_nil_iff.mp unsaid
  rw [After, unasked, unopened, answeredEarly, unanswered, ite_self]
  simpa only [List.append_nil] using talk

/-- A stride that neither asks nor speaks leaves the conversation where it is. -/
theorem Conversation.silent (talk : before.Conversation slot line names first answers early)
    (sound : before.Sound) (unasked : before.asked slot stride = [])
    (unsaid : before.said slot stride = [])
    (owed : slot ∈ (before.step stride).owed ↔ slot ∈ before.owed)
    (progress : (before.step stride).situation.node.progress slot =
      before.situation.node.progress slot)
    (linked : ((before.step stride).situation.node.link? slot).isSome =
      (before.situation.node.link? slot).isSome) :
    Conversation.After before slot line names first answers early stride := by
  refine .after_of_silent unasked unsaid
    ⟨talk.askedOnce, talk.openedOnce, talk.answeredOnce, ?_, ?_, ?_, ?_⟩
  · rw [owed]
    exact talk.timely
  · rw [owed]
    exact talk.owing
  · intro unissued
    rw [progress]
    exact talk.unopened (Nat.lt_of_le_of_lt (lastSlot_le_step sound stride) unissued)
  · rw [progress, linked, owed]
    exact talk.unheard

/-- A new connection has nothing behind it. -/
theorem Conversation.opened (talk : before.Conversation slot line names first answers early)
    (next : slot = before.situation.node.nextSlot) {act : Act} {address : SocketAddress}
    (born : before.situation.origin? act = some address) (after : (before.step (.acts act)).Sound)
    (opens : Opens before.situation.node (before.step (.acts act)).situation.node slot false) :
    Conversation.After before slot line names first answers early (.acts act) := by
  have unissued : before.situation.node.table.registry.lastSlot < slot.number := by
    rw [next]
    exact Nat.lt_succ_self _
  obtain ⟨rfl, rfl, rfl, silent⟩ := talk.unopened unissued
  obtain rfl := talk.early_nil rfl
  refine .after_of_silent (asked_of_born born).1 (said_of_opens opens)
    ⟨Nat.zero_le _, List.nil_prefix, List.nil_prefix, .inl rfl, fun _ => rfl, ?_, ?_⟩
  · intro later
    exact absurd later (Nat.not_lt.mpr (after.threaded.issued_of_link? opens.linked))
  · exact fun _ _ => ⟨rfl, rfl, .inr (.inl rfl)⟩

/-- The start of the handshake. It is owed no more, so nothing else is said in this way. -/
theorem Conversation.started (talk : before.Conversation slot line names first answers early)
    (sound : before.Sound) (own : line = Hello.line before.situation.node.profile.id)
    (owed : slot ∈ before.owed) (settled : slot ∉ (before.step (.starts slot)).owed)
    (linked : ((before.step (.starts slot)).situation.node.link? slot).isSome =
      (before.situation.node.link? slot).isSome)
    (progress : (before.step (.starts slot)).situation.node.progress slot =
      { before.situation.node.progress slot with
        initiated := ((before.step (.starts slot)).situation.node.progress slot).initiated })
    {spoken : List Bytes}
    (queued : (before.step (.starts slot)).situation.node.queued slot =
      before.situation.node.queued slot ++ spoken)
    (once : spoken = [] ∨ spoken = [Hello.line before.situation.node.profile.id] ∧
      ((before.step (.starts slot)).situation.node.progress slot).initiated = true) :
    Conversation.After before slot line names first answers early (.starts slot) := by
  obtain rfl := talk.owing owed
  have opened : before.opened slot (.starts slot) = spoken := added_of_queued queued
  have unanswered : before.answeredEarly slot (.starts slot) = [] := ite_self _
  have same : answers = early := talk.timely.resolve_right fun ⟨_, _, unowed⟩ => unowed owed
  rw [After, opened, unanswered]
  simp only [asked, answered, List.append_nil, List.nil_append]
  refine ⟨talk.askedOnce, ?_, talk.answeredOnce, .inl same, fun still => absurd still settled, ?_, ?_⟩
  · rcases once with nothing | ⟨whole, -⟩
    · rw [nothing]
      exact List.nil_prefix
    · rw [whole, own]
  · intro unissued
    have issued := sound.issued slot owed
    exact absurd (Nat.lt_of_le_of_lt (lastSlot_le_step sound (.starts slot)) unissued)
      (Nat.not_lt.mpr issued)
  · intro pumped unheard
    rw [progress] at unheard
    rw [linked] at pumped
    obtain ⟨unasked, unanswered, -⟩ := talk.unheard pumped unheard
    exact ⟨unasked, unanswered, .inr (once.imp_right And.right)⟩

/-- Bytes on the connection. A greeting is the last thing that is heard in the conversation. -/
theorem Conversation.heard (talk : before.Conversation slot line names first answers early)
    (sound : before.Sound) (own : line = Hello.line before.situation.node.profile.id)
    {around : Surroundings} {bytes : Bytes} {moment : Nat} {answer : List Bytes}
    (owed : slot ∈ (before.step (.acts (.receives around slot bytes moment))).owed ↔
      slot ∈ before.owed)
    (linked : (before.situation.node.link? slot).isSome = true)
    (hello : (before.step (.acts (.receives around slot bytes moment))).situation.node.hello =
      (before.situation.node.listened slot bytes moment).hello)
    (queued : (before.step (.acts (.receives around slot bytes moment))).situation.node.queued slot =
      before.situation.node.queued slot ++ answer)
    (once : answer = [] ∨ answer = [Hello.line before.situation.node.profile.id] ∧
      before.situation.node.Answers around slot bytes moment) :
    Conversation.After before slot line names first answers early
      (.acts (.receives around slot bytes moment)) := by
  have progress := progress_of_hello hello slot
  have issued := Nat.le_trans (sound.threaded.issued_of_link? linked)
    (lastSlot_le_step sound (.acts (.receives around slot bytes moment)))
  have asked : before.asked slot (.acts (.receives around slot bytes moment)) =
      ((before.situation.node.greeting? slot bytes).map (·.1)).toList := by
    rw [Opening.asked, Situation.asked?, if_pos ⟨rfl, linked⟩]
  have answered : before.answered slot (.acts (.receives around slot bytes moment)) = answer :=
    added_of_queued queued
  rw [After, asked, answeredEarly, answered, Opening.opened, List.append_nil]
  cases greeted : before.situation.node.greeting? slot bytes with
  | none =>
      have unanswered : answer = [] := by
        rcases once with nothing | ⟨-, name, greeting, -⟩
        · exact nothing
        · rw [greeted] at greeting
          cases greeting
      simp only [unanswered, Option.map_none, Option.toList_none, List.append_nil, ite_self]
      refine ⟨talk.askedOnce, talk.openedOnce, talk.answeredOnce, ?_, ?_,
        fun later => absurd later (Nat.not_lt.mpr issued), ?_⟩
      · rw [owed]
        exact talk.timely
      · rw [owed]
        exact talk.owing
      · intro _ unheard
        rw [progress] at unheard ⊢
        obtain ⟨earlier, same⟩ := unheard_of_listened unheard
        rw [same, owed]
        exact talk.unheard linked earlier
  | some greeting =>
      obtain ⟨name, initiated⟩ := greeting
      obtain ⟨unheard, spoke, heard⟩ := progress_of_greeting greeted moment
      obtain ⟨rfl, rfl, unsaid⟩ := talk.unheard linked unheard
      obtain rfl := talk.early_nil rfl
      refine ⟨Nat.le_refl 1, talk.openedOnce, ?_, ?_, ?_,
        fun later => absurd later (Nat.not_lt.mpr issued), ?_⟩
      · rcases once with nothing | ⟨whole, -⟩
        · rw [nothing]
          exact List.nil_prefix
        · rw [whole, own]
          exact List.prefix_rfl
      · by_cases owing : slot ∈ before.owed
        · rw [if_pos owing]
          exact .inl rfl
        · rw [if_neg owing, owed]
          rcases once with nothing | ⟨-, other, greeting, -⟩
          · exact .inl (by rw [nothing])
          · -- an answer is given only where this node has not spoken
            rw [greeted] at greeting
            cases greeting
            rw [← spoke] at unsaid
            refine .inr ⟨rfl, ?_, owing⟩
            simpa [owing] using unsaid
      · rw [owed]
        exact talk.owing
      · intro _ still
        rw [progress, heard] at still
        cases still

theorem Conversation.step (talk : before.Conversation slot line names first answers early)
    (sound : before.Sound) (own : line = Hello.line before.situation.node.profile.id)
    (stride : Stride) : Conversation.After before slot line names first answers early stride := by
  have pass := pass_step sound stride slot
  have later := sound.step stride
  generalize result : before.step stride = after at pass
  cases pass with
  | elsewhere undisturbed owed unasked =>
      rw [← result] at undisturbed owed
      exact talk.silent sound unasked (said_of_undisturbed undisturbed) owed undisturbed.progress
        undisturbed.linked
  | opened born next opens =>
      rw [← result] at opens
      exact talk.opened next born later opens
  | started owed settled linked progress queued =>
      obtain ⟨spoken, queued, once⟩ := queued
      rw [← result] at settled linked progress queued once
      exact talk.started sound own owed settled linked progress queued once
  | heard owed linked hello queued =>
      obtain ⟨answer, queued, once⟩ := queued
      rw [← result] at owed hello queued
      exact talk.heard sound own owed linked hello queued once
  | sent owed linked progress =>
      rw [← result] at owed linked progress
      exact talk.silent sound rfl rfl owed progress linked
  | wrote owed linked progress queued =>
      rw [← result] at owed linked progress queued
      exact talk.silent sound rfl (said_of_tail queued) owed progress linked
  | ended owed linked unlinked progress =>
      rw [← result] at owed unlinked progress
      refine .after_of_silent rfl (said_of_unlinked unlinked)
        ⟨talk.askedOnce, talk.openedOnce, talk.answeredOnce, ?_, ?_, ?_, ?_⟩
      · rw [owed]
        exact talk.timely
      · rw [owed]
        exact talk.owing
      · intro unissued
        obtain ⟨unasked, unopened, unanswered, -⟩ := talk.unopened
          (Nat.lt_of_le_of_lt (lastSlot_le_step sound (.acts (.linkEnds slot))) unissued)
        exact ⟨unasked, unopened, unanswered, progress⟩
      · rw [unlinked]
        exact nofun

theorem conversation_run {start : Situation} (initial : start.Initial) (strides : List Stride)
    (slot : Slot) :
    ((beginning start).run strides).Conversation slot (Hello.line start.node.profile.id)
      (gathered (asked slot) (beginning start) strides)
      (gathered (opened slot) (beginning start) strides)
      (gathered (answered slot) (beginning start) strides)
      (gathered (answeredEarly slot) (beginning start) strides) := by
  induction strides using List.reverseRecOn with
  | nil =>
      obtain ⟨profile, request, moment, fresh⟩ := initial
      refine ⟨Nat.zero_le _, List.nil_prefix, List.nil_prefix, .inl rfl, fun _ => rfl,
        fun _ => ⟨rfl, rfl, rfl, ?_⟩, fun _ _ => ⟨rfl, rfl, .inr (.inl rfl)⟩⟩
      rw [run_nil, beginning, progress, fresh, Mesh.freshNode]
      cases request.hello <;> rfl
  | append_singleton past stride ih =>
      rw [gathered_concat, gathered_concat, gathered_concat, gathered_concat, run_append]
      refine ih.step (sound_run initial past) ?_ stride
      rw [profile_run]

/-! ## What is written -/

/-- Without sends of the application, what has been written and what still waits are the lines that
were said. -/
structure Written (opening : Opening) (slot : Slot) (lines out : List Bytes) : Prop where
  front : out <+: lines
  waits : (opening.situation.node.link? slot).isSome = true →
    out ++ opening.situation.node.queued slot = lines

variable {lines out : List Bytes}

theorem Written.silent (written : before.Written slot lines out) {later : Opening}
    (linked : (later.situation.node.link? slot).isSome = true →
      (before.situation.node.link? slot).isSome = true ∧
        later.situation.node.queued slot = before.situation.node.queued slot) :
    later.Written slot lines out := by
  refine ⟨written.front, ?_⟩
  intro pumped
  obtain ⟨earlier, queued⟩ := linked pumped
  rw [queued]
  exact written.waits earlier

theorem Written.more (written : before.Written slot lines out) {later : Opening}
    {spoken : List Bytes} (linked : (later.situation.node.link? slot).isSome = true →
      (before.situation.node.link? slot).isSome = true)
    (queued : later.situation.node.queued slot = before.situation.node.queued slot ++ spoken) :
    later.Written slot (lines ++ spoken) out := by
  refine ⟨written.front.trans (List.prefix_append lines spoken), ?_⟩
  intro pumped
  rw [queued, ← List.append_assoc, written.waits (linked pumped)]

theorem Written.wrote (written : before.Written slot lines out) {later : Opening}
    (linked : (later.situation.node.link? slot).isSome =
      (before.situation.node.link? slot).isSome)
    (queued : later.situation.node.queued slot = (before.situation.node.queued slot).tail) :
    later.Written slot lines (out ++ (before.situation.node.queued slot).take 1) := by
  have out_tail : ∀ waiting : List Bytes, out ++ waiting.take 1 ++ waiting.tail = out ++ waiting := by
    intro waiting
    rw [List.append_assoc, ← List.drop_one, List.take_append_drop]
  constructor
  · cases search : before.situation.node.link? slot with
    | none =>
        have empty : before.situation.node.queued slot = [] := by
          rw [Node.queued, search]
          rfl
        rw [empty, List.take_nil, List.append_nil]
        exact written.front
    | some link =>
        rw [← written.waits (by rw [search]; rfl), ← out_tail (before.situation.node.queued slot)]
        exact List.prefix_append _ _
  · rw [linked, queued, out_tail]
    exact written.waits

theorem Written.step (written : before.Written slot lines out)
    (unopened : before.situation.node.table.registry.lastSlot < slot.number → lines = [])
    (sound : before.Sound) {stride : Stride}
    (unsent : ∀ bytes, stride ≠ .acts (.sends slot bytes)) :
    (before.step stride).Written slot (lines ++ before.said slot stride)
      (out ++ before.taken slot stride) := by
  have pass := pass_step sound stride slot
  generalize result : before.step stride = after at pass
  cases pass with
  | elsewhere undisturbed owed unasked untaken =>
      have same := undisturbed
      rw [← result] at same
      rw [said_of_undisturbed same, untaken, List.append_nil, List.append_nil]
      refine written.silent fun pumped => ⟨?_, undisturbed.queued⟩
      rwa [undisturbed.linked] at pumped
  | opened born next opens =>
      have silent := opens
      rw [← result] at silent
      have unissued : before.situation.node.table.registry.lastSlot < slot.number := by
        rw [next]
        exact Nat.lt_succ_self _
      obtain rfl := unopened unissued
      have nothing : out = [] := List.prefix_nil.mp written.front
      rw [said_of_opens silent, (asked_of_born born).2, nothing]
      exact ⟨List.nil_prefix, fun _ => queued_of_opens opens⟩
  | started owed settled linked progress queued =>
      obtain ⟨spoken, queued, -⟩ := queued
      have said := said_of_started (by rw [result]; exact queued)
      rw [said, taken, List.append_nil]
      exact written.more (fun pumped => by rwa [linked] at pumped) queued
  | heard owed linked hello queued =>
      obtain ⟨answer, queued, -⟩ := queued
      have said := said_of_heard (by rw [result]; exact queued)
      rw [said]
      change Written _ slot (lines ++ answer) (out ++ [])
      rw [List.append_nil]
      exact written.more (fun _ => linked) queued
  | sent => exact absurd rfl (unsent _)
  | wrote owed linked progress queued =>
      have silent := said_of_tail (by rw [result]; exact queued)
      rw [silent, List.append_nil, taken, Situation.taken, if_pos rfl]
      exact written.wrote linked queued
  | ended owed linked unlinked =>
      have silent := said_of_unlinked (by rw [result]; exact unlinked)
      rw [silent, List.append_nil]
      change Written _ slot lines (out ++ [])
      rw [List.append_nil]
      refine written.silent ?_
      rw [unlinked]
      exact nofun

/-- What is said in the course of strides is what is said in both ways. -/
theorem gathered_said_perm (slot : Slot) (before : Opening) (strides : List Stride) :
    (gathered (said slot) before strides).Perm
      (gathered (opened slot) before strides ++ gathered (answered slot) before strides) := by
  induction strides generalizing before with
  | nil => exact .refl _
  | cons stride rest ih =>
      rw [gathered, gathered, gathered, said, List.append_assoc, List.append_assoc]
      refine List.Perm.append_left _ ?_
      exact ((ih (before.step stride)).append_left _).trans (List.perm_append_comm_assoc _ _ _)

theorem written_run {start : Situation} (initial : start.Initial) {strides : List Stride}
    (unsent : ∀ bytes, .acts (.sends slot bytes) ∉ strides) :
    ((beginning start).run strides).Written slot (gathered (said slot) (beginning start) strides)
      (gathered (taken slot) (beginning start) strides) := by
  induction strides using List.reverseRecOn with
  | nil =>
      refine ⟨List.nil_prefix, ?_⟩
      obtain ⟨profile, request, moment, fresh⟩ := initial
      rw [run_nil, beginning, fresh]
      exact nofun
  | append_singleton past stride ih =>
      have earlier := ih fun bytes member => unsent bytes (List.mem_append_left _ member)
      rw [gathered_concat, gathered_concat, run_append]
      refine earlier.step ?_ (sound_run initial past) ?_
      · intro unissued
        have talk := conversation_run initial past slot
        obtain ⟨-, unopened, unanswered, -⟩ := talk.unopened unissued
        have both := gathered_said_perm slot (beginning start) past
        rw [unopened, unanswered] at both
        exact both.eq_nil
      · rintro bytes rfl
        exact unsent bytes (List.mem_append_right _ List.mem_cons_self)

/-! ## How many lines -/

/-- Lines that are said at most once in each of two ways. -/
theorem eq_replicate_of_perm {first answers : List Bytes} (openedOnce : first <+: [line])
    (answeredOnce : answers <+: [line]) (both : lines.Perm (first ++ answers)) :
    lines = List.replicate (first.length + answers.length) line := by
  have whole : ∀ {part : List Bytes}, part <+: [line] → part = List.replicate part.length line := by
    intro part front
    rw [List.eq_replicate_iff]
    exact ⟨rfl, fun said member => List.mem_singleton.mp (front.subset member)⟩
  rw [← List.perm_replicate, List.replicate_add, ← whole openedOnce, ← whole answeredOnce]
  exact both

theorem add_length_le_one_iff {first answers : List Bytes} (openedOnce : first <+: [line])
    (answeredOnce : answers <+: [line]) :
    first.length + answers.length ≤ 1 ↔ first = [] ∨ answers = [] := by
  have atMost := openedOnce.length_le
  have atMostAnswered := answeredOnce.length_le
  rw [List.length_singleton] at atMost atMostAnswered
  rw [← List.length_eq_zero_iff, ← List.length_eq_zero_iff]
  omega

/-- On each connection of a node the hello exchange asks for at most one name. It says the node's line
at most once as it starts the handshake and at most once as the answer to bytes that have given the
connection a name, and both only if it has answered before the start. What it says has at most one
line feed exactly if this is not so and the identifier of the node has none. Unless the application
sends, nothing else is written. -/
theorem one_line_said_iff {start : Situation} (initial : start.Initial) (strides : List Stride)
    (slot : Slot) :
    let opening := beginning start
    let line := Hello.line start.node.profile.id
    let first := gathered (opened slot) opening strides
    let answers := gathered (answered slot) opening strides
    let early := gathered (answeredEarly slot) opening strides
    let lines := gathered (said slot) opening strides
    (gathered (asked slot) opening strides).length ≤ 1 ∧
      first <+: [line] ∧ answers <+: [line] ∧ lines.Perm (first ++ answers) ∧
      (first = [] ∨ answers = [] ↔ first = [] ∨ early = []) ∧
      (lines.flatten.count Hello.lineFeed ≤ 1 ↔
        lines = [] ∨ '\n' ∉ start.node.profile.id.toList ∧ (first = [] ∨ early = [])) ∧
      (∀ past stride, past ++ [stride] <+: strides → (opening.run past).said slot stride ≠ [] →
        (opening.run past).MaySpeak slot stride) ∧
      ((∀ bytes, .acts (.sends slot bytes) ∉ strides) →
        gathered (taken slot) opening strides <+: lines) := by
  intro opening line first answers early lines
  have talk := conversation_run initial strides slot
  have both : lines.Perm (first ++ answers) := gathered_said_perm slot opening strides
  have once : first = [] ∨ answers = [] ↔ first = [] ∨ early = [] := by
    constructor
    · exact Or.imp_right talk.early_nil
    · rintro (unopened | timely)
      · exact .inl unopened
      · rcases talk.timely with same | ⟨-, unopened, -⟩
        · exact .inr (same.trans timely)
        · exact .inl unopened
  refine ⟨talk.askedOnce, talk.openedOnce, talk.answeredOnce, both, once, ?_, ?_, ?_⟩
  · rw [eq_replicate_of_perm talk.openedOnce talk.answeredOnce both,
      Hello.count_lineFeed_replicate_le_one_iff, List.replicate_eq_nil_iff, ← once,
      add_length_le_one_iff talk.openedOnce talk.answeredOnce]
  · rintro past stride - spoke
    exact maySpeak_of_said (sound_run initial past) spoke
  · intro unsent
    exact (written_run initial unsent).front

/-- A node that says hello, as a context with the given base names it. -/
def greeter (base : String) : Situation where
  node := Mesh.freshNode
    ⟨Mesh.nodeId base 40000 none, 40000, none, [.v4 .wildcard 40000], none, "mesh", true, 30000,
      .empty⟩
    ⟨.withPort 40000, 0, none, true, false⟩ 0
  sessions := 0

/-- A connection that the node has dialed. -/
def dialed : List Stride :=
  [.acts (.requests Situation.aloof none (.v4 ⟨192, 0, 2, 1⟩ 5000) 0 1),
    .acts (.dialConnects 0 ⟨0, .caller⟩ 2)]

/-- The other side is faster with its own line than the start of the handshake. -/
def overtaken : List Stride :=
  dialed ++ [.acts (.receives Situation.aloof ⟨1⟩ (Hello.line "p") 3), .starts ⟨1⟩]

theorem two_lines_said_brokenBase :
    let feeds := fun base strides =>
      (gathered (said ⟨1⟩) (beginning (greeter base)) strides).flatten.count Hello.lineFeed
    (greeter "x\nHELLO y").Initial ∧ (greeter "m").Initial ∧
      ¬ feeds "x\nHELLO y" (dialed ++ [.starts ⟨1⟩]) ≤ 1 ∧ ¬ feeds "m" overtaken ≤ 1 ∧
      feeds "m" (dialed ++ [.starts ⟨1⟩]) ≤ 1 := by
  intro feeds
  have initial : ∀ base, (greeter base).Initial := fun base => ⟨_, _, _, rfl⟩
  have onceIff := fun base strides =>
    (one_line_said_iff (initial base) strides ⟨1⟩).2.2.2.2.2.1
  refine ⟨initial _, initial _, ?_, ?_, ?_⟩
  · intro whole
    rcases (onceIff _ _).mp whole with silent | ⟨unbroken, -⟩
    · revert silent
      decide +kernel
    · revert unbroken
      decide +kernel
  · intro whole
    rcases (onceIff _ _).mp whole with silent | ⟨-, unopened | untimely⟩
    · revert silent
      decide +kernel
    · revert unopened
      decide +kernel
    · revert untimely
      decide +kernel
  · exact (onceIff _ _).mpr (.inr ⟨by decide +kernel, .inr (by decide +kernel)⟩)

end Opening

end Node

end PeerMesh
