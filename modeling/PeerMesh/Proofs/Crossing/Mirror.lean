import Mathlib.Data.List.Infix
import PeerMesh.Proofs.Crossing.Ends
import PeerMesh.Proofs.Crossing.Sanity
import PeerMesh.Proofs.Hello.Line

/-!
# A socket and what the nodes have of it

The nodes keep their ends, the network keeps the stream between them. Where a line of a socket is
underway, its bytes lie in three places: read at one end, under way in the stream, and queued at the
other end. All changes of the ends and of the stream are changes of the socket, or leave it as it is.
-/

set_option autoImplicit false

namespace PeerMesh

namespace Crossing

/-- The party has closed the end, and nothing serves it any more. -/
def Dropped (standing : Standing) (view : Option End) : Prop :=
  standing = .gone ∧ view = none

/-- What a node has of an end goes with where the end stands. -/
def Fits (standing : Standing) : Option End → Prop
  | none => standing = .absent ∨ standing = .gone
  | some view => view.standing = standing ∧ standing ≠ .absent

/-- The bytes of its line that an end has read. -/
def buffered (view : Option End) : Bytes :=
  view.elim [] (·.progress.buffer)

/-- The bytes that wait to be written at an end. -/
def queued (view : Option End) : Bytes :=
  view.elim [] (·.queued)

/-- Where the bytes of a line are. `speaking` tells whether the end that says it is still served;
what it had not written is lost otherwise. -/
def Transit (line : Bytes) (received pending queued : Bytes) (speaking : Prop) : Saying → Prop
  | .unsaid => received = [] ∧ pending = [] ∧ queued = []
  | .underway => received ++ pending ++ queued <+: line ∧ received ≠ line ∧
      (speaking → received ++ pending ++ queued = line)
  | .heard => pending = [] ∧ queued = []

/-- One direction of a socket: the end that reads, the one that writes, and the flow between. -/
structure Delivery (line : Bytes) (side : Side) (standing writing : Standing) (saying : Saying)
    (view other : Option End) (flow : Flow) : Prop where
  fits : Fits standing view
  ended : flow.ended = true ↔ Dropped writing other
  abandoned : flow.abandoned = true ↔ Dropped standing view
  heard : ∀ found, view = some found → (found.progress.heard = true ↔ saying = .heard)
  initiated : ∀ found, view = some found → found.progress.heard = false →
    (found.progress.initiated = true ↔ side = .caller)
  /-- An end that is closed and still served has heard its line. -/
  told : ∀ found, view = some found → standing = .gone → saying = .heard
  transit : ¬ Dropped standing view →
    Transit line (buffered view) flow.pending (queued other) (other.isSome = true) saying

/-- The ends and the stream are those of the socket. -/
def Mirrored (ids : Party → String) (socket : Socket) (ends : Side → Option End)
    (stream : Stream) : Prop :=
  ∀ side, Delivery (Hello.line (ids (socket.owner side.other))) side (socket.standing side)
    (socket.standing side.other) (socket.incoming side) (ends side) (ends side.other)
    (stream.flowTo side)

theorem mirrored_fresh (ids : Party → String) (dialer : Party) :
    Mirrored ids (.fresh dialer) (fun _ => none) .fresh := by
  intro side
  have absent : ∀ third, (Socket.fresh dialer).standing third = .absent := by
    intro third
    cases third <;> rfl
  have unsaid : (Socket.fresh dialer).incoming side = .unsaid := by cases side <;> rfl
  have fresh : Stream.fresh.flowTo side = Flow.fresh := by cases side <;> rfl
  rw [absent, absent, unsaid, fresh]
  exact {
    fits := .inl rfl
    ended := by simp [Flow.fresh, Dropped]
    abandoned := by simp [Flow.fresh, Dropped]
    heard := by simp
    initiated := by simp
    told := by simp
    transit := fun _ => ⟨rfl, rfl, rfl⟩ }

namespace Socket

variable (socket : Socket) (side third : Side)

@[simp] theorem standing_shut : (socket.shut side).standing side = .gone := by
  cases side <;> rfl

@[simp] theorem standing_shut_other :
    (socket.shut side).standing side.other = socket.standing side.other := by
  cases side <;> rfl

@[simp] theorem incoming_shut : (socket.shut side).incoming third = socket.incoming third := by
  cases side <;> cases third <;> rfl

@[simp] theorem owner_shut : (socket.shut side).owner third = socket.owner third := by
  cases side <;> cases third <;> rfl

@[simp] theorem standing_hearing : (socket.hearing side).standing third = socket.standing third := by
  cases side <;> cases third <;> rfl

@[simp] theorem incoming_hearing : (socket.hearing side).incoming side = .heard := by
  cases side <;> rfl

@[simp] theorem incoming_hearing_other :
    (socket.hearing side).incoming side.other = socket.incoming side.other := by
  cases side <;> rfl

@[simp] theorem owner_hearing : (socket.hearing side).owner third = socket.owner third := by
  cases side <;> cases third <;> rfl

@[simp] theorem standing_recognized : (socket.recognized side).standing side = .named := by
  cases side <;> rfl

@[simp] theorem standing_recognized_other :
    (socket.recognized side).standing side.other = socket.standing side.other := by
  cases side <;> rfl

@[simp] theorem incoming_recognized : (socket.recognized side).incoming side = .heard := by
  cases side <;> rfl

@[simp] theorem owner_recognized : (socket.recognized side).owner third = socket.owner third := by
  cases side <;> cases third <;> rfl

end Socket

section Changes

variable {ids : Party → String} {socket : Socket} {ends : Side → Option End} {stream : Stream}
  {side : Side} {view : End} {line : Bytes} {standing writing : Standing} {saying : Saying}
  {other : Option End} {flow : Flow}

theorem not_dropped_some : ¬ Dropped standing (some view) :=
  fun dropped => Option.some_ne_none view dropped.2

theorem Fits.eq_none {found : Option End} (fits : Fits .absent found) : found = none := by
  cases found with
  | none => rfl
  | some view => exact absurd rfl fits.2

theorem Mirrored.across (mirrored : Mirrored ids socket ends stream) (side : Side) :
    Delivery (Hello.line (ids (socket.owner side))) side.other (socket.standing side.other)
      (socket.standing side) (socket.incoming side.other) (ends side.other) (ends side)
      (stream.flowTo side.other) := by
  have delivery := mirrored side.other
  rwa [Side.other_other] at delivery

theorem mirrored_of_sides (side : Side)
    (own : Delivery (Hello.line (ids (socket.owner side.other))) side (socket.standing side)
      (socket.standing side.other) (socket.incoming side) (ends side) (ends side.other)
      (stream.flowTo side))
    (across : Delivery (Hello.line (ids (socket.owner side))) side.other
      (socket.standing side.other) (socket.standing side) (socket.incoming side.other)
      (ends side.other) (ends side) (stream.flowTo side.other)) :
    Mirrored ids socket ends stream := by
  intro third
  rcases Side.eq_or_eq_other side third with rfl | rfl
  · exact own
  · rw [Side.other_other]
    exact across

/-! ## Bytes on their way -/

section Bytes

variable {received pending waiting chunk : Bytes} {speaking later : Prop}

theorem Transit.lost (transit : Transit line received pending waiting speaking saying)
    (silent : ¬ later) : Transit line received pending [] later saying := by
  cases saying with
  | unsaid => exact ⟨transit.1, transit.2.1, rfl⟩
  | underway =>
      refine ⟨?_, transit.2.1, fun speaks => absurd speaks silent⟩
      rw [List.append_nil]
      exact (List.prefix_append _ _).trans transit.1
  | heard => exact ⟨transit.1, rfl⟩

theorem Transit.written
    (transit : Transit line received pending (chunk ++ waiting) speaking saying) :
    Transit line received (pending ++ chunk) waiting speaking saying := by
  have regrouped : received ++ (pending ++ chunk) ++ waiting =
      received ++ pending ++ (chunk ++ waiting) := by simp only [List.append_assoc]
  cases saying with
  | unsaid =>
      obtain ⟨unread, nothing, silent⟩ := transit
      obtain ⟨rfl, rfl⟩ := List.append_eq_nil_iff.mp silent
      exact ⟨unread, by rw [nothing]; rfl, rfl⟩
  | underway =>
      simp only [Transit, regrouped]
      exact transit
  | heard =>
      obtain ⟨nothing, silent⟩ := transit
      obtain ⟨rfl, rfl⟩ := List.append_eq_nil_iff.mp silent
      exact ⟨by rw [nothing]; rfl, rfl⟩

theorem Transit.read {count : Nat}
    (transit : Transit line received pending waiting speaking .underway)
    (proper : received ++ pending.take count ≠ line) :
    Transit line (received ++ pending.take count) (pending.drop count) waiting speaking .underway := by
  obtain ⟨front, -, whole⟩ := transit
  have regrouped : received ++ pending.take count ++ pending.drop count = received ++ pending := by
    rw [List.append_assoc, List.take_append_drop]
  refine ⟨?_, proper, ?_⟩
  · rw [regrouped]
    exact front
  · rw [regrouped]
    exact whole

/-- When the whole line has been read, no byte is left anywhere. -/
theorem Transit.whole {count : Nat}
    (transit : Transit line received pending waiting speaking .underway)
    (whole : received ++ pending.take count = line) : pending.drop count = [] ∧ waiting = [] := by
  obtain ⟨⟨rest, front⟩, -, -⟩ := transit
  have regrouped : received ++ pending.take count ++ (pending.drop count ++ waiting ++ rest) = line := by
    rw [← front]
    simp only [List.append_assoc, List.append_cancel_left_eq]
    rw [← List.append_assoc (pending.take count), List.take_append_drop]
  rw [whole] at regrouped
  have nothing := List.append_right_eq_self.mp regrouped
  obtain ⟨front, -⟩ := List.append_eq_nil_iff.mp nothing
  exact List.append_eq_nil_iff.mp front

theorem Transit.front {count : Nat}
    (transit : Transit line received pending waiting speaking .underway) :
    received ++ pending.take count <+: line := by
  refine List.IsPrefix.trans ?_ transit.1
  rw [List.append_assoc]
  exact (List.prefix_append_right_inj _).mpr ((List.take_prefix _ _).trans (List.prefix_append _ _))

end Bytes

/-! ## Changes of one end -/

/-- A change at the end that writes, which keeps what waits there. -/
theorem Delivery.of_writer {later : Standing} {reader changed : Option End}
    (delivery : Delivery line side standing writing saying reader other flow)
    (dropped : Dropped later changed ↔ Dropped writing other) (queue : queued changed = queued other)
    (speaking : changed.isSome = true → other.isSome = true) :
    Delivery line side standing later saying reader changed flow where
  fits := delivery.fits
  ended := delivery.ended.trans dropped.symm
  abandoned := delivery.abandoned
  heard := delivery.heard
  initiated := delivery.initiated
  told := delivery.told
  transit := by
    intro open_
    have transit := delivery.transit open_
    rw [queue]
    cases saying with
    | unsaid => exact transit
    | underway => exact ⟨transit.1, transit.2.1, fun speaks => transit.2.2 (speaking speaks)⟩
    | heard => exact transit

/-- A change at the end that reads, which keeps what it has heard and said. -/
theorem Delivery.of_reader {later : Standing} {changed : End} {flowLater : Flow}
    (delivery : Delivery line side standing writing saying (some view) other flow)
    (fits : Fits later (some changed)) (told : later = .gone → saying = .heard)
    (heard : changed.progress.heard = view.progress.heard)
    (initiated : changed.progress.initiated = view.progress.initiated)
    (ended : flowLater.ended = flow.ended) (abandoned : flowLater.abandoned = flow.abandoned)
    (transit : Transit line changed.progress.buffer flowLater.pending (queued other)
      (other.isSome = true) saying) :
    Delivery line side later writing saying (some changed) other flowLater where
  fits := fits
  ended := by
    rw [ended]
    exact delivery.ended
  abandoned := by
    rw [abandoned]
    exact delivery.abandoned.trans (iff_of_false not_dropped_some not_dropped_some)
  heard := by
    rintro found ⟨⟩
    rw [heard]
    exact delivery.heard view rfl
  initiated := by
    rintro found ⟨⟩
    rw [heard, initiated]
    exact delivery.initiated view rfl
  told := fun _ _ => told
  transit := fun _ => transit

theorem Mirrored.dropped (mirrored : Mirrored ids socket ends stream) (side : Side) :
    Mirrored ids (socket.shut side) (Function.update ends side none)
      ((stream.changeFlowTo side.other .finish).changeFlowTo side .abandon) := by
  have own := mirrored side
  have across := mirrored.across side
  have apart := Side.other_ne side
  refine mirrored_of_sides side ?_ ?_
  · simp only [Socket.standing_shut, Socket.standing_shut_other, Socket.incoming_shut,
      Socket.owner_shut, Function.update_self, Function.update_of_ne apart,
      Stream.flowTo_changeFlowTo, Stream.flowTo_changeFlowTo_of_other]
    exact {
      fits := .inr rfl
      ended := own.ended
      abandoned := by simp [Flow.abandon, Dropped]
      heard := by simp
      initiated := by simp
      told := by simp
      transit := fun open_ => absurd ⟨rfl, rfl⟩ open_ }
  · simp only [Socket.standing_shut, Socket.standing_shut_other, Socket.incoming_shut,
      Socket.owner_shut, Function.update_self, Function.update_of_ne apart,
      Stream.flowTo_changeFlowTo, Stream.flowTo_changeFlowTo_other]
    exact {
      fits := across.fits
      ended := by simp [Flow.finish, Dropped]
      abandoned := across.abandoned
      heard := across.heard
      initiated := across.initiated
      told := across.told
      transit := fun open_ => (across.transit open_).lost (by simp) }

theorem Mirrored.written (mirrored : Mirrored ids socket ends stream)
    (present : ends side = some view) {chunk rest : Bytes} (waiting : view.queued = chunk ++ rest) :
    Mirrored ids socket (Function.update ends side (some { view with queued := rest }))
      (stream.changeFlowTo side.other fun flow => flow.write chunk) := by
  have own := mirrored side
  have across := mirrored.across side
  have apart := Side.other_ne side
  rw [present] at own across
  refine mirrored_of_sides side ?_ ?_
  · simp only [Function.update_self, Function.update_of_ne apart,
      Stream.flowTo_changeFlowTo_of_other]
    exact own.of_reader own.fits (own.told view rfl) rfl rfl rfl rfl (own.transit not_dropped_some)
  · simp only [Function.update_self, Function.update_of_ne apart, Stream.flowTo_changeFlowTo]
    exact {
      fits := across.fits
      ended := across.ended.trans (iff_of_false not_dropped_some not_dropped_some)
      abandoned := across.abandoned
      heard := across.heard
      initiated := across.initiated
      told := across.told
      transit := by
        intro open_
        have transit := across.transit open_
        simp only [queued, Option.elim_some, waiting] at transit
        exact transit.written }

/-- An end reads a front part of its line. -/
theorem Mirrored.front (mirrored : Mirrored ids socket ends stream)
    (present : ends side = some view) (underway : socket.incoming side = .underway) {count : Nat}
    (proper : view.progress.buffer ++ (stream.flowTo side).pending.take count ≠
      Hello.line (ids (socket.owner side.other))) :
    Mirrored ids socket
      (Function.update ends side (some { view with progress :=
        { view.progress with
          buffer := view.progress.buffer ++ (stream.flowTo side).pending.take count } }))
      (stream.changeFlowTo side fun flow => flow.advance count) := by
  have own := mirrored side
  have across := mirrored.across side
  have apart := Side.other_ne side
  rw [present] at own across
  refine mirrored_of_sides side ?_ ?_
  · simp only [Function.update_self, Function.update_of_ne apart, Stream.flowTo_changeFlowTo]
    refine own.of_reader own.fits (own.told view rfl) rfl rfl rfl rfl ?_
    have transit := own.transit not_dropped_some
    rw [underway] at transit ⊢
    exact transit.read proper
  · simp only [Function.update_self, Function.update_of_ne apart, Stream.flowTo_changeFlowTo_other]
    exact across.of_writer (iff_of_false not_dropped_some not_dropped_some) rfl fun _ => rfl

/-- A named end is closed, and still served. -/
theorem Mirrored.closed (mirrored : Mirrored ids socket ends stream)
    (present : ends side = some view) (told : socket.incoming side = .heard) :
    Mirrored ids (socket.shut side) (Function.update ends side (some (view.stood .gone))) stream := by
  have own := mirrored side
  have across := mirrored.across side
  have apart := Side.other_ne side
  rw [present] at own across
  refine mirrored_of_sides side ?_ ?_
  · simp only [Socket.standing_shut, Socket.standing_shut_other, Socket.incoming_shut,
      Socket.owner_shut, Function.update_self, Function.update_of_ne apart]
    exact own.of_reader ⟨rfl, by decide⟩ (fun _ => told) rfl rfl rfl rfl
      (own.transit not_dropped_some)
  · simp only [Socket.standing_shut, Socket.standing_shut_other, Socket.incoming_shut,
      Socket.owner_shut, Function.update_self, Function.update_of_ne apart]
    exact across.of_writer (iff_of_false not_dropped_some not_dropped_some) rfl fun _ => rfl

/-! ## The whole line -/

/-- An end has heard its whole line, and is named or closed. -/
theorem Delivery.of_whole {later : Standing} {changed : End} {count : Nat}
    (delivery : Delivery line side standing writing .underway (some view) other flow)
    (whole : view.progress.buffer ++ flow.pending.take count = line)
    (stood : changed.standing = later) (present : later ≠ .absent)
    (progress : changed.progress = ⟨true, false, []⟩) :
    Delivery line side later writing .heard (some changed) other (flow.advance count) where
  fits := ⟨stood, present⟩
  ended := delivery.ended
  abandoned := delivery.abandoned.trans (iff_of_false not_dropped_some not_dropped_some)
  heard := by
    rintro found ⟨⟩
    simp [progress]
  initiated := by
    rintro found ⟨⟩ unheard
    simp [progress] at unheard
  told := fun _ _ _ => rfl
  transit := fun _ => (delivery.transit not_dropped_some).whole whole

/-- An end has heard its whole line, and is closed. -/
theorem Mirrored.refused (mirrored : Mirrored ids socket ends stream)
    (present : ends side = some view) (underway : socket.incoming side = .underway) {count : Nat}
    (whole : view.progress.buffer ++ (stream.flowTo side).pending.take count =
      Hello.line (ids (socket.owner side.other))) :
    Mirrored ids ((socket.hearing side).shut side)
      (Function.update ends side (some ⟨view.slot, .gone, ⟨true, false, []⟩, view.queued⟩))
      (stream.changeFlowTo side fun flow => flow.advance count) := by
  have own := mirrored side
  have across := mirrored.across side
  have apart := Side.other_ne side
  rw [present] at own across
  rw [underway] at own
  refine mirrored_of_sides side ?_ ?_
  · simp only [Socket.standing_shut, Socket.standing_shut_other, Socket.incoming_shut,
      Socket.owner_shut, Socket.standing_hearing, Socket.incoming_hearing, Socket.owner_hearing,
      Function.update_self, Function.update_of_ne apart, Stream.flowTo_changeFlowTo]
    exact own.of_whole whole rfl (by decide) rfl
  · simp only [Socket.standing_shut, Socket.standing_shut_other, Socket.incoming_shut,
      Socket.owner_shut, Socket.standing_hearing, Socket.incoming_hearing_other,
      Socket.owner_hearing, Function.update_self, Function.update_of_ne apart,
      Stream.flowTo_changeFlowTo_other]
    exact across.of_writer (iff_of_false not_dropped_some not_dropped_some) rfl fun _ => rfl

/-- Where nothing has been said yet, an end says its line. -/
theorem Delivery.spoken {later : Standing} {changed : Option End}
    {reader : Option End} (delivery : Delivery line side standing writing .unsaid reader other flow)
    (filled : line ≠ []) (dropped : Dropped later changed ↔ Dropped writing other)
    (queue : queued changed = queued other ++ line) :
    Delivery line side standing later .underway reader changed flow where
  fits := delivery.fits
  ended := delivery.ended.trans dropped.symm
  abandoned := delivery.abandoned
  heard := fun found here => (delivery.heard found here).trans (by decide)
  initiated := delivery.initiated
  told := fun found here gone => absurd (delivery.told found here gone) (by decide)
  transit := by
    intro open_
    obtain ⟨unread, nothing, silent⟩ := delivery.transit open_
    have whole : buffered reader ++ flow.pending ++ queued changed = line := by
      rw [unread, nothing, queue, silent, List.nil_append, List.nil_append, List.nil_append]
    refine ⟨?_, ?_, fun _ => whole⟩
    · rw [whole]
    · rw [unread]
      exact filled.symm

/-- An end has heard its whole line and is named; the callee answers. -/
theorem Mirrored.recognized (mirrored : Mirrored ids socket ends stream) (shaped : socket.Shaped)
    (present : ends side = some view) (underway : socket.incoming side = .underway) {count : Nat}
    (whole : view.progress.buffer ++ (stream.flowTo side).pending.take count =
      Hello.line (ids (socket.owner side.other))) {answer : Bytes}
    (answers : answer = if side = .caller then [] else Hello.line (ids (socket.owner side))) :
    Mirrored ids (socket.recognized side)
      (Function.update ends side (some ⟨view.slot, .named, ⟨true, false, []⟩, view.queued ++ answer⟩))
      (stream.changeFlowTo side fun flow => flow.advance count) := by
  have own := mirrored side
  have across := mirrored.across side
  have apart := Side.other_ne side
  rw [present] at own across
  rw [underway] at own
  refine mirrored_of_sides side ?_ ?_
  · simp only [Socket.standing_recognized, Socket.standing_recognized_other,
      Socket.incoming_recognized, Socket.owner_recognized, Function.update_self,
      Function.update_of_ne apart, Stream.flowTo_changeFlowTo]
    exact own.of_whole whole rfl (by decide) rfl
  · simp only [Socket.standing_recognized, Socket.standing_recognized_other,
      Socket.owner_recognized, Function.update_self, Function.update_of_ne apart,
      Stream.flowTo_changeFlowTo_other]
    have dropped : Dropped Standing.named
        (some (⟨view.slot, .named, ⟨true, false, []⟩, view.queued ++ answer⟩ : End)) ↔
          Dropped (socket.standing side) (some view) :=
      iff_of_false not_dropped_some not_dropped_some
    cases side with
    | caller =>
        rw [if_pos rfl] at answers
        refine across.of_writer dropped ?_ fun _ => rfl
        simp [queued, answers]
    | callee =>
        rw [if_neg (by decide)] at answers
        have unsaid : socket.incoming Side.callee.other = .unsaid :=
          shaped.unanswered_of_greeting underway
        rw [unsaid] at across
        refine across.spoken (Hello.line_ne_nil _) dropped ?_
        rw [answers]
        rfl

/-! ## New ends -/

/-- The caller registers its end, and greets. -/
theorem Mirrored.taken (mirrored : Mirrored ids socket ends stream) (shaped : socket.Shaped)
    (absent : socket.caller = .absent) (slot : Slot) :
    Mirrored ids socket.taken
      (Function.update ends .caller
        (some ⟨slot, .unnamed, ⟨false, true, []⟩, Hello.line (ids socket.dialer)⟩)) stream := by
  have own := mirrored .caller
  have across := mirrored .callee
  obtain ⟨ungreeted, unanswered⟩ := shaped.unsaid_of_absent absent
  simp only [Side.other, Socket.standing, Socket.incoming, Socket.owner, absent, ungreeted,
    unanswered] at own across
  have missing := own.fits.eq_none
  rw [missing] at own across
  refine mirrored_of_sides .caller ?_ ?_
  · simp only [Side.other, Socket.standing, Socket.incoming, Socket.owner, Socket.taken, unanswered,
      Function.update_self]
    exact {
      fits := ⟨rfl, by decide⟩
      ended := own.ended
      abandoned := own.abandoned.trans
        (iff_of_false (fun dropped => by cases dropped.1) not_dropped_some)
      heard := by
        rintro found ⟨⟩
        simp
      initiated := by
        rintro found ⟨⟩
        simp
      told := by
        rintro found ⟨⟩ gone
        cases gone
      transit := fun _ => own.transit fun dropped => by cases dropped.1 }
  · simp only [Side.other, Socket.standing, Socket.incoming, Socket.owner, Socket.taken,
      Function.update_self]
    exact across.spoken (Hello.line_ne_nil _)
      (iff_of_false not_dropped_some fun dropped => by cases dropped.1) rfl

theorem Mirrored.accepted (mirrored : Mirrored ids socket ends stream) (shaped : socket.Shaped)
    (absent : socket.callee = .absent) (slot : Slot) :
    Mirrored ids { socket with callee := .unnamed }
      (Function.update ends .callee (some ⟨slot, .unnamed, ⟨false, false, []⟩, []⟩)) stream := by
  have own := mirrored .callee
  have across := mirrored .caller
  obtain ⟨unheard, unanswered⟩ := shaped.unheard_of_absent absent
  simp only [Side.other, Socket.standing, Socket.incoming, Socket.owner, absent, unanswered]
    at own across
  have missing := own.fits.eq_none
  rw [missing] at own across
  refine mirrored_of_sides .callee ?_ ?_
  · simp only [Side.other, Socket.standing, Socket.incoming, Socket.owner, Function.update_self]
    exact {
      fits := ⟨rfl, by decide⟩
      ended := own.ended
      abandoned := own.abandoned.trans
        (iff_of_false (fun dropped => by cases dropped.1) not_dropped_some)
      heard := by
        rintro found ⟨⟩
        simp [unheard]
      initiated := by
        rintro found ⟨⟩
        simp
      told := by
        rintro found ⟨⟩ gone
        cases gone
      transit := fun _ => own.transit fun dropped => by cases dropped.1 }
  · simp only [Side.other, Socket.standing, Socket.incoming, Socket.owner, unanswered,
      Function.update_self]
    exact {
      fits := across.fits
      ended := across.ended.trans
        (iff_of_false (fun dropped => by cases dropped.1) not_dropped_some)
      abandoned := across.abandoned
      heard := across.heard
      initiated := across.initiated
      told := across.told
      transit := across.transit }

/-! ## Quiet sockets -/

/-- A socket is quiet when no end of it has anything to do. -/
theorem Mirrored.quiet (mirrored : Mirrored ids socket ends stream)
    (settled : ∀ side, socket.standing side ≠ .absent)
    (still : ∀ side view, ends side = some view → view.standing ≠ .gone ∧ view.queued = [] ∧
      (stream.flowTo side).pending = [] ∧ (stream.flowTo side).ended = false) :
    socket.Quiet where
  settled := settled
  delivered := by
    intro alive side underway
    have present : ∀ third, ∃ view, ends third = some view := by
      intro third
      have fits := (mirrored third).fits
      cases found : ends third with
      | some view => exact ⟨view, rfl⟩
      | none =>
          rw [found] at fits
          rcases fits with absent | gone
          · exact absurd absent (settled third)
          · cases third with
            | caller => exact absurd gone alive.1
            | callee => exact absurd gone alive.2
    obtain ⟨view, found⟩ := present side
    obtain ⟨other, otherFound⟩ := present side.other
    have transit := (mirrored side).transit (by rw [found]; exact not_dropped_some)
    rw [underway, found, otherFound] at transit
    obtain ⟨-, proper, whole⟩ := transit
    have nothing := (still side view found).2.2.1
    have silent := (still side.other other otherFound).2.1
    refine proper ?_
    have all := whole rfl
    simp only [queued, Option.elim_some, nothing, silent, List.append_nil] at all
    exact all
  noticed := by
    intro side ended
    have dropped : Dropped (socket.standing side.other) (ends side.other) := by
      refine ⟨ended, ?_⟩
      have fits := (mirrored side.other).fits
      cases found : ends side.other with
      | none => rfl
      | some view =>
          rw [found] at fits
          exact absurd (fits.1.trans ended) (still _ view found).1
    have finished := (mirrored side).ended.mpr dropped
    have fits := (mirrored side).fits
    cases found : ends side with
    | none =>
        rw [found] at fits
        exact fits.resolve_left (settled side)
    | some view =>
        rw [(still side view found).2.2.2] at finished
        cases finished

end Changes

end Crossing

end PeerMesh
