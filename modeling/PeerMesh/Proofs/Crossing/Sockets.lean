import PeerMesh.Network.Stream

/-!
# Crossing sockets

Two parties open sockets to each other, any number in either direction. On each socket the caller
sends its greeting, the callee answers a greeting that names the caller, and each party gives at
most one end the name of the other. When a second end would get that name, the party keeps one of
the two: of ends on different sides the one whose socket was dialed by the party with the smaller
identifier, of ends on one side the one that was named before.

The parties decide each for itself, in the order in which lines reach them. They agree nevertheless,
because a socket that outranks all others is never closed by the party that hears of it second.
-/

set_option autoImplicit false

namespace PeerMesh.Crossing

inductive Party where
  | left
  | right
  deriving DecidableEq, Repr

def Party.other : Party → Party
  | .left => .right
  | .right => .left

@[simp] theorem Party.other_other (party : Party) : party.other.other = party := by
  cases party <;> rfl

theorem Party.other_ne (party : Party) : party.other ≠ party := by
  cases party <;> decide

theorem Party.eq_other_of_ne {party third : Party} (different : party ≠ third) :
    party = third.other := by
  cases party <;> cases third <;> first | rfl | exact absurd rfl different

/-- Where one end of a socket stands with its party. -/
inductive Standing where
  /-- The party has not registered it yet. -/
  | absent
  | unnamed
  | named
  /-- The party has closed it. -/
  | gone
  deriving DecidableEq, Repr

/-- How far a line has come. -/
inductive Saying where
  | unsaid
  | underway
  | heard
  deriving DecidableEq, Repr

/-- One socket: its two ends and the two lines. -/
structure Socket where
  dialer : Party
  caller : Standing
  callee : Standing
  /-- The line of the caller. -/
  greeting : Saying
  /-- The line of the callee. -/
  answer : Saying
  deriving DecidableEq, Repr

namespace Socket

def fresh (dialer : Party) : Socket := ⟨dialer, .absent, .absent, .unsaid, .unsaid⟩

def owner (socket : Socket) : Side → Party
  | .caller => socket.dialer
  | .callee => socket.dialer.other

def standing (socket : Socket) : Side → Standing
  | .caller => socket.caller
  | .callee => socket.callee

/-- The line that the end at one side is to hear. -/
def incoming (socket : Socket) : Side → Saying
  | .caller => socket.answer
  | .callee => socket.greeting

/-- The caller registers its end, and greets. -/
def taken (socket : Socket) : Socket :=
  { socket with caller := .unnamed, greeting := .underway }

/-- The party at one side closes its end. -/
def shut (socket : Socket) : Side → Socket
  | .caller => { socket with caller := .gone }
  | .callee => { socket with callee := .gone }

/-- The end at one side has heard its line. -/
def hearing (socket : Socket) : Side → Socket
  | .caller => { socket with answer := .heard }
  | .callee => { socket with greeting := .heard }

/-- The end at one side has heard its line and gets its name; the callee answers. -/
def recognized (socket : Socket) : Side → Socket
  | .caller => { socket with caller := .named, answer := .heard }
  | .callee => { socket with callee := .named, greeting := .heard, answer := .underway }

/-- The caller has registered its end at some time. -/
def Taken (socket : Socket) : Prop :=
  socket.greeting ≠ .unsaid

/-- Neither end is closed. -/
def Alive (socket : Socket) : Prop :=
  socket.caller ≠ .gone ∧ socket.callee ≠ .gone

/-- How the ends of a socket can stand, by how far the two lines have come. -/
def Shaped (socket : Socket) : Prop :=
  match socket.greeting, socket.answer with
  | .unsaid, .unsaid =>
    socket.caller = .absent ∧ (socket.callee = .absent ∨ socket.callee = .unnamed) ∨
      socket.caller = .gone ∧ socket.callee ≠ .named
  | .underway, .unsaid =>
    socket.caller = .unnamed ∧ (socket.callee = .absent ∨ socket.callee = .unnamed)
  | .heard, .unsaid => (socket.caller = .unnamed ∨ socket.caller = .gone) ∧ socket.callee = .gone
  | .heard, .underway =>
    (socket.caller = .unnamed ∨ socket.caller = .gone) ∧
      (socket.callee = .named ∨ socket.callee = .gone)
  | .heard, .heard =>
    (socket.caller = .named ∨ socket.caller = .gone) ∧
      (socket.callee = .named ∨ socket.callee = .gone)
  | _, _ => False

@[simp] theorem dialer_shut (socket : Socket) (side : Side) :
    (socket.shut side).dialer = socket.dialer := by
  cases side <;> rfl

@[simp] theorem dialer_hearing (socket : Socket) (side : Side) :
    (socket.hearing side).dialer = socket.dialer := by
  cases side <;> rfl

@[simp] theorem dialer_recognized (socket : Socket) (side : Side) :
    (socket.recognized side).dialer = socket.dialer := by
  cases side <;> rfl

theorem owner_eq_of_dialer_eq {left right : Socket} (same : left.dialer = right.dialer)
    (side : Side) : left.owner side = right.owner side := by
  cases side <;> simp [owner, same]

theorem owner_other (socket : Socket) (side : Side) :
    socket.owner side.other = (socket.owner side).other := by
  cases side <;> simp [owner, Side.other]

/-- Two sockets with ends at one party are dialed by one party exactly if the ends are on one side.
-/
theorem dialer_eq_iff {left right : Socket} {leftSide rightSide : Side}
    (same : left.owner leftSide = right.owner rightSide) :
    left.dialer = right.dialer ↔ leftSide = rightSide := by
  have apart := Party.other_ne right.dialer
  cases leftSide <;> cases rightSide <;> simp only [owner] at same
  · simp [same]
  · simp [same, apart]
  · simp [← same, (Party.other_ne left.dialer).symm]
  · have inner := congrArg Party.other same
    simp only [Party.other_other] at inner
    simp [inner]

theorem shaped_fresh (dialer : Party) : (fresh dialer).Shaped :=
  .inl ⟨rfl, .inl rfl⟩

section Shape

variable {socket : Socket} {side : Side}

theorem Shaped.taken (shaped : socket.Shaped) (absent : socket.caller = .absent) :
    socket.taken.Shaped := by
  obtain ⟨dialer, caller, callee, greeting, answer⟩ := socket
  cases greeting <;> cases answer <;> simp_all [Shaped, Socket.taken]

theorem Shaped.abandoned (shaped : socket.Shaped) (absent : socket.caller = .absent) :
    (socket.shut .caller).Shaped := by
  obtain ⟨dialer, caller, callee, greeting, answer⟩ := socket
  cases greeting <;> cases answer <;> simp_all [Shaped, shut]
  rcases shaped with rfl | rfl <;> decide

theorem Shaped.accepted (shaped : socket.Shaped) (absent : socket.callee = .absent) :
    ({ socket with callee := .unnamed } : Socket).Shaped := by
  obtain ⟨dialer, caller, callee, greeting, answer⟩ := socket
  cases greeting <;> cases answer <;> simp_all [Shaped]

theorem Shaped.recognized (shaped : socket.Shaped) (unnamed : socket.standing side = .unnamed)
    (underway : socket.incoming side = .underway) : (socket.recognized side).Shaped := by
  obtain ⟨dialer, caller, callee, greeting, answer⟩ := socket
  cases side <;> cases greeting <;> cases answer <;>
    simp_all [Shaped, Socket.recognized, standing, incoming]

theorem Shaped.refused (shaped : socket.Shaped) (unnamed : socket.standing side = .unnamed)
    (underway : socket.incoming side = .underway) : ((socket.hearing side).shut side).Shaped := by
  obtain ⟨dialer, caller, callee, greeting, answer⟩ := socket
  cases side <;> cases greeting <;> cases answer <;>
    simp_all [Shaped, hearing, shut, standing, incoming]

theorem Shaped.displaced (shaped : socket.Shaped) (named : socket.standing side = .named) :
    (socket.shut side).Shaped := by
  obtain ⟨dialer, caller, callee, greeting, answer⟩ := socket
  cases side <;> cases greeting <;> cases answer <;> simp_all [Shaped, shut, standing]

theorem Shaped.noticed (shaped : socket.Shaped) (ended : socket.standing side.other = .gone)
    (present : socket.standing side ≠ .absent) : (socket.shut side).Shaped := by
  obtain ⟨dialer, caller, callee, greeting, answer⟩ := socket
  cases side <;> cases greeting <;> cases answer <;>
    simp_all [Shaped, shut, standing, Side.other]

theorem Shaped.taken_of_named (shaped : socket.Shaped) (named : socket.standing side = .named) :
    socket.Taken := by
  obtain ⟨dialer, caller, callee, greeting, answer⟩ := socket
  cases side <;> cases greeting <;> cases answer <;> simp_all [Shaped, Taken, standing]

theorem Shaped.answered_of_named (shaped : socket.Shaped) (named : socket.standing side = .named) :
    socket.answer ≠ .unsaid := by
  obtain ⟨dialer, caller, callee, greeting, answer⟩ := socket
  cases side <;> cases greeting <;> cases answer <;> simp_all [Shaped, standing]

theorem Shaped.taken_of_answered (shaped : socket.Shaped) (answered : socket.answer ≠ .unsaid) :
    socket.Taken := by
  obtain ⟨dialer, caller, callee, greeting, answer⟩ := socket
  cases greeting <;> cases answer <;> simp_all [Shaped, Taken]

theorem Shaped.taken_of_underway (shaped : socket.Shaped)
    (underway : socket.incoming side = .underway) : socket.Taken := by
  obtain ⟨dialer, caller, callee, greeting, answer⟩ := socket
  cases side <;> cases greeting <;> cases answer <;> simp_all [Shaped, Taken, incoming]

theorem Shaped.caller_open_of_greeting (shaped : socket.Shaped)
    (underway : socket.greeting = .underway) : socket.caller ≠ .gone := by
  obtain ⟨dialer, caller, callee, greeting, answer⟩ := socket
  cases greeting <;> cases answer <;> simp_all [Shaped]

theorem Shaped.unanswered_of_greeting (shaped : socket.Shaped)
    (underway : socket.greeting = .underway) : socket.answer = .unsaid := by
  obtain ⟨dialer, caller, callee, greeting, answer⟩ := socket
  cases greeting <;> cases answer <;> simp_all [Shaped]

theorem Shaped.unsaid_of_absent (shaped : socket.Shaped) (absent : socket.caller = .absent) :
    socket.greeting = .unsaid ∧ socket.answer = .unsaid := by
  obtain ⟨dialer, caller, callee, greeting, answer⟩ := socket
  cases greeting <;> cases answer <;> simp_all [Shaped]

theorem Shaped.unheard_of_absent (shaped : socket.Shaped) (absent : socket.callee = .absent) :
    socket.greeting ≠ .heard ∧ socket.answer = .unsaid := by
  obtain ⟨dialer, caller, callee, greeting, answer⟩ := socket
  cases greeting <;> cases answer <;> simp_all [Shaped]

theorem Shaped.heard_of_named (shaped : socket.Shaped) (named : socket.standing side = .named) :
    socket.incoming side = .heard := by
  obtain ⟨dialer, caller, callee, greeting, answer⟩ := socket
  cases side <;> cases greeting <;> cases answer <;> simp_all [Shaped, standing, incoming]

theorem Shaped.alive_taken (shaped : socket.Shaped) (absent : socket.caller = .absent) :
    socket.taken.Alive := by
  obtain ⟨dialer, caller, callee, greeting, answer⟩ := socket
  cases greeting <;> cases answer <;> simp_all [Shaped, Alive, Socket.taken]
  rcases shaped with rfl | rfl <;> decide

/-- The callee of a socket that has been answered, and is not closed, is named. -/
theorem Shaped.callee_named (shaped : socket.Shaped) (answered : socket.answer ≠ .unsaid)
    (alive : socket.Alive) : socket.callee = .named := by
  obtain ⟨dialer, caller, callee, greeting, answer⟩ := socket
  cases greeting <;> cases answer <;> simp_all [Shaped, Alive]

/-- Between open ends the lines go all the way. -/
theorem Shaped.named_of_quiet (shaped : socket.Shaped) (alive : socket.Alive)
    (settled : socket.caller ≠ .absent) (delivered : ∀ side, socket.incoming side ≠ .underway)
    (side : Side) : socket.standing side = .named := by
  have greeted := delivered .callee
  have answered := delivered .caller
  obtain ⟨dialer, caller, callee, greeting, answer⟩ := socket
  cases side <;> cases greeting <;> cases answer <;>
    simp_all [Shaped, Alive, incoming, standing]

end Shape

end Socket

/-- One step of the protocol. `smaller` is the party with the smaller identifier. -/
inductive Step (smaller : Party) (sockets : List Socket) : List Socket → Prop
  | opened (dialer : Party) : Step smaller sockets (sockets ++ [.fresh dialer])
  | taken {place : Nat} {socket : Socket} (found : sockets[place]? = some socket)
      (absent : socket.caller = .absent) : Step smaller sockets (sockets.set place socket.taken)
  | abandoned {place : Nat} {socket : Socket} (found : sockets[place]? = some socket)
      (absent : socket.caller = .absent) :
      Step smaller sockets (sockets.set place (socket.shut .caller))
  | accepted {place : Nat} {socket : Socket} (found : sockets[place]? = some socket)
      (absent : socket.callee = .absent) :
      Step smaller sockets (sockets.set place { socket with callee := .unnamed })
  /-- No end of the party has the name. -/
  | recognized {place : Nat} {socket : Socket} {side : Side}
      (found : sockets[place]? = some socket) (unnamed : socket.standing side = .unnamed)
      (underway : socket.incoming side = .underway)
      (free : ∀ held ∈ sockets, ∀ heldSide, held.owner heldSide = socket.owner side →
        held.standing heldSide ≠ .named) :
      Step smaller sockets (sockets.set place (socket.recognized side))
  /-- The end takes the name from another one, which is closed. -/
  | displaced {place heldPlace : Nat} {socket held : Socket} {side heldSide : Side}
      (found : sockets[place]? = some socket) (unnamed : socket.standing side = .unnamed)
      (underway : socket.incoming side = .underway) (heldFound : sockets[heldPlace]? = some held)
      (named : held.standing heldSide = .named) (together : held.owner heldSide = socket.owner side)
      (opposite : heldSide ≠ side) (preferred : socket.dialer = smaller) :
      Step smaller sockets
        ((sockets.set heldPlace (held.shut heldSide)).set place (socket.recognized side))
  /-- Another end keeps the name, and this one is closed. -/
  | refused {place heldPlace : Nat} {socket held : Socket} {side heldSide : Side}
      (found : sockets[place]? = some socket) (unnamed : socket.standing side = .unnamed)
      (underway : socket.incoming side = .underway) (heldFound : sockets[heldPlace]? = some held)
      (named : held.standing heldSide = .named) (together : held.owner heldSide = socket.owner side)
      (outranked : heldSide ≠ side → socket.dialer ≠ smaller) :
      Step smaller sockets (sockets.set place ((socket.hearing side).shut side))
  /-- The party finds that the other end is closed. -/
  | noticed {place : Nat} {socket : Socket} {side : Side} (found : sockets[place]? = some socket)
      (ended : socket.standing side.other = .gone) (present : socket.standing side ≠ .absent) :
      Step smaller sockets (sockets.set place (socket.shut side))

/-- A socket dialed by this party outranks every socket dialed by the other, as far as sockets were
taken. -/
def Preferred (smaller : Party) (sockets : List Socket) (dialer : Party) : Prop :=
  dialer = smaller ∨ ∀ socket ∈ sockets, socket.Taken → socket.dialer ≠ smaller

end PeerMesh.Crossing
