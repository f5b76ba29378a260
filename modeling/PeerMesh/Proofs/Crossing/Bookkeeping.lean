import PeerMesh.Proofs.Crossing.Course
import PeerMesh.Proofs.Crossing.Sanity

/-!
# Dials, arrivals and sockets

Between its opening and its end a socket is in somebody's hands at both sides: as long as the caller
has not registered its end, the dial is under way; as long as the callee has not, the socket waits at
exactly one listener, or has not arrived. So no end is registered twice.
-/

set_option autoImplicit false

namespace PeerMesh.Crossing

section Pairs

variable {α β : Type} {left : List α} {right : List β} {place other : Nat} {old new found : α}
  {oldRight newRight foundRight : β}

theorem pair_of_set (here : left[place]? = some old) (hereRight : right[place]? = some oldRight)
    (search : (left.set place new)[other]? = some found)
    (searchRight : (right.set place newRight)[other]? = some foundRight) :
    place = other ∧ new = found ∧ newRight = foundRight ∨
      place ≠ other ∧ left[other]? = some found ∧ right[other]? = some foundRight := by
  rcases getElem?_of_set here search with ⟨same, isNew⟩ | ⟨different, isOld⟩
  · rcases getElem?_of_set hereRight searchRight with ⟨-, isNewRight⟩ | ⟨different, -⟩
    · exact .inl ⟨same, isNew, isNewRight⟩
    · exact absurd same different
  · rcases getElem?_of_set hereRight searchRight with ⟨same, -⟩ | ⟨-, isOldRight⟩
    · exact absurd same different
    · exact .inr ⟨different, isOld, isOldRight⟩

theorem getElem?_of_concat (search : (left ++ [new])[place]? = some found) :
    left[place]? = some found ∨ place = left.length ∧ found = new := by
  rw [List.getElem?_append, List.getElem?_singleton] at search
  split at search
  · exact .inl search
  · split at search
    · exact .inr ⟨by omega, (Option.some.inj search).symm⟩
    · cases search

theorem pair_of_concat (lengths : left.length = right.length)
    (search : (left ++ [new])[place]? = some found)
    (searchRight : (right ++ [newRight])[place]? = some foundRight) :
    left[place]? = some found ∧ right[place]? = some foundRight ∨
      place = left.length ∧ found = new ∧ foundRight = newRight := by
  rcases getElem?_of_concat search with here | ⟨last, same⟩
  · rcases getElem?_of_concat searchRight with hereRight | ⟨lastRight, -⟩
    · exact .inl ⟨here, hereRight⟩
    · have inside := (List.getElem?_eq_some_iff.mp here).1
      omega
  · rcases getElem?_of_concat searchRight with hereRight | ⟨-, sameRight⟩
    · have inside := (List.getElem?_eq_some_iff.mp hereRight).1
      omega
    · exact .inr ⟨last, same, sameRight⟩

end Pairs

/-! ## Dials -/

/-- How the dials go with the sockets that were opened for them. -/
structure Dialed (agenda : Party → List Dial × Nat) (openings : List Opening)
    (sockets : List Socket) : Prop where
  lengths : openings.length = sockets.length
  dialer : ∀ (place : Nat) (opening : Opening) (socket : Socket),
    openings[place]? = some opening → sockets[place]? = some socket →
      socket.dialer = opening.dialer
  issued : ∀ opening ∈ openings, opening.dial < (agenda opening.dialer).2
  distinct : ∀ (place other : Nat) (left right : Opening), openings[place]? = some left →
    openings[other]? = some right → left.dialer = right.dialer → left.dial = right.dial →
      place = other
  /-- The caller has not registered its end as long as the dial is under way. -/
  absent_iff : ∀ (place : Nat) (opening : Opening) (socket : Socket),
    openings[place]? = some opening → sockets[place]? = some socket →
      (socket.caller = .absent ↔ ∃ dial ∈ (agenda opening.dialer).1, dial.number = opening.dial)
  taken : ∀ (place : Nat) (opening : Opening) (socket : Socket), openings[place]? = some opening →
    sockets[place]? = some socket → opening.connected = true → socket.Taken

section Dials

variable {agenda : Party → List Dial × Nat} {openings : List Opening} {sockets : List Socket}
  {place : Nat} {opening later : Opening} {socket changed : Socket} {party : Party} {dial : Dial}

theorem dialed_nil (agenda : Party → List Dial × Nat) : Dialed agenda [] [] := by
  constructor <;> simp

theorem Dialed.requested (dialed : Dialed agenda openings sockets)
    (numbered : dial.number = (agenda party).2) :
    Dialed (Function.update agenda party ((agenda party).1 ++ [dial], (agenda party).2 + 1)) openings
      sockets where
  lengths := dialed.lengths
  dialer := dialed.dialer
  issued := by
    intro opening member
    have issued := dialed.issued opening member
    rw [Function.update_apply]
    split
    · rename_i same
      rw [same] at issued
      exact Nat.lt_succ_of_lt issued
    · exact issued
  distinct := dialed.distinct
  absent_iff := by
    intro place opening socket found socketFound
    have issued := dialed.issued opening (List.mem_of_getElem? found)
    rw [dialed.absent_iff place opening socket found socketFound, Function.update_apply]
    split
    · rename_i same
      rw [same] at issued ⊢
      simp only [List.mem_append, List.mem_singleton, or_and_right, exists_or, exists_eq_left]
      refine ⟨.inl, fun either => either.resolve_right ?_⟩
      omega
    · rfl
  taken := dialed.taken

theorem Dialed.opened (dialed : Dialed agenda openings sockets) (member : dial ∈ (agenda party).1)
    (issued : dial.number < (agenda party).2)
    (unopened : ∀ opening ∈ openings, opening.dialer = party → opening.dial ≠ dial.number) :
    Dialed agenda (openings ++ [⟨party, dial.number, none, false⟩]) (sockets ++ [.fresh party]) where
  lengths := by simp [dialed.lengths]
  dialer := by
    intro place opening socket found socketFound
    rcases pair_of_concat dialed.lengths found socketFound with ⟨old, socketOld⟩ | ⟨-, rfl, rfl⟩
    · exact dialed.dialer place opening socket old socketOld
    · rfl
  issued := by
    intro opening openingMember
    rcases List.mem_append.mp openingMember with old | fresh
    · exact dialed.issued opening old
    · rw [List.mem_singleton.mp fresh]
      exact issued
  distinct := by
    intro place other left right found otherFound sameDialer sameDial
    rcases getElem?_of_concat found with old | ⟨last, rfl⟩ <;>
      rcases getElem?_of_concat otherFound with otherOld | ⟨otherLast, rfl⟩
    · exact dialed.distinct place other left right old otherOld sameDialer sameDial
    · exact absurd sameDial (unopened left (List.mem_of_getElem? old) sameDialer)
    · exact absurd sameDial.symm (unopened right (List.mem_of_getElem? otherOld) sameDialer.symm)
    · rw [last, otherLast]
  absent_iff := by
    intro place opening socket found socketFound
    rcases pair_of_concat dialed.lengths found socketFound with ⟨old, socketOld⟩ | ⟨-, rfl, rfl⟩
    · exact dialed.absent_iff place opening socket old socketOld
    · exact iff_of_true rfl ⟨dial, member, rfl⟩
  taken := by
    intro place opening socket found socketFound connected
    rcases pair_of_concat dialed.lengths found socketFound with ⟨old, socketOld⟩ | ⟨-, rfl, rfl⟩
    · exact dialed.taken place opening socket old socketOld connected
    · cases connected

/-- A socket changes, and who has its caller's end does not. -/
theorem Dialed.set (dialed : Dialed agenda openings sockets)
    (socketFound : sockets[place]? = some socket) (sameDialer : changed.dialer = socket.dialer)
    (caller : changed.caller = .absent ↔ socket.caller = .absent)
    (taken : socket.Taken → changed.Taken) : Dialed agenda openings (sockets.set place changed) where
  lengths := by simp [dialed.lengths]
  dialer := by
    intro other opening after found search
    rcases getElem?_of_set socketFound search with ⟨rfl, rfl⟩ | ⟨-, old⟩
    · exact sameDialer.trans (dialed.dialer place opening socket found socketFound)
    · exact dialed.dialer other opening after found old
  issued := dialed.issued
  distinct := dialed.distinct
  absent_iff := by
    intro other opening after found search
    rcases getElem?_of_set socketFound search with ⟨rfl, rfl⟩ | ⟨-, old⟩
    · exact caller.trans (dialed.absent_iff place opening socket found socketFound)
    · exact dialed.absent_iff other opening after found old
  taken := by
    intro other opening after found search connected
    rcases getElem?_of_set socketFound search with ⟨rfl, rfl⟩ | ⟨-, old⟩
    · exact taken (dialed.taken place opening socket found socketFound connected)
    · exact dialed.taken other opening after found old connected

/-- After a change that leaves all dials, every opening had its dial before. -/
theorem exists_opening_of_set (found : openings[place]? = some opening) {other : Nat}
    {after : Opening} (search : (openings.set place later)[other]? = some after)
    (sameDialer : later.dialer = opening.dialer) (sameDial : later.dial = opening.dial) :
    ∃ before, openings[other]? = some before ∧ after.dialer = before.dialer ∧
      after.dial = before.dial := by
  rcases getElem?_of_set found search with ⟨rfl, rfl⟩ | ⟨-, old⟩
  · exact ⟨opening, found, sameDialer, sameDial⟩
  · exact ⟨after, old, rfl, rfl⟩

theorem Dialed.issued_set (dialed : Dialed agenda openings sockets)
    (found : openings[place]? = some opening) (sameDialer : later.dialer = opening.dialer)
    (sameDial : later.dial = opening.dial) :
    ∀ after ∈ openings.set place later, after.dial < (agenda after.dialer).2 := by
  intro after member
  obtain ⟨other, search⟩ := List.mem_iff_getElem?.mp member
  obtain ⟨before, old, dialer, dial⟩ := exists_opening_of_set found search sameDialer sameDial
  rw [dialer, dial]
  exact dialed.issued before (List.mem_of_getElem? old)

theorem Dialed.distinct_set (dialed : Dialed agenda openings sockets)
    (found : openings[place]? = some opening) (sameDialer : later.dialer = opening.dialer)
    (sameDial : later.dial = opening.dial) :
    ∀ (one other : Nat) (left right : Opening), (openings.set place later)[one]? = some left →
      (openings.set place later)[other]? = some right → left.dialer = right.dialer →
        left.dial = right.dial → one = other := by
  intro one other left right search otherSearch sameParty sameNumber
  obtain ⟨before, old, dialer, dial⟩ := exists_opening_of_set found search sameDialer sameDial
  obtain ⟨otherBefore, otherOld, otherDialer, otherDial⟩ :=
    exists_opening_of_set found otherSearch sameDialer sameDial
  refine dialed.distinct one other before otherBefore old otherOld ?_ ?_
  · rw [← dialer, ← otherDialer, sameParty]
  · rw [← dial, ← otherDial, sameNumber]

theorem Dialed.arrived (dialed : Dialed agenda openings sockets)
    (found : openings[place]? = some opening) (listener : Option Nat) :
    Dialed agenda (openings.set place { opening with listener }) sockets where
  lengths := by simp [dialed.lengths]
  dialer := by
    intro other after socket search socketFound
    obtain ⟨before, old, dialer, -⟩ := exists_opening_of_set found search rfl rfl
    rw [dialer]
    exact dialed.dialer other before socket old socketFound
  issued := dialed.issued_set found rfl rfl
  distinct := dialed.distinct_set found rfl rfl
  absent_iff := by
    intro other after socket search socketFound
    obtain ⟨before, old, dialer, dial⟩ := exists_opening_of_set found search rfl rfl
    rw [dialer, dial]
    exact dialed.absent_iff other before socket old socketFound
  taken := by
    intro other after socket search socketFound connected
    rcases getElem?_of_set found search with ⟨rfl, rfl⟩ | ⟨-, old⟩
    · exact dialed.taken place opening socket found socketFound connected
    · exact dialed.taken other after socket old socketFound connected

/-- Without one of its dials a party has the dials of all other sockets. -/
theorem dialing_without_iff {number : Nat}
    (other : opening.dialer = party → opening.dial ≠ number) :
    (∃ dial ∈ (Function.update agenda party
        ((agenda party).1.filter (·.number != number), (agenda party).2) opening.dialer).1,
      dial.number = opening.dial) ↔
        ∃ dial ∈ (agenda opening.dialer).1, dial.number = opening.dial := by
  rw [Function.update_apply]
  split
  · rename_i same
    have different := other same
    rw [same]
    constructor
    · rintro ⟨dial, member, numbered⟩
      exact ⟨dial, (List.mem_filter.mp member).1, numbered⟩
    · rintro ⟨dial, member, numbered⟩
      refine ⟨dial, List.mem_filter.mpr ⟨member, ?_⟩, numbered⟩
      rw [bne_iff_ne, numbered]
      exact different
  · rfl

theorem issued_without {number : Nat} :
    (Function.update agenda party ((agenda party).1.filter (·.number != number), (agenda party).2)
      opening.dialer).2 = (agenda opening.dialer).2 := by
  rw [Function.update_apply]
  split
  · rename_i same
    rw [same]
  · rfl

/-- A dial ends for which no socket was opened. -/
theorem Dialed.ended (dialed : Dialed agenda openings sockets) {number : Nat}
    (unopened : ∀ opening ∈ openings, opening.dialer = party → opening.dial ≠ number) :
    Dialed (Function.update agenda party
      ((agenda party).1.filter (·.number != number), (agenda party).2)) openings sockets where
  lengths := dialed.lengths
  dialer := dialed.dialer
  issued := by
    intro opening member
    rw [issued_without]
    exact dialed.issued opening member
  distinct := dialed.distinct
  absent_iff := by
    intro place opening socket found socketFound
    rw [dialing_without_iff (unopened opening (List.mem_of_getElem? found))]
    exact dialed.absent_iff place opening socket found socketFound
  taken := dialed.taken

/-- A dial ends for which a socket was opened, and the caller's end is dealt with. -/
theorem Dialed.settled (dialed : Dialed agenda openings sockets)
    (found : openings[place]? = some opening) (socketFound : sockets[place]? = some socket)
    (owned : opening.dialer = party) (sameDialer : changed.dialer = socket.dialer)
    (present : changed.caller ≠ .absent) (laterDialer : later.dialer = opening.dialer)
    (laterDial : later.dial = opening.dial) (taken : later.connected = true → changed.Taken) :
    Dialed (Function.update agenda party
        ((agenda party).1.filter (·.number != opening.dial), (agenda party).2))
      (openings.set place later) (sockets.set place changed) where
  lengths := by simp [dialed.lengths]
  dialer := by
    intro other after afterSocket search searchSocket
    rcases pair_of_set found socketFound search searchSocket with ⟨-, rfl, rfl⟩ | ⟨-, old, oldSocket⟩
    · rw [sameDialer, laterDialer]
      exact dialed.dialer place opening socket found socketFound
    · exact dialed.dialer other after afterSocket old oldSocket
  issued := by
    intro after member
    rw [issued_without]
    exact dialed.issued_set found laterDialer laterDial after member
  distinct := dialed.distinct_set found laterDialer laterDial
  absent_iff := by
    intro other after afterSocket search searchSocket
    rcases pair_of_set found socketFound search searchSocket with
      ⟨-, rfl, rfl⟩ | ⟨different, old, oldSocket⟩
    · refine iff_of_false present ?_
      rw [laterDialer, owned, Function.update_self, laterDial]
      rintro ⟨dial, member, numbered⟩
      have kept := (List.mem_filter.mp member).2
      simp [numbered] at kept
    · rw [dialing_without_iff]
      · exact dialed.absent_iff other after afterSocket old oldSocket
      · intro sameParty sameDial
        exact different (dialed.distinct place other opening after found old
          (owned.trans sameParty.symm) sameDial.symm)
  taken := by
    intro other after afterSocket search searchSocket connected
    rcases pair_of_set found socketFound search searchSocket with ⟨-, rfl, rfl⟩ | ⟨-, old, oldSocket⟩
    · exact taken connected
    · exact dialed.taken other after afterSocket old oldSocket connected

end Dials

/-! ## Arrivals -/

/-- The end that a listener is to accept. -/
def carried : Arrival → Option Endpoint
  | .connection _ socket => some socket
  | .failure _ => none

/-- An arrival at a listener of a party is a socket of the other party's that has arrived there and is
not registered yet. -/
def Waits (openings : List Opening) (sockets : List Socket) (party : Party) (position : Nat)
    (arrival : Arrival) : Prop :=
  ∃ remote place opening socket, arrival = .connection remote ⟨place, .callee⟩ ∧
    openings[place]? = some opening ∧ sockets[place]? = some socket ∧
    socket.dialer = party.other ∧ opening.listener = some position ∧ socket.callee = .absent

/-- How the sockets that wait at the listeners go with the sockets that have arrived. -/
structure Queued (listeners : Party → List Listener) (openings : List Opening)
    (sockets : List Socket) : Prop where
  apart : ∀ (party : Party) (position : Nat) (listener : Listener),
    (listeners party)[position]? = some listener → (listener.queue.map carried).Nodup
  waiting : ∀ (party : Party) (position : Nat) (listener : Listener),
    (listeners party)[position]? = some listener →
      ∀ arrival ∈ listener.queue, Waits openings sockets party position arrival
  awaited : ∀ (place : Nat) (opening : Opening) (socket : Socket) (position : Nat),
    openings[place]? = some opening → sockets[place]? = some socket →
    opening.listener = some position → socket.callee = .absent →
      ∃ listener, (listeners socket.dialer.other)[position]? = some listener ∧
        ∃ remote, Arrival.connection remote ⟨place, .callee⟩ ∈ listener.queue
  unarrived : ∀ (place : Nat) (opening : Opening) (socket : Socket),
    openings[place]? = some opening → sockets[place]? = some socket → opening.listener = none →
      socket.callee = .absent

section Arrivals

variable {listeners : Party → List Listener} {openings : List Opening} {sockets : List Socket}
  {place position : Nat} {opening later : Opening} {socket changed : Socket} {party : Party}
  {listener : Listener} {remote : SocketAddress} {arrival : Arrival}

/-- What is known of the socket that an arrival carries. -/
theorem Waits.of_carried (waits : Waits openings sockets party position arrival)
    (carries : carried arrival = some ⟨place, .callee⟩) (found : openings[place]? = some opening)
    (socketFound : sockets[place]? = some socket) :
    socket.dialer = party.other ∧ opening.listener = some position ∧ socket.callee = .absent := by
  obtain ⟨_, _, _, _, rfl, here, hereSocket, rest⟩ := waits
  cases carries
  rw [found] at here
  rw [socketFound] at hereSocket
  cases here
  cases hereSocket
  exact rest

theorem Waits.opened (waits : Waits openings sockets party position arrival)
    (newOpening : Opening) (newSocket : Socket) :
    Waits (openings ++ [newOpening]) (sockets ++ [newSocket]) party position arrival := by
  obtain ⟨remote, place, opening, socket, same, found, socketFound, rest⟩ := waits
  refine ⟨remote, place, opening, socket, same, ?_, ?_, rest⟩
  · rw [List.getElem?_append_left (List.getElem?_eq_some_iff.mp found).1, found]
  · rw [List.getElem?_append_left (List.getElem?_eq_some_iff.mp socketFound).1, socketFound]

/-- A socket that the arrival does not carry arrives. -/
theorem Waits.set_opening (waits : Waits openings sockets party position arrival)
    (found : openings[place]? = some opening)
    (different : carried arrival ≠ some ⟨place, .callee⟩) :
    Waits (openings.set place later) sockets party position arrival := by
  obtain ⟨remote, other, old, socket, rfl, oldFound, rest⟩ := waits
  refine ⟨remote, other, old, socket, rfl, ?_, rest⟩
  rw [getElem?_set_of_found found, if_neg, oldFound]
  rintro rfl
  exact different rfl

/-- A socket that the arrival does not carry changes. -/
theorem Waits.set_socket (waits : Waits openings sockets party position arrival)
    (socketFound : sockets[place]? = some socket)
    (different : carried arrival ≠ some ⟨place, .callee⟩) :
    Waits openings (sockets.set place changed) party position arrival := by
  obtain ⟨remote, other, old, oldSocket, rfl, oldFound, oldSocketFound, rest⟩ := waits
  refine ⟨remote, other, old, oldSocket, rfl, oldFound, ?_, rest⟩
  rw [getElem?_set_of_found socketFound, if_neg, oldSocketFound]
  rintro rfl
  exact different rfl

theorem Waits.set (waits : Waits openings sockets party position arrival)
    (found : openings[place]? = some opening) (socketFound : sockets[place]? = some socket)
    (sameDialer : changed.dialer = socket.dialer)
    (callee : changed.callee = .absent ↔ socket.callee = .absent)
    (sameListener : later.listener = opening.listener) :
    Waits (openings.set place later) (sockets.set place changed) party position arrival := by
  by_cases here : carried arrival = some ⟨place, .callee⟩
  · obtain ⟨owned, arrived, absent⟩ := waits.of_carried here found socketFound
    obtain ⟨remote, _, _, _, rfl, -⟩ := waits
    cases here
    refine ⟨remote, place, later, changed, rfl, ?_, ?_, sameDialer.trans owned,
      sameListener.trans arrived, callee.mpr absent⟩
    · rw [getElem?_set_of_found found, if_pos rfl]
    · rw [getElem?_set_of_found socketFound, if_pos rfl]
  · exact (waits.set_opening found here).set_socket socketFound here

theorem queued_fresh (listeners : Party → List Listener)
    (empty : ∀ party, ∀ listener ∈ listeners party, listener.queue = []) :
    Queued listeners [] [] where
  apart := by
    intro party position listener found
    rw [empty party listener (List.mem_of_getElem? found)]
    exact List.nodup_nil
  waiting := by
    intro party position listener found arrival member
    rw [empty party listener (List.mem_of_getElem? found)] at member
    cases member
  awaited := by simp
  unarrived := by simp

theorem Queued.opened (queued : Queued listeners openings sockets)
    (lengths : openings.length = sockets.length) (dial : Nat) :
    Queued listeners (openings ++ [⟨party, dial, none, false⟩]) (sockets ++ [.fresh party]) where
  apart := queued.apart
  waiting := by
    intro third position listener found arrival member
    exact (queued.waiting third position listener found arrival member).opened _ _
  awaited := by
    intro place opening socket position found socketFound arrived absent
    rcases pair_of_concat lengths found socketFound with ⟨old, socketOld⟩ | ⟨-, rfl, rfl⟩
    · exact queued.awaited place opening socket position old socketOld arrived absent
    · cases arrived
  unarrived := by
    intro place opening socket found socketFound unarrived
    rcases pair_of_concat lengths found socketFound with ⟨old, socketOld⟩ | ⟨-, rfl, rfl⟩
    · exact queued.unarrived place opening socket old socketOld unarrived
    · rfl

/-- A socket changes, and who has its callee's end does not. -/
theorem Queued.set (queued : Queued listeners openings sockets) (found : openings[place]? = some opening)
    (socketFound : sockets[place]? = some socket) (sameDialer : changed.dialer = socket.dialer)
    (callee : changed.callee = .absent ↔ socket.callee = .absent)
    (sameListener : later.listener = opening.listener) :
    Queued listeners (openings.set place later) (sockets.set place changed) where
  apart := queued.apart
  waiting := by
    intro third position listener listenerFound arrival member
    exact (queued.waiting third position listener listenerFound arrival member).set found socketFound
      sameDialer callee sameListener
  awaited := by
    intro other after afterSocket position search searchSocket arrived absent
    rcases pair_of_set found socketFound search searchSocket with
      ⟨rfl, rfl, rfl⟩ | ⟨-, old, oldSocket⟩
    · rw [sameListener] at arrived
      rw [sameDialer]
      exact queued.awaited place opening socket position found socketFound arrived
        (callee.mp absent)
    · exact queued.awaited other after afterSocket position old oldSocket arrived absent
  unarrived := by
    intro other after afterSocket search searchSocket unarrived
    rcases pair_of_set found socketFound search searchSocket with
      ⟨rfl, rfl, rfl⟩ | ⟨-, old, oldSocket⟩
    · rw [sameListener] at unarrived
      exact callee.mpr (queued.unarrived place opening socket found socketFound unarrived)
    · exact queued.unarrived other after afterSocket old oldSocket unarrived

theorem getElem?_relistened (listeners : Party → List Listener) (party third : Party)
    (position other : Nat) (change : Listener → Listener) :
    (Function.update listeners party ((listeners party).modify position change) third)[other]? =
      ((listeners third)[other]?).map fun listener =>
        if third = party ∧ other = position then change listener else listener := by
  rw [Function.update_apply]
  by_cases same : third = party
  · subst same
    rw [if_pos rfl, List.getElem?_modify]
    by_cases here : position = other
    · subst here
      simp
    · have elsewhere : other ≠ position := fun sameNow => here sameNow.symm
      simp [here, elsewhere]
  · rw [if_neg same]
    simp [same]

theorem Queued.arrived (queued : Queued listeners openings sockets)
    (found : openings[place]? = some opening) (socketFound : sockets[place]? = some socket)
    (owned : socket.dialer = party.other) (unarrived : opening.listener = none)
    (listenerFound : (listeners party)[position]? = some listener) :
    Queued
      (Function.update listeners party ((listeners party).modify position fun listener =>
        { listener with queue := listener.queue ++ [.connection remote ⟨place, .callee⟩] }))
      (openings.set place { opening with listener := some position }) sockets := by
  have nowhere : ∀ (third : Party) (other : Nat) (old : Listener),
      (listeners third)[other]? = some old → ∀ arrival ∈ old.queue,
        carried arrival ≠ some ⟨place, .callee⟩ := by
    intro third other old oldFound arrival member carries
    have waits := queued.waiting third other old oldFound arrival member
    have arrived := (waits.of_carried carries found socketFound).2.1
    rw [unarrived] at arrived
    cases arrived
  refine ⟨?_, ?_, ?_, ?_⟩
  · intro third other after search
    rw [getElem?_relistened, Option.map_eq_some_iff] at search
    obtain ⟨old, oldFound, rfl⟩ := search
    have apart := queued.apart third other old oldFound
    split
    · simp only [List.map_append, List.map_cons, List.map_nil, List.nodup_append]
      refine ⟨apart, by simp, ?_⟩
      intro endpoint before fresh added
      obtain ⟨arrival, member, rfl⟩ := List.mem_map.mp before
      rw [List.mem_singleton.mp added]
      exact nowhere third other old oldFound arrival member
    · exact apart
  · intro third other after search arrival member
    rw [getElem?_relistened, Option.map_eq_some_iff] at search
    obtain ⟨old, oldFound, rfl⟩ := search
    have before : ∀ arrival ∈ old.queue, Waits
        (openings.set place { opening with listener := some position }) sockets third other
        arrival := fun arrival member =>
      (queued.waiting third other old oldFound arrival member).set_opening found
        (nowhere third other old oldFound arrival member)
    split at member
    · rename_i here
      obtain ⟨rfl, rfl⟩ := here
      rcases List.mem_append.mp member with earlier | fresh
      · exact before arrival earlier
      · refine ⟨remote, place, { opening with listener := some other }, socket,
          List.mem_singleton.mp fresh, ?_, socketFound, owned, rfl,
          queued.unarrived place opening socket found socketFound unarrived⟩
        rw [getElem?_set_of_found found, if_pos rfl]
    · exact before arrival member
  · intro other after afterSocket third search searchSocket arrived absent
    simp only [getElem?_relistened, Option.map_eq_some_iff]
    rcases getElem?_of_set found search with ⟨rfl, rfl⟩ | ⟨-, old⟩
    · cases arrived
      rw [socketFound] at searchSocket
      cases searchSocket
      refine ⟨_, ⟨listener, ?_, rfl⟩, remote, ?_⟩
      · rw [owned, Party.other_other, listenerFound]
      · rw [owned, Party.other_other, if_pos ⟨rfl, rfl⟩]
        exact List.mem_append_right _ List.mem_cons_self
    · obtain ⟨before, beforeFound, beforeRemote, member⟩ :=
        queued.awaited other after afterSocket third old searchSocket arrived absent
      refine ⟨_, ⟨before, beforeFound, rfl⟩, beforeRemote, ?_⟩
      split
      · exact List.mem_append_left _ member
      · exact member
  · intro other after afterSocket search searchSocket still
    rcases getElem?_of_set found search with ⟨rfl, rfl⟩ | ⟨-, old⟩
    · cases still
    · exact queued.unarrived other after afterSocket old searchSocket still

/-- The socket that a listener hands to its node waits nowhere else. -/
theorem Queued.different_of_rest (queued : Queued listeners openings sockets)
    (listenerFound : (listeners party)[position]? = some listener) {rest : List Arrival}
    (queue : listener.queue = .connection remote ⟨place, .callee⟩ :: rest) {third : Party}
    {other : Nat} {old : Listener} (oldFound : (listeners third)[other]? = some old)
    (member : arrival ∈ (if third = party ∧ other = position
      then { old with queue := old.queue.tail } else old).queue) :
    arrival ∈ old.queue ∧ carried arrival ≠ some ⟨place, .callee⟩ := by
  split at member
  · rename_i here
    obtain ⟨rfl, rfl⟩ := here
    rw [listenerFound] at oldFound
    cases oldFound
    have apart := queued.apart third other listener listenerFound
    rw [queue, List.map_cons, List.nodup_cons] at apart
    rw [queue, List.tail_cons] at member
    refine ⟨by rw [queue]; exact List.mem_cons_of_mem _ member, ?_⟩
    intro sameEnd
    exact apart.1 (List.mem_map.mpr ⟨arrival, member, sameEnd⟩)
  · rename_i different
    refine ⟨member, ?_⟩
    intro sameEnd
    obtain ⟨_, _, opening, socket, first, found, socketFound, owned, arrived, -⟩ :=
      queued.waiting party position listener listenerFound (.connection remote ⟨place, .callee⟩)
        (by rw [queue]; exact List.mem_cons_self)
    cases first
    obtain ⟨otherOwned, otherArrived, -⟩ :=
      (queued.waiting third other old oldFound arrival member).of_carried sameEnd found socketFound
    rw [arrived] at otherArrived
    refine different ⟨?_, (Option.some.inj otherArrived).symm⟩
    rw [← Party.other_other third, ← otherOwned, owned, Party.other_other]

/-- A listener hands the socket that came first to its node. -/
theorem Queued.accepted (queued : Queued listeners openings sockets)
    (listenerFound : (listeners party)[position]? = some listener) {rest : List Arrival}
    (queue : listener.queue = .connection remote ⟨place, .callee⟩ :: rest)
    (found : openings[place]? = some opening) (arrived : opening.listener = some position)
    (socketFound : sockets[place]? = some socket) (present : changed.callee ≠ .absent) :
    Queued
      (Function.update listeners party ((listeners party).modify position fun listener =>
        { listener with queue := listener.queue.tail }))
      openings (sockets.set place changed) where
  apart := by
    intro third other after search
    rw [getElem?_relistened, Option.map_eq_some_iff] at search
    obtain ⟨old, oldFound, rfl⟩ := search
    have oldApart := queued.apart third other old oldFound
    split
    · exact oldApart.sublist ((List.tail_sublist _).map _)
    · exact oldApart
  waiting := by
    intro third other after search arrival member
    rw [getElem?_relistened, Option.map_eq_some_iff] at search
    obtain ⟨old, oldFound, rfl⟩ := search
    obtain ⟨oldMember, different⟩ :=
      queued.different_of_rest listenerFound queue oldFound member
    exact (queued.waiting third other old oldFound arrival oldMember).set_socket socketFound different
  awaited := by
    intro other after afterSocket third search searchSocket arrivedNow absentNow
    rcases getElem?_of_set socketFound searchSocket with ⟨rfl, rfl⟩ | ⟨different, oldSocket⟩
    · exact absurd absentNow present
    · obtain ⟨old, oldFound, oldRemote, member⟩ :=
        queued.awaited other after afterSocket third search oldSocket arrivedNow absentNow
      simp only [getElem?_relistened, Option.map_eq_some_iff]
      refine ⟨_, ⟨old, oldFound, rfl⟩, oldRemote, ?_⟩
      split
      · rename_i here
        obtain ⟨sameParty, rfl⟩ := here
        rw [sameParty, listenerFound] at oldFound
        cases oldFound
        rw [queue] at member ⊢
        rcases List.mem_cons.mp member with first | later
        · cases first
          exact absurd rfl different
        · exact later
      · exact member
  unarrived := by
    intro other after afterSocket search searchSocket still
    rcases getElem?_of_set socketFound searchSocket with ⟨rfl, rfl⟩ | ⟨-, oldSocket⟩
    · rw [found] at search
      cases search
      rw [arrived] at still
      cases still
    · exact queued.unarrived other after afterSocket search oldSocket still

end Arrivals

/-! ## Registered ends -/

/-- A socket that has changed, with the same ends registered. -/
structure Resembles (socket later : Socket) : Prop where
  dialer : later.dialer = socket.dialer
  caller : later.caller = .absent ↔ socket.caller = .absent
  callee : later.callee = .absent ↔ socket.callee = .absent
  taken : socket.Taken → later.Taken

theorem resembles_refl (socket : Socket) : Resembles socket socket :=
  ⟨rfl, Iff.rfl, Iff.rfl, id⟩

theorem resembles_shut {socket : Socket} {side : Side} (present : socket.standing side ≠ .absent) :
    Resembles socket (socket.shut side) := by
  cases side with
  | caller => exact ⟨rfl, iff_of_false (by simp [Socket.shut]) present, Iff.rfl, id⟩
  | callee => exact ⟨rfl, Iff.rfl, iff_of_false (by simp [Socket.shut]) present, id⟩

theorem resembles_recognized {socket : Socket} {side : Side}
    (present : socket.standing side ≠ .absent) : Resembles socket (socket.recognized side) := by
  cases side with
  | caller =>
      exact ⟨rfl, iff_of_false (by simp [Socket.recognized]) present, Iff.rfl, id⟩
  | callee =>
      refine ⟨rfl, Iff.rfl, iff_of_false (by simp [Socket.recognized]) present, ?_⟩
      intro _
      simp [Socket.Taken, Socket.recognized]

theorem resembles_refused {socket : Socket} {side : Side}
    (present : socket.standing side ≠ .absent) :
    Resembles socket ((socket.hearing side).shut side) := by
  cases side with
  | caller =>
      exact ⟨rfl, iff_of_false (by simp [Socket.shut, Socket.hearing]) present, Iff.rfl, id⟩
  | callee =>
      refine ⟨rfl, Iff.rfl, iff_of_false (by simp [Socket.shut, Socket.hearing]) present, ?_⟩
      intro _
      simp [Socket.Taken, Socket.shut, Socket.hearing]

section Both

variable {agenda : Party → List Dial × Nat} {listeners : Party → List Listener}
  {openings : List Opening} {sockets : List Socket} {place : Nat} {socket changed : Socket}

theorem Dialed.resembling (dialed : Dialed agenda openings sockets)
    (socketFound : sockets[place]? = some socket) (resembles : Resembles socket changed) :
    Dialed agenda openings (sockets.set place changed) :=
  dialed.set socketFound resembles.dialer resembles.caller resembles.taken

theorem Queued.resembling (queued : Queued listeners openings sockets)
    (lengths : openings.length = sockets.length) (socketFound : sockets[place]? = some socket)
    (resembles : Resembles socket changed) : Queued listeners openings (sockets.set place changed) := by
  have inside := (List.getElem?_eq_some_iff.mp socketFound).1
  rw [← lengths] at inside
  have found := List.getElem?_eq_getElem inside
  have both : Queued listeners (openings.set place openings[place]) (sockets.set place changed) :=
    queued.set found socketFound resembles.dialer resembles.callee rfl
  rwa [List.set_getElem_self] at both

end Both

end PeerMesh.Crossing
