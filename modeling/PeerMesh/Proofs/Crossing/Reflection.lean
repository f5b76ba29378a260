import PeerMesh.Proofs.Crossing.Bookkeeping
import PeerMesh.Proofs.Crossing.Mirror

/-!
# All sockets and what the nodes have of them

The streams of the mesh and the ends that the two nodes pump are those of the sockets, and the nodes
pump no other ends. What changes one end changes its socket only.
-/

set_option autoImplicit false

namespace PeerMesh.Crossing

def endsOf (ends : Party → Endpoint → Option End) (socket : Socket) (place : Nat) (side : Side) :
    Option End :=
  ends (socket.owner side) ⟨place, side⟩

/-- The ends of both parties and the streams are those of the sockets. -/
structure Reflected (ids : Party → String) (ends : Party → Endpoint → Option End)
    (streams : List Stream) (sockets : List Socket) : Prop where
  lengths : streams.length = sockets.length
  mirrored : ∀ (place : Nat) (socket : Socket) (stream : Stream), sockets[place]? = some socket →
    streams[place]? = some stream → Mirrored ids socket (endsOf ends socket place) stream
  known : ∀ (party : Party) (endpoint : Endpoint) (view : End), ends party endpoint = some view →
    ∃ socket, sockets[endpoint.stream]? = some socket ∧ socket.owner endpoint.side = party

variable {ids : Party → String} {ends : Party → Endpoint → Option End} {streams : List Stream}
  {sockets : List Socket} {place : Nat} {socket changed : Socket} {stream later : Stream}
  {party : Party} {side : Side} {view : Option End}

theorem reflected_nil (ids : Party → String) :
    Reflected ids (fun _ _ => none) [] [] where
  lengths := rfl
  mirrored := by simp
  known := by simp

theorem Reflected.stream?_isSome (reflected : Reflected ids ends streams sockets)
    (found : sockets[place]? = some socket) : ∃ stream, streams[place]? = some stream := by
  have inside := (List.getElem?_eq_some_iff.mp found).1
  rw [← reflected.lengths] at inside
  exact ⟨_, List.getElem?_eq_getElem inside⟩

theorem Reflected.opened (reflected : Reflected ids ends streams sockets) (dialer : Party) :
    Reflected ids ends (streams ++ [.fresh]) (sockets ++ [.fresh dialer]) where
  lengths := by simp [reflected.lengths]
  mirrored := by
    intro place socket stream found streamFound
    rcases pair_of_concat reflected.lengths.symm found streamFound with
      ⟨old, streamOld⟩ | ⟨last, rfl, rfl⟩
    · exact reflected.mirrored place socket stream old streamOld
    · have unserved : endsOf ends (.fresh dialer) place = fun _ => none := by
        funext side
        cases search : endsOf ends (.fresh dialer) place side with
        | none => rfl
        | some view =>
            obtain ⟨known, knownFound, -⟩ := reflected.known _ _ view search
            have inside := (List.getElem?_eq_some_iff.mp knownFound).1
            simp only [last, Nat.lt_irrefl] at inside
      rw [unserved]
      exact mirrored_fresh ids dialer
  known := by
    intro party endpoint view search
    obtain ⟨known, knownFound, owned⟩ := reflected.known party endpoint view search
    refine ⟨known, ?_, owned⟩
    rw [List.getElem?_append_left (List.getElem?_eq_some_iff.mp knownFound).1, knownFound]

/-- The ends of the socket whose end has changed. -/
theorem endsOf_update (owned : socket.owner side = party) :
    endsOf (Function.update ends party (Function.update (ends party) ⟨place, side⟩ view)) socket
      place = Function.update (endsOf ends socket place) side view := by
  funext third
  simp only [endsOf, Function.update_apply]
  rcases Side.eq_or_eq_other side third with rfl | rfl
  · simp [owned]
  · have apart := Side.other_ne side
    rw [if_neg apart]
    split
    · rename_i same
      simp [apart, ← same]
    · rfl

theorem endsOf_update_of_ne {other : Nat} (different : place ≠ other) :
    endsOf (Function.update ends party (Function.update (ends party) ⟨place, side⟩ view)) socket
      other = endsOf ends socket other := by
  funext third
  simp only [endsOf, Function.update_apply]
  split
  · rename_i here
    rw [here, Function.update_of_ne]
    intro sameEnd
    exact different (congrArg Endpoint.stream sameEnd).symm
  · rfl

theorem endsOf_of_dialer_eq (sameDialer : changed.dialer = socket.dialer) :
    endsOf ends changed place = endsOf ends socket place := by
  funext third
  simp only [endsOf, Socket.owner_eq_of_dialer_eq sameDialer third]

/-- Who owns which ends does not change with a socket. -/
theorem exists_owner_of_set (found : sockets[place]? = some socket)
    (sameDialer : changed.dialer = socket.dialer) {endpoint : Endpoint}
    (owned : ∃ known, sockets[endpoint.stream]? = some known ∧ known.owner endpoint.side = party) :
    ∃ after, (sockets.set place changed)[endpoint.stream]? = some after ∧
      after.owner endpoint.side = party := by
  obtain ⟨known, knownFound, knownOwner⟩ := owned
  rw [getElem?_set_of_found found]
  split
  · rename_i same
    rw [← same, found] at knownFound
    cases knownFound
    exact ⟨changed, rfl, (Socket.owner_eq_of_dialer_eq sameDialer _).trans knownOwner⟩
  · exact ⟨known, knownFound, knownOwner⟩

/-- An end of one socket changes, and the socket with it. -/
theorem Reflected.set (reflected : Reflected ids ends streams sockets)
    (found : sockets[place]? = some socket) (streamFound : streams[place]? = some stream)
    (owned : socket.owner side = party)
    (mirrored : Mirrored ids changed (Function.update (endsOf ends socket place) side view) later)
    (sameDialer : changed.dialer = socket.dialer) :
    Reflected ids (Function.update ends party (Function.update (ends party) ⟨place, side⟩ view))
      (streams.set place later) (sockets.set place changed) where
  lengths := by simp [reflected.lengths]
  mirrored := by
    intro other after afterStream search searchStream
    rcases pair_of_set found streamFound search searchStream with
      ⟨rfl, rfl, rfl⟩ | ⟨different, old, oldStream⟩
    · have owner : changed.owner side = party :=
        (Socket.owner_eq_of_dialer_eq sameDialer side).trans owned
      rw [endsOf_update owner, endsOf_of_dialer_eq sameDialer]
      exact mirrored
    · rw [endsOf_update_of_ne different]
      exact reflected.mirrored other after afterStream old oldStream
  known := by
    intro third endpoint seen search
    refine exists_owner_of_set found sameDialer ?_
    by_cases same : third = party
    · subst same
      by_cases here : endpoint = ⟨place, side⟩
      · subst here
        exact ⟨socket, found, owned⟩
      · rw [Function.update_self, Function.update_of_ne here] at search
        exact reflected.known third endpoint seen search
    · rw [Function.update_of_ne same] at search
      exact reflected.known third endpoint seen search

end PeerMesh.Crossing
