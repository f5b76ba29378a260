import PeerMesh.Proofs.Process.Listening

/-!
# Starts that fail

A start whose catalog is installed fails in one of three places: at an address that cannot be bound,
at a port that the system chose and does not tell, or because there is nothing to bind. Wherever it
fails, and however many sockets it had bound by then, the process is as it was before, except that
the system goes on from a later port when it next chooses one.
-/

set_option autoImplicit false

namespace PeerMesh.Mesh

variable {mesh : Mesh} {binding next last : Binding} {address : Ipv4} {addresses : List Ipv4}
  {error : MeshError}

/-! ## Where a start stops -/

/-- Why one more address is not bound. -/
inductive Refuses (mesh : Mesh) (binding : Binding) (address : Ipv4) : OsError → Prop where
  | forbidden {reason : OsError} :
      mesh.unbindable.lookup (.v4 address) = some reason → Refuses mesh binding address reason
  | taken :
      mesh.unbindable.lookup (.v4 address) = none → binding.port ≠ 0 →
      (mesh.boundAddresses ++ binding.bound).any (conflicts address binding.port.toNat) = true →
      Refuses mesh binding address .addressInUse

theorem bindOne_eq_error_iff :
    mesh.bindOne binding address = .error error ↔
      ∃ reason, mesh.Refuses binding address reason ∧
        error = .bind (.v4 address binding.port) reason := by
  constructor
  · intro failed
    unfold bindOne at failed
    dsimp only at failed
    split at failed
    · rename_i reason forbidden
      cases failed
      exact ⟨reason, .forbidden forbidden, rfl⟩
    · rename_i allowed
      split at failed
      · cases failed
      · rename_i set
        split at failed
        · rename_i taken
          cases failed
          exact ⟨_, .taken allowed set taken, rfl⟩
        · cases failed
  · rintro ⟨reason, refuses, rfl⟩
    unfold bindOne
    cases refuses with
    | forbidden forbidden => simp only [forbidden]
    | taken allowed set taken => simp only [allowed, set, taken, if_true, if_false]

/-- Where a start stops that knows its catalog, with the sockets that it has bound by then. -/
inductive StopsAt (mesh : Mesh) (catalog : Catalog) (config : MeshConfig) :
    List SocketAddress → MeshError → Prop where
  | bind {early late : List Ipv4} {address : Ipv4} {binding : Binding} {reason : OsError} :
      listenAddresses catalog config = early ++ address :: late →
      (mesh.bindAll ⟨[], config.port, mesh.nextPort⟩ early).1 = .ok binding →
      mesh.Refuses binding address reason →
      StopsAt mesh catalog config binding.bound (.bind (.v4 address binding.port) reason)
  | portLookup {early late : List Ipv4} {address : Ipv4} {binding next : Binding}
      {reason : OsError} :
      listenAddresses catalog config = early ++ address :: late →
      (mesh.bindAll ⟨[], config.port, mesh.nextPort⟩ early).1 = .ok binding →
      mesh.bindOne binding address = .ok next → mesh.portFault? binding address = some reason →
      StopsAt mesh catalog config next.bound (.bind (.v4 .wildcard 0) reason)
  | noListeners :
      listenAddresses catalog config = [] →
      StopsAt mesh catalog config [] (.noListeners config.port)

theorem bindAll_cons_of_ok {rest : List Ipv4} (bound : mesh.bindOne binding address = .ok next)
    (told : mesh.portFault? binding address = none) :
    mesh.bindAll binding (address :: rest) = mesh.bindAll next rest := by
  rw [bindAll, bound]
  simp only [told]

theorem bindAll_append (bound : (mesh.bindAll binding addresses).1 = .ok last) (rest : List Ipv4) :
    mesh.bindAll binding (addresses ++ rest) = mesh.bindAll last rest := by
  induction addresses generalizing binding with
  | nil =>
      cases bound
      rfl
  | cons address later ih =>
      rw [bindAll] at bound
      split at bound
      · cases bound
      · rename_i next one
        split at bound
        · cases bound
        · rename_i told
          rw [List.cons_append, bindAll_cons_of_ok one told]
          exact ih bound

/-- The address at which binding stops, after all addresses before it have been bound. -/
theorem exists_of_bindAll_eq_error (failed : (mesh.bindAll binding addresses).1 = .error error) :
    ∃ early address late reached, addresses = early ++ address :: late ∧
      (mesh.bindAll binding early).1 = .ok reached ∧
      (mesh.bindOne reached address = .error error ∨
        ∃ next reason, mesh.bindOne reached address = .ok next ∧
          mesh.portFault? reached address = some reason ∧
          error = .bind (.v4 .wildcard 0) reason) := by
  induction addresses generalizing binding with
  | nil => cases failed
  | cons address rest ih =>
      rw [bindAll] at failed
      split at failed
      · rename_i refused
        cases failed
        exact ⟨[], address, rest, binding, rfl, rfl, .inl refused⟩
      · rename_i next one
        split at failed
        · rename_i reason untold
          cases failed
          exact ⟨[], address, rest, binding, rfl, rfl, .inr ⟨next, reason, one, untold, rfl⟩⟩
        · rename_i told
          obtain ⟨early, last, late, reached, rfl, bound, stops⟩ := ih failed
          refine ⟨address :: early, last, late, reached, rfl, ?_, stops⟩
          rw [bindAll_cons_of_ok one told]
          exact bound

theorem nextPort_le_bindOne (bound : mesh.bindOne binding address = .ok next) :
    binding.nextPort ≤ next.nextPort := by
  unfold bindOne at bound
  dsimp only at bound
  split at bound
  · cases bound
  · split at bound
    · cases bound
      exact Nat.le_succ_of_le (freePort_bounds _ _ _ _).1
    · split at bound
      · cases bound
      · cases bound
        exact Nat.le_refl _

/-- The choice of ports only goes on, whether all addresses can be bound or not. -/
theorem nextPort_le_bindAll (mesh : Mesh) (binding : Binding) (addresses : List Ipv4) :
    binding.nextPort ≤ (mesh.bindAll binding addresses).2 := by
  induction addresses generalizing binding with
  | nil => exact Nat.le_refl _
  | cons address rest ih =>
      rw [bindAll]
      split
      · exact Nat.le_refl _
      · rename_i next one
        have grown := nextPort_le_bindOne one
        split
        · exact grown
        · exact Nat.le_trans grown (ih next)

/-! ## What a failed start leaves -/

theorem updateContext_catalogued {number : Nat} {context : Context} {catalog : Catalog}
    (known : mesh.context? number = some context) (installed : context.catalog = some catalog) :
    (mesh.updateContext number fun context => { context with catalog := some catalog }) = mesh := by
  have same : mesh.contexts.modify number (fun entry =>
      { entry with context := { entry.context with catalog := some catalog } }) =
        mesh.contexts := by
    refine List.ext_getElem? ?_
    intro other
    rw [List.getElem?_modify]
    split
    · rename_i here
      subst here
      rw [context?] at known
      obtain ⟨entry, found, rfl⟩ := Option.map_eq_some_iff.mp known
      rw [found, ← installed]
      rfl
    · exact Option.map_id'
  rw [updateContext, same]

section Installed

variable {request : StartRequest} {context : Context} {catalog : Catalog} {nextPort : Nat}

theorem start_of_error (known : mesh.context? request.context = some context)
    (installed : context.catalog = some catalog)
    (bindings : mesh.bindAll ⟨[], request.config.port, mesh.nextPort⟩
      (listenAddresses catalog request.config) = (.error error, nextPort)) :
    mesh.start request = ({ mesh with nextPort }, .error error) := by
  have same := updateContext_catalogued known installed
  obtain ⟨entry, found, rfl⟩ := Option.map_eq_some_iff.mp known
  unfold start prepare
  simp only [found, catalogFor, installed, same, bindings]

theorem start_of_ok (known : mesh.context? request.context = some context)
    (installed : context.catalog = some catalog)
    (bindings : mesh.bindAll ⟨[], request.config.port, mesh.nextPort⟩
      (listenAddresses catalog request.config) = (.ok binding, nextPort)) :
    binding.bound = [] ∧
        mesh.start request = ({ mesh with nextPort }, .error (.noListeners binding.port)) ∨
      binding.bound ≠ [] ∧ ∃ number, (mesh.start request).2 = .ok number := by
  have same := updateContext_catalogued known installed
  obtain ⟨entry, found, rfl⟩ := Option.map_eq_some_iff.mp known
  unfold start prepare
  simp only [found, catalogFor, installed, same, bindings]
  cases bound : binding.bound with
  | nil => exact .inl ⟨rfl, rfl⟩
  | cons first rest => exact .inr ⟨List.cons_ne_nil _ _, _, rfl⟩

/-- A failed start changes nothing but where the choice of ports goes on. -/
theorem start_of_failed (known : mesh.context? request.context = some context)
    (installed : context.catalog = some catalog) (failed : (mesh.start request).2 = .error error) :
    ∃ nextPort, mesh.nextPort ≤ nextPort ∧ (mesh.start request).1 = { mesh with nextPort } := by
  have grown := nextPort_le_bindAll mesh ⟨[], request.config.port, mesh.nextPort⟩
    (listenAddresses catalog request.config)
  cases bindings : mesh.bindAll ⟨[], request.config.port, mesh.nextPort⟩
      (listenAddresses catalog request.config) with
  | mk outcome nextPort =>
      rw [bindings] at grown
      refine ⟨nextPort, grown, ?_⟩
      cases outcome with
      | error fault => rw [start_of_error known installed bindings]
      | ok binding =>
          rcases start_of_ok known installed bindings with ⟨-, stopped⟩ | ⟨-, number, started⟩
          · rw [stopped]
          · rw [started] at failed
            cases failed

/-- A start fails exactly where it stops. -/
theorem start_fails_iff (known : mesh.context? request.context = some context)
    (installed : context.catalog = some catalog) :
    (mesh.start request).2 = .error error ↔
      ∃ bound, mesh.StopsAt catalog request.config bound error := by
  constructor
  · intro failed
    cases bindings : mesh.bindAll ⟨[], request.config.port, mesh.nextPort⟩
        (listenAddresses catalog request.config) with
    | mk outcome nextPort =>
        cases outcome with
        | error fault =>
            rw [start_of_error known installed bindings] at failed
            cases failed
            obtain ⟨early, address, late, reached, split, bound, refused | untold⟩ :=
              exists_of_bindAll_eq_error (congrArg Prod.fst bindings)
            · obtain ⟨reason, refuses, rfl⟩ := bindOne_eq_error_iff.mp refused
              exact ⟨_, .bind split bound refuses⟩
            · obtain ⟨next, reason, one, untold, rfl⟩ := untold
              exact ⟨_, .portLookup split bound one untold⟩
        | ok binding =>
            rcases start_of_ok known installed bindings with
              ⟨nothing, stopped⟩ | ⟨-, number, started⟩
            · rw [stopped] at failed
              cases failed
              have ips := ips_bindAll (congrArg Prod.fst bindings)
              rw [nothing] at ips
              have none : listenAddresses catalog request.config = [] :=
                List.map_eq_nil_iff.mp ips.symm
              rw [none] at bindings
              cases bindings
              exact ⟨_, .noListeners none⟩
            · rw [started] at failed
              cases failed
  · rintro ⟨bound, stops⟩
    cases stops with
    | @bind early late address binding reason split bound refuses =>
        have refused := bindOne_eq_error_iff.mpr ⟨reason, refuses, rfl⟩
        have bindings := bindAll_append bound (address :: late)
        rw [← split, bindAll, refused] at bindings
        rw [start_of_error known installed bindings]
    | @portLookup early late address binding next reason split bound one untold =>
        have bindings := bindAll_append bound (address :: late)
        rw [← split, bindAll, one] at bindings
        simp only [untold] at bindings
        rw [start_of_error known installed bindings]
    | noListeners none =>
        have bindings : mesh.bindAll ⟨[], request.config.port, mesh.nextPort⟩
            (listenAddresses catalog request.config) =
              (.ok ⟨[], request.config.port, mesh.nextPort⟩, mesh.nextPort) := by
          rw [none]
          rfl
        rcases start_of_ok known installed bindings with ⟨-, stopped⟩ | ⟨some, -⟩
        · rw [stopped]
        · exact absurd rfl some

end Installed

/-! ## What was bound in the attempt -/

/-- An address that can be bound on its port. -/
def IsFree (mesh : Mesh) (socket : SocketAddress) : Prop :=
  ∃ address, socket = .v4 address socket.port ∧ ∀ nextPort,
    mesh.bindOne ⟨[], socket.port, nextPort⟩ address = .ok ⟨[socket], socket.port, nextPort⟩

theorem isFree_of_unopposed {port : UInt16} (allowed : mesh.unbindable.lookup (.v4 address) = none)
    (set : port ≠ 0) (unopposed : mesh.boundAddresses.any (conflicts address port.toNat) = false) :
    mesh.IsFree (.v4 address port) := by
  refine ⟨address, rfl, ?_⟩
  intro nextPort
  change mesh.bindOne ⟨[], port, nextPort⟩ address = .ok ⟨[.v4 address port], port, nextPort⟩
  simp [bindOne, allowed, set, unopposed]

/-- The system picks a port that is proper and free where it is left a choice. -/
def PicksFreePorts (mesh : Mesh) : Prop :=
  ∀ address,
    let port :=
      (freePort mesh.boundAddresses address mesh.boundAddresses.length mesh.nextPort).toUInt16
    port ≠ 0 ∧ mesh.boundAddresses.any (conflicts address port.toNat) = false

/-- The search for a free port finds one if it looks at more ports than there are sockets on the
ports from its first one on. -/
theorem conflicts_freePort (bound : List SocketAddress) (address : Ipv4) {tries port : Nat}
    (room : (bound.filter fun socket => port ≤ socket.port.toNat).length ≤ tries) :
    bound.any (conflicts address (freePort bound address tries port)) = false := by
  induction tries generalizing port with
  | zero =>
      rw [freePort, List.any_eq_false]
      intro socket member conflicting
      have beyond := List.eq_nil_of_length_eq_zero (Nat.le_zero.mp room)
      have here : socket ∈ bound.filter fun socket => port ≤ socket.port.toNat := by
        simp only [conflicts, Bool.and_eq_true, beq_iff_eq] at conflicting
        exact List.mem_filter.mpr ⟨member, decide_eq_true (Nat.le_of_eq conflicting.1.symm)⟩
      rw [beyond] at here
      cases here
  | succ tries ih =>
      rw [freePort]
      split
      · rename_i conflicting
        refine ih ?_
        -- The socket in the way is on the port itself, so fewer are on the ports after it.
        obtain ⟨socket, member, opposed⟩ := List.any_eq_true.mp conflicting
        simp only [conflicts, Bool.and_eq_true, beq_iff_eq] at opposed
        have narrower : (bound.filter fun socket => port + 1 ≤ socket.port.toNat) =
            (bound.filter fun socket => port ≤ socket.port.toNat).filter
              fun socket => port + 1 ≤ socket.port.toNat := by
          rw [List.filter_filter]
          refine List.filter_congr ?_
          intro other _
          by_cases later : port + 1 ≤ other.port.toNat
          · simp [later, Nat.le_of_succ_le later]
          · simp [later]
        have fewer : (bound.filter fun socket => port + 1 ≤ socket.port.toNat).length <
            (bound.filter fun socket => port ≤ socket.port.toNat).length := by
          rw [narrower, List.length_filter_lt_length_iff_exists]
          refine ⟨socket, List.mem_filter.mpr ⟨member, ?_⟩, ?_⟩
          · exact decide_eq_true (Nat.le_of_eq opposed.1.symm)
          · simp [opposed.1]
        omega
      · rename_i free
        exact Bool.eq_false_iff.mpr free

/-- The port that is picked is free as long as the search does not come to the end of the range. -/
theorem picksFreePorts_of_room (positive : 0 < mesh.nextPort)
    (room : mesh.nextPort + mesh.boundAddresses.length < 65536) : mesh.PicksFreePorts := by
  intro address
  have bounds :=
    freePort_bounds mesh.boundAddresses address mesh.boundAddresses.length mesh.nextPort
  have kept : (freePort mesh.boundAddresses address mesh.boundAddresses.length
      mesh.nextPort).toUInt16.toNat =
        freePort mesh.boundAddresses address mesh.boundAddresses.length mesh.nextPort := by
    rw [Nat.toUInt16_eq, UInt16.toNat_ofNat', Nat.mod_eq_of_lt (by omega)]
  refine ⟨picksProperPorts_of_room positive room address, ?_⟩
  rw [kept]
  exact conflicts_freePort _ address (List.length_filter_le _ _)

/-- What has been bound in an attempt was free before it. -/
structure Attempted (mesh : Mesh) (binding : Binding) : Prop where
  free : ∀ socket ∈ binding.bound, mesh.IsFree socket
  first : binding.port = 0 → binding.bound = [] ∧ binding.nextPort = mesh.nextPort

theorem allowed_of_bindOne (bound : mesh.bindOne binding address = .ok next) :
    mesh.unbindable.lookup (.v4 address) = none ∧
      (binding.port ≠ 0 → (mesh.boundAddresses ++ binding.bound).any
        (conflicts address binding.port.toNat) = false) := by
  have unrefused : ∀ reason, ¬ mesh.Refuses binding address reason := by
    intro reason refuses
    rw [bindOne_eq_error_iff.mpr ⟨reason, refuses, rfl⟩] at bound
    cases bound
  have allowed : mesh.unbindable.lookup (.v4 address) = none :=
    Option.eq_none_iff_forall_ne_some.mpr fun reason forbidden =>
      unrefused reason (.forbidden forbidden)
  refine ⟨allowed, ?_⟩
  intro set
  rw [Bool.eq_false_iff]
  intro taken
  exact unrefused _ (.taken allowed set taken)

theorem Attempted.bindOne (attempted : mesh.Attempted binding)
    (picks : binding.port = 0 → mesh.PicksFreePorts)
    (bound : mesh.bindOne binding address = .ok next) :
    mesh.Attempted next ∧ next.port ≠ 0 := by
  obtain ⟨allowed, unopposed⟩ := allowed_of_bindOne bound
  obtain ⟨sockets, given, picked⟩ := bindsNext_of_bindOne bound
  have fresh : next.port ≠ 0 ∧
      mesh.boundAddresses.any (conflicts address next.port.toNat) = false := by
    by_cases unset : binding.port = 0
    · obtain ⟨none, start⟩ := attempted.first unset
      have port := picked unset
      rw [none, start, List.append_nil] at port
      rw [port]
      exact picks unset address
    · rw [given unset]
      have apart := unopposed unset
      rw [List.any_append, Bool.or_eq_false_iff] at apart
      exact ⟨unset, apart.1⟩
  refine ⟨⟨?_, fun unset => absurd unset fresh.1⟩, fresh.1⟩
  intro socket member
  rw [sockets, List.mem_append, List.mem_singleton] at member
  rcases member with before | rfl
  · exact attempted.free socket before
  · exact isFree_of_unopposed allowed fresh.1 fresh.2

theorem Attempted.bindAll (attempted : mesh.Attempted binding)
    (picks : binding.port = 0 → mesh.PicksFreePorts)
    (bound : (mesh.bindAll binding addresses).1 = .ok last) :
    mesh.Attempted last ∧ (last.port = 0 → mesh.PicksFreePorts) := by
  induction addresses generalizing binding with
  | nil =>
      cases bound
      exact ⟨attempted, picks⟩
  | cons address rest ih =>
      rw [Mesh.bindAll] at bound
      split at bound
      · cases bound
      · rename_i next one
        obtain ⟨further, set⟩ := attempted.bindOne picks one
        split at bound
        · cases bound
        · exact ih further (fun unset => absurd unset set) bound

theorem StopsAt.free {catalog : Catalog} {config : MeshConfig} {bound : List SocketAddress}
    (stops : mesh.StopsAt catalog config bound error)
    (picks : config.port = 0 → mesh.PicksFreePorts) : ∀ socket ∈ bound, mesh.IsFree socket := by
  have begun : mesh.Attempted ⟨[], config.port, mesh.nextPort⟩ :=
    ⟨fun _ member => absurd member List.not_mem_nil, fun _ => ⟨rfl, rfl⟩⟩
  cases stops with
  | bind split bindings refuses => exact (begun.bindAll picks bindings).1.free
  | portLookup split bindings one untold =>
      obtain ⟨attempted, further⟩ := begun.bindAll picks bindings
      exact (attempted.bindOne further one).1.free
  | noListeners none => exact fun _ member => absurd member List.not_mem_nil

/-- A start that fails, whether at an address after any number of bound ones, at the port that the
system chose, or because there is nothing to bind, leaves the process as it was: its contexts, its
groups, and its nodes with their listeners and exit hooks. Only the choice of ports may go on from a
later one, and what was bound in the attempt can be bound again. -/
theorem failed_start_leaves_nothing (mesh : Mesh) (request : StartRequest) {context : Context}
    {catalog : Catalog} (known : mesh.context? request.context = some context)
    (installed : context.catalog = some catalog) {error : MeshError}
    (failed : (mesh.start request).2 = .error error) :
    let after := (mesh.start request).1
    (∃ nextPort, mesh.nextPort ≤ nextPort ∧ after = { mesh with nextPort }) ∧
      after.boundAddresses = mesh.boundAddresses ∧
      (∃ bound, mesh.StopsAt catalog request.config bound error) ∧
      ((request.config.port = 0 → mesh.PicksFreePorts) →
        ∀ bound, mesh.StopsAt catalog request.config bound error →
          ∀ socket ∈ bound, after.IsFree socket) := by
  intro after
  obtain ⟨nextPort, grown, same⟩ := start_of_failed known installed failed
  change after = _ at same
  refine ⟨⟨nextPort, grown, same⟩, ?_, (start_fails_iff known installed).mp failed, ?_⟩
  · rw [same]
    rfl
  · intro picks bound stops socket member
    rw [same]
    exact stops.free picks socket member

/-- A host on which one of three addresses is taken on the port that the system chooses next. -/
def partlyTaken : Mesh :=
  (tunnelled.start (onInterfaces 40000 ["eth1"])).1

/-- Two sockets have been bound when the third address turns out to be taken. -/
theorem failed_start_leaves_nothing_partlyTaken :
    let request := onInterfaces 0 ["eth0", "eth1"]
    let after := (partlyTaken.start request).1
    (partlyTaken.start request).2 =
        .error (.bind (.v4 ⟨10, 0, 1, 1⟩ 40000) .addressInUse) ∧
      (∃ nextPort, after = { partlyTaken with nextPort }) ∧
      after.boundAddresses = [.v4 ⟨10, 0, 1, 1⟩ 40000] ∧
      after.IsFree (.v4 ⟨10, 0, 0, 2⟩ 40000) := by
  intro request after
  have failed : (partlyTaken.start request).2 =
      .error (.bind (.v4 ⟨10, 0, 1, 1⟩ 40000) .addressInUse) := rfl
  have addresses : partlyTaken.boundAddresses = [.v4 ⟨10, 0, 1, 1⟩ 40000] := by decide
  have picks : partlyTaken.PicksFreePorts :=
    picksFreePorts_of_room (by decide) (by decide +kernel)
  let catalog : Catalog :=
    .ofInterfaces [⟨"eth0", .v4 ⟨10, 0, 0, 1⟩, true, false⟩,
      ⟨"eth0", .v4 ⟨10, 0, 0, 2⟩, true, false⟩, ⟨"eth1", .v4 ⟨10, 0, 1, 1⟩, true, false⟩,
      ⟨"tun", .v6 .loopback, true, false⟩]
  obtain ⟨context, known, installed⟩ : ∃ context, partlyTaken.context? 0 = some context ∧
      context.catalog = some catalog := ⟨_, rfl, rfl⟩
  let binding : Binding :=
    ⟨[.v4 ⟨10, 0, 0, 1⟩ 40000, .v4 ⟨10, 0, 0, 2⟩ 40000], 40000, 40001⟩
  have split : listenAddresses catalog request.config =
      [⟨10, 0, 0, 1⟩, ⟨10, 0, 0, 2⟩] ++ ⟨10, 0, 1, 1⟩ :: [] := by decide
  have bindings : (partlyTaken.bindAll ⟨[], 0, partlyTaken.nextPort⟩
      [⟨10, 0, 0, 1⟩, ⟨10, 0, 0, 2⟩]).1 = .ok binding := rfl
  have refuses : partlyTaken.Refuses binding ⟨10, 0, 1, 1⟩ .addressInUse :=
    .taken rfl (by decide) (by decide)
  obtain ⟨⟨nextPort, -, same⟩, sockets, -, free⟩ :=
    failed_start_leaves_nothing partlyTaken request known installed failed
  refine ⟨failed, ⟨nextPort, same⟩, sockets.trans addresses, ?_⟩
  refine free (fun _ => picks) binding.bound (.bind split bindings refuses) _ ?_
  exact List.mem_cons_of_mem _ List.mem_cons_self

end PeerMesh.Mesh
