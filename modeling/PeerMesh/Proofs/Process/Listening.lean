import PeerMesh.Proofs.Node.OwnAddress
import PeerMesh.Proofs.Process.Preservation
import PeerMesh.Proofs.Process.Requests

/-!
# What a node listens on

A start binds the addresses of the configured interfaces one after the other. The first socket
settles the port, if it was left to the system, and every later one is bound on that port. Interfaces
that the host does not have are passed over. One that it has gives the node its name even where it
has no IPv4 address, so that nothing was bound on it.
-/

set_option autoImplicit false

namespace PeerMesh.Mesh

variable {mesh before after : Mesh} {binding next last : Binding} {address : Ipv4}
  {addresses : List Ipv4}

/-! ## One address -/

/-- What is bound with one more address. -/
structure BindsNext (mesh : Mesh) (binding : Binding) (address : Ipv4) (next : Binding) : Prop where
  bound : next.bound = binding.bound ++ [.v4 address next.port]
  given : binding.port ≠ 0 → next.port = binding.port
  picked : binding.port = 0 → next.port =
    (freePort (mesh.boundAddresses ++ binding.bound) address
      (mesh.boundAddresses ++ binding.bound).length binding.nextPort).toUInt16

theorem bindsNext_of_bindOne (success : mesh.bindOne binding address = .ok next) :
    mesh.BindsNext binding address next := by
  unfold bindOne at success
  dsimp only at success
  split at success
  · cases success
  · split at success
    · rename_i unset
      cases success
      exact ⟨rfl, fun set => absurd unset set, fun _ => rfl⟩
    · rename_i set
      split at success
      · cases success
      · cases success
        exact ⟨rfl, fun _ => rfl, fun unset => absurd unset set⟩

/-! ## All addresses -/

theorem bindAll_cons_eq_ok {rest : List Ipv4}
    (success : (mesh.bindAll binding (address :: rest)).1 = .ok last) :
    ∃ next, mesh.BindsNext binding address next ∧ (mesh.bindAll next rest).1 = .ok last := by
  rw [bindAll] at success
  split at success
  · cases success
  · rename_i next bound
    split at success
    · cases success
    · exact ⟨next, bindsNext_of_bindOne bound, success⟩

/-- Whatever becomes of the port, every address is bound. -/
theorem ips_bindAll (success : (mesh.bindAll binding addresses).1 = .ok last) :
    last.bound.map (·.ip) = binding.bound.map (·.ip) ++ addresses.map Ip.v4 := by
  induction addresses generalizing binding with
  | nil =>
      cases success
      exact (List.append_nil _).symm
  | cons address rest ih =>
      obtain ⟨next, binds, success⟩ := bindAll_cons_eq_ok success
      rw [ih success, binds.bound, List.map_append, List.append_assoc]
      rfl

/-- Once the port is settled, every address is bound on it. -/
theorem bound_bindAll_of_port (set : binding.port ≠ 0)
    (success : (mesh.bindAll binding addresses).1 = .ok last) :
    last.port = binding.port ∧
      last.bound = binding.bound ++ addresses.map fun address => .v4 address binding.port := by
  induction addresses generalizing binding with
  | nil =>
      cases success
      exact ⟨rfl, (List.append_nil _).symm⟩
  | cons address rest ih =>
      obtain ⟨next, binds, success⟩ := bindAll_cons_eq_ok success
      have same := binds.given set
      obtain ⟨port, bound⟩ := ih (same ▸ set) success
      refine ⟨port.trans same, ?_⟩
      rw [bound, binds.bound, same, List.append_assoc]
      rfl

/-- The system picks no port zero where it is left a choice. -/
def PicksProperPorts (mesh : Mesh) : Prop :=
  ∀ address, (freePort mesh.boundAddresses address mesh.boundAddresses.length
    mesh.nextPort).toUInt16 ≠ 0

theorem freePort_bounds (bound : List SocketAddress) (address : Ipv4) (tries port : Nat) :
    port ≤ freePort bound address tries port ∧ freePort bound address tries port ≤ port + tries := by
  induction tries generalizing port with
  | zero => exact ⟨Nat.le_refl _, Nat.le_refl _⟩
  | succ tries ih =>
      rw [freePort]
      split
      · have := ih (port + 1)
        omega
      · omega

/-- There is a proper port to pick as long as the search does not come to the end of the range. -/
theorem picksProperPorts_of_room (positive : 0 < mesh.nextPort)
    (room : mesh.nextPort + mesh.boundAddresses.length < 65536) : mesh.PicksProperPorts := by
  intro address none
  have bounds := freePort_bounds mesh.boundAddresses address mesh.boundAddresses.length mesh.nextPort
  have same := congrArg UInt16.toNat none
  rw [Nat.toUInt16_eq, UInt16.toNat_ofNat', Nat.mod_eq_of_lt (by omega)] at same
  change _ = 0 at same
  omega

/-- All addresses are bound on one port. -/
theorem bound_bindAll {port : UInt16} (proper : port = 0 → mesh.PicksProperPorts)
    (success : (mesh.bindAll ⟨[], port, mesh.nextPort⟩ addresses).1 = .ok last) :
    last.bound = addresses.map (fun address => .v4 address last.port) ∧
      (addresses ≠ [] → last.port ≠ 0) ∧ (port ≠ 0 → last.port = port) := by
  cases addresses with
  | nil =>
      cases success
      exact ⟨rfl, fun some => absurd rfl some, fun _ => rfl⟩
  | cons address rest =>
      obtain ⟨next, binds, success⟩ := bindAll_cons_eq_ok success
      have set : next.port ≠ 0 := by
        by_cases unset : port = 0
        · have picked := binds.picked unset
          rw [List.append_nil] at picked
          rw [picked]
          exact proper unset address
        · rw [binds.given unset]
          exact unset
      obtain ⟨same, bound⟩ := bound_bindAll_of_port set success
      refine ⟨?_, fun _ => same ▸ set, fun given => same.trans (binds.given given)⟩
      rw [bound, binds.bound, same]
      rfl

/-- What is bound does not depend on the contexts. -/
theorem bindAll_updateContext (mesh : Mesh) (number : Nat) (change : Context → Context)
    (binding : Binding) (addresses : List Ipv4) :
    (mesh.updateContext number change).bindAll binding addresses =
      mesh.bindAll binding addresses := by
  have one : ∀ binding address,
      (mesh.updateContext number change).bindOne binding address = mesh.bindOne binding address :=
    fun _ _ => rfl
  have told : ∀ binding address,
      (mesh.updateContext number change).portFault? binding address =
        mesh.portFault? binding address :=
    fun _ _ => rfl
  induction addresses generalizing binding with
  | nil => rfl
  | cons address rest ih =>
      rw [bindAll, bindAll, one, told]
      split
      · rfl
      · split
        · rfl
        · exact ih _

/-! ## Starting -/

/-- The catalog with which a node is started. -/
def StartsWith (mesh : Mesh) (request : StartRequest) (catalog : Catalog) : Prop :=
  ∃ context, mesh.context? request.context = some context ∧
    mesh.catalogFor context = .ok catalog

/-- A node as a start makes it of what was bound. -/
structure Opens (before : Mesh) (request : StartRequest) (catalog : Catalog) (binding : Binding)
    (node : Node) : Prop where
  starts : before.StartsWith request catalog
  binds : (before.bindAll ⟨[], request.config.port, before.nextPort⟩
    (listenAddresses catalog request.config)).1 = .ok binding
  bound : binding.bound ≠ []
  interface : node.profile.interface = nodeInterface? catalog request.config
  port : node.profile.port = binding.port
  localAddresses : node.profile.localAddresses = binding.bound
  listeners : node.listeners = binding.bound.map .fresh
  id : ∃ base, node.profile.id = nodeId base node.profile.port node.profile.interface

/-- A node that is made of what was bound. -/
theorem opens_prepare {request : StartRequest} {listening : Mesh} {profile : Profile}
    (prepared : mesh.prepare request = (listening, .ok profile)) (moment : Nat) :
    ∃ catalog binding, mesh.Opens request catalog binding (freshNode profile request moment) := by
  unfold prepare at prepared
  split at prepared
  · cases prepared
  · rename_i holder found
    split at prepared
    · cases prepared
    · rename_i catalog catalogued
      dsimp only at prepared
      split at prepared
      · cases prepared
      · rename_i binding nextPort bindings
        split at prepared
        · cases prepared
        · rename_i bound
          cases prepared
          refine ⟨catalog, binding, ⟨holder.context, ?_, catalogued⟩, ?_, ?_, rfl, rfl, rfl, rfl, _,
            rfl⟩
          · rw [context?, found, Option.map_some]
          · rw [bindAll_updateContext] at bindings
            exact congrArg Prod.fst bindings
          · intro none
            exact bound (List.isEmpty_iff.mpr none)

theorem opens_start {request : StartRequest} {number : Nat}
    (started : (mesh.start request).2 = .ok number) :
    ∃ catalog binding entry, (mesh.start request).1.nodes[number]? = some entry ∧
      mesh.Opens request catalog binding entry.node := by
  unfold start at started ⊢
  split at started
  · cases started
  · rename_i listening profile prepared
    obtain ⟨launched, last⟩ := launched_launch listening request profile
    cases started.symm.trans (congrArg Except.ok last)
    obtain ⟨entry, there, -, -, node⟩ := launched.added
    obtain ⟨catalog, binding, opens⟩ := opens_prepare prepared listening.moment
    exact ⟨catalog, binding, entry, there, node ▸ opens⟩

/-! ## Names of interfaces -/

/-- A name is the last of several for which something holds. -/
def IsLast (names : List String) (holds : String → Prop) (name : String) : Prop :=
  ∃ early late, names = early ++ name :: late ∧ holds name ∧ ∀ other ∈ late, ¬ holds other

/-- The host has an interface of that name. -/
def Knows (catalog : Catalog) (name : String) : Prop :=
  (catalog.addressesOf? name).isSome = true

/-- The node goes by the last configured interface that the host has. -/
theorem isLast_of_nodeInterface? {catalog : Catalog} {config : MeshConfig} {name : String}
    (goesBy : nodeInterface? catalog config = some name) :
    IsLast config.interfaces (Knows catalog) name := by
  obtain ⟨⟨_, addresses⟩, last, rfl⟩ := Option.map_eq_some_iff.mp goesBy
  obtain ⟨front, split⟩ := List.getLast?_eq_some_iff.mp last
  obtain ⟨early, rest, names, -, known⟩ := List.filterMap_eq_append_iff.mp split
  obtain ⟨between, name, late, same, -, addressed, others⟩ := List.filterMap_eq_cons_iff.mp known
  obtain ⟨_, found, pair⟩ := Option.map_eq_some_iff.mp addressed
  cases pair
  refine ⟨early ++ between, late, by rw [names, same, List.append_assoc],
    Option.isSome_of_eq_some found, ?_⟩
  intro other member known
  have unknown := List.filterMap_eq_nil_iff.mp others other member
  rw [Option.map_eq_none_iff] at unknown
  rw [Knows, unknown] at known
  cases known

/-- A listener was bound on an interface. -/
def ListensOn (catalog : Catalog) (node : Node) (name : String) : Prop :=
  ∃ listener ∈ node.listeners, ∃ addresses, catalog.addressesOf? name = some addresses ∧
    ∃ address ∈ addresses, listener.address.ip = .v4 address

theorem Opens.ips {request : StartRequest} {catalog : Catalog} {node : Node}
    (opens : before.Opens request catalog binding node) :
    node.listeners.map (·.address.ip) = (listenAddresses catalog request.config).map Ip.v4 := by
  have ips := ips_bindAll opens.binds
  rw [opens.listeners, List.map_map, ← List.nil_append (List.map Ip.v4 _)]
  exact ips

theorem Opens.listensOn_iff {request : StartRequest} {catalog : Catalog} {node : Node}
    (opens : before.Opens request catalog binding node) {name : String}
    (member : name ∈ request.config.interfaces) :
    ListensOn catalog node name ↔
      ∃ addresses, catalog.addressesOf? name = some addresses ∧ addresses ≠ [] := by
  constructor
  · rintro ⟨listener, listens, addresses, known, address, among, -⟩
    exact ⟨addresses, known, List.ne_nil_of_mem among⟩
  · rintro ⟨addresses, known, some⟩
    obtain ⟨address, among⟩ := List.exists_mem_of_ne_nil addresses some
    have named : request.config.interfaces.isEmpty = false := by
      rw [List.isEmpty_eq_false_iff]
      exact List.ne_nil_of_mem member
    have asked : Ip.v4 address ∈ node.listeners.map (·.address.ip) := by
      rw [opens.ips, listenAddresses, named]
      refine List.mem_map_of_mem (List.mem_flatMap.mpr ⟨(name, addresses), ?_, among⟩)
      refine List.mem_filterMap.mpr ⟨name, member, ?_⟩
      rw [known, Option.map_some]
    obtain ⟨listener, listens, same⟩ := List.mem_map.mp asked
    exact ⟨listener, listens, addresses, known, address, among, same⟩

/-- Where something was bound on configured interfaces, the host has one of them. -/
theorem Opens.exists_interface {request : StartRequest} {catalog : Catalog} {node : Node}
    (opens : before.Opens request catalog binding node)
    (named : request.config.interfaces ≠ []) :
    ∃ name, node.profile.interface = some name := by
  rw [opens.interface, nodeInterface?]
  cases last : (knownInterfaces catalog request.config.interfaces).getLast? with
  | some known => exact ⟨known.1, rfl⟩
  | none =>
      have ips := ips_bindAll opens.binds
      rw [listenAddresses, if_neg (by simpa using named), List.getLast?_eq_none_iff.mp last] at ips
      exact absurd (List.map_eq_nil_iff.mp ips) opens.bound

/-- A node that listens on configured interfaces goes by the last of them that the host has. That is
the last one on which something was bound if and only if it has an IPv4 address. -/
theorem goes_by_last_bound_iff (mesh : Mesh) (request : StartRequest) {number : Nat}
    (started : (mesh.start request).2 = .ok number) (named : request.config.interfaces ≠ []) :
    ∃ catalog entry name, mesh.StartsWith request catalog ∧
      (mesh.start request).1.nodes[number]? = some entry ∧
      entry.node.profile.interface = some name ∧
      (∃ base, entry.node.profile.id = nodeId base entry.node.profile.port (some name)) ∧
      IsLast request.config.interfaces (Knows catalog) name ∧
      (IsLast request.config.interfaces (ListensOn catalog entry.node) name ↔
        catalog.addressesOf? name ≠ some []) := by
  obtain ⟨catalog, binding, entry, found, opens⟩ := opens_start started
  obtain ⟨name, goesBy⟩ := opens.exists_interface named
  have last := isLast_of_nodeInterface? (opens.interface.symm.trans goesBy)
  obtain ⟨early, late, names, known, others⟩ := last
  have configured : name ∈ request.config.interfaces := by
    rw [names]
    exact List.mem_append_right early List.mem_cons_self
  refine ⟨catalog, entry, name, opens.starts, found, goesBy, goesBy ▸ opens.id,
    ⟨early, late, names, known, others⟩, ?_⟩
  constructor
  · rintro ⟨-, -, -, listens, -⟩ nothing
    obtain ⟨addresses, addressed, some⟩ := (opens.listensOn_iff configured).mp listens
    rw [nothing] at addressed
    cases addressed
    exact some rfl
  · intro addressed
    obtain ⟨addresses, found⟩ := Option.isSome_iff_exists.mp known
    refine ⟨early, late, names, (opens.listensOn_iff configured).mpr ⟨addresses, found, ?_⟩, ?_⟩
    · rintro rfl
      exact addressed found
    · rintro other member ⟨-, -, others', there, -⟩
      exact others other member (Option.isSome_of_eq_some there)

/-- A host with two addresses on one interface, one on another, and a tunnel without an IPv4 address.
-/
def tunnelled : Mesh :=
  (initial [] "/" .empty).course
    [.addsContext "m" (some (.ofInterfaces [⟨"eth0", .v4 ⟨10, 0, 0, 1⟩, true, false⟩,
      ⟨"eth0", .v4 ⟨10, 0, 0, 2⟩, true, false⟩, ⟨"eth1", .v4 ⟨10, 0, 1, 1⟩, true, false⟩,
      ⟨"tun", .v6 .loopback, true, false⟩])) false]

def onInterfaces (port : UInt16) (interfaces : List String) : StartRequest :=
  ⟨{ MeshConfig.withPort port with interfaces }, 0, none, true, false⟩

/-- The node goes by the tunnel, on which nothing was bound. -/
theorem goes_by_tunnel :
    let request := onInterfaces 5000 ["eth0", "tun"]
    ∃ catalog entry, (tunnelled.start request).1.nodes[0]? = some entry ∧
      entry.node.profile.interface = some "tun" ∧
      ¬ IsLast request.config.interfaces (ListensOn catalog entry.node) "tun" := by
  intro request
  have started : (tunnelled.start request).2 = .ok 0 := rfl
  have tunnel : ((tunnelled.start request).1.nodes[0]?).map (·.node.profile.interface) =
      some (some "tun") := by decide +kernel
  have unaddressed : (tunnelled.context? 0).map (fun context =>
      (tunnelled.catalogFor context).toOption.map (·.addressesOf? "tun")) =
        some (some (some [])) := by decide +kernel
  obtain ⟨catalog, entry, name, ⟨context, known, catalogued⟩, found, goesBy, -, -, last⟩ :=
    goes_by_last_bound_iff tunnelled request started (by decide)
  rw [found, Option.map_some, goesBy, Option.some.injEq, Option.some.injEq] at tunnel
  subst tunnel
  change tunnelled.context? 0 = some context at known
  rw [known, Option.map_some, catalogued] at unaddressed
  refine ⟨catalog, entry, found, goesBy, ?_⟩
  rw [last, not_not]
  exact Option.some.inj (Option.some.inj unaddressed)

/-! ## The node's own addresses -/

theorem profile_course (moves : List Move) {number : Nat} {entry : NodeEntry}
    (found : mesh.nodes[number]? = some entry) :
    ∃ later, (mesh.course moves).nodes[number]? = some later ∧
      later.node.profile = entry.node.profile := by
  induction moves generalizing mesh entry with
  | nil => exact ⟨entry, found, rfl⟩
  | cons move rest ih =>
      obtain ⟨between, there, persists⟩ := persists_perform mesh move found
      obtain ⟨later, reached, same⟩ := ih there
      exact ⟨later, reached, same.trans persists.node.profile⟩

theorem requestPeering_of_own {number : Nat} {entry : NodeEntry}
    (found : mesh.nodes[number]? = some entry) {address : SocketAddress}
    (own : entry.node.isOwnAddress address = true) {peer : Option String}
    (welcome : ∀ name, peer = some name → (mesh.surroundings entry).blocks name = false ∧
      (mesh.surroundings entry).isMember name = false) :
    (mesh.requestPeering number peer address).2 = some (.rejected .selfAddress) := by
  rw [(asked_requestPeering found peer address).rejected_iff, Node.refusal?]
  cases peer with
  | none => simp [own]
  | some name =>
      obtain ⟨unblocked, stranger⟩ := welcome name rfl
      simp [own, unblocked, stranger]

/-- An interface that the host does not have adds no address. -/
theorem flatMap_knownInterfaces (catalog : Catalog) (names : List String) :
    (knownInterfaces catalog names).flatMap (·.2) =
      names.flatMap fun name => (catalog.addressesOf? name).getD [] := by
  induction names with
  | nil => rfl
  | cons name rest ih =>
      rw [List.flatMap_cons, ← ih, knownInterfaces, List.filterMap_cons]
      cases catalog.addressesOf? name <;> rfl

theorem listenAddresses_eq (catalog : Catalog) (config : MeshConfig) :
    listenAddresses catalog config =
      if config.interfaces = [] then [.wildcard]
      else config.interfaces.flatMap fun name => (catalog.addressesOf? name).getD [] := by
  simp only [listenAddresses, List.isEmpty_iff, flatMap_knownInterfaces]

/-- A node listens on all addresses, or on the IPv4 addresses of the configured interfaces that the
host has, all on one port, which is the one asked for if one was. At any later time it takes each of
these addresses for its own. -/
theorem listens_on_own_port (mesh : Mesh) (request : StartRequest) {number : Nat}
    (started : (mesh.start request).2 = .ok number)
    (proper : request.config.port = 0 → mesh.PicksProperPorts) :
    ∃ catalog entry, mesh.StartsWith request catalog ∧
      (mesh.start request).1.nodes[number]? = some entry ∧
      (entry.node.listeners.map (·.address) =
        (if request.config.interfaces = [] then [Ipv4.wildcard]
          else request.config.interfaces.flatMap fun name =>
            (catalog.addressesOf? name).getD []).map
          fun address => .v4 address entry.node.profile.port) ∧
      entry.node.profile.port ≠ 0 ∧
      (request.config.port ≠ 0 → entry.node.profile.port = request.config.port) ∧
      ∀ moves,
        let now := (mesh.start request).1.course moves
        ∃ later, now.nodes[number]? = some later ∧
          ∀ listener ∈ entry.node.listeners, ∀ peer : Option String,
            (∀ name, peer = some name → (now.surroundings later).blocks name = false ∧
              (now.surroundings later).isMember name = false) →
            (now.requestPeering number peer listener.address).2 =
              some (.rejected .selfAddress) := by
  obtain ⟨catalog, binding, entry, found, opens⟩ := opens_start started
  obtain ⟨bound, set, given⟩ := bound_bindAll proper opens.binds
  refine ⟨catalog, entry, opens.starts, found, ?_, ?_, ?_, ?_⟩
  · rw [← listenAddresses_eq, opens.port, ← bound, opens.listeners, List.map_map]
    exact List.map_id _
  · rw [opens.port]
    refine set ?_
    intro nowhere
    rw [nowhere] at bound
    exact opens.bound bound
  · rw [opens.port]
    exact given
  · intro moves now
    obtain ⟨later, reached, same⟩ := profile_course moves found
    refine ⟨later, reached, ?_⟩
    intro listener listens peer welcome
    refine requestPeering_of_own reached ?_ welcome
    rw [opens.listeners] at listens
    obtain ⟨address, among, rfl⟩ := List.mem_map.mp listens
    rw [Node.isOwnAddress_iff, same]
    refine ⟨?_, .inr (.inr (.inr ⟨address, ?_, rfl⟩))⟩
    · rw [bound] at among
      obtain ⟨ip, -, rfl⟩ := List.mem_map.mp among
      exact opens.port.symm
    · rw [opens.localAddresses]
      exact among

/-- The system chooses the port of three addresses, and the node is closed while it is asked to dial
one of them. -/
theorem listens_on_own_port_chosen :
    let request := onInterfaces 0 ["wlan0", "eth1", "tun", "eth0"]
    let mesh := (tunnelled.start request).1
    (∃ entry, mesh.nodes[0]? = some entry ∧ entry.node.listeners.map (·.address) =
      [.v4 ⟨10, 0, 1, 1⟩ 40000, .v4 ⟨10, 0, 0, 1⟩ 40000, .v4 ⟨10, 0, 0, 2⟩ 40000]) ∧
      ((mesh.course [.calls 0 .closes]).requestPeering 0 (some "p")
        (.v4 ⟨10, 0, 0, 2⟩ 40000)).2 = some (.rejected .selfAddress) := by
  intro request mesh
  have started : (tunnelled.start request).2 = .ok 0 := rfl
  have proper : tunnelled.PicksProperPorts :=
    picksProperPorts_of_room (by decide +kernel) (by decide +kernel)
  have addresses : (mesh.nodes[0]?).map (fun entry => entry.node.listeners.map (·.address)) =
      some [.v4 ⟨10, 0, 1, 1⟩ 40000, .v4 ⟨10, 0, 0, 1⟩ 40000, .v4 ⟨10, 0, 0, 2⟩ 40000] := by
    decide +kernel
  obtain ⟨catalog, entry, -, found, -, -, -, own⟩ :=
    listens_on_own_port tunnelled request started fun _ => proper
  rw [found, Option.map_some, Option.some.injEq] at addresses
  refine ⟨⟨entry, found, addresses⟩, ?_⟩
  obtain ⟨later, reached, rejects⟩ := own [.calls 0 .closes]
  have last : .v4 ⟨10, 0, 0, 2⟩ 40000 ∈ entry.node.listeners.map (·.address) := by
    rw [addresses]
    decide
  obtain ⟨listener, listens, same⟩ := List.mem_map.mp last
  rw [← same]
  refine rejects listener listens (some "p") ?_
  rintro name ⟨⟩
  have welcome : ((mesh.course [.calls 0 .closes]).nodes[0]?).map (fun later =>
      (((mesh.course [.calls 0 .closes]).surroundings later).blocks "p",
        ((mesh.course [.calls 0 .closes]).surroundings later).isMember "p")) =
        some (false, false) := by decide +kernel
  rw [reached, Option.map_some, Option.some.injEq, Prod.mk.injEq] at welcome
  exact welcome

end PeerMesh.Mesh
