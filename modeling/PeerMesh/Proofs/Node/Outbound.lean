import PeerMesh.Proofs.Node.Addresses
import PeerMesh.Proofs.Node.Closing

/-!
# One dial to an address

The addresses that a node's dials and its outbound connections go to are listed together. A dial
that connects hands its address over to its connection, so that the list is the same before and after;
a request adds an address only if no dial and no connection of the node is there; everything else
takes away.
-/

set_option autoImplicit false

namespace PeerMesh

/-- The remote address of a connection that this side opened. -/
def Connection.target? (entry : Connection) : Option SocketAddress :=
  if entry.direction = .outbound then some entry.remote else none

namespace Node

namespace Ledger

/-- The addresses that dials under way and outbound connections go to, one for each. -/
def targets (ledger : Ledger) : List SocketAddress :=
  ledger.dials.map (·.address) ++ ledger.registry.entries.filterMap (·.target?)

theorem targets_sublist {ledger result : Ledger} (dials : result.dials.Sublist ledger.dials)
    (entries : result.registry.entries.Sublist ledger.registry.entries) :
    result.targets.Sublist ledger.targets :=
  (dials.map _).append (entries.filterMap _)

/-- Names and activity are no part of where a connection goes. -/
theorem filterMap_target?_update (registry : Registry) (slot : Slot)
    (change : Connection → Connection) (keeps : ∀ entry, (change entry).target? = entry.target?) :
    (registry.update slot change).entries.filterMap (·.target?) =
      registry.entries.filterMap (·.target?) := by
  rw [Registry.update, List.filterMap_map]
  congr 1
  funext entry
  by_cases same : entry.slot = slot
  · simp [same, keeps]
  · simp [same]

theorem targets_withName (ledger : Ledger) (entry : Connection) (name : String) :
    (ledger.withName entry name).targets = ledger.targets := by
  have connections := filterMap_target?_update ledger.registry entry.slot
    (fun entry => { entry with name, identified := true }) (by intro; rfl)
  exact congrArg (ledger.dials.map (·.address) ++ ·) connections

theorem targets_noted (ledger : Ledger) (slot : Slot) (moment : Nat) :
    (ledger.noted slot moment).targets = ledger.targets := by
  have connections := filterMap_target?_update ledger.registry slot
    (fun entry => { entry with lastActivity := moment }) (by intro; rfl)
  exact congrArg (ledger.dials.map (·.address) ++ ·) connections

theorem targets_expelled (ledger : Ledger) (entry : Connection) :
    (ledger.expelled entry).targets.Sublist ledger.targets :=
  targets_sublist (List.Sublist.refl _) List.filter_sublist

theorem targets_emptied (ledger : Ledger) : ledger.emptied.targets.Sublist ledger.targets :=
  targets_sublist (List.Sublist.refl _) (List.nil_sublist _)

theorem targets_dismissed (ledger : Ledger) (entry : Connection) :
    (ledger.dismissed entry).targets.Sublist ledger.targets := by
  refine targets_sublist ?_ ?_
  · rw [dials_dismissed]
  · rw [registry_dismissed]
    exact List.filter_sublist

theorem Naming.targets {ledger result : Ledger} (naming : ledger.Naming result) :
    result.targets.Sublist ledger.targets := by
  cases naming with
  | refused entry => exact targets_expelled ledger entry
  | free entry name =>
      rw [targets_withName]
  | taken entry holder name =>
      rw [targets_withName]
      exact targets_dismissed ledger holder
  | lost entry => exact targets_dismissed ledger entry

theorem targets_ended (ledger : Ledger) (number : Nat) :
    (ledger.ended number).targets.Sublist ledger.targets :=
  targets_sublist List.filter_sublist (List.Sublist.refl _)

/-- A dial that connects becomes a connection to the same address. -/
theorem targets_admitted_ended {ledger : Ledger} (sound : ledger.Sound) {dial : Dial}
    (member : dial ∈ ledger.dials) (placeholder : String) (moment : Nat) :
    ((ledger.ended dial.number).admitted
      ⟨placeholder, dial.address, .outbound, dial.peer⟩ moment).targets.Perm ledger.targets := by
  have others : ledger.dials.filter (fun other => other.number != dial.number) =
      ledger.dials.erase dial := by
    rw [(List.Nodup.of_map _ sound.numbersDistinct).erase_eq_filter]
    refine List.filter_congr ?_
    intro other otherMember
    rw [Bool.eq_iff_iff, bne_iff_ne, bne_iff_ne]
    refine not_congr ⟨eq_of_number_eq sound otherMember member, ?_⟩
    rintro rfl
    rfl
  have listed : ledger.dials.Perm (dial :: ledger.dials.erase dial) := List.perm_cons_erase member
  have connections : ((ledger.ended dial.number).admitted
      ⟨placeholder, dial.address, .outbound, dial.peer⟩ moment).targets =
        (ledger.dials.erase dial).map (·.address) ++
          (ledger.registry.entries.filterMap (·.target?) ++ [dial.address]) := by
    unfold targets
    simp only [Ledger.admitted, Ledger.ended, others, Registry.entries_insert,
      List.filterMap_append]
    rfl
  rw [connections, ← List.append_assoc]
  refine (List.perm_append_singleton _ _).trans ?_
  exact ((listed.map (·.address)).append_right _).symm

theorem targets_admitted_inbound (ledger : Ledger) (placeholder : String)
    (remote : SocketAddress) (moment : Nat) :
    (ledger.admitted ⟨placeholder, remote, .inbound, none⟩ moment).targets = ledger.targets := by
  unfold targets
  simp only [Ledger.admitted, Registry.entries_insert, List.filterMap_append]
  exact congrArg (ledger.dials.map (·.address) ++ ·) (List.append_nil _)

theorem targets_began {ledger : Ledger} (dial : Dial) :
    (ledger.began dial).targets.Perm (dial.address :: ledger.targets) := by
  unfold targets
  simp only [Ledger.began, List.map_append, List.map_cons, List.map_nil, List.append_assoc]
  exact List.perm_middle

/-- A new dial goes where no dial and no outbound connection goes. -/
theorem fresh_target {ledger : Ledger} (addressed : ledger.Addressed) {address : SocketAddress}
    (unmarked : address ∉ ledger.inFlight.pending)
    (unconnected : ledger.registry.containsAddress address = false) :
    address ∉ ledger.targets := by
  intro target
  rcases List.mem_append.mp target with dialed | connected
  · exact unmarked ((addressed.pending_iff address).mpr (List.mem_map.mp dialed))
  · obtain ⟨entry, member, outbound⟩ := List.mem_filterMap.mp connected
    unfold Connection.target? at outbound
    split at outbound
    · cases outbound
      have present : ledger.registry.containsAddress entry.remote = true :=
        List.any_eq_true.mpr ⟨entry, member, beq_self_eq_true _⟩
      rw [present] at unconnected
      cases unconnected
    · cases outbound

end Ledger

namespace Situation

/-- How many dials to an address are under way. -/
def dialsTo (situation : Situation) (address : SocketAddress) : Nat :=
  situation.node.dials.countP (·.address == address)

/-- How many registered connections to an address this node opened. -/
def outboundTo (situation : Situation) (address : SocketAddress) : Nat :=
  situation.node.table.registry.entries.countP fun entry =>
    entry.direction == .outbound && entry.remote == address

theorem count_targets (situation : Situation) (address : SocketAddress) :
    situation.node.ledger.targets.count address =
      situation.dialsTo address + situation.outboundTo address := by
  have outbound : (situation.node.table.registry.entries.filterMap (·.target?)).count address =
      situation.outboundTo address := by
    rw [List.count_filterMap]
    unfold outboundTo
    congr 1
    funext entry
    cases direction : entry.direction <;> simp [Connection.target?, direction]
  rw [Ledger.targets, List.count_append, List.count_eq_countP, List.countP_map]
  exact congrArg _ outbound

/-- The act registers a connection that comes from an address being dialed. -/
def MeetsDial (before : Situation) : Act → Prop
  | .accepts remote _ _ =>
    before.node.table.closed = false ∧ ∃ dial ∈ before.node.dials, dial.address = remote
  | _ => False

/-- In the course of the acts no connection is accepted from an address that is being dialed. -/
def Apart (before : Situation) : List Act → Prop
  | [] => True
  | act :: rest => ¬ before.MeetsDial act ∧ (before.step act).Apart rest

/-- As long as the table is open, the marked addresses are those being dialed, so that a request
finds out what is in flight. -/
structure Targeted (situation : Situation) : Prop where
  sound : situation.node.ledger.Sound
  addressed : situation.node.table.closed = false → situation.node.ledger.Addressed
  distinct : situation.node.ledger.targets.Nodup

theorem Targeted.distinct_step {before : Situation} (targeted : before.Targeted) (act : Act) :
    (before.step act).node.ledger.targets.Nodup := by
  have effect := step_effect targeted.sound act
  generalize (before.step act).node.ledger = result at effect
  cases effect with
  | nothing => exact targeted.distinct
  | @began around peer address now moment accepted =>
      obtain ⟨-, -, -, -, admitting, -, unconnected, -, unmarked⟩ :=
        refusal?_eq_none_iff.mp accepted
      rw [Bool.eq_false_iff, ne_eq, InFlight.hasPending_iff] at unmarked
      have fresh := Ledger.fresh_target (targeted.addressed admitting) unmarked unconnected
      exact (Ledger.targets_began _).nodup_iff.mpr (List.nodup_cons.mpr ⟨fresh, targeted.distinct⟩)
  | failed dial => exact targeted.distinct.sublist (Ledger.targets_ended _ _)
  | connected dial member =>
      exact (Ledger.targets_admitted_ended targeted.sound member _ _).nodup_iff.mpr
        targeted.distinct
  | turnedAway dial => exact targeted.distinct.sublist (Ledger.targets_ended _ _)
  | accepted =>
      rw [Ledger.targets_admitted_inbound]
      exact targeted.distinct
  | named naming => exact targeted.distinct.sublist naming.targets
  | noted =>
      rw [Ledger.targets_noted]
      exact targeted.distinct
  | greeted naming =>
      have shorter := naming.targets
      rw [Ledger.targets_noted] at shorter
      exact targeted.distinct.sublist shorter
  | linkEnded entry => exact targeted.distinct.sublist (Ledger.targets_dismissed _ entry)
  | dropped entry => exact targeted.distinct.sublist (Ledger.targets_expelled _ entry)
  | emptied => exact targeted.distinct.sublist (Ledger.targets_emptied _)

theorem Targeted.step {before : Situation} (targeted : before.Targeted) {act : Act}
    (unmet : ¬ before.MeetsDial act) : (before.step act).Targeted where
  sound := sound_step targeted.sound act
  addressed := by
    intro admitting
    have earlier := admitting_of_step targeted.sound admitting
    have addressed := targeted.addressed earlier
    refine addressed_step targeted.sound addressed ?_ admitting
    rintro remote socket moment rfl marked
    exact unmet ⟨earlier, (addressed.pending_iff remote).mp marked⟩
  distinct := targeted.distinct_step act

theorem targeted_of_initial {start : Situation} (initial : start.Initial) : start.Targeted where
  sound := sound_of_initial initial
  addressed := by
    obtain ⟨profile, request, moment, fresh⟩ := initial
    rw [fresh]
    intro _
    constructor <;> simp [Mesh.freshNode, ledger, PeerTable.empty, InFlight.empty]
  distinct := by
    obtain ⟨profile, request, moment, fresh⟩ := initial
    rw [fresh]
    exact List.nodup_nil

theorem Targeted.run {before : Situation} (targeted : before.Targeted) {acts : List Act}
    (apart : before.Apart acts) : (before.run acts).Targeted := by
  induction acts generalizing before with
  | nil => exact targeted
  | cons act rest ih =>
      obtain ⟨unmet, later⟩ := apart
      exact ih (targeted.step unmet) later

/-- If no connection is accepted from an address that is being dialed, a node never has more than
one dial or outbound connection to an address, whoever it takes to be there. -/
theorem dialsTo_add_outboundTo_le_one {start : Situation} (initial : start.Initial)
    {acts : List Act} (apart : start.Apart acts) (address : SocketAddress) :
    (start.run acts).dialsTo address + (start.run acts).outboundTo address ≤ 1 := by
  rw [← count_targets]
  exact List.nodup_iff_count_le_one.mp ((targeted_of_initial initial).run apart).distinct address

/-- Two requests for one address, under two names, between which the first dial connects. -/
def dialedTwice : List Act :=
  [.requests aloof (some "p") (.v4 ⟨192, 0, 2, 1⟩ 5000) 0 1, .dialConnects 0 ⟨0, .caller⟩ 2,
    .accepts (.v4 ⟨192, 0, 2, 1⟩ 5000) ⟨1, .callee⟩ 3,
    .requests aloof (some "q") (.v4 ⟨192, 0, 2, 1⟩ 5000) 0 4]

theorem dialsTo_add_outboundTo_dialedTwice :
    (lone 40000).Apart dialedTwice ∧
      ((lone 40000).run dialedTwice).outboundTo (.v4 ⟨192, 0, 2, 1⟩ 5000) = 1 ∧
      ((lone 40000).run dialedTwice).dialsTo (.v4 ⟨192, 0, 2, 1⟩ 5000) = 0 := by
  have apart : (lone 40000).Apart dialedTwice := by
    have undialed : ((lone 40000).run (dialedTwice.take 2)).node.dials = [] := by decide
    refine ⟨id, id, ?_, id, trivial⟩
    rintro ⟨-, dial, dialed, -⟩
    change dial ∈ ((lone 40000).run (dialedTwice.take 2)).node.dials at dialed
    rw [undialed] at dialed
    cases dialed
  have opened : ((lone 40000).run dialedTwice).outboundTo (.v4 ⟨192, 0, 2, 1⟩ 5000) = 1 := by decide
  refine ⟨apart, opened, ?_⟩
  have bound := dialsTo_add_outboundTo_le_one (initial_lone 40000) apart (.v4 ⟨192, 0, 2, 1⟩ 5000)
  omega

end Situation

end Node

end PeerMesh
