import PeerMesh.Proofs.Node.Addresses
import PeerMesh.Proofs.Node.Standing

/-!
# Identifications leave nothing half done

Whatever comes of an identification, its connection either keeps its slot and has the name, with
nothing left of the dials for it, or is ousted. A connection that loses against the holder of the
name goes alone, and one that wins is found by the name: the renaming after the holder has gone
cannot fail.
-/

set_option autoImplicit false

namespace PeerMesh.Node

/-- The connection under `slot` is ousted, and nothing else registered or pumped is touched. -/
structure Ousts (before after : Node) (slot : Slot) : Prop where
  ousted : (after.standing slot).Ousted
  others : ∀ other, other ≠ slot → after.standing other = before.standing other

/-- The connection `entry` has got the name `name`, and at most the one that held it is gone. -/
structure Names (before after : Node) (entry : Connection) (name : String) : Prop where
  standing : after.standing entry.slot =
    ⟨some { entry with name, identified := true }, before.link? entry.slot⟩
  resolved : after.table.registry.slotForName? name = some entry.slot
  nameUnmarked : after.table.inFlight.isDialing name = false
  dialedUnmarked : ∀ peer, entry.dialedAs = some peer → after.table.inFlight.isDialing peer = false
  others : ∀ other, other ≠ entry.slot → after.standing other = before.standing other ∨
    before.table.registry.slotForName? name = some other ∧ (after.standing other).Ousted

/-- What an identification of the connection under `slot` as `name` makes of a node. -/
structure Settles (before : Node) (around : Surroundings) (slot : Slot) (name : String)
    (outcome : Node × Except MeshError Unit) : Prop where
  /-- There is no other result. -/
  result : outcome.2 = .error (.unknownConnection slot) ∨
    (∃ reason, outcome.2 = .error (.nameRejected name reason)) ∨
    outcome.2 = .error (.nameCollision name) ∨ outcome.2 = .ok ()
  unknown : before.table.registry.get? slot = none →
    outcome = (before, .error (.unknownConnection slot))
  refused : ∀ entry, before.table.registry.get? slot = some entry →
    (around.blocks name = true ∨ around.isMember name = true) →
    outcome.2 =
        .error (.nameRejected name (if around.blocks name then .blocked else .selfPeer)) ∧
      before.Ousts outcome.1 slot ∧
      ∀ peer, entry.dialedAs = some peer → outcome.1.table.inFlight.isDialing peer = false
  lost : outcome.2 = .error (.nameCollision name) →
    (before.table.registry.get? slot).isSome = true ∧ before.Ousts outcome.1 slot
  identified : outcome.2 = .ok () →
    ∃ entry, before.table.registry.get? slot = some entry ∧ before.Names outcome.1 entry name
  pending : outcome.1.table.inFlight.pending = before.table.inFlight.pending

variable {node : Node} {around : Surroundings} {entry holder : Connection} {name : String}

/-! ## Connections that go -/

theorem ousts_refused (pumped : node.IsPumped entry.slot) :
    node.Ousts ((node.expelled entry).finishDialing? entry.dialedAs) entry.slot where
  ousted := ousted_expelled pumped
  others := fun _ different => standing_expelled_of_ne different

theorem ousts_dismissed (pumped : node.IsPumped entry.slot) :
    node.Ousts (node.dismissed entry) entry.slot where
  ousted := by
    rw [standing_dismissed]
    exact ousted_expelled pumped
  others := by
    intro other different
    rw [standing_dismissed]
    exact standing_expelled_of_ne different

theorem nameRefusal?_eq_none_iff :
    nameRefusal? around name = none ↔ around.blocks name = false ∧ around.isMember name = false := by
  unfold nameRefusal?
  cases around.blocks name <;> cases around.isMember name <;> simp

theorem nameRefusal?_of_refused (refused : around.blocks name = true ∨ around.isMember name = true) :
    nameRefusal? around name = some (if around.blocks name then .blocked else .selfPeer) := by
  unfold nameRefusal?
  by_cases blocked : around.blocks name = true
  · rw [if_pos blocked, if_pos blocked]
  · rw [if_neg blocked, if_neg blocked, if_pos (refused.resolve_left blocked)]

/-! ## Connections that get a name -/

theorem isDialing_withName (peer : String) :
    (node.withName entry name).table.inFlight.isDialing peer = true ↔
      node.table.inFlight.isDialing peer = true ∧ entry.dialedAs ≠ some peer ∧ name ≠ peer := by
  have marks : (node.withName entry name).table.inFlight =
      (node.ledger.withName entry name).inFlight :=
    congrArg Ledger.inFlight (ledger_withName node entry name)
  rw [InFlight.isDialing_iff, InFlight.isDialing_iff, marks]
  exact Ledger.mem_dialing_withName

theorem names_withName (found : node.table.registry.get? entry.slot = some entry) (name : String) :
    node.Names (node.withName entry name) entry name where
  standing := standing_withName_self found name
  resolved := (Registry.slotForName?_identifiedAs _ entry name name).trans (if_pos rfl)
  nameUnmarked := by
    rw [← Bool.not_eq_true, isDialing_withName]
    exact fun marked => marked.2.2 rfl
  dialedUnmarked := by
    intro peer dialed
    rw [← Bool.not_eq_true, isDialing_withName]
    exact fun marked => marked.2.1 dialed
  others := fun _ different => .inl (standing_withName_of_ne different name)

/-- A connection that takes the name from its holder leaves the holder ousted. -/
theorem names_taken (found : node.table.registry.get? entry.slot = some entry)
    (held : node.table.registry.slotForName? name = some holder.slot)
    (different : holder.slot ≠ entry.slot) (pumped : node.IsPumped holder.slot) :
    node.Names ((node.dismissed holder).withName entry name) entry name := by
  have ousts := ousts_dismissed pumped
  have kept := ousts.others entry.slot different.symm
  have stillFound : (node.dismissed holder).table.registry.get? entry.slot = some entry :=
    (congrArg Standing.entry kept).trans found
  have names := names_withName stillFound name
  refine ⟨?_, names.resolved, names.nameUnmarked, names.dialedUnmarked, ?_⟩
  · rw [names.standing]
    congr 1
    exact congrArg Standing.link kept
  · intro other otherDifferent
    rw [standing_withName_of_ne otherDifferent]
    by_cases same : other = holder.slot
    · rw [same]
      exact .inr ⟨held, ousts.ousted⟩
    · exact .inl (ousts.others other same)

/-! ## The outcomes -/

theorem pending_identify (sound : node.ledger.Sound) (around : Surroundings) (slot : Slot)
    (name : String) :
    (node.identify around slot name).1.table.inFlight.pending = node.table.inFlight.pending := by
  cases naming_of_identify sound around slot name with
  | inl same => exact congrArg (·.inFlight.pending) same
  | inr naming => exact naming.pending_eq

theorem settles_identify (sound : node.ledger.Sound) (pumped : node.Pumped) (around : Surroundings)
    (slot : Slot) (name : String) :
    node.Settles around slot name (node.identify around slot name) := by
  have pending := pending_identify sound around slot name
  have outcome := identify_spec sound.registry around slot name
  generalize node.identify around slot name = result at outcome pending
  have pumps : ∀ {registered : Connection},
      node.table.registry.get? registered.slot = some registered → node.IsPumped registered.slot :=
    fun found => pumped _ (Registry.mem_of_get? found)
  have present : ∀ {registered : Connection}, node.table.registry.get? slot = some registered →
      node.table.registry.get? slot = none → result = (node, .error (.unknownConnection slot)) := by
    intro registered found absent
    rw [absent] at found
    cases found
  have accepts : nameRefusal? around name = none →
      ¬ (around.blocks name = true ∨ around.isMember name = true) := by
    intro accepted refused
    rw [nameRefusal?_of_refused refused] at accepted
    cases accepted
  cases outcome with
  | unknown absent =>
      refine ⟨.inl rfl, fun _ => rfl, ?_, nofun, nofun, pending⟩
      intro entry found
      rw [absent] at found
      cases found
  | refused entry reason found refusal =>
      obtain rfl := Registry.slot_of_get? found
      refine ⟨.inr (.inl ⟨reason, rfl⟩), present found, ?_, nofun, nofun, pending⟩
      intro other otherFound refused
      rw [found] at otherFound
      cases otherFound
      rw [nameRefusal?_of_refused refused] at refusal
      refine ⟨by rw [Option.some.inj refusal], ousts_refused (pumps found), ?_⟩
      intro peer dialed
      rw [← Bool.not_eq_true, InFlight.isDialing_iff]
      exact fun marked => (InFlight.mem_dialing_finishDialing?.mp marked).2 dialed
  | free entry found accepted =>
      obtain rfl := Registry.slot_of_get? found
      refine ⟨.inr (.inr (.inr rfl)), present found, ?_, nofun, ?_, pending⟩
      · exact fun _ _ refused => absurd refused (accepts accepted)
      · exact fun _ => ⟨entry, found, names_withName found name⟩
  | taken entry holder found accepted holderFound held different =>
      obtain rfl := Registry.slot_of_get? found
      refine ⟨.inr (.inr (.inr rfl)), present found, ?_, nofun, ?_, pending⟩
      · exact fun _ _ refused => absurd refused (accepts accepted)
      · exact fun _ => ⟨entry, found, names_taken found held different (pumps holderFound)⟩
  | lost entry holder found accepted =>
      obtain rfl := Registry.slot_of_get? found
      refine ⟨.inr (.inr (.inl rfl)), present found, ?_, ?_, nofun, pending⟩
      · exact fun _ _ refused => absurd refused (accepts accepted)
      · exact fun _ => ⟨by rw [found]; rfl, ousts_dismissed (pumps found)⟩

namespace Situation

/-- In every situation of a node an identification, of any slot and as any name, is either carried
through or undone. -/
theorem identify_leaves_nothing_half_done {start : Situation} (initial : start.Initial)
    (acts : List Act) (around : Surroundings) (slot : Slot) (name : String) :
    (start.run acts).node.Settles around slot name
      ((start.run acts).node.identify around slot name) :=
  settles_identify (sound_run initial acts) (pumped_run initial acts) around slot name

/-- A peer has connected and said who it is, and connects again, by a dial for someone else. -/
def peerBehindOtherName : List Act :=
  [.requests aloof (some "q") (.v4 ⟨192, 0, 2, 1⟩ 5000) 0 1,
    .accepts (.v4 ⟨192, 0, 2, 1⟩ 40001) ⟨0, .callee⟩ 2, .identifies aloof ⟨1⟩ "p",
    .dialConnects 0 ⟨1, .caller⟩ 3]

theorem identify_leaves_nothing_half_done_peerBehindOtherName :
    let before := ((lone 40000).run peerBehindOtherName).node
    let outcome := before.identify aloof ⟨2⟩ "p"
    before.table.inFlight.isDialing "q" = true ∧
      before.table.registry.slotForName? "p" = some ⟨1⟩ ∧ outcome.2 = .ok () ∧
      outcome.1.table.registry.slotForName? "p" = some ⟨2⟩ ∧
      outcome.1.table.inFlight.isDialing "q" = false ∧ (outcome.1.standing ⟨1⟩).Ousted := by
  intro before outcome
  have settles : before.Settles aloof ⟨2⟩ "p" outcome :=
    identify_leaves_nothing_half_done (initial_lone 40000) peerBehindOtherName aloof ⟨2⟩ "p"
  have marked : before.table.inFlight.isDialing "q" = true := by decide
  have held : before.table.registry.slotForName? "p" = some ⟨1⟩ := by decide
  have dialed : before.table.registry.get? ⟨2⟩ =
      some ⟨⟨2⟩, "temp-uuid-2", false, .v4 ⟨192, 0, 2, 1⟩ 5000, .outbound, some "q", 3⟩ := by decide
  have identified : outcome.2 = .ok () := by decide
  have changed : outcome.1.standing ⟨1⟩ ≠ before.standing ⟨1⟩ := by decide
  clear_value outcome before
  obtain ⟨entry, found, names⟩ := settles.identified identified
  rw [dialed] at found
  cases found
  refine ⟨marked, held, identified, names.resolved, names.dialedUnmarked "q" rfl, ?_⟩
  cases names.others ⟨1⟩ (by decide) with
  | inl same => exact absurd same changed
  | inr ousted => exact ousted.2

end Situation

end PeerMesh.Node
