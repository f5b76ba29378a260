import Mathlib.Data.List.Induction
import PeerMesh.Proofs.Node.Effect
import PeerMesh.Proofs.Text.Numeral

/-!
# Who bears which name

No two identified connections of a node have one name, and no two unidentified ones. An identified
connection may bear the placeholder of an unidentified one: its remote side chose that name before
the placeholder was drawn, and registration does not look for the holder of a placeholder. This is
the only way in which names come to be repeated, and it happens exactly when a connection is
registered under a placeholder that an identified connection bears.
-/

set_option autoImplicit false

namespace PeerMesh

theorem Context.placeholder_injective : Function.Injective Context.placeholder := by
  intro left right same
  exact Text.toString_injective (String.append_right_inj _ |>.mp same)

namespace Registry

/-- Every registered connection is found by its name. -/
def AllFound (registry : Registry) : Prop :=
  ∀ entry ∈ registry.entries, registry.slotForName? entry.name = some entry.slot

theorem AllFound.names_nodup {registry : Registry} (found : registry.AllFound)
    (sound : registry.Sound) : (registry.entries.map (·.name)).Nodup := by
  refine List.Nodup.map_on ?_ sound.slotsDistinct.of_map
  intro left leftMember right rightMember sameName
  have leftFound := found left leftMember
  rw [sameName, found right rightMember] at leftFound
  exact (List.inj_on_of_nodup_map sound.slotsDistinct rightMember leftMember
    (Option.some.inj leftFound)).symm

theorem AllFound.touch {registry : Registry} (found : registry.AllFound) (slot : Slot)
    (moment : Nat) : (registry.touch slot moment).AllFound := by
  intro entry member
  obtain ⟨old, oldMember, same⟩ := mem_entries_touch member
  rw [same]
  exact found old oldMember

theorem AllFound.without {registry : Registry} (found : registry.AllFound) (entry : Connection) :
    (registry.without entry).AllFound := by
  intro other member
  obtain ⟨otherMember, different⟩ := mem_entries_without.mp member
  rw [slotForName?_without, if_neg, found other otherMember]
  rintro ⟨sameName, held⟩
  rw [← sameName, found other otherMember] at held
  exact different (Option.some.inj held)

theorem AllFound.identifiedAs {registry : Registry} (found : registry.AllFound)
    {entry : Connection} {name : String}
    (free : ∀ holder, registry.slotForName? name = some holder → holder = entry.slot) :
    (registry.identifiedAs entry name).AllFound := by
  intro other member
  obtain ⟨old, oldMember, rfl⟩ := mem_entries_identifiedAs.mp member
  have oldFound := found old oldMember
  rw [slotForName?_identifiedAs]
  by_cases same : old.slot = entry.slot
  · simp [same]
  · simp only [same, if_false]
    rw [if_neg, if_neg, oldFound]
    · rintro ⟨sameName, held⟩
      rw [← sameName, oldFound] at held
      exact same (Option.some.inj held)
    · intro sameName
      rw [sameName] at oldFound
      exact same (free old.slot oldFound)

theorem AllFound.insert {registry : Registry} (found : registry.AllFound) {new : NewConnection}
    (untaken : registry.slotForName? new.name = none) (moment : Nat) :
    (registry.insert new moment).1.AllFound := by
  intro entry member
  rw [entries_insert, List.mem_append, List.mem_singleton] at member
  rw [slotForName?_insert]
  rcases member with old | rfl
  · rw [found entry old, Option.some_or]
  · simp [admitted, untaken]

/-- Unidentified connections bear placeholders given out so far, each its own. -/
structure Placed (registry : Registry) (sessions : Nat) : Prop where
  drawn : ∀ entry ∈ registry.entries, entry.identified = false →
    ∃ session ≤ sessions, entry.name = Context.placeholder session
  apart : ∀ left ∈ registry.entries, ∀ right ∈ registry.entries, left.identified = false →
    right.identified = false → left.name = right.name → left = right

theorem Placed.mono {registry : Registry} {fewer more : Nat} (placed : registry.Placed fewer)
    (le : fewer ≤ more) : registry.Placed more where
  drawn := by
    intro entry member unidentified
    obtain ⟨session, bound, named⟩ := placed.drawn entry member unidentified
    exact ⟨session, Nat.le_trans bound le, named⟩
  apart := placed.apart

/-- Entries that are old unidentified ones, up to the time of their activity, are placed as those
were. -/
theorem Placed.of_old {registry later : Registry} {sessions : Nat}
    (placed : registry.Placed sessions) (laterSound : later.Sound)
    (old : ∀ entry ∈ later.entries, entry.identified = false →
      ∃ before ∈ registry.entries, before.identified = false ∧ before.name = entry.name ∧
        before.slot = entry.slot) : later.Placed sessions where
  drawn := by
    intro entry member unidentified
    obtain ⟨before, beforeMember, beforeUnidentified, named, -⟩ := old entry member unidentified
    obtain ⟨session, bound, placeholder⟩ := placed.drawn before beforeMember beforeUnidentified
    exact ⟨session, bound, named ▸ placeholder⟩
  apart := by
    intro left leftMember right rightMember leftUnidentified rightUnidentified sameName
    obtain ⟨leftBefore, leftOld, leftWas, leftNamed, leftSlot⟩ :=
      old left leftMember leftUnidentified
    obtain ⟨rightBefore, rightOld, rightWas, rightNamed, rightSlot⟩ :=
      old right rightMember rightUnidentified
    have sameBefore := placed.apart leftBefore leftOld rightBefore rightOld leftWas rightWas
      (by rw [leftNamed, rightNamed, sameName])
    refine List.inj_on_of_nodup_map laterSound.slotsDistinct leftMember rightMember ?_
    rw [← leftSlot, ← rightSlot, sameBefore]

theorem Placed.touch {registry : Registry} {sessions : Nat} (placed : registry.Placed sessions)
    (sound : registry.Sound) (slot : Slot) (moment : Nat) :
    (registry.touch slot moment).Placed sessions := by
  refine placed.of_old (sound_touch sound slot moment) ?_
  intro entry member unidentified
  obtain ⟨old, oldMember, same⟩ := mem_entries_touch member
  rw [same] at unidentified ⊢
  exact ⟨old, oldMember, unidentified, rfl, rfl⟩

theorem Placed.without {registry : Registry} {sessions : Nat} (placed : registry.Placed sessions)
    (sound : registry.Sound) {entry : Connection} (registered : entry ∈ registry.entries) :
    (registry.without entry).Placed sessions := by
  refine placed.of_old (sound_without sound registered) ?_
  intro other member unidentified
  exact ⟨other, (mem_entries_without.mp member).1, unidentified, rfl, rfl⟩

theorem Placed.identifiedAs {registry : Registry} {sessions : Nat}
    (placed : registry.Placed sessions) (sound : registry.Sound) {entry : Connection}
    {name : String} (found : registry.get? entry.slot = some entry)
    (free : ∀ holder, registry.slotForName? name = some holder → holder = entry.slot) :
    (registry.identifiedAs entry name).Placed sessions := by
  refine placed.of_old (sound_identifiedAs sound found free) ?_
  intro other member unidentified
  obtain ⟨old, oldMember, rfl⟩ := mem_entries_identifiedAs.mp member
  by_cases same : old.slot = entry.slot
  · simp [same] at unidentified
  · simp only [same, if_false] at unidentified ⊢
    exact ⟨old, oldMember, unidentified, rfl, rfl⟩

theorem Placed.insert {registry : Registry} {sessions : Nat} (placed : registry.Placed sessions)
    {new : NewConnection} (named : new.name = Context.placeholder (sessions + 1)) (moment : Nat) :
    (registry.insert new moment).1.Placed (sessions + 1) where
  drawn := by
    intro entry member unidentified
    rw [entries_insert, List.mem_append, List.mem_singleton] at member
    rcases member with old | rfl
    · obtain ⟨session, bound, placeholder⟩ := placed.drawn entry old unidentified
      exact ⟨session, Nat.le_succ_of_le bound, placeholder⟩
    · exact ⟨sessions + 1, Nat.le_refl _, named⟩
  apart := by
    have unborne : ∀ entry ∈ registry.entries, entry.identified = false →
        entry.name ≠ new.name := by
      intro entry member unidentified sameName
      obtain ⟨session, bound, placeholder⟩ := placed.drawn entry member unidentified
      rw [placeholder, named] at sameName
      have sameSession := Context.placeholder_injective sameName
      omega
    intro left leftMember right rightMember leftUnidentified rightUnidentified sameName
    rw [entries_insert, List.mem_append, List.mem_singleton] at leftMember rightMember
    rcases leftMember with leftOld | rfl <;> rcases rightMember with rightOld | rfl
    · exact placed.apart left leftOld right rightOld leftUnidentified rightUnidentified sameName
    · exact absurd sameName (unborne left leftOld leftUnidentified)
    · exact absurd sameName.symm (unborne right rightOld rightUnidentified)
    · rfl

theorem Placed.drain (registry : Registry) (sessions : Nat) :
    registry.drain.1.Placed sessions where
  drawn := by simp [Registry.drain]
  apart := by simp [Registry.drain]

end Registry

namespace Node

/-! ## What each act does to the names -/

namespace Ledger

theorem Naming.allFound {ledger result : Ledger} (naming : ledger.Naming result)
    (sound : ledger.Sound) (found : ledger.registry.AllFound) : result.registry.AllFound := by
  cases naming with
  | refused entry => exact found.without entry
  | free entry name entryFound unheld => exact found.identifiedAs unheld
  | taken entry holder name entryFound holderFound held different =>
      refine Registry.AllFound.identifiedAs ?_ (free_of_dismissed sound.registry holderFound held _)
      rw [registry_dismissed]
      exact found.without holder
  | lost entry =>
      rw [registry_dismissed]
      exact found.without entry

theorem Naming.placed {ledger result : Ledger} {sessions : Nat}
    (naming : ledger.Naming result) (sound : ledger.Sound)
    (placed : ledger.registry.Placed sessions) : result.registry.Placed sessions := by
  cases naming with
  | refused entry found => exact placed.without sound.registry (Registry.mem_of_get? found)
  | free entry name found unheld => exact placed.identifiedAs sound.registry found unheld
  | taken entry holder name found holderFound held different =>
      have holderMember := Registry.mem_of_get? holderFound
      have dismissed := placed.without sound.registry holderMember
      rw [← registry_dismissed] at dismissed
      exact dismissed.identifiedAs (sound.dismissed holderMember).registry
        (get?_dismissed_of_ne found different) (free_of_dismissed sound.registry holderFound held _)
  | lost entry found =>
      rw [registry_dismissed]
      exact placed.without sound.registry (Registry.mem_of_get? found)

end Ledger

namespace Situation

/-- The act registers a connection. -/
def Registers (before : Situation) : Act → Prop
  | .accepts _ _ _ => before.node.table.closed = false
  | .dialConnects number _ _ =>
    before.node.table.closed = false ∧ ∃ dial ∈ before.node.dials, dial.number = number
  | _ => False

/-- The act registers a connection under a placeholder that an identified connection bears. -/
def DrawsTakenName (before : Situation) (act : Act) : Prop :=
  before.Registers act ∧ ∃ holder ∈ before.node.table.registry.entries,
    holder.identified = true ∧ holder.name = Context.placeholder (before.sessions + 1)

/-- No two registered connections have the same name. -/
def NamesDistinct (situation : Situation) : Prop :=
  (situation.node.table.registry.entries.map (·.name)).Nodup

theorem sessions_le_step (before : Situation) (act : Act) :
    before.sessions ≤ (before.step act).sessions := by
  cases act with
  | dialFails number =>
      simp only [step]
      split <;> exact Nat.le_refl _
  | dialConnects number =>
      simp only [step]
      split
      · exact Nat.le_refl _
      · exact Nat.le_succ _
  | accepts => exact Nat.le_succ _
  | receives => simp only [step]; split <;> exact Nat.le_refl _
  | linkEnds => simp only [step]; split <;> exact Nat.le_refl _
  | finishesTeardown => simp only [step]; split <;> exact Nat.le_refl _
  | drawsElsewhere => exact Nat.le_succ _
  | requests | identifies | sends | writes | closesHandle | drops | asksClose | grantsPermit
  | firesExit | storesHook | changesListener => exact Nat.le_refl _

theorem sessions_step_of_dial {before : Situation} {dial : Dial}
    (member : dial ∈ before.node.dials) (socket : Endpoint) (moment : Nat) :
    (before.step (.dialConnects dial.number socket moment)).sessions = before.sessions + 1 := by
  have underWay : (before.node.dial? dial.number).isSome = true :=
    List.find?_isSome.mpr ⟨dial, member, by simp⟩
  obtain ⟨found, search⟩ := Option.isSome_iff_exists.mp underWay
  simp only [step, search]
  rfl

/-- What holds of the names in every situation. -/
structure Named (situation : Situation) : Prop where
  sound : situation.node.ledger.Sound
  placed : situation.node.table.registry.Placed situation.sessions

theorem Named.step {before : Situation} (named : before.Named) (act : Act) :
    (before.step act).Named := by
  have effect := step_effect named.sound act
  refine ⟨effect.sound named.sound, ?_⟩
  have later := sessions_le_step before act
  change ((before.step act).node.ledger.registry).Placed _
  have placed : before.node.ledger.registry.Placed before.sessions := named.placed
  generalize (before.step act).node.ledger = result at effect
  cases effect with
  | nothing => exact placed.mono later
  | began => exact placed.mono later
  | failed => exact placed.mono later
  | connected dial member admitting =>
      rw [sessions_step_of_dial member]
      exact placed.insert rfl _
  | turnedAway => exact placed.mono later
  | accepted admitting => exact placed.insert rfl _
  | named naming => exact (naming.placed named.sound placed).mono later
  | noted => exact (placed.touch named.sound.registry _ _).mono later
  | greeted naming =>
      exact (naming.placed (named.sound.noted _ _)
        (placed.touch named.sound.registry _ _)).mono later
  | linkEnded entry found =>
      rw [Ledger.registry_dismissed]
      exact (placed.without named.sound.registry (Registry.mem_of_get? found)).mono later
  | dropped entry resolved found =>
      exact (placed.without named.sound.registry (Registry.mem_of_get? found)).mono later
  | emptied => exact Registry.Placed.drain _ _

theorem named_of_initial {start : Situation} (initial : start.Initial) : start.Named where
  sound := sound_of_initial initial
  placed := by
    obtain ⟨profile, request, moment, fresh⟩ := initial
    rw [fresh]
    constructor <;> simp [Mesh.freshNode, PeerTable.empty, Registry.empty]

theorem named_run {start : Situation} (initial : start.Initial) (acts : List Act) :
    (start.run acts).Named :=
  run_induction Named (fun _ act named => named.step act) (named_of_initial initial) acts

/-! ## Repeated names -/

/-- A placeholder that is about to be drawn is free unless an identified connection bears it. -/
theorem Named.placeholder_free {before : Situation} (named : before.Named)
    (unborne : ¬ ∃ holder ∈ before.node.table.registry.entries,
      holder.identified = true ∧ holder.name = Context.placeholder (before.sessions + 1)) :
    before.node.table.registry.slotForName? (Context.placeholder (before.sessions + 1)) = none := by
  rw [Option.eq_none_iff_forall_not_mem]
  intro slot resolved
  obtain ⟨entry, found, entryNamed⟩ := named.sound.registry.nameBorne _ slot resolved
  have member := Registry.mem_of_get? found
  cases identified : entry.identified with
  | true => exact unborne ⟨entry, member, identified, entryNamed⟩
  | false =>
      obtain ⟨session, bound, placeholder⟩ := named.placed.drawn entry member identified
      rw [placeholder] at entryNamed
      have same := Context.placeholder_injective entryNamed
      omega

theorem allFound_step {before : Situation} (named : before.Named)
    (found : before.node.table.registry.AllFound) {act : Act}
    (untaken : ¬ before.DrawsTakenName act) : (before.step act).node.table.registry.AllFound := by
  have effect := step_effect named.sound act
  change ((before.step act).node.ledger.registry).AllFound
  have books : before.node.ledger.registry.AllFound := found
  generalize (before.step act).node.ledger = result at effect
  cases effect with
  | nothing => exact books
  | began => exact books
  | failed => exact books
  | connected dial member admitting =>
      have free := named.placeholder_free fun borne =>
        untaken ⟨⟨admitting, dial, member, rfl⟩, borne⟩
      refine Registry.AllFound.insert books ?_ _
      exact free
  | turnedAway => exact books
  | accepted admitting =>
      have free := named.placeholder_free fun borne => untaken ⟨admitting, borne⟩
      refine Registry.AllFound.insert books ?_ _
      exact free
  | named naming => exact naming.allFound named.sound books
  | noted => exact books.touch _ _
  | greeted naming => exact naming.allFound (named.sound.noted _ _) (books.touch _ _)
  | linkEnded entry =>
      rw [Ledger.registry_dismissed]
      exact books.without entry
  | dropped entry => exact books.without entry
  | emptied => simp [Ledger.emptied, Registry.drain, Registry.AllFound]

theorem not_namesDistinct_insert {registry : Registry} {new : NewConnection} {holder : Connection}
    (member : holder ∈ registry.entries) (borne : holder.name = new.name) (moment : Nat) :
    ¬ ((registry.insert new moment).1.entries.map (·.name)).Nodup := by
  intro distinct
  rw [Registry.entries_insert, List.map_append, List.nodup_append] at distinct
  exact distinct.2.2 holder.name (List.mem_map_of_mem member) new.name (by simp [Registry.admitted])
    borne

theorem registry_step_of_registers {before : Situation} {act : Act}
    (registers : before.Registers act) :
    ∃ new moment, new.name = Context.placeholder (before.sessions + 1) ∧
      (before.step act).node.table.registry = (before.node.table.registry.insert new moment).1 := by
  cases act with
  | accepts remote socket moment =>
      have admitting : before.node.ledger.closed = false := registers
      have books := ledger_register_of_open before admitting remote .inbound none socket moment
      exact ⟨_, moment, rfl, congrArg Ledger.registry books⟩
  | dialConnects number socket moment =>
      obtain ⟨admitting, dial, member, numbered⟩ := registers
      have underWay : (before.node.dial? number).isSome = true :=
        List.find?_isSome.mpr ⟨dial, member, by simp [numbered]⟩
      obtain ⟨found, search⟩ := Option.isSome_iff_exists.mp underWay
      have stepped : before.step (.dialConnects number socket moment) = before.register
          (before.node.withoutDial number) found.address .outbound found.peer socket moment := by
        simp only [step, search]
      have stillAdmitting : (before.node.withoutDial number).ledger.closed = false := admitting
      have books := ledger_register_of_open before stillAdmitting found.address .outbound found.peer
        socket moment
      rw [stepped]
      exact ⟨_, moment, rfl, congrArg Ledger.registry books⟩
  | _ => exact registers.elim

theorem not_namesDistinct_step {before : Situation} {act : Act}
    (taken : before.DrawsTakenName act) : ¬ (before.step act).NamesDistinct := by
  obtain ⟨registers, holder, member, -, borne⟩ := taken
  obtain ⟨new, moment, named, registry⟩ := registry_step_of_registers registers
  rw [NamesDistinct, registry]
  exact not_namesDistinct_insert member (borne.trans named.symm) moment

/-- As long as no connection is registered under a name that an identified one bears, every
connection is found by its name. -/
theorem allFound_run {start : Situation} (initial : start.Initial) {acts : List Act}
    (untaken : ∀ past act, past ++ [act] <+: acts → ¬ (start.run past).DrawsTakenName act) :
    (start.run acts).node.table.registry.AllFound := by
  induction acts using List.reverseRecOn with
  | nil =>
      obtain ⟨profile, request, moment, fresh⟩ := initial
      simp [fresh, Mesh.freshNode, PeerTable.empty, Registry.empty, Registry.AllFound]
  | append_singleton past act ih =>
      rw [run_append]
      refine allFound_step (named_run initial past) (ih ?_) (untaken past act List.prefix_rfl)
      intro earlier next within
      exact untaken earlier next (within.trans (List.prefix_append past [act]))

/-- Names stay distinct in the course of a run exactly as long as no connection is registered under
a placeholder that an identified connection bears. Where two connections do have one name, it is a
placeholder given out before, and one of the two is identified and the other is not. -/
theorem namesDistinct_iff_placeholders_untaken {start : Situation} (initial : start.Initial)
    (acts : List Act) :
    ((∀ past, past <+: acts → (start.run past).NamesDistinct) ↔
      ∀ past act, past ++ [act] <+: acts → ¬ (start.run past).DrawsTakenName act) ∧
    ∀ left ∈ (start.run acts).node.table.registry.entries,
      ∀ right ∈ (start.run acts).node.table.registry.entries,
        left ≠ right → left.name = right.name →
          left.identified ≠ right.identified ∧
            ∃ session ≤ (start.run acts).sessions, left.name = Context.placeholder session := by
  refine ⟨⟨?_, ?_⟩, ?_⟩
  · intro distinct past act within taken
    refine not_namesDistinct_step taken ?_
    have after := distinct (past ++ [act]) within
    rwa [run_append] at after
  · intro untaken past within
    refine (allFound_run initial ?_).names_nodup (named_run initial past).sound.registry
    intro earlier next inside
    exact untaken earlier next (inside.trans within)
  · intro left leftMember right rightMember different sameName
    have named := named_run initial acts
    cases leftIdentified : left.identified with
    | false =>
        obtain ⟨session, bound, placeholder⟩ :=
          named.placed.drawn left leftMember leftIdentified
        refine ⟨?_, session, bound, placeholder⟩
        intro same
        exact different (named.placed.apart left leftMember right rightMember leftIdentified
          same.symm sameName)
    | true =>
        cases rightIdentified : right.identified with
        | true =>
            exact absurd (Registry.slot_eq_of_identified named.sound.registry leftMember
              rightMember leftIdentified rightIdentified sameName) different
        | false =>
            obtain ⟨session, bound, placeholder⟩ :=
              named.placed.drawn right rightMember rightIdentified
            exact ⟨by simp, session, bound, sameName.trans placeholder⟩

/-- A remote side names itself by the placeholder that is drawn next. -/
def impostor : List Act :=
  [.accepts (.v4 ⟨192, 0, 2, 10⟩ 5000) ⟨0, .callee⟩ 1, .identifies aloof ⟨1⟩ "temp-uuid-2",
    .accepts (.v4 ⟨192, 0, 2, 11⟩ 5000) ⟨1, .callee⟩ 2]

theorem not_namesDistinct_impostor :
    (lone 40000).Initial ∧
      ¬ ∀ past, past <+: impostor → ((lone 40000).run past).NamesDistinct := by
  refine ⟨initial_lone 40000, ?_⟩
  rw [(namesDistinct_iff_placeholders_untaken (initial_lone 40000) impostor).1]
  intro untaken
  let holder : Connection :=
    ⟨⟨1⟩, "temp-uuid-2", true, .v4 ⟨192, 0, 2, 10⟩ 5000, .inbound, none, 1⟩
  refine untaken (impostor.take 2) (.accepts (.v4 ⟨192, 0, 2, 11⟩ 5000) ⟨1, .callee⟩ 2)
    List.prefix_rfl ⟨rfl, holder, ?_, rfl, ?_⟩
  · decide
  · decide

end Situation

end Node

end PeerMesh
