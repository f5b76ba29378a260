import PeerMesh.Proofs.Registry
import PeerMesh.Scenario.Table

/-!
# What a name resolves to

The name index of a registry is kept apart from the entries, and several entries may bear one name.
Whatever steps a table has taken, a name resolves to an entry that bears it, and every identified
entry is found by its name. What a name resolves to changes only when that entry goes, or gets
another name. The entries stand in the order of their slots, in which all are given out in the end.
-/

set_option autoImplicit false

namespace PeerMesh

namespace Registry

variable {registry : Registry} {slot : Slot} {name : String}

/-! ## What operations do to the index -/

/-- A removed entry takes along no name but the one that resolves to it. -/
theorem slotForName?_remove (sound : registry.Sound) (slot : Slot) (name : String) :
    (registry.remove slot).1.slotForName? name =
      if registry.slotForName? name = some slot then none else registry.slotForName? name := by
  cases found : registry.get? slot with
  | none =>
      have elsewhere : registry.slotForName? name ≠ some slot := by
        intro resolved
        obtain ⟨entry, present, -⟩ := sound.nameBorne name slot resolved
        rw [found] at present
        cases present
      rw [remove_of_get?_eq_none found, if_neg elsewhere]
  | some entry =>
      rw [remove_of_get? found, slotForName?_without, slot_of_get? found]
      apply if_congr _ rfl rfl
      constructor
      · rintro ⟨rfl, resolved⟩
        exact resolved
      · intro resolved
        obtain ⟨bearer, present, named⟩ := sound.nameBorne name slot resolved
        rw [found] at present
        cases present
        exact ⟨named.symm, by rw [named, resolved]⟩

/-- A renamed entry is found by its new name, and by no name that resolved to it before. -/
theorem slotForName?_rename (sound : registry.Sound) {renamed : Registry}
    (given : registry.rename slot name = .ok renamed) (registered : (registry.get? slot).isSome)
    (other : String) :
    renamed.slotForName? other =
      if other = name then some slot
      else if registry.slotForName? other = some slot then none
      else registry.slotForName? other := by
  obtain ⟨entry, found⟩ := Option.isSome_iff_exists.mp registered
  have free : ∀ holder, registry.slotForName? name = some holder → holder = slot := by
    intro holder held
    by_contra different
    rw [rename_eq_error_iff.mpr ⟨held, different⟩] at given
    cases given
  rw [rename_of_free found free] at given
  cases given
  rw [slotForName?_identifiedAs, slot_of_get? found]
  apply if_congr Iff.rfl rfl
  apply if_congr _ rfl rfl
  constructor
  · rintro ⟨rfl, resolved⟩
    exact resolved
  · intro resolved
    obtain ⟨bearer, present, named⟩ := sound.nameBorne other slot resolved
    rw [found] at present
    cases present
    exact ⟨named.symm, by rw [named, resolved]⟩

theorem rename_of_unregistered (unregistered : registry.get? slot = none) {renamed : Registry}
    (given : registry.rename slot name = .ok renamed) : renamed = registry := by
  unfold rename at given
  split at given
  · cases given
  · rw [unregistered] at given
    cases given
    rfl

theorem removeOpenNamed_of_slotForName? (sound : registry.Sound)
    (resolved : registry.slotForName? name = some slot) (isOpen : Slot → Bool) :
    registry.removeOpenNamed isOpen name =
      if isOpen slot = true then registry.remove slot else (registry, none) := by
  obtain ⟨entry, found, -⟩ := sound.nameBorne name slot resolved
  simp only [removeOpenNamed, resolved, found, Option.isSome_some, Bool.true_and]

theorem removeOpenNamed_of_unresolved (unresolved : registry.slotForName? name = none)
    (isOpen : Slot → Bool) : registry.removeOpenNamed isOpen name = (registry, none) := by
  simp only [removeOpenNamed, unresolved]

/-! ## The order of the entries -/

/-- The entries stand in the order of their slots. -/
def Ordered (registry : Registry) : Prop :=
  (registry.entries.map (·.slot)).Pairwise fun earlier later => earlier.number < later.number

/-- All that a step can do to a registry. -/
inductive Becomes (before : Registry) : Registry → Prop where
  | same : Becomes before before
  | inserted (new : NewConnection) (moment : Nat) : Becomes before (before.insert new moment).1
  | touched (slot : Slot) (moment : Nat) : Becomes before (before.touch slot moment)
  | identified {slot : Slot} {entry : Connection} {name : String} :
      before.get? slot = some entry →
      (∀ holder, before.slotForName? name = some holder → holder = slot) →
      Becomes before (before.identifiedAs entry name)
  | removed (slot : Slot) : Becomes before (before.remove slot).1
  | drained : Becomes before before.drain.1

theorem becomes_of_rename {renamed : Registry} (given : registry.rename slot name = .ok renamed) :
    registry.Becomes renamed := by
  cases found : registry.get? slot with
  | none =>
      rw [rename_of_unregistered found given]
      exact .same
  | some entry =>
      have free : ∀ holder, registry.slotForName? name = some holder → holder = slot := by
        intro holder held
        by_contra different
        rw [rename_eq_error_iff.mpr ⟨held, different⟩] at given
        cases given
      rw [rename_of_free found free] at given
      cases given
      exact .identified found free

theorem becomes_removeOpenNamed (registry : Registry) (isOpen : Slot → Bool) (name : String) :
    registry.Becomes (registry.removeOpenNamed isOpen name).1 := by
  unfold removeOpenNamed
  split
  · exact .same
  · split
    · exact .removed _
    · exact .same

variable {after : Registry}

theorem Becomes.sound (becomes : registry.Becomes after) (sound : registry.Sound) :
    after.Sound := by
  cases becomes with
  | same => exact sound
  | inserted new moment => exact sound_insert sound new moment
  | touched slot moment => exact sound_touch sound slot moment
  | identified found free => exact sound_identifiedAs sound found free
  | removed slot => exact sound_remove sound slot
  | drained => exact sound_drain registry

theorem Becomes.ordered (becomes : registry.Becomes after) (sound : registry.Sound)
    (ordered : registry.Ordered) : after.Ordered := by
  cases becomes with
  | same => exact ordered
  | inserted new moment =>
      rw [Ordered, entries_insert, List.map_append, List.pairwise_append]
      refine ⟨ordered, List.pairwise_singleton _ _, ?_⟩
      intro earlier issued fresh added
      obtain ⟨entry, member, rfl⟩ := List.mem_map.mp issued
      rw [List.map_singleton, List.mem_singleton] at added
      rw [added]
      exact Nat.lt_succ_of_le (sound.slotsIssued entry member)
  | touched slot moment =>
      rw [Ordered, touch, slots_update (by intro; rfl)]
      exact ordered
  | identified found free =>
      change ((registry.update _ _).entries.map (·.slot)).Pairwise _
      rw [slots_update (by intro; rfl)]
      exact ordered
  | removed slot =>
      cases found : registry.get? slot with
      | none =>
          rw [remove_of_get?_eq_none found]
          exact ordered
      | some entry =>
          rw [remove_of_get? found]
          exact ordered.sublist (List.filter_sublist.map _)
  | drained => exact List.Pairwise.nil

end Registry

namespace Scenario.Table

variable {state : Table} {name : String} {slot : Slot}

def course (state : Table) (steps : List TableStep) : Table :=
  steps.foldl (fun state step => (state.step step).1) state

theorem becomes_step (state : Table) (step : TableStep) :
    state.table.registry.Becomes (state.step step).1.table.registry := by
  cases step with
  | insert new => exact .inserted new 0
  | rename slot name =>
      simp only [Table.step]
      cases given : state.table.registry.rename slot name with
      | error holder => exact .same
      | ok renamed => exact Registry.becomes_of_rename given
  | touch slot => exact .touched slot 0
  | close slot =>
      simp only [Table.step, close]
      split <;> exact .same
  | remove slot => exact .removed slot
  | removeOpenNamed name => exact Registry.becomes_removeOpenNamed _ state.isOpen name
  | drain => exact .drained
  | get | slotForName | containsName | containsAddress | begin | release | takePending
  | finishDialing | isDialing | hasPending | clear => exact .same

theorem kept_course (sound : state.table.registry.Sound) (ordered : state.table.registry.Ordered)
    (steps : List TableStep) :
    (state.course steps).table.registry.Sound ∧ (state.course steps).table.registry.Ordered := by
  induction steps generalizing state with
  | nil => exact ⟨sound, ordered⟩
  | cons step rest ih =>
      have becomes := becomes_step state step
      exact ih (becomes.sound sound) (becomes.ordered sound ordered)

/-- What holds of the names in a table, and of every step that takes a name or an entry away. -/
structure Indexed (state : Table) : Prop where
  borne : ∀ name slot, state.table.registry.slotForName? name = some slot →
    ∃ entry, state.table.registry.get? slot = some entry ∧ entry.name = name
  found : ∀ entry ∈ state.table.registry.entries, entry.identified = true →
    state.table.registry.slotForName? entry.name = some entry.slot
  unshared : ∀ first ∈ state.table.registry.entries, ∀ second ∈ state.table.registry.entries,
    first.identified = true → second.identified = true → first.name = second.name → first = second
  /-- A name that another entry holds is refused, and nothing changes. -/
  refused : ∀ slot name holder, (state.step (.rename slot name)).2 = .holder holder →
    state.table.registry.slotForName? name = some holder ∧ holder ≠ slot ∧
      (state.step (.rename slot name)).1 = state
  /-- Otherwise the name is given, and resolves to the entry from then on. -/
  given : ∀ slot name, (state.table.registry.get? slot).isSome = true →
    (∀ holder, (state.step (.rename slot name)).2 ≠ .holder holder) →
    (state.step (.rename slot name)).1.table.registry.slotForName? name = some slot
  /-- A new name takes away those that resolved to the entry before, and no other. -/
  renamed : ∀ target new, (state.step (.rename target new)).2 = .renamed → ∀ name, name ≠ new →
    (state.step (.rename target new)).1.table.registry.slotForName? name =
      if state.table.registry.slotForName? name = some target then none
      else state.table.registry.slotForName? name
  removed : ∀ target name, (state.step (.remove target)).1.table.registry.slotForName? name =
    if state.table.registry.slotForName? name = some target then none
    else state.table.registry.slotForName? name
  removedOpen : ∀ other name,
    (state.step (.removeOpenNamed other)).1.table.registry.slotForName? name =
      if other = name ∧ (state.table.registry.slotForName? name).any state.isOpen = true then none
      else state.table.registry.slotForName? name
  /-- Every entry is given out, in strictly ascending order of slots and so not twice. -/
  drained : ∃ entries, (state.step .drain).2 = .entries entries ∧
    (∀ entry, entry ∈ entries ↔ state.table.registry.get? entry.slot = some entry) ∧
    entries.Pairwise (fun earlier later => earlier.slot.number < later.slot.number) ∧
    (∀ slot, (state.step .drain).1.table.registry.get? slot = none) ∧
    ∀ name, (state.step .drain).1.table.registry.slotForName? name = none

theorem step_rename_of_ok {renamed : Registry}
    (given : state.table.registry.rename slot name = .ok renamed) :
    state.step (.rename slot name) = (state.withRegistry renamed, .renamed) := by
  simp only [Table.step, given]

theorem step_rename_of_error {holder : Slot}
    (refused : state.table.registry.rename slot name = .error holder) :
    state.step (.rename slot name) = (state, .holder holder) := by
  simp only [Table.step, refused]

theorem slotForName?_step_rename (sound : state.table.registry.Sound) {target : Slot}
    {new : String} (renames : (state.step (.rename target new)).2 = .renamed)
    (different : name ≠ new) :
    (state.step (.rename target new)).1.table.registry.slotForName? name =
      if state.table.registry.slotForName? name = some target then none
      else state.table.registry.slotForName? name := by
  cases outcome : state.table.registry.rename target new with
  | error holder =>
      rw [step_rename_of_error outcome] at renames
      cases renames
  | ok renamed =>
      rw [step_rename_of_ok outcome]
      change renamed.slotForName? name = _
      cases registered : state.table.registry.get? target with
      | none =>
          have elsewhere : state.table.registry.slotForName? name ≠ some target := by
            intro resolved
            obtain ⟨entry, present, -⟩ := sound.nameBorne name target resolved
            rw [registered] at present
            cases present
          rw [Registry.rename_of_unregistered registered outcome, if_neg elsewhere]
      | some entry =>
          have there : (state.table.registry.get? target).isSome = true := by
            rw [registered, Option.isSome_some]
          rw [Registry.slotForName?_rename sound outcome there, if_neg different]

theorem slotForName?_step_removeOpenNamed (sound : state.table.registry.Sound)
    (other name : String) :
    (state.step (.removeOpenNamed other)).1.table.registry.slotForName? name =
      if other = name ∧ (state.table.registry.slotForName? name).any state.isOpen = true then none
      else state.table.registry.slotForName? name := by
  change (state.table.registry.removeOpenNamed state.isOpen other).1.slotForName? name = _
  cases held : state.table.registry.slotForName? other with
  | none =>
      rw [Registry.removeOpenNamed_of_unresolved held, if_neg]
      intro both
      obtain ⟨same, isOpen⟩ := both
      rw [← same, held] at isOpen
      cases isOpen
  | some holder =>
      have resolves_iff : state.table.registry.slotForName? name = some holder ↔ other = name := by
        constructor
        · intro resolved
          obtain ⟨entry, found, named⟩ := sound.nameBorne name holder resolved
          obtain ⟨again, foundAgain, otherwise⟩ := sound.nameBorne other holder held
          rw [found] at foundAgain
          cases foundAgain
          rw [← named, otherwise]
        · intro same
          rw [← same, held]
      rw [Registry.removeOpenNamed_of_slotForName? sound held]
      by_cases isOpen : state.isOpen holder = true
      · rw [if_pos isOpen, Registry.slotForName?_remove sound]
        apply if_congr _ rfl rfl
        constructor
        · intro resolved
          refine ⟨resolves_iff.mp resolved, ?_⟩
          rw [resolved, Option.any_some, isOpen]
        · intro both
          exact resolves_iff.mpr both.1
      · rw [if_neg isOpen, if_neg]
        intro both
        obtain ⟨same, stillOpen⟩ := both
        rw [resolves_iff.mpr same, Option.any_some] at stillOpen
        exact isOpen stillOpen

/-- All entries are given out, and nothing is left. -/
theorem drained_step (sound : state.table.registry.Sound)
    (ordered : state.table.registry.Ordered) :
    ∃ entries, (state.step .drain).2 = .entries entries ∧
      (∀ entry, entry ∈ entries ↔ state.table.registry.get? entry.slot = some entry) ∧
      entries.Pairwise (fun earlier later => earlier.slot.number < later.slot.number) ∧
      (∀ slot, (state.step .drain).1.table.registry.get? slot = none) ∧
      ∀ name, (state.step .drain).1.table.registry.slotForName? name = none := by
  rw [Registry.Ordered, List.pairwise_map] at ordered
  refine ⟨state.table.registry.entries, rfl, ?_, ordered, fun _ => rfl, fun _ => rfl⟩
  exact fun entry => ⟨Registry.get?_of_mem sound, Registry.mem_of_get?⟩

theorem Indexed.of_sound (sound : state.table.registry.Sound)
    (ordered : state.table.registry.Ordered) : state.Indexed where
  borne := sound.nameBorne
  found := sound.identifiedFound
  unshared := fun _ first _ second => Registry.slot_eq_of_identified sound first second
  refused := by
    intro slot name holder refusal
    cases outcome : state.table.registry.rename slot name with
    | ok renamed =>
        rw [step_rename_of_ok outcome] at refusal
        cases refusal
    | error other =>
        rw [step_rename_of_error outcome] at refusal ⊢
        cases refusal
        obtain ⟨held, different⟩ := Registry.rename_eq_error_iff.mp outcome
        exact ⟨held, different, rfl⟩
  given := by
    intro slot name registered accepted
    cases outcome : state.table.registry.rename slot name with
    | ok renamed =>
        rw [step_rename_of_ok outcome]
        exact (Registry.slotForName?_rename sound outcome registered name).trans (if_pos rfl)
    | error holder =>
        rw [step_rename_of_error outcome] at accepted
        exact absurd rfl (accepted holder)
  renamed := fun _ _ renames _ different => slotForName?_step_rename sound renames different
  removed := Registry.slotForName?_remove sound
  removedOpen := slotForName?_step_removeOpenNamed sound
  drained := drained_step sound ordered

/-- Whatever steps a table has taken, its names resolve to the entries that bear them, and each step
that takes a name or an entry away changes what resolves to that entry, and nothing else. -/
theorem indexed_course (steps : List TableStep) : (initial.course steps).Indexed := by
  have sound : initial.table.registry.Sound := Registry.sound_empty
  have ordered : initial.table.registry.Ordered := List.Pairwise.nil
  obtain ⟨soundAfter, orderedAfter⟩ := kept_course sound ordered steps
  exact .of_sound soundAfter orderedAfter

end Scenario.Table

end PeerMesh
