import Mathlib.Data.List.Nodup
import PeerMesh.Registry

/-!
# What the registry keeps in order

A registry is looked at from two sides: the entry under a slot, and the slot that a name resolves
to. Each operation has one equation for either side. The sides agree in one direction only: a name
resolves to an entry that bears it, and every identified entry is found by its name. An entry that
waits for its identification under a name which was in the index before it came is not found.
-/

set_option autoImplicit false

namespace PeerMesh.Registry

/-! ## The name index -/

theorem lookup_unindex (index : List (String × Slot)) (name other : String) :
    (unindex index name).lookup other = if other = name then none else index.lookup other := by
  unfold unindex
  induction index with
  | nil => simp
  | cons pair rest ih =>
      obtain ⟨known, slot⟩ := pair
      by_cases same : known = name
      · subst same
        simp only [List.filter_cons, bne_self_eq_false, Bool.false_eq_true, if_false, ih,
          List.lookup_cons]
        by_cases asked : other = known
        · simp [asked]
        · simp [asked, beq_eq_false_iff_ne.mpr asked]
      · simp only [List.filter_cons, bne_iff_ne.mpr same, if_true, List.lookup_cons, ih]
        by_cases asked : other = known
        · simp [asked, same]
        · simp [beq_eq_false_iff_ne.mpr asked]

theorem lookup_release (index : List (String × Slot)) (name other : String) (slot : Slot) :
    (release index name slot).lookup other =
      if other = name ∧ index.lookup name = some slot then none else index.lookup other := by
  unfold release
  by_cases held : index.lookup name = some slot
  · simp [held, lookup_unindex]
  · simp [held]

/-! ## Entries under slots -/

theorem mem_of_get? {registry : Registry} {slot : Slot} {entry : Connection}
    (found : registry.get? slot = some entry) : entry ∈ registry.entries :=
  List.mem_of_find?_eq_some found

theorem slot_of_get? {registry : Registry} {slot : Slot} {entry : Connection}
    (found : registry.get? slot = some entry) : entry.slot = slot := by
  simpa using List.find?_some found

theorem get?_isSome_of_mem {registry : Registry} {entry : Connection}
    (member : entry ∈ registry.entries) : (registry.get? entry.slot).isSome := by
  rw [get?, List.find?_isSome]
  exact ⟨entry, member, by simp⟩

/-- What holds of a registry after any operations. -/
structure Sound (registry : Registry) : Prop where
  slotsDistinct : (registry.entries.map (·.slot)).Nodup
  slotsIssued : ∀ entry ∈ registry.entries, entry.slot.number ≤ registry.lastSlot
  nameBorne : ∀ name slot, registry.slotForName? name = some slot →
    ∃ entry, registry.get? slot = some entry ∧ entry.name = name
  identifiedFound : ∀ entry ∈ registry.entries, entry.identified = true →
    registry.slotForName? entry.name = some entry.slot

theorem get?_of_mem {registry : Registry} (sound : registry.Sound) {entry : Connection}
    (member : entry ∈ registry.entries) : registry.get? entry.slot = some entry := by
  obtain ⟨found, search⟩ := Option.isSome_iff_exists.mp (get?_isSome_of_mem member)
  have same : found = entry :=
    List.inj_on_of_nodup_map sound.slotsDistinct (mem_of_get? search) member (slot_of_get? search)
  rw [search, same]

theorem eq_of_get? {registry : Registry} (sound : registry.Sound) {slot : Slot}
    {entry other : Connection} (found : registry.get? slot = some entry)
    (member : other ∈ registry.entries) (same : other.slot = slot) : other = entry := by
  have search := get?_of_mem sound member
  rw [same, found] at search
  exact (Option.some.inj search).symm

theorem get?_eq_none_of_lastSlot_lt {registry : Registry} (sound : registry.Sound) {slot : Slot}
    (unissued : registry.lastSlot < slot.number) : registry.get? slot = none := by
  rw [get?, List.find?_eq_none]
  intro entry member same
  have issued := sound.slotsIssued entry member
  rw [beq_iff_eq] at same
  rw [same] at issued
  omega

theorem slot_eq_of_identified {registry : Registry} (sound : registry.Sound)
    {left right : Connection} (leftMember : left ∈ registry.entries)
    (rightMember : right ∈ registry.entries) (leftIdentified : left.identified = true)
    (rightIdentified : right.identified = true) (sameName : left.name = right.name) :
    left = right := by
  have leftFound := sound.identifiedFound left leftMember leftIdentified
  have rightFound := sound.identifiedFound right rightMember rightIdentified
  rw [sameName, rightFound] at leftFound
  exact (List.inj_on_of_nodup_map sound.slotsDistinct rightMember leftMember
    (Option.some.inj leftFound)).symm

/-- What the index finds bears the name that it is found by. -/
theorem name_of_slotForName? {registry : Registry} (sound : registry.Sound) {entry : Connection}
    {name : String} (found : registry.get? entry.slot = some entry)
    (resolved : registry.slotForName? name = some entry.slot) : entry.name = name := by
  obtain ⟨bearer, bearerFound, named⟩ := sound.nameBorne name entry.slot resolved
  rw [found] at bearerFound
  cases bearerFound
  exact named

theorem sound_empty : Sound empty where
  slotsDistinct := by simp [empty]
  slotsIssued := by simp [empty]
  nameBorne := by simp [empty, slotForName?]
  identifiedFound := by simp [empty]

/-! ## Insertion -/

/-- The entry of a connection that has just been registered. -/
def admitted (registry : Registry) (new : NewConnection) (moment : Nat) : Connection :=
  { slot := ⟨registry.lastSlot + 1⟩, name := new.name, identified := false, remote := new.remote,
    direction := new.direction, dialedAs := new.dialedAs, lastActivity := moment }

theorem entries_insert (registry : Registry) (new : NewConnection) (moment : Nat) :
    (registry.insert new moment).1.entries =
      registry.entries ++ [registry.admitted new moment] := rfl

@[simp] theorem lastSlot_insert (registry : Registry) (new : NewConnection) (moment : Nat) :
    (registry.insert new moment).1.lastSlot = registry.lastSlot + 1 := rfl

theorem get?_insert {registry : Registry} (sound : registry.Sound) (new : NewConnection)
    (moment : Nat) (slot : Slot) :
    (registry.insert new moment).1.get? slot =
      if slot = ⟨registry.lastSlot + 1⟩ then some (registry.admitted new moment)
      else registry.get? slot := by
  rw [get?, entries_insert, List.find?_append, ← get?]
  by_cases fresh : slot = ⟨registry.lastSlot + 1⟩
  · subst fresh
    rw [get?_eq_none_of_lastSlot_lt sound (Nat.lt_succ_self _)]
    simp [admitted]
  · have different : (registry.admitted new moment).slot ≠ slot := fun same => fresh same.symm
    simp [fresh, beq_eq_false_iff_ne.mpr different]

theorem slotForName?_insert (registry : Registry) (new : NewConnection) (moment : Nat)
    (name : String) :
    (registry.insert new moment).1.slotForName? name =
      (registry.slotForName? name).or
        (if name = new.name then some ⟨registry.lastSlot + 1⟩ else none) := by
  by_cases taken : registry.containsName new.name = true
  · obtain ⟨holder, held⟩ := Option.isSome_iff_exists.mp taken
    have kept : (registry.insert new moment).1.slotForName? name = registry.slotForName? name := by
      simp [insert, slotForName?, taken]
    rw [kept]
    by_cases same : name = new.name
    · rw [same, held, Option.some_or]
    · rw [if_neg same, Option.or_none]
  · simp only [insert, slotForName?, taken, Bool.false_eq_true, if_false, List.lookup_append,
      List.lookup_cons, List.lookup_nil]
    by_cases same : name = new.name
    · simp [same]
    · simp [same, beq_eq_false_iff_ne.mpr same]

theorem sound_insert {registry : Registry} (sound : registry.Sound) (new : NewConnection)
    (moment : Nat) : (registry.insert new moment).1.Sound where
  slotsDistinct := by
    rw [entries_insert, List.map_append, List.nodup_append]
    refine ⟨sound.slotsDistinct, by simp, ?_⟩
    intro slot issued fresh added same
    obtain ⟨entry, member, rfl⟩ := List.mem_map.mp issued
    have bound := sound.slotsIssued entry member
    simp only [List.map_cons, List.map_nil, List.mem_singleton] at added
    rw [same, added] at bound
    simp only [admitted] at bound
    omega
  slotsIssued := by
    intro entry member
    rw [entries_insert, List.mem_append, List.mem_singleton] at member
    rw [lastSlot_insert]
    rcases member with old | rfl
    · exact Nat.le_succ_of_le (sound.slotsIssued entry old)
    · exact Nat.le_refl _
  nameBorne := by
    intro name slot resolved
    rw [slotForName?_insert] at resolved
    rw [get?_insert sound]
    cases held : registry.slotForName? name with
    | some holder =>
        rw [held] at resolved
        cases resolved
        obtain ⟨entry, found, named⟩ := sound.nameBorne name slot held
        have issued := sound.slotsIssued entry (mem_of_get? found)
        rw [slot_of_get? found] at issued
        have old : slot ≠ ⟨registry.lastSlot + 1⟩ := by
          rintro rfl
          exact Nat.not_succ_le_self _ issued
        exact ⟨entry, by rw [if_neg old, found], named⟩
    | none =>
        rw [held, Option.none_or] at resolved
        split at resolved
        · rename_i same
          cases resolved
          exact ⟨registry.admitted new moment, by rw [if_pos rfl], same.symm⟩
        · cases resolved
  identifiedFound := by
    intro entry member identified
    rw [entries_insert, List.mem_append, List.mem_singleton] at member
    rcases member with old | rfl
    · rw [slotForName?_insert, sound.identifiedFound entry old identified, Option.some_or]
    · simp [admitted] at identified

/-! ## Changes to one entry -/

section Update

variable {registry : Registry} {slot : Slot} {change : Connection → Connection}

theorem mem_entries_update {entry : Connection} :
    entry ∈ (registry.update slot change).entries ↔
      ∃ old ∈ registry.entries, (if old.slot = slot then change old else old) = entry :=
  List.mem_map

theorem slots_update (keepsSlot : ∀ entry, (change entry).slot = entry.slot) :
    (registry.update slot change).entries.map (·.slot) = registry.entries.map (·.slot) := by
  rw [update, List.map_map]
  congr 1
  funext entry
  by_cases same : entry.slot = slot <;> simp [same, keepsSlot]

theorem get?_update (keepsSlot : ∀ entry, (change entry).slot = entry.slot) (asked : Slot) :
    (registry.update slot change).get? asked =
      (registry.get? asked).map fun entry => if entry.slot = slot then change entry else entry := by
  rw [get?, update, List.find?_map, get?]
  congr 2
  funext entry
  by_cases same : entry.slot = slot <;> simp [same, keepsSlot]

theorem slotsIssued_update (sound : registry.Sound)
    (keepsSlot : ∀ entry, (change entry).slot = entry.slot) :
    ∀ entry ∈ (registry.update slot change).entries, entry.slot.number ≤ registry.lastSlot := by
  intro entry member
  obtain ⟨old, oldMember, rfl⟩ := mem_entries_update.mp member
  by_cases same : old.slot = slot
  · rw [if_pos same, keepsSlot]
    exact sound.slotsIssued old oldMember
  · rw [if_neg same]
    exact sound.slotsIssued old oldMember

end Update

/-! ## Noted activity -/

theorem get?_touch (registry : Registry) (touched slot : Slot) (moment : Nat) :
    (registry.touch touched moment).get? slot = (registry.get? slot).map fun entry =>
      if entry.slot = touched then { entry with lastActivity := moment } else entry :=
  get?_update (by intro; rfl) slot

/-- Noted activity changes nothing but the time of it. -/
theorem mem_entries_touch {registry : Registry} {slot : Slot} {moment : Nat} {entry : Connection}
    (member : entry ∈ (registry.touch slot moment).entries) :
    ∃ old ∈ registry.entries, entry = { old with lastActivity := entry.lastActivity } := by
  obtain ⟨old, oldMember, rfl⟩ := mem_entries_update.mp member
  exact ⟨old, oldMember, by split <;> rfl⟩

theorem exists_mem_touch {registry : Registry} (slot : Slot) (moment : Nat) {entry : Connection}
    (member : entry ∈ registry.entries) :
    ∃ touched ∈ (registry.touch slot moment).entries,
      entry = { touched with lastActivity := entry.lastActivity } := by
  refine ⟨_, mem_entries_update.mpr ⟨entry, member, rfl⟩, ?_⟩
  split <;> rfl

theorem sound_touch {registry : Registry} (sound : registry.Sound) (slot : Slot) (moment : Nat) :
    (registry.touch slot moment).Sound where
  slotsDistinct := by
    rw [touch, slots_update (by intro; rfl)]
    exact sound.slotsDistinct
  slotsIssued := slotsIssued_update sound (by intro; rfl)
  nameBorne := by
    intro name holder resolved
    obtain ⟨entry, found, named⟩ := sound.nameBorne name holder resolved
    rw [get?_touch, found]
    refine ⟨_, rfl, ?_⟩
    by_cases same : entry.slot = slot <;> simpa [same] using named
  identifiedFound := by
    intro entry member identified
    obtain ⟨old, oldMember, same⟩ := mem_entries_touch member
    rw [same] at identified ⊢
    exact sound.identifiedFound old oldMember identified

/-! ## Renaming -/

/-- The registry in which the connection `entry` has got the name of its peer. -/
def identifiedAs (registry : Registry) (entry : Connection) (name : String) : Registry :=
  { registry.update entry.slot fun entry => { entry with name, identified := true } with
    index := unindex (release registry.index entry.name entry.slot) name ++ [(name, entry.slot)] }

theorem rename_eq_error_iff {registry : Registry} {slot holder : Slot} {name : String} :
    registry.rename slot name = .error holder ↔
      registry.slotForName? name = some holder ∧ holder ≠ slot := by
  unfold rename
  cases resolved : registry.slotForName? name with
  | none =>
      cases registry.get? slot <;> simp
  | some other =>
      by_cases same : other = slot
      · have own : ∀ candidate, slot = candidate → ¬ candidate ≠ slot := fun _ equal different =>
          different equal.symm
        cases registry.get? slot <;> simpa [same, Option.filter] using own holder
      · have foreign : other = holder → holder ≠ slot := fun equal => equal ▸ same
        simpa [same, Option.filter] using foreign

/-- A name that no other connection holds is given to a registered connection. -/
theorem rename_of_free {registry : Registry} {slot : Slot} {name : String} {entry : Connection}
    (found : registry.get? slot = some entry)
    (free : ∀ holder, registry.slotForName? name = some holder → holder = slot) :
    registry.rename slot name = .ok (registry.identifiedAs entry name) := by
  have unheld : (registry.slotForName? name).filter (fun holder => decide (holder ≠ slot)) = none := by
    cases resolved : registry.slotForName? name with
    | none => rfl
    | some holder => simp [free holder resolved]
  obtain rfl := slot_of_get? found
  simp only [rename, unheld, found]
  rfl

theorem slotForName?_identifiedAs (registry : Registry) (entry : Connection)
    (name other : String) :
    (registry.identifiedAs entry name).slotForName? other =
      if other = name then some entry.slot
      else if other = entry.name ∧ registry.slotForName? entry.name = some entry.slot then none
      else registry.slotForName? other := by
  simp only [identifiedAs, slotForName?, List.lookup_append, lookup_unindex, lookup_release]
  by_cases same : other = name
  · simp [same]
  · have missed : List.lookup other [(name, entry.slot)] = none := by
      simp [List.lookup_cons, beq_eq_false_iff_ne.mpr same]
    rw [if_neg same, if_neg same, missed, Option.or_none]
    exact if_congr Iff.rfl rfl rfl

theorem get?_identifiedAs (registry : Registry) (entry : Connection) (name : String)
    (slot : Slot) :
    (registry.identifiedAs entry name).get? slot = (registry.get? slot).map fun other =>
      if other.slot = entry.slot then { other with name, identified := true } else other :=
  get?_update (by intro; rfl) slot

theorem mem_entries_identifiedAs {registry : Registry} {entry other : Connection}
    {name : String} :
    other ∈ (registry.identifiedAs entry name).entries ↔ ∃ old ∈ registry.entries,
      (if old.slot = entry.slot then { old with name, identified := true } else old) = other :=
  mem_entries_update

theorem sound_identifiedAs {registry : Registry} (sound : registry.Sound) {slot : Slot}
    {entry : Connection} {name : String} (found : registry.get? slot = some entry)
    (free : ∀ holder, registry.slotForName? name = some holder → holder = slot) :
    (registry.identifiedAs entry name).Sound where
  slotsDistinct := by
    change ((registry.update entry.slot _).entries.map (·.slot)).Nodup
    rw [slots_update (by intro; rfl)]
    exact sound.slotsDistinct
  slotsIssued := slotsIssued_update sound (by intro; rfl)
  nameBorne := by
    intro other holder resolved
    rw [slotForName?_identifiedAs] at resolved
    rw [get?_identifiedAs]
    by_cases same : other = name
    · rw [if_pos same] at resolved
      cases resolved
      rw [slot_of_get? found, found]
      exact ⟨_, rfl, by simp [slot_of_get? found, same]⟩
    · rw [if_neg same] at resolved
      split at resolved
      · cases resolved
      · rename_i kept
        obtain ⟨held, heldFound, heldNamed⟩ := sound.nameBorne other holder resolved
        rw [heldFound]
        refine ⟨_, rfl, ?_⟩
        have others : held.slot ≠ entry.slot := by
          intro sameSlot
          have sameEntry : held = entry :=
            List.inj_on_of_nodup_map sound.slotsDistinct (mem_of_get? heldFound)
              (mem_of_get? found) sameSlot
          apply kept
          rw [← heldNamed, sameEntry]
          refine ⟨rfl, ?_⟩
          rw [← sameEntry, heldNamed, resolved, slot_of_get? heldFound]
        simpa only [if_neg others] using heldNamed
  identifiedFound := by
    intro other member identified
    obtain ⟨old, oldMember, rfl⟩ := List.mem_map.mp member
    rw [slotForName?_identifiedAs]
    by_cases same : old.slot = entry.slot
    · simp [same]
    · simp only [same, if_false] at identified ⊢
      have resolved := sound.identifiedFound old oldMember identified
      have different : old.name ≠ name := by
        rintro sameName
        rw [sameName] at resolved
        exact same ((free _ resolved).trans (slot_of_get? found).symm)
      rw [if_neg different, if_neg, resolved]
      rintro ⟨sameName, held⟩
      rw [sameName, held] at resolved
      exact same (Option.some.inj resolved).symm

/-! ## Removal -/

/-- The registry without the connection `entry`. -/
def without (registry : Registry) (entry : Connection) : Registry :=
  { registry with
    entries := registry.entries.filter fun other => other.slot != entry.slot
    index := release registry.index entry.name entry.slot }

theorem remove_of_get? {registry : Registry} {slot : Slot} {entry : Connection}
    (found : registry.get? slot = some entry) :
    registry.remove slot = (registry.without entry, some entry) := by
  obtain rfl := slot_of_get? found
  simp only [remove, found]
  rfl

theorem remove_of_get?_eq_none {registry : Registry} {slot : Slot}
    (absent : registry.get? slot = none) : registry.remove slot = (registry, none) := by
  simp only [remove, absent]

@[simp] theorem lastSlot_remove (registry : Registry) (slot : Slot) :
    (registry.remove slot).1.lastSlot = registry.lastSlot := by
  unfold remove
  split <;> rfl

theorem mem_entries_without {registry : Registry} {entry other : Connection} :
    other ∈ (registry.without entry).entries ↔
      other ∈ registry.entries ∧ other.slot ≠ entry.slot := by
  simp [without]

theorem slotForName?_without (registry : Registry) (entry : Connection) (name : String) :
    (registry.without entry).slotForName? name =
      if name = entry.name ∧ registry.slotForName? entry.name = some entry.slot then none
      else registry.slotForName? name :=
  lookup_release _ _ _ _

theorem get?_without (registry : Registry) (entry : Connection) (slot : Slot) :
    (registry.without entry).get? slot =
      if slot = entry.slot then none else registry.get? slot := by
  simp only [without, get?, List.find?_filter]
  by_cases same : slot = entry.slot
  · rw [if_pos same, List.find?_eq_none]
    intro other _ both
    subst same
    simp at both
  · rw [if_neg same]
    congr 1
    funext other
    by_cases asked : other.slot = slot
    · simp [asked, same]
    · simp [asked]

theorem mem_entries_remove {registry : Registry} {slot : Slot} {other : Connection} :
    other ∈ (registry.remove slot).1.entries ↔ other ∈ registry.entries ∧ other.slot ≠ slot := by
  cases found : registry.get? slot with
  | none =>
      rw [remove_of_get?_eq_none found]
      refine ⟨fun member => ⟨member, ?_⟩, And.left⟩
      rintro rfl
      have present := get?_isSome_of_mem member
      rw [found] at present
      cases present
  | some entry =>
      rw [remove_of_get? found, mem_entries_without, slot_of_get? found]

theorem get?_remove (registry : Registry) (slot other : Slot) :
    (registry.remove slot).1.get? other = if other = slot then none else registry.get? other := by
  cases found : registry.get? slot with
  | none =>
      rw [remove_of_get?_eq_none found]
      split
      · rename_i same
        rw [same, found]
      · rfl
  | some entry => rw [remove_of_get? found, get?_without, slot_of_get? found]

theorem sound_without {registry : Registry} (sound : registry.Sound) {entry : Connection}
    (member : entry ∈ registry.entries) : (registry.without entry).Sound where
  slotsDistinct := sound.slotsDistinct.sublist (List.filter_sublist.map _)
  slotsIssued := by
    intro other kept
    exact sound.slotsIssued other (mem_entries_without.mp kept).1
  nameBorne := by
    intro name slot resolved
    rw [slotForName?_without] at resolved
    split at resolved
    · cases resolved
    · rename_i kept
      obtain ⟨held, found, named⟩ := sound.nameBorne name slot resolved
      refine ⟨held, ?_, named⟩
      rw [get?_without, if_neg, found]
      rintro rfl
      have sameEntry : held = entry :=
        List.inj_on_of_nodup_map sound.slotsDistinct (mem_of_get? found) member
          (slot_of_get? found)
      subst sameEntry
      exact kept ⟨named.symm, by rw [named, resolved]⟩
  identifiedFound := by
    intro other kept identified
    obtain ⟨otherMember, different⟩ := mem_entries_without.mp kept
    have resolved := sound.identifiedFound other otherMember identified
    rw [slotForName?_without, if_neg, resolved]
    rintro ⟨sameName, held⟩
    rw [sameName, held] at resolved
    exact different (Option.some.inj resolved).symm

theorem sound_remove {registry : Registry} (sound : registry.Sound) (slot : Slot) :
    (registry.remove slot).1.Sound := by
  cases found : registry.get? slot with
  | none =>
      rw [remove_of_get?_eq_none found]
      exact sound
  | some entry =>
      rw [remove_of_get? found]
      exact sound_without sound (mem_of_get? found)

theorem sound_drain (registry : Registry) : registry.drain.1.Sound where
  slotsDistinct := by simp [drain]
  slotsIssued := by simp [drain]
  nameBorne := by simp [drain, slotForName?]
  identifiedFound := by simp [drain]

end PeerMesh.Registry
