import PeerMesh.Proofs.Node.Settlement

/-!
# One name for several connections

When several connections are identified one after another as the same peer, one of them keeps the
name. It is the first that has the preferred direction, or the first of all if none has it: a later
connection takes the name only from one of the direction that is not preferred, and then keeps it for
good. So the two ends of two links of opposite direction keep the same link, in whichever order the
names come.
-/

set_option autoImplicit false

namespace PeerMesh.Node

/-- The node after connections have been identified as `name` one after another. -/
def identifyEach (node : Node) (around : Surroundings) (name : String) (slots : List Slot) : Node :=
  slots.foldl (fun node slot => (node.identify around slot name).1) node

/-- Whether the connection under `slot` has the direction that is preferred for `name`: the one in
which the side with the smaller identifier dials. -/
def prefers (node : Node) (name : String) (slot : Slot) : Bool :=
  (node.table.registry.get? slot).any fun entry =>
    decide (entry.direction = if node.profile.id < name then .outbound else .inbound)

/-- The first connection of the preferred direction, or the first of all if there is none. -/
def keeper? (node : Node) (name : String) (slots : List Slot) : Option Slot :=
  (slots.find? (node.prefers name)).or slots.head?

/-- Of the connections `slots` only `keeper` is still registered, and it has the name. -/
structure Keeps (before after : Node) (name : String) (slots : List Slot) (keeper : Slot) :
    Prop where
  member : keeper ∈ slots
  chosen : before.keeper? name slots = some keeper
  standing : ∃ entry, before.table.registry.get? keeper = some entry ∧
    after.standing keeper = ⟨some { entry with name, identified := true }, before.link? keeper⟩
  resolved : after.table.registry.slotForName? name = some keeper
  ousted : ∀ slot ∈ slots, slot ≠ keeper → (after.standing slot).Ousted

/-! ## The choice -/

section Choice

variable {node : Node} {name : String} {past : List Slot} {keeper slot left right : Slot}
  {entry : Connection}

theorem prefers_iff (found : node.table.registry.get? slot = some entry) (name : String) :
    node.prefers name slot = true ↔ entry.direction = node.preferredDirection name := by
  simp [prefers, found, preferredDirection]

/-- A later connection is chosen only if it is the first of the preferred direction. -/
theorem keeper?_concat (chosen : node.keeper? name past = some keeper) (slot : Slot) :
    node.keeper? name (past ++ [slot]) =
      some (if node.prefers name slot && !node.prefers name keeper then slot else keeper) := by
  unfold keeper? at chosen ⊢
  rw [List.find?_append, List.head?_append]
  cases search : past.find? (node.prefers name) with
  | some preferred =>
      rw [search, Option.some_or] at chosen
      cases chosen
      have suits : node.prefers name keeper = true := List.find?_some search
      simp [suits]
  | none =>
      rw [search, Option.none_or] at chosen
      have unsuited : node.prefers name keeper = false := by
        simpa using List.find?_eq_none.mp search keeper (List.mem_of_head? chosen)
      rw [chosen]
      cases suits : node.prefers name slot <;> simp [suits, unsuited]

theorem keeper?_swap (opposite : node.prefers name left ≠ node.prefers name right) :
    node.keeper? name [right, left] = node.keeper? name [left, right] := by
  cases leftSuits : node.prefers name left <;> cases rightSuits : node.prefers name right <;>
    simp_all [keeper?]

/-- Of two opposite directions exactly one is preferred. -/
theorem prefers_ne_of_opposite
    (leftFound : (node.table.registry.get? left).isSome = true)
    (rightFound : (node.table.registry.get? right).isSome = true)
    (opposite : (node.table.registry.get? left).map (·.direction) ≠
      (node.table.registry.get? right).map (·.direction)) :
    node.prefers name left ≠ node.prefers name right := by
  obtain ⟨leftEntry, leftFound⟩ := Option.isSome_iff_exists.mp leftFound
  obtain ⟨rightEntry, rightFound⟩ := Option.isSome_iff_exists.mp rightFound
  intro same
  have preferred := prefers_iff leftFound name
  rw [same, prefers_iff rightFound] at preferred
  apply opposite
  rw [leftFound, rightFound, Option.map_some, Option.map_some]
  cases leftDirection : leftEntry.direction <;> cases rightDirection : rightEntry.direction <;>
    cases favored : node.preferredDirection name <;> simp_all

end Choice

/-! ## One identification after another -/

variable {start node : Node} {around : Surroundings} {name : String} {past : List Slot}
  {keeper slot : Slot} {entry holder : Connection}

theorem sound_identify (sound : node.ledger.Sound) (around : Surroundings) (slot : Slot)
    (name : String) : (node.identify around slot name).1.ledger.Sound := by
  have now : (⟨node, 0⟩ : Situation).node.ledger.Sound := sound
  exact sound_step now (.identifies around slot name)

theorem pumped_identify (pumped : node.Pumped) (sound : node.ledger.Sound) (around : Surroundings)
    (slot : Slot) (name : String) : (node.identify around slot name).1.Pumped := by
  have now : (⟨node, 0⟩ : Situation).node.Pumped := pumped
  exact now.step sound (.identifies around slot name)

theorem profile_identify (node : Node) (around : Surroundings) (slot : Slot) (name : String) :
    (node.identify around slot name).1.profile = node.profile :=
  congrArg (·.1.1) (shell_identify node around slot name)

/-- The connections `past` have been identified one after another, and `keeper` has the name. -/
structure Contest (start node : Node) (name : String) (past : List Slot) (keeper : Slot) : Prop
    extends Keeps start node name past keeper where
  sound : node.ledger.Sound
  pumped : node.Pumped
  profile : node.profile = start.profile
  others : ∀ slot, slot ∉ past → node.standing slot = start.standing slot

/-- The first connection gets a name that nothing resolves to. -/
theorem contest_first (sound : start.ledger.Sound) (pumped : start.Pumped)
    (accepted : nameRefusal? around name = none)
    (unheld : start.table.registry.slotForName? name = none)
    (found : start.table.registry.get? slot = some entry) :
    Contest start (start.identify around slot name).1 name [slot] slot := by
  obtain rfl := Registry.slot_of_get? found
  have same : (start.identify around entry.slot name).1 = start.withName entry name := by
    have outcome := identify_spec sound.registry around entry.slot name
    generalize start.identify around entry.slot name = result at outcome
    cases outcome with
    | unknown absent => exact absurd (absent.symm.trans found) nofun
    | refused _ _ _ refusal => exact absurd (refusal.symm.trans accepted) nofun
    | free other otherFound => rw [Option.some.inj (otherFound.symm.trans found)]
    | taken _ _ _ _ _ held => exact absurd (held.symm.trans unheld) nofun
    | lost _ _ _ _ _ held => exact absurd (held.symm.trans unheld) nofun
  have names := names_withName found name
  have kept := profile_identify start around entry.slot name
  refine ⟨⟨List.mem_singleton_self _, ?_, ⟨entry, found, ?_⟩, ?_, ?_⟩,
    sound_identify sound around _ name, pumped_identify pumped sound around _ name, kept, ?_⟩
  · cases suits : start.prefers name entry.slot <;> simp [keeper?, suits]
  · rw [same]
    exact names.standing
  · rw [same]
    exact names.resolved
  · intro other member different
    exact absurd (List.mem_singleton.mp member) different
  · intro other absent
    rw [same]
    exact standing_withName_of_ne (fun equal => absent (List.mem_singleton.mpr equal)) name

theorem Contest.keeper_found (contest : Contest start node name past keeper)
    (holderFound : node.table.registry.get? holder.slot = some holder)
    (held : node.table.registry.slotForName? name = some holder.slot) :
    holder.slot = keeper ∧
      (start.prefers name keeper = true ↔ holder.direction = start.preferredDirection name) := by
  obtain ⟨bearer, bearerFound, standing⟩ := contest.standing
  have same : holder.slot = keeper := Option.some.inj (held.symm.trans contest.resolved)
  refine ⟨same, ?_⟩
  rw [same] at holderFound
  have renamed := Option.some.inj (holderFound.symm.trans (congrArg Standing.entry standing))
  rw [prefers_iff bearerFound, renamed]

/-- The connection takes the name from the one that had it. -/
theorem Contest.taken (contest : Contest start node name past keeper)
    (fresh : slot ∉ past) (found : start.table.registry.get? slot = some entry)
    (nowFound : node.table.registry.get? slot = some entry)
    (holderFound : node.table.registry.get? holder.slot = some holder)
    (held : node.table.registry.slotForName? name = some holder.slot)
    (different : holder.slot ≠ slot) (opposite : holder.direction ≠ entry.direction)
    (preferred : entry.direction = node.preferredDirection name) :
    Keeps start ((node.dismissed holder).withName entry name) name (past ++ [slot]) slot ∧
      ∀ other, other ∉ past ++ [slot] →
        ((node.dismissed holder).withName entry name).standing other = start.standing other := by
  obtain rfl := Registry.slot_of_get? found
  obtain ⟨rfl, keeperPrefers⟩ := contest.keeper_found holderFound held
  have pumped := contest.pumped holder (Registry.mem_of_get? holderFound)
  have names := names_taken nowFound held different pumped
  have ousts := ousts_dismissed pumped
  rw [preferredDirection, contest.profile] at preferred
  have stays : ∀ other, other ≠ entry.slot → other ≠ holder.slot →
      ((node.dismissed holder).withName entry name).standing other = node.standing other :=
    fun other free foreign => (standing_withName_of_ne free name).trans (ousts.others other foreign)
  refine ⟨⟨List.mem_append_right _ List.mem_cons_self, ?_, ⟨entry, found, ?_⟩, names.resolved, ?_⟩,
    ?_⟩
  · have suits : start.prefers name entry.slot = true := (prefers_iff found name).mpr preferred
    have unsuited : start.prefers name holder.slot = false := by
      rw [← Bool.not_eq_true, keeperPrefers]
      exact fun suited => opposite (suited.trans preferred.symm)
    rw [keeper?_concat contest.chosen, suits, unsuited]
    rfl
  · have link := congrArg Standing.link (contest.others entry.slot fresh)
    rw [names.standing]
    exact congrArg _ link
  · intro other member free
    by_cases same : other = holder.slot
    · rw [same, standing_withName_of_ne different]
      exact ousts.ousted
    · rw [stays other free same]
      rcases List.mem_append.mp member with before | now
      · exact contest.ousted other before same
      · exact absurd (List.mem_singleton.mp now) free
  · intro other absent
    rw [List.mem_append, not_or, List.mem_singleton] at absent
    have foreign : other ≠ holder.slot := fun same => absent.1 (same ▸ contest.member)
    rw [stays other absent.2 foreign, contest.others other absent.1]

/-- The connection loses against the one that has the name. -/
theorem Contest.lost (contest : Contest start node name past keeper)
    (fresh : slot ∉ past) (found : start.table.registry.get? slot = some entry)
    (nowFound : node.table.registry.get? slot = some entry)
    (holderFound : node.table.registry.get? holder.slot = some holder)
    (held : node.table.registry.slotForName? name = some holder.slot)
    (outranked : holder.direction ≠ entry.direction →
      entry.direction ≠ node.preferredDirection name) :
    Keeps start (node.dismissed entry) name (past ++ [slot]) keeper ∧
      ∀ other, other ∉ past ++ [slot] →
        (node.dismissed entry).standing other = start.standing other := by
  obtain rfl := Registry.slot_of_get? found
  obtain ⟨rfl, keeperPrefers⟩ := contest.keeper_found holderFound held
  have ousts := ousts_dismissed (contest.pumped entry (Registry.mem_of_get? nowFound))
  have different : holder.slot ≠ entry.slot := fun same => fresh (same ▸ contest.member)
  rw [preferredDirection, contest.profile] at outranked
  obtain ⟨bearer, bearerFound, standing⟩ := contest.standing
  refine ⟨⟨List.mem_append_left _ contest.member, ?_, ⟨bearer, bearerFound, ?_⟩, ?_, ?_⟩, ?_⟩
  · have unchosen : (start.prefers name entry.slot && !start.prefers name holder.slot) = false := by
      rw [Bool.and_eq_false_imp, prefers_iff found]
      intro preferred
      have same : holder.direction = entry.direction :=
        not_imp_not.mp outranked preferred
      rw [keeperPrefers.mpr (same.trans preferred)]
      rfl
    rw [keeper?_concat contest.chosen, unchosen]
    rfl
  · rw [ousts.others holder.slot different, standing]
  · rw [registry_dismissed, Registry.slotForName?_without, if_neg, contest.resolved]
    rintro ⟨rfl, own⟩
    exact different (Option.some.inj (held.symm.trans own))
  · intro other member free
    by_cases same : other = entry.slot
    · rw [same]
      exact ousts.ousted
    · rw [ousts.others other same]
      rcases List.mem_append.mp member with before | now
      · exact contest.ousted other before free
      · exact absurd (List.mem_singleton.mp now) same
  · intro other absent
    rw [List.mem_append, not_or, List.mem_singleton] at absent
    rw [ousts.others other absent.2, contest.others other absent.1]

theorem Contest.next (contest : Contest start node name past keeper)
    (accepted : nameRefusal? around name = none) (fresh : slot ∉ past)
    (found : start.table.registry.get? slot = some entry) :
    ∃ chosen, Contest start (node.identify around slot name).1 name (past ++ [slot]) chosen := by
  have sound := sound_identify contest.sound around slot name
  have pumped := pumped_identify contest.pumped contest.sound around slot name
  have profile := (profile_identify node around slot name).trans contest.profile
  have nowFound : node.table.registry.get? slot = some entry :=
    (congrArg Standing.entry (contest.others slot fresh)).trans found
  have same : ∀ {other}, node.table.registry.get? slot = some other → other = entry :=
    fun otherFound => Option.some.inj (otherFound.symm.trans nowFound)
  have outcome := identify_spec contest.sound.registry around slot name
  generalize node.identify around slot name = result at outcome sound pumped profile
  cases outcome with
  | unknown absent => exact absurd (absent.symm.trans nowFound) nofun
  | refused _ _ _ refusal => exact absurd (refusal.symm.trans accepted) nofun
  | free other _ _ unheld => exact absurd contest.member (unheld _ contest.resolved ▸ fresh)
  | taken other holder otherFound _ holderFound held different opposite preferred =>
      obtain rfl := same otherFound
      obtain ⟨keeps, others⟩ := contest.taken fresh found nowFound holderFound held different
        opposite preferred
      exact ⟨slot, keeps, sound, pumped, profile, others⟩
  | lost other holder otherFound _ holderFound held different outranked =>
      obtain rfl := same otherFound
      obtain ⟨keeps, others⟩ := contest.lost fresh found nowFound holderFound held outranked
      exact ⟨keeper, keeps, sound, pumped, profile, others⟩

/-- The contest goes on through any number of further connections. -/
theorem Contest.rest (contest : Contest start node name past keeper)
    (accepted : nameRefusal? around name = none) {later : List Slot}
    (distinct : (past ++ later).Nodup)
    (registered : ∀ slot ∈ later, (start.table.registry.get? slot).isSome = true) :
    ∃ chosen, Contest start (node.identifyEach around name later) name (past ++ later) chosen := by
  induction later generalizing node past keeper with
  | nil => exact ⟨keeper, by rwa [List.append_nil]⟩
  | cons slot later ih =>
      obtain ⟨entry, found⟩ := Option.isSome_iff_exists.mp (registered slot List.mem_cons_self)
      have fresh : slot ∉ past := fun member =>
        (List.nodup_append.mp distinct).2.2 slot member slot List.mem_cons_self rfl
      obtain ⟨chosen, next⟩ := contest.next accepted fresh found
      rw [List.append_cons] at distinct ⊢
      exact ih next distinct fun other member => registered other (List.mem_cons_of_mem slot member)

theorem exists_keeps_identifyEach (sound : start.ledger.Sound) (pumped : start.Pumped)
    (accepted : nameRefusal? around name = none)
    (unheld : start.table.registry.slotForName? name = none) {slots : List Slot}
    (filled : slots ≠ []) (distinct : slots.Nodup)
    (registered : ∀ slot ∈ slots, (start.table.registry.get? slot).isSome = true) :
    ∃ keeper, start.Keeps (start.identifyEach around name slots) name slots keeper := by
  cases slots with
  | nil => exact absurd rfl filled
  | cons slot later =>
      obtain ⟨entry, found⟩ := Option.isSome_iff_exists.mp (registered slot List.mem_cons_self)
      have first := contest_first sound pumped accepted unheld found
      obtain ⟨keeper, contest⟩ := first.rest accepted distinct fun other member =>
        registered other (List.mem_cons_of_mem slot member)
      exact ⟨keeper, contest.toKeeps⟩

namespace Situation

/-- Of several connections that are identified as one peer one after another exactly one stays
registered, under that name: the first of the preferred direction, or the first of all if none has
it. Two connections of opposite direction leave the same one in either order. -/
theorem one_connection_keeps_name {start : Situation} (initial : start.Initial) (acts : List Act)
    {around : Surroundings} {name : String} (unblocked : around.blocks name = false)
    (foreign : around.isMember name = false)
    (unborne : ∀ entry ∈ (start.run acts).node.table.registry.entries, entry.name ≠ name)
    {slots : List Slot} (filled : slots ≠ []) (distinct : slots.Nodup)
    (registered : ∀ slot ∈ slots,
      ((start.run acts).node.table.registry.get? slot).isSome = true) :
    let before := (start.run acts).node
    ∃ keeper, before.Keeps (before.identifyEach around name slots) name slots keeper ∧
      ∀ left right, slots = [left, right] →
        (before.table.registry.get? left).map (·.direction) ≠
          (before.table.registry.get? right).map (·.direction) →
        before.Keeps (before.identifyEach around name [right, left]) name [right, left] keeper := by
  intro before
  have sound : before.ledger.Sound := sound_run initial acts
  have pumped : before.Pumped := pumped_run initial acts
  have accepted : nameRefusal? around name = none :=
    nameRefusal?_eq_none_iff.mpr ⟨unblocked, foreign⟩
  have unheld : before.table.registry.slotForName? name = none := by
    rw [Option.eq_none_iff_forall_not_mem]
    intro slot resolved
    obtain ⟨entry, found, named⟩ := sound.registry.nameBorne name slot resolved
    exact unborne entry (Registry.mem_of_get? found) named
  obtain ⟨keeper, keeps⟩ :=
    exists_keeps_identifyEach sound pumped accepted unheld filled distinct registered
  refine ⟨keeper, keeps, ?_⟩
  rintro left right rfl opposite
  have swap : [left, right].Perm [right, left] := List.Perm.swap right left []
  obtain ⟨other, swapped⟩ := exists_keeps_identifyEach sound pumped accepted unheld
    (List.cons_ne_nil right [left]) (swap.nodup distinct) fun slot member =>
      registered slot (swap.mem_iff.mpr member)
  have same := swapped.chosen
  rw [keeper?_swap (prefers_ne_of_opposite (registered left List.mem_cons_self)
    (registered right (List.mem_cons_of_mem left List.mem_cons_self)) opposite), keeps.chosen] at same
  rw [Option.some.inj same]
  exact swapped

/-- Two connections are accepted and one is dialed. -/
def threeLinks : List Act :=
  [.accepts (.v4 ⟨192, 0, 2, 1⟩ 40001) ⟨0, .callee⟩ 1,
    .accepts (.v4 ⟨192, 0, 2, 1⟩ 40002) ⟨1, .callee⟩ 2,
    .requests aloof none (.v4 ⟨192, 0, 2, 1⟩ 5000) 0 3, .dialConnects 0 ⟨2, .caller⟩ 4]

theorem one_connection_keeps_name_threeLinks :
    let before := ((lone 40000).run threeLinks).node
    before.Keeps (before.identifyEach aloof "p" [⟨1⟩, ⟨3⟩, ⟨2⟩]) "p" [⟨1⟩, ⟨3⟩, ⟨2⟩] ⟨3⟩ := by
  intro before
  have chosen : before.keeper? "p" [⟨1⟩, ⟨3⟩, ⟨2⟩] = some ⟨3⟩ := by decide
  have unblocked : aloof.blocks "p" = false := by decide
  have foreign : aloof.isMember "p" = false := by decide
  have unborne : ∀ entry ∈ before.table.registry.entries, entry.name ≠ "p" := by decide
  have registered : ∀ slot ∈ [(⟨1⟩ : Slot), ⟨3⟩, ⟨2⟩],
      (before.table.registry.get? slot).isSome = true := by decide
  obtain ⟨keeper, keeps, -⟩ := one_connection_keeps_name (initial_lone 40000) threeLinks unblocked
    foreign unborne (by decide) (by decide) registered
  have same : keeper = ⟨3⟩ := Option.some.inj (keeps.chosen.symm.trans chosen)
  rwa [same] at keeps

end Situation

end PeerMesh.Node
