import Mathlib.Data.List.Induction
import Mathlib.Data.List.Perm.Basic
import PeerMesh.Shutdown

/-!
# One teardown, whatever the schedule

The first caller that gets the permit leads: it alone begins the teardown, and as long as it runs it
nobody else gets the permit. Nothing is assumed of the order in which those who wait get it. What the
others answer depends only on what has become of the leader.
-/

set_option autoImplicit false

namespace PeerMesh.Shutdown

variable {ι : Type}

/-- One step of a schedule. -/
inductive Turn (ι : Type) where
  | calls (name : ι)
  /-- The callers of a name come first from now on, among those who wait for the permit. -/
  | favors (name : ι)
  | grants
  | finishes
  /-- The callers of a name are cancelled, if they have not answered. -/
  | aborts (name : ι)

namespace Coordinator

def favor [DecidableEq ι] (coordinator : Coordinator ι) (name : ι) : Coordinator ι :=
  { coordinator with
    callers := coordinator.callers.filter (·.name = name) ++
      coordinator.callers.filter (¬ ·.name = name) }

def turn [DecidableEq ι] (coordinator : Coordinator ι) : Turn ι → Coordinator ι
  | .calls name => coordinator.call name
  | .favors name => coordinator.favor name
  | .grants => coordinator.grant
  | .finishes => coordinator.finish
  | .aborts name => coordinator.abort name

def run [DecidableEq ι] (coordinator : Coordinator ι) (schedule : List (Turn ι)) :
    Coordinator ι :=
  schedule.foldl turn coordinator

/-! ## The leader -/

/-- How the callers stand towards the one that has begun the teardown, if it was begun. -/
structure Led (coordinator : Coordinator ι) (lead : Option (Caller ι))
    (others : List (Caller ι)) : Prop where
  listed : coordinator.callers.Perm (lead.toList ++ others)
  done : coordinator.done = lead.isSome
  begun : coordinator.begun = lead.toList.length
  ended : coordinator.ended = (lead.any (·.status = .returned true)).toNat
  leads : ∀ caller ∈ lead,
    caller.status = .running ∨ caller.status = .returned true ∨ caller.status = .aborted
  /-- Nobody answers while the leader runs the teardown. -/
  follow : ∀ caller ∈ others, caller.status = .waiting ∨ caller.status = .aborted ∨
    caller.status = .returned false ∧ ∃ leader, lead = some leader ∧ leader.status ≠ .running

variable {coordinator : Coordinator ι} {lead : Option (Caller ι)} {others : List (Caller ι)}

theorem led_initial : (initial : Coordinator ι).Led none [] where
  listed := .nil
  done := rfl
  begun := rfl
  ended := rfl
  leads := by simp
  follow := by simp

theorem Led.mem_callers (led : coordinator.Led lead others) {caller : Caller ι} :
    caller ∈ coordinator.callers ↔ lead = some caller ∨ caller ∈ others := by
  rw [led.listed.mem_iff, List.mem_append, Option.mem_toList]

theorem Led.mem_running_iff (led : coordinator.Led lead others) {name : ι} :
    ⟨name, .running⟩ ∈ coordinator.callers ↔ lead = some ⟨name, .running⟩ := by
  rw [led.mem_callers, or_iff_left]
  intro member
  have follows := led.follow _ member
  simp at follows

theorem Led.mem_returned_true_iff (led : coordinator.Led lead others) {name : ι} :
    ⟨name, .returned true⟩ ∈ coordinator.callers ↔ lead = some ⟨name, .returned true⟩ := by
  rw [led.mem_callers, or_iff_left]
  intro member
  have follows := led.follow _ member
  simp at follows

theorem Led.running?_eq_some_iff (led : coordinator.Led lead others) {name : ι} :
    coordinator.running? = some name ↔ lead = some ⟨name, .running⟩ := by
  rw [running?, ← led.mem_running_iff]
  constructor
  · intro running
    obtain ⟨caller, search, rfl⟩ := Option.map_eq_some_iff.mp running
    have status : caller.status = .running := by simpa using List.find?_some search
    rw [← status]
    exact List.mem_of_find?_eq_some search
  · intro member
    have present : (coordinator.callers.find? fun caller => caller.status = .running).isSome :=
      List.find?_isSome.mpr ⟨_, member, by simp⟩
    obtain ⟨caller, search⟩ := Option.isSome_iff_exists.mp present
    have status : caller.status = .running := by simpa using List.find?_some search
    have alone : lead = some ⟨caller.name, .running⟩ := by
      rw [← led.mem_running_iff, ← status]
      exact List.mem_of_find?_eq_some search
    rw [led.mem_running_iff, alone] at member
    rw [search]
    cases member
    rfl

theorem Led.isSome_running?_iff (led : coordinator.Led lead others) :
    coordinator.running?.isSome = true ↔ ∃ name, lead = some ⟨name, .running⟩ := by
  rw [Option.isSome_iff_exists]
  exact exists_congr fun _ => led.running?_eq_some_iff

theorem Led.countP_returned_true_le_one (led : coordinator.Led lead others) :
    coordinator.callers.countP (·.status = .returned true) ≤ 1 := by
  have none : others.countP (·.status = .returned true) = 0 := by
    apply List.countP_eq_zero.mpr
    intro caller member answered
    have follows := led.follow caller member
    simp [of_decide_eq_true answered] at follows
  calc
    _ = (lead.toList ++ others).countP (·.status = .returned true) := led.listed.countP_eq _
    _ = lead.toList.countP (·.status = .returned true) := by rw [List.countP_append, none]; rfl
    _ ≤ lead.toList.length := List.countP_le_length
    _ ≤ 1 := Option.length_toList_le

/-- Whoever has answered, the leader has stopped running. -/
theorem Led.stopped_of_returned (led : coordinator.Led lead others) {caller : Caller ι}
    (member : caller ∈ coordinator.callers) {performed : Bool}
    (answered : caller.status = .returned performed) :
    ∃ name, lead = some ⟨name, .returned true⟩ ∨ lead = some ⟨name, .aborted⟩ := by
  have stopped : ∃ leader, lead = some leader ∧ leader.status ≠ .running := by
    cases led.mem_callers.mp member with
    | inl leads => exact ⟨caller, leads, by simp [answered]⟩
    | inr follows =>
        have stands := led.follow caller follows
        simp only [answered, reduceCtorEq, false_or] at stands
        exact stands.2
  obtain ⟨leader, rfl, unfinished⟩ := stopped
  refine ⟨leader.name, ?_⟩
  rcases led.leads leader rfl with running | returned | aborted
  · exact absurd running unfinished
  · left
    rw [← returned]
  · right
    rw [← aborted]

/-! ## Turns -/

/-- What becomes of the leader in a turn. -/
inductive Leads : Turn ι → Option (Caller ι) → Option (Caller ι) → Prop
  | stays {turn : Turn ι} {lead : Option (Caller ι)}
      (unended : turn = .finishes → ∀ name, lead ≠ some ⟨name, .running⟩)
      (uncut : ∀ name, turn = .aborts name → lead ≠ some ⟨name, .running⟩) : Leads turn lead lead
  | begins (name : ι) : Leads .grants none (some ⟨name, .running⟩)
  | ends (name : ι) : Leads .finishes (some ⟨name, .running⟩) (some ⟨name, .returned true⟩)
  | cut (name : ι) : Leads (.aborts name) (some ⟨name, .running⟩) (some ⟨name, .aborted⟩)

theorem Led.call (led : coordinator.Led lead others) (name : ι) :
    (coordinator.call name).Led lead (others ++ [⟨name, .waiting⟩]) where
  listed := by
    rw [← List.append_assoc]
    exact led.listed.append_right _
  done := led.done
  begun := led.begun
  ended := led.ended
  leads := led.leads
  follow := by
    intro caller member
    cases List.mem_append.mp member with
    | inl old => exact led.follow caller old
    | inr new =>
        cases List.mem_singleton.mp new
        exact .inl rfl

theorem Led.favor [DecidableEq ι] (led : coordinator.Led lead others) (name : ι) :
    (coordinator.favor name).Led lead others where
  listed := by
    have sorted := List.filter_append_perm (fun caller => decide (caller.name = name))
      coordinator.callers
    simp only [Coordinator.favor, decide_not]
    exact sorted.trans led.listed
  done := led.done
  begun := led.begun
  ended := led.ended
  leads := led.leads
  follow := led.follow

/-- The first waiting caller stands at some place of the list. -/
theorem exists_perm_promoteFirst {callers : List (Caller ι)}
    (waits : ∃ caller ∈ callers, caller.status = .waiting) (status : Status) :
    ∃ name rest, callers.Perm (⟨name, .waiting⟩ :: rest) ∧
      (promoteFirst status callers).Perm (⟨name, status⟩ :: rest) := by
  induction callers with
  | nil => simp at waits
  | cons caller rest ih =>
      by_cases first : caller.status = .waiting
      · refine ⟨caller.name, rest, ?_, ?_⟩
        · rw [← first]
        · rw [promoteFirst, if_pos first]
      · have later : ∃ caller ∈ rest, caller.status = .waiting := by
          obtain ⟨other, member, waiting⟩ := waits
          cases member with
          | head => exact absurd waiting first
          | tail _ member => exact ⟨other, member, waiting⟩
        obtain ⟨name, remaining, before, after⟩ := ih later
        refine ⟨name, caller :: remaining, ?_, ?_⟩
        · exact (before.cons caller).trans (.swap _ _ _)
        · rw [promoteFirst, if_neg first]
          exact (after.cons caller).trans (.swap _ _ _)

theorem map_name_promoteFirst (status : Status) (callers : List (Caller ι)) :
    (promoteFirst status callers).map (·.name) = callers.map (·.name) := by
  induction callers with
  | nil => rfl
  | cons caller rest ih =>
      unfold promoteFirst
      split
      · rfl
      · rw [List.map_cons, List.map_cons, ih]

theorem mem_promoteFirst {status : Status} {callers : List (Caller ι)} {caller : Caller ι}
    (member : caller ∈ callers) (answered : caller.status ≠ .waiting) :
    caller ∈ promoteFirst status callers := by
  induction callers with
  | nil => cases member
  | cons first rest ih =>
      unfold promoteFirst
      split
      · rename_i waits
        cases member with
        | head => exact absurd waits answered
        | tail _ later => exact List.mem_cons_of_mem _ later
      · cases member with
        | head => exact List.mem_cons_self
        | tail _ later => exact List.mem_cons_of_mem _ (ih later)

/-- The first caller that gets the permit begins the teardown. -/
theorem Led.promote_running (led : coordinator.Led none others)
    (waits : ∃ caller ∈ coordinator.callers, caller.status = .waiting) :
    ∃ name rest, Led
      { coordinator with
        callers := promoteFirst .running coordinator.callers
        done := true
        begun := coordinator.begun + 1 } (some ⟨name, .running⟩) rest := by
  obtain ⟨name, rest, before, after⟩ := exists_perm_promoteFirst waits .running
  have same : others.Perm (⟨name, .waiting⟩ :: rest) := led.listed.symm.trans before
  refine ⟨name, rest, ?_⟩
  constructor
  · exact after
  · rfl
  · simp [led.begun]
  · simp [led.ended]
  · simp
  · intro caller member
    have follows := led.follow caller (same.mem_iff.mpr (List.mem_cons_of_mem _ member))
    simpa using follows

/-- Who gets the permit once the leader has stopped answers `false`. -/
theorem Led.promote_returned {leader : Caller ι} (led : coordinator.Led (some leader) others)
    (stopped : leader.status ≠ .running)
    (waits : ∃ caller ∈ coordinator.callers, caller.status = .waiting) :
    ∃ rest, Led
      { coordinator with callers := promoteFirst (.returned false) coordinator.callers }
      (some leader) rest := by
  obtain ⟨name, rest, before, after⟩ := exists_perm_promoteFirst waits (.returned false)
  -- the leader is among the others, since it does not wait
  have among : leader ∈ rest := by
    have listed := before.mem_iff.mp (led.mem_callers.mpr (.inl rfl))
    cases listed with
    | head =>
        have leads := led.leads _ rfl
        simp at leads
    | tail _ member => exact member
  obtain ⟨first, last, rfl⟩ := List.append_of_mem among
  have front : (first ++ leader :: last).Perm (leader :: (first ++ last)) := List.perm_middle
  have same : others.Perm (⟨name, .waiting⟩ :: (first ++ last)) := by
    have both := led.listed.symm.trans (before.trans ((front.cons _).trans (.swap _ _ _)))
    exact both.cons_inv
  refine ⟨⟨name, .returned false⟩ :: (first ++ last), ?_⟩
  constructor
  · exact after.trans ((front.cons _).trans (.swap _ _ _))
  · exact led.done
  · exact led.begun
  · exact led.ended
  · exact led.leads
  · intro caller member
    cases member with
    | head => exact .inr (.inr ⟨rfl, leader, rfl, stopped⟩)
    | tail _ old => exact led.follow caller (same.mem_iff.mpr (List.mem_cons_of_mem _ old))

theorem Led.grant (led : coordinator.Led lead others) :
    ∃ later rest, coordinator.grant.Led later rest ∧
      (later = lead ∨ lead = none ∧ ∃ name, later = some ⟨name, .running⟩) := by
  unfold Coordinator.grant
  split
  · exact ⟨lead, others, led, .inl rfl⟩
  · rename_i free
    rw [Bool.or_eq_true, not_or, Bool.not_eq_true', Bool.not_eq_false] at free
    obtain ⟨free, waits⟩ := free
    rw [led.isSome_running?_iff, not_exists] at free
    have waits : ∃ caller ∈ coordinator.callers, caller.status = .waiting := by
      simpa [hasWaiting] using waits
    cases lead with
    | none =>
        rw [if_neg (by simp [led.done])]
        obtain ⟨name, rest, promoted⟩ := led.promote_running waits
        exact ⟨some ⟨name, .running⟩, rest, promoted, .inr ⟨rfl, name, rfl⟩⟩
    | some leader =>
        rw [if_pos (by simp [led.done])]
        have stopped : leader.status ≠ .running := by
          intro running
          apply free leader.name
          rw [← running]
        obtain ⟨rest, promoted⟩ := led.promote_returned stopped waits
        exact ⟨some leader, rest, promoted, .inl rfl⟩

theorem Led.finish (led : coordinator.Led lead others) :
    ∃ later, coordinator.finish.Led later others ∧ Leads .finishes lead later := by
  unfold Coordinator.finish
  split
  · rename_i busy
    obtain ⟨name, rfl⟩ := led.isSome_running?_iff.mp busy
    have unchanged : (others.map fun caller =>
        if caller.status = .running then { caller with status := .returned true } else caller) =
          others := by
      have idle : ∀ caller ∈ others, caller.status ≠ .running := by
        intro caller member running
        have follows := led.follow caller member
        simp [running] at follows
      calc
        _ = others.map id := List.map_congr_left fun caller member => if_neg (idle caller member)
        _ = others := List.map_id _
    refine ⟨some ⟨name, .returned true⟩, ?_, .ends name⟩
    constructor
    · have answered := led.listed.map fun caller =>
        if caller.status = .running then { caller with status := .returned true } else caller
      rw [List.map_append, unchanged] at answered
      exact answered
    · exact led.done
    · exact led.begun
    · simp [led.ended]
    · simp
    · intro caller member
      have follows := led.follow caller member
      simpa using follows.imp_right (Or.imp_right And.left)
  · rename_i idle
    rw [led.isSome_running?_iff, not_exists] at idle
    refine ⟨lead, led, .stays (fun _ => idle) ?_⟩
    intro name same
    cases same

/-- What cancelling makes of a caller. -/
def cancelled [DecidableEq ι] (name : ι) (caller : Caller ι) : Caller ι :=
  if caller.name = name ∧ (caller.status = .waiting ∨ caller.status = .running) then
    { caller with status := .aborted }
  else caller

theorem status_cancelled [DecidableEq ι] (name : ι) (caller : Caller ι) :
    (cancelled name caller).status = caller.status ∨
      (caller.status = .waiting ∨ caller.status = .running) ∧
        (cancelled name caller).status = .aborted := by
  unfold cancelled
  split
  · rename_i unanswered
    exact .inr ⟨unanswered.2, rfl⟩
  · exact .inl rfl

theorem Led.abort [DecidableEq ι] (led : coordinator.Led lead others) (name : ι) :
    (coordinator.abort name).Led (lead.map (cancelled name)) (others.map (cancelled name)) where
  listed := by
    have cancelling := led.listed.map (cancelled name)
    rw [List.map_append] at cancelling
    cases lead with
    | none => exact cancelling
    | some leader => exact cancelling
  done := by
    rw [Option.isSome_map]
    exact led.done
  begun := by
    rw [Option.toList_map, List.length_map]
    exact led.begun
  ended := by
    have same : (lead.map (cancelled name)).any (·.status = .returned true) =
        lead.any (·.status = .returned true) := by
      cases lead with
      | none => rfl
      | some leader =>
          cases status_cancelled name leader with
          | inl kept => simp [kept]
          | inr stopped =>
              obtain ⟨unanswered, aborted⟩ := stopped
              cases unanswered with
              | inl waiting => simp [waiting, aborted]
              | inr running => simp [running, aborted]
    exact led.ended.trans (congrArg Bool.toNat same.symm)
  leads := by
    intro caller member
    obtain ⟨leader, rfl, rfl⟩ := Option.map_eq_some_iff.mp member
    cases status_cancelled name leader with
    | inl kept =>
        rw [kept]
        exact led.leads leader rfl
    | inr stopped => exact .inr (.inr stopped.2)
  follow := by
    intro caller member
    obtain ⟨earlier, old, rfl⟩ := List.mem_map.mp member
    cases status_cancelled name earlier with
    | inr stopped => exact .inr (.inl stopped.2)
    | inl kept =>
        rw [kept]
        apply (led.follow earlier old).imp_right
        apply Or.imp_right
        intro answered
        obtain ⟨status, leader, rfl, stopped⟩ := answered
        refine ⟨status, _, rfl, ?_⟩
        cases status_cancelled name leader with
        | inl same => rwa [same]
        | inr aborted => simp [aborted.2]

theorem leads_cancelled [DecidableEq ι] (led : coordinator.Led lead others) (name : ι) :
    Leads (.aborts name) lead (lead.map (cancelled name)) := by
  have stays : (∀ leader, lead = some leader → cancelled name leader = leader) →
      Leads (.aborts name) lead (lead.map (cancelled name)) := by
    intro kept
    have same : lead.map (cancelled name) = lead := by
      cases lead with
      | none => rfl
      | some leader => exact congrArg some (kept leader rfl)
    rw [same]
    refine .stays nofun ?_
    intro other cancels running
    cases cancels
    have kept := kept _ running
    simp [cancelled] at kept
  cases lead with
  | none => exact stays nofun
  | some leader =>
      by_cases cuts : leader = ⟨name, .running⟩
      · subst cuts
        have aborted : cancelled name ⟨name, .running⟩ = ⟨name, .aborted⟩ := by simp [cancelled]
        rw [Option.map_some, aborted]
        exact .cut name
      · apply stays
        intro other same
        cases same
        apply if_neg
        intro cancels
        obtain ⟨rfl, unanswered⟩ := cancels
        cases unanswered with
        | inl waiting =>
            have leads := led.leads leader rfl
            simp [waiting] at leads
        | inr running =>
            apply cuts
            rw [← running]

theorem Led.turn [DecidableEq ι] (led : coordinator.Led lead others) (turn : Turn ι) :
    ∃ later rest, (coordinator.turn turn).Led later rest ∧ Leads turn lead later := by
  have quiet : ∀ {turn : Turn ι}, turn ≠ .finishes → (∀ name, turn ≠ .aborts name) →
      Leads turn lead lead := by
    intro turn unended uncut
    exact .stays (fun same => absurd same unended) (fun name same => absurd same (uncut name))
  cases turn with
  | calls name => exact ⟨lead, _, led.call name, quiet (by simp) (by simp)⟩
  | favors name => exact ⟨lead, _, led.favor name, quiet (by simp) (by simp)⟩
  | grants =>
      obtain ⟨later, rest, granted, outcome⟩ := led.grant
      cases outcome with
      | inl same =>
          subst same
          exact ⟨later, rest, granted, quiet (by simp) (by simp)⟩
      | inr begun =>
          obtain ⟨rfl, name, rfl⟩ := begun
          exact ⟨_, rest, granted, .begins name⟩
  | finishes =>
      obtain ⟨later, finished, leads⟩ := led.finish
      exact ⟨later, others, finished, leads⟩
  | aborts name => exact ⟨_, _, led.abort name, leads_cancelled led name⟩

/-! ## Schedules -/

variable [DecidableEq ι] {schedule : List (Turn ι)}

/-- An answer that was given stays. -/
theorem mem_turn_of_returned {turn : Turn ι} {name : ι} {performed : Bool}
    (member : ⟨name, .returned performed⟩ ∈ coordinator.callers) :
    ⟨name, .returned performed⟩ ∈ (coordinator.turn turn).callers := by
  cases turn with
  | calls other => exact List.mem_append_left _ member
  | favors other =>
      simp only [turn, favor, List.mem_append, List.mem_filter, decide_eq_true_eq]
      by_cases same : name = other
      · exact .inl ⟨member, same⟩
      · exact .inr ⟨member, same⟩
  | grants =>
      simp only [turn, grant]
      split
      · exact member
      · split
        · exact mem_promoteFirst member nofun
        · exact mem_promoteFirst member nofun
  | finishes =>
      simp only [turn, finish]
      split
      · exact List.mem_map.mpr ⟨_, member, if_neg nofun⟩
      · exact member
  | aborts other =>
      refine List.mem_map.mpr ⟨_, member, if_neg ?_⟩
      simp

/-- A turn brings no caller but the one that it is the call of. -/
theorem mem_names_of_turn {turn : Turn ι} {name : ι}
    (member : name ∈ (coordinator.turn turn).callers.map (·.name)) :
    name ∈ coordinator.callers.map (·.name) ∨ turn = .calls name := by
  cases turn with
  | calls other =>
      simp only [Coordinator.turn, call, List.map_append, List.mem_append] at member
      cases member with
      | inl old => exact .inl old
      | inr new =>
          cases List.mem_singleton.mp new
          exact .inr rfl
  | favors other =>
      obtain ⟨caller, favored, same⟩ := List.mem_map.mp member
      refine .inl (List.mem_map.mpr ⟨caller, ?_, same⟩)
      cases List.mem_append.mp favored with
      | inl first => exact (List.mem_filter.mp first).1
      | inr second => exact (List.mem_filter.mp second).1
  | grants =>
      left
      simp only [Coordinator.turn, grant] at member
      split at member
      · exact member
      · split at member
        · rwa [map_name_promoteFirst] at member
        · rwa [map_name_promoteFirst] at member
  | finishes =>
      left
      simp only [Coordinator.turn, finish] at member
      split at member
      · obtain ⟨caller, answered, same⟩ := List.mem_map.mp member
        obtain ⟨earlier, there, changed⟩ := List.mem_map.mp answered
        refine List.mem_map.mpr ⟨earlier, there, ?_⟩
        rw [← same, ← changed]
        split <;> rfl
      · exact member
  | aborts other =>
      left
      obtain ⟨caller, cancelled, same⟩ := List.mem_map.mp member
      obtain ⟨earlier, there, changed⟩ := List.mem_map.mp cancelled
      refine List.mem_map.mpr ⟨earlier, there, ?_⟩
      rw [← same, ← changed]
      split <;> rfl

theorem done_turn (turn : Turn ι) (done : coordinator.done = true) :
    (coordinator.turn turn).done = true := by
  cases turn with
  | calls | favors | aborts => exact done
  | grants =>
      simp only [Coordinator.turn, grant]
      split <;> exact done
  | finishes =>
      simp only [Coordinator.turn, finish]
      split <;> exact done

theorem run_append_singleton (schedule : List (Turn ι)) (last : Turn ι) :
    coordinator.run (schedule ++ [last]) = (coordinator.run schedule).turn last := by
  rw [run, List.foldl_append]
  rfl

/-- At some time of the schedule, the turn comes while a caller of the name runs the teardown. -/
def Meets (schedule : List (Turn ι)) (turn : Turn ι) (name : ι) : Prop :=
  ∃ past, past ++ [turn] <+: schedule ∧ ⟨name, .running⟩ ∈ (initial.run past).callers

theorem meets_append_singleton {last turn : Turn ι} {name : ι} :
    Meets (schedule ++ [last]) turn name ↔
      Meets schedule turn name ∨ turn = last ∧ ⟨name, .running⟩ ∈ (initial.run schedule).callers := by
  constructor
  · intro meets
    obtain ⟨past, earlier, running⟩ := meets
    cases List.prefix_concat_iff.mp earlier with
    | inl now =>
        obtain ⟨rfl, same⟩ := List.append_inj' now rfl
        cases same
        exact .inr ⟨rfl, running⟩
    | inr before => exact .inl ⟨past, before, running⟩
  · intro meets
    cases meets with
    | inl before =>
        obtain ⟨past, earlier, running⟩ := before
        exact ⟨past, earlier.trans (List.prefix_append _ _), running⟩
    | inr now =>
        obtain ⟨rfl, running⟩ := now
        exact ⟨schedule, List.prefix_rfl, running⟩

/-- The leader's answer tells what the schedule has made of the teardown. -/
theorem exists_led_run (schedule : List (Turn ι)) :
    ∃ lead others, (initial.run schedule).Led lead others ∧
      (∀ name, lead = some ⟨name, .returned true⟩ ↔ Meets schedule .finishes name) ∧
      ∀ name, lead = some ⟨name, .aborted⟩ ↔ Meets schedule (.aborts name) name := by
  induction schedule using List.reverseRecOn with
  | nil =>
      have unmet : ∀ turn name, ¬ Meets ([] : List (Turn ι)) turn name := by
        intro turn name meets
        obtain ⟨past, earlier, -⟩ := meets
        simp at earlier
      refine ⟨none, [], led_initial, ?_, ?_⟩
      · simp [unmet]
      · simp [unmet]
  | append_singleton schedule last ih =>
      obtain ⟨lead, others, led, ended, cut⟩ := ih
      obtain ⟨later, rest, turned, leads⟩ := led.turn last
      rw [← run_append_singleton] at turned
      refine ⟨later, rest, turned, ?_, ?_⟩
      · intro name
        rw [meets_append_singleton, ← ended, led.mem_running_iff]
        cases leads with
        | stays unended uncut =>
            rw [or_iff_left]
            intro now
            exact unended now.1.symm name now.2
        | begins leader => simp
        | ends leader => simp
        | cut leader => simp
      · intro name
        rw [meets_append_singleton, ← cut, led.mem_running_iff]
        cases leads with
        | stays unended uncut =>
            rw [or_iff_left]
            intro now
            exact uncut name now.1.symm now.2
        | begins leader => simp
        | ends leader => simp
        | cut leader => simp [eq_comm]

/-- Whatever the schedule, the teardown begins at most once, and at most one caller answers `true`:
the one that was running the teardown when it ended. Nobody answers `false` before the teardown has
ended or the caller running it has been cancelled, and if nobody has been cancelled, nobody answers
at all before the teardown has ended. -/
theorem one_teardown_per_schedule (schedule : List (Turn ι)) :
    let reached := (initial : Coordinator ι).run schedule
    reached.begun ≤ 1 ∧
    reached.callers.countP (·.status = .returned true) ≤ 1 ∧
    (∀ name, ⟨name, .returned true⟩ ∈ reached.callers ↔ Meets schedule .finishes name) ∧
    (∀ name, ⟨name, .returned false⟩ ∈ reached.callers →
      ∃ other, Meets schedule .finishes other ∨ Meets schedule (.aborts other) other) ∧
    ((∀ caller ∈ reached.callers, caller.status ≠ .aborted) →
      ∀ caller ∈ reached.callers, ∀ performed, caller.status = .returned performed →
        ∃ other, Meets schedule .finishes other) := by
  intro reached
  obtain ⟨lead, others, led, ended, cut⟩ := exists_led_run schedule
  have begun : reached.begun ≤ 1 := by
    rw [led.begun]
    exact Option.length_toList_le
  refine ⟨begun, led.countP_returned_true_le_one, ?_, ?_, ?_⟩
  · intro name
    rw [led.mem_returned_true_iff, ended]
  · intro name member
    obtain ⟨other, stopped⟩ := led.stopped_of_returned member rfl
    exact ⟨other, stopped.imp (ended other).mp (cut other).mp⟩
  · intro uncut caller member performed answered
    obtain ⟨other, stopped⟩ := led.stopped_of_returned member answered
    cases stopped with
    | inl returned => exact ⟨other, (ended other).mp returned⟩
    | inr aborted => exact absurd rfl (uncut _ (led.mem_callers.mpr (.inl aborted)))

/-- The caller that came second is favored and begins the teardown, and it is cancelled. -/
theorem one_teardown_per_schedule_cut :
    let schedule : List (Turn Nat) :=
      [.calls 0, .calls 1, .favors 1, .grants, .aborts 1, .grants, .calls 2, .grants]
    let reached := (initial : Coordinator Nat).run schedule
    reached.begun = 1 ∧ reached.ended = 0 ∧ ⟨0, .returned false⟩ ∈ reached.callers ∧
      ∃ other, Meets schedule .finishes other ∨ Meets schedule (.aborts other) other := by
  intro schedule reached
  have answered : ⟨0, .returned false⟩ ∈ reached.callers := by decide
  refine ⟨by decide, by decide, answered, ?_⟩
  exact (one_teardown_per_schedule schedule).2.2.2.1 0 answered

end Coordinator

end PeerMesh.Shutdown
