import PeerMesh.Proofs.Node.Effect

/-!
# How long the mark of a dial lasts

A dial is followed from its beginning over the connection that it opens. The mark of its identifier
should last until the dial fails, the connection is identified or gone, some connection is
identified under the identifier, or the table has been emptied. Marks name identifiers and not
dials, so this depends on what is left of earlier dials under the same identifier: one that is still
under way, and a registered connection that was dialed under it, can each take the mark away.
-/

set_option autoImplicit false

namespace PeerMesh.Node

/-- How far one dial has come. -/
inductive Pursuit where
  | underWay (number : Nat)
  /-- The dial has opened the connection under this slot. -/
  | opened (slot : Slot)
  deriving DecidableEq

namespace Pursuit

/-- How far the dial has come after an act. -/
def after (pursuit : Pursuit) (before : Situation) : Act → Pursuit
  | .dialConnects number _ _ =>
    if pursuit = .underWay number then .opened ⟨before.node.table.registry.lastSlot + 1⟩
    else pursuit
  | _ => pursuit

/-- The dial has come to its own end with an act that leaves `registry`: it has failed, or its
connection is not registered any more, or is identified. -/
def EndsWith (pursuit : Pursuit) (act : Act) (registry : Registry) : Prop :=
  match pursuit with
  | .underWay number => act = .dialFails number
  | .opened slot => ∀ entry, registry.get? slot = some entry → entry.identified = true

end Pursuit

namespace Situation

/-- Some connection is identified as `peer`. -/
def Identifies (situation : Situation) (peer : String) : Prop :=
  ∃ entry ∈ situation.node.table.registry.entries, entry.identified = true ∧ entry.name = peer

/-- Nothing that may end the mark of `peer` happens in the course of some acts, where the mark was
made by the dial that is followed. -/
def Lasts (peer : String) : Pursuit → Situation → List Act → Prop
  | _, _, [] => True
  | pursuit, before, act :: rest =>
    let result := before.step act
    let followed := pursuit.after before act
    ¬ followed.EndsWith act result.node.table.registry ∧ ¬ result.Identifies peer ∧
      result.node.table.closed = false ∧ Lasts peer followed result rest

end Situation

/-! ## Steps -/

namespace Ledger

/-- Nothing but the dial that is followed, and its connection, can take the mark of `peer` away. -/
structure Sole (ledger : Ledger) (peer : String) (pursuit : Pursuit) : Prop where
  marked : peer ∈ ledger.inFlight.dialing
  dials : ∀ dial ∈ ledger.dials, dial.peer = some peer → pursuit = .underWay dial.number
  entries : ∀ entry ∈ ledger.registry.entries, entry.dialedAs = some peer →
    pursuit = .opened entry.slot

theorem mem_entries_withName {ledger : Ledger} {entry : Connection}
    (found : ledger.registry.get? entry.slot = some entry) (name : String) :
    { entry with name, identified := true } ∈ (ledger.withName entry name).registry.entries :=
  Registry.mem_entries_identifiedAs.mpr ⟨entry, Registry.mem_of_get? found, by simp⟩

theorem exists_old_of_get?_withName {ledger : Ledger} {entry later : Connection} {name : String}
    {slot : Slot} (found : (ledger.withName entry name).registry.get? slot = some later) :
    ∃ old, ledger.registry.get? slot = some old ∧
      later = if old.slot = entry.slot then { old with name, identified := true } else old := by
  obtain ⟨old, oldFound, same⟩ := Option.map_eq_some_iff.mp
    ((Registry.get?_identifiedAs ledger.registry entry name slot).symm.trans found)
  exact ⟨old, oldFound, same.symm⟩

theorem identified_of_get?_withName {ledger : Ledger} {entry later : Connection} {name : String}
    (found : (ledger.withName entry name).registry.get? entry.slot = some later) :
    later.identified = true := by
  obtain ⟨old, oldFound, rfl⟩ := exists_old_of_get?_withName found
  rw [if_pos (Registry.slot_of_get? oldFound)]

theorem exists_old_of_mem_withName {ledger : Ledger} {entry later : Connection} {name : String}
    (member : later ∈ (ledger.withName entry name).registry.entries) :
    ∃ old ∈ ledger.registry.entries, old.slot = later.slot ∧ old.dialedAs = later.dialedAs := by
  obtain ⟨old, oldMember, rfl⟩ := Registry.mem_entries_identifiedAs.mp member
  exact ⟨old, oldMember, by split <;> rfl, by split <;> rfl⟩

/-- The books after a name: the mark of `peer` is gone only if a connection that was dialed as `peer`
is gone or identified, or a connection is identified as `peer`. -/
theorem Naming.mark {ledger result : Ledger} (naming : ledger.Naming result) {peer : String}
    (marked : peer ∈ ledger.inFlight.dialing) :
    peer ∈ result.inFlight.dialing ∨
      (∃ entry ∈ result.registry.entries, entry.identified = true ∧ entry.name = peer) ∨
      ∃ entry ∈ ledger.registry.entries, entry.dialedAs = some peer ∧
        ∀ later, result.registry.get? entry.slot = some later → later.identified = true := by
  cases naming with
  | refused entry found =>
      by_cases own : entry.dialedAs = some peer
      · refine .inr (.inr ⟨entry, Registry.mem_of_get? found, own, ?_⟩)
        intro later laterFound
        change (ledger.registry.without entry).get? entry.slot = some later at laterFound
        simp [Registry.get?_without] at laterFound
      · exact .inl (InFlight.mem_dialing_finishDialing?.mpr ⟨marked, own⟩)
  | free entry name found =>
      by_cases own : entry.dialedAs = some peer
      · exact .inr (.inr ⟨entry, Registry.mem_of_get? found, own, fun _ => identified_of_get?_withName⟩)
      · by_cases same : name = peer
        · exact .inr (.inl ⟨_, mem_entries_withName found name, rfl, same⟩)
        · exact .inl (mem_dialing_withName.mpr ⟨marked, own, same⟩)
  | taken entry holder name found holderFound held different =>
      have stillFound := get?_dismissed_of_ne found different
      by_cases own : entry.dialedAs = some peer
      · exact .inr (.inr ⟨entry, Registry.mem_of_get? found, own, fun _ => identified_of_get?_withName⟩)
      by_cases same : name = peer
      · exact .inr (.inl ⟨_, mem_entries_withName stillFound name, rfl, same⟩)
      by_cases holders : holder.identified = false ∧ holder.dialedAs = some peer
      · refine .inr (.inr ⟨holder, Registry.mem_of_get? holderFound, holders.2, ?_⟩)
        intro later laterFound
        obtain ⟨old, oldFound, -⟩ := exists_old_of_get?_withName laterFound
        rw [registry_dismissed, Registry.get?_without, if_pos rfl] at oldFound
        cases oldFound
      · refine .inl (mem_dialing_withName.mpr ⟨?_, own, same⟩)
        refine mem_dialing_dismissed.mpr ⟨marked, ?_⟩
        intro unidentified dialed
        exact holders ⟨unidentified, dialed⟩
  | lost entry found =>
      by_cases own : entry.identified = false ∧ entry.dialedAs = some peer
      · refine .inr (.inr ⟨entry, Registry.mem_of_get? found, own.2, ?_⟩)
        intro later laterFound
        rw [registry_dismissed, Registry.get?_without, if_pos rfl] at laterFound
        cases laterFound
      · refine .inl (mem_dialing_dismissed.mpr ⟨marked, ?_⟩)
        intro unidentified dialed
        exact own ⟨unidentified, dialed⟩

theorem Naming.exists_old {ledger result : Ledger} (naming : ledger.Naming result) :
    ∀ entry ∈ result.registry.entries,
      ∃ old ∈ ledger.registry.entries, old.slot = entry.slot ∧ old.dialedAs = entry.dialedAs := by
  intro later member
  cases naming with
  | refused entry => exact ⟨later, (Registry.mem_entries_without.mp member).1, rfl, rfl⟩
  | free entry name => exact exists_old_of_mem_withName member
  | taken entry holder name =>
      obtain ⟨old, oldMember, same⟩ := exists_old_of_mem_withName member
      rw [registry_dismissed] at oldMember
      exact ⟨old, (Registry.mem_entries_without.mp oldMember).1, same⟩
  | lost entry =>
      rw [registry_dismissed] at member
      exact ⟨later, (Registry.mem_entries_without.mp member).1, rfl, rfl⟩

theorem Sole.named {ledger result : Ledger} {peer : String} {pursuit : Pursuit} {act : Act}
    (sole : ledger.Sole peer pursuit) (naming : ledger.Naming result)
    (unended : ¬ pursuit.EndsWith act result.registry)
    (unidentified : ¬ ∃ entry ∈ result.registry.entries,
      entry.identified = true ∧ entry.name = peer) : result.Sole peer pursuit where
  marked := by
    rcases naming.mark sole.marked with marked | identified | ⟨entry, member, dialed, ended⟩
    · exact marked
    · exact absurd identified unidentified
    · rw [sole.entries entry member dialed] at unended
      exact absurd ended unended
  dials := by
    rw [naming.dials_eq.1]
    exact sole.dials
  entries := by
    intro entry member dialed
    obtain ⟨old, oldMember, sameSlot, sameDial⟩ := naming.exists_old entry member
    rw [← sameSlot]
    exact sole.entries old oldMember (sameDial.trans dialed)

theorem Sole.noted {ledger : Ledger} {peer : String} {pursuit : Pursuit}
    (sole : ledger.Sole peer pursuit) (slot : Slot) (moment : Nat) :
    (ledger.noted slot moment).Sole peer pursuit where
  marked := sole.marked
  dials := sole.dials
  entries := by
    intro entry member dialed
    obtain ⟨old, oldMember, same⟩ := Registry.mem_entries_touch member
    rw [same] at dialed ⊢
    exact sole.entries old oldMember dialed

theorem Sole.began {ledger : Ledger} {peer : String} {pursuit : Pursuit}
    (sole : ledger.Sole peer pursuit) {dial : Dial} (other : dial.peer ≠ some peer) :
    (ledger.began dial).Sole peer pursuit where
  marked := InFlight.mem_dialing_begin.mpr (.inl sole.marked)
  dials := by
    intro each member dialed
    rcases List.mem_append.mp member with old | fresh
    · exact sole.dials each old dialed
    · rw [List.mem_singleton.mp fresh] at dialed
      exact absurd dialed other
  entries := sole.entries

theorem Sole.failed {ledger : Ledger} {peer : String} {pursuit : Pursuit}
    (sole : ledger.Sole peer pursuit) {dial : Dial} (other : dial.peer ≠ some peer) :
    ((ledger.ended dial.number).released dial).Sole peer pursuit where
  marked := InFlight.mem_dialing_release.mpr ⟨sole.marked, other⟩
  dials := fun each member => sole.dials each (List.mem_filter.mp member).1
  entries := sole.entries

/-- A connection that is dialed under `peer` is the one that the dial which is followed opens. -/
theorem Sole.admitted {ledger : Ledger} {peer : String} {pursuit : Pursuit}
    (sole : ledger.Sole peer pursuit) {new : NewConnection}
    (own : new.dialedAs = some peer → pursuit = .opened ⟨ledger.registry.lastSlot + 1⟩)
    (moment : Nat) : (ledger.admitted new moment).Sole peer pursuit where
  marked := sole.marked
  dials := sole.dials
  entries := by
    intro entry member dialed
    rcases List.mem_append.mp member with old | fresh
    · exact sole.entries entry old dialed
    · rw [List.mem_singleton.mp fresh] at dialed ⊢
      exact own dialed

theorem Sole.ended {ledger : Ledger} {peer : String} {pursuit : Pursuit}
    (sole : ledger.Sole peer pursuit) (number : Nat) : (ledger.ended number).Sole peer pursuit where
  marked := sole.marked
  dials := fun each member => sole.dials each (List.mem_filter.mp member).1
  entries := sole.entries

theorem Sole.opened {ledger : Ledger} {peer : String} {number : Nat}
    (sole : ledger.Sole peer (.underWay number)) (slot : Slot) :
    (ledger.ended number).Sole peer (.opened slot) where
  marked := sole.marked
  dials := by
    intro each member dialed
    obtain ⟨old, different⟩ := List.mem_filter.mp member
    cases sole.dials each old dialed
    simp at different
  entries := by
    intro entry member dialed
    cases sole.entries entry member dialed

theorem Sole.dismissed {ledger : Ledger} {peer : String} {pursuit : Pursuit} {act : Act}
    (sole : ledger.Sole peer pursuit) {entry : Connection} (member : entry ∈ ledger.registry.entries)
    (unended : ¬ pursuit.EndsWith act (ledger.registry.without entry)) :
    (ledger.dismissed entry).Sole peer pursuit where
  marked := by
    refine mem_dialing_dismissed.mpr ⟨sole.marked, ?_⟩
    intro _ dialed
    rw [sole.entries entry member dialed] at unended
    refine unended ?_
    intro later laterFound
    rw [Registry.get?_without, if_pos rfl] at laterFound
    cases laterFound
  dials := by
    rw [dials_dismissed]
    exact sole.dials
  entries := by
    rw [registry_dismissed]
    intro other otherMember
    exact sole.entries other (Registry.mem_entries_without.mp otherMember).1

theorem Sole.expelled {ledger : Ledger} {peer : String} {pursuit : Pursuit}
    (sole : ledger.Sole peer pursuit) (entry : Connection) :
    (ledger.expelled entry).Sole peer pursuit where
  marked := sole.marked
  dials := sole.dials
  entries := fun other member => sole.entries other (Registry.mem_entries_without.mp member).1

end Ledger

namespace Situation

theorem sole_step {before : Situation} (sound : before.node.ledger.Sound) {peer : String}
    {pursuit : Pursuit} (sole : before.node.ledger.Sole peer pursuit) {act : Act}
    (unended : ¬ (pursuit.after before act).EndsWith act (before.step act).node.table.registry)
    (unidentified : ¬ (before.step act).Identifies peer)
    (admitting : (before.step act).node.table.closed = false) :
    (before.step act).node.ledger.Sole peer (pursuit.after before act) := by
  have effect := step_effect sound act
  change ¬ (pursuit.after before act).EndsWith act (before.step act).node.ledger.registry at unended
  change ¬ ∃ entry ∈ (before.step act).node.ledger.registry.entries,
    entry.identified = true ∧ entry.name = peer at unidentified
  change (before.step act).node.ledger.closed = false at admitting
  generalize (before.step act).node.ledger = result at effect unended unidentified admitting
  cases effect with
  | nothing =>
      cases act with
      | dialConnects number =>
          by_cases followed : pursuit = .underWay number
          · -- The dial would have opened a connection under a slot that has not been given out.
            refine absurd ?_ unended
            simp only [Pursuit.after, followed, if_true]
            intro entry found
            have unissued : before.node.ledger.registry.get?
                ⟨before.node.table.registry.lastSlot + 1⟩ = none :=
              Registry.get?_eq_none_of_lastSlot_lt sound.registry (Nat.lt_succ_self _)
            rw [unissued] at found
            cases found
          · simpa only [Pursuit.after, followed, if_false] using sole
      | _ => exact sole
  | began accepted =>
      refine sole.began ?_
      rintro rfl
      have undialed := (refusal?_eq_none_iff.mp accepted).2.2.2.2.2.2.2.1
      simp only [Option.any_some, Bool.eq_false_iff, ne_eq, InFlight.isDialing_iff] at undialed
      exact undialed sole.marked
  | failed dial member =>
      refine sole.failed ?_
      intro own
      rw [sole.dials dial member own] at unended
      exact unended rfl
  | connected dial member =>
      by_cases followed : pursuit = .underWay dial.number
      · subst followed
        simp only [Pursuit.after, if_true]
        exact (sole.opened _).admitted (fun _ => rfl) _
      · simp only [Pursuit.after, followed, if_false]
        refine (sole.ended dial.number).admitted ?_ _
        intro own
        exact absurd (sole.dials dial member own) followed
  | turnedAway dial member refusing =>
      change before.node.ledger.closed = false at admitting
      rw [refusing] at admitting
      cases admitting
  | accepted =>
      refine sole.admitted ?_ _
      intro own
      cases own
  | named naming => exact sole.named naming unended unidentified
  | noted => exact sole.noted _ _
  | greeted naming => exact (sole.noted _ _).named naming unended unidentified
  | linkEnded entry found =>
      rw [Ledger.registry_dismissed] at unended
      exact sole.dismissed (Registry.mem_of_get? found) unended
  | dropped entry => exact sole.expelled entry
  | emptied => cases admitting

theorem sole_run {before : Situation} (sound : before.node.ledger.Sound) {peer : String}
    {pursuit : Pursuit} (sole : before.node.ledger.Sole peer pursuit) {acts : List Act}
    (lasts : Lasts peer pursuit before acts) :
    peer ∈ (before.run acts).node.table.inFlight.dialing := by
  induction acts generalizing before pursuit with
  | nil => exact sole.marked
  | cons act rest ih =>
      obtain ⟨unended, unidentified, admitting, later⟩ := lasts
      exact ih (sound_step sound act) (sole_step sound sole unended unidentified admitting) later

/-! ## Requests -/

section Request

variable {before : Situation} {around : Surroundings} {peer : String} {address : SocketAddress}
  {now moment number : Nat}

/-- An accepted request finds nobody identified as its peer. -/
theorem not_identifies_of_accepted (sound : before.node.ledger.Sound)
    (accepted : before.node.refusal? around (some peer) address = none) :
    ¬ before.Identifies peer := by
  rintro ⟨entry, member, identified, rfl⟩
  have unborne := (refusal?_eq_none_iff.mp accepted).2.2.2.2.2.1
  have found : before.node.table.registry.slotForName? entry.name = some entry.slot :=
    sound.registry.identifiedFound entry member identified
  rw [Option.any_some, Registry.containsName, found] at unborne
  cases unborne

theorem sole_of_accepted
    (accepted : before.node.refusal? around (some peer) address = none)
    (undialed : ∀ dial ∈ before.node.dials, dial.peer ≠ some peer)
    (unopened : ∀ entry ∈ before.node.table.registry.entries, entry.dialedAs ≠ some peer)
    (now moment : Nat) :
    (before.step (.requests around (some peer) address now moment)).node.ledger.Sole peer
      (.underWay before.node.dialCount) := by
  simp only [step, ledger_requestPeering_of_accepted accepted]
  refine ⟨InFlight.mem_dialing_begin.mpr (.inr rfl), ?_, ?_⟩
  · intro dial member dialed
    rcases List.mem_append.mp member with old | fresh
    · exact absurd dialed (undialed dial old)
    · rw [List.mem_singleton.mp fresh]
      rfl
  · intro entry member dialed
    exact absurd dialed (unopened entry member)

theorem rejected_of_isDialing (marked : before.node.table.inFlight.isDialing peer = true) :
    ∃ reason, (before.node.requestPeering around (some peer) address now moment).2 =
      .rejected reason := by
  unfold requestPeering
  cases refusal : before.node.refusal? around (some peer) address with
  | none =>
      have unmarked := (refusal?_eq_none_iff.mp refusal).2.2.2.2.2.2.2.1
      rw [Option.any_some, marked] at unmarked
      cases unmarked
  | some reason =>
      refine ⟨reason, ?_⟩
      cases reason <;> rfl

/-- An act after an accepted request may not end the mark if it is not the failure of its dial, and
adds no connection. -/
theorem lasts_of_entries (sound : before.node.ledger.Sound)
    (accepted : before.node.refusal? around (some peer) address = none) {asked : Situation}
    {act : Act} (followed : (Pursuit.underWay number).after asked act = .underWay number)
    (unfailed : act ≠ .dialFails number)
    (entries : ∀ entry ∈ (asked.step act).node.table.registry.entries,
      entry ∈ before.node.table.registry.entries)
    (closed : (asked.step act).node.table.closed = before.node.table.closed) :
    Lasts peer (.underWay number) asked [act] := by
  refine ⟨?_, ?_, ?_, trivial⟩
  · rw [followed]
    exact unfailed
  · rintro ⟨entry, member, identified⟩
    exact not_identifies_of_accepted sound accepted ⟨entry, entries entry member, identified⟩
  · rw [closed]
    exact (refusal?_eq_none_iff.mp accepted).2.2.2.2.1

/-- An earlier dial under the same identifier takes the mark away when it fails. -/
theorem unmarked_of_stale_dial (sound : before.node.ledger.Sound)
    (accepted : before.node.refusal? around (some peer) address = none) {dial : Dial}
    (member : dial ∈ before.node.dials) (dialed : dial.peer = some peer) (now moment : Nat) :
    let asked := before.step (.requests around (some peer) address now moment)
    Lasts peer (.underWay before.node.dialCount) asked [.dialFails dial.number] ∧
      peer ∉ (asked.run [.dialFails dial.number]).node.table.inFlight.dialing := by
  intro asked
  have books : asked.node.ledger =
      before.node.ledger.began (before.node.dialOf (some peer) address now) :=
    ledger_requestPeering_of_accepted accepted now moment
  have stillMember : dial ∈ asked.node.ledger.dials := by
    rw [books]
    exact List.mem_append_left _ member
  have underWay : (asked.node.dial? dial.number).isSome = true :=
    List.find?_isSome.mpr ⟨dial, stillMember, by simp⟩
  obtain ⟨found, search⟩ := Option.isSome_iff_exists.mp underWay
  obtain ⟨foundMember, sameNumber⟩ := dial?_eq_some search
  have soundAsked := sound_step sound (.requests around (some peer) address now moment)
  obtain rfl := Ledger.eq_of_number_eq soundAsked foundMember stillMember sameNumber
  have failed : (asked.step (.dialFails found.number)).node.ledger =
      (asked.node.ledger.ended found.number).released found := by
    simp only [step, search, ledger_dialFailed]
  rw [books] at failed
  have issued : found.number < before.node.dialCount := sound.numbersIssued found member
  refine ⟨lasts_of_entries sound accepted rfl ?_ ?_ (congrArg Ledger.closed failed :), ?_⟩
  · intro same
    rw [Act.dialFails.injEq] at same
    omega
  · intro entry entryMember
    change entry ∈ (asked.step (.dialFails found.number)).node.ledger.registry.entries at entryMember
    rw [failed] at entryMember
    exact entryMember
  · change peer ∉ (asked.step (.dialFails found.number)).node.ledger.inFlight.dialing
    rw [failed]
    intro marked
    exact (InFlight.mem_dialing_release.mp marked).2 dialed

/-- A registered connection that was dialed under the same identifier takes the mark away when it is
rejected. -/
theorem unmarked_of_stale_connection (sound : before.node.ledger.Sound)
    (accepted : before.node.refusal? around (some peer) address = none) {entry : Connection}
    (member : entry ∈ before.node.table.registry.entries) (dialed : entry.dialedAs = some peer)
    {rejecting : Surroundings} {name : String} {reason : RejectReason}
    (refused : nameRefusal? rejecting name = some reason) (now moment : Nat) :
    let asked := before.step (.requests around (some peer) address now moment)
    Lasts peer (.underWay before.node.dialCount) asked [.identifies rejecting entry.slot name] ∧
      peer ∉ (asked.run [.identifies rejecting entry.slot name]).node.table.inFlight.dialing := by
  intro asked
  have books : asked.node.ledger =
      before.node.ledger.began (before.node.dialOf (some peer) address now) :=
    ledger_requestPeering_of_accepted accepted now moment
  have found : asked.node.table.registry.get? entry.slot = some entry := by
    change asked.node.ledger.registry.get? entry.slot = some entry
    rw [books]
    exact Registry.get?_of_mem sound.registry member
  have rejected : (asked.step (.identifies rejecting entry.slot name)).node.ledger =
      (asked.node.ledger.expelled entry).finished entry.dialedAs := by
    simp only [step, identify, found, refused, evict_of_get? found]
    rfl
  rw [books] at rejected
  refine ⟨lasts_of_entries sound accepted rfl ?_ ?_ (congrArg Ledger.closed rejected :), ?_⟩
  · intro same
    cases same
  · intro other otherMember
    change other ∈
      (asked.step (.identifies rejecting entry.slot name)).node.ledger.registry.entries at otherMember
    rw [rejected] at otherMember
    exact (Registry.mem_entries_without.mp otherMember).1
  · change peer ∉
      (asked.step (.identifies rejecting entry.slot name)).node.ledger.inFlight.dialing
    rw [rejected]
    intro marked
    exact (InFlight.mem_dialing_finishDialing?.mp marked).2 dialed

end Request

/-- The mark that an accepted request makes lasts until its own end, in every course of events,
exactly if no earlier dial under the identifier is still under way and no registered connection was
dialed under it. -/
theorem mark_lasts_iff {start : Situation} (initial : start.Initial) (past : List Act)
    {around : Surroundings} {peer : String} {address : SocketAddress} {now moment number : Nat}
    (accepted : ((start.run past).node.requestPeering around (some peer) address now moment).2 =
      .dialing number) :
    let before := start.run past
    let asked := before.step (.requests around (some peer) address now moment)
    (∀ later, Lasts peer (.underWay number) asked later →
      (asked.run later).node.table.inFlight.isDialing peer = true ∧
        ∀ around address now moment, ∃ reason,
          ((asked.run later).node.requestPeering around (some peer) address now moment).2 =
            .rejected reason) ↔
      (∀ dial ∈ before.node.dials, dial.peer ≠ some peer) ∧
        ∀ entry ∈ before.node.table.registry.entries, entry.dialedAs ≠ some peer := by
  intro before asked
  have sound : before.node.ledger.Sound := sound_run initial past
  obtain ⟨unrefused, rfl⟩ := accepted_of_dialing accepted
  constructor
  · intro lasting
    constructor
    · intro dial member dialed
      obtain ⟨lasts, unmarked⟩ := unmarked_of_stale_dial sound unrefused member dialed now moment
      exact unmarked (InFlight.isDialing_iff.mp (lasting _ lasts).1)
    · intro entry member dialed
      have refused : nameRefusal? ⟨.empty, [peer]⟩ peer = some .selfPeer := by
        simp [nameRefusal?, Surroundings.blocks, Surroundings.isMember, Blocklist.contains,
          Blocklist.empty, NameMap.contains, NameMap.empty]
      obtain ⟨lasts, unmarked⟩ :=
        unmarked_of_stale_connection sound unrefused member dialed refused now moment
      exact unmarked (InFlight.isDialing_iff.mp (lasting _ lasts).1)
  · rintro ⟨undialed, unopened⟩ later lasts
    have marked : (asked.run later).node.table.inFlight.isDialing peer = true := by
      refine InFlight.isDialing_iff.mpr ?_
      exact sole_run (sound_step sound _)
        (sole_of_accepted unrefused undialed unopened now moment) lasts
    exact ⟨marked, fun _ _ _ _ => rejected_of_isDialing marked⟩

/-- While a dial is under way its peer connects on its own and is dropped again. -/
def droppedDuringDial : List Act :=
  [.requests aloof (some "p") (.v4 ⟨192, 0, 2, 1⟩ 5000) 0 1,
    .accepts (.v4 ⟨192, 0, 2, 10⟩ 5000) ⟨0, .callee⟩ 2, .identifies aloof ⟨1⟩ "p", .drops "p"]

theorem mark_lost_after_droppedDuringDial :
    let before := (lone 40000).run droppedDuringDial
    let request := Act.requests aloof (some "p") (.v4 ⟨192, 0, 2, 2⟩ 5000) 0 3
    (before.node.requestPeering aloof (some "p") (.v4 ⟨192, 0, 2, 2⟩ 5000) 0 3).2 = .dialing 1 ∧
      ∃ later, Lasts "p" (.underWay 1) (before.step request) later ∧
        ¬ (((before.step request).run later).node.table.inFlight.isDialing "p" = true ∧
          ∀ around address now moment, ∃ reason, (((before.step request).run later).node.requestPeering
            around (some "p") address now moment).2 = .rejected reason) := by
  have accepted : (((lone 40000).run droppedDuringDial).node.requestPeering aloof (some "p")
      (.v4 ⟨192, 0, 2, 2⟩ 5000) 0 3).2 = .dialing 1 := by decide
  refine ⟨accepted, ?_⟩
  have lasting := mark_lasts_iff (initial_lone 40000) droppedDuringDial accepted
  by_contra never
  push Not at never
  obtain ⟨undialed, -⟩ := lasting.mp never
  let stale : Dial := ⟨0, some "p", .v4 ⟨192, 0, 2, 1⟩ 5000, 30000⟩
  exact undialed stale (by decide) rfl

end Situation

end PeerMesh.Node
