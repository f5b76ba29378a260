import PeerMesh.Proofs.Node.Names

/-!
# What the marks of identifiers stand for

The mark of an identifier stands for a dial under way, or for a connection that was dialed under the
identifier and is not identified yet. Every act that ends the last of these takes the mark along,
with one exception: to drop an unidentified connection by its placeholder removes the entry and
leaves the mark. Such a mark is accounted for by nothing, and nothing that happens to the connection
afterwards takes it away.
-/

set_option autoImplicit false

namespace PeerMesh.Node

namespace Ledger

/-- A dial under way, or an unidentified connection that was dialed as `name`, accounts for the mark
of `name`. -/
def Accounts (ledger : Ledger) (name : String) : Prop :=
  (∃ dial ∈ ledger.dials, dial.peer = some name) ∨
    ∃ entry ∈ ledger.registry.entries, entry.identified = false ∧ entry.dialedAs = some name

/-- Every mark of an identifier is accounted for. -/
def Accounted (ledger : Ledger) : Prop :=
  ∀ name ∈ ledger.inFlight.dialing, ledger.Accounts name

theorem Accounted.began {ledger : Ledger} (accounted : ledger.Accounted) (dial : Dial) :
    (ledger.began dial).Accounted := by
  intro name marked
  rcases InFlight.mem_dialing_begin.mp marked with old | fresh
  · rcases accounted name old with ⟨other, member, dialed⟩ | connected
    · exact .inl ⟨other, List.mem_append_left _ member, dialed⟩
    · exact .inr connected
  · exact .inl ⟨dial, List.mem_append_right _ List.mem_cons_self, fresh⟩

/-- A dial that ends takes its mark along, and every other mark keeps what accounts for it. -/
theorem Accounted.failed {ledger : Ledger} (accounted : ledger.Accounted) (sound : ledger.Sound)
    {dial : Dial} (member : dial ∈ ledger.dials) :
    ((ledger.ended dial.number).released dial).Accounted := by
  intro name marked
  obtain ⟨old, different⟩ := InFlight.mem_dialing_release.mp marked
  rcases accounted name old with ⟨other, otherMember, dialed⟩ | connected
  · refine .inl ⟨other, List.mem_filter.mpr ⟨otherMember, ?_⟩, dialed⟩
    simp only [bne_iff_ne, ne_eq]
    intro sameNumber
    rw [eq_of_number_eq sound otherMember member sameNumber] at dialed
    exact different dialed
  · exact .inr connected

/-- The connection that a dial opens accounts for the mark from then on. -/
theorem Accounted.connected {ledger : Ledger} (accounted : ledger.Accounted) (sound : ledger.Sound)
    {dial : Dial} (member : dial ∈ ledger.dials) {new : NewConnection}
    (dialedAs : new.dialedAs = dial.peer) (moment : Nat) :
    ((ledger.ended dial.number).admitted new moment).Accounted := by
  intro name marked
  rcases accounted name marked with ⟨other, otherMember, dialed⟩ | ⟨entry, entryMember, entryDialed⟩
  · by_cases sameNumber : other.number = dial.number
    · obtain rfl := eq_of_number_eq sound otherMember member sameNumber
      refine .inr ⟨ledger.registry.admitted new moment, ?_, rfl, dialedAs.trans dialed⟩
      exact List.mem_append_right _ List.mem_cons_self
    · refine .inl ⟨other, List.mem_filter.mpr ⟨otherMember, ?_⟩, dialed⟩
      simpa using sameNumber
  · exact .inr ⟨entry, List.mem_append_left _ entryMember, entryDialed⟩

theorem Accounted.accepted {ledger : Ledger} (accounted : ledger.Accounted) (new : NewConnection)
    (moment : Nat) : (ledger.admitted new moment).Accounted := by
  intro name marked
  rcases accounted name marked with dialing | ⟨entry, member, dialed⟩
  · exact .inl dialing
  · exact .inr ⟨entry, List.mem_append_left _ member, dialed⟩

theorem Accounted.noted {ledger : Ledger} (accounted : ledger.Accounted) (slot : Slot)
    (moment : Nat) : (ledger.noted slot moment).Accounted := by
  intro name marked
  rcases accounted name marked with dialing | ⟨entry, member, unidentified, dialed⟩
  · exact .inl dialing
  · obtain ⟨touched, touchedMember, same⟩ := Registry.exists_mem_touch slot moment member
    rw [same] at unidentified dialed
    exact .inr ⟨touched, touchedMember, unidentified, dialed⟩

/-- Where an entry goes and its mark with it, every other mark keeps what accounts for it. -/
theorem Accounted.refused {ledger : Ledger} (accounted : ledger.Accounted) (sound : ledger.Sound)
    {entry : Connection} (found : ledger.registry.get? entry.slot = some entry) :
    ((ledger.expelled entry).finished entry.dialedAs).Accounted := by
  intro name marked
  obtain ⟨old, different⟩ := InFlight.mem_dialing_finishDialing?.mp marked
  rcases accounted name old with dialing | ⟨other, member, unidentified, dialed⟩
  · exact .inl dialing
  · refine .inr ⟨other, Registry.mem_entries_without.mpr ⟨member, ?_⟩, unidentified, dialed⟩
    intro sameSlot
    rw [Registry.eq_of_get? sound.registry found member sameSlot] at dialed
    exact different dialed

theorem Accounted.dismissed {ledger : Ledger} (accounted : ledger.Accounted) (sound : ledger.Sound)
    {entry : Connection} (found : ledger.registry.get? entry.slot = some entry) :
    (ledger.dismissed entry).Accounted := by
  intro name marked
  obtain ⟨old, different⟩ := mem_dialing_dismissed.mp marked
  rcases accounted name old with dialing | ⟨other, member, unidentified, dialed⟩
  · left
    rwa [dials_dismissed]
  · right
    refine ⟨other, ?_, unidentified, dialed⟩
    rw [registry_dismissed]
    refine Registry.mem_entries_without.mpr ⟨member, ?_⟩
    intro sameSlot
    rw [Registry.eq_of_get? sound.registry found member sameSlot] at unidentified dialed
    exact different unidentified dialed

theorem Accounted.withName {ledger : Ledger} (accounted : ledger.Accounted) (sound : ledger.Sound)
    {entry : Connection} (found : ledger.registry.get? entry.slot = some entry) (name : String) :
    (ledger.withName entry name).Accounted := by
  intro other marked
  obtain ⟨old, different, -⟩ := mem_dialing_withName.mp marked
  rcases accounted other old with dialing | ⟨holder, member, unidentified, dialed⟩
  · exact .inl dialing
  · refine .inr ⟨holder, ?_, unidentified, dialed⟩
    refine Registry.mem_entries_identifiedAs.mpr ⟨holder, member, ?_⟩
    rw [if_neg]
    intro sameSlot
    rw [Registry.eq_of_get? sound.registry found member sameSlot] at dialed
    exact different dialed

theorem Naming.accounted {ledger result : Ledger} (naming : ledger.Naming result)
    (sound : ledger.Sound) (accounted : ledger.Accounted) : result.Accounted := by
  cases naming with
  | refused entry found => exact accounted.refused sound found
  | free entry name found => exact accounted.withName sound found name
  | taken entry holder name found holderFound held different =>
      refine (accounted.dismissed sound holderFound).withName ?_ ?_ name
      · exact sound.dismissed (Registry.mem_of_get? holderFound)
      · rw [registry_dismissed, Registry.get?_without, if_neg different.symm, found]
  | lost entry found => exact accounted.dismissed sound found

end Ledger

namespace Situation

/-- Every mark of an identifier stands for a dial under way, or for an unidentified connection that
was dialed under the identifier. -/
def Accounted (situation : Situation) : Prop :=
  ∀ name ∈ situation.node.table.inFlight.dialing,
    (∃ dial ∈ situation.node.dials, dial.peer = some name) ∨
      ∃ entry ∈ situation.node.table.registry.entries,
        entry.identified = false ∧ entry.dialedAs = some name

/-- The act drops an open connection that is not identified yet and that alone accounts for the mark
of the identifier it was dialed under. -/
structure Strands (before : Situation) (act : Act) (entry : Connection) (name : String) : Prop where
  dropped : act = .drops entry.name
  resolved : before.node.table.registry.slotForName? entry.name = some entry.slot
  found : before.node.table.registry.get? entry.slot = some entry
  isOpen : before.node.isOpen entry.slot = true
  unidentified : entry.identified = false
  dialed : entry.dialedAs = some name
  marked : name ∈ before.node.table.inFlight.dialing
  undialed : ∀ dial ∈ before.node.dials, dial.peer ≠ some name
  alone : ∀ other ∈ before.node.table.registry.entries, other.identified = false →
    other.dialedAs = some name → other.slot = entry.slot

theorem accounted_step {before : Situation} (sound : before.node.ledger.Sound)
    (accounted : before.Accounted) {act : Act}
    (unstranded : ∀ entry name, ¬ before.Strands act entry name) :
    (before.step act).Accounted := by
  have effect := step_effect sound act
  change (before.step act).node.ledger.Accounted
  have books : before.node.ledger.Accounted := accounted
  generalize (before.step act).node.ledger = result at effect
  cases effect with
  | nothing => exact books
  | began => exact books.began _
  | failed dial member => exact books.failed sound member
  | connected dial member => exact books.connected sound member rfl _
  | turnedAway dial member => exact books.failed sound member
  | accepted => exact books.accepted _ _
  | named naming => exact naming.accounted sound books
  | noted => exact books.noted _ _
  | greeted naming => exact naming.accounted (sound.noted _ _) (books.noted _ _)
  | linkEnded entry found => exact books.dismissed sound found
  | @dropped peer entry resolved found isOpen =>
      intro name marked
      rcases books name marked with dialing | ⟨other, member, unidentified, dialed⟩
      · exact .inl dialing
      by_cases kept : other.slot = entry.slot
      · -- The dropped entry accounted for the mark; if nothing else did, the act strands it.
        obtain rfl := Registry.eq_of_get? sound.registry found member kept
        by_contra lost
        obtain rfl := Registry.name_of_slotForName? sound.registry found resolved
        refine unstranded other name
          ⟨rfl, resolved, found, isOpen, unidentified, dialed, marked, ?_, ?_⟩
        · intro dial dialMember dialedToo
          exact lost (.inl ⟨dial, dialMember, dialedToo⟩)
        · intro third thirdMember thirdUnidentified thirdDialed
          by_contra different
          exact lost (.inr ⟨third, Registry.mem_entries_without.mpr ⟨thirdMember, different⟩,
            thirdUnidentified, thirdDialed⟩)
      · exact .inr ⟨other, Registry.mem_entries_without.mpr ⟨member, kept⟩, unidentified, dialed⟩
  | emptied =>
      intro name marked
      cases marked

theorem not_accounted_step {before : Situation} {act : Act} {entry : Connection} {name : String}
    (strands : before.Strands act entry name) : ¬ (before.step act).Accounted := by
  intro accounted
  have dropped : before.step act = { before with node := before.node.expelled entry } := by
    rw [strands.dropped]
    simp only [step, dropPeer, Registry.removeOpenNamed, strands.resolved, strands.found,
      strands.isOpen, Option.isSome_some, Bool.and_self, if_true,
      Registry.remove_of_get? strands.found]
    rfl
  rw [dropped] at accounted
  rcases accounted name strands.marked with ⟨dial, member, dialed⟩ |
    ⟨other, member, unidentified, dialed⟩
  · exact strands.undialed dial member dialed
  · obtain ⟨otherMember, different⟩ := Registry.mem_entries_without.mp member
    exact different (strands.alone other otherMember unidentified dialed)

theorem accounted_run {start : Situation} (initial : start.Initial) {acts : List Act}
    (unstranded : ∀ past act, past ++ [act] <+: acts →
      ∀ entry name, ¬ (start.run past).Strands act entry name) : (start.run acts).Accounted := by
  induction acts using List.reverseRecOn with
  | nil =>
      obtain ⟨profile, request, moment, fresh⟩ := initial
      intro name marked
      rw [run_nil, fresh] at marked
      cases marked
  | append_singleton past act ih =>
      rw [run_append]
      refine accounted_step (sound_run initial past) (ih ?_) (unstranded past act List.prefix_rfl)
      intro earlier next within
      exact unstranded earlier next (within.trans (List.prefix_append past [act]))

/-- Every mark stays accounted for in the course of a run exactly as long as no act strands one. An
act that does drops a connection by a placeholder, and from then on the mark stands for nothing. -/
theorem accounted_iff_unstranded {start : Situation} (initial : start.Initial) (acts : List Act) :
    ((∀ past, past <+: acts → (start.run past).Accounted) ↔
      ∀ past act, past ++ [act] <+: acts →
        ∀ entry name, ¬ (start.run past).Strands act entry name) ∧
    ∀ past act entry name, past ++ [act] <+: acts → (start.run past).Strands act entry name →
      (∃ session ≤ (start.run past).sessions,
        act = .drops (Context.placeholder session)) ∧
      ¬ (start.run (past ++ [act])).Accounted := by
  refine ⟨⟨?_, ?_⟩, ?_⟩
  · intro accounted past act within entry name strands
    refine not_accounted_step strands ?_
    have after := accounted (past ++ [act]) within
    rwa [run_append] at after
  · intro unstranded past within
    refine accounted_run initial ?_
    intro earlier next inside
    exact unstranded earlier next (inside.trans within)
  · intro past act entry name _ strands
    constructor
    · obtain ⟨session, bound, placeholder⟩ := (named_run initial past).placed.drawn entry
        (Registry.mem_of_get? strands.found) strands.unidentified
      refine ⟨session, bound, ?_⟩
      rw [strands.dropped, placeholder]
    · rw [run_append]
      exact not_accounted_step strands

/-- A dial connects, and its connection is dropped before its peer has said who it is. -/
def droppedUnnamed : List Act :=
  [.requests aloof (some "p") (.v4 ⟨192, 0, 2, 1⟩ 5000) 0 1, .dialConnects 0 ⟨0, .caller⟩ 2,
    .drops "temp-uuid-1"]

theorem not_accounted_droppedUnnamed :
    (lone 40000).Initial ∧ ¬ ((lone 40000).run droppedUnnamed).Accounted := by
  refine ⟨initial_lone 40000, ?_⟩
  let dialed : Connection :=
    ⟨⟨1⟩, "temp-uuid-1", false, .v4 ⟨192, 0, 2, 1⟩ 5000, .outbound, some "p", 2⟩
  have strands : ((lone 40000).run (droppedUnnamed.take 2)).Strands (.drops "temp-uuid-1") dialed
      "p" :=
    { dropped := rfl
      resolved := by decide
      found := by decide
      isOpen := by decide
      unidentified := rfl
      dialed := rfl
      marked := by decide
      undialed := by decide
      alone := by decide }
  exact ((accounted_iff_unstranded (initial_lone 40000) droppedUnnamed).2 (droppedUnnamed.take 2)
    (.drops "temp-uuid-1") dialed "p" List.prefix_rfl strands).2

end Situation

end PeerMesh.Node
