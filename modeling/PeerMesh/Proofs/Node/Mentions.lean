import PeerMesh.Proofs.Node.Effect
import PeerMesh.Proofs.Node.Greetings

/-!
# What acts name

A node learns names and addresses from its acts alone. An act names the identifiers that it asks for,
gives or ends the dial of, and the placeholder that it draws for a connection; it names the addresses
that are dialed, or that connections come from. A name that no act has named is found under no
connection and not marked, and an address neither.
-/

set_option autoImplicit false

namespace PeerMesh.Node

namespace Situation

/-- The names of peers and connections in an act. -/
def names (before : Situation) : Act → List String
  | .requests _ peer _ _ _ => peer.toList
  | .dialFails number => ((before.node.dial? number).bind (·.peer)).toList
  | .dialConnects number _ _ =>
    Context.placeholder (before.sessions + 1) :: ((before.node.dial? number).bind (·.peer)).toList
  | .accepts _ _ _ => [Context.placeholder (before.sessions + 1)]
  | .identifies _ _ name => [name]
  | .receives _ slot bytes _ => ((before.node.greeting? slot bytes).map (·.1)).toList
  | .drops peer => [peer]
  | _ => []

/-- The remote addresses in an act. -/
def addresses (before : Situation) : Act → List SocketAddress
  | .requests _ _ address _ _ => [address]
  | .dialFails number => ((before.node.dial? number).map (·.address)).toList
  | .dialConnects number _ _ => ((before.node.dial? number).map (·.address)).toList
  | .accepts remote _ _ => [remote]
  | _ => []

end Situation

namespace Ledger

/-- No connection is found under the name, and nobody of that name is dialed. -/
structure Strange (ledger : Ledger) (name : String) : Prop where
  unresolved : ledger.registry.slotForName? name = none
  undialed : name ∉ ledger.inFlight.dialing

/-- No connection is to the address, and none is being opened to it. -/
structure Unvisited (ledger : Ledger) (address : SocketAddress) : Prop where
  unconnected : ∀ entry ∈ ledger.registry.entries, entry.remote ≠ address
  unmarked : address ∉ ledger.inFlight.pending

variable {ledger : Ledger} {name : String} {address : SocketAddress}

/-! ## Names -/

theorem Strange.began (strange : ledger.Strange name) {dial : Dial} (other : dial.peer ≠ some name) :
    (ledger.began dial).Strange name where
  unresolved := strange.unresolved
  undialed := by
    intro marked
    rcases InFlight.mem_dialing_begin.mp marked with old | own
    · exact strange.undialed old
    · exact other own

theorem Strange.over (strange : ledger.Strange name) (dial : Dial) :
    ((ledger.ended dial.number).released dial).Strange name where
  unresolved := strange.unresolved
  undialed := fun marked => strange.undialed (InFlight.mem_dialing_release.mp marked).1

theorem Strange.admitted (strange : ledger.Strange name) {new : NewConnection}
    (other : name ≠ new.name) (moment : Nat) : (ledger.admitted new moment).Strange name where
  unresolved := by
    refine (Registry.slotForName?_insert _ _ _ _).trans ?_
    rw [strange.unresolved, if_neg other, Option.none_or]
  undialed := strange.undialed

theorem Strange.noted (strange : ledger.Strange name) (slot : Slot) (moment : Nat) :
    (ledger.noted slot moment).Strange name :=
  ⟨strange.unresolved, strange.undialed⟩

theorem Strange.finished (strange : ledger.Strange name) (peer : Option String) :
    (ledger.finished peer).Strange name where
  unresolved := strange.unresolved
  undialed := fun marked => strange.undialed (InFlight.mem_dialing_finishDialing?.mp marked).1

theorem Strange.expelled (strange : ledger.Strange name) (entry : Connection) :
    (ledger.expelled entry).Strange name where
  unresolved := by
    refine (Registry.slotForName?_without _ _ _).trans ?_
    rw [strange.unresolved, ite_self]
  undialed := strange.undialed

theorem Strange.dismissed (strange : ledger.Strange name) (entry : Connection) :
    (ledger.dismissed entry).Strange name := by
  unfold Ledger.dismissed
  split
  · exact strange.expelled entry
  · exact (strange.expelled entry).finished entry.dialedAs

theorem Strange.withName (strange : ledger.Strange name) (entry : Connection) {given : String}
    (other : name ≠ given) : (ledger.withName entry given).Strange name where
  unresolved := by
    refine (Registry.slotForName?_identifiedAs _ _ _ _).trans ?_
    rw [if_neg other, strange.unresolved, ite_self]
  undialed := fun marked => strange.undialed (mem_dialing_withName.mp marked).1

/-! ## Addresses -/

theorem Unvisited.began (unvisited : ledger.Unvisited address) {dial : Dial}
    (other : address ≠ dial.address) : (ledger.began dial).Unvisited address where
  unconnected := unvisited.unconnected
  unmarked := by
    intro marked
    rcases InFlight.mem_pending_begin.mp marked with old | own
    · exact unvisited.unmarked old
    · exact other own

theorem Unvisited.over (unvisited : ledger.Unvisited address) (dial : Dial) :
    ((ledger.ended dial.number).released dial).Unvisited address where
  unconnected := unvisited.unconnected
  unmarked := fun marked => unvisited.unmarked (InFlight.mem_pending_release.mp marked).1

theorem Unvisited.admitted (unvisited : ledger.Unvisited address) {new : NewConnection}
    (other : address ≠ new.remote) (moment : Nat) :
    (ledger.admitted new moment).Unvisited address where
  unconnected := by
    intro entry member
    rcases List.mem_append.mp member with old | fresh
    · exact unvisited.unconnected entry old
    · rw [List.mem_singleton.mp fresh]
      exact other.symm
  unmarked := fun marked => unvisited.unmarked (InFlight.mem_pending_takePending.mp marked).1

theorem Unvisited.noted (unvisited : ledger.Unvisited address) (slot : Slot) (moment : Nat) :
    (ledger.noted slot moment).Unvisited address where
  unconnected := by
    intro entry member
    obtain ⟨old, oldMember, same⟩ := Registry.mem_entries_touch member
    rw [same]
    exact unvisited.unconnected old oldMember
  unmarked := unvisited.unmarked

theorem Unvisited.finished (unvisited : ledger.Unvisited address) (peer : Option String) :
    (ledger.finished peer).Unvisited address where
  unconnected := unvisited.unconnected
  unmarked := by
    rw [Ledger.finished, InFlight.pending_finishDialing?]
    exact unvisited.unmarked

theorem Unvisited.expelled (unvisited : ledger.Unvisited address) (entry : Connection) :
    (ledger.expelled entry).Unvisited address where
  unconnected := fun other member =>
    unvisited.unconnected other (Registry.mem_entries_without.mp member).1
  unmarked := unvisited.unmarked

theorem Unvisited.dismissed (unvisited : ledger.Unvisited address) (entry : Connection) :
    (ledger.dismissed entry).Unvisited address := by
  unfold Ledger.dismissed
  split
  · exact unvisited.expelled entry
  · exact (unvisited.expelled entry).finished entry.dialedAs

theorem Unvisited.withName (unvisited : ledger.Unvisited address) (entry : Connection)
    (name : String) : (ledger.withName entry name).Unvisited address where
  unconnected := by
    intro other member
    obtain ⟨old, oldMember, rfl⟩ := Registry.mem_entries_identifiedAs.mp member
    split
    · exact unvisited.unconnected old oldMember
    · exact unvisited.unconnected old oldMember
  unmarked := by
    rw [Ledger.withName, InFlight.pending_finishDialing?, InFlight.pending_finishDialing?]
    exact unvisited.unmarked

theorem Unvisited.named {result : Ledger} (unvisited : ledger.Unvisited address)
    (naming : ledger.Naming result) : result.Unvisited address := by
  cases naming with
  | refused entry => exact (unvisited.expelled entry).finished entry.dialedAs
  | free entry name => exact unvisited.withName entry name
  | taken entry holder name => exact (unvisited.dismissed holder).withName entry name
  | lost entry => exact unvisited.dismissed entry

end Ledger

variable {node : Node} {name : String}

theorem strange_identify (sound : node.table.registry.Sound) (around : Surroundings) (slot : Slot)
    {given : String} (other : name ≠ given) (strange : node.ledger.Strange name) :
    (node.identify around slot given).1.ledger.Strange name := by
  have outcome := identify_spec sound around slot given
  generalize node.identify around slot given = result at outcome
  cases outcome with
  | unknown => exact strange
  | refused entry => exact (strange.expelled entry).finished entry.dialedAs
  | free entry => exact strange.withName entry other
  | taken entry holder =>
      rw [ledger_withName, ledger_dismissed]
      exact (strange.dismissed holder).withName entry other
  | lost entry =>
      rw [ledger_dismissed]
      exact strange.dismissed entry

theorem strange_received (sound : node.ledger.Sound) (around : Surroundings) {slot : Slot}
    {bytes : Bytes} (unnamed : ∀ initiated, node.greeting? slot bytes ≠ some (name, initiated))
    (moment : Nat) (strange : node.ledger.Strange name) :
    (node.received around slot bytes moment).ledger.Strange name := by
  have listened : (node.listened slot bytes moment).ledger.Strange name :=
    strange.noted slot moment
  refine received_induction (motive := fun later => later.ledger.Strange name) listened ?_ ?_
  · intro given initiated greeted
    have other : name ≠ given := by
      rintro rfl
      exact unnamed initiated greeted
    exact strange_identify (sound.noted slot moment).registry around slot other listened
  · intro identified initiated strangeStill
    rw [ledger_answerHello]
    exact strangeStill

/-! ## Acts -/

/-- Acts that give no name on their own: what they do to a name can be read off the books. -/
theorem Effect.strange {before : Situation} {act : Act} {result : Ledger}
    (effect : Effect before act result)
    (ungiving : ∀ around slot given, act ≠ .identifies around slot given)
    (silent : ∀ around slot bytes moment, act ≠ .receives around slot bytes moment)
    (unnamed : name ∉ before.names act) (strange : before.node.ledger.Strange name) :
    result.Strange name := by
  cases effect with
  | nothing => exact strange
  | @began around peer =>
      refine strange.began ?_
      rintro rfl
      exact unnamed List.mem_cons_self
  | failed dial => exact strange.over dial
  | connected dial =>
      have ended : (before.node.ledger.ended dial.number).Strange name :=
        ⟨strange.unresolved, strange.undialed⟩
      refine ended.admitted ?_ _
      exact List.ne_of_not_mem_cons unnamed
  | turnedAway dial => exact strange.over dial
  | accepted =>
      refine strange.admitted ?_ _
      exact List.ne_of_not_mem_cons unnamed
  | named => exact absurd rfl (ungiving _ _ _)
  | noted => exact strange.noted _ _
  | greeted => exact absurd rfl (silent _ _ _ _)
  | linkEnded entry => exact strange.dismissed entry
  | dropped entry => exact strange.expelled entry
  | emptied => exact ⟨rfl, List.not_mem_nil⟩

theorem Effect.unvisited {before : Situation} {act : Act} {result : Ledger}
    (effect : Effect before act result) (sound : before.node.ledger.Sound)
    {address : SocketAddress} (elsewhere : address ∉ before.addresses act)
    (unvisited : before.node.ledger.Unvisited address) : result.Unvisited address := by
  cases effect with
  | nothing => exact unvisited
  | began => exact unvisited.began (List.ne_of_not_mem_cons elsewhere)
  | failed dial => exact unvisited.over dial
  | connected dial member =>
      have ended : (before.node.ledger.ended dial.number).Unvisited address :=
        ⟨unvisited.unconnected, unvisited.unmarked⟩
      refine ended.admitted ?_ _
      rw [Situation.addresses, dial?_of_mem sound member] at elsewhere
      exact List.ne_of_not_mem_cons elsewhere
  | turnedAway dial => exact unvisited.over dial
  | accepted =>
      refine unvisited.admitted ?_ _
      exact List.ne_of_not_mem_cons elsewhere
  | named naming => exact unvisited.named naming
  | noted => exact unvisited.noted _ _
  | greeted naming => exact (unvisited.noted _ _).named naming
  | linkEnded entry => exact unvisited.dismissed entry
  | dropped entry => exact unvisited.expelled entry
  | emptied =>
      refine ⟨?_, List.not_mem_nil⟩
      rintro entry ⟨⟩

namespace Situation

variable {before : Situation} {act : Act}

/-- A name that an act does not name is as strange to the node after it as before. -/
theorem strange_step (sound : before.node.ledger.Sound) (unnamed : name ∉ before.names act)
    (strange : before.node.ledger.Strange name) : (before.step act).node.ledger.Strange name := by
  cases act with
  | identifies around slot given =>
      exact strange_identify sound.registry around slot (List.ne_of_not_mem_cons unnamed) strange
  | receives around slot bytes moment =>
      simp only [step]
      split
      · refine strange_received sound around ?_ moment strange
        intro initiated greeted
        refine unnamed ?_
        simp [names, greeted]
      · exact strange
  | _ => exact (step_effect sound _).strange (by simp) (by simp) unnamed strange

theorem strange_run (sound : before.node.ledger.Sound) {acts : List Act}
    (unnamed : name ∉ gathered names before acts) (strange : before.node.ledger.Strange name) :
    (before.run acts).node.ledger.Strange name := by
  induction acts generalizing before with
  | nil => exact strange
  | cons act rest ih =>
      rw [gathered, List.mem_append, not_or] at unnamed
      obtain ⟨now, later⟩ := unnamed
      exact ih (sound_step sound act) later (strange_step sound now strange)

theorem unvisited_run (sound : before.node.ledger.Sound) {acts : List Act}
    {address : SocketAddress} (elsewhere : address ∉ gathered addresses before acts)
    (unvisited : before.node.ledger.Unvisited address) :
    (before.run acts).node.ledger.Unvisited address := by
  induction acts generalizing before with
  | nil => exact unvisited
  | cons act rest ih =>
      rw [gathered, List.mem_append, not_or] at elsewhere
      obtain ⟨now, later⟩ := elsewhere
      exact ih (sound_step sound act) later ((step_effect sound act).unvisited sound now unvisited)

end Situation

end PeerMesh.Node
