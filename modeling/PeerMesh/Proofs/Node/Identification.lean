import PeerMesh.Node.Connection
import PeerMesh.Proofs.Registry

/-!
# What becomes of a connection that gets a name

There are five outcomes, and with a sound registry no sixth: the slot is unknown, the name is
refused, the name is free, the connection takes it from its holder, or it loses against the holder.
In particular a name that its holder has given up is free.
-/

set_option autoImplicit false

namespace PeerMesh.Node

/-- The node after it has removed and closed a connection. -/
def expelled (node : Node) (entry : Connection) : Node :=
  (node.withRegistry (node.table.registry.without entry)).closeHandle entry.slot

/-- The node after it has removed and closed a connection; one that was not identified takes its
mark along. -/
def dismissed (node : Node) (entry : Connection) : Node :=
  if entry.identified then node.expelled entry
  else (node.expelled entry).finishDialing? entry.dialedAs

/-- The node after a connection has got a name, with neither that name nor the one the connection
was dialed under being dialed any more. -/
def withName (node : Node) (entry : Connection) (name : String) : Node :=
  ((node.withRegistry (node.table.registry.identifiedAs entry name)).finishDialing?
    entry.dialedAs).finishDialing? (some name)

@[simp] theorem registry_expelled (node : Node) (entry : Connection) :
    (node.expelled entry).table.registry = node.table.registry.without entry := rfl

@[simp] theorem registry_dismissed (node : Node) (entry : Connection) :
    (node.dismissed entry).table.registry = node.table.registry.without entry := by
  unfold dismissed
  split <;> rfl

theorem evict_of_get? {node : Node} {slot : Slot} {entry : Connection}
    (found : node.table.registry.get? slot = some entry) :
    node.evict slot = (node.expelled entry, some entry) := by
  obtain rfl := Registry.slot_of_get? found
  simp only [evict, Registry.remove_of_get? found]
  rfl

theorem discard_of_get? {node : Node} {slot : Slot} {entry : Connection}
    (found : node.table.registry.get? slot = some entry) :
    node.discard slot = node.dismissed entry := by
  simp only [discard, evict_of_get? found, dismissed]

theorem concludeIdentification_identifiedAs {node : Node} {slot : Slot} {entry : Connection}
    (found : node.table.registry.get? slot = some entry) (name : String) :
    (node.withRegistry (node.table.registry.identifiedAs entry name)).concludeIdentification slot
      name = node.withName entry name := by
  have dialedAs : ((node.table.registry.identifiedAs entry name).get? slot).bind (·.dialedAs) =
      entry.dialedAs := by
    rw [Registry.get?_identifiedAs, found]
    simp
  unfold concludeIdentification withName
  rw [← dialedAs]
  rfl

/-- The outcomes of giving the connection under `slot` the name `name`. -/
inductive Identification (node : Node) (around : Surroundings) (slot : Slot) (name : String) :
    Node × Except MeshError Unit → Prop
  /-- Nothing is registered under the slot. -/
  | unknown (absent : node.table.registry.get? slot = none) :
      Identification node around slot name (node, .error (.unknownConnection slot))
  /-- The name is blocked or belongs to the group, and the connection goes with its mark. -/
  | refused (entry : Connection) (reason : RejectReason)
      (found : node.table.registry.get? slot = some entry)
      (refusal : nameRefusal? around name = some reason) :
      Identification node around slot name
        ((node.expelled entry).finishDialing? entry.dialedAs, .error (.nameRejected name reason))
  /-- No other connection holds the name. -/
  | free (entry : Connection) (found : node.table.registry.get? slot = some entry)
      (accepted : nameRefusal? around name = none)
      (unheld : ∀ holder, node.table.registry.slotForName? name = some holder → holder = slot) :
      Identification node around slot name (node.withName entry name, .ok ())
  /-- The holder goes, and the connection gets the name. -/
  | taken (entry holder : Connection) (found : node.table.registry.get? slot = some entry)
      (accepted : nameRefusal? around name = none)
      (holderFound : node.table.registry.get? holder.slot = some holder)
      (held : node.table.registry.slotForName? name = some holder.slot)
      (different : holder.slot ≠ slot) (opposite : holder.direction ≠ entry.direction)
      (preferred : entry.direction = node.preferredDirection name) :
      Identification node around slot name ((node.dismissed holder).withName entry name, .ok ())
  /-- The holder stays, and the connection goes. -/
  | lost (entry holder : Connection) (found : node.table.registry.get? slot = some entry)
      (accepted : nameRefusal? around name = none)
      (holderFound : node.table.registry.get? holder.slot = some holder)
      (held : node.table.registry.slotForName? name = some holder.slot)
      (different : holder.slot ≠ slot)
      (outranked : holder.direction ≠ entry.direction →
        entry.direction ≠ node.preferredDirection name) :
      Identification node around slot name
        (node.dismissed entry, .error (.nameCollision name))

/-- A name is free once its holder has been removed. -/
theorem slotForName?_without_holder {registry : Registry} (sound : registry.Sound) {name : String}
    {holder : Connection} (found : registry.get? holder.slot = some holder)
    (held : registry.slotForName? name = some holder.slot) :
    (registry.without holder).slotForName? name = none := by
  rw [Registry.slotForName?_without, Registry.name_of_slotForName? sound found held,
    if_pos ⟨rfl, held⟩]

theorem takesName_iff {node : Node} {holder : Connection} {direction : Direction} {name : String}
    (found : node.table.registry.get? holder.slot = some holder) :
    node.takesName holder.slot direction name = true ↔
      holder.direction ≠ direction ∧ direction = node.preferredDirection name := by
  simp [takesName, found]

theorem identify_spec {node : Node} (sound : node.table.registry.Sound) (around : Surroundings)
    (slot : Slot) (name : String) :
    Identification node around slot name (node.identify around slot name) := by
  cases found : node.table.registry.get? slot with
  | none =>
      simp only [identify, found]
      exact .unknown found
  | some entry =>
      cases refusal : nameRefusal? around name with
      | some reason =>
          simp only [identify, found, refusal, evict_of_get? found]
          exact .refused entry reason found refusal
      | none =>
          cases renamed : node.table.registry.rename slot name with
          | ok registry =>
              have unheld : ∀ holder, node.table.registry.slotForName? name = some holder →
                  holder = slot := by
                intro holder held
                by_contra different
                rw [Registry.rename_eq_error_iff.mpr ⟨held, different⟩] at renamed
                cases renamed
              rw [Registry.rename_of_free found unheld] at renamed
              cases renamed
              simp only [identify, found, refusal, Registry.rename_of_free found unheld,
                concludeIdentification_identifiedAs found]
              exact .free entry found refusal unheld
          | error holderSlot =>
              obtain ⟨held, different⟩ := Registry.rename_eq_error_iff.mp renamed
              obtain ⟨holder, holderFound, -⟩ := sound.nameBorne name holderSlot held
              obtain rfl := Registry.slot_of_get? holderFound
              by_cases takes : node.takesName holder.slot entry.direction name = true
              · obtain ⟨opposite, preferred⟩ := (takesName_iff holderFound).mp takes
                have stillFound : (node.dismissed holder).table.registry.get? slot = some entry := by
                  rw [registry_dismissed, Registry.get?_without, if_neg different.symm, found]
                have unheld : ∀ other,
                    (node.dismissed holder).table.registry.slotForName? name = some other →
                      other = slot := by
                  intro other heldNow
                  rw [registry_dismissed, slotForName?_without_holder sound holderFound held]
                    at heldNow
                  cases heldNow
                simp only [identify, found, refusal, renamed, takes, if_true,
                  discard_of_get? holderFound, Registry.rename_of_free stillFound unheld,
                  concludeIdentification_identifiedAs stillFound]
                exact .taken entry holder found refusal holderFound held different opposite preferred
              · simp only [identify, found, refusal, renamed, takes, Bool.false_eq_true, if_false,
                  discard_of_get? found]
                rw [takesName_iff holderFound] at takes
                exact .lost entry holder found refusal holderFound held different
                  fun opposite preferred => takes ⟨opposite, preferred⟩

end PeerMesh.Node
