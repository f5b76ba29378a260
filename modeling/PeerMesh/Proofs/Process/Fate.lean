import PeerMesh.Proofs.Process.Events

/-!
# What becomes of a node and of a call

Nodes and calls keep their numbers for good. A node is followed through a change by the act it takes,
if it takes one. A call that waits is told what it waits for, and one that has its answer keeps it.
-/

set_option autoImplicit false

namespace PeerMesh.Mesh

open Node (Act Situation)

variable {mesh before after : Mesh} {kept starting : Nat → Prop} {number : Nat}

/-! ## Nodes -/

/-- A node of the process has stayed as it was, or has taken an act. -/
inductive Onward (starting : Nat → Prop) (before after : Mesh) (number : Nat) (entry : NodeEntry) :
    Node → Prop where
  | stayed : Onward starting before after number entry entry.node
  | acted {context : Context} {act : Act} (known : before.context? entry.context = some context)
      (steady : Steady act) (reports : Reports starting before after number entry.node act) :
      Onward starting before after number entry
        (Situation.step ⟨entry.node, context.sessions⟩ act).node

theorem Change.onward (change : Change kept starting before after) {entry : NodeEntry}
    (found : before.nodes[number]? = some entry) :
    ∃ later, after.nodes[number]? = some later ∧ later.context = entry.context ∧
      Onward starting before after number entry later.node := by
  obtain ⟨bound, -⟩ := List.getElem?_eq_some_iff.mp found
  obtain ⟨later, there⟩ : ∃ later, after.nodes[number]? = some later := by
    have remains : number < after.nodes.length := by
      cases change with
      | aside nodes => rwa [nodes]
      | acts _ _ _ _ _ _ _ _ _ nodes => rwa [nodes, List.length_set]
      | shared _ _ _ _ _ _ _ nodes => rwa [nodes]
      | launched _ _ _ _ _ nodes =>
          rw [nodes, List.length_append]
          exact Nat.lt_add_right _ bound
      | letGo _ nodes => rwa [nodes, List.length_modify]
    exact ⟨_, List.getElem?_eq_getElem remains⟩
  refine ⟨later, there, ?_⟩
  cases change.origin there with
  | stayed earlier same node context =>
      rw [found] at same
      cases same
      rw [node]
      exact ⟨context, .stayed⟩
  | acted earlier context act same known _ _ steady reports stepped =>
      rw [found] at same
      cases same
      subst stepped
      exact ⟨rfl, .acted known steady reports⟩
  | launched _ last => exact absurd bound (by omega)

/-! ## Calls -/

theorem awaitsDial_iff {call : Call} {node dial : Nat} :
    awaitsDial call node dial = true ↔
      call = .awaitDial node dial ∨ call = .connectPeer node dial := by
  rw [awaitsDial, Bool.or_eq_true, beq_iff_eq, beq_iff_eq]

theorem eq_of_awaitsDial {call : Call} {node other dial otherDial : Nat}
    (awaits : awaitsDial call node dial = true)
    (awaitsOther : awaitsDial call other otherDial = true) :
    node = other ∧ dial = otherDial := by
  rw [awaitsDial_iff] at awaits awaitsOther
  cases awaits with
  | inl same =>
      subst same
      simpa using awaitsOther
  | inr same =>
      subst same
      simpa using awaitsOther

/-- What becomes of a call in a change: it may be told how the dial has ended that it awaits. -/
inductive Fate (before after : Mesh) (number : Nat) : Task → Task → Prop where
  | told {task later : Task} (told : Told before number task later) :
      Fate before after number task later
  | ended {call : Call} {node dial : Nat} (awaits : awaitsDial call node dial = true)
      (underWay : (before.dial? node dial).isSome = true) (gone : after.dial? node dial = none)
      (outcome : Except MeshError Slot) :
      Fate before after number ⟨call, none⟩ ⟨call, some (dialAnswer call outcome)⟩

theorem getElem?_reportDial (mesh : Mesh) (node dial : Nat) (outcome : Except MeshError Slot)
    (task : Nat) :
    (mesh.reportDial node dial outcome).tasks[task]? = (mesh.tasks[task]?).map fun task =>
      if task.answer.isNone && awaitsDial task.call node dial then
        { task with answer := some (dialAnswer task.call outcome) }
      else task := by
  rw [reportDial, List.getElem?_map]

theorem fate_reportDial {task : Task} {node dial : Nat} {outcome : Except MeshError Slot}
    (found : before.tasks[number]? = some task)
    (underWay : (before.dial? node dial).isSome = true) (gone : after.dial? node dial = none)
    (tasks : after.tasks = (before.reportDial node dial outcome).tasks) :
    ∃ later, after.tasks[number]? = some later ∧ Fate before after number task later := by
  rw [tasks, getElem?_reportDial, found, Option.map_some]
  refine ⟨_, rfl, ?_⟩
  split
  · rename_i reported
    obtain ⟨call, answer⟩ := task
    rw [Bool.and_eq_true, Option.isNone_iff_eq_none] at reported
    obtain ⟨rfl, awaits⟩ := reported
    exact .ended awaits underWay gone outcome
  · exact .told (.kept task)

theorem Change.fate (change : Change kept starting before after) {task : Task}
    (found : before.tasks[number]? = some task) :
    ∃ later, after.tasks[number]? = some later ∧ Fate before after number task later := by
  have unchanged : after.tasks = before.tasks →
      ∃ later, after.tasks[number]? = some later ∧ Fate before after number task later := by
    intro same
    rw [same]
    exact ⟨task, found, .told (.kept task)⟩
  cases change with
  | aside _ _ tells =>
      obtain ⟨later, there, told⟩ := tells.told number task found
      exact ⟨later, there, .told told⟩
  | acts node entry context act there _ _ _ _ nodes _ reports =>
      have underWay : ∀ {dial : Dial}, entry.node.dial? dial.number = some dial →
          (before.dial? node dial.number).isSome = true := by
        intro dial search
        rw [dial?, node?, there, Option.map_some, Option.bind_some, search]
        rfl
      have gone : ∀ {dial : Nat}, act.ended? = some dial → after.dial? node dial = none := by
        intro dial ended
        obtain ⟨bound, -⟩ := List.getElem?_eq_some_iff.mp there
        rw [dial?, node?, nodes, List.getElem?_set_self bound, Option.map_some, Option.bind_some]
        exact Situation.dial?_of_ended ended
      cases reports with
      | silent _ tasks => exact unchanged tasks
      | failed search _ tasks => exact fate_reportDial found (underWay search) (gone rfl) tasks
      | connected search _ tasks => exact fate_reportDial found (underWay search) (gone rfl) tasks
  | shared _ _ _ _ _ _ _ _ _ tasks => exact unchanged tasks
  | launched _ _ _ _ _ _ _ tasks => exact unchanged tasks
  | letGo _ _ _ tasks => exact unchanged tasks

/-- A call that has its answer keeps it. -/
theorem Fate.answered {call : Call} {answer : Answer} {later : Task}
    (fate : Fate before after number ⟨call, some answer⟩ later) : later = ⟨call, some answer⟩ := by
  cases fate with
  | told told =>
      cases told
      rfl

/-- A call that awaits a dial is told nothing before the dial is over. -/
theorem Fate.awaiting {call : Call} {node dial : Nat} {later : Task}
    (fate : Fate before after number ⟨call, none⟩ later)
    (awaits : awaitsDial call node dial = true) :
    later = ⟨call, none⟩ ∨ after.dial? node dial = none := by
  cases fate with
  | told told =>
      rw [awaitsDial_iff] at awaits
      cases told with
      | kept => exact .inl rfl
      | refreshed | refreshEnded | noticed | answered => simp at awaits
  | ended awaitsOther _ gone =>
      obtain ⟨rfl, rfl⟩ := eq_of_awaitsDial awaits awaitsOther
      exact .inr gone

end PeerMesh.Mesh
