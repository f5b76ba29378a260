import PeerMesh.Mesh.Start
import PeerMesh.Node.Teardown

/-!
# The course of a node

All that can happen to one node, as acts that come in any order: requests and the ends of dials,
accepted sockets, names, bytes, closes, drops and the teardown. What the node sees of its context
and its group may be different at every act. The placeholders of a context are numbered through, and
other nodes of the context draw some of them.
-/

set_option autoImplicit false

namespace PeerMesh.Node

/-- A node, with the number of placeholders that its context has given out. -/
structure Situation where
  node : Node
  sessions : Nat

/-- One thing that happens to a node. Dials are given by number. -/
inductive Act where
  | requests (around : Surroundings) (peer : Option String) (address : SocketAddress)
      (now moment : Nat)
  | dialFails (number : Nat)
  | dialConnects (number : Nat) (socket : Endpoint) (moment : Nat)
  | accepts (remote : SocketAddress) (socket : Endpoint) (moment : Nat)
  | identifies (around : Surroundings) (slot : Slot) (name : String)
  /-- Bytes come in on a connection that is still pumped. -/
  | receives (around : Surroundings) (slot : Slot) (bytes : Bytes) (moment : Nat)
  | sends (slot : Slot) (bytes : Bytes)
  /-- The task that pumps a connection takes out what was queued first. -/
  | writes (slot : Slot)
  /-- The close signal is given, and nothing else happens yet. -/
  | closesHandle (slot : Slot)
  | linkEnds (slot : Slot)
  | drops (peer : String)
  | asksClose (closer : Closer)
  | grantsPermit
  | finishesTeardown
  /-- The signal to exit comes. -/
  | firesExit
  | storesHook (hook : ExitHook)
  | changesListener (position : Nat) (change : Listener → Listener)
  /-- Another node of the context draws a placeholder. -/
  | drawsElsewhere

namespace Situation

/-- Registers a connected socket under the next placeholder. -/
def register (situation : Situation) (node : Node) (remote : SocketAddress)
    (direction : Direction) (dialedAs : Option String) (socket : Endpoint) (moment : Nat) :
    Situation :=
  { node := (node.connected
      ⟨Context.placeholder (situation.sessions + 1), remote, direction, dialedAs, socket⟩ moment).1
    sessions := situation.sessions + 1 }

/-- The situation after an act. An act that cannot happen leaves the situation as it is. -/
def step (situation : Situation) : Act → Situation
  | .requests around peer address now moment =>
    { situation with node := (situation.node.requestPeering around peer address now moment).1 }
  | .dialFails number =>
    match situation.node.dial? number with
    | none => situation
    | some dial => { situation with node := situation.node.dialFailed dial }
  | .dialConnects number socket moment =>
    match situation.node.dial? number with
    | none => situation
    | some dial =>
      situation.register (situation.node.withoutDial number) dial.address .outbound dial.peer socket
        moment
  | .accepts remote socket moment =>
    situation.register situation.node remote .inbound none socket moment
  | .identifies around slot name =>
    { situation with node := (situation.node.identify around slot name).1 }
  | .receives around slot bytes moment =>
    if (situation.node.link? slot).isSome then
      { situation with node := situation.node.received around slot bytes moment }
    else situation
  | .sends slot bytes => { situation with node := (situation.node.send slot bytes).1 }
  | .writes slot =>
    { situation with node := situation.node.updateHandle slot fun handle => handle.receive.1 }
  | .closesHandle slot => { situation with node := situation.node.closeHandle slot }
  | .linkEnds slot =>
    if (situation.node.link? slot).isSome then
      { situation with node := situation.node.linkEnded slot }
    else situation
  | .drops peer => { situation with node := (situation.node.dropPeer peer).1 }
  | .asksClose closer => { situation with node := situation.node.askClose closer }
  | .grantsPermit => { situation with node := situation.node.grantPermit }
  | .finishesTeardown =>
    if situation.node.canFinishTeardown then
      { situation with node := situation.node.finishTeardown }
    else situation
  | .firesExit => { situation with node := situation.node.hearExit }
  | .storesHook hook => { situation with node := situation.node.storeHook hook }
  | .changesListener position change =>
    { situation with node := situation.node.updateListener position change }
  | .drawsElsewhere => { situation with sessions := situation.sessions + 1 }

def run (situation : Situation) (acts : List Act) : Situation :=
  acts.foldl step situation

/-- A node that has just been started, on a context that may have given out placeholders before. -/
def Initial (situation : Situation) : Prop :=
  ∃ profile request moment, situation.node = Mesh.freshNode profile request moment

/-- A node without the hello exchange that listens on `port`, on a new context. -/
def lone (port : UInt16) : Situation where
  node := Mesh.freshNode
    ⟨"m-40000", port, none, [.v4 .wildcard port], none, "mesh", true, 30000, .empty⟩
    ⟨.withPort port, 0, none, false, false⟩ 0
  sessions := 0

theorem initial_lone (port : UInt16) : (lone port).Initial :=
  ⟨_, _, _, rfl⟩

/-- What a node sees of a context that blocks nobody, alone in its group. -/
def aloof : Surroundings := ⟨.empty, ["m-40000"]⟩

@[simp] theorem run_nil (situation : Situation) : situation.run [] = situation := rfl

@[simp] theorem run_cons (situation : Situation) (act : Act) (acts : List Act) :
    situation.run (act :: acts) = (situation.step act).run acts := rfl

theorem run_append (situation : Situation) (first second : List Act) :
    situation.run (first ++ second) = (situation.run first).run second :=
  List.foldl_append

theorem run_induction (holds : Situation → Prop)
    (preserved : ∀ situation act, holds situation → holds (situation.step act))
    {situation : Situation} (start : holds situation) (acts : List Act) :
    holds (situation.run acts) := by
  induction acts generalizing situation with
  | nil => exact start
  | cons act rest ih => exact ih (preserved situation act start)

/-- What acts yield one after the other, each in the situation that it finds. -/
def gathered {α : Type} (yields : Situation → Act → List α) (before : Situation) :
    List Act → List α
  | [] => []
  | act :: rest => yields before act ++ gathered yields (before.step act) rest

theorem gathered_concat {α : Type} (yields : Situation → Act → List α) (before : Situation)
    (past : List Act) (act : Act) :
    gathered yields before (past ++ [act]) =
      gathered yields before past ++ yields (before.run past) act := by
  induction past generalizing before with
  | nil => simp [gathered]
  | cons first rest ih => rw [List.cons_append, gathered, ih, gathered, run_cons, List.append_assoc]

end Situation

end PeerMesh.Node
