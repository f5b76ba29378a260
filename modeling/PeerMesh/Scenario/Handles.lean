import PeerMesh.Handle

/-!
# Handles under script

A script plays with the copies of one handle and with tasks that wait for it to be closed. Every
copy has a name; a waiting task has a name and a copy of its own, which it gives up when it is done.
Such a task looks at the close signal and, if that has not been given, sleeps until it is given
again or until nobody is left who could give it. The queue counts as disconnected when it is empty
and no copy is left that could send.
-/

set_option autoImplicit false

namespace PeerMesh.Scenario

/-- How far a task is that waits for the close signal. -/
inductive Waiting where
  /-- About to look at the signal. -/
  | looks
  /-- Asleep, and knows how often the signal had been given when it looked. -/
  | sleeps (seen : Nat)
  | done
  deriving DecidableEq, Repr

structure Waiter where
  name : String
  stage : Waiting
  deriving DecidableEq, Repr

/-- One handle, how often it was closed, the names of its copies, and the tasks that wait for it or
have waited, in the order in which they began. -/
structure Handles where
  handle : Handle
  closings : Nat
  copies : List String
  waiters : List Waiter
  deriving DecidableEq, Repr

/-- A step of a script. Steps that use a handle name the copy. -/
inductive HandleStep where
  | isOpen (copy : String)
  | close (copy : String)
  | send (copy : String) (bytes : Bytes)
  | copyAs (copy name : String)
  | drop (copy : String)
  | dropQueue
  | receive
  | wait (copy name : String)
  deriving DecidableEq, Repr

inductive HandleReply where
  | none
  | flag (value : Bool)
  | received (bytes : Bytes)
  | empty
  | disconnected
  deriving DecidableEq, Repr

namespace Handles

def initial (name : String) : Handles := ⟨.fresh, 0, [name], []⟩

/-- Whether a copy of the handle is left, be it that of a waiting task. -/
def isHeld (state : Handles) : Bool :=
  !state.copies.isEmpty || state.waiters.any fun waiter => waiter.stage != .done

def receiveReply (state : Handles) : HandleReply :=
  match state.handle.queue with
  | none => .none
  | some (first :: _) => .received first
  | some [] => if state.isHeld then .empty else .disconnected

/-- The state after a call on a copy of the handle that exists, with the reply. -/
def onCopy (state : Handles) (copy : String) (call : Handles × HandleReply) :
    Handles × HandleReply :=
  if copy ∈ state.copies then call else (state, .none)

/-- The effect of a step, before waiting tasks get to run. -/
def act (state : Handles) : HandleStep → Handles × HandleReply
  | .isOpen copy => state.onCopy copy (state, .flag state.handle.isOpen)
  | .close copy =>
    let (handle, first) := state.handle.close
    state.onCopy copy ({ state with handle, closings := state.closings + 1 }, .flag first)
  | .send copy bytes =>
    let (handle, taken) := state.handle.send bytes
    state.onCopy copy ({ state with handle }, .flag taken)
  | .copyAs copy name =>
    state.onCopy copy
      ({ state with copies := state.copies.filter (· != name) ++ [name] }, .none)
  | .drop copy =>
    ({ state with copies := state.copies.filter (· != copy) }, .flag (copy ∈ state.copies))
  | .dropQueue =>
    let (handle, there) := state.handle.dropQueue
    ({ state with handle }, .flag there)
  | .receive => ({ state with handle := state.handle.receive.1 }, state.receiveReply)
  | .wait copy name =>
    state.onCopy copy ({ state with waiters := state.waiters ++ [⟨name, .looks⟩] }, .none)

/-- Where a waiting task is after its next step. One that sleeps goes on when the signal has been
given since it looked, or when no copy of the handle is left. -/
def proceed (state : Handles) : Waiting → Waiting
  | .looks => if state.handle.closed then .done else .sleeps state.closings
  | .sleeps seen =>
    if seen ≠ state.closings then .looks else if state.isHeld then .sleeps seen else .done
  | .done => .done

/-- Lets the waiting task with a number take its next step. -/
def resume (state : Handles) (number : Nat) : Handles :=
  { state with
    waiters := state.waiters.modify number fun waiter =>
      { waiter with stage := state.proceed waiter.stage } }

/-- Lets the waiting tasks run, one after the other, until each sleeps or is done. That takes at most
two steps: one to wake up, and one to look. -/
def settle (state : Handles) : Handles :=
  (List.range state.waiters.length).foldl
    (fun state number => (state.resume number).resume number) state

/-- The names of the tasks that are done in a later state and were not before. -/
def finishedSince (before after : Handles) : List String :=
  (before.waiters.zip after.waiters).filterMap fun (earlier, later) =>
    if earlier.stage != .done && later.stage == .done then some later.name else none

/-- The effect of a step, with the reply and the names of the tasks that finish. -/
def step (state : Handles) (next : HandleStep) : Handles × HandleReply × List String :=
  let (acted, reply) := state.act next
  let settled := acted.settle
  (settled, reply, acted.finishedSince settled)

end Handles

end PeerMesh.Scenario
