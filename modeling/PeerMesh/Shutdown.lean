/-!
# One teardown for many callers

Several callers may ask for the same teardown. They take turns with one permit, first come, first
served. The caller that takes the permit first runs the teardown and answers `true` when it has
ended; each later caller waits for the permit and answers `false`. A caller may be aborted at any
time. If it was running the teardown, the permit passes on, but the teardown counts as done and
nobody resumes it.
-/

set_option autoImplicit false

namespace PeerMesh.Shutdown

/-- Where a caller stands. -/
inductive Status where
  | waiting
  /-- It holds the permit and runs the teardown. -/
  | running
  | aborted
  /-- It has answered: `true` if it performed the teardown. -/
  | returned (performed : Bool)
  deriving DecidableEq, Repr

structure Caller (ι : Type) where
  name : ι
  status : Status
  deriving DecidableEq, Repr

/-- The callers in the order of their calls, and what has become of the teardown. -/
structure Coordinator (ι : Type) where
  callers : List (Caller ι)
  done : Bool
  /-- How many times it was begun. -/
  begun : Nat
  /-- How many times it ran to its end. -/
  ended : Nat
  deriving DecidableEq, Repr

namespace Coordinator

variable {ι : Type}

def initial : Coordinator ι := ⟨[], false, 0, 0⟩

def call (coordinator : Coordinator ι) (name : ι) : Coordinator ι :=
  { coordinator with callers := coordinator.callers ++ [⟨name, .waiting⟩] }

def running? (coordinator : Coordinator ι) : Option ι :=
  (coordinator.callers.find? fun caller => caller.status = .running).map (·.name)

/-- Gives the first waiting caller a new status. -/
def promoteFirst (status : Status) : List (Caller ι) → List (Caller ι)
  | [] => []
  | caller :: rest =>
    if caller.status = .waiting then { caller with status } :: rest
    else caller :: promoteFirst status rest

def hasWaiting (coordinator : Coordinator ι) : Bool :=
  coordinator.callers.any fun caller => caller.status = .waiting

/-- The permit passes to the first waiting caller, if it is free. That caller begins the teardown,
or answers at once if it has been begun before. -/
def grant (coordinator : Coordinator ι) : Coordinator ι :=
  if coordinator.running?.isSome || !coordinator.hasWaiting then coordinator
  else if coordinator.done then
    { coordinator with callers := promoteFirst (.returned false) coordinator.callers }
  else
    { coordinator with
      callers := promoteFirst .running coordinator.callers
      done := true
      begun := coordinator.begun + 1 }

def finish (coordinator : Coordinator ι) : Coordinator ι :=
  if coordinator.running?.isSome then
    { coordinator with
      callers := coordinator.callers.map fun caller =>
        if caller.status = .running then { caller with status := .returned true } else caller
      ended := coordinator.ended + 1 }
  else coordinator

/-- Cancels the callers of the given name that have not answered. -/
def abort [DecidableEq ι] (coordinator : Coordinator ι) (name : ι) : Coordinator ι :=
  { coordinator with
    callers := coordinator.callers.map fun caller =>
      if caller.name = name ∧ (caller.status = .waiting ∨ caller.status = .running) then
        { caller with status := .aborted }
      else caller }

end Coordinator

end PeerMesh.Shutdown
