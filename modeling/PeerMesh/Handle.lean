import PeerMesh.Text.Utf8

/-!
# Connection handles

A handle stands for one connection: a signal that closes it, and the queue of byte strings that
wait to be written. The signal is given once and for all. A closed handle takes no more byte
strings; those queued before stay in the queue, in the order in which they were sent, as long as
the queue lives.
-/

set_option autoImplicit false

namespace PeerMesh

/-- The state that all copies of one handle share. -/
structure Handle where
  closed : Bool
  /-- The byte strings sent and not yet taken out; none once the reading end is gone. -/
  queue : Option (List Bytes)
  deriving DecidableEq, Repr

namespace Handle

def fresh : Handle := ⟨false, some []⟩

def isOpen (handle : Handle) : Bool :=
  !handle.closed

/-- Gives the close signal, and tells whether it was given for the first time. -/
def close (handle : Handle) : Handle × Bool :=
  ({ handle with closed := true }, handle.isOpen)

/-- Queues a byte string, and tells whether the handle took it. -/
def send (handle : Handle) (bytes : Bytes) : Handle × Bool :=
  if handle.closed then (handle, false)
  else
    match handle.queue with
    | none => (handle, false)
    | some queued => ({ handle with queue := some (queued ++ [bytes]) }, true)

def receive (handle : Handle) : Handle × Option Bytes :=
  match handle.queue with
  | some (first :: rest) => ({ handle with queue := some rest }, some first)
  | _ => (handle, none)

/-- Gives up the reading end of the queue, and tells whether it was there. -/
def dropQueue (handle : Handle) : Handle × Bool :=
  ({ handle with queue := none }, handle.queue.isSome)

end Handle

end PeerMesh
