import PeerMesh.Node.Connection

/-!
# The teardown of a node

A teardown runs once, for whoever asked first. Its first step tells the listeners to stop; each
listener stops when its task gets to look, which a pause after a failed accept delays. When all
have stopped, the second step empties the table, closes every connection in it, disposes of the
exit hook and marks the node as closed. A hook that waits its turn behind an application's call is
cancelled.
-/

set_option autoImplicit false

namespace PeerMesh.Node

def askClose (node : Node) (closer : Closer) : Node :=
  { node with closers := node.closers.call closer }

/-- Passes the permit on; a caller that begins the teardown tells the listeners to stop. -/
def grantPermit (node : Node) : Node :=
  let closers := node.closers.grant
  { node with closers, stopping := node.stopping || closers.running?.isSome }

def listenersStopped (node : Node) : Bool :=
  node.listeners.all (·.stopped)

/-- Whether the teardown waits for its second step and may take it. -/
def canFinishTeardown (node : Node) : Bool :=
  node.closers.running?.isSome && node.listenersStopped

def closeAll (node : Node) (entries : List Connection) : Node :=
  entries.foldl (fun rest entry => rest.closeHandle entry.slot) node

/-- Empties the table for good and closes every connection that was in it. -/
def emptyTable (node : Node) : Node :=
  let (registry, drained) := node.table.registry.drain
  ({ node with table := ⟨registry, .empty, true⟩ } : Node).closeAll drained

/-- Cancels the exit hook, unless it is the one that performs the teardown. -/
def disposeHook (node : Node) : Node :=
  if node.hook.isNone || node.closers.running? == some .exitHook then { node with hook := none }
  else { node with hook := none, closers := node.closers.abort .exitHook }

/-- The second step of the teardown. -/
def finishTeardown (node : Node) : Node :=
  let emptied := node.emptyTable.disposeHook
  { emptied with closers := emptied.closers.finish, closed := true }

/-- The signal to exit comes, and the hook asks for the teardown if it still awaited the signal. -/
def hearExit (node : Node) : Node :=
  match node.hook with
  | some hook =>
    if hook.awaiting then
      ({ node with hook := some { hook with awaiting := false } } : Node).askClose .exitHook
    else node
  | none => node

/-- The application gives the signal to exit. Tells whether the hook of the node awaited it. -/
def fireExit (node : Node) : Node × Bool :=
  if node.hook.any fun hook => hook.scripted && hook.awaiting then (node.hearExit, true)
  else (node, false)

/-- The process is interrupted from its terminal, which is the signal to exit for a hook unless the
application holds the signal. -/
def interrupt (node : Node) : Node :=
  if node.hook.any (·.scripted) then node else node.hearExit

/-- The handle of the exit hook is stored. -/
def storeHook (node : Node) (hook : ExitHook) : Node :=
  { node with hook := some hook }

def updateListener (node : Node) (position : Nat) (change : Listener → Listener) : Node :=
  { node with listeners := node.listeners.modify position change }

end PeerMesh.Node
