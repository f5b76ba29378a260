import PeerMesh.Node.Basic
import PeerMesh.Stats

/-!
# Groups of nodes

The nodes of one process join groups. Membership only grows: a group knows the identifier of every
node that ever joined it, which is how a node tells a sibling from a peer. A group also keeps the
last snapshot of its stats, one summary line for each member still alive and counters summed over
them.
-/

set_option autoImplicit false

namespace PeerMesh

/-- A node as its group remembers it: by its identifier and its number. -/
structure Member where
  id : String
  node : Nat
  deriving DecidableEq, Repr

structure Group where
  /-- Every node that ever joined, in order. -/
  members : List Member
  lastLines : List String
  lastCounters : StatsMap

namespace Group

def empty : Group := ⟨[], [], .empty⟩

def join (group : Group) (member : Member) : Group :=
  { group with members := group.members ++ [member] }

def ids (group : Group) : List String :=
  group.members.map (·.id)

def hasIdentifier (group : Group) (id : String) : Bool :=
  group.ids.contains id

def updateStats (group : Group) (lines : List String) (counters : StatsMap) : Group :=
  { group with lastLines := lines, lastCounters := counters }

def description (group : Group) : String :=
  "NodeGroup \x7b members: " ++ Text.bracketed (group.ids.map Text.quoted) ++ " \x7d"

end Group

namespace Stats

/-- A number of things as a counter; numbers that no counter can hold count as the greatest. -/
def counter (count : Nat) : Int32 :=
  if lengthLimit < count then Int32.ofNat lengthLimit else Int32.ofNat count

/-- What a snapshot takes from one member. -/
structure Sample where
  summary : String
  connections : Nat
  peered : Nat
  dialing : Nat
  /-- The size of the blocklist of the member's context. -/
  blocked : Nat
  deriving DecidableEq, Repr

def Sample.ofNode (node : Node) (blocklist : Blocklist) : Sample :=
  { summary := node.summary
    connections := node.connectionCount
    peered := node.peeredCount
    dialing := node.dialingCount
    blocked := blocklist.size }

/-- Adds to the counter under a name; a counter that is not there counts as zero. -/
def addTo (counters : StatsMap) (name : String) (amount : Int32) : StatsMap :=
  counters.insert name ((counters.get? name).getD 0 + amount)

def addSample (counters : StatsMap) (sample : Sample) : StatsMap :=
  addTo (addTo (addTo counters "connections" (counter sample.connections))
    "peered" (counter sample.peered)) "dialing" (counter sample.dialing)

def blockedCounter (samples : List Sample) : Int32 :=
  samples.foldl (fun largest sample => max largest (counter sample.blocked)) 0

/-- The counters of a group. The sums are there only if there is a member to sum over. -/
def countersOf (samples : List Sample) : StatsMap :=
  ((samples.foldl addSample .empty).insert "nodes" (counter samples.length)).insert "blocked"
    (blockedCounter samples)

end Stats

def Group.refresh (group : Group) (samples : List Stats.Sample) : Group :=
  group.updateStats (samples.map (·.summary)) (Stats.countersOf samples)

end PeerMesh
