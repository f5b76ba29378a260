/-!
# Lists without repetitions

A set is kept as a list in the order in which its elements arrived.
-/

set_option autoImplicit false

namespace PeerMesh.Distinct

variable {α : Type} [DecidableEq α]

/-- The list with `element` at its end, unless it is there already. -/
def add (elements : List α) (element : α) : List α :=
  if element ∈ elements then elements else elements ++ [element]

def remove (elements : List α) (element : α) : List α :=
  elements.filter fun other => decide (other ≠ element)

end PeerMesh.Distinct
