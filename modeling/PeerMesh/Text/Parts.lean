/-!
# Parts of a text

A text is cut at every place where a certain character stands.
-/

set_option autoImplicit false

namespace PeerMesh.Text

/-- The parts of a text between the places where the separator stands. -/
def parts (separator : Char) (text : String) : List String :=
  (text.toList.splitOn separator).map String.ofList

end PeerMesh.Text
