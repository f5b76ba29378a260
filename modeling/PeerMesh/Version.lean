/-!
# The version of the program
-/

set_option autoImplicit false

namespace PeerMesh

def version : String := "0.1.0"

/-- The revision that the program was built from, as far as it was known when it was built. -/
def revision : String := "unknown"

def longVersion : String := version ++ " (" ++ revision ++ ")"

end PeerMesh
