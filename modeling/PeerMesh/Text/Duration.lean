/-!
# Printed durations

A duration is a whole number of milliseconds. From one second on it prints in seconds, with as many
decimals as it needs; below that in milliseconds; and the empty duration as `0ns`.
-/

set_option autoImplicit false

namespace PeerMesh.Text

/-- A number below a thousand in three digits, without its trailing zeros. -/
def thousandths (count : Nat) : String :=
  let digits := [count / 100 % 10, count / 10 % 10, count % 10]
  let kept := (digits.reverse.dropWhile (· == 0)).reverse
  String.join (kept.map toString)

def durationText (milliseconds : Nat) : String :=
  if milliseconds = 0 then "0ns"
  else if milliseconds < 1000 then toString milliseconds ++ "ms"
  else if milliseconds % 1000 = 0 then toString (milliseconds / 1000) ++ "s"
  else toString (milliseconds / 1000) ++ "." ++ thousandths (milliseconds % 1000) ++ "s"

end PeerMesh.Text
