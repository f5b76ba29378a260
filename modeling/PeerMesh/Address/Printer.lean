import PeerMesh.Address

/-!
# Printed addresses

IPv4 addresses print as four decimal octets. IPv6 addresses print as lowercase hexadecimal groups
without leading zeros, where the longest run of two or more zero groups, the first among equals,
becomes `::`; the addresses that embed an IPv4 address print it dotted after `::ffff:`. In a socket
address an IPv6 address stands in brackets, with its scope after a percent sign unless that is zero.
-/

set_option autoImplicit false

namespace PeerMesh

def Ipv4.text (address : Ipv4) : String :=
  toString address.first.toNat ++ "." ++ toString address.second.toNat ++ "." ++
    toString address.third.toNat ++ "." ++ toString address.fourth.toNat

namespace Ipv6

/-- A group in lowercase hexadecimal without leading zeros. -/
def groupText (group : UInt16) : String :=
  String.ofList (Nat.toDigits 16 group.toNat)

def groupsText (groups : List UInt16) : String :=
  String.intercalate ":" (groups.map groupText)

/-- A run of zero groups: where it begins and how long it is. -/
structure ZeroRun where
  start : Nat
  length : Nat
  deriving DecidableEq, Repr

/-- The longest run of zero groups, the first among equals. `current` is the run that ends just
before `index`, and `best` the longest run that has ended or is `current`. -/
def longestZerosFrom (index : Nat) (current best : ZeroRun) : List UInt16 → ZeroRun
  | [] => best
  | group :: rest =>
    if group = 0 then
      let current : ZeroRun :=
        if current.length = 0 then ⟨index, 1⟩ else ⟨current.start, current.length + 1⟩
      longestZerosFrom (index + 1) current
        (if best.length < current.length then current else best) rest
    else longestZerosFrom (index + 1) ⟨0, 0⟩ best rest

/-- The longest run of zero groups, the first among equals. -/
def longestZeros (groups : List UInt16) : ZeroRun :=
  longestZerosFrom 0 ⟨0, 0⟩ ⟨0, 0⟩ groups

def text (address : Ipv6) : String :=
  match address.embedded? with
  | some inner => "::ffff:" ++ inner.text
  | none =>
    let groups := address.groups.toList
    let run := longestZeros groups
    if 1 < run.length then
      groupsText (groups.take run.start) ++ "::" ++
        groupsText (groups.drop (run.start + run.length))
    else groupsText groups

end Ipv6

def Ip.text : Ip → String
  | .v4 address => address.text
  | .v6 address => address.text

def SocketAddress.text : SocketAddress → String
  | .v4 address port => address.text ++ ":" ++ toString port.toNat
  | .v6 address port scope =>
    "[" ++ address.text ++ (if scope = 0 then "" else "%" ++ toString scope.toNat) ++ "]:" ++
      toString port.toNat

end PeerMesh
