/-!
# Network addresses

Internet addresses of both families, and socket addresses: an internet address with a port and,
for the sixth version, a scope. Two socket addresses are equal only if family, address, port and
scope agree; in particular an IPv4 address differs from the IPv6 address that embeds it.
-/

set_option autoImplicit false

namespace PeerMesh

structure Ipv4 where
  first : UInt8
  second : UInt8
  third : UInt8
  fourth : UInt8
  deriving DecidableEq, Repr, Inhabited

namespace Ipv4

/-- `0.0.0.0`, which as a listening address stands for every address of the host. -/
def wildcard : Ipv4 := ⟨0, 0, 0, 0⟩

def isLoopback (address : Ipv4) : Bool :=
  address.first == 127

end Ipv4

/-- An IPv6 address, by its eight groups of sixteen bits. -/
structure Ipv6 where
  groups : Vector UInt16 8
  deriving DecidableEq, Repr

namespace Ipv6

def unspecified : Ipv6 := ⟨#v[0, 0, 0, 0, 0, 0, 0, 0]⟩

def loopback : Ipv6 := ⟨#v[0, 0, 0, 0, 0, 0, 0, 1]⟩

def octets (group : UInt16) : UInt8 × UInt8 :=
  ((group >>> 8).toUInt8, group.toUInt8)

/-- The IPv4 address that an address in `::ffff:0:0/96` embeds, and none for any other address. -/
def embedded? (address : Ipv6) : Option Ipv4 :=
  if address.groups.toList.take 6 = [0, 0, 0, 0, 0, 0xFFFF] then
    some ⟨(octets address.groups[6]).1, (octets address.groups[6]).2,
      (octets address.groups[7]).1, (octets address.groups[7]).2⟩
  else none

end Ipv6

inductive Ip where
  | v4 (address : Ipv4)
  | v6 (address : Ipv6)
  deriving DecidableEq, Repr

namespace Ip

def isUnspecified : Ip → Bool
  | .v4 address => address == Ipv4.wildcard
  | .v6 address => address == Ipv6.unspecified

/-- Whether the address is a loopback address of its family: `127.0.0.0/8`, or `::1` alone. -/
def isLoopback : Ip → Bool
  | .v4 address => address.isLoopback
  | .v6 address => address == Ipv6.loopback

/-- The IPv4 address that this is or embeds. -/
def asV4? : Ip → Option Ipv4
  | .v4 address => some address
  | .v6 address => address.embedded?

end Ip

/-- An address with a port, to listen on or to connect to. -/
inductive SocketAddress where
  | v4 (address : Ipv4) (port : UInt16)
  | v6 (address : Ipv6) (port : UInt16) (scope : UInt32)
  deriving DecidableEq, Repr

namespace SocketAddress

def ip : SocketAddress → Ip
  | .v4 address _ => .v4 address
  | .v6 address _ _ => .v6 address

def port : SocketAddress → UInt16
  | .v4 _ port => port
  | .v6 _ port _ => port

end SocketAddress

end PeerMesh
