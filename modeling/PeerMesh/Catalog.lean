import PeerMesh.Address
import PeerMesh.Distinct

/-!
# The addresses of this host

A catalog is a snapshot of the addresses on the host's interfaces. It answers two questions:
whether an address is one of this host's, and whether it lies on the local segment. Every address
of every interface counts for the first. For the second count the IPv4 addresses outside the
loopback network on interfaces that are up and not point-to-point.
-/

set_option autoImplicit false

namespace PeerMesh

structure Interface where
  name : String
  address : Ip
  up : Bool
  pointToPoint : Bool
  deriving DecidableEq, Repr

/-- The IPv4 address with which an interface belongs to the local segment, if it does. -/
def Interface.segmentAddress? (interface : Interface) : Option Ipv4 :=
  match interface.address with
  | .v4 address =>
    if address.isLoopback || !interface.up || interface.pointToPoint then none else some address
  | .v6 _ => none

/-- The addresses of this host, as its interfaces gave them. -/
structure Catalog where
  /-- The addresses of the local segment, each once, in order of appearance. -/
  segment : List Ipv4
  /-- The addresses of the host, each once, in order of appearance. -/
  host : List Ip
  named : List (String × Ip)
  deriving DecidableEq, Repr

namespace Catalog

def empty : Catalog := ⟨[], [], []⟩

def add (catalog : Catalog) (interface : Interface) : Catalog :=
  { segment := interface.segmentAddress?.elim catalog.segment (Distinct.add catalog.segment)
    host := Distinct.add catalog.host interface.address
    named := catalog.named ++ [(interface.name, interface.address)] }

def ofInterfaces (interfaces : List Interface) : Catalog :=
  interfaces.foldl add empty

/-- Whether an address lies on the local segment. An IPv6 address that embeds an IPv4 address counts
as that address. -/
def isLocal (catalog : Catalog) (ip : Ip) : Bool :=
  ip.asV4?.any fun address => decide (address ∈ catalog.segment)

def isHost (catalog : Catalog) (ip : Ip) : Bool :=
  decide (ip ∈ catalog.host)

/-- The IPv4 addresses of the interface called `name`, or none if the host has no such interface. -/
def addressesOf? (catalog : Catalog) (name : String) : Option (List Ipv4) :=
  let entries := catalog.named.filter fun entry => entry.1 == name
  if entries.isEmpty then none
  else some (entries.filterMap fun entry =>
    match entry.2 with
    | .v4 address => some address
    | .v6 _ => none)

end Catalog

end PeerMesh
