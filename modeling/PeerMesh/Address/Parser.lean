import PeerMesh.Address

/-!
# Reading addresses

A reader consumes a front part of a text and returns what it denotes with the rest of the text, or
fails. An address is read from a text that it fills entirely: no blanks, no host names.
-/

set_option autoImplicit false

namespace PeerMesh

namespace Address

abbrev Reader (α : Type) := List Char → Option (α × List Char)

/-- The value of a digit, in upper or lower case, in a base up to sixteen. -/
def digit? (base : Nat) (character : Char) : Option Nat :=
  let value? : Option Nat :=
    if '0' ≤ character ∧ character ≤ '9' then some (character.toNat - '0'.toNat)
    else if 'a' ≤ character ∧ character ≤ 'f' then some (character.toNat - 'a'.toNat + 10)
    else if 'A' ≤ character ∧ character ≤ 'F' then some (character.toNat - 'A'.toNat + 10)
    else none
  value?.filter (· < base)

/-- The digits at the front of a text, and the rest. -/
def digits (base : Nat) : List Char → List Nat × List Char
  | [] => ([], [])
  | character :: rest =>
    match digit? base character with
    | some value => (value :: (digits base rest).1, (digits base rest).2)
    | none => ([], character :: rest)

/-- What a written number may look like. -/
structure NumberForm where
  base : Nat
  /-- The greatest number of digits, if there is a limit. -/
  maxDigits : Option Nat
  /-- Whether a number of several digits may begin with a zero. -/
  leadingZeros : Bool
  maxValue : Nat

def octetForm : NumberForm := ⟨10, some 3, false, 255⟩

def groupForm : NumberForm := ⟨16, some 4, true, 65535⟩

def portForm : NumberForm := ⟨10, none, true, 65535⟩

def scopeForm : NumberForm := ⟨10, none, true, 4294967295⟩

/-- Reads a number of the given form from all the digits at the front of the text. -/
def readNumber (form : NumberForm) : Reader Nat := fun text =>
  let (found, rest) := digits form.base text
  let value := found.foldl (fun total digit => total * form.base + digit) 0
  if found.isEmpty then none
  else if form.maxDigits.any (· < found.length) then none
  else if !form.leadingZeros && 1 < found.length && found.head? == some 0 then none
  else if form.maxValue < value then none
  else some (value, rest)

def readChar (character : Char) : Reader Unit
  | [] => none
  | first :: rest => if first = character then some ((), rest) else none

def readIpv4 : Reader Ipv4 := fun text => do
  let (first, text) ← readNumber octetForm text
  let ((), text) ← readChar '.' text
  let (second, text) ← readNumber octetForm text
  let ((), text) ← readChar '.' text
  let (third, text) ← readNumber octetForm text
  let ((), text) ← readChar '.' text
  let (fourth, text) ← readNumber octetForm text
  return (⟨first.toUInt8, second.toUInt8, third.toUInt8, fourth.toUInt8⟩, text)

/-- Reads the colon that separates a group from the one before it; the first group has none. -/
def readSeparator (isFirst : Bool) : Reader Unit := fun text =>
  if isFirst then some ((), text) else readChar ':' text

def groupsOfIpv4 (address : Ipv4) : List UInt16 :=
  [address.first.toUInt16 * 256 + address.second.toUInt16,
   address.third.toUInt16 * 256 + address.fourth.toUInt16]

/-- The groups read from the front of a text. -/
structure Groups where
  groups : List UInt16
  /-- Whether the last two groups were written as an IPv4 address, which ends the list. -/
  endsInIpv4 : Bool
  rest : List Char

/-- Reads at most `room` groups separated by colons. Where room is left for two groups, an IPv4
address may stand for them; it is tried before a group is. -/
def readGroups : (room : Nat) → (isFirst : Bool) → List Char → Groups
  | 0, _, text => ⟨[], false, text⟩
  | room + 1, isFirst, text =>
    let embedded : Option (Ipv4 × List Char) :=
      if room = 0 then none
      else do
        let ((), text) ← readSeparator isFirst text
        readIpv4 text
    match embedded with
    | some (address, rest) => ⟨groupsOfIpv4 address, true, rest⟩
    | none =>
      let group : Option (Nat × List Char) := do
        let ((), text) ← readSeparator isFirst text
        readNumber groupForm text
      match group with
      | none => ⟨[], false, text⟩
      | some (value, rest) =>
        let later := readGroups room false rest
        ⟨value.toUInt16 :: later.groups, later.endsInIpv4, later.rest⟩

/-- The address of exactly eight groups. -/
def ipv6OfGroups? (groups : List UInt16) : Option Ipv6 :=
  if enough : groups.length = 8 then some ⟨⟨groups.toArray, by simpa using enough⟩⟩ else none

/-- Reads an IPv6 address: eight groups, or fewer with one `::` for at least one zero group. An IPv4
address may stand for the last two groups, but not before `::`. -/
def readIpv6 : Reader Ipv6 := fun text =>
  let head := readGroups 8 true text
  if head.groups.length = 8 then
    (ipv6OfGroups? head.groups).map fun address => (address, head.rest)
  else if head.endsInIpv4 then none
  else do
    let ((), text) ← readChar ':' head.rest
    let ((), text) ← readChar ':' text
    let tail := readGroups (7 - head.groups.length) true text
    let zeros := List.replicate (8 - head.groups.length - tail.groups.length) 0
    let address ← ipv6OfGroups? (head.groups ++ zeros ++ tail.groups)
    return (address, tail.rest)

def readPort : Reader UInt16 := fun text => do
  let ((), text) ← readChar ':' text
  let (port, text) ← readNumber portForm text
  return (port.toUInt16, text)

def readScope : Reader UInt32 := fun text => do
  let ((), text) ← readChar '%' text
  let (scope, text) ← readNumber scopeForm text
  return (scope.toUInt32, text)

/-- Reads a socket address of the fourth version. -/
def readSocketV4 : Reader SocketAddress := fun text => do
  let (address, text) ← readIpv4 text
  let (port, text) ← readPort text
  return (.v4 address port, text)

def readSocketV6 : Reader SocketAddress := fun text => do
  let ((), text) ← readChar '[' text
  let (address, text) ← readIpv6 text
  let (scope, text) := (readScope text).getD (0, text)
  let ((), text) ← readChar ']' text
  let (port, text) ← readPort text
  return (.v6 address port scope, text)

/-- What a reader makes of a whole text; none if it leaves a rest. -/
def whole {α : Type} (reader : Reader α) (text : String) : Option α :=
  match reader text.toList with
  | some (value, []) => some value
  | _ => none

end Address

def Ip.parse? (text : String) : Option Ip :=
  ((Address.whole Address.readIpv4 text).map Ip.v4).or
    ((Address.whole Address.readIpv6 text).map Ip.v6)

def SocketAddress.parse? (text : String) : Option SocketAddress :=
  (Address.whole Address.readSocketV4 text).or (Address.whole Address.readSocketV6 text)

end PeerMesh
