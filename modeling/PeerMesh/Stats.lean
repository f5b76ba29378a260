import PeerMesh.NameMap
import PeerMesh.Text.Utf8

/-!
# The counters of a group and their wire form

A stats map assigns signed counters of four bytes to names. On the wire it is the number of
entries, then for each entry the length of its name in bytes, the name in UTF-8, and the counter;
numbers are four bytes, most significant first. A byte string is read as a whole: whatever is left
over is a fault, and of several entries with one name the last counts. Stats lines go out as text,
one per line.
-/

set_option autoImplicit false

namespace PeerMesh

abbrev StatsMap := NameMap Int32

namespace Stats

/-- The greatest number that a count or a length on the wire can hold. -/
def lengthLimit : Nat := 0x7FFFFFFF

/-- A quantity that the wire form measures. -/
inductive Measure where
  | entryCount
  | nameLength
  deriving DecidableEq, Repr

def Measure.text : Measure → String
  | .entryCount => "entry count"
  | .nameLength => "name length"

/-- Why a stats map has no wire form: a measure exceeds `lengthLimit`. -/
structure EncodeFault where
  measure : Measure
  value : Nat
  deriving DecidableEq, Repr

def EncodeFault.message (fault : EncodeFault) : String :=
  fault.measure.text ++ " " ++ toString fault.value ++ " exceeds i32"

/-- Four bytes, most significant first. -/
def wordBytes (word : UInt32) : Bytes :=
  [(word >>> 24).toUInt8, (word >>> 16).toUInt8, (word >>> 8).toUInt8, word.toUInt8]

def encodeMeasure (measure : Measure) (value : Nat) : Except EncodeFault Bytes :=
  if lengthLimit < value then .error ⟨measure, value⟩ else .ok (wordBytes value.toUInt32)

def encodeEntry (entry : String × Int32) : Except EncodeFault Bytes :=
  let name := Utf8.encode entry.1
  (encodeMeasure .nameLength name.length).map fun length =>
    length ++ name ++ wordBytes entry.2.toUInt32

def encodeEntries : List (String × Int32) → Except EncodeFault Bytes
  | [] => .ok []
  | entry :: rest => do
    let first ← encodeEntry entry
    let later ← encodeEntries rest
    return first ++ later

/-- The wire form of a stats map, its entries in the order of their names. -/
def encode (stats : StatsMap) : Except EncodeFault Bytes := do
  let count ← encodeMeasure .entryCount stats.size
  let entries ← encodeEntries stats.entries
  return count ++ entries

/-- Why a byte string is no stats map. -/
inductive DecodeFault where
  | truncatedMeasure (measure : Measure)
  /-- A measure has its sign bit set. -/
  | negativeMeasure (measure : Measure) (value : Int32)
  | shortName (needed left : Nat)
  /-- A name is no UTF-8. -/
  | malformedName (fault : Utf8.Fault)
  | truncatedValue
  | trailing (count : Nat)
  deriving DecidableEq, Repr

def DecodeFault.message : DecodeFault → String
  | .truncatedMeasure measure => "truncated " ++ measure.text
  | .negativeMeasure measure value => "negative " ++ measure.text ++ ": " ++ toString value.toInt
  | .shortName needed left =>
    "name needs " ++ toString needed ++ " bytes, " ++ toString left ++ " left"
  | .malformedName fault => fault.message
  | .truncatedValue => "truncated value"
  | .trailing count => toString count ++ " trailing bytes"

/-- The word in the first four bytes, and the bytes after it. -/
def takeWord : Bytes → Option (UInt32 × Bytes)
  | first :: second :: third :: fourth :: rest =>
    some (first.toUInt32 <<< 24 ||| second.toUInt32 <<< 16 ||| third.toUInt32 <<< 8 |||
      fourth.toUInt32, rest)
  | _ => none

/-- Reads a measure, which is not negative. -/
def takeMeasure (measure : Measure) (bytes : Bytes) : Except DecodeFault (Nat × Bytes) :=
  match takeWord bytes with
  | none => .error (.truncatedMeasure measure)
  | some (word, rest) =>
    if word.toInt32 < 0 then .error (.negativeMeasure measure word.toInt32)
    else .ok (word.toNat, rest)

def takeEntry (bytes : Bytes) : Except DecodeFault ((String × Int32) × Bytes) := do
  let (length, bytes) ← takeMeasure .nameLength bytes
  if bytes.length < length then throw (.shortName length bytes.length)
  let name ← (Utf8.decode (bytes.take length)).mapError .malformedName
  match takeWord (bytes.drop length) with
  | none => throw .truncatedValue
  | some (word, rest) => return ((name, word.toInt32), rest)

def takeEntries : (count : Nat) → Bytes → Except DecodeFault (List (String × Int32) × Bytes)
  | 0, bytes => .ok ([], bytes)
  | count + 1, bytes => do
    let (entry, bytes) ← takeEntry bytes
    let (entries, bytes) ← takeEntries count bytes
    return (entry :: entries, bytes)

/-- The stats map that a byte string is the wire form of. -/
def decode (bytes : Bytes) : Except DecodeFault StatsMap := do
  let (count, bytes) ← takeMeasure .entryCount bytes
  let (entries, bytes) ← takeEntries count bytes
  if bytes.isEmpty then return NameMap.ofList entries
  else throw (.trailing bytes.length)

/-- Text lines as bytes, each ended by a line feed. -/
def encodeLines (lines : List String) : Bytes :=
  lines.flatMap fun line => Utf8.encode line ++ [10]

end Stats

end PeerMesh
