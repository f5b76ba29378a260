import PeerMesh.Distinct
import PeerMesh.Registry
import PeerMesh.Text.Blank
import PeerMesh.Text.Utf8

/-!
# The hello exchange

Two nodes tell each other their identifiers by one line each, `HELLO` and the identifier. Only the
first line of a connection counts. Its bytes are collected until the line feed; a line that has
grown beyond its limit without one is given up. The line is read leniently as UTF-8 and without
the blanks at its ends; what follows the greeting, again without blanks, is the identifier.
-/

set_option autoImplicit false

namespace PeerMesh

/-- The state of the exchange on all connections of one node. -/
structure Hello where
  /-- The bytes of first lines that are still incomplete. -/
  buffers : List (Slot × Bytes)
  /-- The connections on which this node sent its line first. -/
  initiated : List Slot
  /-- The connections whose first line has been dealt with. -/
  done : List Slot
  deriving DecidableEq, Repr

namespace Hello

def initial : Hello := ⟨[], [], []⟩

/-- The greeting before the identifier. -/
def greeting : String := "HELLO "

/-- The greatest number of bytes kept of a line without its line feed. -/
def lineLimit : Nat := 1024

def lineFeed : UInt8 := 10

def line (identifier : String) : Bytes :=
  Utf8.encode (greeting ++ identifier ++ "\n")

/-- The text after a front part, if the text begins with it. -/
def afterFront? : (front text : List Char) → Option (List Char)
  | [], text => some text
  | _ :: _, [] => none
  | wanted :: front, character :: text =>
    if wanted = character then afterFront? front text else none

def identifier? (text : List Char) : Option String :=
  match afterFront? greeting.toList text with
  | none => none
  | some rest =>
    let identifier := Text.trim rest
    if identifier.isEmpty then none else some (String.ofList identifier)

def lineText (bytes : Bytes) : List Char :=
  Text.trim (Utf8.decodeLenient bytes)

/-- The bytes before the first line feed, if there is one. -/
def beforeLineFeed? (bytes : Bytes) : Option Bytes :=
  if bytes.contains lineFeed then some (bytes.takeWhile (· != lineFeed)) else none

/-- What received bytes amount to. -/
inductive Reception where
  | ignored
  | incomplete
  | oversized
  | malformed
  /-- The first line gives an identifier, on a connection where this node spoke first or did not. -/
  | greeted (identifier : String) (initiated : Bool)
  deriving DecidableEq, Repr

def buffer (hello : Hello) (slot : Slot) : Bytes :=
  (hello.buffers.lookup slot).getD []

def withoutBuffer (hello : Hello) (slot : Slot) : List (Slot × Bytes) :=
  hello.buffers.filter fun entry => entry.1 != slot

/-- The state after the first line of a connection has been dealt with or given up. -/
def settle (hello : Hello) (slot : Slot) : Hello :=
  { hello with buffers := hello.withoutBuffer slot, done := hello.done ++ [slot] }

/-- Notes that this node speaks first on a connection. -/
def initiate (hello : Hello) (slot : Slot) : Hello :=
  { hello with
    initiated := Distinct.add hello.initiated slot }

def receive (hello : Hello) (slot : Slot) (bytes : Bytes) : Hello × Reception :=
  if slot ∈ hello.done then (hello, .ignored)
  else
    let collected := hello.buffer slot ++ bytes
    match beforeLineFeed? collected with
    | none =>
      if lineLimit < collected.length then (hello.settle slot, .oversized)
      else ({ hello with buffers := hello.withoutBuffer slot ++ [(slot, collected)] }, .incomplete)
    | some first =>
      let settled := hello.settle slot
      ({ settled with initiated := Distinct.remove settled.initiated slot },
        match identifier? (lineText first) with
        | none => .malformed
        | some identifier => .greeted identifier (decide (slot ∈ hello.initiated)))

def forget (hello : Hello) (slot : Slot) : Hello :=
  { buffers := hello.withoutBuffer slot
    initiated := Distinct.remove hello.initiated slot
    done := Distinct.remove hello.done slot }

end Hello

end PeerMesh
