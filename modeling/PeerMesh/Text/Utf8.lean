/-!
# Reading UTF-8

A byte string is cut into pieces: whole characters, ill-formed runs, and at most one sequence that
the end of the string cuts short. An ill-formed run is as long as a well-formed sequence could have
been followed before the first byte that rules it out, and at least one byte long. Strict reading
reports the first piece that is no character, by its index; lenient reading puts U+FFFD for each.
-/

set_option autoImplicit false

namespace PeerMesh

abbrev Bytes := List UInt8

namespace Utf8

/-- One piece of a byte string read as UTF-8. -/
inductive Piece where
  /-- A well-formed sequence for one character. -/
  | character (value : Char)
  /-- That many bytes that begin no well-formed sequence. -/
  | malformed (length : Nat)
  /-- A sequence that is well-formed so far and ends with the string. -/
  | unfinished
  deriving DecidableEq, Repr

/-- The six payload bits that a continuation byte carries, if the byte is one. -/
def payload? (byte : UInt8) : Option Nat :=
  if 0x80 ≤ byte && byte ≤ 0xBF then some (byte.toNat - 0x80) else none

/-- The least and the greatest second byte that may follow the first byte of a sequence of three. -/
def secondOfThree (lead : UInt8) : UInt8 × UInt8 :=
  if lead = 0xE0 then (0xA0, 0xBF) else if lead = 0xED then (0x80, 0x9F) else (0x80, 0xBF)

/-- The least and the greatest second byte that may follow the first byte of a sequence of four. -/
def secondOfFour (lead : UInt8) : UInt8 × UInt8 :=
  if lead = 0xF0 then (0x90, 0xBF) else if lead = 0xF4 then (0x80, 0x8F) else (0x80, 0xBF)

/-- How many bytes the sequence beginning with this byte has, or none if no sequence begins with
it. -/
def width? (lead : UInt8) : Option Nat :=
  if lead ≤ 0x7F then some 1
  else if 0xC2 ≤ lead && lead ≤ 0xDF then some 2
  else if 0xE0 ≤ lead && lead ≤ 0xEF then some 3
  else if 0xF0 ≤ lead && lead ≤ 0xF4 then some 4
  else none

/-- The first piece of a non-empty byte string, given as its first byte and the bytes after it,
together with the number of bytes after the first that belong to the piece. -/
def firstPiece (lead : UInt8) (rest : Bytes) : Piece × Nat :=
  match width? lead with
  | some 1 => (.character (Char.ofNat lead.toNat), 0)
  | some 2 =>
    match rest with
    | [] => (.unfinished, 0)
    | second :: _ =>
      match payload? second with
      | some low => (.character (Char.ofNat ((lead.toNat - 0xC0) * 64 + low)), 1)
      | none => (.malformed 1, 0)
  | some 3 =>
    match rest with
    | [] => (.unfinished, 0)
    | second :: afterSecond =>
      if (secondOfThree lead).1 ≤ second && second ≤ (secondOfThree lead).2 then
        match afterSecond with
        | [] => (.unfinished, 1)
        | third :: _ =>
          match payload? third with
          | some low =>
            (.character (Char.ofNat
              ((lead.toNat - 0xE0) * 4096 + (second.toNat - 0x80) * 64 + low)), 2)
          | none => (.malformed 2, 1)
      else (.malformed 1, 0)
  | some 4 =>
    match rest with
    | [] => (.unfinished, 0)
    | second :: afterSecond =>
      if (secondOfFour lead).1 ≤ second && second ≤ (secondOfFour lead).2 then
        match afterSecond with
        | [] => (.unfinished, 1)
        | third :: afterThird =>
          match payload? third with
          | none => (.malformed 2, 1)
          | some middle =>
            match afterThird with
            | [] => (.unfinished, 2)
            | fourth :: _ =>
              match payload? fourth with
              | none => (.malformed 3, 2)
              | some low =>
                (.character (Char.ofNat ((lead.toNat - 0xF0) * 262144 +
                  (second.toNat - 0x80) * 4096 + middle * 64 + low)), 3)
      else (.malformed 1, 0)
  | _ => (.malformed 1, 0)

/-- The pieces of a byte string, each with the index of its first byte. `skip` bytes at the front
belong to a piece already given, and `index` is the place of the first byte of `bytes`. -/
def piecesFrom (index skip : Nat) : Bytes → List (Nat × Piece)
  | [] => []
  | byte :: rest =>
    match skip with
    | left + 1 => piecesFrom (index + 1) left rest
    | 0 =>
      (index, (firstPiece byte rest).1) :: piecesFrom (index + 1) (firstPiece byte rest).2 rest

/-- The pieces of a byte string, each with the index of its first byte. -/
def pieces (bytes : Bytes) : List (Nat × Piece) :=
  piecesFrom 0 0 bytes

/-- Why a byte string is no UTF-8. Indexes count bytes from the start of the string. -/
inductive Fault where
  /-- `length` bytes at `index` begin no well-formed sequence. -/
  | malformed (length index : Nat)
  /-- The string ends inside the sequence that begins at `index`. -/
  | unfinished (index : Nat)
  deriving DecidableEq, Repr

def Fault.message : Fault → String
  | .malformed length index =>
    "invalid utf-8 sequence of " ++ toString length ++ " bytes from index " ++ toString index
  | .unfinished index => "incomplete utf-8 byte sequence from index " ++ toString index

/-- The characters of a list of pieces, or the fault of the first piece that is none. -/
def characters : List (Nat × Piece) → Except Fault (List Char)
  | [] => .ok []
  | (_, .character value) :: rest => (characters rest).map (value :: ·)
  | (index, .malformed length) :: _ => .error (.malformed length index)
  | (index, .unfinished) :: _ => .error (.unfinished index)

/-- Strict reading: the text that the bytes are the UTF-8 of, or the first fault. -/
def decode (bytes : Bytes) : Except Fault String :=
  (characters (pieces bytes)).map String.ofList

/-- What lenient reading shows for a piece: U+FFFD for one that is no character. -/
def Piece.shown : Piece → Char
  | .character value => value
  | .malformed _ => Char.ofNat 0xFFFD
  | .unfinished => Char.ofNat 0xFFFD

/-- Lenient reading: every piece gives one character. -/
def decodeLenient (bytes : Bytes) : List Char :=
  (pieces bytes).map fun piece => piece.2.shown

def encode (text : String) : Bytes :=
  text.toList.flatMap String.utf8EncodeChar

end Utf8

end PeerMesh
