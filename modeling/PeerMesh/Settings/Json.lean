import PeerMesh.Settings.Value
import PeerMesh.Text.Numeral

/-!
# Reading JSON

A JSON text is one value with blanks around it. Of several members with one name the last counts.
Lists and objects may be nested to a limited depth. A number with a fraction or an exponent is a
real, as is `-0`, and as is a whole number that no word of eight bytes holds, with a sign or
without; the others are whole. A real is read by taking as many digits as fit into eight bytes and
scaling by a power of ten.
-/

set_option autoImplicit false

namespace PeerMesh.Settings.Json

/-- What reading a front part of a text gives: what was read, and the rest. -/
abbrev Reading (α : Type) := Option (α × List Char)

def isSpace (character : Char) : Bool :=
  character == ' ' || character == '\t' || character == '\n' || character == '\r'

def skipSpace (text : List Char) : List Char :=
  text.dropWhile isSpace

def expect : (front text : List Char) → Option (List Char)
  | [], text => some text
  | _ :: _, [] => none
  | wanted :: front, character :: text =>
    if wanted = character then expect front text else none

/-! ## Numbers -/

def isDigit (character : Char) : Bool :=
  '0' ≤ character && character ≤ '9'

def digitValue (character : Char) : Nat :=
  character.toNat - '0'.toNat

/-- The digits at the front of a text, and the rest. -/
def takeDigits (text : List Char) : List Char × List Char :=
  text.span isDigit

/-- The number of eight bytes that a row of digits makes up, as far as it fits, and the digits that
were left over. -/
def gather (total : Nat) : List Char → Nat × List Char
  | [] => (total, [])
  | digit :: rest =>
    if Text.wordLimit < total * 10 + digitValue digit then (total, digit :: rest)
    else gather (total * 10 + digitValue digit) rest

/-- A written number, cut into its parts. -/
structure Literal where
  negative : Bool
  wholeDigits : List Char
  fraction : Option (List Char)
  exponent : Option Int

/-- Reads the digits before the point. Only zero itself begins with a zero. -/
def readWholeDigits (text : List Char) : Reading (List Char) :=
  match takeDigits text with
  | ([], _) => none
  | (['0'], rest) => some (['0'], rest)
  | ('0' :: _, _) => none
  | (digits, rest) => some (digits, rest)

def readFraction (text : List Char) : Reading (Option (List Char)) :=
  match text with
  | '.' :: rest =>
    match takeDigits rest with
    | ([], _) => none
    | (digits, rest) => some (some digits, rest)
  | _ => some (none, text)

def digitsValue (digits : List Char) : Nat :=
  digits.foldl (fun total digit => total * 10 + digitValue digit) 0

def readExponentDigits (negative : Bool) (text : List Char) : Reading (Option Int) :=
  match takeDigits text with
  | ([], _) => none
  | (digits, rest) =>
    some (some (if negative then -(digitsValue digits : Int) else digitsValue digits), rest)

def readExponent (text : List Char) : Reading (Option Int) :=
  match text with
  | first :: rest =>
    if first = 'e' ∨ first = 'E' then
      match rest with
      | '+' :: digits => readExponentDigits false digits
      | '-' :: digits => readExponentDigits true digits
      | digits => readExponentDigits false digits
    else some (none, text)
  | [] => some (none, text)

/-- Reads a number and cuts it into its parts. -/
def readLiteral (text : List Char) : Option (Literal × List Char) := do
  let (negative, text) :=
    match text with
    | '-' :: rest => (true, rest)
    | _ => (false, text)
  let (wholeDigits, text) ← readWholeDigits text
  let (fraction, text) ← readFraction text
  let (exponent, text) ← readExponent text
  return (⟨negative, wholeDigits, fraction, exponent⟩, text)

/-- The power of ten, for an exponent up to 308. -/
def powerOfTen (exponent : Nat) : Float :=
  Float.ofScientific 1 false exponent

/-- A number times a power of ten. Powers beyond the greatest are divided by in several steps; the
product is none if it is too great. -/
def scale (number : Float) : (steps : Nat) → (exponent : Int) → Option Float
  | 0, _ => some number
  | steps + 1, exponent =>
    if exponent.natAbs ≤ 308 then
      if 0 ≤ exponent then
        let product := number * powerOfTen exponent.natAbs
        if product.isInf then none else some product
      else some (number / powerOfTen exponent.natAbs)
    else if number == 0 then some number
    else if 0 ≤ exponent then none
    else scale (number / powerOfTen 308) steps (exponent + 308)

def signed (negative : Bool) (number : Float) : Value :=
  .real (if negative then -number else number).toBits

/-- The value of a literal; none if it is too great. -/
def Literal.value? (literal : Literal) : Option Value :=
  let (significand, dropped) := gather 0 literal.wholeDigits
  match literal.fraction, literal.exponent, dropped with
  | none, none, [] =>
    if literal.negative then
      if significand = 0 ∨ -(significand : Int) < Value.leastWhole then
        some (signed true significand.toUInt64.toFloat)
      else some (.whole (-significand))
    else some (.whole significand)
  | fraction, exponent, dropped =>
    let places := fraction.getD []
    let (significand, ignored) :=
      if dropped.isEmpty then gather significand places else (significand, places)
    let power : Int :=
      exponent.getD 0 + dropped.length - (places.length - ignored.length : Nat)
    (scale significand.toUInt64.toFloat 5 (max power (-1500))).map (signed literal.negative)

def readNumber (text : List Char) : Option (Value × List Char) := do
  let (literal, rest) ← readLiteral text
  let value ← literal.value?
  return (value, rest)

/-! ## Strings -/

def hexValue? (character : Char) : Option Nat :=
  if isDigit character then some (digitValue character)
  else if 'a' ≤ character ∧ character ≤ 'f' then some (character.toNat - 'a'.toNat + 10)
  else if 'A' ≤ character ∧ character ≤ 'F' then some (character.toNat - 'A'.toNat + 10)
  else none

/-- The unit that four hexadecimal digits stand for, and the rest. -/
def readUnit : List Char → Option (Nat × List Char)
  | first :: second :: third :: fourth :: rest => do
    let first ← hexValue? first
    let second ← hexValue? second
    let third ← hexValue? third
    let fourth ← hexValue? fourth
    return (((first * 16 + second) * 16 + third) * 16 + fourth, rest)
  | _ => none

/-- Whether a unit is the first of a pair that stands for one character. -/
def isLeading (unit : Nat) : Bool :=
  0xD800 ≤ unit && unit ≤ 0xDBFF

/-- Whether a unit is the second of a pair. -/
def isTrailing (unit : Nat) : Bool :=
  0xDC00 ≤ unit && unit ≤ 0xDFFF

/-- Reads the character that follows `\u`: one unit, or a pair of units. -/
def readEscapedUnit (text : List Char) : Option (Char × List Char) := do
  let (unit, rest) ← readUnit text
  if isTrailing unit then none
  else if isLeading unit then
    let rest ← expect ['\\', 'u'] rest
    let (second, rest) ← readUnit rest
    if isTrailing second then
      return (Char.ofNat ((unit - 0xD800) * 0x400 + (second - 0xDC00) + 0x10000), rest)
    else none
  else return (Char.ofNat unit, rest)

/-- The character that a letter stands for after a backslash. -/
def escapeLetters : List (Char × Char) :=
  [('"', '"'), ('\\', '\\'), ('/', '/'), ('b', '\x08'), ('f', '\x0c'), ('n', '\n'), ('r', '\r'),
   ('t', '\t')]

/-- Reads the rest of a string after its opening quote; `read` holds what was read, last character
first. -/
def readStringFrom (read : List Char) : (fuel : Nat) → List Char → Reading String
  | 0, _ => none
  | _ + 1, [] => none
  | _ + 1, '"' :: rest => some (String.ofList read.reverse, rest)
  | fuel + 1, '\\' :: 'u' :: rest =>
    match readEscapedUnit rest with
    | none => none
    | some (character, rest) => readStringFrom (character :: read) fuel rest
  | fuel + 1, '\\' :: letter :: rest =>
    match escapeLetters.lookup letter with
    | none => none
    | some character => readStringFrom (character :: read) fuel rest
  | fuel + 1, character :: rest =>
    if character.toNat < 0x20 ∨ character = '\\' then none
    else readStringFrom (character :: read) fuel rest

def readString (text : List Char) : Reading String :=
  readStringFrom [] (text.length + 1) text

/-! ## Values -/

mutual

/-- Reads a value at the front of a text. `fuel` bounds the number of tokens, and `depth` how deep
lists and objects are nested in it. -/
def readValue : (fuel depth : Nat) → List Char → Reading Value
  | 0, _, _ => none
  | fuel + 1, depth, text =>
    match skipSpace text with
    | 'n' :: rest => (expect ['u', 'l', 'l'] rest).map fun rest => (.null, rest)
    | 't' :: rest => (expect ['r', 'u', 'e'] rest).map fun rest => (.boolean true, rest)
    | 'f' :: rest => (expect ['a', 'l', 's', 'e'] rest).map fun rest => (.boolean false, rest)
    | '"' :: rest => (readString rest).map fun read => (.text read.1, read.2)
    | '[' :: rest =>
      if depth = 0 then none
      else
        match skipSpace rest with
        | ']' :: rest => some (.list [], rest)
        | rest => (readItems fuel (depth - 1) rest).map fun read => (.list read.1, read.2)
    | '{' :: rest =>
      if depth = 0 then none
      else
        match skipSpace rest with
        | '}' :: rest => some (.table [], rest)
        | rest => (readMembers fuel (depth - 1) [] rest).map fun read => (.table read.1, read.2)
    | rest => readNumber rest

def readItems : (fuel depth : Nat) → List Char → Reading (List Value)
  | 0, _, _ => none
  | fuel + 1, depth, text =>
    match readValue fuel depth text with
    | none => none
    | some (item, rest) =>
      match skipSpace rest with
      | ',' :: rest => (readItems fuel depth rest).map fun read => (item :: read.1, read.2)
      | ']' :: rest => some ([item], rest)
      | _ => none

/-- Reads the members of an object up to its closing brace; `read` holds those before. -/
def readMembers : (fuel depth : Nat) → List (String × Value) → List Char →
    Reading (List (String × Value))
  | 0, _, _, _ => none
  | fuel + 1, depth, read, text =>
    match skipSpace text with
    | '"' :: rest =>
      match readString rest with
      | none => none
      | some (key, rest) =>
        match skipSpace rest with
        | ':' :: rest =>
          match readValue fuel depth rest with
          | none => none
          | some (value, rest) =>
            match skipSpace rest with
            | ',' :: rest => readMembers fuel depth (putEntry key value read) rest
            | '}' :: rest => some (putEntry key value read, rest)
            | _ => none
        | _ => none
    | _ => none

end

/-- How deep lists and objects may be nested. -/
def depthLimit : Nat := 127

def parse? (text : String) : Option Value :=
  match readValue (text.toList.length + 1) depthLimit text.toList with
  | some (value, rest) => if (skipSpace rest).isEmpty then some value else none
  | none => none

end PeerMesh.Settings.Json
