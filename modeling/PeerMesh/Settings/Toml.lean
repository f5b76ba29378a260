import PeerMesh.Settings.Value

/-!
# Reading TOML

A TOML text is a sequence of lines: a table header, a key with its value, or nothing, each with an
optional comment. A header opens a table, or one more table of a list; the keys that follow belong
to it. A key may be dotted and then reaches into tables. Nothing may be defined twice: no key, no
table that has had its header, and no table made by dotted keys by a header. Dates and times are
not read.
-/

set_option autoImplicit false

namespace PeerMesh.Settings.Toml

/-- What reading a front part of a text gives: what was read, and the rest. -/
abbrev Reading (α : Type) := Option (α × List Char)

/-! ## Blanks and comments -/

def isBlank (character : Char) : Bool :=
  character == ' ' || character == '\t'

def skipBlanks (text : List Char) : List Char :=
  text.dropWhile isBlank

/-- Whether a character may stand in a comment or a string as it is. -/
def isPlain (character : Char) : Bool :=
  character == '\t' || (0x20 ≤ character.toNat && character.toNat ≠ 0x7F)

/-- The text after a comment, if there is one at its front. -/
def skipComment (text : List Char) : List Char :=
  match text with
  | '#' :: rest => rest.dropWhile isPlain
  | _ => text

def readBreak : List Char → Option (List Char)
  | '\n' :: rest => some rest
  | '\r' :: '\n' :: rest => some rest
  | _ => none

/-- The text after blanks, a comment, and a line break or the end. -/
def finishLine (text : List Char) : Option (List Char) :=
  match skipComment (skipBlanks text) with
  | [] => some []
  | rest => readBreak rest

def skipLines : (fuel : Nat) → List Char → List Char
  | 0, text => text
  | fuel + 1, text =>
    match readBreak (skipComment (skipBlanks text)) with
    | some rest => skipLines fuel rest
    | none => skipComment (skipBlanks text)

/-! ## Strings -/

/-- The character that a letter stands for after a backslash. -/
def escapeLetters : List (Char × Char) :=
  [('b', '\x08'), ('t', '\t'), ('n', '\n'), ('f', '\x0c'), ('r', '\r'), ('"', '"'), ('\\', '\\')]

def hexValue? (character : Char) : Option Nat :=
  if '0' ≤ character ∧ character ≤ '9' then some (character.toNat - '0'.toNat)
  else if 'a' ≤ character ∧ character ≤ 'f' then some (character.toNat - 'a'.toNat + 10)
  else if 'A' ≤ character ∧ character ≤ 'F' then some (character.toNat - 'A'.toNat + 10)
  else none

def readCodePoint (total : Nat) : (digits : Nat) → List Char → Reading Char
  | 0, text => if total.isValidChar then some (Char.ofNat total, text) else none
  | _ + 1, [] => none
  | digits + 1, character :: rest =>
    match hexValue? character with
    | none => none
    | some value => readCodePoint (total * 16 + value) digits rest

def readEscape : List Char → Reading Char
  | 'u' :: rest => readCodePoint 0 4 rest
  | 'U' :: rest => readCodePoint 0 8 rest
  | letter :: rest => (escapeLetters.lookup letter).map fun character => (character, rest)
  | [] => none

/-- Reads the rest of a basic string of one line; `read` holds what was read, last character
first. -/
def readBasicFrom (read : List Char) : (fuel : Nat) → List Char → Reading String
  | 0, _ => none
  | _ + 1, [] => none
  | _ + 1, '"' :: rest => some (String.ofList read.reverse, rest)
  | fuel + 1, '\\' :: rest =>
    match readEscape rest with
    | none => none
    | some (character, rest) => readBasicFrom (character :: read) fuel rest
  | fuel + 1, character :: rest =>
    if isPlain character then readBasicFrom (character :: read) fuel rest else none

def readLiteralFrom (read : List Char) : List Char → Reading String
  | [] => none
  | '\'' :: rest => some (String.ofList read.reverse, rest)
  | character :: rest =>
    if isPlain character then readLiteralFrom (character :: read) rest else none

/-- The number of quotes at the front of a text, up to five, and the rest. -/
def takeQuotes (quote : Char) (text : List Char) : Nat × List Char :=
  let count := min 5 (text.takeWhile (· == quote)).length
  (count, text.drop count)

/-- The text after blanks and line breaks, if there is a line break before anything else. -/
def skipFolded (text : List Char) : Option (List Char) :=
  (readBreak (skipBlanks text)).map fun rest =>
    rest.dropWhile fun character =>
      isBlank character || character == '\n' || character == '\r'

/-- Reads the rest of a string of several lines. Escapes are read if `escapes` is set. -/
def readLongFrom (quote : Char) (escapes : Bool) (read : List Char) :
    (fuel : Nat) → List Char → Reading String
  | 0, _ => none
  | fuel + 1, text =>
    match takeQuotes quote text with
    | (0, []) => none
    | (0, character :: rest) =>
      match readBreak (character :: rest) with
      | some rest => readLongFrom quote escapes ('\n' :: read) fuel rest
      | none =>
        if escapes && character == '\\' then
          match skipFolded rest with
          | some rest => readLongFrom quote escapes read fuel rest
          | none =>
            match readEscape rest with
            | none => none
            | some (escaped, rest) => readLongFrom quote escapes (escaped :: read) fuel rest
        else if isPlain character then readLongFrom quote escapes (character :: read) fuel rest
        else none
    | (count, rest) =>
      if count < 3 then
        readLongFrom quote escapes (List.replicate count quote ++ read) fuel rest
      else some (String.ofList (List.replicate (count - 3) quote ++ read).reverse, rest)

/-- The text after a line break, if one comes first. -/
def skipFirstBreak (text : List Char) : List Char :=
  (readBreak text).getD text

def readShortString : List Char → Reading String
  | '"' :: rest => readBasicFrom [] (rest.length + 1) rest
  | '\'' :: rest => readLiteralFrom [] rest
  | _ => none

def readString : List Char → Reading String
  | '"' :: '"' :: '"' :: rest => readLongFrom '"' true [] (rest.length + 1) (skipFirstBreak rest)
  | '\'' :: '\'' :: '\'' :: rest =>
    readLongFrom '\'' false [] (rest.length + 1) (skipFirstBreak rest)
  | text => readShortString text

/-! ## Keys -/

/-- Whether a character may stand in a key without quotes. -/
def isBare (character : Char) : Bool :=
  character.isAlphanum || character == '_' || character == '-'

def readKeyPart (text : List Char) : Reading String :=
  match text with
  | '"' :: _ => readShortString text
  | '\'' :: _ => readShortString text
  | _ =>
    let name := text.takeWhile isBare
    if name.isEmpty then none else some (String.ofList name, text.drop name.length)

def readKey : (fuel : Nat) → List Char → Reading (List String)
  | 0, _ => none
  | fuel + 1, text =>
    match readKeyPart (skipBlanks text) with
    | none => none
    | some (part, rest) =>
      match skipBlanks rest with
      | '.' :: rest => (readKey fuel rest).map fun read => (part :: read.1, read.2)
      | rest => some ([part], rest)

/-! ## Numbers -/

/-- The value of a row of digits in a base, where underscores stand between digits only.
`afterDigit` tells whether a digit came just before. -/
def digitsValue? (base : Nat) (afterDigit : Bool) (total : Nat) : List Char → Option Nat
  | [] => if afterDigit then some total else none
  | '_' :: rest => if afterDigit then digitsValue? base false total rest else none
  | character :: rest =>
    match (hexValue? character).filter (· < base) with
    | none => none
    | some value => digitsValue? base true (total * base + value) rest

def whole? (token : List Char) : Option Int :=
  match token with
  | '0' :: 'x' :: digits => (digitsValue? 16 false 0 digits).map Int.ofNat
  | '0' :: 'o' :: digits => (digitsValue? 8 false 0 digits).map Int.ofNat
  | '0' :: 'b' :: digits => (digitsValue? 2 false 0 digits).map Int.ofNat
  | _ =>
    let negative := token.head? == some '-'
    let digits := if negative || token.head? == some '+' then token.tail else token
    if digits.head? == some '0' && 1 < digits.length then none
    else
      (digitsValue? 10 false 0 digits).map fun value =>
        if negative then -(value : Int) else value

/-- The real that a sign and a magnitude denote. -/
def signedReal (negative : Bool) (magnitude : Float) : Value :=
  .real (if negative then -magnitude else magnitude).toBits

/-- The whole number of an exponent, after its letter. -/
def exponent? (token : List Char) : Option Int :=
  match token with
  | '-' :: digits => (digitsValue? 10 false 0 digits).map fun value => -(value : Int)
  | '+' :: digits => (digitsValue? 10 false 0 digits).map Int.ofNat
  | digits => (digitsValue? 10 false 0 digits).map Int.ofNat

/-- The real that a token denotes: it has a fraction, an exponent or both, or is a word. -/
def real? (token : List Char) : Option Value :=
  let negative := token.head? == some '-'
  let unsigned := if negative || token.head? == some '+' then token.tail else token
  if unsigned = "inf".toList then some (signedReal negative (1.0 / 0.0))
  else if unsigned = "nan".toList then some (signedReal negative (0.0 / 0.0))
  else do
    let isMark := fun character : Char => character == 'e' || character == 'E'
    let mantissa := unsigned.takeWhile fun character => !isMark character
    let exponent ←
      if mantissa.length = unsigned.length then some 0
      else exponent? (unsigned.drop (mantissa.length + 1))
    let front := mantissa.takeWhile (· != '.')
    let places ←
      if front.length = mantissa.length then some []
      else
        let places := mantissa.drop (front.length + 1)
        (digitsValue? 10 false 0 places).map fun _ => places.filter (· != '_')
    let _ ← if mantissa.length = unsigned.length ∧ front.length = mantissa.length then none
      else some ()
    let _ ← (digitsValue? 10 false 0 front).filter fun _ =>
      !(front.head? == some '0' && 1 < front.length)
    let significand ← digitsValue? 10 true 0 (front.filter (· != '_') ++ places)
    let power := exponent - places.length
    return signedReal negative (Float.ofScientific significand (power < 0) power.natAbs)

def isTokenChar (character : Char) : Bool :=
  character.isAlphanum || character == '_' || character == '-' || character == '+' ||
    character == '.'

def tokenValue? (token : List Char) : Option Value :=
  if token = "true".toList then some (.boolean true)
  else if token = "false".toList then some (.boolean false)
  else
    match whole? token with
    | some value =>
      if Value.leastWhole ≤ value ∧ value ≤ Value.greatestWhole then some (.whole value) else none
    | none => real? token

def readToken (text : List Char) : Reading Value :=
  let token := text.takeWhile isTokenChar
  (tokenValue? token).map fun value => (value, text.drop token.length)

/-! ## Tables under construction -/

/-- How a table came about. -/
inductive Origin where
  /-- On the way to another table's header. -/
  | passing
  /-- By its own header. -/
  | header
  /-- By dotted keys. -/
  | dotted
  deriving DecidableEq, Repr

/-- What stands under a key while a text is being read. -/
inductive Item where
  | value (value : Value)
  | table (origin : Origin) (entries : List (String × Item))
  /-- The tables of a list that is given by headers, the last one first. -/
  | tables (items : List (List (String × Item)))
  deriving Inhabited

abbrev Entries := List (String × Item)

/-- Puts an item under a key, in place of any item there. -/
def put (key : String) (item : Item) : Entries → Entries
  | [] => [(key, item)]
  | entry :: rest => if entry.1 = key then (key, item) :: rest else entry :: put key item rest

/-- Changes the table that a key and the keys before it lead to. Tables on the way are made with the
given origin, and `passes` tells which tables that are there already may be entered. -/
def within (origin : Origin) (passes : Origin → Bool) (change : Entries → Option Entries) :
    List String → Entries → Option Entries
  | [], entries => change entries
  | key :: keys, entries =>
    match entries.lookup key with
    | none =>
      (within origin passes change keys []).map fun inner => put key (.table origin inner) entries
    | some (.table found inner) =>
      if passes found then
        (within origin passes change keys inner).map fun inner =>
          put key (.table found inner) entries
      else none
    | some (.tables (last :: others)) =>
      if passes .header then
        (within origin passes change keys last).map fun last =>
          put key (.tables (last :: others)) entries
      else none
    | some _ => none

def define (key : String) (value : Value) (entries : Entries) : Option Entries :=
  if (entries.lookup key).isSome then none else some (put key (.value value) entries)

/-- Defines a dotted key. Its tables may be new, made by dotted keys, or only passed by headers. -/
def defineDotted (key : List String) (value : Value) (entries : Entries) : Option Entries :=
  match key.getLast? with
  | none => none
  | some last =>
    within .dotted (· != .header) (define last value) key.dropLast entries

def openTable (key : List String) (entries : Entries) : Option Entries :=
  match key.getLast? with
  | none => none
  | some last =>
    within .passing (fun _ => true)
      (fun inner =>
        match inner.lookup last with
        | none => some (put last (.table .header []) inner)
        | some (.table .passing found) => some (put last (.table .header found) inner)
        | some _ => none)
      key.dropLast entries

def openListed (key : List String) (entries : Entries) : Option Entries :=
  match key.getLast? with
  | none => none
  | some last =>
    within .passing (fun _ => true)
      (fun inner =>
        match inner.lookup last with
        | none => some (put last (.tables [[]]) inner)
        | some (.tables items) => some (put last (.tables ([] :: items)) inner)
        | some _ => none)
      key.dropLast entries

mutual

def Item.finished : Item → Value
  | .value value => value
  | .table _ entries => .table (finishedEntries entries)
  | .tables items => .list (finishedTables items).reverse

def finishedEntries : List (String × Item) → List (String × Value)
  | [] => []
  | (key, item) :: rest => (key, item.finished) :: finishedEntries rest

def finishedTables : List (List (String × Item)) → List Value
  | [] => []
  | entries :: rest => .table (finishedEntries entries) :: finishedTables rest

end

/-! ## Values -/

mutual

/-- Reads a value. `fuel` bounds the number of tokens. -/
def readValue : (fuel : Nat) → List Char → Reading Value
  | 0, _ => none
  | fuel + 1, text =>
    match text with
    | '"' :: _ => (readString text).map fun read => (.text read.1, read.2)
    | '\'' :: _ => (readString text).map fun read => (.text read.1, read.2)
    | '[' :: rest => (readItems fuel rest).map fun read => (.list read.1, read.2)
    | '{' :: rest =>
      match skipBlanks rest with
      | '}' :: rest => some (.table [], rest)
      | rest =>
        (readPairs fuel [] rest).map fun read => (.table (finishedEntries read.1), read.2)
    | _ => readToken text

def readItems : (fuel : Nat) → List Char → Reading (List Value)
  | 0, _ => none
  | fuel + 1, text =>
    match skipLines (text.length + 1) text with
    | ']' :: rest => some ([], rest)
    | start =>
      match readValue fuel start with
      | none => none
      | some (item, rest) =>
        match skipLines (rest.length + 1) rest with
        | ',' :: rest => (readItems fuel rest).map fun read => (item :: read.1, read.2)
        | ']' :: rest => some ([item], rest)
        | _ => none

/-- Reads the pairs of a table on one line up to its closing brace; `read` holds those before. -/
def readPairs : (fuel : Nat) → Entries → List Char → Reading Entries
  | 0, _, _ => none
  | fuel + 1, read, text =>
    match readKey (text.length + 1) text with
    | some (key, '=' :: rest) =>
      match readValue fuel (skipBlanks rest) with
      | none => none
      | some (value, rest) =>
        match defineDotted key value read, skipBlanks rest with
        | some read, ',' :: rest => readPairs fuel read rest
        | some read, '}' :: rest => some (read, rest)
        | _, _ => none
    | _ => none

end

/-! ## Documents -/

/-- What has been read of a text. -/
structure Progress where
  entries : Entries
  current : List String

def readHeader (text : List Char) (close : List Char → Option (List Char)) :
    Reading (List String) :=
  match readKey (text.length + 1) text with
  | none => none
  | some (key, rest) => (close rest).map fun rest => (key, rest)

def readStatement (progress : Progress) (text : List Char) : Reading Progress :=
  match text with
  | '[' :: '[' :: rest =>
    match readHeader rest fun rest =>
        match rest with
        | ']' :: ']' :: rest => some rest
        | _ => none with
    | none => none
    | some (key, rest) =>
      (openListed key progress.entries).map fun entries => (⟨entries, key⟩, rest)
  | '[' :: rest =>
    match readHeader rest fun rest =>
        match rest with
        | ']' :: rest => some rest
        | _ => none with
    | none => none
    | some (key, rest) =>
      (openTable key progress.entries).map fun entries => (⟨entries, key⟩, rest)
  | _ =>
    match readKey (text.length + 1) text with
    | some (key, '=' :: rest) =>
      match readValue (rest.length + 1) (skipBlanks rest) with
      | none => none
      | some (value, rest) =>
        (within .passing (fun _ => true) (defineDotted key value) progress.current
          progress.entries).map fun entries => ({ progress with entries }, rest)
    | _ => none

def readLines (progress : Progress) : (fuel : Nat) → List Char → Option Progress
  | 0, _ => none
  | fuel + 1, text =>
    match skipLines (text.length + 1) text with
    | [] => some progress
    | start =>
      match readStatement progress start with
      | none => none
      | some (progress, rest) =>
        match finishLine rest with
        | none => none
        | some rest => readLines progress fuel rest

def parse? (text : String) : Option Value :=
  let characters :=
    match text.toList with
    | '\uFEFF' :: rest => rest
    | all => all
  (readLines ⟨[], []⟩ (characters.length + 1) characters).map fun progress =>
    .table (finishedEntries progress.entries)

end PeerMesh.Settings.Toml
