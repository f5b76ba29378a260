import PeerMesh.Settings.Value

/-!
# Keys that reach into values

A key is a path: a name, then names after dots and positions in brackets. A text that is no path
is a key of one name. Names do not distinguish upper and lower case. A value is put under a key by
entering tables and lists on the way, which replace whatever else is there; a table that is put is
merged into what is under the key, and any other value takes its place.
-/

set_option autoImplicit false

namespace PeerMesh.Settings

inductive Step where
  | child (name : String)
  /-- Positions count from zero; negative ones count back from the end. -/
  | item (position : Int)
  deriving DecidableEq, Repr

namespace Key

def isNameChar (character : Char) : Bool :=
  character.isAlphanum || character == ' ' || character == '_' || character == '-'

def isSpace (character : Char) : Bool :=
  character == ' ' || character == '\t'

def readName (text : List Char) : Option (String × List Char) :=
  let name := text.takeWhile isNameChar
  if name.isEmpty then none else some (String.ofList name, text.drop name.length)

def positionLimit : Nat := 0x7FFFFFFFFFFFFFFF

def readPosition (text : List Char) : Option (Int × List Char) :=
  let start := text.dropWhile isSpace
  let negative := start.head? == some '-'
  let unsigned := if negative then start.tail else start
  let digits := unsigned.takeWhile Char.isDigit
  let value := digits.foldl (fun total digit => total * 10 + (digit.toNat - '0'.toNat)) 0
  match digits.isEmpty || positionLimit < value,
      (unsigned.drop digits.length).dropWhile isSpace with
  | false, ']' :: rest => some (if negative then -(value : Int) else value, rest)
  | _, _ => none

def readSteps : (fuel : Nat) → List Char → Option (List Step)
  | _, [] => some []
  | 0, _ => none
  | fuel + 1, '.' :: rest =>
    match readName rest with
    | none => none
    | some (name, rest) => (readSteps fuel rest).map (.child name :: ·)
  | fuel + 1, '[' :: rest =>
    match readPosition rest with
    | none => none
    | some (position, rest) => (readSteps fuel rest).map (.item position :: ·)
  | _ + 1, _ => none

def path (key : String) : List Step :=
  match readName key.toList with
  | none => [.child key]
  | some (name, rest) =>
    match readSteps rest.length rest with
    | none => [.child key]
    | some steps => .child name :: steps

end Key

namespace Value

/-- The entries of a table; any other value counts as an empty table. -/
def tableEntries : Value → List (String × Value)
  | .table entries => entries
  | _ => []

/-- The items of a list; any other value counts as an empty list. -/
def listItems : Value → List Value
  | .list items => items
  | _ => []

mutual

/-- Puts a value under a name of a table: a table is merged into what is there, and any other value
takes its place. -/
def put (target : Value) (name : String) (value : Value) : Value :=
  match value with
  | .table entries =>
    let under := (target.tableEntries.lookup (lowered name)).getD (.table [])
    .table (putEntry (lowered name) (merge under entries) target.tableEntries)
  | other => .table (putEntry (lowered name) other target.tableEntries)

def merge (target : Value) (entries : List (String × Value)) : Value :=
  match entries with
  | [] => target
  | (name, value) :: rest => merge (put target name value) rest

end

/-- The index that a position stands for in a list of the given length. A position before the first
item counts as the first. -/
def indexOf (length : Nat) (position : Int) : Nat :=
  if 0 ≤ position then position.toNat else length - position.natAbs

/-- A list with an item at a position changed, after as many `null` items as it takes to get
there. -/
def changeItem (items : List Value) (position : Int) (change : Value → Value) : List Value :=
  let index := indexOf items.length position
  (items ++ List.replicate (index + 1 - items.length) Value.null).modify index change

def putAt (target : Value) (path : List Step) (value : Value) : Value :=
  match path with
  | [] => value
  | [.child name] => target.put name value
  | .child name :: steps =>
    let under := (target.tableEntries.lookup (lowered name)).getD .null
    .table (putEntry (lowered name) (under.putAt steps value) target.tableEntries)
  | .item position :: steps =>
    .list (changeItem target.listItems position fun item => item.putAt steps value)

def findAt (target : Value) : List Step → Option Value
  | [] => some target
  | .child name :: steps => (target.get? (lowered name)).bind fun found => found.findAt steps
  | .item position :: steps =>
    (target.items?.bind fun items => items[indexOf items.length position]?).bind fun found =>
      found.findAt steps

def putKey (target : Value) (key : String) (value : Value) : Value :=
  target.putAt (Key.path key) value

def findKey (target : Value) (key : String) : Option Value :=
  target.findAt (Key.path key)

end Value

end PeerMesh.Settings
