import PeerMesh.Text.Shortest

/-!
# Values of settings

What a file of settings may hold. Whole numbers of eight bytes with a sign and other numbers are
kept apart, since they print differently. A value may have a string form, and may stand for yes or
no.
-/

set_option autoImplicit false

namespace PeerMesh.Settings

inductive Value where
  | null
  | boolean (value : Bool)
  | whole (value : Int)
  /-- A binary64 number, by its bits. -/
  | real (bits : UInt64)
  | text (value : String)
  | list (items : List Value)
  | table (entries : List (String × Value))
  deriving Repr, Inhabited

namespace Value

/-- The least number that a word of eight bytes with a sign holds. -/
def leastWhole : Int := -0x8000000000000000

/-- The greatest number that a word of eight bytes with a sign holds. -/
def greatestWhole : Int := 0x7FFFFFFFFFFFFFFF

/-- A whole number as a setting: it stays whole if a word of eight bytes with a sign holds it, and
is the nearest real otherwise. -/
def ofInt (value : Int) : Value :=
  if leastWhole ≤ value ∧ value ≤ greatestWhole then .whole value
  else .real (Float.ofInt value).toBits

mutual

/-- A value of a document as a setting: its whole numbers are taken by `ofInt`. -/
def narrowed : Value → Value
  | .whole value => ofInt value
  | .list items => .list (narrowedItems items)
  | .table entries => .table (narrowedEntries entries)
  | other => other

def narrowedItems : List Value → List Value
  | [] => []
  | item :: rest => item.narrowed :: narrowedItems rest

def narrowedEntries : List (String × Value) → List (String × Value)
  | [] => []
  | (key, value) :: rest => (key, value.narrowed) :: narrowedEntries rest

end

/-- The string form of a value; `null`, lists and tables have none. -/
def string? : Value → Option String
  | .boolean true => some "true"
  | .boolean false => some "false"
  | .whole value => some (toString value)
  | .real bits => some (Text.realText bits)
  | .text value => some value
  | _ => none

def yesWords : List String := ["1", "true", "on", "yes"]

def noWords : List String := ["0", "false", "off", "no"]

/-- A letter in lower case, as far as it matters for comparison with ASCII words: the letters of the
ASCII alphabet, and the Kelvin sign, whose lower case is an ASCII letter. -/
def loweredChar (character : Char) : Char :=
  if character = '\u212A' then 'k' else character.toLower

/-- A text with its letters in lower case, as far as it matters for comparison with ASCII words. -/
def lowered (text : String) : String :=
  String.ofList (text.toList.map loweredChar)

/-- What a value stands for as yes or no. Numbers stand for yes unless they are zero; texts stand
for the words they are, in upper or lower case. -/
def bool? : Value → Option Bool
  | .boolean value => some value
  | .whole value => some (value != 0)
  | .real bits => some (bits <<< 1 != 0)
  | .text value =>
    if yesWords.contains (lowered value) then some true
    else if noWords.contains (lowered value) then some false
    else none
  | _ => none

def items? : Value → Option (List Value)
  | .list items => some items
  | _ => none

def entries? : Value → Option (List (String × Value))
  | .table entries => some entries
  | _ => none

def get? (value : Value) (key : String) : Option Value :=
  value.entries?.bind fun entries => entries.lookup key

end Value

/-- Puts a value under a key, in place of any value there. -/
def putEntry (key : String) (value : Value) : List (String × Value) → List (String × Value)
  | [] => [(key, value)]
  | entry :: rest =>
    if entry.1 = key then (key, value) :: rest else entry :: putEntry key value rest

end PeerMesh.Settings
