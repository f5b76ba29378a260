/-!
# Whole numbers written in decimal

A numeral is a non-empty row of ASCII digits, after an optional plus sign. It is read from left to
right against a greatest value, and the first character that is no digit, or whose digit carries the
value past the limit, decides which fault is reported.
-/

set_option autoImplicit false

namespace PeerMesh.Text

/-- Why a text is no numeral for a limited number. -/
inductive NumeralFault where
  | empty
  | invalidDigit
  | tooLarge
  deriving DecidableEq, Repr

def NumeralFault.message : NumeralFault → String
  | .empty => "cannot parse integer from empty string"
  | .invalidDigit => "invalid digit found in string"
  | .tooLarge => "number too large to fit in target type"

def decimalDigit? (character : Char) : Option Nat :=
  if '0' ≤ character ∧ character ≤ '9' then some (character.toNat - '0'.toNat) else none

/-- Reads the remaining digits after those that make up `value`. -/
def readDigits (limit value : Nat) : List Char → Except NumeralFault Nat
  | [] => .ok value
  | character :: rest =>
    match decimalDigit? character with
    | none => .error .invalidDigit
    | some digit =>
      if limit < value * 10 + digit then .error .tooLarge
      else readDigits limit (value * 10 + digit) rest

/-- The number that a text denotes, at most `limit`. -/
def readNumeral (limit : Nat) (text : String) : Except NumeralFault Nat :=
  match text.toList with
  | [] => .error .empty
  | ['+'] => .error .invalidDigit
  | '+' :: digits => readDigits limit 0 digits
  | digits => readDigits limit 0 digits

def portLimit : Nat := 0xFFFF

/-- The greatest number of eight bytes. -/
def wordLimit : Nat := 0xFFFFFFFFFFFFFFFF

end PeerMesh.Text
