import PeerMesh.Text.Printable

/-!
# Quoted text

A text is quoted between double quotes. A double quote, a backslash, and the characters NUL, tab,
line feed and carriage return are written with a backslash and a letter; any other unprintable
character is written by its code point in hexadecimal. Lists of quoted texts stand in brackets.
-/

set_option autoImplicit false

namespace PeerMesh.Text

def quotedChar (character : Char) : String :=
  if character = '"' then "\\\""
  else if character = '\\' then "\\\\"
  else if character = '\x00' then "\\0"
  else if character = '\t' then "\\t"
  else if character = '\n' then "\\n"
  else if character = '\r' then "\\r"
  else if isPrintable character then String.singleton character
  else "\\u\x7b" ++ String.ofList (Nat.toDigits 16 character.toNat) ++ "\x7d"

def quoted (text : String) : String :=
  "\"" ++ String.join (text.toList.map quotedChar) ++ "\""

/-- Printed items in brackets, separated by commas. -/
def bracketed (items : List String) : String :=
  "[" ++ String.intercalate ", " items ++ "]"

end PeerMesh.Text
