import OrgAccess.Json.Basic
import OrgAccess.Json.Shortest

/-!
# The compact text of a JSON value

No blanks are written. In a string the quote, the backslash and the control characters below the
blank are escaped, the usual ones by a letter and the others by four hexadecimal digits; every
other character is written as it is.
-/

namespace OrgAccess.Json

/-- A hexadecimal digit in lower case. -/
def hexDigit (n : Nat) : Char :=
  if n < 10 then Char.ofNat (48 + n) else Char.ofNat (87 + n)

/-- The characters that stand for one character inside quotes. -/
def quotedChar (c : Char) : List Char :=
  if c = '"' then ['\\', '"']
  else if c = '\\' then ['\\', '\\']
  else if c.toNat = 8 then ['\\', 'b']
  else if c.toNat = 9 then ['\\', 't']
  else if c.toNat = 10 then ['\\', 'n']
  else if c.toNat = 12 then ['\\', 'f']
  else if c.toNat = 13 then ['\\', 'r']
  else if c.toNat < 32 then
    ['\\', 'u', '0', '0', hexDigit (c.toNat / 16), hexDigit (c.toNat % 16)]
  else [c]

/-- A string between quotes. -/
def quoted (text : String) : String :=
  "\"" ++ String.ofList (text.toList.flatMap quotedChar) ++ "\""

/-- A text with a comma between its parts. -/
def commaSeparated (parts : List String) : String :=
  ",".intercalate parts

mutual

/-- The compact text of a value. -/
def text : Json → String
  | null => "null"
  | bool value => if value then "true" else "false"
  | integer value => Int.repr value
  | double value => value.text
  | string text => quoted text
  | array items => "[" ++ commaSeparated (itemTexts items) ++ "]"
  | object members => "\x7b" ++ commaSeparated (memberTexts members) ++ "\x7d"

/-- The texts of the items of an array. -/
def itemTexts : List Json → List String
  | [] => []
  | item :: rest => item.text :: itemTexts rest

/-- The texts of the members of an object, in the order given. -/
def memberTexts : List (String × Json) → List String
  | [] => []
  | (key, value) :: rest => (quoted key ++ ":" ++ value.text) :: memberTexts rest

end

end OrgAccess.Json
