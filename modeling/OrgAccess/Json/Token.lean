import OrgAccess.Json.Numeral

/-!
# JSON tokens

The characters of a JSON text are read one by one by a machine that is between tokens or inside
one. Strings and numbers that are well formed but cannot be read as values give tokens without a
value.
-/

namespace OrgAccess.Json

/-- A token of a JSON text. -/
inductive Token where
  | openArray
  | closeArray
  | openObject
  | closeObject
  | colon
  | comma
  | string (text : Option String)
  | scalar (value : Option Json)

namespace Token

/-- A string that is being read: its characters, last first, the first half of a surrogate pair
that waits for the other, and whether all of it can be read. -/
structure Literal where
  chars : List Char
  half : Option Nat
  readable : Bool

namespace Literal

/-- A string of which nothing has been read. -/
def start : Literal := ⟨[], none, true⟩

/-- A string in which a waiting half of a pair has been given up. -/
def settle (literal : Literal) : Literal :=
  { literal with half := none, readable := literal.readable && literal.half.isNone }

/-- A string with one more character. -/
def push (literal : Literal) (c : Char) : Literal :=
  let settled := literal.settle
  { settled with chars := c :: settled.chars }

/-- A string with one more unit of sixteen bits. -/
def pushUnit (literal : Literal) (unit : Nat) : Literal :=
  if 0xDC00 ≤ unit ∧ unit < 0xE000 then
    match literal.half with
    | some half =>
        let code := 0x10000 + (half - 0xD800) * 0x400 + (unit - 0xDC00)
        { literal with chars := Char.ofNat code :: literal.chars, half := none }
    | none => { literal with readable := false }
  else if 0xD800 ≤ unit ∧ unit < 0xDC00 then
    { literal.settle with half := some unit }
  else
    literal.push (Char.ofNat unit)

/-- The token of a string that has ended. -/
def token (literal : Literal) : Token :=
  let settled := literal.settle
  .string (if settled.readable then some (String.ofList settled.chars.reverse) else none)

end Literal

/-- Where a reader of characters stands. -/
inductive Place where
  | between
  | word (chars : List Char)
  | numeral (chars : List Char)
  | inString (literal : Literal)
  | escape (literal : Literal)
  | unit (literal : Literal) (missing : Nat) (code : Nat)

/-- A reader of characters: where it stands, and the tokens read, last first. -/
structure Scanner where
  place : Place
  tokens : List Token

/-- The characters that may stand between tokens. -/
def isSpace (c : Char) : Bool :=
  c = ' ' || c = '\n' || c = '\t' || c = '\r'

/-- The characters that a numeral is made of. -/
def isNumeralChar (c : Char) : Bool :=
  c.isDigit || c = '+' || c = '-' || c = '.' || c = 'e' || c = 'E'

/-- The value of a hexadecimal digit of either case. -/
def hexValue? (c : Char) : Option Nat :=
  if c.isDigit then some (c.toNat - '0'.toNat)
  else if 'a' ≤ c ∧ c ≤ 'f' then some (c.toNat - 'a'.toNat + 10)
  else if 'A' ≤ c ∧ c ≤ 'F' then some (c.toNat - 'A'.toNat + 10)
  else none

/-- The token of a word. -/
def ofWord? (chars : List Char) : Option Token :=
  if chars = ['n', 'u', 'l', 'l'] then some (.scalar (some .null))
  else if chars = ['t', 'r', 'u', 'e'] then some (.scalar (some (.bool true)))
  else if chars = ['f', 'a', 'l', 's', 'e'] then some (.scalar (some (.bool false)))
  else none

/-- The character that a letter after a backslash stands for. -/
def escaped? (c : Char) : Option Char :=
  match c with
  | '"' => some '"'
  | '\\' => some '\\'
  | '/' => some '/'
  | 'b' => some (Char.ofNat 8)
  | 'f' => some (Char.ofNat 12)
  | 'n' => some '\n'
  | 'r' => some '\r'
  | 't' => some '\t'
  | _ => none

namespace Scanner

/-- A reader at the start of a text. -/
def start : Scanner := ⟨.between, []⟩

/-- A character between tokens. -/
def stepBetween? (tokens : List Token) (c : Char) : Option Scanner :=
  match c with
  | '[' => some ⟨.between, .openArray :: tokens⟩
  | ']' => some ⟨.between, .closeArray :: tokens⟩
  | '\x7b' => some ⟨.between, .openObject :: tokens⟩
  | '\x7d' => some ⟨.between, .closeObject :: tokens⟩
  | ':' => some ⟨.between, .colon :: tokens⟩
  | ',' => some ⟨.between, .comma :: tokens⟩
  | '"' => some ⟨.inString .start, tokens⟩
  | _ =>
      if isSpace c then some ⟨.between, tokens⟩
      else if c = '-' ∨ c.isDigit then some ⟨.numeral [c], tokens⟩
      else if c.isLower then some ⟨.word [c], tokens⟩
      else none

/-- One more character. A word or a numeral ends at the first character that is not part of it. -/
def step? (scanner : Scanner) (c : Char) : Option Scanner :=
  match scanner.place with
  | .between => stepBetween? scanner.tokens c
  | .word chars =>
      if c.isLower then some { scanner with place := .word (c :: chars) }
      else (ofWord? chars.reverse).bind fun token => stepBetween? (token :: scanner.tokens) c
  | .numeral chars =>
      if isNumeralChar c then some { scanner with place := .numeral (c :: chars) }
      else (Numeral.ofChars? chars.reverse).bind fun n =>
        stepBetween? (.scalar n.toJson? :: scanner.tokens) c
  | .inString literal =>
      if c = '"' then some ⟨.between, literal.token :: scanner.tokens⟩
      else if c = '\\' then some { scanner with place := .escape literal }
      else if c.toNat < 32 then none
      else some { scanner with place := .inString (literal.push c) }
  | .escape literal =>
      if c = 'u' then some { scanner with place := .unit literal 4 0 }
      else (escaped? c).map fun char => { scanner with place := .inString (literal.push char) }
  | .unit literal missing code =>
      (hexValue? c).map fun digit =>
        { scanner with
          place := if missing ≤ 1 then .inString (literal.pushUnit (code * 16 + digit))
            else .unit literal (missing - 1) (code * 16 + digit) }

/-- The tokens at the end of a text, in order. A blank after the text changes nothing and ends a
last word or numeral. -/
def finish? (scanner : Scanner) : Option (List Token) :=
  match scanner.step? ' ' with
  | some ⟨.between, tokens⟩ => some tokens.reverse
  | _ => none

end Scanner

/-- The tokens of a text, if it is made of tokens. -/
def ofChars? (cs : List Char) : Option (List Token) :=
  (cs.foldlM Scanner.step? .start).bind Scanner.finish?

end Token

end OrgAccess.Json
