import OrgAccess.Json.Document
import OrgAccess.Json.Token

/-!
# Reading a JSON text

The tokens of a text are put together by a machine with a stack of open containers. A container
that is nested too deep is well formed but cannot be read as a value.
-/

namespace OrgAccess.Json

/-- The number of containers that may be nested in one another and still be read. -/
def nestingLimit : Nat := 127

namespace Document

/-- A container that is still open, with its parts, last first. An object also has the key that
was read last. -/
inductive Frame where
  | array (items : List Document)
  | object (members : List (Option String × Document)) (key : Option String)

/-- What may come next. -/
inductive Expected where
  | value
  | valueOrClose
  | key
  | keyOrClose
  | colon
  | commaOrClose
  | nothing (document : Document)

/-- A reader of tokens: the open containers, innermost first, and what may come next. -/
structure Assembler where
  stack : List Frame
  expected : Expected

namespace Assembler

/-- A reader before the first token. -/
def start : Assembler := ⟨[], .value⟩

/-- The reader after a part of the innermost container is complete. -/
def deliver (stack : List Frame) (document : Document) : Assembler :=
  match stack with
  | [] => ⟨[], .nothing document⟩
  | .array items :: outer => ⟨.array (document :: items) :: outer, .commaOrClose⟩
  | .object members key :: outer =>
      ⟨.object ((key, document) :: members) key :: outer, .commaOrClose⟩

/-- The reader after the innermost container is closed. -/
def close (stack : List Frame) (document : Document) : Assembler :=
  deliver (stack.drop 1) (if stack.length ≤ nestingLimit then document else .unreadable)

/-- The reader after a token that starts or is a value. -/
def takeValue? (stack : List Frame) : Token → Option Assembler
  | .openArray => some ⟨.array [] :: stack, .valueOrClose⟩
  | .openObject => some ⟨.object [] none :: stack, .keyOrClose⟩
  | .string text => some (deliver stack ((text.map fun t => .value (.string t)).getD .unreadable))
  | .scalar json => some (deliver stack ((json.map .value).getD .unreadable))
  | _ => none

/-- The reader after a key. -/
def takeKey? (stack : List Frame) : Token → Option Assembler
  | .string text =>
      match stack with
      | .object members _ :: outer => some ⟨.object members text :: outer, .colon⟩
      | _ => none
  | _ => none

/-- The reader after a closing bracket that fits the innermost container. -/
def takeClose? (stack : List Frame) : Token → Option Assembler
  | .closeArray =>
      match stack with
      | .array items :: _ => some (close stack (.array items.reverse))
      | _ => none
  | .closeObject =>
      match stack with
      | .object members _ :: _ => some (close stack (.object members.reverse))
      | _ => none
  | _ => none

/-- The reader after a comma between the parts of a container. -/
def takeComma? (stack : List Frame) : Token → Option Assembler
  | .comma =>
      match stack with
      | .array _ :: _ => some ⟨stack, .value⟩
      | .object _ _ :: _ => some ⟨stack, .key⟩
      | [] => none
  | _ => none

/-- One more token. -/
def step? (assembler : Assembler) (token : Token) : Option Assembler :=
  let stack := assembler.stack
  match assembler.expected with
  | .value => takeValue? stack token
  | .valueOrClose => (takeClose? stack token).or (takeValue? stack token)
  | .key => takeKey? stack token
  | .keyOrClose => (takeClose? stack token).or (takeKey? stack token)
  | .colon =>
      match token with
      | .colon => some ⟨stack, .value⟩
      | _ => none
  | .commaOrClose => (takeClose? stack token).or (takeComma? stack token)
  | .nothing _ => none

/-- The document after the last token. -/
def finish? (assembler : Assembler) : Option Document :=
  match assembler.expected with
  | .nothing document => some document
  | _ => none

end Assembler

/-- The document that tokens spell. -/
def ofTokens? (tokens : List Token) : Option Document :=
  (tokens.foldlM Assembler.step? .start).bind Assembler.finish?

/-- The document that a text spells, if the text is well formed. -/
def parse? (text : String) : Option Document :=
  (Token.ofChars? text.toList).bind ofTokens?

end Document

end OrgAccess.Json
