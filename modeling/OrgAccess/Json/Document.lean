import OrgAccess.Json.Members

/-!
# JSON documents

A document is a JSON text after it has been found well formed. It keeps what a value forgets: keys
that are written twice, and the parts that cannot be read as values (a number that is not finite,
half of a surrogate pair, nesting that is too deep). Such parts do no harm where they are skipped,
so a record can be decoded from a document with an unreadable member that the record does not
have. Every value is a document (`Document.value`), and `value?_value` says that it is read back.
-/

namespace OrgAccess.Json

/-- A well-formed JSON text. -/
inductive Document where
  | value (json : Json)
  | unreadable
  | array (items : List Document)
  | object (members : List (Option String × Document))

namespace Document

mutual

/-- The value of a document, if all of it can be read. The last value of a repeated key stays. -/
def value? : Document → Option Json
  | .value json => some json
  | .unreadable => none
  | .array items => (itemValues? items).map .array
  | .object members => (memberValues? members).map fun list => (Members.ofList list).toJson

/-- The values of the items of an array, if all can be read. -/
def itemValues? : List Document → Option (List Json)
  | [] => some []
  | item :: rest =>
      match item.value?, itemValues? rest with
      | some json, some list => some (json :: list)
      | _, _ => none

/-- The members of an object with their values, if all can be read. -/
def memberValues? : List (Option String × Document) → Option (List (String × Json))
  | [] => some []
  | (key, member) :: rest =>
      match key, member.value?, memberValues? rest with
      | some text, some json, some list => some ((text, json) :: list)
      | _, _, _ => none

end

/-- A document that is a value is read as it. -/
@[simp] theorem value?_value (json : Json) : (Document.value json).value? = some json := rfl

/-- The text of a document that is a readable string. -/
def string? : Document → Option String
  | .value (.string text) => some text
  | _ => none

/-- The items of a document that is an array. -/
def items? : Document → Option (List Document)
  | .value (.array items) => some (items.map .value)
  | .array items => some items
  | _ => none

/-- The members of a document that is an object, as they are written. -/
def members? : Document → Option (List (Option String × Document))
  | .value (.object members) => some (members.map fun member => (some member.1, .value member.2))
  | .object members => some members
  | _ => none

/-- Whether a document is `null`. -/
def isNull : Document → Bool
  | .value .null => true
  | _ => false

/-- The members of a document that is an object with readable keys. -/
def keyedMembers? (document : Document) : Option (List (String × Document)) := do
  let members ← document.members?
  members.mapM fun (key, member) => key.map fun key => (key, member)

end Document

end OrgAccess.Json
