import OrgAccess.Instant.Text
import OrgAccess.Json.Document
import OrgAccess.Uuid

/-!
# Written forms

`Codec` gives a type its JSON form and the reading of it. Reading accepts more than writing makes:
a record may also be an array of its fields in order, a member that the record does not have is
skipped, an absent optional member is none, and a name may be the one key of an object whose value
is null. A member that the record has must not be written twice.
-/

namespace OrgAccess

open Json (Document)

/-- A type with a JSON form. -/
class Codec (α : Type) where
  toJson : α → Json
  ofDocument? : Document → Option α

/-- The value that a JSON value is the form of. -/
def Codec.ofJson? {α : Type} [Codec α] (json : Json) : Option α :=
  ofDocument? (.value json)

/-- A value is written as it is, and read from any document that is a value. -/
instance : Codec Json := ⟨id, Document.value?⟩

/-- A text is written as a string, and read from nothing else. -/
instance : Codec String := ⟨.string, Document.string?⟩

/-- An identifier is written as its text, and read from any text that spells one. -/
instance : Codec Uuid := ⟨fun id => .string id.text, fun d => d.string?.bind Uuid.ofText?⟩

/-- An instant is written as a timestamp, and read from any text that tells one. -/
instance : Codec Instant :=
  ⟨fun instant => .string instant.text, fun d => d.string?.bind Instant.ofText?⟩

/-- Nothing is written as null, and null is read as nothing. -/
instance {α : Type} [Codec α] : Codec (Option α) where
  toJson value := (value.map Codec.toJson).getD .null
  ofDocument? document :=
    if document.isNull then some none else (Codec.ofDocument? document).map some

/-- A list is written as the array of its elements, and read only if each of them is. -/
instance {α : Type} [Codec α] : Codec (List α) where
  toJson values := .array (values.map Codec.toJson)
  ofDocument? document := document.items?.bind fun items => items.mapM Codec.ofDocument?

namespace Json

/-- The object with the listed members. -/
def record (members : List (String × Json)) : Json :=
  (Members.ofList members).toJson

namespace Document

/-- The name that a document spells: a string, or an object whose one member is null. -/
def name? (document : Document) : Option String :=
  match document.string?, document.keyedMembers? with
  | some text, _ => some text
  | none, some [(key, member)] => if member.isNull then some key else none
  | none, _ => none

/-- The element of a list with the name that a document spells. -/
def named? {α : Type} (all : List α) (name : α → String) (document : Document) : Option α :=
  document.name?.bind fun text => all.find? fun a => name a = text

/-- The fields of a record that a document gives, by name. In an array the last `optional` fields
may be left out. -/
def fields? (names : List String) (optional : Nat) (document : Document) :
    Option (List (String × Document)) :=
  match document.items? with
  | some items =>
      if items.length ≤ names.length ∧ names.length ≤ items.length + optional then
        some (names.zip items)
      else none
  | none =>
      document.keyedMembers?.bind fun members =>
        let known := members.filter fun member => names.contains member.1
        if (known.map Prod.fst).Nodup then some known else none

/-- A field that a record must have. -/
def required? {α : Type} [Codec α] (fields : List (String × Document)) (name : String) : Option α :=
  (fields.lookup name).bind Codec.ofDocument?

/-- A field that a record may do without. -/
def optional? {α : Type} [Codec α] (fields : List (String × Document)) (name : String) :
    Option (Option α) :=
  match fields.lookup name with
  | some document => Codec.ofDocument? document
  | none => some none

end Document

end Json

end OrgAccess
