import OrgAccess.Json.Members
import OrgAccess.Json.Printer
import OrgAccess.Policy.Fault

/-!
# Subjects

A subject is a record that is checked: a kind and the attributes that conditions read. A query is
put to a target, which is a subject or the bare tag of a subject type.
-/

namespace OrgAccess

/-- The attribute that names the owner. -/
def ownerIdKey : String := "ownerId"

/-- The member that names the kind of a record, unless another is chosen. -/
def discriminantKey : String := "__type"

/-- A record that is checked. -/
structure Subject where
  kind : Kind
  attributes : Json.Members

namespace Subject

/-- The subject of a kind without attributes. -/
def bare (kind : Kind) : Subject := ⟨kind, .empty⟩

/-- The value of an attribute. -/
def attribute? (subject : Subject) (key : String) : Option Json :=
  subject.attributes.get? key

/-- The subject with one attribute set. -/
def withAttribute (subject : Subject) (key : String) (value : Json) : Subject :=
  { subject with attributes := subject.attributes.insert key value }

/-- The subject of a kind with an owner. -/
def ownedBy (kind : Kind) (owner : String) : Subject :=
  (bare kind).withAttribute ownerIdKey (.string owner)

/-- The owner, if the attribute is there and is a string. -/
def ownerId? (subject : Subject) : Option String :=
  (subject.attribute? ownerIdKey).bind Json.string?

/-- The subject of a type without attributes; `all` is not a type that a subject has. -/
def ofType : SubjectType → Except Fault Subject
  | .of kind => .ok (bare kind)
  | .all => .error (.typeMismatch .notConcrete)

/-- The members that a subject is written with: its kind first, then its attributes. An attribute
may repeat the key of the kind. -/
def members (subject : Subject) : List (String × Json) :=
  (discriminantKey, .string subject.kind.name) :: subject.attributes.entries

/-- The JSON value of a subject. An attribute with the key of the kind takes its place. -/
def toJson (subject : Subject) : Json :=
  (Json.Members.ofList subject.members).toJson

/-- The JSON text of a subject, with all its members. -/
def text (subject : Subject) : String :=
  (Json.object subject.members).text

/-! ## Laws -/

/-- Setting an attribute changes that attribute alone. -/
theorem attribute?_withAttribute (subject : Subject) (key other : String) (value : Json) :
    (subject.withAttribute key value).attribute? other =
      if other = key then some value else subject.attribute? other :=
  Json.Members.get?_insert subject.attributes key other value

/-- Setting an attribute leaves the kind as it is. -/
@[simp] theorem kind_withAttribute (subject : Subject) (key : String) (value : Json) :
    (subject.withAttribute key value).kind = subject.kind := rfl

/-- A bare subject has no attributes. -/
@[simp] theorem attribute?_bare (kind : Kind) (key : String) :
    (bare kind).attribute? key = none := rfl

/-- Subjects of one kind with the same attributes are equal. -/
theorem ext {a b : Subject} (hkind : a.kind = b.kind)
    (hattributes : ∀ key, a.attribute? key = b.attribute? key) : a = b := by
  obtain ⟨ka, as⟩ := a
  obtain ⟨kb, bs⟩ := b
  have hk : ka = kb := hkind
  have hs : as = bs := Json.Members.ext hattributes
  rw [hk, hs]

end Subject

/-- What a query is about. -/
inductive Target where
  | tag (type : SubjectType)
  | record (subject : Subject)

namespace Target

/-- The type that is asked about. -/
def subjectType : Target → SubjectType
  | tag type => type
  | record subject => subject.kind

/-- The subject, if there is one. -/
def subject? : Target → Option Subject
  | tag _ => none
  | record subject => some subject

end Target

end OrgAccess
