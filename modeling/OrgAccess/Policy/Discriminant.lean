import OrgAccess.Policy.Subject

/-!
# Typing raw records

A raw record is a JSON value that names its kind in one member, the discriminant. Anything else
about the record says nothing of its kind, and a record without a readable discriminant is a
mismatch and never a guess.
-/

namespace OrgAccess

/-- The member of a raw record that names its kind. -/
structure Discriminant where
  field : String
deriving DecidableEq

namespace Discriminant

/-- The discriminant that is used unless another is chosen. -/
def default : Discriminant := ⟨discriminantKey⟩

/-- The discriminant that is used unless another is given. -/
instance : Inhabited Discriminant := ⟨default⟩

/-- The kind that the members of a record name. -/
def kindOf (discriminant : Discriminant) (members : Json.Members) : Except Fault Kind :=
  match members.get? discriminant.field with
  | none => .error (.typeMismatch (.noDiscriminant discriminant.field))
  | some (.string text) =>
      match SubjectType.ofText? text with
      | some (.of kind) => .ok kind
      | some .all => .error (.typeMismatch .notConcrete)
      | none => .error (.typeMismatch (.unrecognized text))
  | some other =>
      .error (.typeMismatch (.discriminantNotString discriminant.field other.typeName))

/-- The subject that a raw record describes; the discriminant is not among its attributes. -/
def resolve (discriminant : Discriminant) (record : Json) : Except Fault Subject :=
  match record with
  | .object list =>
      let members := Json.Members.ofList list
      match discriminant.kindOf members with
      | .ok kind => .ok ⟨kind, members.erase discriminant.field⟩
      | .error fault => .error fault
  | other => .error (.typeMismatch (.notObject other.typeName))

end Discriminant

end OrgAccess
