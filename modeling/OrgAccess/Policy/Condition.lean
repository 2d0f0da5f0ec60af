import OrgAccess.Policy.Subject

/-!
# Conditions

A condition reads one attribute of a subject. A subject without that attribute fulfils no
condition, not even one of difference (`isMatch_of_attribute?_eq_none`).
-/

namespace OrgAccess

/-- A condition on one attribute. -/
inductive Condition where
  | equals (field : String) (value : Json)
  | differs (field : String) (value : Json)
  | oneOf (field : String) (values : List Json)

namespace Condition

/-- The condition that a user owns the subject. -/
def ownedBy (user : String) : Condition :=
  equals ownerIdKey (.string user)

/-- The attribute that a condition reads. -/
def field : Condition → String
  | equals field _ | differs field _ | oneOf field _ => field

/-- Whether a condition accepts the value of its attribute. -/
def accepts (condition : Condition) (actual : Json) : Bool :=
  match condition with
  | equals _ value => actual == value
  | differs _ value => actual != value
  | oneOf _ values => values.contains actual

/-- Whether a subject has the attribute and the condition accepts its value. -/
def isMatch (condition : Condition) (subject : Subject) : Bool :=
  match subject.attribute? condition.field with
  | some actual => condition.accepts actual
  | none => false

/-! ## Laws -/

/-- A subject without the attribute does not fulfil the condition. -/
theorem isMatch_of_attribute?_eq_none {condition : Condition} {subject : Subject}
    (h : subject.attribute? condition.field = none) : condition.isMatch subject = false := by
  simp [isMatch, h]

/-- A condition is fulfilled exactly when it accepts the value of an attribute that is there. -/
theorem isMatch_iff (condition : Condition) (subject : Subject) :
    condition.isMatch subject = true ↔
      ∃ actual, subject.attribute? condition.field = some actual ∧
        condition.accepts actual = true := by
  rw [isMatch]
  cases subject.attribute? condition.field <;> simp

end Condition

end OrgAccess
