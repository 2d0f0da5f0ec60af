import OrgAccess.Policy.Discriminant
import OrgAccess.Policy.Rule

/-!
# Abilities

An ability is a list of rules in the order of their declaration, with the discriminant by which it
types raw records. The last rule that matches a query decides it, and a query that no rule matches
is denied.
-/

namespace OrgAccess

/-- The rules that hold for one user. -/
structure Ability where
  rules : List Rule
  discriminant : Discriminant := default

namespace Ability

/-- The rule that decides a query: the last that matches. -/
def relevantRule? (ability : Ability) (action : Action) (target : Target) : Option Rule :=
  ability.rules.reverse.find? fun rule => rule.isMatch action target

/-- Whether an action on a target is allowed. -/
def can (ability : Ability) (action : Action) (target : Target) : Bool :=
  match ability.relevantRule? action target with
  | some rule => rule.effect.allows
  | none => false

/-- Whether an action on a target is not allowed. -/
def cannot (ability : Ability) (action : Action) (target : Target) : Bool :=
  !ability.can action target

/-- The rules that speak of an action on a type, their conditions aside. -/
def rulesFor (ability : Ability) (action : Action) (type : SubjectType) : List Rule :=
  ability.rules.filter fun rule => rule.appliesTo action type

/-- The subject that a raw record describes. -/
def resolve (ability : Ability) (record : Json) : Except Fault Subject :=
  ability.discriminant.resolve record

/-- Whether an action on a raw record is allowed, if the record can be typed. -/
def tryCan (ability : Ability) (action : Action) (record : Json) : Except Fault Bool :=
  (ability.resolve record).map fun subject => ability.can action (.record subject)

/-- Whether an action on a raw record is not allowed, if the record can be typed. -/
def tryCannot (ability : Ability) (action : Action) (record : Json) : Except Fault Bool :=
  (ability.tryCan action record).map (!·)

end Ability

end OrgAccess
