import OrgAccess.Json.Codec
import OrgAccess.Policy.Registry

/-!
# The written forms of the policy

Actions, subject types, roles and effects are written by name, and a rule without a condition has
no such member. A condition is told apart by its member `op`; it is read as a whole, so no part of
it may be unreadable, and it may also be an array that begins with the name of the condition.
-/

namespace OrgAccess

open Json (Document)

/-- An action is written as its name and read from its name. -/
instance : Codec Action :=
  ⟨fun action => .string action.name, Document.named? Action.all Action.name⟩

/-- A subject type is written as its name and read from its name. -/
instance : Codec SubjectType :=
  ⟨fun type => .string type.name, Document.named? SubjectType.every SubjectType.name⟩

/-- A role is written as its name and read from its name. -/
instance : Codec Role :=
  ⟨fun role => .string role.name, Document.named? Role.all Role.name⟩

/-- An effect is written as its name and read from its name. -/
instance : Codec Effect :=
  ⟨fun effect => .string effect.name, Document.named? Effect.all Effect.name⟩

namespace Condition

/-- The member that names the condition. -/
def tagKey : String := "op"

/-- The JSON form of a condition. -/
def toJson : Condition → Json
  | equals field value =>
      Json.record [(tagKey, .string "eq"), ("field", .string field), ("value", value)]
  | differs field value =>
      Json.record [(tagKey, .string "ne"), ("field", .string field), ("value", value)]
  | oneOf field values =>
      Json.record [(tagKey, .string "in"), ("field", .string field), ("values", .array values)]

/-- The condition that its name and its other parts give. -/
def ofParts? (tag : String) (parts : Document) : Option Condition := do
  match tag with
  | "eq" =>
      let fields ← parts.fields? ["field", "value"] 0
      pure (equals (← Document.required? fields "field") (← Document.required? fields "value"))
  | "ne" =>
      let fields ← parts.fields? ["field", "value"] 0
      pure (differs (← Document.required? fields "field") (← Document.required? fields "value"))
  | "in" =>
      let fields ← parts.fields? ["field", "values"] 0
      pure (oneOf (← Document.required? fields "field") (← Document.required? fields "values"))
  | _ => none

/-- The condition that a document spells. -/
def ofDocument? (document : Document) : Option Condition := do
  let _ ← document.value?
  match document.items? with
  | some (tag :: parts) => ofParts? (← tag.string?) (.array parts)
  | some [] => none
  | none =>
      let members ← document.keyedMembers?
      match members.filter fun member => member.1 = tagKey with
      | [(_, tag)] => ofParts? (← tag.string?) document
      | _ => none

end Condition

/-- How conditions are written and read. -/
instance : Codec Condition := ⟨Condition.toJson, Condition.ofDocument?⟩

namespace Rule

/-- The JSON form of a rule. -/
def toJson (rule : Rule) : Json :=
  Json.record <|
    [("effect", Codec.toJson rule.effect), ("actions", Codec.toJson rule.actions),
      ("subject", Codec.toJson rule.subject)]
    ++ (rule.condition.map fun condition => ("condition", condition.toJson)).toList

/-- The rule that a document spells. Repeated actions are kept. -/
def ofDocument? (document : Document) : Option Rule := do
  let fields ← document.fields? ["effect", "actions", "subject", "condition"] 1
  pure
    { effect := ← Document.required? fields "effect"
      actions := ← Document.required? fields "actions"
      subject := ← Document.required? fields "subject"
      condition := ← Document.optional? fields "condition" }

end Rule

/-- How rules are written and read. -/
instance : Codec Rule := ⟨Rule.toJson, Rule.ofDocument?⟩

namespace Principal

/-- The JSON form of a principal. -/
def toJson (principal : Principal) : Json :=
  Json.record [("id", .string principal.id), ("role", Codec.toJson principal.role)]

/-- The principal that a document spells. -/
def ofDocument? (document : Document) : Option Principal := do
  let fields ← document.fields? ["id", "role"] 0
  pure { id := ← Document.required? fields "id", role := ← Document.required? fields "role" }

end Principal

/-- How the users for whom abilities are compiled are written and read. -/
instance : Codec Principal := ⟨Principal.toJson, Principal.ofDocument?⟩

end OrgAccess
