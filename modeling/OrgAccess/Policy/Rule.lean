import OrgAccess.Policy.Condition

/-!
# Rules

A rule grants or denies some actions on a subject type, perhaps only where a condition holds. A
rule with a condition never speaks of a bare type, since there is no subject to read.
-/

namespace OrgAccess

/-- What a rule says of the queries that it matches. -/
inductive Effect where
  | grant
  | deny
deriving DecidableEq

namespace Effect

/-- Both effects. -/
def all : List Effect := [grant, deny]

/-- The name of an effect. -/
def name : Effect → String
  | grant => "grant"
  | deny => "deny"

/-- Whether the effect is to allow. -/
def allows (effect : Effect) : Bool :=
  effect = grant

end Effect

/-- One entry of an ability. -/
structure Rule where
  effect : Effect
  actions : List Action
  subject : SubjectType
  condition : Option Condition

namespace Rule

/-- The list without its repetitions: each action stays where it is first. -/
def distinct (actions : List Action) : List Action :=
  actions.foldl (fun kept action => if kept.contains action then kept else kept ++ [action]) []

/-- The rule without a condition. Repeated actions are dropped. -/
def of (effect : Effect) (actions : List Action) (subject : SubjectType) : Rule :=
  ⟨effect, distinct actions, subject, none⟩

/-- The rule with a condition. -/
def withCondition (rule : Rule) (condition : Condition) : Rule :=
  { rule with condition := some condition }

/-- The rule that grants some actions. -/
def can (actions : List Action) (subject : SubjectType) : Rule :=
  of .grant actions subject

/-- The rule that denies some actions. -/
def cannot (actions : List Action) (subject : SubjectType) : Rule :=
  of .deny actions subject

/-- The rule that grants some actions where a condition holds. -/
def canIf (actions : List Action) (subject : SubjectType) (condition : Condition) : Rule :=
  (can actions subject).withCondition condition

/-- The rule that denies some actions where a condition holds. -/
def cannotIf (actions : List Action) (subject : SubjectType) (condition : Condition) : Rule :=
  (cannot actions subject).withCondition condition

/-- Whether the rule denies. -/
def isInverted (rule : Rule) : Bool :=
  rule.effect = .deny

/-- Whether the rule has a condition. -/
def isConditional (rule : Rule) : Bool :=
  rule.condition.isSome

/-- Whether the rule speaks of an action on a type, its condition aside. -/
def appliesTo (rule : Rule) (action : Action) (type : SubjectType) : Bool :=
  rule.subject.covers type && rule.actions.any fun listed => listed.covers action

/-- Whether a condition, if there is one, holds of a target. -/
def conditionHolds (condition : Option Condition) (target : Target) : Bool :=
  match condition, target.subject? with
  | none, _ => true
  | some _, none => false
  | some condition, some subject => condition.isMatch subject

/-- Whether the rule matches a query: it speaks of the action on the target's type, and its
condition holds of the target. -/
def isMatch (rule : Rule) (action : Action) (target : Target) : Bool :=
  rule.appliesTo action target.subjectType && conditionHolds rule.condition target

end Rule

end OrgAccess
