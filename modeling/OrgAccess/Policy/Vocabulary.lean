import OrgAccess.Text.Case

/-!
# The vocabulary of rules

The closed sets of actions, subject types and roles, their names, and the reading of names in any
case. Actions and subject types are read by lower-casing the text and roles by upper-casing it,
both with the full Unicode tables. `manage` among the actions and `all` among the subject types
are wildcards: in a rule they cover every query.
-/

namespace OrgAccess

/-- What may be done to a subject. -/
inductive Action where
  | manage
  | get
  | create
  | update
  | delete
  | transferOwnership
  | export
deriving DecidableEq, Ord

namespace Action

/-- Every action, in the order of the vocabulary. -/
def all : List Action := [manage, get, create, update, delete, transferOwnership, .export]

/-- The name of an action. -/
def name : Action → String
  | manage => "manage"
  | get => "get"
  | create => "create"
  | update => "update"
  | delete => "delete"
  | transferOwnership => "transfer_ownership"
  | .export => "export"

/-- The action that a text names, in any case. -/
def ofText? (text : String) : Option Action :=
  all.find? fun action => action.name = Text.lowercase text

/-- Whether this is the action that stands for all. -/
def isWildcard (action : Action) : Bool :=
  action = manage

/-- Whether a rule with this action speaks of the queried one. -/
def covers (action queried : Action) : Bool :=
  action.isWildcard || action = queried

end Action

/-- What sort of record a subject is. -/
inductive Kind where
  | user
  | project
  | organization
  | invite
  | billing
deriving DecidableEq, Ord

namespace Kind

/-- Every kind, in the order of the vocabulary. -/
def all : List Kind := [user, project, organization, invite, billing]

/-- The name of a kind. -/
def name : Kind → String
  | user => "User"
  | project => "Project"
  | organization => "Organization"
  | invite => "Invite"
  | billing => "Billing"

/-- The name of a kind in lower case, by which it is read. -/
def keyword : Kind → String
  | user => "user"
  | project => "project"
  | organization => "organization"
  | invite => "invite"
  | billing => "billing"

end Kind

/-- What a rule or a query speaks of: the subjects of one kind, or all subjects. -/
inductive SubjectType where
  | of (kind : Kind)
  | all
deriving DecidableEq, Ord

namespace SubjectType

/-- A kind stands for the type of its subjects. -/
instance : Coe Kind SubjectType := ⟨of⟩

/-- Every subject type, in the order of the vocabulary. -/
def every : List SubjectType := Kind.all.map of ++ [all]

/-- The name of a subject type. -/
def name : SubjectType → String
  | of kind => kind.name
  | all => "all"

/-- The name of a subject type in lower case, by which it is read. -/
def keyword : SubjectType → String
  | of kind => kind.keyword
  | all => "all"

/-- The subject type that a text names, in any case. -/
def ofText? (text : String) : Option SubjectType :=
  every.find? fun type => type.keyword = Text.lowercase text

/-- Whether this is the type that stands for all. -/
def isWildcard (type : SubjectType) : Bool :=
  type = all

/-- Whether a rule on this type speaks of the queried one. -/
def covers (type queried : SubjectType) : Bool :=
  type.isWildcard || type = queried

end SubjectType

/-- What a member is in an organization. -/
inductive Role where
  | admin
  | member
  | billing
deriving DecidableEq, Ord

namespace Role

/-- Every role, in the order of the vocabulary. -/
def all : List Role := [admin, member, billing]

/-- The name of a role. -/
def name : Role → String
  | admin => "ADMIN"
  | member => "MEMBER"
  | billing => "BILLING"

/-- The word for a role in a description of a registry. -/
def label : Role → String
  | admin => "Admin"
  | member => "Member"
  | billing => "Billing"

/-- The role that a text names, in any case. -/
def ofText? (text : String) : Option Role :=
  all.find? fun role => role.name = Text.uppercase text

end Role

/-! ## Laws -/

/-- The list of actions leaves out none. -/
theorem Action.mem_all (action : Action) : action ∈ Action.all := by
  cases action <;> simp [Action.all]

/-- No two actions have one name. -/
theorem Action.name_injective {a b : Action} (h : a.name = b.name) : a = b := by
  cases a <;> cases b <;> simp_all [Action.name]

/-- An action covers another exactly when it is the wildcard or the same. -/
theorem Action.covers_iff (action queried : Action) :
    action.covers queried = true ↔ action = .manage ∨ action = queried := by
  simp [Action.covers, Action.isWildcard]

/-- What covers an action that covers a third one covers the third one. -/
theorem Action.covers_trans {a b c : Action} (hab : a.covers b = true) (hbc : b.covers c = true) :
    a.covers c = true := by
  rcases (a.covers_iff b).1 hab with rfl | rfl
  · exact (covers_iff _ c).2 (.inl rfl)
  · exact hbc

/-- The list of subject types leaves out none. -/
theorem SubjectType.mem_every (type : SubjectType) : type ∈ SubjectType.every := by
  cases type with
  | of kind => cases kind <;> simp [SubjectType.every, Kind.all]
  | all => simp [SubjectType.every]

/-- No two subject types have one name. -/
theorem SubjectType.name_injective {a b : SubjectType} (h : a.name = b.name) : a = b := by
  revert h
  rcases a with (_ | _ | _ | _ | _) | _ <;> rcases b with (_ | _ | _ | _ | _) | _ <;>
    simp [SubjectType.name, Kind.name]

/-- A subject type covers another exactly when it is the wildcard or the same. -/
theorem SubjectType.covers_iff (type queried : SubjectType) :
    type.covers queried = true ↔ type = .all ∨ type = queried := by
  simp [SubjectType.covers, SubjectType.isWildcard]

/-- What covers a type that covers a third one covers the third one. -/
theorem SubjectType.covers_trans {a b c : SubjectType} (hab : a.covers b = true)
    (hbc : b.covers c = true) : a.covers c = true := by
  rcases (a.covers_iff b).1 hab with rfl | rfl
  · exact (covers_iff _ c).2 (.inl rfl)
  · exact hbc

/-- The list of roles leaves out none. -/
theorem Role.mem_all (role : Role) : role ∈ Role.all := by
  cases role <;> simp [Role.all]

/-- No two roles have one name. -/
theorem Role.name_injective {a b : Role} (h : a.name = b.name) : a = b := by
  cases a <;> cases b <;> simp_all [Role.name]

end OrgAccess
