import OrgAccess.Tenant.Membership
import OrgAccess.Tenant.Organization

/-!
# Events

What the library reports while it works, each with a level, a message and named fields. Checks are
traced, denials are warnings, and every completed change is reported once with its actor and the
record it was done to.
-/

namespace OrgAccess

/-- How much an event matters. -/
inductive Level where
  | trace
  | debug
  | info
  | warn
  | error
deriving DecidableEq

namespace Level

/-- The name of a level. -/
def name : Level → String
  | trace => "trace"
  | debug => "debug"
  | info => "info"
  | warn => "warn"
  | error => "error"

end Level

/-- Something that is reported. -/
inductive Event where
  | abilityCompiled (userId : String) (role : Role) (rules : Nat)
  | noPermissions (userId : String) (role : Role)
  | abilityChecked (action : Action) (subject : SubjectType) (allowed : Bool)
  | notMember (actor : Uuid) (organization : OrganizationRef)
  | abilityResolved (actor organization : Uuid) (role : Role)
  | checkDenied (actor organization : Uuid) (action : Action) (subject : SubjectType)
  | organizationUpdated (actor organization : Uuid)
  | organizationShutDown (actor organization : Uuid)
  | memberPromoted (organization member : Uuid) (previous : Role)
  | ownershipTransferred (actor organization previous next : Uuid)
  | projectCreated (actor project : Uuid)
  | projectUpdated (actor project : Uuid)
  | projectDeleted (actor project : Uuid)
  | inviteCreated (actor invite : Uuid) (role : Role)
  | inviteRevoked (actor invite : Uuid)
deriving DecidableEq

namespace Event

/-- The level of an event. -/
def level : Event → Level
  | abilityChecked _ _ _ => .trace
  | abilityCompiled _ _ _ | abilityResolved _ _ _ => .debug
  | noPermissions _ _ => .error
  | notMember _ _ | checkDenied _ _ _ _ => .warn
  | organizationUpdated _ _ | organizationShutDown _ _ | memberPromoted _ _ _
  | ownershipTransferred _ _ _ _ | projectCreated _ _ | projectUpdated _ _ | projectDeleted _ _
  | inviteCreated _ _ _ | inviteRevoked _ _ => .info

/-- The message of an event. -/
def message : Event → String
  | abilityCompiled _ _ _ => "ability compiled"
  | noPermissions _ _ => "no permission function for role"
  | abilityChecked _ _ _ => "ability check"
  | notMember _ _ => "Actor is not a member"
  | abilityResolved _ _ _ => "Ability resolved"
  | checkDenied _ _ _ _ => "Ability check denied"
  | organizationUpdated _ _ => "Organization updated"
  | organizationShutDown _ _ => "Organization shut down"
  | memberPromoted _ _ _ => "Member promoted to admin for ownership"
  | ownershipTransferred _ _ _ _ => "Ownership transferred"
  | projectCreated _ _ => "Project created"
  | projectUpdated _ _ => "Project updated"
  | projectDeleted _ _ => "Project deleted"
  | inviteCreated _ _ _ => "Invite created"
  | inviteRevoked _ _ => "Invite revoked"

/-- The fields of an event, by name. -/
def fields : Event → List (String × String)
  | abilityCompiled userId role rules =>
      [("user_id", userId), ("role", role.name), ("rules", rules.repr)]
  | noPermissions userId role => [("user_id", userId), ("role", role.name)]
  | abilityChecked action subject allowed =>
      [("action", action.name), ("subject", subject.name),
        ("allowed", if allowed then "true" else "false")]
  | notMember actor organization =>
      [("actor", actor.text), ("organization", organization.text)]
  | abilityResolved actor organization role =>
      [("actor", actor.text), ("organization", organization.text), ("role", role.name)]
  | checkDenied actor organization action subject =>
      [("actor", actor.text), ("organization", organization.text), ("action", action.name),
        ("subject", subject.name)]
  | organizationUpdated actor organization | organizationShutDown actor organization =>
      [("actor", actor.text), ("organization", organization.text)]
  | memberPromoted organization member previous =>
      [("organization", organization.text), ("member", member.text), ("from", previous.name)]
  | ownershipTransferred actor organization previous next =>
      [("actor", actor.text), ("organization", organization.text), ("from", previous.text),
        ("to", next.text)]
  | projectCreated actor project | projectUpdated actor project | projectDeleted actor project =>
      [("actor", actor.text), ("project", project.text)]
  | inviteCreated actor invite role =>
      [("actor", actor.text), ("invite", invite.text), ("role", role.name)]
  | inviteRevoked actor invite => [("actor", actor.text), ("invite", invite.text)]

end Event

namespace Ability

/-- The answer to a query and the event that reports it. -/
def check (ability : Ability) (action : Action) (target : Target) : Bool × Event :=
  (ability.can action target,
    .abilityChecked action target.subjectType (ability.can action target))

end Ability

namespace Registry

/-- The ability of a user and the event that reports how compiling it went. -/
def compileReported (registry : Registry) (user : Principal) (discriminant : Discriminant) :
    Except Fault Ability × Event :=
  match registry.compile user discriminant with
  | .ok ability => (.ok ability, .abilityCompiled user.id user.role ability.rules.length)
  | .error fault => (.error fault, .noPermissions user.id user.role)

end Registry

end OrgAccess
