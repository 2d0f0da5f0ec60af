import OrgAccess.Tenant.Billing
import OrgAccess.Tenant.Organization

/-!
# Failures

Why a guarded operation fails: a denial, a record that does not exist, a clash with another record,
a fault of the ability, or a failure of the store.
-/

namespace OrgAccess

/-- A record that does not exist. -/
inductive Missing where
  | organization (reference : OrganizationRef)
  | project (id : Uuid)
  | member (userId organizationId : Uuid)
  | billingAccount (organizationId : Uuid)
  | invite (id : Uuid)
  | other (detail : String)
deriving DecidableEq

namespace Missing

/-- The wording for a missing record. -/
def detail : Missing → String
  | organization reference => s!"organization {reference.text}"
  | project id => s!"project {id.text}"
  | member userId organizationId => s!"member {userId.text} in organization {organizationId.text}"
  | billingAccount organizationId => s!"billing account for {organizationId.text}"
  | invite id => s!"invite {id.text}"
  | other detail => detail

end Missing

/-- What a write clashes with. -/
inductive Clash where
  | organizationSlug (slug : String)
  | projectSlug (slug : String)
  | alreadyInvited (email : String)
  | noFreeSeat (plan : Plan) (seatsInUse : Nat)
  | other (detail : String)
deriving DecidableEq

namespace Clash

/-- The wording for a clash. -/
def detail : Clash → String
  | organizationSlug slug => s!"organization slug '{slug}' is taken"
  | projectSlug slug => s!"project slug '{slug}' is taken"
  | alreadyInvited email => s!"'{email}' is already invited"
  | noFreeSeat plan seatsInUse =>
      s!"plan {plan.label} has no free seat ({seatsInUse.repr} in use)"
  | other detail => detail

end Clash

/-- Why a guarded operation fails. -/
inductive Failure where
  | forbidden (action : Action) (subject : SubjectType)
  | notMember (reference : String)
  | notFound (what : Missing)
  | conflict (cause : Clash)
  | ability (fault : Fault)
  | store (detail : String)
deriving DecidableEq

namespace Failure

/-- The message of a failure. -/
def message : Failure → String
  | forbidden action subject => s!"Forbidden: cannot {action.name} {subject.name}"
  | notMember reference => "Not a member of organization " ++ reference
  | notFound what => "Not found: " ++ what.detail
  | conflict cause => "Conflict: " ++ cause.detail
  | ability fault => fault.message
  | store detail => "Store error: " ++ detail

/-- The code of a failure in answers to requests. -/
def code : Failure → String
  | forbidden _ _ => "FORBIDDEN"
  | notMember _ => "NOT_A_MEMBER"
  | notFound _ => "NOT_FOUND"
  | conflict _ => "CONFLICT"
  | ability fault => fault.code
  | store _ => "STORE_ERROR"

/-- The status of an answer that reports a failure. -/
def status : Failure → Nat
  | forbidden _ _ | notMember _ => 403
  | notFound _ => 404
  | conflict _ => 409
  | ability fault => fault.status
  | store _ => 500

/-- Whether the failure is a denial: the actor is no member, or may not do it. -/
def isDenied : Failure → Bool
  | forbidden _ _ | notMember _ => true
  | _ => false

/-- Whether the server and not the requester is at fault. -/
def isServerFault : Failure → Bool
  | ability fault => fault.isServerFault
  | store _ => true
  | _ => false

end Failure

end OrgAccess
