import OrgAccess.Instant.Basic
import OrgAccess.Policy.Registry
import OrgAccess.Uuid

/-!
# Memberships

A membership gives a user one role in an organization. What a lookup finds of it is enough to
compile the user's ability.
-/

namespace OrgAccess

/-- A user's place in an organization. -/
structure Membership where
  id : Uuid
  organizationId : Uuid
  userId : Uuid
  role : Role
  joinedAt : Instant
deriving DecidableEq

/-- What a lookup finds of a membership. -/
structure ResolvedMembership where
  userId : Uuid
  organizationId : Uuid
  role : Role
deriving DecidableEq

namespace ResolvedMembership

/-- The user that an ability is compiled for. -/
def principal (membership : ResolvedMembership) : Principal :=
  ⟨membership.userId.text, membership.role⟩

end ResolvedMembership

namespace Membership

/-- What a lookup finds of a membership. -/
def resolved (membership : Membership) : ResolvedMembership :=
  ⟨membership.userId, membership.organizationId, membership.role⟩

/-- Whether this is the membership of a user in an organization. -/
def links (membership : Membership) (organizationId userId : Uuid) : Bool :=
  membership.organizationId = organizationId && membership.userId = userId

end Membership

end OrgAccess
