import OrgAccess.Store.Table
import OrgAccess.Tenant.Failure
import OrgAccess.Tenant.Invite
import OrgAccess.Tenant.Membership
import OrgAccess.Tenant.Project

/-!
# The store

The records of all organizations. Each operation that may be refused says why and otherwise gives
the new store. Deleting an organization also removes everything that names it. A slug stands for
the first organization that has it.
-/

namespace OrgAccess

/-- The records of all organizations. -/
structure Store where
  organizations : Table Organization
  memberships : List Membership
  projects : Table Project
  invites : Table Invite
  billing : Table BillingAccount

namespace Store

/-- The store without records. -/
def empty : Store := ⟨.empty, [], .empty, .empty, .empty⟩

/-- The store with no records. -/
instance : Inhabited Store := ⟨empty⟩

/-- The description of a store. Its records are not shown. -/
def description : String := "MemoryStore \x7b .. \x7d"

/-! ## Seeding -/

/-- Files an organization. -/
def addOrganization (store : Store) (organization : Organization) : Store :=
  { store with
    organizations := store.organizations.insert organization.id organization }

/-- Files a membership in place of any other of that user in that organization. -/
def addMembership (store : Store) (membership : Membership) : Store :=
  { store with
    memberships :=
      store.memberships.filter
        (fun m => !m.links membership.organizationId membership.userId) ++ [membership] }

/-- Files a billing account under its organization. -/
def addBilling (store : Store) (account : BillingAccount) : Store :=
  { store with
    billing := store.billing.insert account.organizationId account }

/-! ## Organizations -/

/-- The identifier of the organization that a reference names. -/
def organizationId? (store : Store) : OrganizationRef → Option Uuid
  | .byId id => if store.organizations.contains id then some id else none
  | .bySlug slug =>
      (store.organizations.values.find? fun organization => organization.slug = slug).map
        Organization.id

/-- The organization that a reference names. -/
def findOrganization (store : Store) (reference : OrganizationRef) : Option Organization :=
  (store.organizationId? reference).bind store.organizations.get?

/-- Replaces an organization. Its slug must be its own. -/
def saveOrganization (store : Store) (organization : Organization) : Except Failure Store :=
  if !store.organizations.contains organization.id then
    .error (.notFound (.organization (.byId organization.id)))
  else if store.organizations.values.any fun other =>
      other.id ≠ organization.id && other.slug = organization.slug then
    .error (.conflict (.organizationSlug organization.slug))
  else
    .ok (store.addOrganization organization)

/-- Removes an organization and everything that names it. -/
def deleteOrganization (store : Store) (id : Uuid) : Except Failure Store :=
  if store.organizations.contains id then
    .ok
      { organizations := store.organizations.erase id
        memberships := store.memberships.filter fun m => m.organizationId ≠ id
        projects := store.projects.filter fun p => p.organizationId ≠ id
        invites := store.invites.filter fun i => i.organizationId ≠ id
        billing := store.billing.erase id }
  else
    .error (.notFound (.organization (.byId id)))

/-! ## Members -/

/-- The membership of a user in the organization that a reference names. -/
def resolveMembership (store : Store) (userId : Uuid) (reference : OrganizationRef) :
    Option ResolvedMembership :=
  (store.organizationId? reference).bind fun organizationId =>
    (store.memberships.find? fun m => m.links organizationId userId).map Membership.resolved

/-- A list of memberships with the role of the first that links a user to an organization
replaced. -/
def setRole (organizationId userId : Uuid) (role : Role) : List Membership → List Membership
  | [] => []
  | m :: rest =>
      if m.links organizationId userId then { m with role } :: rest
      else m :: setRole organizationId userId role rest

/-- Changes the role of a member. -/
def setMemberRole (store : Store) (organizationId userId : Uuid) (role : Role) :
    Except Failure Store :=
  if store.memberships.any fun m => m.links organizationId userId then
    .ok { store with memberships := setRole organizationId userId role store.memberships }
  else
    .error (.notFound (.member userId organizationId))

/-- The least number of seats that is too great to be counted. -/
def seatCountLimit : Nat := 0x100000000

/-- The memberships and pending invites of an organization. -/
def seatCount (store : Store) (organizationId : Uuid) : Nat :=
  (store.memberships.filter fun m => m.organizationId = organizationId).length
    + (store.invites.values.filter fun i => i.organizationId = organizationId).length

/-- The seats that are taken in an organization, if they can be counted. -/
def seatsInUse (store : Store) (organizationId : Uuid) : Except Failure Nat :=
  if store.seatCount organizationId < seatCountLimit then .ok (store.seatCount organizationId)
  else .error (.store "seat count overflows u32")

/-! ## Projects -/

/-- A project of an organization. -/
def findProject (store : Store) (organizationId projectId : Uuid) : Option Project :=
  (store.projects.get? projectId).filter fun p => p.organizationId = organizationId

/-- Files a new project. Its slug must be free in its organization. -/
def insertProject (store : Store) (project : Project) : Except Failure Store :=
  if store.projects.values.any fun p =>
      p.organizationId = project.organizationId && p.slug = project.slug then
    .error (.conflict (.projectSlug project.slug))
  else
    .ok { store with projects := store.projects.insert project.id project }

/-- Replaces a project. -/
def saveProject (store : Store) (project : Project) : Except Failure Store :=
  if store.projects.contains project.id then
    .ok { store with projects := store.projects.insert project.id project }
  else
    .error (.notFound (.project project.id))

/-- Removes a project. -/
def deleteProject (store : Store) (id : Uuid) : Except Failure Store :=
  if store.projects.contains id then .ok { store with projects := store.projects.erase id }
  else .error (.notFound (.project id))

/-! ## Billing -/

/-- The billing account of an organization. -/
def findBilling (store : Store) (organizationId : Uuid) : Option BillingAccount :=
  store.billing.get? organizationId

/-! ## Invites -/

/-- The pending invites of an organization, the oldest first. -/
def listInvites (store : Store) (organizationId : Uuid) : List Invite :=
  (store.invites.values.filter fun i => i.organizationId = organizationId).mergeSort
    fun a b => a.createdAt ≤ b.createdAt

/-- An invite of an organization. -/
def findInvite (store : Store) (organizationId inviteId : Uuid) : Option Invite :=
  (store.invites.get? inviteId).filter fun i => i.organizationId = organizationId

/-- Files a new invite. Its address must not be invited to its organization yet. -/
def insertInvite (store : Store) (invite : Invite) : Except Failure Store :=
  if store.invites.values.any fun i =>
      i.organizationId = invite.organizationId && i.email = invite.email then
    .error (.conflict (.alreadyInvited invite.email))
  else
    .ok { store with invites := store.invites.insert invite.id invite }

/-- Removes an invite. -/
def deleteInvite (store : Store) (id : Uuid) : Except Failure Store :=
  if store.invites.contains id then .ok { store with invites := store.invites.erase id }
  else .error (.notFound (.invite id))

end Store

end OrgAccess
