import OrgAccess.Service.Guarded

/-!
# Guarded operations

Every operation resolves the actor's membership, compiles the ability of the actor's role, checks
the action on the record that is concerned, and only then writes. The clock is read by the caller:
`now` is the reading, and `id` is the identifier of a record that is created.
-/

namespace OrgAccess

/-- An actor's membership and ability in an organization. -/
structure Authorized where
  membership : ResolvedMembership
  ability : Ability

namespace Authorized

variable {σ : Type}

/-- Fails unless the ability allows an action on a target. -/
def ensure (authorized : Authorized) (action : Action) (target : Target) : Guarded σ Unit := do
  let (allowed, event) := authorized.ability.check action target
  Guarded.report event
  if allowed then
    pure ()
  else
    Guarded.report (.checkDenied authorized.membership.userId authorized.membership.organizationId
      action target.subjectType)
    Guarded.fail (.forbidden action target.subjectType)

end Authorized

/-- The guarded operations over a backend. -/
structure Service (σ : Type) where
  backend : Backend σ
  registry : Registry := .standard

namespace Service

variable {σ : Type}

/-- The description of a service. -/
def description (service : Service σ) : String :=
  "OrganizationService \x7b registry: " ++ service.registry.description ++ ", .. \x7d"

/-- The ability that a membership gives. -/
def compile (service : Service σ) (membership : ResolvedMembership) : Guarded σ Ability := do
  let (compiled, event) := service.registry.compileReported membership.principal .default
  Guarded.report event
  match compiled with
  | .ok ability => pure ability
  | .error fault => Guarded.fail (.ability fault)

/-- The membership and the ability of an actor in an organization. Without a membership no ability
is compiled. -/
def abilityFor (service : Service σ) (actor : Uuid) (reference : OrganizationRef) :
    Guarded σ Authorized := do
  let found ← Guarded.ask (service.backend.resolveMembership actor reference)
  match found with
  | some membership =>
      let ability ← service.compile membership
      Guarded.report (.abilityResolved actor membership.organizationId membership.role)
      pure ⟨membership, ability⟩
  | none =>
      Guarded.report (.notMember actor reference)
      Guarded.fail (.notMember reference.text)

/-- The organization that a reference names. -/
def loadOrganization (service : Service σ) (reference : OrganizationRef) :
    Guarded σ Organization := do
  let found ← Guarded.ask (service.backend.findOrganization reference)
  Guarded.require (.notFound (.organization reference)) found

/-- A project of the organization that an actor is authorized in. -/
def loadProject (service : Service σ) (authorized : Authorized) (projectId : Uuid) :
    Guarded σ Project := do
  let found ←
    Guarded.ask (service.backend.findProject authorized.membership.organizationId projectId)
  Guarded.require (.notFound (.project projectId)) found

/-! ## Organizations -/

/-- Replaces fields of an organization. An update of no field changes nothing. -/
def updateOrganization (service : Service σ) (actor : Uuid) (reference : OrganizationRef)
    (update : OrganizationUpdate) (now : Instant) : Guarded σ Organization := do
  let authorized ← service.abilityFor actor reference
  let organization ← service.loadOrganization reference
  authorized.ensure .update (.record organization.subject)
  if update.isEmpty then
    pure organization
  else
    let updated := update.apply now organization
    Guarded.ask (service.backend.saveOrganization updated)
    Guarded.report (.organizationUpdated actor updated.id)
    pure updated

/-- Removes an organization and everything that it owns. -/
def shutdownOrganization (service : Service σ) (actor : Uuid) (reference : OrganizationRef) :
    Guarded σ Unit := do
  let authorized ← service.abilityFor actor reference
  let organization ← service.loadOrganization reference
  authorized.ensure .delete (.record organization.subject)
  Guarded.ask (service.backend.deleteOrganization organization.id)
  Guarded.report (.organizationShutDown actor organization.id)

/-- Makes a member an admin, unless the member is one. -/
def promote (service : Service σ) (organizationId : Uuid) (member : ResolvedMembership)
    (userId : Uuid) : Guarded σ Unit := do
  if member.role = .admin then
    pure ()
  else
    Guarded.ask (service.backend.setMemberRole organizationId userId .admin)
    Guarded.report (.memberPromoted organizationId userId member.role)

/-- Hands an organization to another member, who becomes an admin. -/
def transferOwnership (service : Service σ) (actor : Uuid) (reference : OrganizationRef)
    (newOwner : Uuid) (now : Instant) : Guarded σ Organization := do
  let authorized ← service.abilityFor actor reference
  let organization ← service.loadOrganization reference
  authorized.ensure .transferOwnership (.record organization.subject)
  let found ← Guarded.ask (service.backend.resolveMembership newOwner (.byId organization.id))
  let member ← Guarded.require (.notFound (.member newOwner organization.id)) found
  service.promote organization.id member newOwner
  let transferred := { organization with ownerId := newOwner, updatedAt := now }
  Guarded.ask (service.backend.saveOrganization transferred)
  Guarded.report (.ownershipTransferred actor organization.id organization.ownerId newOwner)
  pure transferred

/-! ## Projects -/

/-- Makes a project that the actor owns. -/
def createProject (service : Service σ) (actor : Uuid) (reference : OrganizationRef)
    (input : NewProject) (id : Uuid) (now : Instant) : Guarded σ Project := do
  let authorized ← service.abilityFor actor reference
  let project := input.toProject id authorized.membership.organizationId actor now
  authorized.ensure .create (.record project.subject)
  Guarded.ask (service.backend.insertProject project)
  Guarded.report (.projectCreated actor project.id)
  pure project

/-- Replaces fields of a project. -/
def updateProject (service : Service σ) (actor : Uuid) (reference : OrganizationRef)
    (projectId : Uuid) (update : ProjectUpdate) (now : Instant) : Guarded σ Project := do
  let authorized ← service.abilityFor actor reference
  let project ← service.loadProject authorized projectId
  authorized.ensure .update (.record project.subject)
  let updated := update.apply now project
  Guarded.ask (service.backend.saveProject updated)
  Guarded.report (.projectUpdated actor updated.id)
  pure updated

/-- Removes a project. -/
def deleteProject (service : Service σ) (actor : Uuid) (reference : OrganizationRef)
    (projectId : Uuid) : Guarded σ Unit := do
  let authorized ← service.abilityFor actor reference
  let project ← service.loadProject authorized projectId
  authorized.ensure .delete (.record project.subject)
  Guarded.ask (service.backend.deleteProject project.id)
  Guarded.report (.projectDeleted actor project.id)

/-! ## Billing -/

/-- The billing account of an organization. -/
def getBilling (service : Service σ) (actor : Uuid) (reference : OrganizationRef) :
    Guarded σ BillingAccount := do
  let authorized ← service.abilityFor actor reference
  let organizationId := authorized.membership.organizationId
  let found ← Guarded.ask (service.backend.findBilling organizationId)
  let account ← Guarded.require (.notFound (.billingAccount organizationId)) found
  authorized.ensure .get (.record account.subject)
  pure account

/-! ## Invites -/

/-- Fails when an account's plan has no seat left. -/
def ensureSeat (service : Service σ) (organizationId : Uuid) : Guarded σ Unit := do
  let found ← Guarded.ask (service.backend.findBilling organizationId)
  match found with
  | some account =>
      let seatsInUse ← Guarded.ask (service.backend.seatsInUse organizationId)
      if account.hasSeatFor seatsInUse then
        pure ()
      else
        Guarded.fail (.conflict (.noFreeSeat account.plan seatsInUse))
  | none => pure ()

/-- Invites an email address with a role. An organization without a billing account has no limit
of seats. -/
def createInvite (service : Service σ) (actor : Uuid) (reference : OrganizationRef)
    (email : String) (role : Role) (id : Uuid) (now : Instant) : Guarded σ Invite := do
  let authorized ← service.abilityFor actor reference
  let organizationId := authorized.membership.organizationId
  let invite := Invite.new id organizationId email role actor now
  authorized.ensure .create (.record invite.subject)
  service.ensureSeat organizationId
  Guarded.ask (service.backend.insertInvite invite)
  Guarded.report (.inviteCreated actor invite.id role)
  pure invite

/-- The pending invites of an organization, the oldest first. -/
def listInvites (service : Service σ) (actor : Uuid) (reference : OrganizationRef) :
    Guarded σ (List Invite) := do
  let authorized ← service.abilityFor actor reference
  authorized.ensure .get (.tag (Kind.invite))
  Guarded.ask (service.backend.listInvites authorized.membership.organizationId)

/-- Withdraws an invite. -/
def revokeInvite (service : Service σ) (actor : Uuid) (reference : OrganizationRef)
    (inviteId : Uuid) : Guarded σ Unit := do
  let authorized ← service.abilityFor actor reference
  let found ←
    Guarded.ask (service.backend.findInvite authorized.membership.organizationId inviteId)
  let invite ← Guarded.require (.notFound (.invite inviteId)) found
  authorized.ensure .delete (.record invite.subject)
  Guarded.ask (service.backend.deleteInvite invite.id)
  Guarded.report (.inviteRevoked actor invite.id)

end Service

end OrgAccess
