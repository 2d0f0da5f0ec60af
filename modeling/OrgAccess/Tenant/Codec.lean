import OrgAccess.Policy.Codec
import OrgAccess.Tenant.Billing
import OrgAccess.Tenant.Invite
import OrgAccess.Tenant.Membership
import OrgAccess.Tenant.Organization
import OrgAccess.Tenant.Project

/-!
# The written forms of the records

Each record is an object with one member per field. A reference to an organization is an object
with one member, which says how the organization is named.
-/

namespace OrgAccess

open Json (Document)

/-- A plan is written as its name and read from its name. -/
instance : Codec Plan := ⟨fun plan => .string plan.name, Document.named? Plan.all Plan.name⟩

namespace Organization

/-- The names of the fields, in order. -/
def fieldNames : List String :=
  ["id", "name", "slug", "description", "owner_id", "created_at", "updated_at"]

/-- The JSON form of an organization. -/
def toJson (organization : Organization) : Json :=
  Json.record
    [("id", Codec.toJson organization.id), ("name", Codec.toJson organization.name),
      ("slug", Codec.toJson organization.slug),
      ("description", Codec.toJson organization.description),
      ("owner_id", Codec.toJson organization.ownerId),
      ("created_at", Codec.toJson organization.createdAt),
      ("updated_at", Codec.toJson organization.updatedAt)]

/-- The organization that a document spells. -/
def ofDocument? (document : Document) : Option Organization := do
  let fields ← document.fields? fieldNames 0
  pure
    { id := ← Document.required? fields "id"
      name := ← Document.required? fields "name"
      slug := ← Document.required? fields "slug"
      description := ← Document.optional? fields "description"
      ownerId := ← Document.required? fields "owner_id"
      createdAt := ← Document.required? fields "created_at"
      updatedAt := ← Document.required? fields "updated_at" }

end Organization

/-- How organizations are written and read. -/
instance : Codec Organization := ⟨Organization.toJson, Organization.ofDocument?⟩

namespace OrganizationUpdate

/-- The JSON form of an update. -/
def toJson (update : OrganizationUpdate) : Json :=
  Json.record
    [("name", Codec.toJson update.name), ("slug", Codec.toJson update.slug),
      ("description", Codec.toJson update.description)]

/-- The update that a document spells. -/
def ofDocument? (document : Document) : Option OrganizationUpdate := do
  let fields ← document.fields? ["name", "slug", "description"] 0
  pure
    { name := ← Document.optional? fields "name"
      slug := ← Document.optional? fields "slug"
      description := ← Document.optional? fields "description" }

end OrganizationUpdate

/-- How updates of organizations are written and read. -/
instance : Codec OrganizationUpdate := ⟨OrganizationUpdate.toJson, OrganizationUpdate.ofDocument?⟩

namespace OrganizationRef

/-- The JSON form of a reference. -/
def toJson : OrganizationRef → Json
  | byId id => Json.record [("id", Codec.toJson id)]
  | bySlug slug => Json.record [("slug", Codec.toJson slug)]

/-- The reference that a document spells. -/
def ofDocument? (document : Document) : Option OrganizationRef := do
  match ← document.keyedMembers? with
  | [(key, member)] =>
      if key = "id" then (Codec.ofDocument? member).map byId
      else if key = "slug" then (Codec.ofDocument? member).map bySlug
      else none
  | _ => none

end OrganizationRef

/-- How references to organizations are written and read. -/
instance : Codec OrganizationRef := ⟨OrganizationRef.toJson, OrganizationRef.ofDocument?⟩

namespace Project

/-- The names of the fields, in order. -/
def fieldNames : List String :=
  ["id", "organization_id", "name", "slug", "description", "owner_id", "created_at", "updated_at"]

/-- The JSON form of a project. -/
def toJson (project : Project) : Json :=
  Json.record
    [("id", Codec.toJson project.id), ("organization_id", Codec.toJson project.organizationId),
      ("name", Codec.toJson project.name), ("slug", Codec.toJson project.slug),
      ("description", Codec.toJson project.description),
      ("owner_id", Codec.toJson project.ownerId),
      ("created_at", Codec.toJson project.createdAt),
      ("updated_at", Codec.toJson project.updatedAt)]

/-- The project that a document spells. -/
def ofDocument? (document : Document) : Option Project := do
  let fields ← document.fields? fieldNames 0
  pure
    { id := ← Document.required? fields "id"
      organizationId := ← Document.required? fields "organization_id"
      name := ← Document.required? fields "name"
      slug := ← Document.required? fields "slug"
      description := ← Document.optional? fields "description"
      ownerId := ← Document.required? fields "owner_id"
      createdAt := ← Document.required? fields "created_at"
      updatedAt := ← Document.required? fields "updated_at" }

end Project

/-- How projects are written and read. -/
instance : Codec Project := ⟨Project.toJson, Project.ofDocument?⟩

namespace NewProject

/-- The JSON form of the input for a project. -/
def toJson (input : NewProject) : Json :=
  Json.record
    [("name", Codec.toJson input.name), ("slug", Codec.toJson input.slug),
      ("description", Codec.toJson input.description)]

/-- The input for a project that a document spells. -/
def ofDocument? (document : Document) : Option NewProject := do
  let fields ← document.fields? ["name", "slug", "description"] 0
  pure
    { name := ← Document.required? fields "name"
      slug := ← Document.required? fields "slug"
      description := ← Document.optional? fields "description" }

end NewProject

/-- How requests for new projects are written and read. -/
instance : Codec NewProject := ⟨NewProject.toJson, NewProject.ofDocument?⟩

namespace ProjectUpdate

/-- The JSON form of an update. -/
def toJson (update : ProjectUpdate) : Json :=
  Json.record
    [("name", Codec.toJson update.name), ("description", Codec.toJson update.description)]

/-- The update that a document spells. -/
def ofDocument? (document : Document) : Option ProjectUpdate := do
  let fields ← document.fields? ["name", "description"] 0
  pure
    { name := ← Document.optional? fields "name"
      description := ← Document.optional? fields "description" }

end ProjectUpdate

/-- How updates of projects are written and read. -/
instance : Codec ProjectUpdate := ⟨ProjectUpdate.toJson, ProjectUpdate.ofDocument?⟩

namespace Invite

/-- The names of the fields, in order. -/
def fieldNames : List String :=
  ["id", "organization_id", "email", "role", "author_id", "created_at"]

/-- The JSON form of an invite. -/
def toJson (invite : Invite) : Json :=
  Json.record
    [("id", Codec.toJson invite.id), ("organization_id", Codec.toJson invite.organizationId),
      ("email", Codec.toJson invite.email), ("role", Codec.toJson invite.role),
      ("author_id", Codec.toJson invite.authorId), ("created_at", Codec.toJson invite.createdAt)]

/-- The invite that a document spells. Its address is kept as it is written. -/
def ofDocument? (document : Document) : Option Invite := do
  let fields ← document.fields? fieldNames 0
  pure
    { id := ← Document.required? fields "id"
      organizationId := ← Document.required? fields "organization_id"
      email := ← Document.required? fields "email"
      role := ← Document.required? fields "role"
      authorId := ← Document.required? fields "author_id"
      createdAt := ← Document.required? fields "created_at" }

end Invite

/-- How invites are written and read. -/
instance : Codec Invite := ⟨Invite.toJson, Invite.ofDocument?⟩

namespace Membership

/-- The names of the fields, in order. -/
def fieldNames : List String :=
  ["id", "organization_id", "user_id", "role", "joined_at"]

/-- The JSON form of a membership. -/
def toJson (membership : Membership) : Json :=
  Json.record
    [("id", Codec.toJson membership.id),
      ("organization_id", Codec.toJson membership.organizationId),
      ("user_id", Codec.toJson membership.userId), ("role", Codec.toJson membership.role),
      ("joined_at", Codec.toJson membership.joinedAt)]

/-- The membership that a document spells. -/
def ofDocument? (document : Document) : Option Membership := do
  let fields ← document.fields? fieldNames 0
  pure
    { id := ← Document.required? fields "id"
      organizationId := ← Document.required? fields "organization_id"
      userId := ← Document.required? fields "user_id"
      role := ← Document.required? fields "role"
      joinedAt := ← Document.required? fields "joined_at" }

end Membership

/-- How memberships are written and read. -/
instance : Codec Membership := ⟨Membership.toJson, Membership.ofDocument?⟩

namespace ResolvedMembership

/-- The JSON form of what a lookup finds. -/
def toJson (membership : ResolvedMembership) : Json :=
  Json.record
    [("user_id", Codec.toJson membership.userId),
      ("organization_id", Codec.toJson membership.organizationId),
      ("role", Codec.toJson membership.role)]

/-- What a lookup found, as a document spells it. -/
def ofDocument? (document : Document) : Option ResolvedMembership := do
  let fields ← document.fields? ["user_id", "organization_id", "role"] 0
  pure
    { userId := ← Document.required? fields "user_id"
      organizationId := ← Document.required? fields "organization_id"
      role := ← Document.required? fields "role" }

end ResolvedMembership

/-- How resolved memberships are written and read. -/
instance : Codec ResolvedMembership := ⟨ResolvedMembership.toJson, ResolvedMembership.ofDocument?⟩

namespace BillingAccount

/-- The names of the fields, in order. -/
def fieldNames : List String :=
  ["organization_id", "owner_id", "plan", "billing_email"]

/-- The JSON form of a billing account. -/
def toJson (account : BillingAccount) : Json :=
  Json.record
    [("organization_id", Codec.toJson account.organizationId),
      ("owner_id", Codec.toJson account.ownerId), ("plan", Codec.toJson account.plan),
      ("billing_email", Codec.toJson account.billingEmail)]

/-- The billing account that a document spells. -/
def ofDocument? (document : Document) : Option BillingAccount := do
  let fields ← document.fields? fieldNames 0
  pure
    { organizationId := ← Document.required? fields "organization_id"
      ownerId := ← Document.required? fields "owner_id"
      plan := ← Document.required? fields "plan"
      billingEmail := ← Document.optional? fields "billing_email" }

end BillingAccount

/-- How billing accounts are written and read. -/
instance : Codec BillingAccount := ⟨BillingAccount.toJson, BillingAccount.ofDocument?⟩

end OrgAccess
