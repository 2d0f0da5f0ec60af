import OrgAccess.Instant.Basic
import OrgAccess.Policy.Subject
import OrgAccess.Uuid

/-!
# Organizations

An organization is a tenant: it owns projects, invites, a billing account and a list of members.
Its owner is what an admin's permission to change it is measured against.
-/

namespace OrgAccess

/-- A tenant. -/
structure Organization where
  id : Uuid
  name : String
  slug : String
  description : Option String
  ownerId : Uuid
  createdAt : Instant
  updatedAt : Instant
deriving DecidableEq

namespace Organization

/-- The subject that checks on an organization are about. -/
def subject (organization : Organization) : Subject :=
  (Subject.ownedBy .organization organization.ownerId.text).withAttribute "id"
    (.string organization.id.text)

end Organization

/-- The fields of an organization that are to be replaced. -/
structure OrganizationUpdate where
  name : Option String
  slug : Option String
  description : Option String
deriving DecidableEq

namespace OrganizationUpdate

/-- Whether no field is to be replaced. -/
def isEmpty (update : OrganizationUpdate) : Bool :=
  update.name.isNone && update.slug.isNone && update.description.isNone

/-- The organization with the fields replaced and the time of the change. -/
def apply (update : OrganizationUpdate) (now : Instant) (organization : Organization) :
    Organization :=
  { organization with
    name := update.name.getD organization.name
    slug := update.slug.getD organization.slug
    description := update.description.or organization.description
    updatedAt := now }

end OrganizationUpdate

/-- How a caller names an organization. -/
inductive OrganizationRef where
  | byId (id : Uuid)
  | bySlug (slug : String)
deriving DecidableEq

namespace OrganizationRef

/-- The text of a reference. -/
def text : OrganizationRef → String
  | byId id => id.text
  | bySlug slug => slug

end OrganizationRef

end OrgAccess
