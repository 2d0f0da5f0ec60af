import OrgAccess.Instant.Basic
import OrgAccess.Policy.Subject
import OrgAccess.Uuid

/-!
# Projects

A project belongs to an organization and to the user who made it. Its slug is chosen once, when it
is made.
-/

namespace OrgAccess

/-- A project of an organization. -/
structure Project where
  id : Uuid
  organizationId : Uuid
  name : String
  slug : String
  description : Option String
  ownerId : Uuid
  createdAt : Instant
  updatedAt : Instant
deriving DecidableEq

namespace Project

/-- The subject that checks on a project are about. -/
def subject (project : Project) : Subject :=
  (Subject.ownedBy .project project.ownerId.text).withAttribute "organizationId"
    (.string project.organizationId.text)

end Project

/-- What a new project is made from. -/
structure NewProject where
  name : String
  slug : String
  description : Option String
deriving DecidableEq

namespace NewProject

/-- The project made from the input. -/
def toProject (input : NewProject) (id organizationId ownerId : Uuid) (now : Instant) : Project :=
  { id, organizationId
    name := input.name
    slug := input.slug
    description := input.description
    ownerId
    createdAt := now
    updatedAt := now }

end NewProject

/-- The fields of a project that are to be replaced. -/
structure ProjectUpdate where
  name : Option String
  description : Option String
deriving DecidableEq

namespace ProjectUpdate

/-- The project with the fields replaced and the time of the change. -/
def apply (update : ProjectUpdate) (now : Instant) (project : Project) : Project :=
  { project with
    name := update.name.getD project.name
    description := update.description.or project.description
    updatedAt := now }

end ProjectUpdate

end OrgAccess
