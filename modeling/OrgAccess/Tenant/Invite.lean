import OrgAccess.Instant.Basic
import OrgAccess.Policy.Subject
import OrgAccess.Text.Blank
import OrgAccess.Uuid

/-!
# Invites

An invite offers a role in an organization to an email address. The address is kept without blanks
at its ends and in lower case, and the author counts as the owner.
-/

namespace OrgAccess

/-- An invitation to join an organization. -/
structure Invite where
  id : Uuid
  organizationId : Uuid
  email : String
  role : Role
  authorId : Uuid
  createdAt : Instant
deriving DecidableEq

namespace Invite

/-- The form in which an email address is kept. -/
def normalEmail (text : String) : String :=
  String.ofList (Text.lowerChars (Text.trim text.toList))

/-- The invite of an author for an email address. -/
def new (id organizationId : Uuid) (email : String) (role : Role) (authorId : Uuid)
    (now : Instant) : Invite :=
  { id, organizationId
    email := normalEmail email
    role, authorId
    createdAt := now }

/-- The subject that checks on an invite are about. -/
def subject (invite : Invite) : Subject :=
  (Subject.ownedBy .invite invite.authorId.text).withAttribute "role" (.string invite.role.name)

end Invite

end OrgAccess
