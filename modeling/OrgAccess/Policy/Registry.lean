import OrgAccess.Policy.Ability

/-!
# Roles and their permissions

A registry lists roles with the rules that each declares for a user. Compiling a user's ability
takes the first entry of the user's role; a role without an entry is a fault in the configuration.
In the standard registry an admin may do anything, except that an organization is updated or handed
over by its owner alone; a member works on projects and changes only projects of their own; and the
billing role manages billing.
-/

namespace OrgAccess

/-- The user that an ability is compiled for. -/
structure Principal where
  id : String
  role : Role
deriving DecidableEq

/-- The rules that a role declares for a user, in order. -/
abbrev Permissions := Principal → List Rule

namespace Permissions

/-- What only the owner of an organization may do to it. -/
def ownerActions : List Action := [.transferOwnership, .update]

/-- The rules of an admin. The grant to the owner comes after the denial that it lifts. -/
def admin : Permissions := fun user =>
  [.can [.manage] .all,
    .cannot ownerActions (Kind.organization),
    .canIf ownerActions (Kind.organization) (.ownedBy user.id)]

/-- The rules of a member. -/
def member : Permissions := fun user =>
  [.can [.get] (Kind.user),
    .can [.create, .get] (Kind.project),
    .canIf [.update, .delete] (Kind.project) (.ownedBy user.id)]

/-- The rules of the billing role. -/
def billing : Permissions := fun _ =>
  [.can [.manage] (Kind.billing)]

/-- No rules. -/
def none : Permissions := fun _ => []

/-- The rules of a role in the standard registry. -/
def standard : Role → Permissions
  | .admin => admin
  | .member => member
  | .billing => billing

end Permissions

/-- A table of roles and what they declare. -/
structure Registry where
  entries : List (Role × Permissions)

namespace Registry

/-- The registry with one entry for every role. -/
def standard : Registry :=
  ⟨Role.all.map fun role => (role, Permissions.standard role)⟩

/-- The roles of the entries, in order. -/
def roles (registry : Registry) : List Role :=
  registry.entries.map Prod.fst

/-- What the first entry of a role declares. -/
def permissionsFor (registry : Registry) (role : Role) : Except Fault Permissions :=
  match registry.entries.find? fun entry => entry.1 = role with
  | some entry => .ok entry.2
  | none => .error (.configuration (.unknownRole role.name))

/-- The ability of a user: the rules that the user's role declares, with the discriminant that
finds the subjects of queries. -/
def compile (registry : Registry) (user : Principal) (discriminant : Discriminant) :
    Except Fault Ability :=
  (registry.permissionsFor user.role).map fun declare => ⟨declare user, discriminant⟩

/-- The description of a registry: the roles of its entries. -/
def description (registry : Registry) : String :=
  "RoleRegistry \x7b roles: [" ++ ", ".intercalate (registry.roles.map Role.label) ++ "] \x7d"

end Registry

end OrgAccess
