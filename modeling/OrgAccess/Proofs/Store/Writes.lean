import OrgAccess.Store.Basic

/-!
# What the writes of a store do

For each operation that may be refused, when it is not and what it changes then. The statements
`..._eq_ok_iff` are all that later proofs use of these operations; `saveOrganization_eq` and
`insertInvite_eq` also give the refusals of saving an organization and of filing an invite.
-/

namespace OrgAccess

/-- A step that is refused unless a condition holds. -/
theorem ite_ok_eq_ok_iff {ε α : Type} {p : Prop} [Decidable p] {value result : α} {failure : ε} :
    (if p then Except.ok value else .error failure) = .ok result ↔ p ∧ result = value := by
  split
  · next h => exact ⟨fun heq => ⟨h, (Except.ok.inj heq).symm⟩, fun hp => congrArg _ hp.2.symm⟩
  · next h => exact ⟨(nomatch ·), fun hp => absurd hp.1 h⟩

/-- A step that is refused when a condition holds. -/
theorem ite_error_eq_ok_iff {ε α : Type} {p : Prop} [Decidable p] {value result : α}
    {failure : ε} :
    (if p then Except.error failure else .ok value) = .ok result ↔ ¬ p ∧ result = value := by
  rw [← ite_not, ite_ok_eq_ok_iff]

/-- What holds of the value that a step gives holds of a value. -/
theorem exists_ok_iff {ε α : Type} {value : α} {P : α → Prop} :
    (∃ result, (Except.ok value : Except ε α) = .ok result ∧ P result) ↔ P value := by
  simp

namespace Table

variable {α : Type}

/-- A table contains the identifiers under which something is found. -/
theorem contains_eq_true_iff {table : Table α} {key : Uuid} :
    table.contains key = true ↔ ∃ value, table.get? key = some value := by
  rw [contains, Option.isSome_iff_exists]

/-- The records of a table are those that are found in it. -/
theorem mem_values_iff {table : Table α} {value : α} :
    value ∈ table.values ↔ ∃ key, table.get? key = some value := by
  constructor
  · intro h
    obtain ⟨⟨key, _⟩, hentry, rfl⟩ := List.mem_map.1 h
    exact ⟨key, get?_eq_some_iff.2 hentry⟩
  · rintro ⟨key, h⟩
    exact List.mem_map.2 ⟨(key, value), get?_eq_some_iff.1 h, rfl⟩

/-- The records that are left after a test are those that pass it. -/
theorem values_filter (table : Table α) (keep : α → Bool) :
    (table.filter keep).values = table.values.filter keep := by
  rw [values, values, List.filter_map]
  rfl

/-- A table with one more record contains its identifier and those that it had. -/
theorem contains_insert (table : Table α) (key other : Uuid) (value : α) :
    (table.insert key value).contains other = (decide (other = key) || table.contains other) := by
  rw [contains, get?_insert]
  by_cases h : other = key <;> simp [h, contains]

/-- A table without a record contains the other identifiers that it had. -/
theorem contains_erase (table : Table α) (key other : Uuid) :
    (table.erase key).contains other = (!decide (other = key) && table.contains other) := by
  rw [contains, get?_erase]
  by_cases h : other = key <;> simp [h, contains]

end Table

namespace Store

variable {store changed : Store}

/-! ## Organizations -/

/-- Another organization than the one under an identifier has a slug. -/
def SlugTaken (store : Store) (slug : String) (id : Uuid) : Prop :=
  ∃ other ∈ store.organizations.values, other.id ≠ id ∧ other.slug = slug

/-- Whether a slug is taken is seen by looking through the organizations. -/
instance (store : Store) (slug : String) (id : Uuid) : Decidable (store.SlugTaken slug id) :=
  inferInstanceAs (Decidable (∃ other ∈ store.organizations.values, _))

/-- Saving an organization is refused when there is none to replace and when its slug is taken. -/
theorem saveOrganization_eq (store : Store) (organization : Organization) :
    store.saveOrganization organization =
      if store.organizations.get? organization.id = none then
        .error (.notFound (.organization (.byId organization.id)))
      else if store.SlugTaken organization.slug organization.id then
        .error (.conflict (.organizationSlug organization.slug))
      else .ok (store.addOrganization organization) := by
  unfold saveOrganization
  congr 1
  · simp [Table.contains]
  · congr 1
    simp [SlugTaken]

/-- An organization is saved in place of one that is stored, if no other has the slug. -/
theorem saveOrganization_eq_ok_iff {organization : Organization} :
    store.saveOrganization organization = .ok changed ↔
      (∃ old, store.organizations.get? organization.id = some old) ∧
        ¬ store.SlugTaken organization.slug organization.id ∧
        changed = store.addOrganization organization := by
  rw [saveOrganization_eq]
  cases store.organizations.get? organization.id with
  | none => simp
  | some old => rw [if_neg (by simp), ite_error_eq_ok_iff]; simp

/-- The store without an organization and without everything that names it. -/
def withoutOrganization (store : Store) (id : Uuid) : Store :=
  { organizations := store.organizations.erase id
    memberships := store.memberships.filter fun m => m.organizationId ≠ id
    projects := store.projects.filter fun p => p.organizationId ≠ id
    invites := store.invites.filter fun i => i.organizationId ≠ id
    billing := store.billing.erase id }

/-- An organization is deleted if it is stored, along with all that names it. -/
theorem deleteOrganization_eq_ok_iff {id : Uuid} :
    store.deleteOrganization id = .ok changed ↔
      (∃ old, store.organizations.get? id = some old) ∧
        changed = store.withoutOrganization id := by
  rw [deleteOrganization, ite_ok_eq_ok_iff, Table.contains_eq_true_iff]
  rfl

/-! ## Members -/

/-- A role is changed if the user is a member. -/
theorem setMemberRole_eq_ok_iff {organizationId userId : Uuid} {role : Role} :
    store.setMemberRole organizationId userId role = .ok changed ↔
      (∃ m ∈ store.memberships, m.links organizationId userId = true) ∧
        changed =
          { store with memberships := setRole organizationId userId role store.memberships } := by
  rw [setMemberRole, ite_ok_eq_ok_iff, List.any_eq_true]

/-! ## Projects -/

/-- A project is filed if no other of its organization has the slug. -/
theorem insertProject_eq_ok_iff {project : Project} :
    store.insertProject project = .ok changed ↔
      (∀ p ∈ store.projects.values,
        p.organizationId = project.organizationId → p.slug ≠ project.slug) ∧
        changed = { store with projects := store.projects.insert project.id project } := by
  rw [insertProject, ite_error_eq_ok_iff]
  simp

/-- A project is saved in place of one that is stored, whatever its slug is. -/
theorem saveProject_eq_ok_iff {project : Project} :
    store.saveProject project = .ok changed ↔
      (∃ old, store.projects.get? project.id = some old) ∧
        changed = { store with projects := store.projects.insert project.id project } := by
  rw [saveProject, ite_ok_eq_ok_iff, Table.contains_eq_true_iff]

/-- A project is deleted if it is stored. -/
theorem deleteProject_eq_ok_iff {id : Uuid} :
    store.deleteProject id = .ok changed ↔
      (∃ old, store.projects.get? id = some old) ∧
        changed = { store with projects := store.projects.erase id } := by
  rw [deleteProject, ite_ok_eq_ok_iff, Table.contains_eq_true_iff]

/-! ## Invites -/

/-- An address is invited to an organization. -/
def Invited (store : Store) (organizationId : Uuid) (email : String) : Prop :=
  ∃ invite ∈ store.invites.values, invite.organizationId = organizationId ∧ invite.email = email

/-- Whether an address is invited is seen by looking through the invites. -/
instance (store : Store) (organizationId : Uuid) (email : String) :
    Decidable (store.Invited organizationId email) :=
  inferInstanceAs (Decidable (∃ invite ∈ store.invites.values, _))

/-- An address is not invited when every invite to the organization is for another. -/
theorem not_invited_iff {organizationId : Uuid} {email : String} :
    ¬ store.Invited organizationId email ↔
      ∀ i ∈ store.invites.values, i.organizationId = organizationId → i.email ≠ email := by
  simp [Invited]

/-- Filing an invite is refused when its address is invited already. -/
theorem insertInvite_eq (store : Store) (invite : Invite) :
    store.insertInvite invite =
      if store.Invited invite.organizationId invite.email then
        .error (.conflict (.alreadyInvited invite.email))
      else .ok { store with invites := store.invites.insert invite.id invite } := by
  unfold insertInvite
  congr 1
  simp [Invited]

/-- An invite is filed if no other to its organization is for the same address. -/
theorem insertInvite_eq_ok_iff {invite : Invite} :
    store.insertInvite invite = .ok changed ↔
      (∀ i ∈ store.invites.values,
        i.organizationId = invite.organizationId → i.email ≠ invite.email) ∧
        changed = { store with invites := store.invites.insert invite.id invite } := by
  rw [insertInvite, ite_error_eq_ok_iff]
  simp

/-- An invite is deleted if it is stored. -/
theorem deleteInvite_eq_ok_iff {id : Uuid} :
    store.deleteInvite id = .ok changed ↔
      (∃ old, store.invites.get? id = some old) ∧
        changed = { store with invites := store.invites.erase id } := by
  rw [deleteInvite, ite_ok_eq_ok_iff, Table.contains_eq_true_iff]

end Store

end OrgAccess
