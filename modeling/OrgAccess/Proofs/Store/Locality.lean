import OrgAccess.Proofs.Store.Frame

/-!
# What a command depends on

A command that names one organization (`Command.Within`) comes to the same in two stores with the
same slice of that organization, whatever else is in them: it is refused in both for one reason, or
it is done in both and leaves them with the same slice (`SameSlice.attempt`). The exception is
saving an organization, which asks whether any other organization has the slug, so the two stores
must agree on that.
-/

namespace OrgAccess

namespace Table

variable {α : Type} {a b : Table α} {keep : α → Bool} {key id : Uuid} {value : α}

/-- Filing a record in two tables that look alike through a test leaves them so. -/
theorem filter_get?_insert_congr (h : (a.get? id).filter keep = (b.get? id).filter keep) :
    ((a.insert key value).get? id).filter keep = ((b.insert key value).get? id).filter keep := by
  rw [get?_insert, get?_insert]
  split
  · rfl
  · exact h

/-- Removing a record from two tables that look alike through a test leaves them so. -/
theorem filter_get?_erase_congr (h : (a.get? id).filter keep = (b.get? id).filter keep) :
    ((a.erase key).get? id).filter keep = ((b.erase key).get? id).filter keep := by
  rw [get?_erase, get?_erase]
  split
  · rfl
  · exact h

/-- Filtering two tables that look alike through a test by another test leaves them so. -/
theorem filter_get?_filter_congr {others : α → Bool}
    (h : (a.get? id).filter keep = (b.get? id).filter keep) :
    ((a.filter others).get? id).filter keep = ((b.filter others).get? id).filter keep := by
  have hswap : ∀ table : Table α, ((table.filter others).get? id).filter keep =
      ((table.get? id).filter keep).filter others := by
    intro table
    simp only [get?_filter, Option.filter_filter, Bool.and_comm]
  rw [hswap, hswap, h]

/-- What is found through the test in one table is stored in both. -/
theorem contains_iff_of_filter (h : (a.get? id).filter keep = (b.get? id).filter keep)
    (hfound : ∃ value, (a.get? id).filter keep = some value) :
    a.contains id = true ↔ b.contains id = true := by
  obtain ⟨value, ha⟩ := hfound
  have hb : (b.get? id).filter keep = some value := h.symm.trans ha
  exact iff_of_true (contains_eq_true_iff.2 ⟨_, (Option.filter_eq_some_iff.1 ha).1⟩)
    (contains_eq_true_iff.2 ⟨_, (Option.filter_eq_some_iff.1 hb).1⟩)

end Table

/-! ## Results in two stores -/

/-- Two results: refusals for one reason, or values in a relation. -/
inductive SameResult {α : Type} (R : α → α → Prop) : Except Failure α → Except Failure α → Prop
  | refused (failure : Failure) : SameResult R (.error failure) (.error failure)
  | done {x y : α} (h : R x y) : SameResult R (.ok x) (.ok y)

namespace SameResult

variable {α : Type} {R : α → α → Prop} {x y : α} {first second : Except Failure α}
  {failure : Failure} {p q : Prop} [Decidable p] [Decidable q]

/-- A result is the same as itself. -/
theorem refl (hR : ∀ value, R value value) (result : Except Failure α) :
    SameResult R result result :=
  match result with
  | .error failure => .refused failure
  | .ok value => .done (hR value)

/-- A step that is done when a condition holds. -/
theorem ite_ok (hcondition : p ↔ q) (h : R x y) :
    SameResult R (if p then .ok x else .error failure) (if q then .ok y else .error failure) := by
  by_cases hp : p
  · rw [if_pos hp, if_pos (hcondition.1 hp)]
    exact .done h
  · rw [if_neg hp, if_neg (mt hcondition.2 hp)]
    exact .refused failure

/-- A step that is refused when a condition holds, and else goes on. -/
theorem ite_error (hcondition : p ↔ q) (h : SameResult R first second) :
    SameResult R (if p then .error failure else first) (if q then .error failure else second) := by
  by_cases hp : p
  · rw [if_pos hp, if_pos (hcondition.1 hp)]
    exact .refused failure
  · rw [if_neg hp, if_neg (mt hcondition.2 hp)]
    exact h

end SameResult

namespace Store

variable {command : Command} {organizationId : Uuid}

/-- A change of role in an organization is one in the list of its members. -/
theorem filter_setRole_self (organizationId userId : Uuid) (role : Role)
    (memberships : List Membership) :
    (setRole organizationId userId role memberships).filter
        (fun m => m.organizationId = organizationId) =
      setRole organizationId userId role
        (memberships.filter fun m => m.organizationId = organizationId) := by
  induction memberships with
  | nil => rfl
  | cons m rest ih =>
      by_cases hm : m.organizationId = organizationId
      · cases hlinks : m.links organizationId userId with
        | true => simp [hm, hlinks, setRole]
        | false => simp [hm, hlinks, setRole, ih]
      · have hlinks : m.links organizationId userId = false := by
          simp [Membership.links, hm]
        simp [setRole, hm, hlinks, ih]

namespace SameSlice

variable {a b : Store}

/-! ### What is asked before a write -/

/-- The organization exists in both stores or in neither. -/
theorem contains_organization_iff (h : a.SameSlice b organizationId) :
    a.organizations.contains organizationId = true ↔
      b.organizations.contains organizationId = true := by
  rw [Table.contains, Table.contains, h.organization]

/-- A user is a member in both stores or in neither. -/
theorem any_links_eq (h : a.SameSlice b organizationId) (userId : Uuid) :
    (a.memberships.any fun m => m.links organizationId userId) =
      b.memberships.any fun m => m.links organizationId userId := by
  have hmembers : ∀ store : Store, (store.memberships.any fun m => m.links organizationId userId) =
      (store.membersOf organizationId).any fun m => m.userId = userId := by
    intro store
    rw [membersOf, List.any_filter]
    rfl
  rw [hmembers, hmembers, h.members]

/-- A slug is free in an organization whatever the other organizations have. -/
theorem any_projects_eq (ha : a.Filed) (hb : b.Filed) (h : a.SameSlice b organizationId)
    (slug : String) :
    (a.projects.values.any fun p => p.organizationId = organizationId && p.slug = slug) =
      b.projects.values.any fun p => p.organizationId = organizationId && p.slug = slug := by
  rw [← List.any_filter, ← List.any_filter]
  exact (h.projects_perm ha hb).any_eq

/-- An address is invited to an organization whatever the others have. -/
theorem any_invites_eq (ha : a.Filed) (hb : b.Filed) (h : a.SameSlice b organizationId)
    (email : String) :
    (a.invites.values.any fun i => i.organizationId = organizationId && i.email = email) =
      b.invites.values.any fun i => i.organizationId = organizationId && i.email = email := by
  rw [← List.any_filter, ← List.any_filter]
  exact (h.invites_perm ha hb).any_eq

/-! ### The slice after a write -/

/-- Filing the record of the organization alike. -/
theorem addOrganization (h : a.SameSlice b organizationId) {organization : Organization}
    (hid : organization.id = organizationId) :
    (a.addOrganization organization).SameSlice (b.addOrganization organization)
      organizationId := by
  refine ⟨⟨?_, h.members⟩, h.projects, h.invites, h.billing⟩
  simp only [Store.addOrganization, Table.get?_insert, if_pos hid.symm]

/-- Filing a billing account alike. -/
theorem addBilling (h : a.SameSlice b organizationId) (account : BillingAccount) :
    (a.addBilling account).SameSlice (b.addBilling account) organizationId := by
  have hbilling : a.billing.get? organizationId = b.billing.get? organizationId := h.billing
  refine ⟨⟨h.organization, h.members⟩, h.projects, h.invites, ?_⟩
  simp only [findBilling, Store.addBilling, Table.get?_insert, hbilling]

/-- Changing the projects alike. -/
theorem withProjects (h : a.SameSlice b organizationId) {xs ys : Table Project}
    (hprojects : ∀ id, (xs.get? id).filter (fun p => p.organizationId = organizationId) =
      (ys.get? id).filter fun p => p.organizationId = organizationId) :
    { a with projects := xs }.SameSlice { b with projects := ys } organizationId :=
  ⟨⟨h.organization, h.members⟩, hprojects, h.invites, h.billing⟩

/-- Changing the invites alike. -/
theorem withInvites (h : a.SameSlice b organizationId) {xs ys : Table Invite}
    (hinvites : ∀ id, (xs.get? id).filter (fun i => i.organizationId = organizationId) =
      (ys.get? id).filter fun i => i.organizationId = organizationId) :
    { a with invites := xs }.SameSlice { b with invites := ys } organizationId :=
  ⟨⟨h.organization, h.members⟩, h.projects, hinvites, h.billing⟩

/-- Adding a membership alike. -/
theorem addMembership (h : a.SameSlice b organizationId) (membership : Membership) :
    (a.addMembership membership).SameSlice (b.addMembership membership) organizationId := by
  refine ⟨⟨h.organization, ?_⟩, h.projects, h.invites, h.billing⟩
  rw [membersOf_addMembership, membersOf_addMembership, h.members]

/-- Changing a role in the organization alike. -/
theorem setRole (h : a.SameSlice b organizationId) (userId : Uuid) (role : Role) :
    { a with memberships := Store.setRole organizationId userId role a.memberships }.SameSlice
      { b with memberships := Store.setRole organizationId userId role b.memberships }
      organizationId := by
  refine ⟨⟨h.organization, ?_⟩, h.projects, h.invites, h.billing⟩
  rw [membersOf, membersOf, filter_setRole_self, filter_setRole_self]
  exact congrArg (Store.setRole organizationId userId role) h.members

/-- Removing an organization from both, this one or another. -/
theorem withoutOrganization (h : a.SameSlice b organizationId) (id : Uuid) :
    (a.withoutOrganization id).SameSlice (b.withoutOrganization id) organizationId := by
  have hbilling : a.billing.get? organizationId = b.billing.get? organizationId := h.billing
  have hmembers : ∀ store : Store, (store.withoutOrganization id).membersOf organizationId =
      (store.membersOf organizationId).filter fun m => m.organizationId ≠ id := by
    intro store
    exact List.filter_comm _ _ _
  refine ⟨⟨?_, ?_⟩, fun _ => Table.filter_get?_filter_congr (h.projects _),
    fun _ => Table.filter_get?_filter_congr (h.invites _), ?_⟩
  · simp only [Store.withoutOrganization, Table.get?_erase, h.organization]
  · rw [hmembers, hmembers, h.members]
  · simp only [findBilling, Store.withoutOrganization, Table.get?_erase, hbilling]

/-! ### Commands -/

/-- A command that names the organization in one store names it in the other. -/
theorem within (h : a.SameSlice b organizationId) (hwithin : command.Within a organizationId) :
    command.Within b organizationId := by
  cases command with
  | addOrganization _ | saveOrganization _ | addMembership _ | addBilling _
  | deleteOrganization _ | setMemberRole _ _ _ | insertProject _ | insertInvite _ => exact hwithin
  | saveProject project =>
      obtain ⟨horganization, old, hfind⟩ := hwithin
      exact ⟨horganization, old, (h.projects _).symm.trans hfind⟩
  | deleteProject _ =>
      obtain ⟨old, hfind⟩ := hwithin
      exact ⟨old, (h.projects _).symm.trans hfind⟩
  | deleteInvite _ =>
      obtain ⟨old, hfind⟩ := hwithin
      exact ⟨old, (h.invites _).symm.trans hfind⟩

/-- What a command comes to in the organization that it names depends on the slice of that
organization, and on whether another organization has the slug that is to be saved. -/
theorem attempt (ha : a.Filed) (hb : b.Filed) (h : a.SameSlice b organizationId)
    (hwithin : command.Within a organizationId)
    (hslug : ∀ organization, command = .saveOrganization organization →
      (a.SlugTaken organization.slug organizationId ↔
        b.SlugTaken organization.slug organizationId)) :
    SameResult (fun x y => x.SameSlice y organizationId) (a.attempt command)
      (b.attempt command) := by
  cases command with
  | addOrganization organization => exact .done (h.addOrganization hwithin)
  | addMembership membership => exact .done (h.addMembership membership)
  | addBilling account => exact .done (h.addBilling account)
  | saveOrganization organization =>
      obtain rfl : organization.id = organizationId := hwithin
      simp only [Store.attempt, saveOrganization_eq]
      refine .ite_error ?_ (.ite_error (hslug organization rfl) (.done (h.addOrganization rfl)))
      rw [h.organization]
  | deleteOrganization id =>
      obtain rfl : id = organizationId := hwithin
      exact .ite_ok h.contains_organization_iff (h.withoutOrganization id)
  | setMemberRole id userId role =>
      obtain rfl : id = organizationId := hwithin
      refine .ite_ok ?_ (h.setRole userId role)
      rw [h.any_links_eq]
  | insertProject project =>
      obtain rfl : project.organizationId = organizationId := hwithin
      refine .ite_error ?_ (.done (h.withProjects fun id => ?_))
      · rw [h.any_projects_eq ha hb]
      · exact Table.filter_get?_insert_congr (h.projects id)
  | saveProject project =>
      refine .ite_ok (Table.contains_iff_of_filter (h.projects project.id) hwithin.2) ?_
      exact h.withProjects fun id => Table.filter_get?_insert_congr (h.projects id)
  | deleteProject projectId =>
      refine .ite_ok (Table.contains_iff_of_filter (h.projects projectId) hwithin) ?_
      exact h.withProjects fun id => Table.filter_get?_erase_congr (h.projects id)
  | insertInvite invite =>
      obtain rfl : invite.organizationId = organizationId := hwithin
      refine .ite_error ?_ (.done (h.withInvites fun id => ?_))
      · rw [h.any_invites_eq ha hb]
      · exact Table.filter_get?_insert_congr (h.invites id)
  | deleteInvite inviteId =>
      refine .ite_ok (Table.contains_iff_of_filter (h.invites inviteId) hwithin) ?_
      exact h.withInvites fun id => Table.filter_get?_erase_congr (h.invites id)

end SameSlice

end Store

end OrgAccess
