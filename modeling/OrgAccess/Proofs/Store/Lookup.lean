import Mathlib.Data.List.Nodup
import OrgAccess.Proofs.Store.Reachable

/-!
# Looking up organizations and members

What a store answers when it is asked for an organization or a member. In a store whose records are
filed as they should be, a reference names an organization that exists under its own identifier
(`Filed.findOrganization_eq_some_iff`), and the role that a lookup finds is the role of every
membership that links the two (`Filed.role?_eq_some_iff`).
-/

namespace OrgAccess

namespace Store

variable {store changed : Store}

/-! ## Organizations -/

/-- The identifier that a reference resolves to is that of an organization. -/
theorem Filed.get?_of_organizationId? (h : store.Filed) {reference : OrganizationRef} {id : Uuid}
    (hid : store.organizationId? reference = some id) :
    ∃ organization, store.organizations.get? id = some organization := by
  cases reference with
  | byId key =>
      simp only [organizationId?, Option.ite_none_right_eq_some, Option.some.injEq] at hid
      obtain ⟨hcontains, rfl⟩ := hid
      exact Table.contains_eq_true_iff.1 hcontains
  | bySlug slug =>
      obtain ⟨organization, hfind, rfl⟩ := Option.map_eq_some_iff.1 hid
      obtain ⟨key, hget⟩ := Table.mem_values_iff.1 (List.mem_of_find?_eq_some hfind)
      have hkey : organization.id = key := h.organizations _ _ hget
      exact ⟨organization, hkey ▸ hget⟩

/-- No reference names an organization that there is not. -/
theorem Filed.organizationId?_ne_of_gone (h : store.Filed) {id : Uuid}
    (hgone : store.organizations.get? id = none) (reference : OrganizationRef) :
    store.organizationId? reference ≠ some id := by
  intro hid
  obtain ⟨organization, hget⟩ := h.get?_of_organizationId? hid
  cases hgone.symm.trans hget

/-- A reference names an organization exactly when it resolves to the organization's identifier. -/
theorem Filed.findOrganization_eq_some_iff (h : store.Filed) {reference : OrganizationRef}
    {organization : Organization} :
    store.findOrganization reference = some organization ↔
      store.organizationId? reference = some organization.id ∧
        store.organizations.get? organization.id = some organization := by
  rw [findOrganization, Option.bind_eq_some_iff]
  constructor
  · rintro ⟨id, hid, hget⟩
    obtain rfl : organization.id = id := h.organizations _ _ hget
    exact ⟨hid, hget⟩
  · rintro ⟨hid, hget⟩
    exact ⟨organization.id, hid, hget⟩

/-- A reference that resolves names an organization. -/
theorem Filed.exists_findOrganization (h : store.Filed) {reference : OrganizationRef} {id : Uuid}
    (hid : store.organizationId? reference = some id) :
    ∃ organization, store.findOrganization reference = some organization ∧
      organization.id = id := by
  obtain ⟨organization, hget⟩ := h.get?_of_organizationId? hid
  have hkey : organization.id = id := h.organizations _ _ hget
  refine ⟨organization, h.findOrganization_eq_some_iff.2 ⟨?_, ?_⟩, hkey⟩
  · rw [hkey]
    exact hid
  · rw [hkey]
    exact hget

/-! ## Members -/

/-- The role of a user in an organization. -/
def role? (store : Store) (organizationId userId : Uuid) : Option Role :=
  (store.memberships.find? fun m => m.links organizationId userId).map Membership.role

/-- A user is a member of an organization and has a role there. -/
def HasRole (store : Store) (organizationId userId : Uuid) (role : Role) : Prop :=
  ∃ m ∈ store.memberships, m.organizationId = organizationId ∧ m.userId = userId ∧ m.role = role

/-- A membership that is found is one that links the two. -/
theorem mem_of_find?_links {memberships : List Membership} {organizationId userId : Uuid}
    {m : Membership} (h : memberships.find? (fun n => n.links organizationId userId) = some m) :
    m ∈ memberships ∧ m.link = (organizationId, userId) := by
  have hlinks : m.links organizationId userId = true := by
    simpa using List.find?_some h
  exact ⟨List.mem_of_find?_eq_some h, (m.links_iff organizationId userId).1 hlinks⟩

/-- What a lookup of a membership finds is the user, the organization and the role. -/
theorem resolveMembership_eq (store : Store) (userId : Uuid) (reference : OrganizationRef) :
    store.resolveMembership userId reference =
      (store.organizationId? reference).bind fun organizationId =>
        (store.role? organizationId userId).map fun role => ⟨userId, organizationId, role⟩ := by
  unfold resolveMembership role?
  congr 1
  funext organizationId
  cases hfind : store.memberships.find? fun m => m.links organizationId userId with
  | none => rfl
  | some m =>
      obtain ⟨rfl, rfl⟩ := Prod.mk.inj (mem_of_find?_links hfind).2
      rfl

/-- The role that is found is the role of a membership. -/
theorem hasRole_of_role? {organizationId userId : Uuid} {role : Role}
    (h : store.role? organizationId userId = some role) :
    store.HasRole organizationId userId role := by
  obtain ⟨m, hfind, hrole⟩ := Option.map_eq_some_iff.1 h
  obtain ⟨hm, hlink⟩ := mem_of_find?_links hfind
  obtain ⟨horganization, huser⟩ := Prod.mk.inj hlink
  exact ⟨m, hm, horganization, huser, hrole⟩

/-- A user has a role exactly when a lookup finds it, since there is one membership at most. -/
theorem Filed.role?_eq_some_iff (h : store.Filed) {organizationId userId : Uuid} {role : Role} :
    store.role? organizationId userId = some role ↔
      store.HasRole organizationId userId role := by
  refine ⟨hasRole_of_role?, ?_⟩
  rintro ⟨m, hm, rfl, rfl, rfl⟩
  unfold role?
  cases hfind : store.memberships.find? fun n => n.links m.organizationId m.userId with
  | none => exact absurd ((m.links_iff _ _).2 rfl) (List.find?_eq_none.1 hfind m hm)
  | some n =>
      -- the first membership that links the two is the only one
      obtain ⟨hn, hlink⟩ := mem_of_find?_links hfind
      rw [List.inj_on_of_nodup_map h.memberships hn hm hlink]
      rfl

/-- A user has one role in an organization. -/
theorem Filed.hasRole_unique (h : store.Filed) {organizationId userId : Uuid} {a b : Role}
    (ha : store.HasRole organizationId userId a) (hb : store.HasRole organizationId userId b) :
    a = b :=
  Option.some.inj ((h.role?_eq_some_iff.2 ha).symm.trans (h.role?_eq_some_iff.2 hb))

/-- A lookup finds a membership exactly when the reference names an organization in which the user
has a role, and it finds that role. -/
theorem Filed.resolveMembership_eq_some_iff (h : store.Filed) {userId : Uuid}
    {reference : OrganizationRef} {membership : ResolvedMembership} :
    store.resolveMembership userId reference = some membership ↔
      ∃ organization role, store.findOrganization reference = some organization ∧
        store.HasRole organization.id userId role ∧
        membership = ⟨userId, organization.id, role⟩ := by
  rw [resolveMembership_eq, Option.bind_eq_some_iff]
  constructor
  · rintro ⟨id, hid, hmembership⟩
    obtain ⟨role, hrole, rfl⟩ := Option.map_eq_some_iff.1 hmembership
    obtain ⟨organization, hfind, rfl⟩ := h.exists_findOrganization hid
    exact ⟨organization, role, hfind, hasRole_of_role? hrole, rfl⟩
  · rintro ⟨organization, role, hfind, hrole, rfl⟩
    refine ⟨organization.id, (h.findOrganization_eq_some_iff.1 hfind).1, ?_⟩
    rw [h.role?_eq_some_iff.2 hrole]
    rfl

/-- No membership is found exactly when the user has no role in what the reference names. -/
theorem Filed.resolveMembership_eq_none_iff (h : store.Filed) {userId : Uuid}
    {reference : OrganizationRef} :
    store.resolveMembership userId reference = none ↔
      ∀ organization role, store.findOrganization reference = some organization →
        ¬ store.HasRole organization.id userId role := by
  rw [Option.eq_none_iff_forall_ne_some]
  constructor
  · intro hnone organization role hfind hrole
    exact hnone _ (h.resolveMembership_eq_some_iff.2 ⟨organization, role, hfind, hrole, rfl⟩)
  · intro hnone membership hsome
    obtain ⟨organization, role, hfind, hrole, -⟩ := h.resolveMembership_eq_some_iff.1 hsome
    exact hnone organization role hfind hrole

/-- An organization that is named is found under its own identifier. -/
theorem Filed.findOrganization_byId (h : store.Filed) {reference : OrganizationRef}
    {organization : Organization} (hfind : store.findOrganization reference = some organization) :
    store.findOrganization (.byId organization.id) = some organization := by
  have hget := (h.findOrganization_eq_some_iff.1 hfind).2
  refine h.findOrganization_eq_some_iff.2 ⟨?_, hget⟩
  exact if_pos (Table.contains_eq_true_iff.2 ⟨organization, hget⟩)

/-! ## Changing a role -/

/-- Giving a member a role makes it the one that a lookup of the member finds. -/
theorem map_role_find?_setRole (organizationId userId : Uuid) (role : Role)
    (memberships : List Membership) :
    ((setRole organizationId userId role memberships).find?
        fun m => m.links organizationId userId).map Membership.role =
      (memberships.find? fun m => m.links organizationId userId).map fun _ => role := by
  induction memberships with
  | nil => rfl
  | cons m rest ih =>
      unfold setRole
      cases hlinks : m.links organizationId userId with
      | true =>
          -- links do not depend on roles, so the changed membership is found in the same place
          have hchanged : ({ m with role } : Membership).links organizationId userId = true :=
            hlinks
          simp only [if_true, List.find?_cons, hlinks, hchanged]
          rfl
      | false =>
          simp only [Bool.false_eq_true, if_false, List.find?_cons, hlinks]
          exact ih

/-- Giving a member another role changes the list of members. -/
theorem Filed.setRole_ne (h : store.Filed) {organizationId userId : Uuid} {role previous : Role}
    (hprevious : store.HasRole organizationId userId previous) (hne : previous ≠ role) :
    setRole organizationId userId role store.memberships ≠ store.memberships := by
  intro hsame
  have hfound := h.role?_eq_some_iff.2 hprevious
  have hchanged := map_role_find?_setRole organizationId userId role store.memberships
  obtain ⟨m, hfind, hm⟩ := Option.map_eq_some_iff.1 hfound
  rw [hsame, hfind] at hchanged
  exact hne (hm.symm.trans (Option.some.inj hchanged))

end Store

end OrgAccess
