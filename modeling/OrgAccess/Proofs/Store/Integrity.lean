import OrgAccess.Proofs.Store.Frame
import OrgAccess.Proofs.Store.Uniqueness

/-!
# Stores without strays and doubles

A store is well formed when slugs tell organizations apart, and projects of one organization, and
when every record names an organization that exists. Each change that a call can make of a store
keeps it well formed as long as what is filed names an organization that exists and has a slug of
its own. In a well formed store a slug stands for the one organization that has it
(`Filed.findOrganization_bySlug_eq_some_iff`).
-/

namespace OrgAccess

namespace Table

variable {α β : Type} {table : Table α} {target : Table β} {key : α → Uuid} {values : List α}
  {id : Uuid} {value : α}

/-- Every record of a list names a record of a table. -/
def Covers (target : Table β) (key : α → Uuid) (values : List α) : Prop :=
  ∀ value ∈ values, target.contains (key value) = true

/-- Whether a table covers a list is seen by looking up what each record names. -/
instance (target : Table β) (key : α → Uuid) (values : List α) :
    Decidable (target.Covers key values) :=
  inferInstanceAs (Decidable (∀ value ∈ values, _))

/-- A part of a list that is covered is covered. -/
theorem Covers.subset (h : target.Covers key values) {others : List α} (hsub : others ⊆ values) :
    target.Covers key others :=
  fun value hvalue => h value (hsub hvalue)

/-- A list is covered by the identifiers that its records name. -/
theorem covers_iff_forall_map :
    target.Covers key values ↔ ∀ id ∈ values.map key, target.contains id = true := by
  rw [List.forall_mem_map, Covers]

/-- Filing another record leaves a list covered. -/
theorem Covers.insert_target (h : target.Covers key values) (id : Uuid) (other : β) :
    (target.insert id other).Covers key values := by
  intro value hvalue
  rw [contains_insert, h value hvalue, Bool.or_true]

/-- A record may be removed that nothing names. -/
theorem Covers.erase_target (h : target.Covers key values) (hunnamed : ∀ value ∈ values,
    key value ≠ id) : (target.erase id).Covers key values := by
  intro value hvalue
  rw [contains_erase, h value hvalue, decide_eq_false (hunnamed value hvalue)]
  rfl

/-- The records of a table after one is filed are that one and some that were there before. -/
theorem values_insert_subset (table : Table α) (id : Uuid) (value : α) :
    (table.insert id value).values ⊆ value :: table.values := by
  intro other hother
  obtain ⟨key, hget⟩ := mem_values_iff.1 hother
  rcases get?_insert_eq_some_iff.1 hget with ⟨-, rfl⟩ | ⟨-, hget⟩
  · exact List.mem_cons_self
  · exact List.mem_cons_of_mem value (mem_values_iff.2 ⟨key, hget⟩)

/-- The records of a table after one is removed were there before. -/
theorem values_erase_subset (table : Table α) (id : Uuid) :
    (table.erase id).values ⊆ table.values :=
  List.map_subset _ List.filter_sublist.subset

/-- What holds of every record of a table still does when a record is filed of which it holds. -/
theorem forall_values_insert {P : α → Prop} (h : ∀ other ∈ table.values, P other)
    (hvalue : P value) : ∀ other ∈ (table.insert id value).values, P other := by
  intro other hother
  rcases List.mem_cons.1 (table.values_insert_subset id value hother) with hsame | hold
  · rw [hsame]
    exact hvalue
  · exact h other hold

/-- What holds of every record of a table still does when one is removed. -/
theorem forall_values_erase {P : α → Prop} (h : ∀ other ∈ table.values, P other) :
    ∀ other ∈ (table.erase id).values, P other :=
  fun other hother => h other (table.values_erase_subset id hother)

/-- What holds of every record of a table still does when those go that do not pass a test. -/
theorem forall_values_filter {P : α → Prop} (h : ∀ other ∈ table.values, P other)
    (keep : α → Bool) : ∀ other ∈ (table.filter keep).values, P other := by
  intro other hother
  rw [values_filter] at hother
  exact h other (List.mem_filter.1 hother).1

/-- A record may be filed that names one of the target. -/
theorem Covers.insert (h : target.Covers key table.values)
    (hvalue : target.contains (key value) = true) (id : Uuid) :
    target.Covers key (table.insert id value).values :=
  forall_values_insert h hvalue

/-- Any record may be removed from those that name others. -/
theorem Covers.erase (h : target.Covers key table.values) (id : Uuid) :
    target.Covers key (table.erase id).values :=
  forall_values_erase h

/-- A record may be removed along with all that name it. -/
theorem Covers.filter_erase (h : target.Covers key values) (id : Uuid) :
    (target.erase id).Covers key (values.filter fun value => key value ≠ id) :=
  (h.subset List.filter_sublist.subset).erase_target fun value hvalue => by
    simpa using (List.mem_filter.1 hvalue).2

/-- Records that are filed under what they name are removed together with it. -/
theorem Covers.erase_erase (h : target.Covers key table.values) (hfiled : table.FiledBy key)
    (id : Uuid) : (target.erase id).Covers key (table.erase id).values := by
  refine (h.erase id).erase_target fun value hvalue => ?_
  obtain ⟨other, hget⟩ := mem_values_iff.1 hvalue
  obtain ⟨hne, hget⟩ := get?_erase_eq_some_iff.1 hget
  rwa [hfiled _ _ hget]

end Table

namespace Store

variable {store : Store} {organizationId : Uuid}

/-- Slugs tell organizations apart, and the projects of each, and every record names an organization
that exists. -/
structure WellFormed (store : Store) : Prop where
  slugs : store.organizations.DistinctBy Organization.slug
  paths : store.projects.DistinctBy Project.path
  memberships : store.organizations.Covers Membership.organizationId store.memberships
  projects : store.organizations.Covers Project.organizationId store.projects.values
  invites : store.organizations.Covers Invite.organizationId store.invites.values
  billing : store.organizations.Covers BillingAccount.organizationId store.billing.values

namespace WellFormed

/-! ## Changes that keep a store well formed -/

/-- An organization whose slug no other has may be filed. -/
theorem addOrganization (h : store.WellFormed) (hstore : store.Filed) {organization : Organization}
    (hfree : ¬ store.SlugTaken organization.slug organization.id) :
    (store.addOrganization organization).WellFormed where
  slugs := by
    refine h.slugs.insert_iff.2 fun id other hget hslug => ?_
    by_contra hne
    exact hfree (hstore.slugTaken_iff.2 ⟨id, other, hne, hget, hslug⟩)
  paths := h.paths
  memberships := h.memberships.insert_target _ _
  projects := h.projects.insert_target _ _
  invites := h.invites.insert_target _ _
  billing := h.billing.insert_target _ _

/-- Everything that names an organization is removed along with it. -/
theorem withoutOrganization (h : store.WellFormed) (hstore : store.Filed) (id : Uuid) :
    (store.withoutOrganization id).WellFormed where
  slugs := h.slugs.erase id
  paths := h.paths.filter _
  memberships := h.memberships.filter_erase id
  projects := by
    rw [Store.withoutOrganization, Table.values_filter]
    exact h.projects.filter_erase id
  invites := by
    rw [Store.withoutOrganization, Table.values_filter]
    exact h.invites.filter_erase id
  billing := h.billing.erase_erase hstore.billing id

/-- Memberships name what they named before a role was changed. -/
theorem setRole (h : store.WellFormed) (organizationId userId : Uuid) (role : Role) :
    WellFormed
      { store with memberships := Store.setRole organizationId userId role store.memberships } where
  slugs := h.slugs
  paths := h.paths
  memberships := by
    -- the identifiers of the organizations are read off the links, which stay
    have hlinks : ∀ memberships : List Membership, memberships.map Membership.organizationId =
        (memberships.map Membership.link).map Prod.fst := fun memberships => by
      rw [List.map_map]
      rfl
    rw [Table.covers_iff_forall_map, hlinks, map_link_setRole, ← hlinks,
      ← Table.covers_iff_forall_map]
    exact h.memberships
  projects := h.projects
  invites := h.invites
  billing := h.billing

/-- A project may be filed in an organization that exists. -/
theorem insertProject (h : store.WellFormed) {id : Uuid} {project : Project}
    (hthere : store.organizations.contains project.organizationId = true)
    (hpaths : (store.projects.insert id project).DistinctBy Project.path) :
    WellFormed { store with projects := store.projects.insert id project } :=
  { h with
    paths := hpaths
    projects := h.projects.insert hthere id }

/-- A project may be removed. -/
theorem eraseProject (h : store.WellFormed) (id : Uuid) :
    WellFormed { store with projects := store.projects.erase id } :=
  { h with
    paths := h.paths.erase id
    projects := h.projects.erase id }

/-- An invite to an organization that exists may be filed. -/
theorem insertInvite (h : store.WellFormed) {invite : Invite}
    (hthere : store.organizations.contains invite.organizationId = true) (id : Uuid) :
    WellFormed { store with invites := store.invites.insert id invite } :=
  { h with invites := h.invites.insert hthere id }

/-- An invite may be removed. -/
theorem eraseInvite (h : store.WellFormed) (id : Uuid) :
    WellFormed { store with invites := store.invites.erase id } :=
  { h with invites := h.invites.erase id }

end WellFormed

/-! ## Slugs -/

/-- A reference names an organization by its identifier or by its slug. -/
theorem Filed.eq_byId_or_bySlug (hstore : store.Filed) {reference : OrganizationRef}
    {organization : Organization}
    (hnamed : store.organizationId? reference = some organization.id)
    (hget : store.organizations.get? organization.id = some organization) :
    reference = .byId organization.id ∨ reference = .bySlug organization.slug := by
  cases reference with
  | byId id =>
      simp only [organizationId?, Option.ite_none_right_eq_some, Option.some.injEq] at hnamed
      rw [hnamed.2]
      exact .inl rfl
  | bySlug slug =>
      obtain ⟨found, hfound, hid⟩ := Option.map_eq_some_iff.1 hnamed
      obtain ⟨key, hkey⟩ := Table.mem_values_iff.1 (List.mem_of_find?_eq_some hfound)
      obtain rfl : found.id = key := hstore.organizations _ _ hkey
      rw [hid] at hkey
      obtain rfl := Option.some.inj (hget.symm.trans hkey)
      have hslug : organization.slug = slug := by simpa using List.find?_some hfound
      rw [hslug]
      exact .inr rfl

/-- An organization whose slug no other has is named by it. -/
theorem organizationId?_bySlug {organization : Organization}
    (hget : store.organizations.get? organization.id = some organization)
    (hfree : ¬ store.SlugTaken organization.slug organization.id) :
    store.organizationId? (.bySlug organization.slug) = some organization.id := by
  have hmem : organization ∈ store.organizations.values := Table.mem_values_iff.2 ⟨_, hget⟩
  simp only [organizationId?]
  cases hfound : store.organizations.values.find? fun other => other.slug = organization.slug with
  | none => exact absurd (decide_eq_true rfl) (List.find?_eq_none.1 hfound _ hmem)
  | some found =>
      refine congrArg some (by_contra fun hne => hfree ⟨found, ?_, hne, ?_⟩)
      · exact List.mem_of_find?_eq_some hfound
      · simpa using List.find?_some hfound

/-- A slug that no organization has stands for nothing. -/
theorem organizationId?_bySlug_eq_none_iff {slug : String} :
    store.organizationId? (.bySlug slug) = none ↔
      ∀ id organization, store.organizations.get? id = some organization →
        organization.slug ≠ slug := by
  simp only [organizationId?, Option.map_eq_none_iff, List.find?_eq_none, decide_eq_true_eq]
  constructor
  · intro h id organization hget
    exact h organization (Table.mem_values_iff.2 ⟨id, hget⟩)
  · intro h organization hmem
    obtain ⟨id, hget⟩ := Table.mem_values_iff.1 hmem
    exact h id organization hget

/-- Where slugs tell organizations apart, no other organization has the slug of one. -/
theorem Filed.not_slugTaken (hstore : store.Filed)
    (hslugs : store.organizations.DistinctBy Organization.slug) {organization : Organization}
    (hget : store.organizations.get? organization.id = some organization) :
    ¬ store.SlugTaken organization.slug organization.id := by
  rw [hstore.slugTaken_iff]
  rintro ⟨id, other, hne, hother, hslug⟩
  exact hne (Table.distinctBy_iff.1 hslugs _ _ _ _ hother hget hslug)

/-- Where slugs tell organizations apart, a slug stands for the organization that has it. -/
theorem Filed.findOrganization_bySlug_eq_some_iff (hstore : store.Filed)
    (hslugs : store.organizations.DistinctBy Organization.slug) {slug : String}
    {organization : Organization} :
    store.findOrganization (.bySlug slug) = some organization ↔
      store.organizations.get? organization.id = some organization ∧ organization.slug = slug := by
  rw [hstore.findOrganization_eq_some_iff, and_comm]
  refine and_congr_right fun hget => ?_
  constructor
  · intro hnamed
    rcases hstore.eq_byId_or_bySlug hnamed hget with hid | hslug
    · cases hid
    · exact (OrganizationRef.bySlug.inj hslug).symm
  · rintro rfl
    exact organizationId?_bySlug hget (hstore.not_slugTaken hslugs hget)

end Store

end OrgAccess
