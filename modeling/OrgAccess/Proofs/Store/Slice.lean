import OrgAccess.Proofs.Instant.Order
import OrgAccess.Proofs.Store.Lookup

/-!
# The records of one organization

What of a store belongs to one organization. `SameOrganization` says that two stores have the same
organization with the same members, and `SameSlice` that they have the same projects, invites and
billing account of it too. Everything that an operation on an organization reads is determined by
its slice: who has which role (`SameOrganization.role?_eq`), which records it finds, how many seats
are taken (`SameSlice.seatCount_eq`), and, up to the order of equally old ones, which invites it
lists (`SameSlice.listInvites_perm`).
-/

namespace OrgAccess

namespace Table

variable {α : Type} {key : α → Uuid} {a b table : Table α}

/-- In a table filed by the records' own identifiers no two records have the same. -/
theorem FiledBy.nodup_map_values (h : table.FiledBy key) : (table.values.map key).Nodup := by
  have hkeys : table.values.map key = table.keys := by
    rw [values, keys, List.map_map]
    refine List.map_congr_left ?_
    rintro ⟨id, value⟩ hentry
    exact h id value (get?_eq_some_iff.2 hentry)
  rw [hkeys]
  exact table.nodup

/-- And no record stands twice. -/
theorem FiledBy.nodup_values (h : table.FiledBy key) : table.values.Nodup :=
  h.nodup_map_values.of_map key

/-- A record that passes a test is in a table exactly when it is found under its identifier. -/
theorem FiledBy.mem_filter_values_iff (h : table.FiledBy key) {keep : α → Bool} {value : α} :
    value ∈ table.values.filter keep ↔ (table.get? (key value)).filter keep = some value := by
  rw [List.mem_filter, Option.filter_eq_some_iff, mem_values_iff]
  refine and_congr_left fun _ => ?_
  constructor
  · rintro ⟨id, hget⟩
    rwa [h id value hget]
  · intro hget
    exact ⟨key value, hget⟩

/-- Two tables in which the same records pass a test list them in the same order or another. -/
theorem FiledBy.filter_values_perm (ha : a.FiledBy key) (hb : b.FiledBy key) {keep : α → Bool}
    (h : ∀ id, (a.get? id).filter keep = (b.get? id).filter keep) :
    (a.values.filter keep).Perm (b.values.filter keep) := by
  -- neither lists a record twice, so it is enough that they list the same records
  refine (List.perm_ext_iff_of_nodup (ha.nodup_values.filter keep)
    (hb.nodup_values.filter keep)).2 fun value => ?_
  rw [ha.mem_filter_values_iff, hb.mem_filter_values_iff, h]

end Table

namespace Store

/-! ## Slices -/

/-- The memberships in an organization, in order. -/
def membersOf (store : Store) (organizationId : Uuid) : List Membership :=
  store.memberships.filter fun m => m.organizationId = organizationId

/-- Two stores have the same organization under an identifier, with the same members. -/
structure SameOrganization (a b : Store) (organizationId : Uuid) : Prop where
  organization : a.organizations.get? organizationId = b.organizations.get? organizationId
  members : a.membersOf organizationId = b.membersOf organizationId

/-- Two stores have the same records of an organization. -/
structure SameSlice (a b : Store) (organizationId : Uuid) : Prop
    extends SameOrganization a b organizationId where
  projects : ∀ id, a.findProject organizationId id = b.findProject organizationId id
  invites : ∀ id, a.findInvite organizationId id = b.findInvite organizationId id
  billing : a.findBilling organizationId = b.findBilling organizationId

variable {a b c store : Store} {organizationId : Uuid}

namespace SameOrganization

/-- Every store has the same organization as itself. -/
theorem refl (store : Store) (organizationId : Uuid) :
    store.SameOrganization store organizationId := ⟨rfl, rfl⟩

/-- Two stores have the same organization in either order. -/
theorem symm (h : a.SameOrganization b organizationId) :
    b.SameOrganization a organizationId :=
  ⟨h.organization.symm, h.members.symm⟩

/-- Stores with the same organization as a third one have the same. -/
theorem trans (hab : a.SameOrganization b organizationId)
    (hbc : b.SameOrganization c organizationId) : a.SameOrganization c organizationId :=
  ⟨hab.organization.trans hbc.organization, hab.members.trans hbc.members⟩

end SameOrganization

namespace SameSlice

/-- Every store has the same slice as itself. -/
theorem refl (store : Store) (organizationId : Uuid) :
    store.SameSlice store organizationId where
  toSameOrganization := .refl store organizationId
  projects _ := rfl
  invites _ := rfl
  billing := rfl

/-- Two stores have the same slice in either order. -/
theorem symm (h : a.SameSlice b organizationId) : b.SameSlice a organizationId where
  toSameOrganization := h.toSameOrganization.symm
  projects id := (h.projects id).symm
  invites id := (h.invites id).symm
  billing := h.billing.symm

/-- Stores with the same slice as a third one have the same. -/
theorem trans (hab : a.SameSlice b organizationId) (hbc : b.SameSlice c organizationId) :
    a.SameSlice c organizationId where
  toSameOrganization := hab.toSameOrganization.trans hbc.toSameOrganization
  projects id := (hab.projects id).trans (hbc.projects id)
  invites id := (hab.invites id).trans (hbc.invites id)
  billing := hab.billing.trans hbc.billing

end SameSlice

/-! ## What the organization and its members determine -/

/-- A membership of a user is looked for among the members of the organization. -/
theorem find?_links_eq (store : Store) (organizationId userId : Uuid) :
    store.memberships.find? (fun m => m.links organizationId userId) =
      (store.membersOf organizationId).find? fun m => m.links organizationId userId := by
  rw [membersOf, List.find?_filter]
  congr 1
  funext m
  simp [Membership.links]

/-- Who has which role in an organization is found among its members. -/
theorem hasRole_iff_mem_membersOf {userId : Uuid} {role : Role} :
    store.HasRole organizationId userId role ↔
      ∃ m ∈ store.membersOf organizationId, m.userId = userId ∧ m.role = role := by
  simp [HasRole, membersOf, and_assoc]

/-- The identifier that a reference resolves to is that of the membership that is found. -/
theorem organizationId?_of_resolveMembership {userId : Uuid} {reference : OrganizationRef}
    {membership : ResolvedMembership}
    (h : store.resolveMembership userId reference = some membership) :
    store.organizationId? reference = some membership.organizationId := by
  rw [resolveMembership_eq, Option.bind_eq_some_iff] at h
  obtain ⟨id, hid, hmembership⟩ := h
  obtain ⟨role, -, rfl⟩ := Option.map_eq_some_iff.1 hmembership
  exact hid

namespace SameOrganization

/-- A user has the same role in both stores, if any. -/
theorem role?_eq (h : a.SameOrganization b organizationId) (userId : Uuid) :
    a.role? organizationId userId = b.role? organizationId userId := by
  rw [role?, role?, find?_links_eq, find?_links_eq, h.members]

/-- A user has a role in both stores or in neither. -/
theorem hasRole_iff (h : a.SameOrganization b organizationId) {userId : Uuid} {role : Role} :
    a.HasRole organizationId userId role ↔ b.HasRole organizationId userId role := by
  rw [hasRole_iff_mem_membersOf, hasRole_iff_mem_membersOf, h.members]

/-- A reference that resolves to the organization in both stores names it in both. -/
theorem findOrganization_eq (h : a.SameOrganization b organizationId)
    {reference : OrganizationRef} (ha : a.organizationId? reference = some organizationId)
    (hb : b.organizationId? reference = some organizationId) :
    a.findOrganization reference = b.findOrganization reference := by
  rw [findOrganization, findOrganization, ha, hb]
  exact h.organization

/-- A membership is resolved alike where the reference names the organization in both stores. -/
theorem resolveMembership_eq (h : a.SameOrganization b organizationId) (userId : Uuid)
    {reference : OrganizationRef} (ha : a.organizationId? reference = some organizationId)
    (hb : b.organizationId? reference = some organizationId) :
    a.resolveMembership userId reference = b.resolveMembership userId reference := by
  rw [Store.resolveMembership_eq, Store.resolveMembership_eq, ha, hb]
  simp only [Option.bind_some, h.role?_eq]

end SameOrganization

/-! ## What the records determine -/

/-- The invites that are listed are those of the organization, in some order. -/
theorem listInvites_perm_filter (store : Store) (organizationId : Uuid) :
    (store.listInvites organizationId).Perm
      (store.invites.values.filter fun i => i.organizationId = organizationId) :=
  List.mergeSort_perm _ _

/-- The invites that are listed are the stored ones that name the organization. -/
theorem mem_listInvites_iff {invite : Invite} :
    invite ∈ store.listInvites organizationId ↔
      invite ∈ store.invites.values ∧ invite.organizationId = organizationId := by
  rw [(store.listInvites_perm_filter organizationId).mem_iff, List.mem_filter, decide_eq_true_eq]

/-- An invite is listed exactly when it is found. -/
theorem Filed.mem_listInvites_iff_findInvite (hstore : store.Filed) {invite : Invite} :
    invite ∈ store.listInvites organizationId ↔
      store.findInvite organizationId invite.id = some invite := by
  rw [(store.listInvites_perm_filter organizationId).mem_iff, hstore.invites.mem_filter_values_iff]
  rfl

/-- No two invites that are listed have the same identifier. -/
theorem Filed.nodup_map_id_listInvites (hstore : store.Filed) (organizationId : Uuid) :
    ((store.listInvites organizationId).map Invite.id).Nodup := by
  refine (((store.listInvites_perm_filter organizationId).map Invite.id).nodup_iff).2 ?_
  exact hstore.invites.nodup_map_values.sublist (List.filter_sublist.map _)

/-- Invites are listed with their ages in order. -/
theorem pairwise_listInvites (store : Store) (organizationId : Uuid) :
    (store.listInvites organizationId).Pairwise fun i j => i.createdAt ≤ j.createdAt := by
  have htrans : ∀ i j k : Invite, decide (i.createdAt ≤ j.createdAt) = true →
      decide (j.createdAt ≤ k.createdAt) = true → decide (i.createdAt ≤ k.createdAt) = true := by
    intro i j k hij hjk
    rw [decide_eq_true_eq] at hij hjk ⊢
    exact le_trans hij hjk
  have htotal : ∀ i j : Invite,
      (decide (i.createdAt ≤ j.createdAt) || decide (j.createdAt ≤ i.createdAt)) = true := by
    intro i j
    simpa using le_total i.createdAt j.createdAt
  simpa only [listInvites, decide_eq_true_eq] using List.pairwise_mergeSort htrans htotal _

namespace SameSlice

/-- The projects of the organization are the same, up to their order. -/
theorem projects_perm (ha : a.Filed) (hb : b.Filed) (h : a.SameSlice b organizationId) :
    (a.projects.values.filter fun p => p.organizationId = organizationId).Perm
      (b.projects.values.filter fun p => p.organizationId = organizationId) :=
  ha.projects.filter_values_perm hb.projects h.projects

/-- The invites to the organization are the same, up to their order. -/
theorem invites_perm (ha : a.Filed) (hb : b.Filed) (h : a.SameSlice b organizationId) :
    (a.invites.values.filter fun i => i.organizationId = organizationId).Perm
      (b.invites.values.filter fun i => i.organizationId = organizationId) :=
  ha.invites.filter_values_perm hb.invites h.invites

/-- As many memberships and pending invites are counted in both stores. -/
theorem seatCount_eq (ha : a.Filed) (hb : b.Filed) (h : a.SameSlice b organizationId) :
    a.seatCount organizationId = b.seatCount organizationId := by
  have hmembers : (a.memberships.filter fun m => m.organizationId = organizationId) =
      b.memberships.filter fun m => m.organizationId = organizationId := h.members
  rw [seatCount, seatCount, hmembers, (h.invites_perm ha hb).length_eq]

/-- As many seats are in use in both stores, or too many to be counted. -/
theorem seatsInUse_eq (ha : a.Filed) (hb : b.Filed) (h : a.SameSlice b organizationId) :
    a.seatsInUse organizationId = b.seatsInUse organizationId := by
  rw [seatsInUse, seatsInUse, h.seatCount_eq ha hb]

/-- The invites that are listed are the same, though equally old ones may change places. -/
theorem listInvites_perm (ha : a.Filed) (hb : b.Filed) (h : a.SameSlice b organizationId) :
    (a.listInvites organizationId).Perm (b.listInvites organizationId) :=
  ((a.listInvites_perm_filter organizationId).trans (h.invites_perm ha hb)).trans
    (b.listInvites_perm_filter organizationId).symm

/-- The ages of the invites that are listed are the same, place by place. -/
theorem map_createdAt_listInvites (ha : a.Filed) (hb : b.Filed) (h : a.SameSlice b organizationId) :
    (a.listInvites organizationId).map Invite.createdAt =
      (b.listInvites organizationId).map Invite.createdAt :=
  ((h.listInvites_perm ha hb).map Invite.createdAt).eq_of_pairwise
    (fun _ _ _ _ hle hge => le_antisymm hle hge)
    (List.pairwise_map.2 (a.pairwise_listInvites organizationId))
    (List.pairwise_map.2 (b.pairwise_listInvites organizationId))

end SameSlice

/-! ## Two organizations in one store -/

/-- A store with two organizations that have a project with the same slug and an invite for the
same address. The first has two admins, one of whom owns it, a member and a billing account; the
second is its owner's alone. -/
def neighbours : Store :=
  { founded with
    projects := (Table.empty.insert (.ofNat 21) (site 1 21 13)).insert (.ofNat 22) (site 2 22 14)
    invites :=
      (Table.empty.insert (.ofNat 31) (offer 1 31 11)).insert (.ofNat 32) (offer 2 32 14) }
where
  /-- An organization with a slug and an owner. -/
  tenant (id : Nat) (slug : String) (owner : Nat) : Organization :=
    { sharedSlug.acme id with slug, ownerId := .ofNat owner }
  /-- The membership of a user in an organization. -/
  seat (organization user : Nat) (role : Role) : Membership :=
    { sharedSlug.seat user role with organizationId := .ofNat organization }
  /-- A project of an organization. -/
  site (organization id owner : Nat) : Project :=
    { id := .ofNat id
      organizationId := .ofNat organization
      name := "Site"
      slug := "site"
      description := none
      ownerId := .ofNat owner
      createdAt := sharedSlug.start
      updatedAt := sharedSlug.start }
  /-- An invite to an organization. -/
  offer (organization id author : Nat) : Invite :=
    .new (.ofNat id) (.ofNat organization) "jane@example.com" .member (.ofNat author)
      sharedSlug.start
  /-- The organizations with their members. -/
  founded : Store :=
    let tenants := (empty.addOrganization (tenant 1 "acme" 11)).addOrganization
      (tenant 2 "bolt" 14)
    let admins := ((tenants.addMembership (seat 1 11 .admin)).addMembership
      (seat 1 12 .admin)).addMembership (seat 2 14 .admin)
    (admins.addMembership (seat 1 13 .member)).addBilling ⟨.ofNat 1, .ofNat 11, .free, none⟩

/-- The store with two organizations is reachable. -/
theorem reachable_neighbours : neighbours.Reachable := by
  have hacme := Reachable.step (.addOrganization (neighbours.tenant 1 "acme" 11)) .empty rfl
  have hbolt := Reachable.step (.addOrganization (neighbours.tenant 2 "bolt" 14)) hacme rfl
  have howner := Reachable.step (.addMembership (neighbours.seat 1 11 .admin)) hbolt rfl
  have hadmin := Reachable.step (.addMembership (neighbours.seat 1 12 .admin)) howner rfl
  have hother := Reachable.step (.addMembership (neighbours.seat 2 14 .admin)) hadmin rfl
  have hmember := Reachable.step (.addMembership (neighbours.seat 1 13 .member)) hother rfl
  have hfounded := Reachable.step (.addBilling ⟨.ofNat 1, .ofNat 11, .free, none⟩) hmember rfl
  have hsite := Reachable.step (.insertProject (neighbours.site 1 21 13)) hfounded
    (insertProject_eq_ok_iff.2 ⟨by decide, rfl⟩)
  have hsites := Reachable.step (.insertProject (neighbours.site 2 22 14)) hsite
    (insertProject_eq_ok_iff.2 ⟨by decide, rfl⟩)
  have hoffer := Reachable.step (.insertInvite (neighbours.offer 1 31 11)) hsites
    (insertInvite_eq_ok_iff.2 ⟨by decide, rfl⟩)
  exact .step (.insertInvite (neighbours.offer 2 32 14)) hoffer
    (insertInvite_eq_ok_iff.2 ⟨by decide, rfl⟩)

end Store

end OrgAccess
