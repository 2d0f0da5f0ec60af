import OrgAccess.Proofs.Store.Writes

/-!
# Reachable stores

The operations that may change a store as data, and the stores that they lead to from the empty
one. `Reachable.filed` says what holds of each of them: records are filed under their own
identifiers, and a user has at most one membership in an organization. Each operation keeps this
(`Filed.attempt`), so a proof about reachable stores never looks at the operations again.
-/

namespace OrgAccess

namespace Table

variable {α : Type} {key : α → Uuid}

/-- Every record is filed under the identifier that it carries. -/
def FiledBy (key : α → Uuid) (table : Table α) : Prop :=
  ∀ (id : Uuid) (value : α), table.get? id = some value → key value = id

/-- In an empty table nothing is filed under a wrong identifier. -/
theorem filedBy_empty : (empty : Table α).FiledBy key := by
  intro id value h
  rw [get?_empty] at h
  exact nomatch h

/-- Filing a record under the identifier that it carries keeps the others where they are. -/
theorem FiledBy.insert {table : Table α} (h : table.FiledBy key) (value : α) :
    (table.insert (key value) value).FiledBy key := by
  intro id other hother
  rcases get?_insert_eq_some_iff.1 hother with ⟨hid, rfl⟩ | ⟨-, hother⟩
  · exact hid.symm
  · exact h _ _ hother

/-- Removing a record leaves the others filed as they were. -/
theorem FiledBy.erase {table : Table α} (h : table.FiledBy key) (id : Uuid) :
    (table.erase id).FiledBy key := by
  intro other value hvalue
  exact h _ _ (get?_erase_eq_some_iff.1 hvalue).2

/-- Removing the records that do not pass a test leaves the others filed as they were. -/
theorem FiledBy.filter {table : Table α} (h : table.FiledBy key) (keep : α → Bool) :
    (table.filter keep).FiledBy key := by
  intro id value hvalue
  rw [get?_filter, Option.filter_eq_some_iff] at hvalue
  exact h _ _ hvalue.1

end Table

/-- The organization and the user that a membership links. -/
def Membership.link (membership : Membership) : Uuid × Uuid :=
  (membership.organizationId, membership.userId)

/-- A membership links an organization and a user when these are its link. -/
theorem Membership.links_iff (membership : Membership) (organizationId userId : Uuid) :
    membership.links organizationId userId = true ↔
      membership.link = (organizationId, userId) := by
  simp [Membership.links, Membership.link]

namespace Store

/-! ## Commands -/

/-- An operation of the store that may change it. -/
inductive Command where
  | addOrganization (organization : Organization)
  | addMembership (membership : Membership)
  | addBilling (account : BillingAccount)
  | saveOrganization (organization : Organization)
  | deleteOrganization (id : Uuid)
  | setMemberRole (organizationId userId : Uuid) (role : Role)
  | insertProject (project : Project)
  | saveProject (project : Project)
  | deleteProject (id : Uuid)
  | insertInvite (invite : Invite)
  | deleteInvite (id : Uuid)
deriving DecidableEq

/-- What a command makes of a store, unless it is refused. -/
def attempt (store : Store) : Command → Except Failure Store
  | .addOrganization organization => .ok (store.addOrganization organization)
  | .addMembership membership => .ok (store.addMembership membership)
  | .addBilling account => .ok (store.addBilling account)
  | .saveOrganization organization => store.saveOrganization organization
  | .deleteOrganization id => store.deleteOrganization id
  | .setMemberRole organizationId userId role =>
      store.setMemberRole organizationId userId role
  | .insertProject project => store.insertProject project
  | .saveProject project => store.saveProject project
  | .deleteProject id => store.deleteProject id
  | .insertInvite invite => store.insertInvite invite
  | .deleteInvite id => store.deleteInvite id

/-- A store that commands lead to from the empty store. A refused command changes nothing, so only
the others are steps. -/
inductive Reachable : Store → Prop where
  | empty : Reachable .empty
  | step {store changed : Store} (command : Command) (h : Reachable store)
      (hattempt : store.attempt command = .ok changed) : Reachable changed

/-! ## What holds of every reachable store -/

/-- Records are filed under their own identifiers, accounts under those of their organizations,
and a user has at most one membership in an organization. -/
structure Filed (store : Store) : Prop where
  organizations : store.organizations.FiledBy Organization.id
  projects : store.projects.FiledBy Project.id
  invites : store.invites.FiledBy Invite.id
  billing : store.billing.FiledBy BillingAccount.organizationId
  memberships : (store.memberships.map Membership.link).Nodup

/-- In the empty store nothing is filed under a wrong identifier. -/
theorem filed_empty : (empty : Store).Filed where
  organizations := Table.filedBy_empty
  projects := Table.filedBy_empty
  invites := Table.filedBy_empty
  billing := Table.filedBy_empty
  memberships := List.nodup_nil

/-- Changing the role of a member changes no link. -/
theorem map_link_setRole (organizationId userId : Uuid) (role : Role)
    (memberships : List Membership) :
    (setRole organizationId userId role memberships).map Membership.link =
      memberships.map Membership.link := by
  induction memberships with
  | nil => rfl
  | cons m rest ih =>
      unfold setRole
      split
      · rfl
      · rw [List.map_cons, List.map_cons, ih]

/-- A membership that is filed is the only one with its link. -/
theorem nodup_link_addMembership {memberships : List Membership}
    (h : (memberships.map Membership.link).Nodup) (membership : Membership) :
    ((memberships.filter (fun m => !m.links membership.organizationId membership.userId)
      ++ [membership]).map Membership.link).Nodup := by
  rw [List.map_append, List.nodup_append]
  refine ⟨h.sublist (List.filter_sublist.map _), by simp, ?_⟩
  intro link hlink other hother
  obtain ⟨m, hm, rfl⟩ := List.mem_map.1 hlink
  obtain rfl : other = membership.link := by simpa using hother
  intro heq
  have hlinks := (m.links_iff membership.organizationId membership.userId).2 heq
  simp [List.mem_filter, hlinks] at hm

/-- An organization is filed under its identifier. -/
theorem Filed.addOrganization {store : Store} (h : store.Filed) (organization : Organization) :
    (store.addOrganization organization).Filed :=
  { h with organizations := h.organizations.insert organization }

/-- A membership that is added replaces the one that its user had in the organization. -/
theorem Filed.addMembership {store : Store} (h : store.Filed) (membership : Membership) :
    (store.addMembership membership).Filed :=
  { h with memberships := nodup_link_addMembership h.memberships membership }

/-- A billing account is filed under its organization. -/
theorem Filed.addBilling {store : Store} (h : store.Filed) (account : BillingAccount) :
    (store.addBilling account).Filed :=
  { h with billing := h.billing.insert account }

/-- Removing an organization and what names it leaves the rest filed. -/
theorem Filed.withoutOrganization {store : Store} (h : store.Filed) (id : Uuid) :
    (store.withoutOrganization id).Filed where
  organizations := h.organizations.erase id
  projects := h.projects.filter _
  invites := h.invites.filter _
  billing := h.billing.erase id
  memberships := h.memberships.sublist (List.filter_sublist.map _)

/-- A command that is not refused leaves records filed as they should be. -/
theorem Filed.attempt {store changed : Store} (h : store.Filed) {command : Command}
    (hattempt : store.attempt command = .ok changed) : changed.Filed := by
  cases command with
  | addOrganization organization =>
      obtain rfl := Except.ok.inj hattempt
      exact h.addOrganization organization
  | addMembership membership =>
      obtain rfl := Except.ok.inj hattempt
      exact h.addMembership membership
  | addBilling account =>
      obtain rfl := Except.ok.inj hattempt
      exact h.addBilling account
  | saveOrganization organization =>
      obtain ⟨_, _, rfl⟩ := saveOrganization_eq_ok_iff.1 hattempt
      exact h.addOrganization organization
  | deleteOrganization id =>
      obtain ⟨_, rfl⟩ := deleteOrganization_eq_ok_iff.1 hattempt
      exact h.withoutOrganization id
  | setMemberRole organizationId userId role =>
      obtain ⟨_, rfl⟩ := setMemberRole_eq_ok_iff.1 hattempt
      refine { h with memberships := ?_ }
      rw [map_link_setRole]
      exact h.memberships
  | insertProject project =>
      obtain ⟨_, rfl⟩ := insertProject_eq_ok_iff.1 hattempt
      exact { h with projects := h.projects.insert project }
  | saveProject project =>
      obtain ⟨_, rfl⟩ := saveProject_eq_ok_iff.1 hattempt
      exact { h with projects := h.projects.insert project }
  | deleteProject id =>
      obtain ⟨_, rfl⟩ := deleteProject_eq_ok_iff.1 hattempt
      exact { h with projects := h.projects.erase id }
  | insertInvite invite =>
      obtain ⟨_, rfl⟩ := insertInvite_eq_ok_iff.1 hattempt
      exact { h with invites := h.invites.insert invite }
  | deleteInvite id =>
      obtain ⟨_, rfl⟩ := deleteInvite_eq_ok_iff.1 hattempt
      exact { h with invites := h.invites.erase id }

/-- In every reachable store records are filed as they should be. -/
theorem Reachable.filed {store : Store} (h : store.Reachable) : store.Filed := by
  induction h with
  | empty => exact filed_empty
  | step command _ hattempt ih => exact ih.attempt hattempt

/-! ## A slug that is not unique -/

/-- A store in which two organizations have one slug. The first has an admin, who owns it, and a
member; filing an organization asks for no free slug. -/
def sharedSlug : Store :=
  (((empty.addOrganization (acme 1)).addOrganization (acme 2)).addMembership
    (seat 11 .admin)).addMembership (seat 13 .member)
where
  /-- When everything in the store was made. -/
  start : Instant :=
    { seconds := 0, nanos := 0 }
  /-- An organization with the slug. -/
  acme (id : Nat) : Organization :=
    { id := .ofNat id
      name := "Acme"
      slug := "acme"
      description := none
      ownerId := .ofNat 11
      createdAt := start
      updatedAt := start }
  /-- The membership of a user in the first organization. -/
  seat (user : Nat) (role : Role) : Membership :=
    { id := .ofNat (user + 1)
      organizationId := .ofNat 1
      userId := .ofNat user
      role
      joinedAt := start }

/-- The store in which two organizations share a slug is reachable. -/
theorem reachable_sharedSlug : sharedSlug.Reachable := by
  have hfirst : (empty.addOrganization (sharedSlug.acme 1)).Reachable :=
    .step (.addOrganization _) .empty rfl
  have hsecond := Reachable.step (.addOrganization (sharedSlug.acme 2)) hfirst rfl
  have howner := Reachable.step (.addMembership (sharedSlug.seat 11 .admin)) hsecond rfl
  exact .step (.addMembership (sharedSlug.seat 13 .member)) howner rfl

end Store

end OrgAccess
