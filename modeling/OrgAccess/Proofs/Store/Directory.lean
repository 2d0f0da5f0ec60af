import Mathlib.Logic.Function.Basic
import OrgAccess.Proofs.Store.Frame
import OrgAccess.Proofs.Store.History

/-!
# The directory of members

Who is a member of what, and in which role, is kept as a list that is searched for its first hit.
A `Directory` is the same as a map, in which the last write of a pair counts, together with the
organizations that exist. Every operation does to the store what `Directory.note` says of the
directory (`Directory.Describes.ask`), and so does every history. Lookups of members and the answers
to changes of roles and removals of organizations are read off the directory then
(`Directory.Describes.resolveMembership_byId`).
-/

namespace OrgAccess

namespace Store

variable {store changed : Store} {organizationId userId : Uuid}

/-! ## Roles -/

/-- A membership does not link what is not its link. -/
theorem links_eq_false_of_ne {membership : Membership} {organizationId userId : Uuid}
    (h : (organizationId, userId) ≠ membership.link) :
    membership.links organizationId userId = false :=
  eq_false_of_ne_true fun hlinks => h ((membership.links_iff _ _).1 hlinks).symm

/-- A membership that is added gives its user its role and leaves all others theirs. -/
theorem role?_addMembership (store : Store) (membership : Membership)
    (organizationId userId : Uuid) :
    (store.addMembership membership).role? organizationId userId =
      if (organizationId, userId) = membership.link then some membership.role
      else store.role? organizationId userId := by
  rw [role?, addMembership, List.find?_append, List.find?_filter, List.find?_singleton]
  by_cases hlink : (organizationId, userId) = membership.link
  · -- the memberships that were found before are filtered out
    have hself : membership.links organizationId userId = true :=
      (membership.links_iff _ _).2 hlink.symm
    obtain ⟨rfl, rfl⟩ := Prod.mk.inj hlink
    rw [if_pos hlink, if_pos hself, List.find?_eq_none.2 (by simp)]
    rfl
  · have hkept : ∀ m : Membership, decide ((!m.links membership.organizationId membership.userId)
        = true ∧ m.links organizationId userId = true) = m.links organizationId userId := by
      intro m
      cases hm : m.links organizationId userId with
      | false => simp
      | true =>
          have hother : m.links membership.organizationId membership.userId = false := by
            apply links_eq_false_of_ne
            rw [(m.links_iff _ _).1 hm]
            exact Ne.symm hlink
          simp [hother]
    have hnew : membership.links organizationId userId = false := links_eq_false_of_ne hlink
    simp only [hkept, hnew]
    rw [if_neg hlink, if_neg Bool.false_ne_true, Option.or_none]
    rfl

/-- A change of role is not seen under another link. -/
theorem find?_setRole_of_ne {other : Uuid × Uuid} (h : other ≠ (organizationId, userId))
    (role : Role) (memberships : List Membership) :
    (setRole organizationId userId role memberships).find? (fun m => m.links other.1 other.2) =
      memberships.find? fun m => m.links other.1 other.2 := by
  induction memberships with
  | nil => rfl
  | cons m rest ih =>
      unfold setRole
      split
      · next hlinks =>
        have hm : m.link = (organizationId, userId) := (m.links_iff _ _).1 hlinks
        have hother : m.links other.1 other.2 = false := links_eq_false_of_ne (hm ▸ h)
        have hchanged : ({ m with role } : Membership).links other.1 other.2 = false := hother
        rw [List.find?_cons_of_neg (by simp [hchanged]), List.find?_cons_of_neg (by simp [hother])]
      · rw [List.find?_cons, List.find?_cons, ih]

/-- A change of role gives a member the new one, and nobody else any. -/
theorem role?_setRole (store : Store) (organizationId userId : Uuid) (role : Role)
    (other : Uuid × Uuid) :
    { store with memberships := setRole organizationId userId role store.memberships }.role?
        other.1 other.2 =
      if other = (organizationId, userId) then
        (store.role? organizationId userId).map fun _ => role
      else store.role? other.1 other.2 := by
  split
  · next h =>
    subst h
    rw [role?, map_role_find?_setRole, role?, Option.map_map]
    rfl
  · next h => rw [role?, find?_setRole_of_ne h, role?]

/-- Nobody has a role in an organization that is removed, and elsewhere all have theirs. -/
theorem role?_withoutOrganization (store : Store) (id organizationId userId : Uuid) :
    (store.withoutOrganization id).role? organizationId userId =
      if organizationId = id then none else store.role? organizationId userId := by
  rw [role?, withoutOrganization, List.find?_filter]
  split
  · next h =>
    subst h
    rw [List.find?_eq_none.2]
    · rfl
    · intro m _ hm
      simp only [Membership.links, decide_eq_true_eq, Bool.and_eq_true] at hm
      exact hm.1 hm.2.1
  · next h =>
    rw [role?]
    congr 2
    funext m
    by_cases hm : m.organizationId = organizationId <;> simp [Membership.links, hm, h]

/-! ## Commands that may be refused -/

/-- Changing a role is refused to those who have none. -/
theorem ask_setMemberRole (store : Store) (organizationId userId : Uuid) (role : Role) :
    (Command.setMemberRole organizationId userId role).ask store =
      if (store.role? organizationId userId).isSome then
        (.ok (),
          { store with memberships := setRole organizationId userId role store.memberships })
      else (.error (.notFound (.member userId organizationId)), store) := by
  have hmember : (store.role? organizationId userId).isSome =
      store.memberships.any fun m => m.links organizationId userId := by
    rw [role?, Option.isSome_map, List.isSome_find?]
  split
  · next h =>
    rw [hmember] at h
    exact Command.ask_of_ok (if_pos h)
  · next h =>
    rw [hmember] at h
    exact Command.ask_of_error (if_neg h)

/-- Removing an organization is refused when there is none. -/
theorem ask_deleteOrganization (store : Store) (id : Uuid) :
    (Command.deleteOrganization id).ask store =
      if store.organizations.contains id then (.ok (), store.withoutOrganization id)
      else (.error (.notFound (.organization (.byId id))), store) := by
  split
  · next h => exact Command.ask_of_ok (if_pos h)
  · next h => exact Command.ask_of_error (if_neg h)

end Store

/-! ## Directories -/

/-- The organizations that exist, and the role that each user was given last in each organization,
whether it exists or not. -/
structure Directory where
  present : Uuid → Bool
  roles : Uuid × Uuid → Option Role

namespace Directory

/-- The directory without organizations and members. -/
def empty : Directory :=
  ⟨fun _ => false, fun _ => none⟩

/-- The directory with a role given to a user in an organization. -/
def give (directory : Directory) (link : Uuid × Uuid) (role : Role) : Directory :=
  { directory with roles := Function.update directory.roles link (some role) }

/-- What an operation does to the directory. A role is changed only where there is one, and members
are erased only with an organization that exists. -/
def note (directory : Directory) : Store.Operation → Directory
  | .write (.addOrganization organization) =>
      { directory with present := Function.update directory.present organization.id true }
  | .write (.addMembership membership) => directory.give membership.link membership.role
  | .write (.setMemberRole organizationId userId role) =>
      if (directory.roles (organizationId, userId)).isSome then
        directory.give (organizationId, userId) role
      else directory
  | .write (.deleteOrganization id) =>
      if directory.present id then
        { present := Function.update directory.present id false
          roles := fun link => if link.1 = id then none else directory.roles link }
      else directory
  | _ => directory

/-- The directory after a history. -/
def after (directory : Directory) (history : List Store.Operation) : Directory :=
  history.foldl note directory

/-- A directory has the organizations and the members of a store. -/
structure Describes (directory : Directory) (store : Store) : Prop where
  present : ∀ id, store.organizations.contains id = directory.present id
  roles : ∀ link, store.role? link.1 link.2 = directory.roles link

namespace Describes

variable {directory : Directory} {store changed : Store}

/-- The empty directory is that of the empty store. -/
theorem empty : Directory.empty.Describes .empty :=
  ⟨fun _ => rfl, fun _ => rfl⟩

/-- The directory of a store is that of every store with the same organizations and members. -/
theorem of_sameOrganization (h : directory.Describes store)
    (hsame : ∀ id, changed.SameOrganization store id) : directory.Describes changed where
  present id := by
    rw [← h.present, Table.contains, (hsame id).organization]
    rfl
  roles link := by rw [← h.roles, (hsame link.1).role?_eq]

/-- An organization that is added to the store is added to the directory. -/
theorem addOrganization (h : directory.Describes store) (organization : Organization) :
    (directory.note (.write (.addOrganization organization))).Describes
      (store.addOrganization organization) where
  present id := by
    rw [Store.addOrganization, Table.contains_insert, h.present]
    refine Eq.trans ?_ (Function.update_apply _ _ _ _).symm
    split <;> simp [*]
  roles link := h.roles link

/-- A membership that is added to the store is added to the directory. -/
theorem addMembership (h : directory.Describes store) (membership : Membership) :
    (directory.note (.write (.addMembership membership))).Describes
      (store.addMembership membership) where
  present id := h.present id
  roles link := by
    rw [Store.role?_addMembership, h.roles]
    exact (Function.update_apply _ _ _ _).symm

/-- A change of role does the same to both, also where there is no role to change. -/
theorem setMemberRole (h : directory.Describes store) (organizationId userId : Uuid)
    (role : Role) :
    (directory.note (.write (.setMemberRole organizationId userId role))).Describes
      ((Store.Command.setMemberRole organizationId userId role).ask store).2 := by
  rw [Store.ask_setMemberRole, note, ← h.roles]
  split
  · next hmember =>
    obtain ⟨previous, hprevious⟩ := Option.isSome_iff_exists.1 hmember
    refine ⟨h.present, fun link => ?_⟩
    rw [Store.role?_setRole, hprevious, h.roles]
    exact (Function.update_apply _ _ _ _).symm
  · exact h

/-- An organization that is deleted leaves the directory with all its members. -/
theorem deleteOrganization (h : directory.Describes store) (id : Uuid) :
    (directory.note (.write (.deleteOrganization id))).Describes
      ((Store.Command.deleteOrganization id).ask store).2 := by
  rw [Store.ask_deleteOrganization, note, ← h.present]
  split
  · next hpresent =>
    refine ⟨fun other => ?_, fun link => ?_⟩
    · rw [Store.withoutOrganization, Table.contains_erase, h.present]
      refine Eq.trans ?_ (Function.update_apply _ _ _ _).symm
      split <;> simp [*]
    · rw [Store.role?_withoutOrganization, h.roles]
  · exact h

/-- An organization that is saved was there before. -/
theorem saveOrganization (h : directory.Describes store) (organization : Organization) :
    directory.Describes ((Store.Command.saveOrganization organization).ask store).2 := by
  cases hattempt : store.attempt (.saveOrganization organization) with
  | error failure => rwa [Store.Command.ask_of_error hattempt]
  | ok changed =>
      obtain ⟨hstored, -, rfl⟩ := Store.saveOrganization_eq_ok_iff.1 hattempt
      rw [Store.Command.ask_of_ok hattempt]
      refine ⟨fun id => ?_, h.roles⟩
      rw [Store.addOrganization, Table.contains_insert, ← h.present]
      by_cases hid : id = organization.id
      · subst hid
        rw [Table.contains_eq_true_iff.2 hstored, Bool.or_true]
      · simp [hid]

/-- Whatever is done to projects, invites and accounts, the directory stays. -/
theorem sparing (h : directory.Describes store) {command : Store.Command}
    (hspares : command.SparesOrganizations) :
    directory.Describes (command.ask store).2 := by
  cases hattempt : store.attempt command with
  | error failure => rwa [Store.Command.ask_of_error hattempt]
  | ok changed =>
      rw [Store.Command.ask_of_ok hattempt]
      exact h.of_sameOrganization fun id => hspares.sameOrganization hattempt

/-- Every operation does to the store what it does to the directory. -/
theorem ask (h : directory.Describes store) (operation : Store.Operation) :
    (directory.note operation).Describes (operation.ask store).2 := by
  cases operation with
  | read query =>
      change directory.Describes (query.ask store).2
      rwa [query.state_ask]
  | write command =>
      cases command with
      | addOrganization organization => exact h.addOrganization organization
      | addMembership membership => exact h.addMembership membership
      | setMemberRole organizationId userId role => exact h.setMemberRole organizationId userId role
      | deleteOrganization id => exact h.deleteOrganization id
      | saveOrganization organization => exact h.saveOrganization organization
      | addBilling _ | insertProject _ | saveProject _ | deleteProject _ | insertInvite _
      | deleteInvite _ => exact h.sparing trivial

/-- Every history does to the store what it does to the directory. -/
theorem after (h : directory.Describes store) (history : List Store.Operation) :
    (directory.after history).Describes (store.after history) := by
  induction history generalizing directory store with
  | nil => exact h
  | cons operation rest ih => exact ih (h.ask operation)

/-! ### Reading the directory -/

/-- An organization is found when the directory has it. -/
theorem isSome_findOrganization (h : directory.Describes store) (organizationId : Uuid) :
    (store.findOrganization (.byId organizationId)).isSome = directory.present organizationId := by
  rw [← h.present, Store.findOrganization, Store.organizationId?]
  cases hcontains : store.organizations.contains organizationId with
  | false => rfl
  | true => exact hcontains

/-- A membership is resolved when the directory has the organization and the role in it. -/
theorem resolveMembership_byId (h : directory.Describes store) (userId organizationId : Uuid) :
    store.resolveMembership userId (.byId organizationId) =
      if directory.present organizationId then
        (directory.roles (organizationId, userId)).map fun role => ⟨userId, organizationId, role⟩
      else none := by
  rw [Store.resolveMembership_eq, Store.organizationId?, h.present, ← h.roles]
  split <;> rfl

end Describes

end Directory

/-- The list of members behaves like a map in which the last write counts. After every history from
the empty store, whatever its operations are given and whether they fail or not, the store answers
as the directory says that has noted the same history. A user is found to be a member of an
organization exactly when the organization exists and the directory has a role for the two, and with
that role. Members that were filed before their organization show when it is added. Changing a role
is refused where the directory has none, and removing an organization where it has no such
organization; then nothing is changed, and the directory notes nothing either. -/
theorem members_refine_directory (history : List Store.Operation) :
    let store := Store.empty.after history
    let directory := Directory.empty.after history
    (∀ organizationId, (store.findOrganization (.byId organizationId)).isSome =
      directory.present organizationId) ∧
    (∀ userId organizationId, store.resolveMembership userId (.byId organizationId) =
      if directory.present organizationId then
        (directory.roles (organizationId, userId)).map fun role => ⟨userId, organizationId, role⟩
      else none) ∧
    (∀ (organization : Organization) userId,
      (store.addOrganization organization).resolveMembership userId (.byId organization.id) =
        (directory.roles (organization.id, userId)).map fun role =>
          ⟨userId, organization.id, role⟩) ∧
    (∀ organizationId userId role,
      let change := (Store.Command.setMemberRole organizationId userId role).ask store
      if (directory.roles (organizationId, userId)).isSome then change.1 = .ok ()
      else change = (.error (.notFound (.member userId organizationId)), store)) ∧
    ∀ organizationId,
      let removal := (Store.Command.deleteOrganization organizationId).ask store
      if directory.present organizationId then removal.1 = .ok ()
      else removal = (.error (.notFound (.organization (.byId organizationId))), store) := by
  intro store directory
  have hdescribes : directory.Describes store := Directory.Describes.empty.after history
  refine ⟨hdescribes.isSome_findOrganization, hdescribes.resolveMembership_byId, ?_, ?_, ?_⟩
  · intro organization userId
    rw [(hdescribes.addOrganization organization).resolveMembership_byId]
    exact if_pos (Function.update_self _ _ _)
  · intro organizationId userId role change
    rw [← hdescribes.roles, show change = _ from store.ask_setMemberRole _ _ role]
    split <;> rfl
  · intro organizationId removal
    rw [← hdescribes.present, show removal = _ from store.ask_deleteOrganization _]
    split <;> rfl

end OrgAccess
