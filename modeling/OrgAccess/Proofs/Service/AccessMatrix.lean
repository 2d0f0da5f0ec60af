import OrgAccess.Proofs.Policy.StandardRoles
import OrgAccess.Proofs.Service.Authorization

/-!
# Who is denied what

The requests against the standard roles. `Store.Refuses` is the table: for each request, the
members that are refused, with the roles and owners by name and no rules. A record that a request
names and that is not in the organization is found missing before anybody is refused
(`Store.Lacks`), so whether a project, an invite or an account exists is told to every member.
-/

namespace OrgAccess

namespace Store

/-- The members that a request is refused to. Where a record is named, it exists. -/
def Refuses (store : Store) (organization : Organization) (actor : Uuid) (role : Role) :
    Request → Prop
  | .updateOrganization _ | .transferOwnership _ =>
      ¬ (role = .admin ∧ actor = organization.ownerId)
  | .shutdownOrganization | .createInvite _ _ | .listInvites => role ≠ .admin
  | .createProject _ => role = .billing
  | .updateProject projectId _ | .deleteProject projectId =>
      ∃ project, store.findProject organization.id projectId = some project ∧
        ¬ (role = .admin ∨ role = .member ∧ actor = project.ownerId)
  | .getBilling =>
      ∃ account, store.findBilling organization.id = some account ∧ role = .member
  | .revokeInvite inviteId =>
      ∃ invite, store.findInvite organization.id inviteId = some invite ∧ role ≠ .admin

/-- What a request names and an organization does not have. -/
inductive Lacks (store : Store) (organizationId : Uuid) : Request → Missing → Prop where
  | updatedProject {projectId : Uuid} {update : ProjectUpdate}
      (h : store.findProject organizationId projectId = none) :
      Lacks store organizationId (.updateProject projectId update) (.project projectId)
  | deletedProject {projectId : Uuid} (h : store.findProject organizationId projectId = none) :
      Lacks store organizationId (.deleteProject projectId) (.project projectId)
  | account (h : store.findBilling organizationId = none) :
      Lacks store organizationId .getBilling (.billingAccount organizationId)
  | invite {inviteId : Uuid} (h : store.findInvite organizationId inviteId = none) :
      Lacks store organizationId (.revokeInvite inviteId) (.invite inviteId)

end Store

/-! ## Owners -/

/-- The owner of a record is whose identifier has the text of its attribute: an identifier is known
by its text, and no other attribute of a record takes the place of the owner. -/
theorem Subject.isOwnedBy_withAttribute_iff {kind : Kind} {owner user : Uuid} {key : String}
    {value : Json} (hkey : key ≠ ownerIdKey) :
    (Target.record ((Subject.ownedBy kind owner.text).withAttribute key value)).IsOwnedBy
        user.text ↔ user = owner := by
  rw [Target.record_isOwnedBy_iff, attribute?_withAttribute, if_neg hkey.symm, ownedBy,
    attribute?_withAttribute, if_pos rfl, Option.some.injEq, Json.string.injEq]
  constructor
  · intro htext
    exact Uuid.text_injective htext.symm
  · rintro rfl
    rfl

namespace Role

variable {role : Role} {user : String}

/-- Of the standard roles only an admin has to do with organizations, and may do to them what is
not left to the owner. -/
theorem allows_organization_iff {action : Action} {organization : Organization} {actor : Uuid} :
    role.Allows actor.text action (.record organization.subject) ↔
      role = .admin ∧
        (action = .update ∨ action = .transferOwnership → actor = organization.ownerId) := by
  have htype : (Target.record organization.subject).subjectType = .of .organization := rfl
  have howner : (Target.record organization.subject).IsOwnedBy actor.text ↔
      actor = organization.ownerId := Subject.isOwnedBy_withAttribute_iff (by decide)
  cases role <;> simp [Allows, htype, howner]

/-- Admins may do anything to a project; members may make and read one, and change or delete their
own. -/
theorem allows_project_iff {action : Action} {project : Project} {actor : Uuid} :
    role.Allows actor.text action (.record project.subject) ↔
      role = .admin ∨ role = .member ∧
        ((action = .create ∨ action = .get) ∨
          (action = .update ∨ action = .delete) ∧ actor = project.ownerId) := by
  have htype : (Target.record project.subject).subjectType = .of .project := rfl
  have howner : (Target.record project.subject).IsOwnedBy actor.text ↔
      actor = project.ownerId := Subject.isOwnedBy_withAttribute_iff (by decide)
  cases role <;> simp [Allows, htype, howner]

/-- Billing is for admins and billing users. -/
theorem allows_billing_iff {action : Action} {target : Target}
    (htype : target.subjectType = .of .billing) :
    role.Allows user action target ↔ role ≠ .member := by
  cases role <;> simp [Allows, htype]

/-- Invites are for admins. -/
theorem allows_invite_iff {action : Action} {target : Target}
    (htype : target.subjectType = .of .invite) :
    role.Allows user action target ↔ role = .admin := by
  cases role <;> simp [Allows, htype]

end Role

/-! ## The table -/

namespace Store

variable {store : Store} {call : Call} {organization : Organization} {role : Role}

/-- A request is refused to a member when its record is found and the role does not allow it. -/
theorem refuses_iff (hfind : store.findOrganization call.organization = some organization) :
    store.Refuses organization call.actor role call.request ↔
      ∃ record, call.record store organization.id = .ok record ∧
        ¬ role.Allows call.actor.text call.request.action (call.request.target record) := by
  obtain ⟨actor, reference, request, now, freshId⟩ := call
  -- three requests are about the organization itself, which was found already
  have horganization : ∀ {P : Organization → Prop}, P organization ↔
      ∃ record, (Missing.organization reference).unlessFound (store.findOrganization reference) =
        .ok record ∧ P record := by
    intro P
    rw [Missing.exists_unlessFound_iff, hfind]
    simp
  cases request with
  | updateOrganization _ =>
      refine Iff.trans ?_ horganization
      show _ ↔ ¬ role.Allows actor.text .update (.record organization.subject)
      rw [Role.allows_organization_iff]
      simp [Refuses]
  | transferOwnership _ =>
      refine Iff.trans ?_ horganization
      show _ ↔ ¬ role.Allows actor.text .transferOwnership (.record organization.subject)
      rw [Role.allows_organization_iff]
      simp [Refuses]
  | shutdownOrganization =>
      refine Iff.trans ?_ horganization
      show _ ↔ ¬ role.Allows actor.text .delete (.record organization.subject)
      rw [Role.allows_organization_iff]
      simp [Refuses]
  | createProject input =>
      refine Iff.trans ?_ exists_ok_iff.symm
      show _ ↔ ¬ role.Allows actor.text .create
        (.record (input.toProject freshId organization.id actor now).subject)
      rw [Role.allows_project_iff]
      cases role <;> simp [Refuses]
  | updateProject projectId _ =>
      refine Iff.trans ?_ Missing.exists_unlessFound_iff.symm
      refine exists_congr fun project => and_congr_right fun _ => not_congr ?_
      show _ ↔ role.Allows actor.text .update (.record project.subject)
      rw [Role.allows_project_iff]
      simp
  | deleteProject projectId =>
      refine Iff.trans ?_ Missing.exists_unlessFound_iff.symm
      refine exists_congr fun project => and_congr_right fun _ => not_congr ?_
      show _ ↔ role.Allows actor.text .delete (.record project.subject)
      rw [Role.allows_project_iff]
      simp
  | getBilling =>
      refine Iff.trans ?_ Missing.exists_unlessFound_iff.symm
      refine exists_congr fun account => and_congr_right fun _ => ?_
      show _ ↔ ¬ role.Allows actor.text .get (.record account.subject)
      rw [Role.allows_billing_iff rfl, not_not]
  | createInvite _ _ =>
      refine Iff.trans ?_ exists_ok_iff.symm
      exact not_congr (Role.allows_invite_iff rfl).symm
  | listInvites =>
      refine Iff.trans ?_ exists_ok_iff.symm
      exact not_congr (Role.allows_invite_iff rfl).symm
  | revokeInvite inviteId =>
      refine Iff.trans ?_ Missing.exists_unlessFound_iff.symm
      refine exists_congr fun invite => and_congr_right fun _ => ?_
      exact not_congr (Role.allows_invite_iff rfl).symm

/-- What an organization lacks is not found. -/
theorem Lacks.record_eq {organizationId : Uuid} {missing : Missing}
    (h : store.Lacks organizationId call.request missing) :
    call.record store organizationId = .error missing := by
  obtain ⟨actor, reference, request, now, freshId⟩ := call
  cases h with
  | updatedProject hnone | deletedProject hnone | account hnone | invite hnone =>
      exact Missing.unlessFound_eq_error_iff.2 ⟨hnone, rfl⟩

/-- The record of a request is found missing exactly when the organization lacks it. -/
theorem lacks_iff (hfind : store.findOrganization call.organization = some organization)
    {missing : Missing} :
    store.Lacks organization.id call.request missing ↔
      call.record store organization.id = .error missing := by
  refine ⟨Lacks.record_eq, fun h => ?_⟩
  obtain ⟨actor, reference, request, now, freshId⟩ := call
  cases request with
  | updateOrganization _ | transferOwnership _ | shutdownOrganization =>
      obtain ⟨hnone, -⟩ := Missing.unlessFound_eq_error_iff.1 h
      exact nomatch hfind.symm.trans hnone
  | createProject _ | createInvite _ _ | listInvites => exact nomatch h
  | updateProject projectId _ =>
      obtain ⟨hnone, rfl⟩ := Missing.unlessFound_eq_error_iff.1 h
      exact .updatedProject hnone
  | deleteProject projectId =>
      obtain ⟨hnone, rfl⟩ := Missing.unlessFound_eq_error_iff.1 h
      exact .deletedProject hnone
  | getBilling =>
      obtain ⟨hnone, rfl⟩ := Missing.unlessFound_eq_error_iff.1 h
      exact .account hnone
  | revokeInvite inviteId =>
      obtain ⟨hnone, rfl⟩ := Missing.unlessFound_eq_error_iff.1 h
      exact .invite hnone

/-- A member is denied exactly what the table refuses. -/
theorem Filed.denied_iff_of_hasRole (hstore : store.Filed)
    (hfind : store.findOrganization call.organization = some organization)
    (hrole : store.HasRole organization.id call.actor role) :
    (∃ failure, Registry.standard.verdict call store = .error failure ∧
        failure.isDenied = true) ↔
      store.Refuses organization call.actor role call.request := by
  rw [refuses_iff hfind, Registry.verdict_of_hasRole hstore hfind hrole,
    Registry.standard_permissionsFor]
  dsimp only
  cases call.record store organization.id with
  | error missing =>
      refine iff_of_false ?_ ?_
      · rintro ⟨failure, hfailure, hdenied⟩
        obtain rfl := Except.error.inj hfailure
        exact nomatch hdenied
      · rintro ⟨record, hrecord, -⟩
        exact nomatch hrecord
  | ok record =>
      have hcan := Permissions.standard_can_iff ⟨call.actor.text, role⟩ .default
        call.request.action (call.request.target record) role
      rw [exists_ok_iff, ← hcan]
      dsimp only
      split
      · next h => exact iff_of_false (by simp) (not_not.2 h)
      · next h => exact iff_of_true ⟨_, rfl, rfl⟩ h

/-- Whoever is admitted is a member that the table does not refuse. -/
theorem Filed.not_refuses_of_verdict (hstore : store.Filed) {admitted : call.Admitted}
    (h : Registry.standard.verdict call store = .ok admitted) :
    ∃ organization role, store.findOrganization call.organization = some organization ∧
      organization.id = admitted.membership.organizationId ∧
      store.HasRole organization.id call.actor role ∧
      ¬ store.Refuses organization call.actor role call.request := by
  obtain ⟨⟨membership, ability⟩, record⟩ := admitted
  obtain ⟨organization, role, hfind, hrole, rfl⟩ :=
    hstore.resolveMembership_eq_some_iff.1 (Registry.verdict_eq_ok_iff.1 h).1
  refine ⟨organization, role, hfind, rfl, hrole, fun hrefuses => ?_⟩
  obtain ⟨failure, hfailure, -⟩ := (hstore.denied_iff_of_hasRole hfind hrole).2 hrefuses
  exact nomatch hfailure.symm.trans h

end Store

/-- With the standard roles a call on a reachable store is denied exactly to those who are not
members of the organization that it names, and to the members that the table refuses it to. What
the organization lacks is told to members of every role. -/
theorem denied_iff_refused {store : Store} (hstore : store.Reachable) (call : Call)
    {organization : Organization}
    (hfind : store.findOrganization call.organization = some organization) :
    let outcome := (Store.service .standard).perform call store
    ((∃ failure, outcome.result = .error failure ∧ failure.isDenied = true) ↔
      (∀ role, ¬ store.HasRole organization.id call.actor role) ∨
        ∃ role, store.HasRole organization.id call.actor role ∧
          store.Refuses organization call.actor role call.request) ∧
    ∀ role missing, store.HasRole organization.id call.actor role →
      store.Lacks organization.id call.request missing →
        outcome.result = .error (.notFound missing) ∧ outcome.state = store := by
  intro outcome
  have hfiled := hstore.filed
  constructor
  · refine Store.perform_denied_iff.trans ?_
    by_cases hmember : ∃ role, store.HasRole organization.id call.actor role
    · obtain ⟨role, hrole⟩ := hmember
      rw [hfiled.denied_iff_of_hasRole hfind hrole]
      constructor
      · intro hrefuses
        exact .inr ⟨role, hrole, hrefuses⟩
      · rintro (hnone | ⟨other, hother, hrefuses⟩)
        · exact absurd hrole (hnone role)
        · -- a user has one role in an organization
          obtain rfl := hfiled.hasRole_unique hrole hother
          exact hrefuses
    · have hnone : ∀ role, ¬ store.HasRole organization.id call.actor role :=
        not_exists.1 hmember
      refine iff_of_true ⟨_, Registry.verdict_of_not_member hfiled ?_, rfl⟩ (.inl hnone)
      intro other role hother hrole
      obtain rfl := Option.some.inj (hfind.symm.trans hother)
      exact hnone role hrole
  · intro role missing hrole hlacks
    exact hfiled.perform_of_missing hfind hrole (Registry.standard_permissionsFor role)
      ((Store.lacks_iff hfind).1 hlacks)

/-- A member asks for an account that the organization does not have, and is told so. -/
theorem missing_account_sharedSlug :
    Store.sharedSlug.Reachable ∧
      ((Store.service .standard).perform
        { actor := .ofNat 13
          organization := .byId (.ofNat 1)
          request := .getBilling
          now := Store.sharedSlug.start
          freshId := .ofNat 31 } Store.sharedSlug).result =
        .error (.notFound (.billingAccount (.ofNat 1))) := by
  refine ⟨Store.reachable_sharedSlug, ?_⟩
  have hfind : Store.sharedSlug.findOrganization (.byId (.ofNat 1)) =
      some (Store.sharedSlug.acme 1) := by
    decide
  have hrole : Store.sharedSlug.HasRole (.ofNat 1) (.ofNat 13) .member :=
    ⟨Store.sharedSlug.seat 13 .member, by decide⟩
  exact ((denied_iff_refused Store.reachable_sharedSlug _ hfind).2 .member _ hrole
    (.account (by decide))).1

end OrgAccess
