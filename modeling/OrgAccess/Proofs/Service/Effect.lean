import OrgAccess.Proofs.Service.Atomicity
import OrgAccess.Proofs.Service.Plan

/-!
# What calls come to

For every registry, what a call can make of a store and answer, one constructor of `Call.Effect`
for each way in which it can end, with what was found on the way. `Filed.perform_effect` says that a
call either fails and changes nothing or has one of these effects in the organization that it names.
A property of all calls is proved by cases on them, with no look at agendas and commands: the store
afterwards is written out. All but one are successes; the other is a transfer of ownership that
stops after its first write.
-/

namespace OrgAccess

namespace Call

/-- What a call comes to in an organization: what it answers and the store that it leaves. -/
inductive Effect (call : Call) (store : Store) (organizationId : Uuid) :
    Except Failure Reply → Store → Prop where
  | keptOrganization {update : OrganizationUpdate} {organization : Organization}
      (hrequest : call.request = .updateOrganization update) (hempty : update.isEmpty = true)
      (hget : store.organizations.get? organizationId = some organization) :
      Effect call store organizationId (.ok (.organization organization)) store
  | savedOrganization {update : OrganizationUpdate} {organization updated : Organization}
      (hrequest : call.request = .updateOrganization update) (hempty : update.isEmpty = false)
      (hget : store.organizations.get? organizationId = some organization)
      (hnew : updated = update.apply call.now organization)
      (hfree : ¬ store.SlugTaken updated.slug organizationId) :
      Effect call store organizationId (.ok (.organization updated))
        (store.addOrganization updated)
  | shutDown {organization : Organization} (hrequest : call.request = .shutdownOrganization)
      (hget : store.organizations.get? organizationId = some organization) :
      Effect call store organizationId (.ok .done) (store.withoutOrganization organizationId)
  | handedOver {newOwner : Uuid} {organization transferred : Organization} {role : Role}
      (hrequest : call.request = .transferOwnership newOwner)
      (hget : store.organizations.get? organizationId = some organization)
      (hrole : store.HasRole organizationId newOwner role)
      (hnew : transferred = call.transferred organization newOwner)
      (hfree : ¬ store.SlugTaken transferred.slug organizationId) :
      Effect call store organizationId (.ok (.organization transferred))
        ((store.withAdmin organizationId newOwner).addOrganization transferred)
  | stoppedHalfway {newOwner : Uuid} {organization : Organization} {role : Role}
      (hrequest : call.request = .transferOwnership newOwner)
      (hget : store.organizations.get? organizationId = some organization)
      (hrole : store.HasRole organizationId newOwner role) (hrank : role ≠ .admin)
      (hclash : store.SlugTaken organization.slug organizationId) :
      Effect call store organizationId
        (.error (.conflict (.organizationSlug organization.slug)))
        (store.withAdmin organizationId newOwner)
  | madeProject {input : NewProject} {project : Project}
      (hrequest : call.request = .createProject input)
      (hnew : project = input.toProject call.freshId organizationId call.actor call.now)
      (hfree : ∀ p ∈ store.projects.values,
        p.organizationId = organizationId → p.slug ≠ project.slug) :
      Effect call store organizationId (.ok (.project project))
        { store with projects := store.projects.insert project.id project }
  | savedProject {projectId : Uuid} {update : ProjectUpdate} {project updated : Project}
      (hrequest : call.request = .updateProject projectId update)
      (hfind : store.findProject organizationId projectId = some project)
      (hnew : updated = update.apply call.now project) :
      Effect call store organizationId (.ok (.project updated))
        { store with projects := store.projects.insert projectId updated }
  | removedProject {projectId : Uuid} {project : Project}
      (hrequest : call.request = .deleteProject projectId)
      (hfind : store.findProject organizationId projectId = some project) :
      Effect call store organizationId (.ok .done)
        { store with projects := store.projects.erase projectId }
  | readBilling {account : BillingAccount} (hrequest : call.request = .getBilling)
      (hfind : store.findBilling organizationId = some account) :
      Effect call store organizationId (.ok (.billing account)) store
  | madeInvite {email : String} {role : Role} {invite : Invite}
      (hrequest : call.request = .createInvite email role)
      (hnew : invite = .new call.freshId organizationId email role call.actor call.now)
      (hseat : store.freeSeat organizationId = .ok ())
      (hfree : ∀ i ∈ store.invites.values,
        i.organizationId = organizationId → i.email ≠ invite.email) :
      Effect call store organizationId (.ok (.invite invite))
        { store with invites := store.invites.insert invite.id invite }
  | listedInvites (hrequest : call.request = .listInvites) :
      Effect call store organizationId (.ok (.invites (store.listInvites organizationId))) store
  | removedInvite {inviteId : Uuid} {invite : Invite}
      (hrequest : call.request = .revokeInvite inviteId)
      (hfind : store.findInvite organizationId inviteId = some invite) :
      Effect call store organizationId (.ok .done)
        { store with invites := store.invites.erase inviteId }

end Call

namespace Store

variable {store : Store} {organizationId userId : Uuid}

/-- An organization that is removed is gone. -/
theorem get?_withoutOrganization :
    (store.withoutOrganization organizationId).organizations.get? organizationId = none :=
  Table.get?_erase_self

/-! ## Promotions -/

/-- Giving a role to whoever has it changes nothing. -/
theorem setRole_eq_self {role : Role} {memberships : List Membership}
    (h : ∀ m ∈ memberships, m.links organizationId userId = true → m.role = role) :
    setRole organizationId userId role memberships = memberships := by
  induction memberships with
  | nil => rfl
  | cons m rest ih =>
      unfold setRole
      split
      · next hlinks =>
        have hrole : m.role = role := h m List.mem_cons_self hlinks
        rw [← hrole]
      · rw [ih fun other hother => h other (List.mem_cons_of_mem m hother)]

/-- Nor does it change anything to promote an admin. -/
theorem Filed.withAdmin_eq_self (hstore : store.Filed)
    (hadmin : store.HasRole organizationId userId .admin) :
    store.withAdmin organizationId userId = store := by
  have hsame : setRole organizationId userId .admin store.memberships = store.memberships := by
    apply setRole_eq_self
    intro m hm hlinks
    obtain ⟨horganization, huser⟩ := Prod.mk.inj ((m.links_iff _ _).1 hlinks)
    exact hstore.hasRole_unique ⟨m, hm, horganization, huser, rfl⟩ hadmin
  rw [withAdmin, hsame]

end Store

/-! ## From plans to effects -/

namespace Call

variable {store : Store} {call : Call} {organizationId : Uuid} {agenda : Agenda}

/-- An outcome fails and changes nothing, or has an effect. -/
def Settles (call : Call) (store : Store) (organizationId : Uuid) (outcome : Outcome Store Reply) :
    Prop :=
  (∃ failure, outcome.result = .error failure ∧ outcome.state = store) ∨
    call.Effect store organizationId outcome.result outcome.state

/-- With one command on the agenda there is nothing between failure and effect. -/
theorem settles_write {command : Store.Command} {event : Event} {reply : Reply}
    (h : ∀ changed, store.attempt command = .ok changed →
      call.Effect store organizationId (.ok reply) changed) :
    call.Settles store organizationId ((Agenda.write command event reply).carryOut store) := by
  cases hattempt : store.attempt command with
  | error failure =>
      rw [Agenda.carryOut_write_of_error hattempt]
      exact .inl ⟨failure, rfl, rfl⟩
  | ok changed =>
      rw [Agenda.carryOut_write hattempt]
      exact .inr (h changed hattempt)

/-- A transfer of ownership promotes the new owner, if need be, and saves the organization, if its
slug is its own. -/
theorem carryOutAll_transferWrites_of_not_slugTaken (hstore : store.Filed) {newOwner : Uuid}
    {organization : Organization} {role : Role} {reply : Reply}
    (hget : store.organizations.get? organization.id = some organization)
    (hrole : store.HasRole organization.id newOwner role)
    (hfree : ¬ store.SlugTaken organization.slug organization.id) :
    Agenda.carryOutAll reply (call.transferWrites organization newOwner role) store =
      ⟨.ok reply,
        (store.withAdmin organization.id newOwner).addOrganization
          (call.transferred organization newOwner),
        (Agenda.promotion organization.id newOwner role).map Prod.snd ++
          [.ownershipTransferred call.actor organization.id organization.ownerId newOwner]⟩ := by
  have hsave : (store.withAdmin organization.id newOwner).attempt
      (.saveOrganization (call.transferred organization newOwner)) = _ :=
    (attempt_saveTransferred hget newOwner).trans (if_neg hfree)
  rw [transferWrites, Agenda.promotion]
  by_cases hadmin : role = .admin
  · -- nobody is promoted, so the store with the admin is the store
    subst hadmin
    rw [hstore.withAdmin_eq_self hrole] at hsave ⊢
    simp only [if_true, List.nil_append, Agenda.carryOutAll, hsave, List.map_nil]
  · have hpromote := Store.attempt_setMemberRole hrole
    simp only [if_neg hadmin, List.singleton_append, Agenda.carryOutAll, hpromote, hsave,
      List.map_cons, List.map_nil]

/-- A transfer of ownership to an admin has one write, and does nothing if the slug of the
organization is taken. -/
theorem carryOutAll_transferWrites_of_admin (hstore : store.Filed) {newOwner : Uuid}
    {organization : Organization} {reply : Reply}
    (hget : store.organizations.get? organization.id = some organization)
    (hadmin : store.HasRole organization.id newOwner .admin)
    (hclash : store.SlugTaken organization.slug organization.id) :
    Agenda.carryOutAll reply (call.transferWrites organization newOwner .admin) store =
      ⟨.error (.conflict (.organizationSlug organization.slug)), store, []⟩ := by
  have hsave : (store.withAdmin organization.id newOwner).attempt
      (.saveOrganization (call.transferred organization newOwner)) = _ :=
    (attempt_saveTransferred hget newOwner).trans (if_pos hclash)
  rw [hstore.withAdmin_eq_self hadmin] at hsave
  rw [transferWrites, Agenda.promotion, if_pos rfl]
  simp only [List.nil_append, Agenda.carryOutAll, hsave]

/-- A transfer of ownership hands the organization over, stops after the promotion, or fails before
it. -/
theorem settles_transfer (hstore : store.Filed) {newOwner : Uuid} {organization : Organization}
    {role : Role} (hrequest : call.request = .transferOwnership newOwner)
    (hget : store.organizations.get? organizationId = some organization)
    (hrole : store.HasRole organizationId newOwner role) :
    call.Settles store organizationId
      (Agenda.carryOutAll (.organization (call.transferred organization newOwner))
        (call.transferWrites organization newOwner role) store) := by
  obtain rfl : organization.id = organizationId := hstore.organizations _ _ hget
  by_cases hclash : store.SlugTaken organization.slug organization.id
  · by_cases hadmin : role = .admin
    · subst hadmin
      rw [carryOutAll_transferWrites_of_admin hstore hget hrole hclash]
      exact .inl ⟨_, rfl, rfl⟩
    · rw [carryOutAll_transferWrites_of_slugTaken hget hrole hadmin hclash]
      exact .inr (.stoppedHalfway hrequest hget hrole hadmin hclash)
  · rw [carryOutAll_transferWrites_of_not_slugTaken hstore hget hrole hclash]
    exact .inr (.handedOver hrequest hget hrole rfl hclash)

/-- Carrying out a plan has one of the effects, if it does not fail. -/
theorem Plans.settles (h : call.Plans store organizationId agenda) (hstore : store.Filed) :
    call.Settles store organizationId (agenda.carryOut store) := by
  cases h with
  | updateNothing hrequest hempty hget => exact .inr (.keptOrganization hrequest hempty hget)
  | @updateOrganization _ organization hrequest hempty hget =>
      obtain rfl : organization.id = organizationId := hstore.organizations _ _ hget
      apply settles_write
      intro changed hattempt
      obtain ⟨-, hfree, rfl⟩ := Store.saveOrganization_eq_ok_iff.1 hattempt
      exact .savedOrganization hrequest hempty hget rfl hfree
  | @shutdownOrganization organization hrequest hget =>
      obtain rfl : organization.id = organizationId := hstore.organizations _ _ hget
      apply settles_write
      intro changed hattempt
      obtain ⟨-, rfl⟩ := Store.deleteOrganization_eq_ok_iff.1 hattempt
      exact .shutDown hrequest hget
  | transferOwnership hrequest hget hrole => exact settles_transfer hstore hrequest hget hrole
  | createProject hrequest hnew =>
      apply settles_write
      intro changed hattempt
      obtain ⟨hfree, rfl⟩ := Store.insertProject_eq_ok_iff.1 hattempt
      refine .madeProject hrequest hnew ?_
      rw [hnew] at hfree ⊢
      exact hfree
  | updateProject hrequest hfind =>
      apply settles_write
      intro changed hattempt
      obtain ⟨-, rfl⟩ := Store.saveProject_eq_ok_iff.1 hattempt
      have heffect := Effect.savedProject hrequest hfind rfl
      rwa [← (hstore.of_findProject hfind).1] at heffect
  | deleteProject hrequest hfind =>
      apply settles_write
      intro changed hattempt
      obtain ⟨-, rfl⟩ := Store.deleteProject_eq_ok_iff.1 hattempt
      have heffect := Effect.removedProject hrequest hfind
      rwa [← (hstore.of_findProject hfind).1] at heffect
  | getBilling hrequest hfind => exact .inr (.readBilling hrequest hfind)
  | createInvite hrequest hnew hseat =>
      apply settles_write
      intro changed hattempt
      obtain ⟨hfree, rfl⟩ := Store.insertInvite_eq_ok_iff.1 hattempt
      refine .madeInvite hrequest hnew hseat ?_
      rw [hnew] at hfree ⊢
      exact hfree
  | listInvites hrequest => exact .inr (.listedInvites hrequest)
  | revokeInvite hrequest hfind =>
      apply settles_write
      intro changed hattempt
      obtain ⟨-, rfl⟩ := Store.deleteInvite_eq_ok_iff.1 hattempt
      have heffect := Effect.removedInvite hrequest hfind
      rwa [← (hstore.of_findInvite hfind).1] at heffect

/-! ## What effects leave alone -/

variable {result : Except Failure Reply} {after : Store}

/-- Billing accounts are touched when an organization is shut down, and never else. -/
theorem Effect.billing_eq_or (h : call.Effect store organizationId result after) :
    after.billing = store.billing ∨ after = store.withoutOrganization organizationId := by
  cases h with
  | shutDown _ _ => exact .inr rfl
  | keptOrganization _ _ _ | savedOrganization _ _ _ _ _ | handedOver _ _ _ _ _
  | stoppedHalfway _ _ _ _ _ | madeProject _ _ _ | savedProject _ _ _ | removedProject _ _
  | readBilling _ _ | madeInvite _ _ _ _ | listedInvites _ | removedInvite _ _ => exact .inl rfl

/-- An organization that is not gone has the billing account that it had, if any. -/
theorem Effect.findBilling_eq_or (h : call.Effect store organizationId result after)
    (other : Uuid) :
    after.findBilling other = store.findBilling other ∨
      after.organizations.get? other = none := by
  rcases h.billing_eq_or with hbilling | rfl
  · left
    rw [Store.findBilling, hbilling]
    rfl
  · by_cases hother : other = organizationId
    · rw [hother]
      exact .inr Store.get?_withoutOrganization
    · exact .inl (Table.get?_erase_of_ne hother)

/-! ## Invites -/

/-- A call for an invite has the one effect that the invite is made, where there is a seat and its
address is not invited. -/
theorem Effect.invite_made (h : call.Effect store organizationId result after) {email : String}
    {role : Role} (hinvite : call.request = .createInvite email role) :
    let invite : Invite := .new call.freshId organizationId email role call.actor call.now
    result = .ok (.invite invite) ∧ store.freeSeat organizationId = .ok () ∧
      ¬ store.Invited organizationId invite.email := by
  cases h with
  | madeInvite hrequest hnew hseat hfree =>
      obtain ⟨rfl, rfl⟩ := Request.createInvite.inj (hinvite.symm.trans hrequest)
      rw [hnew] at hfree ⊢
      exact ⟨rfl, hseat, Store.not_invited_iff.2 hfree⟩
  | keptOrganization hrequest _ _ | savedOrganization hrequest _ _ _ _ | madeProject hrequest _ _
  | savedProject hrequest _ _ | removedProject hrequest _ | readBilling hrequest _
  | listedInvites hrequest | handedOver hrequest _ _ _ _ | stoppedHalfway hrequest _ _ _ _
  | shutDown hrequest _ | removedInvite hrequest _ => cases hinvite.symm.trans hrequest

end Call

/-! ## From calls to effects -/

namespace Store

variable {store : Store}

/-- A call fails and changes nothing, or it has an effect in the organization that it names. -/
theorem Filed.perform_effect (hstore : store.Filed) (registry : Registry) (call : Call) :
    let outcome := (service registry).perform call store
    (∃ failure, outcome.result = .error failure ∧ outcome.state = store) ∨
      ∃ organizationId, store.organizationId? call.organization = some organizationId ∧
        call.Effect store organizationId outcome.result outcome.state := by
  intro outcome
  rcases hstore.perform_cases registry call with
    hfailed | ⟨admitted, agenda, hverdict, hplan, hresult, hstate⟩
  · exact .inl hfailed
  · have hnamed := organizationId?_of_verdict hverdict
    rw [show outcome.result = _ from hresult, show outcome.state = _ from hstate]
    rcases hplan.settles hstore with hfailed | heffect
    · exact .inl hfailed
    · exact .inr ⟨_, hnamed, heffect⟩

/-- The same of an organization that is known to be the one that the call names. -/
theorem Filed.settles_perform (hstore : store.Filed) (registry : Registry) {call : Call}
    {organizationId : Uuid}
    (hnamed : store.organizationId? call.organization = some organizationId) :
    call.Settles store organizationId ((service registry).perform call store) := by
  rcases hstore.perform_effect registry call with hfailed | ⟨other, hother, heffect⟩
  · exact .inl hfailed
  · obtain rfl := Option.some.inj (hnamed.symm.trans hother)
    exact .inr heffect

/-- A call that succeeds has an effect. -/
theorem Filed.effect_of_ok (hstore : store.Filed) {registry : Registry} {call : Call}
    {reply : Reply} (h : ((service registry).perform call store).result = .ok reply) :
    ∃ organizationId, store.organizationId? call.organization = some organizationId ∧
      call.Effect store organizationId (.ok reply)
        ((service registry).perform call store).state := by
  rcases hstore.perform_effect registry call with
    ⟨failure, hfailed, -⟩ | ⟨organizationId, hnamed, heffect⟩
  · cases h.symm.trans hfailed
  · exact ⟨organizationId, hnamed, h ▸ heffect⟩

end Store

end OrgAccess
