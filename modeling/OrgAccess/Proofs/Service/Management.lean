import OrgAccess.Proofs.Service.AccessMatrix
import OrgAccess.Proofs.Service.Amendments

/-!
# Organizations stay manageable

The owner of an organization is a field of its record, and what the owner may do there hangs on a
membership. A transfer of ownership is two writes, one to each. No call takes the role of an admin
from anybody (`Effect.hasRole_admin`), and a transfer makes the new owner an admin before it makes
the admin the owner (`Effect.hasRole_heir`), so it may stop between the two. `owner_remains_admin`
draws the conclusion for runs of calls, with any registry.
-/

namespace OrgAccess

namespace Store

variable {store : Store} {organizationId userId : Uuid}

/-- The owner of an organization. -/
def owner? (store : Store) (organizationId : Uuid) : Option Uuid :=
  (store.organizations.get? organizationId).map Organization.ownerId

/-! ## Promotions -/

/-- A membership that has a role already is kept when the role is given to somebody. -/
theorem mem_setRole (organizationId userId : Uuid) {m : Membership}
    {memberships : List Membership} (hm : m ∈ memberships) :
    m ∈ setRole organizationId userId m.role memberships := by
  induction memberships with
  | nil => cases hm
  | cons first rest ih =>
      unfold setRole
      rcases List.mem_cons.1 hm with hfirst | hrest
      · subst hfirst
        split <;> exact List.mem_cons_self
      · split
        · exact List.mem_cons_of_mem _ hrest
        · exact List.mem_cons_of_mem _ (ih hrest)

/-- Whoever is an admin remains one when somebody becomes one. -/
theorem hasRole_withAdmin (h : store.HasRole organizationId userId .admin) (newAdmin : Uuid) :
    (store.withAdmin organizationId newAdmin).HasRole organizationId userId .admin := by
  obtain ⟨m, hm, horganization, huser, hrole⟩ := h
  have hkept := mem_setRole organizationId newAdmin hm
  rw [hrole] at hkept
  exact ⟨m, hkept, horganization, huser, hrole⟩

/-- A member who is made an admin is one. -/
theorem Filed.hasRole_withAdmin_self (hstore : store.Filed) {role : Role}
    (h : store.HasRole organizationId userId role) :
    (store.withAdmin organizationId userId).HasRole organizationId userId .admin := by
  obtain ⟨m, hfind, -⟩ := Option.map_eq_some_iff.1 (hstore.role?_eq_some_iff.2 h)
  apply hasRole_of_role?
  have hrole := map_role_find?_setRole organizationId userId .admin store.memberships
  rwa [hfind] at hrole

end Store

/-! ## One call -/

/-- The user whom the answer to a request makes the owner. -/
def Request.heir? (request : Request) : Except Failure Reply → Option Uuid
  | .error _ => none
  | .ok _ =>
      match request with
      | .transferOwnership newOwner => some newOwner
      | _ => none

namespace Call

variable {store after : Store} {call : Call} {organizationId userId : Uuid}
  {result : Except Failure Reply}

/-- The owner of an organization changes by transfers of ownership. -/
theorem overwrites_ownerId : Store.Overwrites Request.heir? Organization.ownerId := by
  rintro ⟨actor, reference, request, now, freshId⟩ organization (failure | reply)
  · rfl
  · cases request with
    | updateOrganization update =>
        change (if update.isEmpty then organization else _).ownerId = organization.ownerId
        split <;> rfl
    | transferOwnership _ | shutdownOrganization | createProject _ | updateProject _ _
    | deleteProject _ | getBilling | createInvite _ _ | listInvites | revokeInvite _ => rfl

/-- An organization has the owner that it had or the one that it is handed to, or it is gone. -/
theorem Effect.owner?_eq_or (h : call.Effect store organizationId result after)
    (hstore : store.Filed) {organization : Organization}
    (hget : store.organizations.get? organizationId = some organization) :
    after.owner? organizationId = none ∨
      after.owner? organizationId =
        some ((call.request.heir? result).getD organization.ownerId) := by
  unfold Store.owner?
  rcases h.organization_eq_or hstore hget with hgone | hkept
  · rw [hgone]
    exact .inl rfl
  · rw [hkept]
    exact .inr (congrArg some (overwrites_ownerId call organization result))

/-- Whoever is an admin of the organization remains one, unless it is gone. -/
theorem Effect.hasRole_admin (h : call.Effect store organizationId result after)
    (hadmin : store.HasRole organizationId userId .admin) :
    after.owner? organizationId = none ∨ after.HasRole organizationId userId .admin := by
  cases h with
  | shutDown hrequest hget =>
      left
      exact congrArg (Option.map _) Store.get?_withoutOrganization
  | handedOver _ _ _ _ _ | stoppedHalfway _ _ _ _ _ =>
      exact .inr (Store.hasRole_withAdmin hadmin _)
  | keptOrganization _ _ _ | savedOrganization _ _ _ _ _ | madeProject _ _ _
  | savedProject _ _ _ | removedProject _ _ | readBilling _ _ | madeInvite _ _ _ _
  | listedInvites _ | removedInvite _ _ => exact .inr hadmin

/-- Whom an organization is handed to is an admin then. -/
theorem Effect.hasRole_heir (h : call.Effect store organizationId result after)
    (hstore : store.Filed) (hheir : call.request.heir? result = some userId) :
    after.HasRole organizationId userId .admin := by
  cases h with
  | handedOver hrequest hget hrole hnew hfree =>
      rw [hrequest] at hheir
      obtain rfl := Option.some.inj hheir
      exact hstore.hasRole_withAdmin_self hrole
  | stoppedHalfway _ _ _ _ _ => cases hheir
  | keptOrganization hrequest _ _ | savedOrganization hrequest _ _ _ _ | shutDown hrequest _
  | madeProject hrequest _ _ | savedProject hrequest _ _ | removedProject hrequest _
  | readBilling hrequest _ | madeInvite hrequest _ _ _ | listedInvites hrequest
  | removedInvite hrequest _ =>
      rw [hrequest] at hheir
      cases hheir

end Call

namespace Store

variable {registry : Registry} {store : Store} {call : Call} {organizationId : Uuid}
  {organization : Organization}

/-- The owner of an organization, if it exists, is one of its admins. -/
def OwnerIsAdmin (store : Store) (organizationId : Uuid) : Prop :=
  ∀ owner, store.owner? organizationId = some owner → store.HasRole organizationId owner .admin

/-- A call leaves the owner an admin: whom it makes the owner it has made an admin first. -/
theorem OwnerIsAdmin.perform (h : store.OwnerIsAdmin organizationId) (hstore : store.Filed)
    (registry : Registry) (call : Call) :
    ((service registry).perform call store).state.OwnerIsAdmin organizationId := by
  intro owner howner
  by_cases hnamed : store.organizationId? call.organization = some organizationId
  · rcases hstore.settles_perform registry hnamed with ⟨failure, -, hstate⟩ | heffect
    · rw [hstate] at howner ⊢
      exact h owner howner
    · obtain ⟨organization, hget⟩ := hstore.get?_of_organizationId? hnamed
      rcases heffect.owner?_eq_or hstore hget with hgone | howned
      · cases hgone.symm.trans howner
      · -- either the owner is new and was promoted or was an admin before
        obtain rfl := Option.some.inj (howned.symm.trans howner)
        cases hheir : call.request.heir? ((service registry).perform call store).result with
        | some heir => exact heffect.hasRole_heir hstore hheir
        | none =>
            have hadmin := h organization.ownerId (congrArg (Option.map _) hget)
            refine (heffect.hasRole_admin hadmin).resolve_left ?_
            rw [howner]
            exact Option.some_ne_none _
  · have hsame := hstore.sameOrganization_perform registry hnamed
    rw [owner?, hsame.organization] at howner
    exact hsame.hasRole_iff.2 (h owner howner)

/-! ## Runs -/

/-- A run of calls leaves the owner an admin. -/
theorem OwnerIsAdmin.runState (h : store.OwnerIsAdmin organizationId) (hstore : store.Reachable)
    (registry : Registry) (calls : List Call) :
    ((service registry).runState store calls).OwnerIsAdmin organizationId :=
  hstore.runState_of_perform (P := fun store => store.OwnerIsAdmin organizationId)
    (fun hstore h call => h.perform hstore.filed registry call) h calls

/-- The table refuses nothing to an owner who is an admin. -/
theorem not_refuses_owner (store : Store) (organization : Organization) (request : Request) :
    ¬ store.Refuses organization organization.ownerId .admin request := by
  cases request with
  | updateOrganization _ | transferOwnership _ => exact not_not.2 ⟨rfl, rfl⟩
  | shutdownOrganization | createInvite _ _ | listInvites => exact not_not.2 rfl
  | createProject _ => exact nofun
  | updateProject _ _ | deleteProject _ =>
      intro ⟨project, hfind, hrefused⟩
      exact hrefused (.inl rfl)
  | getBilling => exact nofun
  | revokeInvite _ =>
      intro ⟨invite, hfind, hrefused⟩
      exact hrefused rfl

end Store

/-- The owner of an organization remains one of its admins, whoever that is by then. After a run of
calls, and so after every step of one, with any registry, by any users and on any organizations,
failures included, the organization is gone or its owner has a membership as an admin. So with the
standard roles no call of the owner on the organization is denied then. -/
theorem owner_remains_admin (registry : Registry) {store : Store} (hstore : store.Reachable)
    {organizationId : Uuid} {organization : Organization}
    (hget : store.organizations.get? organizationId = some organization)
    (hadmin : store.HasRole organizationId organization.ownerId .admin) (calls : List Call) :
    let now := (Store.service registry).runState store calls
    now.organizations.get? organizationId = none ∨
      ∃ current, now.organizations.get? organizationId = some current ∧
        now.HasRole organizationId current.ownerId .admin ∧
        ∀ call : Call, call.actor = current.ownerId →
          now.findOrganization call.organization = some current →
            ∀ failure, ((Store.service .standard).perform call now).result = .error failure →
              failure.isDenied = false := by
  intro now
  have hnow : now.Reachable := hstore.runState registry calls
  have howner : store.OwnerIsAdmin organizationId := by
    intro owner howner
    rw [Store.owner?, hget] at howner
    obtain rfl := Option.some.inj howner
    exact hadmin
  cases hcurrent : now.organizations.get? organizationId with
  | none => exact .inl rfl
  | some current =>
      have hrole : now.HasRole organizationId current.ownerId .admin :=
        howner.runState hstore registry calls _ (by rw [Store.owner?, hcurrent]; rfl)
      refine .inr ⟨current, rfl, hrole, ?_⟩
      intro call hactor hfind failure hfailed
      obtain rfl : current.id = organizationId := hnow.filed.organizations _ _ hcurrent
      rw [← hactor] at hrole
      rw [Bool.eq_false_iff]
      intro hdenied
      have hrefuses := (hnow.filed.denied_iff_of_hasRole hfind hrole).1
        (Store.perform_denied_iff.1 ⟨failure, hfailed, hdenied⟩)
      rw [hactor] at hrefuses
      exact now.not_refuses_owner current call.request hrefuses

/-! ## A transfer that is tried again -/

/-- After a transfer that stops halfway the organization gets another slug and is handed over, and
the new owner hands it to the new owner. -/
def persistence : List Call :=
  [handOver,
    { handOver with request := .updateOrganization ⟨none, some "solo", none⟩ },
    handOver,
    { handOver with actor := .ofNat 13 }]

/-- The organization has the other owner in the end, who is one of its admins. -/
theorem hasRole_persistence :
    Store.sharedSlug.Reachable ∧
      Store.sharedSlug.organizations.get? (.ofNat 1) = some (Store.sharedSlug.acme 1) ∧
      Store.sharedSlug.HasRole (.ofNat 1) (.ofNat 11) .admin ∧
      let now := (Store.service .standard).runState Store.sharedSlug persistence
      now.owner? (.ofNat 1) = some (.ofNat 13) ∧ now.HasRole (.ofNat 1) (.ofNat 13) .admin := by
  have hreachable := Store.reachable_sharedSlug
  have hget : Store.sharedSlug.organizations.get? (.ofNat 1) =
      some (Store.sharedSlug.acme 1) := by decide
  have hadmin : Store.sharedSlug.HasRole (.ofNat 1) (.ofNat 11) .admin :=
    ⟨Store.sharedSlug.seat 11 .admin, by decide⟩
  have howner : ((Store.service .standard).runState Store.sharedSlug persistence).owner?
      (.ofNat 1) = some (.ofNat 13) := by decide
  refine ⟨hreachable, hget, hadmin, howner, ?_⟩
  rcases owner_remains_admin .standard hreachable hget hadmin persistence with
    hgone | ⟨current, hcurrent, hrole, -⟩
  · rw [Store.owner?, hgone] at howner
    cases howner
  · rw [Store.owner?, hcurrent] at howner
    rwa [Option.some.inj howner] at hrole

end OrgAccess
