import OrgAccess.Proofs.Service.Run

/-!
# Nothing happens without a permission

For every registry, however its rules are made: a call that changes a store or gives an answer was
permitted on the record as it stood before the call, and a call that is not permitted says why and
leaves the store alone. The reasons come in the order in which they are looked for: no membership,
no entry for the role, no record, no permission.
-/

namespace OrgAccess

namespace Store

variable {registry : Registry} {store : Store} {call : Call}

/-- A call that changes the store or gives an answer is permitted. -/
theorem Filed.permits_of_effect (hstore : store.Filed)
    (heffect : ((service registry).perform call store).state ≠ store ∨
      ∃ reply, ((service registry).perform call store).result = .ok reply) :
    registry.Permits store call := by
  refine (Registry.exists_verdict_iff hstore).1 ?_
  cases hverdict : registry.verdict call store with
  | ok admitted => exact ⟨admitted, rfl⟩
  | error failure =>
      rw [perform_of_verdict_error hverdict] at heffect
      rcases heffect with hstate | ⟨reply, hreply⟩
      · exact absurd rfl hstate
      · exact nomatch hreply

/-- The call of somebody who is not a member ends before an ability is compiled. -/
theorem Filed.perform_of_not_member (hstore : store.Filed)
    (h : ∀ organization role, store.findOrganization call.organization = some organization →
      ¬ store.HasRole organization.id call.actor role) :
    (service registry).perform call store =
      ⟨.error (.notMember call.organization.text), store,
        [.notMember call.actor call.organization]⟩ := by
  rw [perform_of_verdict_error (Registry.verdict_of_not_member hstore h), Registry.admissionEvents,
    hstore.resolveMembership_eq_none_iff.2 h]

variable {organization : Organization} {role : Role} {declare : Permissions}

/-- The call of a member whose role has no entry ends before a record is looked for. -/
theorem Filed.perform_of_no_entry (hstore : store.Filed)
    (hfind : store.findOrganization call.organization = some organization)
    (hrole : store.HasRole organization.id call.actor role) (hentry : role ∉ registry.roles) :
    (service registry).perform call store =
      ⟨.error (.ability (.configuration (.unknownRole role.name))), store,
        [.noPermissions call.actor.text role]⟩ := by
  have hfault := Registry.permissionsFor_of_not_mem hentry
  have hresolve : store.resolveMembership call.actor call.organization =
      some ⟨call.actor, organization.id, role⟩ :=
    hstore.resolveMembership_eq_some_iff.2 ⟨organization, role, hfind, hrole, rfl⟩
  have hverdict : registry.verdict call store =
      .error (.ability (.configuration (.unknownRole role.name))) := by
    rw [Registry.verdict_of_hasRole hstore hfind hrole, hfault]
  rw [perform_of_verdict_error hverdict]
  simp [Registry.admissionEvents, hresolve, Registry.compile, ResolvedMembership.principal,
    hfault, Except.map]

/-- A record that is missing is told to every member whose role has an entry. -/
theorem Filed.perform_of_missing (hstore : store.Filed)
    (hfind : store.findOrganization call.organization = some organization)
    (hrole : store.HasRole organization.id call.actor role)
    (hentry : registry.permissionsFor role = .ok declare) {missing : Missing}
    (hrecord : call.record store organization.id = .error missing) :
    ((service registry).perform call store).result = .error (.notFound missing) ∧
      ((service registry).perform call store).state = store := by
  have hverdict : registry.verdict call store = .error (.notFound missing) := by
    rw [Registry.verdict_of_hasRole hstore hfind hrole, hentry, hrecord]
  rw [perform_of_verdict_error hverdict]
  exact ⟨rfl, rfl⟩

/-- What the rules do not allow is forbidden. -/
theorem Filed.perform_of_not_can (hstore : store.Filed)
    (hfind : store.findOrganization call.organization = some organization)
    (hrole : store.HasRole organization.id call.actor role)
    (hentry : registry.permissionsFor role = .ok declare) {record : call.request.Record}
    (hrecord : call.record store organization.id = .ok record)
    (hcan : (Registry.abilityOf declare call.actor role).can call.request.action
      (call.request.target record) = false) :
    ((service registry).perform call store).result =
        .error (.forbidden call.request.action (call.request.target record).subjectType) ∧
      ((service registry).perform call store).state = store := by
  have hverdict : registry.verdict call store =
      .error (.forbidden call.request.action (call.request.target record).subjectType) := by
    rw [Registry.verdict_of_hasRole hstore hfind hrole, hentry, hrecord]
    exact if_neg (by simp [hcan])
  rw [perform_of_verdict_error hverdict]
  exact ⟨rfl, rfl⟩

end Store

/-- Guarded operations are guarded, whatever the registry. On a reachable store a call that changes
something or answers is permitted; without a membership, without an entry for the role, without the
record or without the permission it fails for that reason and changes nothing. -/
theorem perform_authorized (registry : Registry) {store : Store} (hstore : store.Reachable)
    (call : Call) :
    let outcome := (Store.service registry).perform call store
    ((outcome.state ≠ store ∨ ∃ reply, outcome.result = .ok reply) →
      registry.Permits store call) ∧
    ((∀ organization role, store.findOrganization call.organization = some organization →
        ¬ store.HasRole organization.id call.actor role) →
      outcome =
        ⟨.error (.notMember call.organization.text), store,
          [.notMember call.actor call.organization]⟩) ∧
    ∀ organization role, store.findOrganization call.organization = some organization →
      store.HasRole organization.id call.actor role →
        (role ∉ registry.roles →
          outcome =
            ⟨.error (.ability (.configuration (.unknownRole role.name))), store,
              [.noPermissions call.actor.text role]⟩) ∧
        ∀ declare, registry.permissionsFor role = .ok declare →
          (∀ missing, call.record store organization.id = .error missing →
            outcome.result = .error (.notFound missing) ∧ outcome.state = store) ∧
          ∀ record, call.record store organization.id = .ok record →
            let target := call.request.target record
            (Registry.abilityOf declare call.actor role).can call.request.action target = false →
              outcome.result = .error (.forbidden call.request.action target.subjectType) ∧
                outcome.state = store := by
  have hfiled := hstore.filed
  refine ⟨hfiled.permits_of_effect, hfiled.perform_of_not_member, ?_⟩
  intro organization role hfind hrole
  refine ⟨hfiled.perform_of_no_entry hfind hrole, ?_⟩
  intro declare hentry
  refine ⟨fun missing hrecord => hfiled.perform_of_missing hfind hrole hentry hrecord, ?_⟩
  intro record hrecord target hcan
  exact hfiled.perform_of_not_can hfind hrole hentry hrecord hcan

/-- The owner of an organization shuts it down, and so was permitted to. -/
theorem permits_shutdown_sharedSlug :
    Store.sharedSlug.Reachable ∧
      Registry.standard.Permits Store.sharedSlug
        { actor := .ofNat 11
          organization := .byId (.ofNat 1)
          request := .shutdownOrganization
          now := Store.sharedSlug.start
          freshId := .ofNat 31 } := by
  refine ⟨Store.reachable_sharedSlug, ?_⟩
  refine (perform_authorized .standard Store.reachable_sharedSlug _).1 (.inr ⟨.done, ?_⟩)
  decide

end OrgAccess
