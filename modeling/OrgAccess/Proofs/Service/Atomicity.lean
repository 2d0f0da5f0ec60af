import OrgAccess.Proofs.Service.Authorization

/-!
# What a failure leaves behind

Every operation but one writes once, and a write that is refused changes nothing. A transfer of
ownership writes twice: it makes the new owner an admin and then saves the organization, which is
refused when another organization has the slug. The first write stays then
(`Registry.StopsHalfway`), and `state_of_failure` says that this is the only failure that leaves
anything behind.
-/

namespace OrgAccess

/-- A transfer of ownership that is permitted, to a member who is not an admin, of an organization
whose slug another organization has. -/
structure Registry.StopsHalfway (registry : Registry) (store : Store) (call : Call)
    (organization : Organization) (newOwner : Uuid) : Prop where
  permitted : registry.Permits store call
  transfer : call.request = .transferOwnership newOwner
  named : store.findOrganization call.organization = some organization
  promoted : ∃ role, store.HasRole organization.id newOwner role ∧ role ≠ .admin
  clash : store.SlugTaken organization.slug organization.id

namespace Store

variable {store : Store}

/-- The store in which a member is an admin. -/
def withAdmin (store : Store) (organizationId userId : Uuid) : Store :=
  { store with memberships := setRole organizationId userId .admin store.memberships }

/-- Making a member an admin is never refused. -/
theorem attempt_setMemberRole {organizationId userId : Uuid} {role : Role}
    (h : store.HasRole organizationId userId role) :
    store.attempt (.setMemberRole organizationId userId .admin) =
      .ok (store.withAdmin organizationId userId) := by
  obtain ⟨m, hm, rfl, rfl, -⟩ := h
  exact setMemberRole_eq_ok_iff.2 ⟨⟨m, hm, (m.links_iff _ _).2 rfl⟩, rfl⟩

end Store

namespace Call

variable {registry : Registry} {store : Store} {call : Call} {admitted : call.Admitted}
  {failure : Failure}

/-- After the promotion the organization is saved unless its slug is taken. -/
theorem attempt_saveTransferred {organization : Organization}
    (hget : store.organizations.get? organization.id = some organization) (newOwner : Uuid) :
    (store.withAdmin organization.id newOwner).attempt
        (.saveOrganization (call.transferred organization newOwner)) =
      if store.SlugTaken organization.slug organization.id then
        .error (.conflict (.organizationSlug organization.slug))
      else
        .ok ((store.withAdmin organization.id newOwner).addOrganization
          (call.transferred organization newOwner)) := by
  have hexists : (store.withAdmin organization.id newOwner).organizations.get?
      (call.transferred organization newOwner).id ≠ none := by
    simp [Store.withAdmin, transferred, hget]
  rw [Store.attempt, Store.saveOrganization_eq, if_neg hexists]
  rfl

/-- A transfer of ownership is served by looking for the member and writing. -/
theorem serve_transferOwnership (hstore : store.Filed)
    (hadmitted : registry.verdict call store = .ok admitted) {newOwner : Uuid}
    (hrequest : call.request = .transferOwnership newOwner) :
    ∃ organization, store.findOrganization call.organization = some organization ∧
      call.serve admitted store =
        match store.role? organization.id newOwner with
        | none => ⟨.error (.notFound (.member newOwner organization.id)), store, []⟩
        | some role =>
            Agenda.carryOutAll (.organization (call.transferred organization newOwner))
              (call.transferWrites organization newOwner role) store := by
  obtain ⟨actor, reference, request, now, freshId⟩ := call
  obtain rfl : request = .transferOwnership newOwner := hrequest
  obtain ⟨⟨membership, ability⟩, organization⟩ := admitted
  obtain ⟨-, -, hrecord, -⟩ := Registry.verdict_eq_ok_iff.1 hadmitted
  have hfind : store.findOrganization reference = some organization :=
    Missing.unlessFound_eq_ok_iff.1 hrecord
  refine ⟨organization, hfind, ?_⟩
  have hid : store.organizationId? (.byId (Organization.id organization)) =
      some (Organization.id organization) :=
    (hstore.findOrganization_eq_some_iff.1 (hstore.findOrganization_byId hfind)).1
  simp only [serve, agenda, agendaFor, Store.resolveMembership_eq, hid, Option.bind_some]
  cases store.role? (Organization.id organization) newOwner <;> rfl

/-- The second write of a transfer is refused after the first. -/
theorem carryOutAll_transferWrites_of_slugTaken {organization : Organization} {newOwner : Uuid}
    {role : Role} {reply : Reply}
    (hget : store.organizations.get? organization.id = some organization)
    (hrole : store.HasRole organization.id newOwner role) (hne : role ≠ .admin)
    (hclash : store.SlugTaken organization.slug organization.id) :
    Agenda.carryOutAll reply (call.transferWrites organization newOwner role) store =
      ⟨.error (.conflict (.organizationSlug organization.slug)),
        store.withAdmin organization.id newOwner,
        [.memberPromoted organization.id newOwner role]⟩ := by
  have hpromote := Store.attempt_setMemberRole hrole
  have hsave : (store.withAdmin organization.id newOwner).attempt
      (.saveOrganization (call.transferred organization newOwner)) =
        .error (.conflict (.organizationSlug organization.slug)) :=
    (attempt_saveTransferred hget newOwner).trans (if_pos hclash)
  rw [transferWrites, Agenda.promotion, if_neg hne]
  simp only [List.singleton_append, Agenda.carryOutAll, hpromote, hsave]

/-- A transfer that fails otherwise fails before it writes anything. -/
theorem state_carryOutAll_transferWrites {organization : Organization} {newOwner : Uuid}
    {role : Role} {reply : Reply}
    (hget : store.organizations.get? organization.id = some organization)
    (hrole : store.HasRole organization.id newOwner role)
    (hhalf : role ≠ .admin → ¬ store.SlugTaken organization.slug organization.id)
    (hfailed : (Agenda.carryOutAll reply (call.transferWrites organization newOwner role)
      store).result = .error failure) :
    (Agenda.carryOutAll reply (call.transferWrites organization newOwner role) store).state =
      store := by
  by_cases hadmin : role = .admin
  · -- without a promotion there is one write
    refine Agenda.state_carryOutAll_of_length_le_one ?_ hfailed
    rw [transferWrites, Agenda.promotion, if_pos hadmin]
    exact Nat.le_refl 1
  · -- neither write is refused, so there is no failure
    have hpromote := Store.attempt_setMemberRole hrole
    have hsave : (store.withAdmin organization.id newOwner).attempt
        (.saveOrganization (call.transferred organization newOwner)) = .ok _ :=
      (attempt_saveTransferred hget newOwner).trans (if_neg (hhalf hadmin))
    rw [transferWrites, Agenda.promotion, if_neg hadmin] at hfailed
    simp [Agenda.carryOutAll, hpromote, hsave] at hfailed

end Call

namespace Store

variable {registry : Registry} {store : Store} {call : Call}

/-- The member is an admin after a transfer that stops halfway, and the owner is still the old. -/
theorem Filed.perform_of_stopsHalfway (hstore : store.Filed) {organization : Organization}
    {newOwner : Uuid} (h : registry.StopsHalfway store call organization newOwner) :
    ((service registry).perform call store).result =
        .error (.conflict (.organizationSlug organization.slug)) ∧
      ((service registry).perform call store).state = store.withAdmin organization.id newOwner := by
  obtain ⟨admitted, hadmitted⟩ := (Registry.exists_verdict_iff hstore).2 h.permitted
  obtain ⟨other, hother, hserve⟩ := Call.serve_transferOwnership hstore hadmitted h.transfer
  obtain rfl : other = organization := Option.some.inj (hother.symm.trans h.named)
  obtain ⟨role, hrole, hne⟩ := h.promoted
  have hget := (hstore.findOrganization_eq_some_iff.1 hother).2
  rw [hstore.role?_eq_some_iff.2 hrole] at hserve
  dsimp only at hserve
  rw [Call.carryOutAll_transferWrites_of_slugTaken hget hrole hne h.clash] at hserve
  rw [(perform_of_verdict_ok hadmitted).1, (perform_of_verdict_ok hadmitted).2, hserve]
  exact ⟨rfl, rfl⟩

/-- A call that fails otherwise changes nothing. -/
theorem Filed.state_perform_of_error (hstore : store.Filed) {failure : Failure}
    (hfailed : ((service registry).perform call store).result = .error failure)
    (hhalf : ∀ organization newOwner,
      ¬ registry.StopsHalfway store call organization newOwner) :
    ((service registry).perform call store).state = store := by
  cases hverdict : registry.verdict call store with
  | error refusal => rw [perform_of_verdict_error hverdict]
  | ok admitted =>
      rw [(perform_of_verdict_ok hverdict).1] at hfailed
      rw [(perform_of_verdict_ok hverdict).2]
      by_cases htransfer : ∃ newOwner, call.request = .transferOwnership newOwner
      · obtain ⟨newOwner, htransfer⟩ := htransfer
        obtain ⟨organization, hfind, hserve⟩ :=
          Call.serve_transferOwnership hstore hverdict htransfer
        have hget := (hstore.findOrganization_eq_some_iff.1 hfind).2
        rw [hserve] at hfailed ⊢
        cases hrole : store.role? organization.id newOwner with
        | none => rfl
        | some role =>
            rw [hrole] at hfailed
            have hmember := hstore.role?_eq_some_iff.1 hrole
            refine Call.state_carryOutAll_transferWrites hget hmember ?_ hfailed
            intro hne hclash
            exact hhalf organization newOwner
              { permitted := (Registry.exists_verdict_iff hstore).1 ⟨admitted, hverdict⟩
                transfer := htransfer
                named := hfind
                promoted := ⟨role, hmember, hne⟩
                clash := hclash }
      · -- every other request has one command at most
        unfold Call.serve at hfailed ⊢
        cases hagenda : call.agenda store admitted with
        | error refusal => rfl
        | ok agenda =>
            rw [hagenda] at hfailed
            refine Agenda.state_carryOutAll_of_length_le_one ?_ hfailed
            refine Call.length_writes_le_one ?_ hagenda
            intro newOwner hrequest
            exact htransfer ⟨newOwner, hrequest⟩

end Store

/-- On a reachable store a call that fails leaves the store as it was, unless it is a transfer of
ownership that stops halfway. Such a transfer fails for the slug and leaves the member an admin. -/
theorem state_of_failure (registry : Registry) {store : Store} (hstore : store.Reachable)
    (call : Call) :
    let outcome := (Store.service registry).perform call store
    (∀ failure, outcome.result = .error failure →
      (outcome.state = store ↔
        ∀ organization newOwner, ¬ registry.StopsHalfway store call organization newOwner)) ∧
    ∀ organization newOwner, registry.StopsHalfway store call organization newOwner →
      outcome.result = .error (.conflict (.organizationSlug organization.slug)) ∧
        outcome.state = store.withAdmin organization.id newOwner := by
  intro outcome
  have hfiled := hstore.filed
  refine ⟨fun failure hfailed => ⟨?_, hfiled.state_perform_of_error hfailed⟩,
    fun organization newOwner => hfiled.perform_of_stopsHalfway⟩
  intro hsame organization newOwner hhalf
  obtain ⟨role, hrole, hne⟩ := hhalf.promoted
  have hstate := (hfiled.perform_of_stopsHalfway hhalf).2
  exact hfiled.setRole_ne hrole hne (congrArg Store.memberships (hstate.symm.trans hsame))

/-! ## A transfer that stops halfway -/

/-- The owner of an organization hands it to the member who is no admin. -/
def handOver : Call :=
  { actor := .ofNat 11
    organization := .byId (.ofNat 1)
    request := .transferOwnership (.ofNat 13)
    now := Store.sharedSlug.start
    freshId := .ofNat 31 }

/-- The transfer that fails on the shared slug leaves the store changed. -/
theorem state_handOver_ne :
    ((Store.service .standard).perform handOver Store.sharedSlug).state ≠ Store.sharedSlug := by
  have hmemberships : ((Store.service .standard).perform handOver
      Store.sharedSlug).state.memberships ≠ Store.sharedSlug.memberships := by
    decide
  intro hsame
  exact hmemberships (congrArg Store.memberships hsame)

/-- The transfer fails and leaves another store behind. -/
theorem failed_handOver_changes :
    Store.sharedSlug.Reachable ∧
      ((Store.service .standard).perform handOver Store.sharedSlug).result =
        .error (.conflict (.organizationSlug "acme")) ∧
      ((Store.service .standard).perform handOver Store.sharedSlug).state ≠ Store.sharedSlug :=
  ⟨Store.reachable_sharedSlug, by decide, state_handOver_ne⟩

/-- What it leaves behind is the store with another admin. -/
theorem state_handOver :
    Store.sharedSlug.Reachable ∧
      ((Store.service .standard).perform handOver Store.sharedSlug).state =
        Store.sharedSlug.withAdmin (.ofNat 1) (.ofNat 13) := by
  have hreachable := Store.reachable_sharedSlug
  refine ⟨hreachable, ((state_of_failure .standard hreachable handOver).2
    (Store.sharedSlug.acme 1) (.ofNat 13) ?_).2⟩
  exact
    { permitted := hreachable.filed.permits_of_effect (.inl state_handOver_ne)
      transfer := rfl
      named := by decide
      promoted := ⟨.member, ⟨Store.sharedSlug.seat 13 .member, by decide⟩, by decide⟩
      clash := by decide }

end OrgAccess
