import OrgAccess.Proofs.Service.Plan

/-!
# Organizations are kept apart

For every registry, a call on one organization leaves the records of every other organization as
they were, and answers with records of its own alone (`tenants_isolated`). Projects and invites of
all organizations are stored side by side and removed by identifier, so this rests on each of them
being looked for in the organization of the call first: one of another organization is told to be
missing (`Store.NamesForeign`).
-/

namespace OrgAccess

/-- Every record of a reply is one of an organization. -/
def Reply.IsOf (organizationId : Uuid) : Reply → Prop
  | .done => True
  | .organization record => record.id = organizationId
  | .project record => record.organizationId = organizationId
  | .billing record => record.organizationId = organizationId
  | .invite record => record.organizationId = organizationId
  | .invites records => ∀ record ∈ records, record.organizationId = organizationId

namespace Agenda

/-- An answer is the one on the agenda. -/
theorem reply_of_carryOutAll {reply answer : Reply} {store : Store}
    (writes : List (Store.Command × Event))
    (h : (carryOutAll reply writes store).result = .ok answer) : answer = reply := by
  induction writes generalizing store with
  | nil => exact (Except.ok.inj h).symm
  | cons write rest ih =>
      unfold carryOutAll at h
      split at h
      · cases h
      · exact ih h

end Agenda

namespace Call

variable {store : Store} {call : Call} {organizationId other : Uuid} {agenda : Agenda}

/-- A plan answers with records of the organization. -/
theorem Plans.isOf_reply (h : call.Plans store organizationId agenda) (hstore : store.Filed) :
    agenda.reply.IsOf organizationId := by
  cases h with
  | updateNothing _ _ hget => exact hstore.organizations _ _ hget
  | @updateOrganization _ organization _ _ hget | @transferOwnership _ organization _ _ hget _ =>
      have hid : organization.id = organizationId := hstore.organizations _ _ hget
      exact hid
  | shutdownOrganization _ _ | deleteProject _ _ | revokeInvite _ _ => trivial
  | createProject _ hnew => rw [hnew]; rfl
  | createInvite _ hnew _ => rw [hnew]; rfl
  | updateProject _ hfind => exact (hstore.of_findProject hfind).2
  | getBilling _ hfind => exact hstore.billing _ _ hfind
  | listInvites _ =>
      intro invite hinvite
      have hmem := (List.mergeSort_perm _ _).mem_iff.1 hinvite
      simpa using (List.mem_filter.1 hmem).2

end Call

namespace Store

variable {registry : Registry} {store : Store} {call : Call} {organizationId other : Uuid}

/-- Seen from another organization, a call changes nothing or carries out a plan elsewhere. -/
theorem Filed.perform_elsewhere (hstore : store.Filed) (registry : Registry)
    (hother : store.organizationId? call.organization ≠ some other) :
    ((service registry).perform call store).state = store ∨
      ∃ organizationId agenda, other ≠ organizationId ∧ call.Plans store organizationId agenda ∧
        ((service registry).perform call store).state = (agenda.carryOut store).state := by
  rcases hstore.perform_cases registry call with
    ⟨_, -, hstate⟩ | ⟨admitted, agenda, hverdict, hplan, -, hstate⟩
  · exact .inl hstate
  · refine .inr ⟨admitted.membership.organizationId, agenda, ?_, hplan, hstate⟩
    rintro rfl
    exact hother (organizationId?_of_verdict hverdict)

/-- The slices of other organizations are as they were. -/
theorem Filed.sameSlice_perform (hstore : store.Filed) (registry : Registry)
    (hfresh : call.IsFresh store)
    (hother : store.organizationId? call.organization ≠ some other) :
    ((service registry).perform call store).state.SameSlice store other := by
  rcases hstore.perform_elsewhere registry hother with
    hstate | ⟨organizationId, agenda, hne, hplan, hstate⟩
  · rw [hstate]
    exact .refl store other
  · rw [hstate]
    refine ((hplan.each_within hstore).and (hplan.each_fresh hfresh)).state_carryOutAll
      (R := fun after before => after.SameSlice before other) (.refl · other) SameSlice.trans ?_
    rintro before after command ⟨hwithin, hcommand⟩ hattempt
    exact hwithin.sameSlice hcommand hattempt hne

/-- Other organizations and their members are as they were, even if a new record takes the place of
one of theirs. -/
theorem Filed.sameOrganization_perform (hstore : store.Filed) (registry : Registry)
    (hother : store.organizationId? call.organization ≠ some other) :
    ((service registry).perform call store).state.SameOrganization store other := by
  rcases hstore.perform_elsewhere registry hother with
    hstate | ⟨organizationId, agenda, hne, hplan, hstate⟩
  · rw [hstate]
    exact .refl store other
  · rw [hstate]
    exact (hplan.each_within hstore).state_carryOutAll
      (R := fun after before => after.SameOrganization before other) (.refl · other)
      SameOrganization.trans fun hwithin hattempt => hwithin.sameOrganization hattempt hne

/-! ## Records of other organizations -/

/-- A request names a project or an invite that another organization has, and how it is told that
the organization has none. -/
inductive NamesForeign (store : Store) (organizationId : Uuid) : Request → Missing → Prop
  | updatedProject {other projectId : Uuid} {project : Project} {update : ProjectUpdate}
      (hfind : store.findProject other projectId = some project) (hother : organizationId ≠ other) :
      NamesForeign store organizationId (.updateProject projectId update) (.project projectId)
  | deletedProject {other projectId : Uuid} {project : Project}
      (hfind : store.findProject other projectId = some project) (hother : organizationId ≠ other) :
      NamesForeign store organizationId (.deleteProject projectId) (.project projectId)
  | revokedInvite {other inviteId : Uuid} {invite : Invite}
      (hfind : store.findInvite other inviteId = some invite) (hother : organizationId ≠ other) :
      NamesForeign store organizationId (.revokeInvite inviteId) (.invite inviteId)

/-- What another organization has is lacking. -/
theorem NamesForeign.lacks {request : Request} {missing : Missing}
    (h : store.NamesForeign organizationId request missing) :
    store.Lacks organizationId request missing := by
  cases h with
  | updatedProject hfind hother =>
      exact .updatedProject (Table.filter_get?_of_ne ⟨_, hfind⟩ hother)
  | deletedProject hfind hother =>
      exact .deletedProject (Table.filter_get?_of_ne ⟨_, hfind⟩ hother)
  | revokedInvite hfind hother => exact .invite (Table.filter_get?_of_ne ⟨_, hfind⟩ hother)

/-- Whoever names a record that is not found is told that it is missing, if not turned away
before. -/
theorem Filed.perform_of_record_error (hstore : store.Filed) (registry : Registry)
    {missing : Missing} (hid : store.organizationId? call.organization = some organizationId)
    (hrecord : call.record store organizationId = .error missing) :
    ((service registry).perform call store).state = store ∧
      (((service registry).perform call store).result =
          .error (.notMember call.organization.text) ∨
        (∃ role ∉ registry.roles, ((service registry).perform call store).result =
          .error (.ability (.configuration (.unknownRole role.name)))) ∨
        ((service registry).perform call store).result = .error (.notFound missing)) := by
  obtain ⟨organization, hfind, rfl⟩ := hstore.exists_findOrganization hid
  by_cases hmember : ∃ role, store.HasRole organization.id call.actor role
  · obtain ⟨role, hrole⟩ := hmember
    by_cases hentry : role ∈ registry.roles
    · obtain ⟨declare, hdeclare⟩ := Registry.exists_permissionsFor hentry
      obtain ⟨hresult, hstate⟩ := hstore.perform_of_missing hfind hrole hdeclare hrecord
      exact ⟨hstate, .inr (.inr hresult)⟩
    · rw [hstore.perform_of_no_entry hfind hrole hentry]
      exact ⟨rfl, .inr (.inl ⟨role, hentry, rfl⟩)⟩
  · rw [hstore.perform_of_not_member]
    · exact ⟨rfl, .inl rfl⟩
    · intro other role hother hrole
      obtain rfl := Option.some.inj (hfind.symm.trans hother)
      exact hmember ⟨role, hrole⟩

end Store

/-- Organizations are kept apart, whatever the registry. A call on an organization leaves the slice
of every other one as it was, answers with records of its own, and tells of a project or an invite
of another that it is missing, if it tells anything; a call that names no organization changes
nothing. New records are taken to be fresh. -/
theorem tenants_isolated (registry : Registry) {store : Store} (hstore : store.Reachable)
    {call : Call} (hfresh : call.IsFresh store) :
    let outcome := (Store.service registry).perform call store
    (∀ organizationId, store.organizationId? call.organization = some organizationId →
      (∀ other, other ≠ organizationId → outcome.state.SameSlice store other) ∧
      (∀ reply, outcome.result = .ok reply → reply.IsOf organizationId) ∧
      ∀ missing, store.NamesForeign organizationId call.request missing →
        outcome.state = store ∧
          (outcome.result = .error (.notMember call.organization.text) ∨
            (∃ role ∉ registry.roles,
              outcome.result = .error (.ability (.configuration (.unknownRole role.name)))) ∨
            outcome.result = .error (.notFound missing))) ∧
    (store.organizationId? call.organization = none → outcome.state = store) := by
  intro outcome
  have hfiled := hstore.filed
  refine ⟨fun organizationId hid => ⟨fun other hother => ?_, fun reply hreply => ?_,
    fun missing hforeign => ?_⟩, fun hnone => ?_⟩
  · refine hfiled.sameSlice_perform registry hfresh ?_
    rw [hid]
    exact fun hsame => hother (Option.some.inj hsame).symm
  · rcases hfiled.perform_cases registry call with
      ⟨failure, hfailed, -⟩ | ⟨admitted, agenda, hverdict, hplan, hresult, -⟩
    · exact nomatch hfailed.symm.trans hreply
    · have hsame := Option.some.inj (hid.symm.trans (Store.organizationId?_of_verdict hverdict))
      rw [hsame, Agenda.reply_of_carryOutAll agenda.writes (hresult.symm.trans hreply)]
      exact hplan.isOf_reply hfiled
  · exact hfiled.perform_of_record_error registry hid hforeign.lacks.record_eq
  · rcases hfiled.perform_cases registry call with
      ⟨_, -, hstate⟩ | ⟨_, _, hverdict, -⟩
    · exact hstate
    · exact nomatch hnone.symm.trans (Store.organizationId?_of_verdict hverdict)

/-- An admin of one organization asks for a project of another to be removed. -/
def trespass : Call :=
  { actor := .ofNat 11
    organization := .byId (.ofNat 1)
    request := .deleteProject (.ofNat 22)
    now := Store.sharedSlug.start
    freshId := .ofNat 41 }

/-- The admin is told that there is no such project, and the other organization keeps it. -/
theorem missing_trespass :
    Store.neighbours.Reachable ∧ trespass.IsFresh Store.neighbours ∧
      Store.neighbours.NamesForeign (.ofNat 1) trespass.request (.project (.ofNat 22)) ∧
      ((Store.service .standard).perform trespass Store.neighbours).state = Store.neighbours ∧
      ((Store.service .standard).perform trespass Store.neighbours).state.SameSlice
        Store.neighbours (.ofNat 2) := by
  have hfresh : trespass.IsFresh Store.neighbours := trivial
  have hfind : Store.neighbours.findProject (.ofNat 2) (.ofNat 22) =
      some (Store.neighbours.site 2 22 14) := by decide
  have hforeign : Store.neighbours.NamesForeign (.ofNat 1) trespass.request
      (.project (.ofNat 22)) := .deletedProject hfind (by decide)
  obtain ⟨hothers, -, hmissing⟩ :=
    (tenants_isolated .standard Store.reachable_neighbours hfresh).1 (.ofNat 1)
      (by decide)
  exact ⟨Store.reachable_neighbours, hfresh, hforeign, (hmissing _ hforeign).1,
    hothers _ (by decide)⟩

end OrgAccess
