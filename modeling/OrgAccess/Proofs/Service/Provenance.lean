import OrgAccess.Proofs.Service.Effect

/-!
# Where projects and invites come from

A project that is stored after a call was stored before, has been changed by the call, or is the one
that the call has made (`Call.Effect.project_origin`), and an invite was stored before or is the one
that the call has made (`Call.Effect.invite_origin`). So an identifier without a record gets one
only when a call is given it for a new record (`Store.FilesNew`), and where a run of calls is given
identifiers of its own (`Store.NewIds`), whatever is removed stays removed.
-/

namespace OrgAccess

/-- No identifier is listed twice, and none of those that are listed has a record. -/
structure Table.Unused {α : Type} (table : Table α) (ids : List Uuid) : Prop where
  nodup : ids.Nodup
  free : ∀ id ∈ ids, table.get? id = none

/-- A part of a list of unused identifiers is such a list. -/
theorem Table.Unused.sublist {α : Type} {table : Table α} {ids others : List Uuid}
    (h : table.Unused ids) (hsub : others.Sublist ids) : table.Unused others :=
  ⟨h.nodup.sublist hsub, fun id hid => h.free id (hsub.subset hid)⟩

namespace Call

/-- The identifier that a call has for the project that it is to make. -/
def projectId? (call : Call) : Option Uuid :=
  match call.request with
  | .createProject _ => some call.freshId
  | _ => none

/-- The identifier that a call has for the invite that it is to make. -/
def inviteId? (call : Call) : Option Uuid :=
  match call.request with
  | .createInvite _ _ => some call.freshId
  | _ => none

variable {store after : Store} {call : Call} {organizationId id : Uuid}
  {result : Except Failure Reply}

/-! ## One call -/

/-- A project is as it was before a call, or the call has changed it or made it. -/
theorem Effect.project_origin (h : call.Effect store organizationId result after)
    {project : Project} (hget : after.projects.get? id = some project) :
    store.projects.get? id = some project ∨
      (∃ old update, store.projects.get? id = some old ∧
        project = ProjectUpdate.apply update call.now old) ∨
      call.projectId? = some id ∧ project.updatedAt = call.now := by
  cases h with
  | madeProject hrequest hnew _ =>
      rcases Table.get?_insert_eq_some_iff.1 hget with ⟨hid, rfl⟩ | ⟨-, hget⟩
      · right
        right
        rw [projectId?, hrequest, hid, hnew]
        exact ⟨rfl, rfl⟩
      · exact .inl hget
  | savedProject hrequest hfind hnew =>
      rcases Table.get?_insert_eq_some_iff.1 hget with ⟨hid, rfl⟩ | ⟨-, hget⟩
      · rw [hid]
        exact .inr (.inl ⟨_, _, (Option.filter_eq_some_iff.1 hfind).1, hnew⟩)
      · exact .inl hget
  | removedProject _ _ => exact .inl (Table.get?_erase_eq_some_iff.1 hget).2
  | shutDown _ _ =>
      rw [Store.withoutOrganization, Table.get?_filter] at hget
      exact .inl (Option.filter_eq_some_iff.1 hget).1
  | keptOrganization _ _ _ | savedOrganization _ _ _ _ _ | handedOver _ _ _ _ _
  | stoppedHalfway _ _ _ _ _ | readBilling _ _ | madeInvite _ _ _ _ | listedInvites _
  | removedInvite _ _ => exact .inl hget

/-- An invite is as it was before a call, or it is the one that the call was to make. -/
theorem Effect.invite_kept_or_made (h : call.Effect store organizationId result after)
    {invite : Invite} (hget : after.invites.get? id = some invite) :
    store.invites.get? id = some invite ∨
      ∃ email role, call.request = .createInvite email role ∧
        invite = .new call.freshId organizationId email role call.actor call.now ∧
        id = call.freshId := by
  cases h with
  | madeInvite hrequest hnew _ _ =>
      rcases Table.get?_insert_eq_some_iff.1 hget with ⟨hid, rfl⟩ | ⟨-, hget⟩
      · exact .inr ⟨_, _, hrequest, hnew, hid.trans (by rw [hnew]; rfl)⟩
      · exact .inl hget
  | removedInvite _ _ => exact .inl (Table.get?_erase_eq_some_iff.1 hget).2
  | shutDown _ _ =>
      rw [Store.withoutOrganization, Table.get?_filter] at hget
      exact .inl (Option.filter_eq_some_iff.1 hget).1
  | keptOrganization _ _ _ | savedOrganization _ _ _ _ _ | handedOver _ _ _ _ _
  | stoppedHalfway _ _ _ _ _ | madeProject _ _ _ | savedProject _ _ _ | removedProject _ _
  | readBilling _ _ | listedInvites _ => exact .inl hget

/-- An invite is as it was before a call, or the call has made it. -/
theorem Effect.invite_origin (h : call.Effect store organizationId result after)
    {invite : Invite} (hget : after.invites.get? id = some invite) :
    store.invites.get? id = some invite ∨ call.inviteId? = some id := by
  rcases h.invite_kept_or_made hget with hkept | ⟨_, _, hrequest, -, hid⟩
  · exact .inl hkept
  · right
    rw [inviteId?, hrequest, hid]

end Call

namespace Store

variable {α : Type} {table : Store → Table α} {newId? : Call → Option Uuid} {store : Store}
  {call : Call} {id : Uuid}

/-- A project that is found after a call was there, or is an update of one, or is the new one. -/
theorem Filed.project_origin (hstore : store.Filed) (registry : Registry) (call : Call)
    {project : Project}
    (hget : ((service registry).perform call store).state.projects.get? id = some project) :
    store.projects.get? id = some project ∨
      (∃ old update, store.projects.get? id = some old ∧
        project = ProjectUpdate.apply update call.now old) ∨
      call.projectId? = some id ∧ project.updatedAt = call.now := by
  rcases hstore.perform_effect registry call with ⟨_, -, hstate⟩ | ⟨_, -, heffect⟩
  · rw [hstate] at hget
    exact .inl hget
  · exact heffect.project_origin hget

/-- An invite that is found after a call was there or is the new one. -/
theorem Filed.invite_origin (hstore : store.Filed) (registry : Registry) (call : Call)
    {invite : Invite}
    (hget : ((service registry).perform call store).state.invites.get? id = some invite) :
    store.invites.get? id = some invite ∨ call.inviteId? = some id := by
  rcases hstore.perform_effect registry call with ⟨_, -, hstate⟩ | ⟨_, -, heffect⟩
  · rw [hstate] at hget
    exact .inl hget
  · exact heffect.invite_origin hget

/-- Calls file records in a table under the identifiers that they are given for new ones, and bring
none under any other identifier that has none. -/
def FilesNew (table : Store → Table α) (newId? : Call → Option Uuid) : Prop :=
  ∀ {store : Store}, store.Filed → ∀ (registry : Registry) (call : Call) (id : Uuid),
    (table store).get? id = none → newId? call ≠ some id →
      (table ((service registry).perform call store).state).get? id = none

/-- Projects are filed under the identifiers that calls are given for them. -/
theorem filesNew_projects : FilesNew Store.projects Call.projectId? := by
  intro store hstore registry call id hnone hother
  rw [Option.eq_none_iff_forall_ne_some]
  intro project hget
  rcases hstore.project_origin registry call hget with hsame | ⟨old, _, hold, -⟩ | ⟨hnew, -⟩
  · cases hnone.symm.trans hsame
  · cases hnone.symm.trans hold
  · exact hother hnew

/-- Invites are filed under the identifiers that calls are given for them. -/
theorem filesNew_invites : FilesNew Store.invites Call.inviteId? := by
  intro store hstore registry call id hnone hother
  rw [Option.eq_none_iff_forall_ne_some]
  intro invite hget
  rcases hstore.invite_origin registry call hget with hsame | hnew
  · cases hnone.symm.trans hsame
  · exact hother hnew

/-! ## Runs -/

/-- What the calls of a run have is what the first has, and then what the rest have. -/
theorem filterMap_cons_eq {β : Type} (has? : Call → Option β) (call : Call) (rest : List Call) :
    (call :: rest).filterMap has? = (has? call).toList ++ rest.filterMap has? := by
  rw [List.filterMap_cons]
  cases has? call <;> rfl

/-- An identifier that a run is given is given to its first call or to a later one. -/
theorem mem_filterMap_newId?_cons {rest : List Call} :
    id ∈ (call :: rest).filterMap newId? ↔ newId? call = some id ∨ id ∈ rest.filterMap newId? := by
  rw [filterMap_cons_eq, List.mem_append, Option.mem_toList]

/-- An identifier that is given later has no record yet and is not the one that is given now. -/
theorem unused_later {rest : List Call}
    (h : (table store).Unused ((call :: rest).filterMap newId?)) :
    ∀ id ∈ rest.filterMap newId?,
      (table store).get? id = none ∧ id ∉ (newId? call).toList := by
  have hnodup := h.nodup
  rw [filterMap_cons_eq, List.nodup_append] at hnodup
  intro id hid
  refine ⟨h.free id (mem_filterMap_newId?_cons.2 (.inr hid)), ?_⟩
  intro hnow
  exact hnodup.2.2 id hnow id hid rfl

namespace FilesNew

/-- An identifier without a record still has none after a run of calls that are not given it. -/
theorem runState (h : FilesNew table newId?) (hstore : store.Reachable) (registry : Registry)
    {calls : List Call} (hnone : (table store).get? id = none)
    (hother : id ∉ calls.filterMap newId?) :
    (table ((service registry).runState store calls)).get? id = none := by
  induction calls generalizing store with
  | nil => exact hnone
  | cons call rest ih =>
      rw [mem_filterMap_newId?_cons, not_or] at hother
      exact ih (hstore.perform registry call)
        (h hstore.filed registry call id hnone hother.1) hother.2

/-- A record that a call removes is not there at the end of the run, since its identifier is not
given to another. -/
theorem stays_removed (h : FilesNew table newId?) (hstore : store.Reachable) (registry : Registry)
    {rest : List Call} (hunused : (table store).Unused ((call :: rest).filterMap newId?))
    (hthere : (table store).get? id ≠ none)
    (hgone : (table ((service registry).perform call store).state).get? id = none) :
    (table ((service registry).runState store (call :: rest))).get? id = none := by
  refine h.runState (hstore.perform registry call) registry hgone ?_
  -- its identifier was in use at the start, and those given later were not
  intro hgiven
  exact hthere (unused_later hunused id hgiven).1

/-- Identifiers that are not used yet are not used by a call that is given another one. -/
theorem unused_perform (h : FilesNew table newId?) (hstore : store.Filed) (registry : Registry)
    {rest : List Call} (hunused : (table store).Unused ((call :: rest).filterMap newId?)) :
    (table ((service registry).perform call store).state).Unused (rest.filterMap newId?) := by
  have hnodup := hunused.nodup
  rw [filterMap_cons_eq, List.nodup_append] at hnodup
  refine ⟨hnodup.2.1, ?_⟩
  intro id hid
  obtain ⟨hfree, hother⟩ := unused_later hunused id hid
  exact h hstore registry call id hfree (mt Option.mem_toList.2 hother)

end FilesNew

/-- Every project and every invite that a run of calls is to make is given an identifier of its own,
which no such record has at the start. -/
structure NewIds (store : Store) (calls : List Call) : Prop where
  projects : store.projects.Unused (calls.filterMap Call.projectId?)
  invites : store.invites.Unused (calls.filterMap Call.inviteId?)

namespace NewIds

variable {registry : Registry} {rest calls : List Call}

/-- The first call of a run that is given new identifiers is fresh. -/
theorem isFresh (h : store.NewIds (call :: rest)) : call.IsFresh store := by
  have hprojects := h.projects.free
  have hinvites := h.invites.free
  obtain ⟨actor, organization, request, now, freshId⟩ := call
  cases request with
  | createProject input => exact hprojects freshId (mem_filterMap_newId?_cons.2 (.inl rfl))
  | createInvite email role => exact hinvites freshId (mem_filterMap_newId?_cons.2 (.inl rfl))
  | updateOrganization _ | shutdownOrganization | transferOwnership _ | updateProject _ _
  | deleteProject _ | getBilling | listInvites | revokeInvite _ => trivial

/-- What is new to a run is new to the rest of it after the first call. -/
theorem perform (h : store.NewIds (call :: rest)) (hstore : store.Filed) (registry : Registry) :
    ((service registry).perform call store).state.NewIds rest :=
  ⟨filesNew_projects.unused_perform hstore registry h.projects,
    filesNew_invites.unused_perform hstore registry h.invites⟩

/-- What is new to a run is new to its first part, and what the rest is given is new after that. -/
theorem left (h : store.NewIds (calls ++ rest)) : store.NewIds calls where
  projects := h.projects.sublist ((List.sublist_append_left calls rest).filterMap _)
  invites := h.invites.sublist ((List.sublist_append_left calls rest).filterMap _)

/-- What is new to a run is new to the rest of it after any part. -/
theorem runState (h : store.NewIds (calls ++ rest)) (hstore : store.Reachable)
    (registry : Registry) : ((service registry).runState store calls).NewIds rest := by
  induction calls generalizing store with
  | nil => exact h
  | cons call more ih => exact ih (h.perform hstore.filed registry) (hstore.perform registry call)

end NewIds

end Store

end OrgAccess
