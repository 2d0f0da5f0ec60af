import OrgAccess.Proofs.Service.Aging

/-!
# What calls report

The events of a call against what it does. Serving a call reports each write once it has succeeded,
so the events of a call that stops tell what it has written by then (`Call.Reports`, one constructor
for each way in which that can end). Before that, whoever is turned away is warned about, and a role
without an entry is an error (`Call.Complains`). `reports_faithful` puts the two together: reading
the events by their levels tells whether the call was denied, whether the registry is at fault, and
whether the store has changed.
-/

namespace OrgAccess

/-- Events that only follow what is going on: no information, no warning and no error. -/
def Event.Quiet (events : List Event) : Prop :=
  ∀ event ∈ events, event.level = .trace ∨ event.level = .debug

/-- The events of an outcome that have a level, in order. -/
def Outcome.reported {σ α : Type} (outcome : Outcome σ α) (level : Level) : List Event :=
  outcome.events.filter fun event => event.level = level

/-- Quiet events do not show where informations, warnings or errors are asked for. -/
theorem Event.Quiet.reported_eq {σ α : Type} {result : Except Failure α} {state : σ}
    {quiet rest : List Event} (h : Event.Quiet quiet) {level : Level}
    (hlevel : level ≠ .trace ∧ level ≠ .debug) :
    Outcome.reported ⟨result, state, quiet ++ rest⟩ level =
      rest.filter fun event => event.level = level := by
  have hnone : (quiet.filter fun event => event.level = level) = [] := by
    refine List.filter_eq_nil_iff.2 fun event hevent => ?_
    rw [decide_eq_true_eq]
    rintro rfl
    exact (h event hevent).elim hlevel.1 hlevel.2
  rw [Outcome.reported, List.filter_append, hnone, List.nil_append]

namespace Call

/-- The record that a call acts on, by the field that it has in reports and its identifier. -/
def actsOn? (call : Call) (organizationId : Uuid) : Option (String × Uuid) :=
  match call.request with
  | .updateOrganization _ | .shutdownOrganization | .transferOwnership _ =>
      some ("organization", organizationId)
  | .createProject _ => some ("project", call.freshId)
  | .updateProject projectId _ | .deleteProject projectId => some ("project", projectId)
  | .createInvite _ _ => some ("invite", call.freshId)
  | .revokeInvite inviteId => some ("invite", inviteId)
  | .getBilling | .listInvites => none

/-- The report that a call on an organization is done. A call that only reads makes none. -/
def completion? (call : Call) (organization : Organization) : Option Event :=
  match call.request with
  | .updateOrganization _ => some (.organizationUpdated call.actor organization.id)
  | .shutdownOrganization => some (.organizationShutDown call.actor organization.id)
  | .transferOwnership newOwner =>
      some (.ownershipTransferred call.actor organization.id organization.ownerId newOwner)
  | .createProject _ => some (.projectCreated call.actor call.freshId)
  | .updateProject projectId _ => some (.projectUpdated call.actor projectId)
  | .deleteProject projectId => some (.projectDeleted call.actor projectId)
  | .createInvite _ role => some (.inviteCreated call.actor call.freshId role)
  | .revokeInvite inviteId => some (.inviteRevoked call.actor inviteId)
  | .getBilling | .listInvites => none

/-- The report that a call makes a member an admin on the way. -/
def promotion? (call : Call) (store : Store) (organizationId : Uuid) : Option Event :=
  match call.request with
  | .transferOwnership newOwner =>
      ((store.role? organizationId newOwner).filter (· ≠ .admin)).map
        (.memberPromoted organizationId newOwner)
  | _ => none

/-- The report that a call is done is an information that names the actor and the record. -/
theorem completion?_names {call : Call} {organization : Organization} {completion : Event}
    (h : call.completion? organization = some completion) :
    completion.level = .info ∧ ("actor", call.actor.text) ∈ completion.fields ∧
      ∃ field id, call.actsOn? organization.id = some (field, id) ∧
        (field, id.text) ∈ completion.fields := by
  obtain ⟨actor, reference, request, now, freshId⟩ := call
  cases request with
  | getBilling | listInvites => cases h
  | updateOrganization _ | shutdownOrganization | transferOwnership _ | createProject _
  | updateProject _ _ | deleteProject _ | createInvite _ _ | revokeInvite _ =>
      obtain rfl := Option.some.inj h
      exact ⟨rfl, by simp [Event.fields], _, _, rfl, by simp [Event.fields]⟩

/-- A promotion is reported as an information. -/
theorem level_of_promotion? {call : Call} {store : Store} {organizationId : Uuid}
    {promotion : Event} (h : call.promotion? store organizationId = some promotion) :
    promotion.level = .info := by
  unfold promotion? at h
  split at h
  · obtain ⟨role, -, rfl⟩ := Option.map_eq_some_iff.1 h
    rfl
  · cases h

end Call

/-! ## Up to the admission -/

namespace Call

/-- With what the events of a call end when it is admitted or is not. -/
inductive Complains (call : Call) : Except Failure call.Admitted → List Event → Prop
  | denied {failure : Failure} {warning : Event} (hdenied : failure.isDenied = true)
      (hlevel : warning.level = .warn) (hactor : ("actor", call.actor.text) ∈ warning.fields) :
      Complains call (.error failure) [warning]
  | misconfigured {cause : Misconfiguration} {fault : Event} (hlevel : fault.level = .error) :
      Complains call (.error (.ability (.configuration cause))) [fault]
  | missing {missing : Missing} : Complains call (.error (.notFound missing)) []
  | admitted {admitted : call.Admitted} : Complains call (.ok admitted) []

end Call

namespace Registry

variable {registry : Registry} {store : Store} {call : Call}

/-- An ability is not compiled because the role has no entry, and for no other reason. -/
theorem configuration_of_compile {user : Principal} {discriminant : Discriminant} {fault : Fault}
    (h : registry.compile user discriminant = .error fault) :
    fault = .configuration (.unknownRole user.role.name) := by
  unfold compile at h
  by_cases hentry : user.role ∈ registry.roles
  · obtain ⟨declare, hdeclare⟩ := exists_permissionsFor hentry
    rw [hdeclare] at h
    cases h
  · rw [permissionsFor_of_not_mem hentry] at h
    exact (Except.error.inj h).symm

/-- The events up to the admission of a call are of no consequence, except that the last says why
the call is not admitted. -/
theorem admissionEvents_eq_append (registry : Registry) (call : Call) (store : Store) :
    ∃ quiet last, registry.admissionEvents call store = quiet ++ last ∧
      Event.Quiet quiet ∧ call.Complains (registry.verdict call store) last := by
  unfold admissionEvents verdict
  cases hresolve : store.resolveMembership call.actor call.organization with
  | none =>
      exact ⟨[], [.notMember call.actor call.organization], rfl, nofun,
        .denied rfl rfl List.mem_cons_self⟩
  | some membership =>
      -- the warning has the actor's identifier from the membership
      have hactor : membership.userId = call.actor := by
        rw [Store.resolveMembership_eq] at hresolve
        obtain ⟨id, -, hmembership⟩ := Option.bind_eq_some_iff.1 hresolve
        obtain ⟨role, -, rfl⟩ := Option.map_eq_some_iff.1 hmembership
        rfl
      dsimp only
      cases hcompile : registry.compile membership.principal .default with
      | error fault =>
          obtain rfl := configuration_of_compile hcompile
          exact ⟨[], [.noPermissions _ _], rfl, nofun, .misconfigured rfl⟩
      | ok ability =>
          dsimp only
          cases call.record store membership.organizationId with
          | error missing =>
              exact ⟨[.abilityCompiled _ _ _, .abilityResolved _ _ _], [], rfl,
                by simp [Event.Quiet, Event.level], .missing⟩
          | ok record =>
              dsimp only
              cases ability.can call.request.action (call.request.target record) with
              | true =>
                  exact ⟨[.abilityCompiled _ _ _, .abilityResolved _ _ _, .abilityChecked _ _ _],
                    [], rfl, by simp [Event.Quiet, Event.level], .admitted⟩
              | false =>
                  refine ⟨[.abilityCompiled _ _ _, .abilityResolved _ _ _, .abilityChecked _ _ _],
                    [.checkDenied membership.userId _ _ _], rfl,
                    by simp [Event.Quiet, Event.level], .denied rfl rfl ?_⟩
                  rw [hactor]
                  exact List.mem_cons_self

end Registry

/-! ## After the admission -/

namespace Table

variable {α : Type} {table : Table α} {key : Uuid} {value : α}

/-- Filing another record changes a table. -/
theorem insert_ne_self (h : table.get? key ≠ some value) : table.insert key value ≠ table := by
  intro hsame
  rw [← hsame, get?_insert, if_pos rfl] at h
  exact h rfl

/-- Removing a record changes a table. -/
theorem erase_ne_self (h : table.get? key = some value) : table.erase key ≠ table := by
  intro hsame
  rw [← hsame, get?_erase, if_pos rfl] at h
  cases h

end Table

namespace Call

variable {store : Store} {call : Call} {organization : Organization} {agenda : Agenda}

/-- What serving a call reports, by what the call has come to: it has changed nothing, it is done,
or it has stopped after a promotion. -/
inductive Reports (call : Call) (store : Store) (organization : Organization) :
    Outcome Store Reply → Prop
  | nothing {result : Except Failure Reply}
      (hrefused : ∀ failure, result = .error failure → failure.isOfAuthorization = false) :
      Reports call store organization ⟨result, store, []⟩
  | completed {reply : Reply} {after : Store} {completion : Event}
      (hcompletion : call.completion? organization = some completion) (hchanged : after ≠ store)
      (hpromotion : (call.promotion? store organization.id).isSome ↔
        ∃ newOwner, call.request = .transferOwnership newOwner ∧
          after.memberships ≠ store.memberships) :
      Reports call store organization
        ⟨.ok reply, after, (call.promotion? store organization.id).toList ++ [completion]⟩
  | halfway {failure : Failure} {after : Store} {promotion : Event}
      (hrefused : failure.isOfAuthorization = false) (hchanged : after ≠ store)
      (hpromotion : call.promotion? store organization.id = some promotion) :
      Reports call store organization ⟨.error failure, after, [promotion]⟩

/-- A call that has one write on its agenda and makes nobody an admin reports the write if it
succeeds. -/
theorem reports_write {command : Store.Command} {completion : Event} {reply : Reply}
    (hcompletion : call.completion? organization = some completion)
    (hrequest : ∀ newOwner, call.request ≠ .transferOwnership newOwner)
    (hchanges : ∀ changed, store.attempt command = .ok changed → changed ≠ store) :
    call.Reports store organization ((Agenda.write command completion reply).carryOut store) := by
  cases hattempt : store.attempt command with
  | error refusal =>
      rw [Agenda.carryOut_write_of_error hattempt]
      refine .nothing fun failure hfailure => ?_
      obtain rfl := Except.error.inj hfailure
      exact Store.isOfAuthorization_of_attempt hattempt
  | ok changed =>
      have hnone : call.promotion? store organization.id = none := by
        unfold promotion?
        split
        · next newOwner htransfer => exact absurd htransfer (hrequest newOwner)
        · rfl
      have hevents : (call.promotion? store organization.id).toList ++ [completion] =
          [completion] := by rw [hnone]; rfl
      rw [Agenda.carryOut_write hattempt, ← hevents]
      refine .completed hcompletion (hchanges changed hattempt) (iff_of_false ?_ ?_)
      · rw [hnone]
        exact Bool.false_ne_true
      · rintro ⟨newOwner, htransfer, -⟩
        exact hrequest newOwner htransfer

/-- A record that is saved with a later time of change is another record. -/
theorem insert_organization_ne (hget : store.organizations.get? organization.id = some organization)
    (updated : Organization) (hid : updated.id = organization.id)
    (hupdated : updated.updatedAt = call.now) (hlate : organization.updatedAt < call.now) :
    store.organizations.insert updated.id updated ≠ store.organizations := by
  apply Table.insert_ne_self
  rw [hid, hget]
  intro hsame
  rw [← hupdated, ← Option.some.inj hsame] at hlate
  exact lt_irrefl _ hlate

/-- A transfer of ownership reports the promotion, if the new owner is not an admin yet, and then
the transfer, if the slug of the organization is its own. -/
theorem reports_transfer (hstore : store.Filed) {newOwner : Uuid} {role : Role}
    (hrequest : call.request = .transferOwnership newOwner)
    (hget : store.organizations.get? organization.id = some organization)
    (hrole : store.HasRole organization.id newOwner role)
    (hlate : organization.updatedAt < call.now) :
    call.Reports store organization
      (Agenda.carryOutAll (.organization (call.transferred organization newOwner))
        (call.transferWrites organization newOwner role) store) := by
  have hpromotion : call.promotion? store organization.id =
      ((Agenda.promotion organization.id newOwner role).map Prod.snd).head? := by
    simp only [promotion?, hrequest, hstore.role?_eq_some_iff.2 hrole]
    cases role <;> rfl
  by_cases hclash : store.SlugTaken organization.slug organization.id
  · by_cases hadmin : role = .admin
    · subst hadmin
      rw [carryOutAll_transferWrites_of_admin hstore hget hrole hclash]
      refine .nothing fun failure hfailure => ?_
      obtain rfl := Except.error.inj hfailure
      rfl
    · rw [carryOutAll_transferWrites_of_slugTaken hget hrole hadmin hclash]
      rw [Agenda.promotion, if_neg hadmin] at hpromotion
      refine .halfway rfl (fun hsame => ?_) hpromotion
      exact hstore.setRole_ne hrole hadmin (congrArg Store.memberships hsame)
  · have hevents : (Agenda.promotion organization.id newOwner role).map Prod.snd =
        (call.promotion? store organization.id).toList := by
      rw [hpromotion, Agenda.promotion]
      split <;> rfl
    rw [carryOutAll_transferWrites_of_not_slugTaken hstore hget hrole hclash, hevents]
    refine .completed (by rw [completion?, hrequest]) (fun hsame => ?_) ?_
    · exact insert_organization_ne hget (call.transferred organization newOwner) rfl rfl hlate
        (congrArg Store.organizations hsame)
    · rw [hpromotion, Agenda.promotion]
      by_cases hadmin : role = .admin
      · subst hadmin
        refine iff_of_false Bool.false_ne_true ?_
        rintro ⟨_, -, hchanged⟩
        rw [hstore.withAdmin_eq_self hrole] at hchanged
        exact hchanged rfl
      · rw [if_neg hadmin]
        exact iff_of_true rfl ⟨newOwner, hrequest, hstore.setRole_ne hrole hadmin⟩

/-- Carrying out a plan reports what it does. The clock is past what is stored, and the identifier
of a new record is not in use. -/
theorem Plans.reports (h : call.Plans store organization.id agenda) (hstore : store.Filed)
    (hget : store.organizations.get? organization.id = some organization)
    (hlate : store.Precedes [call]) (hfresh : call.IsFresh store) :
    call.Reports store organization (agenda.carryOut store) := by
  have horganization : organization.updatedAt < call.now :=
    hlate.organizations call List.mem_cons_self organization
      (Table.mem_values_iff.2 ⟨organization.id, hget⟩)
  cases h with
  | updateNothing _ _ _ | getBilling _ _ | listInvites _ =>
      refine .nothing fun failure hfailure => ?_
      cases hfailure
  | @updateOrganization update old hrequest hempty hold =>
      obtain rfl := Option.some.inj (hget.symm.trans hold)
      refine reports_write (by rw [completion?, hrequest]) (by simp [hrequest]) ?_
      intro changed hattempt hsame
      obtain ⟨-, -, rfl⟩ := Store.saveOrganization_eq_ok_iff.1 hattempt
      exact insert_organization_ne hget (update.apply call.now organization) rfl rfl
        horganization (congrArg Store.organizations hsame)
  | @shutdownOrganization old hrequest hold =>
      obtain rfl := Option.some.inj (hget.symm.trans hold)
      refine reports_write (by rw [completion?, hrequest]) (by simp [hrequest]) ?_
      intro changed hattempt hsame
      obtain ⟨-, rfl⟩ := Store.deleteOrganization_eq_ok_iff.1 hattempt
      exact Table.erase_ne_self hget (congrArg Store.organizations hsame)
  | @transferOwnership newOwner old role hrequest hold hrole =>
      obtain rfl := Option.some.inj (hget.symm.trans hold)
      exact reports_transfer hstore hrequest hget hrole horganization
  | @createProject input project hrequest hnew =>
      rw [IsFresh, hrequest] at hfresh
      have hid : project.id = call.freshId := by rw [hnew]; rfl
      refine reports_write (by rw [completion?, hrequest, hid]) (by simp [hrequest]) ?_
      intro changed hattempt hsame
      obtain ⟨-, rfl⟩ := Store.insertProject_eq_ok_iff.1 hattempt
      refine Table.insert_ne_self ?_ (congrArg Store.projects hsame)
      rw [hid, hfresh]
      exact (Option.some_ne_none _).symm
  | @updateProject projectId update project hrequest hfind =>
      have hid := (hstore.of_findProject hfind).1
      have hstored := (Option.filter_eq_some_iff.1 hfind).1
      have hproject := hlate.projects call List.mem_cons_self project
        (Table.mem_values_iff.2 ⟨projectId, hstored⟩)
      refine reports_write (by rw [completion?, hrequest, hid]) (by simp [hrequest]) ?_
      intro changed hattempt hsame
      obtain ⟨-, rfl⟩ := Store.saveProject_eq_ok_iff.1 hattempt
      refine Table.insert_ne_self ?_ (congrArg Store.projects hsame)
      change store.projects.get? project.id ≠ _
      rw [hid, hstored]
      intro hequal
      exact ne_of_lt hproject (congrArg Project.updatedAt (Option.some.inj hequal))
  | @deleteProject projectId project hrequest hfind =>
      have hid := (hstore.of_findProject hfind).1
      refine reports_write (by rw [completion?, hrequest, hid]) (by simp [hrequest]) ?_
      intro changed hattempt hsame
      obtain ⟨⟨old, hold⟩, rfl⟩ := Store.deleteProject_eq_ok_iff.1 hattempt
      exact Table.erase_ne_self hold (congrArg Store.projects hsame)
  | @createInvite email role invite hrequest hnew _ =>
      rw [IsFresh, hrequest] at hfresh
      have hid : invite.id = call.freshId := by rw [hnew]; rfl
      refine reports_write (by rw [completion?, hrequest, hid]) (by simp [hrequest]) ?_
      intro changed hattempt hsame
      obtain ⟨-, rfl⟩ := Store.insertInvite_eq_ok_iff.1 hattempt
      refine Table.insert_ne_self ?_ (congrArg Store.invites hsame)
      rw [hid, hfresh]
      exact (Option.some_ne_none _).symm
  | @revokeInvite inviteId invite hrequest hfind =>
      have hid := (hstore.of_findInvite hfind).1
      refine reports_write (by rw [completion?, hrequest, hid]) (by simp [hrequest]) ?_
      intro changed hattempt hsame
      obtain ⟨⟨old, hold⟩, rfl⟩ := Store.deleteInvite_eq_ok_iff.1 hattempt
      exact Table.erase_ne_self hold (congrArg Store.invites hsame)

/-- What an admitted call reports while it is served. -/
theorem reports_serve {registry : Registry} {admitted : call.Admitted} (hstore : store.Filed)
    (hverdict : registry.verdict call store = .ok admitted) (hlate : store.Precedes [call])
    (hfresh : call.IsFresh store) :
    ∃ organization, store.findOrganization call.organization = some organization ∧
      call.Reports store organization (call.serve admitted store) := by
  obtain ⟨organization, hfind, hid⟩ :=
    hstore.exists_findOrganization (Store.organizationId?_of_verdict hverdict)
  refine ⟨organization, hfind, ?_⟩
  have hget := (hstore.findOrganization_eq_some_iff.1 hfind).2
  unfold serve
  cases hagenda : call.agenda store admitted with
  | error refusal =>
      refine .nothing fun failure hfailure => ?_
      obtain rfl := Except.error.inj hfailure
      exact isOfAuthorization_of_agendaFor hagenda
  | ok agenda =>
      have hplan := plans_of_agenda hstore hverdict hagenda
      rw [← hid] at hplan
      exact hplan.reports hstore hget hlate hfresh

end Call

/-! ## The events of a call -/

/-- The events of an outcome tell of a call on a store what it came to. -/
structure Outcome.TellsOf (outcome : Outcome Store Reply) (call : Call) (store : Store) :
    Prop where
  denied : ∀ failure, outcome.result = .error failure → failure.isDenied = true →
    ∃ warning, outcome.reported .warn = [warning] ∧
      ("actor", call.actor.text) ∈ warning.fields
  notDenied : (∀ failure, outcome.result = .error failure → failure.isDenied = false) →
    outcome.reported .warn = []
  misconfigured : outcome.reported .error ≠ [] ↔
    ∃ cause, outcome.result = .error (.ability (.configuration cause))
  changed : outcome.reported .info ≠ [] ↔ outcome.state ≠ store
  completed : ∀ reply, outcome.result = .ok reply → outcome.state ≠ store →
    ∃ organization completion, store.findOrganization call.organization = some organization ∧
      call.completion? organization = some completion ∧
      ("actor", call.actor.text) ∈ completion.fields ∧
      (∃ field id, call.actsOn? organization.id = some (field, id) ∧
        (field, id.text) ∈ completion.fields) ∧
      outcome.events.getLast? = some completion ∧
      outcome.reported .info =
        (call.promotion? store organization.id).toList ++ [completion] ∧
      ((call.promotion? store organization.id).isSome ↔
        ∃ newOwner, call.request = .transferOwnership newOwner ∧
          outcome.state.memberships ≠ store.memberships)

namespace Call

variable {store : Store} {call : Call} {organization : Organization} {quiet : List Event}
  {served : Outcome Store Reply}

/-- A call that is not admitted is told of by the last event, if by any. -/
theorem Complains.tellsOf {failure : Failure} {last : List Event}
    (h : call.Complains (.error failure) last) (hquiet : Event.Quiet quiet) :
    Outcome.TellsOf ⟨.error failure, store, quiet ++ last⟩ call store := by
  cases h with
  | denied hdenied hlevel hactor =>
      refine ⟨fun _ _ _ => ⟨_, ?_, hactor⟩, fun hnot => ?_, ?_, ?_, nofun⟩
      · simp [hquiet.reported_eq, hlevel]
      · rw [hnot failure rfl] at hdenied
        cases hdenied
      · refine iff_of_false (by simp [hquiet.reported_eq, hlevel]) ?_
        rintro ⟨cause, hcause⟩
        obtain rfl := Except.error.inj hcause
        cases hdenied
      · exact iff_of_false (by simp [hquiet.reported_eq, hlevel]) (not_not.2 rfl)
  | misconfigured hlevel =>
      refine ⟨?_, fun _ => ?_, ?_, ?_, nofun⟩
      · intro failure hfailure hdenied
        obtain rfl := Except.error.inj hfailure
        cases hdenied
      · simp [hquiet.reported_eq, hlevel]
      · exact iff_of_true (by simp [hquiet.reported_eq, hlevel]) ⟨_, rfl⟩
      · exact iff_of_false (by simp [hquiet.reported_eq, hlevel]) (not_not.2 rfl)
  | missing =>
      refine ⟨?_, fun _ => ?_, ?_, ?_, nofun⟩
      · intro failure hfailure hdenied
        obtain rfl := Except.error.inj hfailure
        cases hdenied
      · exact hquiet.reported_eq (by decide)
      · refine iff_of_false (not_not.2 (hquiet.reported_eq (by decide))) ?_
        rintro ⟨cause, hcause⟩
        cases hcause
      · exact iff_of_false (not_not.2 (hquiet.reported_eq (by decide))) (not_not.2 rfl)

/-- Serving a call fails for no reason of authorization. -/
theorem Reports.isOfAuthorization_of_error (h : call.Reports store organization served)
    {failure : Failure} (hfailure : served.result = .error failure) :
    failure.isOfAuthorization = false := by
  cases h with
  | nothing hrefused => exact hrefused failure hfailure
  | completed _ _ _ => cases hfailure
  | halfway hrefused _ _ =>
      obtain rfl := Except.error.inj hfailure
      exact hrefused

/-- Serving a call emits informations only. -/
theorem Reports.level_of_event (h : call.Reports store organization served) :
    ∀ event ∈ served.events, event.level = .info := by
  intro event hevent
  cases h with
  | nothing _ => cases hevent
  | completed hcompletion _ _ =>
      rcases List.mem_append.1 hevent with hpromotion | hlast
      · exact level_of_promotion? (Option.mem_toList.1 hpromotion)
      · rw [List.mem_singleton.1 hlast]
        exact (completion?_names hcompletion).1
  | halfway _ _ hpromotion =>
      rw [List.mem_singleton.1 hevent]
      exact level_of_promotion? hpromotion

/-- An admitted call is told of by what serving it reports: neither is a failure then a denial, nor
is the registry at fault. -/
theorem Reports.tellsOf (h : call.Reports store organization served)
    (hfind : store.findOrganization call.organization = some organization)
    (hquiet : Event.Quiet quiet) :
    Outcome.TellsOf { served with events := quiet ++ served.events } call store := by
  have hnone : ∀ level, level ≠ .info →
      (served.events.filter fun event => event.level = level) = [] := by
    intro level hlevel
    refine List.filter_eq_nil_iff.2 fun event hevent => ?_
    rw [h.level_of_event event hevent, decide_eq_true_eq]
    exact hlevel.symm
  have hall : Outcome.reported { served with events := quiet ++ served.events } .info =
      served.events := by
    rw [hquiet.reported_eq (by decide), List.filter_eq_self]
    exact fun event hevent => decide_eq_true (h.level_of_event event hevent)
  refine ⟨?_, fun _ => ?_, ?_, ?_, ?_⟩
  · intro failure hfailure hdenied
    rw [Failure.isDenied_of_isOfAuthorization (h.isOfAuthorization_of_error hfailure)] at hdenied
    cases hdenied
  · exact (hquiet.reported_eq (by decide)).trans (hnone .warn (by decide))
  · refine iff_of_false ?_ ?_
    · exact not_not.2 ((hquiet.reported_eq (by decide)).trans (hnone .error (by decide)))
    · rintro ⟨cause, hcause⟩
      cases h.isOfAuthorization_of_error hcause
  · rw [hall]
    cases h with
    | nothing _ => exact iff_of_false (not_not.2 rfl) (not_not.2 rfl)
    | completed _ hchanged _ => exact iff_of_true (by simp) hchanged
    | halfway _ hchanged _ => exact iff_of_true (List.cons_ne_nil _ _) hchanged
  · intro reply hreply hchanged
    rw [hall]
    cases h with
    | nothing _ => exact absurd rfl hchanged
    | halfway _ _ _ => cases hreply
    | @completed _ _ completion hcompletion _ hpromotion =>
        obtain ⟨-, hactor, hrecord⟩ := completion?_names hcompletion
        refine ⟨organization, completion, hfind, hcompletion, hactor, hrecord, ?_, rfl, hpromotion⟩
        rw [← List.append_assoc]
        exact List.getLast?_concat

end Call

/-- The events of a call tell what it came to, whatever the registry. There is one warning, with the
actor's name, if the call is denied, and none if it is not; there is an error exactly if the role
has no entry; and there is an information exactly if the store is another afterwards. A call that
succeeds and changes the store ends with the report that it is done, which names the actor and the
record, and the only other information is the promotion before it, if a transfer of ownership makes
one. The clock is past what is stored, and the identifier for a new record is not in use. -/
theorem reports_faithful (registry : Registry) {store : Store} (hstore : store.Reachable)
    {call : Call} (hlate : store.Precedes [call]) (hfresh : call.IsFresh store) :
    ((Store.service registry).perform call store).TellsOf call store := by
  obtain ⟨quiet, last, hevents, hquiet, hcomplains⟩ :=
    registry.admissionEvents_eq_append call store
  rw [Store.perform_apply, hevents]
  cases hverdict : registry.verdict call store with
  | error failure =>
      rw [hverdict] at hcomplains
      exact hcomplains.tellsOf hquiet
  | ok admitted =>
      rw [hverdict] at hcomplains
      cases hcomplains
      obtain ⟨organization, hfind, hreports⟩ :=
        Call.reports_serve hstore.filed hverdict hlate hfresh
      rw [List.append_nil]
      exact hreports.tellsOf hfind hquiet

/-- The owner of an organization hands it to a member, who is promoted: two informations tell of it,
and nobody is warned. -/
theorem reported_handover :
    let call := handover.hour 3 11 (.transferOwnership (.ofNat 13))
    let outcome := (Store.service .standard).perform call Store.neighbours
    Store.neighbours.Reachable ∧ Store.neighbours.Precedes [call] ∧
      call.IsFresh Store.neighbours ∧ outcome.TellsOf call Store.neighbours ∧
      outcome.reported .info =
        [.memberPromoted (.ofNat 1) (.ofNat 13) .member,
          .ownershipTransferred (.ofNat 11) (.ofNat 1) (.ofNat 11) (.ofNat 13)] ∧
      outcome.reported .warn = [] := by
  intro call outcome
  have hlate : Store.neighbours.Precedes [call] :=
    ⟨List.pairwise_singleton _ _, by decide, by decide⟩
  have htells : outcome.TellsOf call Store.neighbours :=
    reports_faithful .standard Store.reachable_neighbours hlate trivial
  have hdone : ∃ reply, outcome.result = .ok reply := ⟨_, rfl⟩
  refine ⟨Store.reachable_neighbours, hlate, trivial, htells, by decide, ?_⟩
  apply htells.notDenied
  obtain ⟨reply, hreply⟩ := hdone
  rw [hreply]
  exact nofun

end OrgAccess
