import OrgAccess.Proofs.Service.AccessMatrix
import OrgAccess.Proofs.Store.Frame

/-!
# What calls plan

The agendas that calls come to, one constructor of `Call.Plans` for each thing a call can do, with
the records that were found on the way. `Filed.perform_cases` says that a call either changes
nothing and fails, or carries out such a plan, so that a proof about all calls is a proof by cases
on plans. Every command of a plan keeps within the organization that the call names
(`Call.Plans.each_within`), and files new records under identifiers not in use if the call was given
one (`Call.Plans.each_fresh`).
-/

namespace OrgAccess

/-! ## Commands in turn -/

namespace Agenda

/-- Every command has a property in the store that it is carried out on. -/
def Each (P : Store → Store.Command → Prop) : Store → List (Store.Command × Event) → Prop
  | _, [] => True
  | store, (command, _) :: rest =>
      P store command ∧ ∀ changed, store.attempt command = .ok changed → Each P changed rest

variable {P : Store → Store.Command → Prop} {store : Store} {writes : List (Store.Command × Event)}

/-- A property that does not depend on the store is one of each command. -/
theorem each_of_forall (h : ∀ write ∈ writes, ∀ store, P store write.1) : Each P store writes := by
  induction writes generalizing store with
  | nil => trivial
  | cons write rest ih =>
      refine ⟨h write List.mem_cons_self store, fun changed _ => ih ?_⟩
      intro other hother
      exact h other (List.mem_cons_of_mem write hother)

/-- A property of the one command of an agenda is one of each. -/
theorem each_write {command : Store.Command} {event : Event} {reply : Reply}
    (h : P store command) : Each P store (write command event reply).writes :=
  ⟨h, fun _ _ => trivial⟩

/-- Two properties that every command has are one that every command has. -/
theorem Each.and {Q : Store → Store.Command → Prop} (hP : Each P store writes)
    (hQ : Each Q store writes) :
    Each (fun store command => P store command ∧ Q store command) store writes := by
  induction writes generalizing store with
  | nil => trivial
  | cons write rest ih =>
      refine ⟨⟨hP.1, hQ.1⟩, fun changed hattempt => ?_⟩
      exact ih (hP.2 changed hattempt) (hQ.2 changed hattempt)

/-- What every command does to the store is done to it by all of them together. -/
theorem Each.state_carryOutAll {R : Store → Store → Prop} {reply : Reply}
    (h : Each P store writes) (hrefl : ∀ store, R store store)
    (htrans : ∀ {a b c}, R a b → R b c → R a c)
    (hstep : ∀ {store changed command}, P store command →
      store.attempt command = .ok changed → R changed store) :
    R (carryOutAll reply writes store).state store := by
  induction writes generalizing store with
  | nil => exact hrefl store
  | cons write rest ih =>
      unfold carryOutAll
      split
      · exact hrefl store
      · next changed hattempt => exact htrans (ih (h.2 changed hattempt)) (hstep h.1 hattempt)

/-- A command that is not refused is all that an agenda with one command does. -/
theorem carryOut_write {command : Store.Command} {event : Event} {reply : Reply}
    {changed : Store} (h : store.attempt command = .ok changed) :
    (write command event reply).carryOut store = ⟨.ok reply, changed, [event]⟩ := by
  simp only [carryOut, write, carryOutAll, h]

/-- Nor does an agenda with one command do anything when that is refused. -/
theorem carryOut_write_of_error {command : Store.Command} {event : Event} {reply : Reply}
    {failure : Failure} (h : store.attempt command = .error failure) :
    (write command event reply).carryOut store = ⟨.error failure, store, []⟩ := by
  simp only [carryOut, write, carryOutAll, h]

/-- The reply to a command that is not refused, and the store that it leaves. -/
theorem write_done {command : Store.Command} {event : Event} {reply : Reply} {changed : Store}
    (h : store.attempt command = .ok changed) :
    ((write command event reply).carryOut store).result = .ok reply ∧
      ((write command event reply).carryOut store).state = changed := by
  rw [carryOut_write h]
  exact ⟨rfl, rfl⟩

/-- The failure of a command that is refused, and the store, which stays. -/
theorem write_refused {command : Store.Command} {event : Event} {reply : Reply} {failure : Failure}
    (h : store.attempt command = .error failure) :
    ((write command event reply).carryOut store).result = .error failure ∧
      ((write command event reply).carryOut store).state = store := by
  rw [carryOut_write_of_error h]
  exact ⟨rfl, rfl⟩

end Agenda

/-! ## Plans -/

namespace Call

/-- The identifier that a call has for the record it makes is not in use for such a record. -/
def IsFresh (call : Call) (store : Store) : Prop :=
  match call.request with
  | .createProject _ => store.projects.get? call.freshId = none
  | .createInvite _ _ => store.invites.get? call.freshId = none
  | _ => True

/-- What a call has on its agenda in an organization, with the records that it found. -/
inductive Plans (call : Call) (store : Store) (organizationId : Uuid) : Agenda → Prop
  | updateNothing {update : OrganizationUpdate} {organization : Organization}
      (hrequest : call.request = .updateOrganization update) (hempty : update.isEmpty = true)
      (hget : store.organizations.get? organizationId = some organization) :
      Plans call store organizationId (.answer (.organization organization))
  | updateOrganization {update : OrganizationUpdate} {organization : Organization}
      (hrequest : call.request = .updateOrganization update) (hempty : update.isEmpty = false)
      (hget : store.organizations.get? organizationId = some organization) :
      Plans call store organizationId
        (.write (.saveOrganization (update.apply call.now organization))
          (.organizationUpdated call.actor organization.id)
          (.organization (update.apply call.now organization)))
  | shutdownOrganization {organization : Organization}
      (hrequest : call.request = .shutdownOrganization)
      (hget : store.organizations.get? organizationId = some organization) :
      Plans call store organizationId
        (.write (.deleteOrganization organization.id)
          (.organizationShutDown call.actor organization.id) .done)
  | transferOwnership {newOwner : Uuid} {organization : Organization} {role : Role}
      (hrequest : call.request = .transferOwnership newOwner)
      (hget : store.organizations.get? organizationId = some organization)
      (hrole : store.HasRole organizationId newOwner role) :
      Plans call store organizationId
        ⟨call.transferWrites organization newOwner role,
          .organization (call.transferred organization newOwner)⟩
  | createProject {input : NewProject} {project : Project}
      (hrequest : call.request = .createProject input)
      (hnew : project = input.toProject call.freshId organizationId call.actor call.now) :
      Plans call store organizationId
        (.write (.insertProject project) (.projectCreated call.actor project.id)
          (.project project))
  | updateProject {projectId : Uuid} {update : ProjectUpdate} {project : Project}
      (hrequest : call.request = .updateProject projectId update)
      (hfind : store.findProject organizationId projectId = some project) :
      Plans call store organizationId
        (.write (.saveProject (update.apply call.now project))
          (.projectUpdated call.actor project.id) (.project (update.apply call.now project)))
  | deleteProject {projectId : Uuid} {project : Project}
      (hrequest : call.request = .deleteProject projectId)
      (hfind : store.findProject organizationId projectId = some project) :
      Plans call store organizationId
        (.write (.deleteProject project.id) (.projectDeleted call.actor project.id) .done)
  | getBilling {account : BillingAccount} (hrequest : call.request = .getBilling)
      (hfind : store.findBilling organizationId = some account) :
      Plans call store organizationId (.answer (.billing account))
  | createInvite {email : String} {role : Role} {invite : Invite}
      (hrequest : call.request = .createInvite email role)
      (hnew : invite = .new call.freshId organizationId email role call.actor call.now)
      (hseat : store.freeSeat organizationId = .ok ()) :
      Plans call store organizationId
        (.write (.insertInvite invite) (.inviteCreated call.actor invite.id role)
          (.invite invite))
  | listInvites (hrequest : call.request = .listInvites) :
      Plans call store organizationId (.answer (.invites (store.listInvites organizationId)))
  | revokeInvite {inviteId : Uuid} {invite : Invite}
      (hrequest : call.request = .revokeInvite inviteId)
      (hfind : store.findInvite organizationId inviteId = some invite) :
      Plans call store organizationId
        (.write (.deleteInvite invite.id) (.inviteRevoked call.actor invite.id) .done)

end Call

/-- A project that is found is filed under its identifier and belongs to the organization. -/
theorem Store.Filed.of_findProject {store : Store} (hstore : store.Filed)
    {organizationId projectId : Uuid} {project : Project}
    (h : store.findProject organizationId projectId = some project) :
    project.id = projectId ∧ project.organizationId = organizationId := by
  obtain ⟨hget, horganization⟩ := Option.filter_eq_some_iff.1 h
  exact ⟨hstore.projects _ _ hget, by simpa using horganization⟩

/-- An invite that is found is filed under its identifier and belongs to the organization. -/
theorem Store.Filed.of_findInvite {store : Store} (hstore : store.Filed)
    {organizationId inviteId : Uuid} {invite : Invite}
    (h : store.findInvite organizationId inviteId = some invite) :
    invite.id = inviteId ∧ invite.organizationId = organizationId := by
  obtain ⟨hget, horganization⟩ := Option.filter_eq_some_iff.1 h
  exact ⟨hstore.invites _ _ hget, by simpa using horganization⟩

/-- A membership in an organization that is stored is looked for under its identifier. -/
theorem Store.resolveMembership_byId {store : Store} {organizationId : Uuid}
    {organization : Organization}
    (hget : store.organizations.get? organizationId = some organization) (userId : Uuid) :
    store.resolveMembership userId (.byId organizationId) =
      (store.role? organizationId userId).map fun role => ⟨userId, organizationId, role⟩ := by
  have hid : store.organizationId? (.byId organizationId) = some organizationId :=
    if_pos (Table.contains_eq_true_iff.2 ⟨organization, hget⟩)
  rw [resolveMembership_eq, hid]
  rfl

namespace Call

variable {registry : Registry} {store : Store} {call : Call} {admitted : call.Admitted}
  {agenda : Agenda} {organizationId : Uuid}

/-- The agenda of an admitted call is a plan in the organization of the actor's membership. -/
theorem plans_of_agenda (hstore : store.Filed) (h : registry.verdict call store = .ok admitted)
    (hagenda : call.agenda store admitted = .ok agenda) :
    call.Plans store admitted.membership.organizationId agenda := by
  obtain ⟨⟨membership, ability⟩, record⟩ := admitted
  obtain ⟨hresolve, -, hrecord, -⟩ := Registry.verdict_eq_ok_iff.1 h
  have hid := Store.organizationId?_of_resolveMembership hresolve
  obtain ⟨actor, reference, request, now, freshId⟩ := call
  -- what a request on the organization itself finds is filed under the identifier
  have hfound : ∀ {organization : Organization},
      (Missing.organization reference).unlessFound (store.findOrganization reference) =
        .ok organization →
      organization.id = membership.organizationId ∧
        store.organizations.get? membership.organizationId = some organization := by
    intro organization hfind
    obtain ⟨hother, hget⟩ :=
      hstore.findOrganization_eq_some_iff.1 (Missing.unlessFound_eq_ok_iff.1 hfind)
    have hsame := Option.some.inj (hother.symm.trans hid)
    exact ⟨hsame, hsame ▸ hget⟩
  unfold Call.agenda at hagenda
  cases request with
  | updateOrganization update =>
      obtain ⟨-, hget⟩ := hfound hrecord
      simp only [agendaFor] at hagenda
      split at hagenda
      · next hempty =>
        obtain rfl := Except.ok.inj hagenda
        exact .updateNothing rfl hempty hget
      · next hempty =>
        obtain rfl := Except.ok.inj hagenda
        exact .updateOrganization rfl (eq_false_of_ne_true hempty) hget
  | shutdownOrganization =>
      obtain ⟨-, hget⟩ := hfound hrecord
      obtain rfl := Except.ok.inj hagenda
      exact .shutdownOrganization rfl hget
  | transferOwnership newOwner =>
      obtain ⟨hsame, hget⟩ := hfound hrecord
      simp only [agendaFor] at hagenda
      split at hagenda
      · cases hagenda
      · next member hmember =>
        obtain rfl := Except.ok.inj hagenda
        rw [hsame, Store.resolveMembership_byId hget] at hmember
        obtain ⟨role, hrole, rfl⟩ := Option.map_eq_some_iff.1 hmember
        exact .transferOwnership rfl hget (Store.hasRole_of_role? hrole)
  | createProject input =>
      obtain rfl := Except.ok.inj hrecord
      obtain rfl := Except.ok.inj hagenda
      exact .createProject rfl rfl
  | updateProject projectId update =>
      obtain rfl := Except.ok.inj hagenda
      exact .updateProject rfl (Missing.unlessFound_eq_ok_iff.1 hrecord)
  | deleteProject projectId =>
      obtain rfl := Except.ok.inj hagenda
      exact .deleteProject rfl (Missing.unlessFound_eq_ok_iff.1 hrecord)
  | getBilling =>
      obtain rfl := Except.ok.inj hagenda
      exact .getBilling rfl (Missing.unlessFound_eq_ok_iff.1 hrecord)
  | createInvite email role =>
      obtain rfl := Except.ok.inj hrecord
      simp only [agendaFor] at hagenda
      cases hseat : store.freeSeat membership.organizationId with
      | error refusal =>
          rw [hseat] at hagenda
          cases hagenda
      | ok _ =>
          rw [hseat] at hagenda
          obtain rfl := Except.ok.inj hagenda
          exact .createInvite rfl rfl hseat
  | listInvites =>
      obtain rfl := Except.ok.inj hagenda
      exact .listInvites rfl
  | revokeInvite inviteId =>
      obtain rfl := Except.ok.inj hagenda
      exact .revokeInvite rfl (Missing.unlessFound_eq_ok_iff.1 hrecord)

/-- A transfer of ownership makes a member an admin or saves the organization. -/
theorem mem_transferWrites {organization : Organization} {newOwner : Uuid} {role : Role}
    {write : Store.Command × Event} (h : write ∈ call.transferWrites organization newOwner role) :
    write.1 = .setMemberRole organization.id newOwner .admin ∨
      write.1 = .saveOrganization (call.transferred organization newOwner) := by
  unfold transferWrites Agenda.promotion at h
  split at h
  · obtain rfl := List.mem_singleton.1 h
    exact .inr rfl
  · rcases List.mem_cons.1 h with rfl | hlast
    · exact .inl rfl
    · obtain rfl := List.mem_singleton.1 hlast
      exact .inr rfl

/-- Every command of a plan keeps within the organization. -/
theorem Plans.each_within (h : call.Plans store organizationId agenda) (hstore : store.Filed) :
    Agenda.Each (fun store command => command.Within store organizationId) store
      agenda.writes := by
  cases h with
  | updateNothing _ _ _ | getBilling _ _ | listInvites _ => trivial
  | @updateOrganization _ organization _ _ hget | @shutdownOrganization organization _ hget =>
      have hid : organization.id = organizationId := hstore.organizations _ _ hget
      exact Agenda.each_write hid
  | transferOwnership _ hget _ =>
      have hid := hstore.organizations _ _ hget
      refine Agenda.each_of_forall fun write hwrite _ => ?_
      rcases mem_transferWrites hwrite with hcommand | hcommand
      · rw [hcommand]
        exact hid
      · rw [hcommand]
        exact hid
  | createProject _ hnew => exact Agenda.each_write (by rw [hnew]; rfl)
  | createInvite _ hnew _ => exact Agenda.each_write (by rw [hnew]; rfl)
  | updateProject _ hfind =>
      obtain ⟨hid, horganization⟩ := hstore.of_findProject hfind
      exact Agenda.each_write ⟨horganization, _, hid ▸ hfind⟩
  | deleteProject _ hfind => exact Agenda.each_write ⟨_, (hstore.of_findProject hfind).1 ▸ hfind⟩
  | revokeInvite _ hfind => exact Agenda.each_write ⟨_, (hstore.of_findInvite hfind).1 ▸ hfind⟩

/-- No command of a plan files a record under an identifier in use if the call is fresh. -/
theorem Plans.each_fresh (h : call.Plans store organizationId agenda)
    (hfresh : call.IsFresh store) :
    Agenda.Each (fun store command => command.IsFresh store) store agenda.writes := by
  cases h with
  | updateNothing _ _ _ | getBilling _ _ | listInvites _ => trivial
  | updateOrganization _ _ _ | shutdownOrganization _ _ | updateProject _ _ | deleteProject _ _
  | revokeInvite _ _ => exact Agenda.each_write trivial
  | transferOwnership _ _ _ =>
      refine Agenda.each_of_forall fun write hwrite _ => ?_
      rcases mem_transferWrites hwrite with hcommand | hcommand
      · rw [hcommand]
        trivial
      · rw [hcommand]
        trivial
  | createProject hrequest hnew =>
      rw [IsFresh, hrequest] at hfresh
      exact Agenda.each_write (by rw [hnew]; exact hfresh)
  | createInvite hrequest hnew _ =>
      rw [IsFresh, hrequest] at hfresh
      exact Agenda.each_write (by rw [hnew]; exact hfresh)

end Call

namespace Store

variable {registry : Registry} {store : Store} {call : Call} {admitted : call.Admitted}

/-- The organization that an admitted call names is that of the actor's membership. -/
theorem organizationId?_of_verdict (h : registry.verdict call store = .ok admitted) :
    store.organizationId? call.organization = some admitted.membership.organizationId :=
  organizationId?_of_resolveMembership (Registry.verdict_eq_ok_iff.1 h).1

/-- A call fails and changes nothing, or it is admitted and carries out a plan in the organization
that it names. -/
theorem Filed.perform_cases (hstore : store.Filed) (registry : Registry) (call : Call) :
    (∃ failure, ((service registry).perform call store).result = .error failure ∧
        ((service registry).perform call store).state = store) ∨
      ∃ admitted agenda, registry.verdict call store = .ok admitted ∧
        call.Plans store admitted.membership.organizationId agenda ∧
        ((service registry).perform call store).result = (agenda.carryOut store).result ∧
        ((service registry).perform call store).state = (agenda.carryOut store).state := by
  cases hverdict : registry.verdict call store with
  | error failure =>
      rw [perform_of_verdict_error hverdict]
      exact .inl ⟨failure, rfl, rfl⟩
  | ok admitted =>
      obtain ⟨hresult, hstate⟩ := perform_of_verdict_ok hverdict
      rw [hresult, hstate, Call.serve]
      cases hagenda : call.agenda store admitted with
      | error failure => exact .inl ⟨failure, rfl, rfl⟩
      | ok agenda =>
          exact .inr ⟨admitted, agenda, rfl, Call.plans_of_agenda hstore hverdict hagenda, rfl, rfl⟩

/-- With the standard roles a call on an organization changes nothing, or its actor is a member
whom the table does not refuse it to, and it carries out a plan. -/
theorem Filed.perform_standard_cases (hstore : store.Filed) {organizationId : Uuid}
    (hnamed : store.organizationId? call.organization = some organizationId) :
    ((service .standard).perform call store).state = store ∨
      ∃ organization role agenda, organization.id = organizationId ∧
        store.organizations.get? organizationId = some organization ∧
        store.HasRole organizationId call.actor role ∧
        ¬ store.Refuses organization call.actor role call.request ∧
        call.Plans store organizationId agenda ∧
        ((service .standard).perform call store).result = (agenda.carryOut store).result ∧
        ((service .standard).perform call store).state = (agenda.carryOut store).state := by
  rcases hstore.perform_cases .standard call with
    ⟨_, -, hstate⟩ | ⟨admitted, agenda, hverdict, hplan, hresult, hstate⟩
  · exact .inl hstate
  · obtain ⟨organization, role, hfind, hid, hrole, hallowed⟩ :=
      hstore.not_refuses_of_verdict hverdict
    have hget := (hstore.findOrganization_eq_some_iff.1 hfind).2
    obtain rfl := Option.some.inj (hnamed.symm.trans (organizationId?_of_verdict hverdict))
    rw [hid] at hget hrole
    exact .inr ⟨organization, role, agenda, hid, hget, hrole, hallowed, hplan, hresult, hstate⟩

/-! ## Fresh runs -/

/-- Every call of a run is given an identifier that is not in use when its turn comes. -/
def FreshRun (registry : Registry) : Store → List Call → Prop
  | _, [] => True
  | store, call :: rest =>
      call.IsFresh store ∧ FreshRun registry ((service registry).perform call store).state rest

/-- So is every call of a run that is broken off. -/
theorem FreshRun.of_prefix {calls done : List Call} (h : FreshRun registry store calls)
    (hdone : done <+: calls) : FreshRun registry store done := by
  induction calls generalizing store done with
  | nil =>
      obtain rfl := List.prefix_nil.1 hdone
      trivial
  | cons call rest ih =>
      rcases List.prefix_cons_iff.1 hdone with rfl | ⟨before, rfl, hbefore⟩
      · trivial
      · exact ⟨h.1, ih h.2 hbefore⟩

end Store

end OrgAccess
