import OrgAccess.Proofs.Service.Admission

/-!
# Agendas

What an admitted call does. An agenda lists commands of the store, each with what is reported when
it succeeds, and the answer that is given after the last. `perform_apply` says that to perform a
call is to admit it and to carry out its agenda, so that a proof about all calls is a proof about
commands. A command that is refused ends the agenda, and what was written before stays.
-/

namespace OrgAccess

/-- Commands with what is reported of each, and the answer after the last. -/
structure Agenda where
  writes : List (Store.Command × Event)
  reply : Reply

namespace Agenda

/-- The agenda that only answers. -/
def answer (reply : Reply) : Agenda := ⟨[], reply⟩

/-- The agenda with one command. -/
def write (command : Store.Command) (event : Event) (reply : Reply) : Agenda :=
  ⟨[(command, event)], reply⟩

/-- What comes of commands that are carried out in turn, up to one that is refused. -/
def carryOutAll (reply : Reply) : List (Store.Command × Event) → Guarded Store Reply
  | [], store => ⟨.ok reply, store, []⟩
  | (command, event) :: rest, store =>
      match store.attempt command with
      | .error failure => ⟨.error failure, store, []⟩
      | .ok changed =>
          let outcome := carryOutAll reply rest changed
          { outcome with events := event :: outcome.events }

/-- What comes of an agenda. -/
def carryOut (agenda : Agenda) : Guarded Store Reply :=
  carryOutAll agenda.reply agenda.writes

/-- The writes that make a member an admin, unless the member is one. -/
def promotion (organizationId userId : Uuid) (role : Role) : List (Store.Command × Event) :=
  if role = .admin then []
  else [(.setMemberRole organizationId userId .admin, .memberPromoted organizationId userId role)]

end Agenda

/-- Whether an invite finds a free seat in an organization, and why it does not. -/
def Store.freeSeat (store : Store) (organizationId : Uuid) : Except Failure Unit :=
  match store.findBilling organizationId with
  | none => .ok ()
  | some account =>
      match store.seatsInUse organizationId with
      | .error failure => .error failure
      | .ok seatsInUse =>
          if account.hasSeatFor seatsInUse then .ok ()
          else .error (.conflict (.noFreeSeat account.plan seatsInUse))

namespace Call

/-- An organization with a new owner. -/
def transferred (call : Call) (organization : Organization) (newOwner : Uuid) : Organization :=
  { organization with ownerId := newOwner, updatedAt := call.now }

/-- The writes of a transfer of ownership to a member. -/
def transferWrites (call : Call) (organization : Organization) (newOwner : Uuid) (role : Role) :
    List (Store.Command × Event) :=
  Agenda.promotion organization.id newOwner role ++
    [(.saveOrganization (call.transferred organization newOwner),
      .ownershipTransferred call.actor organization.id organization.ownerId newOwner)]

/-- What a call has on its agenda for a request once the record of the request has been found. -/
def agendaFor (call : Call) (store : Store) (organizationId : Uuid) :
    (request : Request) → request.Record → Except Failure Agenda
  | .updateOrganization update, organization =>
      if update.isEmpty then .ok (.answer (.organization organization))
      else
        let updated := update.apply call.now organization
        .ok (.write (.saveOrganization updated) (.organizationUpdated call.actor updated.id)
          (.organization updated))
  | .shutdownOrganization, organization =>
      let id := Organization.id organization
      .ok (.write (.deleteOrganization id) (.organizationShutDown call.actor id) .done)
  | .transferOwnership newOwner, organization =>
      let id := Organization.id organization
      match store.resolveMembership newOwner (.byId id) with
      | none => .error (.notFound (.member newOwner id))
      | some member =>
          .ok
            { writes := call.transferWrites organization newOwner member.role
              reply := .organization (call.transferred organization newOwner) }
  | .createProject _, project =>
      let id := Project.id project
      .ok (.write (.insertProject project) (.projectCreated call.actor id) (.project project))
  | .updateProject _ update, project =>
      let updated := update.apply call.now project
      .ok (.write (.saveProject updated) (.projectUpdated call.actor updated.id)
        (.project updated))
  | .deleteProject _, project =>
      let id := Project.id project
      .ok (.write (.deleteProject id) (.projectDeleted call.actor id) .done)
  | .getBilling, account => .ok (.answer (.billing account))
  | .createInvite _ role, invite =>
      let id := Invite.id invite
      (store.freeSeat organizationId).map fun _ =>
        .write (.insertInvite invite) (.inviteCreated call.actor id role) (.invite invite)
  | .listInvites, _ => .ok (.answer (.invites (store.listInvites organizationId)))
  | .revokeInvite _, invite =>
      let id := Invite.id invite
      .ok (.write (.deleteInvite id) (.inviteRevoked call.actor id) .done)

/-- What an admitted call has on its agenda, unless it fails before its first write. -/
def agenda (call : Call) (store : Store) (admitted : call.Admitted) : Except Failure Agenda :=
  call.agendaFor store admitted.membership.organizationId call.request admitted.record

/-- Carries out the agenda of an admitted call. -/
def serve (call : Call) (admitted : call.Admitted) : Guarded Store Reply := fun store =>
  match call.agenda store admitted with
  | .error failure => ⟨.error failure, store, []⟩
  | .ok agenda => agenda.carryOut store

end Call

/-! ## A call is admitted and served -/

namespace Guarded

/-- Asking for a record that must be there is finding it. -/
theorem ask_require_eq {α : Type} (missing : Missing) (found : Store → Option α) :
    (do let record ← ask (.read fun store => .ok (found store))
        require (.notFound missing) record) =
      find fun store => missing.unlessFound (found store) := by
  funext store
  simp only [bind_apply, ask_apply, Exchange.read, find]
  cases found store <;> rfl

/-- A write that is reported comes before what else is to be done. -/
theorem write_bind (change : Store → Except Failure Store) (command : Store.Command)
    (hcommand : ∀ store, change store = store.attempt command) (event : Event) (reply : Reply)
    (rest : List (Store.Command × Event)) :
    (do ask (.write change); report event; Agenda.carryOutAll reply rest) =
      Agenda.carryOutAll reply ((command, event) :: rest) := by
  funext store
  simp only [bind_apply, ask_apply, Exchange.write, Agenda.carryOutAll, ← hcommand]
  cases change store <;> rfl

/-- A write that is reported and answered is an agenda with one command. -/
theorem write_eq (change : Store → Except Failure Store) (command : Store.Command)
    (hcommand : ∀ store, change store = store.attempt command) (event : Event) (reply : Reply) :
    (do ask (.write change); report event; Pure.pure reply) =
      (Agenda.write command event reply).carryOut :=
  write_bind change command hcommand event reply []

end Guarded

/-- What an invite needs of the seats of an organization is read off the store. -/
theorem ensureSeat_apply (registry : Registry) (organizationId : Uuid) (store : Store) :
    (Store.service registry).ensureSeat organizationId store =
      ⟨store.freeSeat organizationId, store, []⟩ := by
  have hask : Guarded.ask ((Store.service registry).backend.findBilling organizationId) store =
      ⟨.ok (store.findBilling organizationId), store, []⟩ := rfl
  unfold Service.ensureSeat Store.freeSeat
  rw [Guarded.bind_apply, hask]
  cases store.findBilling organizationId with
  | none => rfl
  | some account =>
      have hseats : Guarded.ask ((Store.service registry).backend.seatsInUse organizationId)
          store = ⟨store.seatsInUse organizationId, store, []⟩ := rfl
      dsimp only
      rw [Guarded.bind_apply, hseats]
      cases store.seatsInUse organizationId with
      | error failure => rfl
      | ok seatsInUse =>
          dsimp only
          cases account.hasSeatFor seatsInUse <;> rfl

/-- Making a member an admin comes before what else is to be done. -/
theorem promote_bind (registry : Registry) (organizationId userId : Uuid)
    (member : ResolvedMembership) (reply : Reply) (rest : List (Store.Command × Event)) :
    ((Store.service registry).promote organizationId member userId >>= fun _ =>
        Agenda.carryOutAll reply rest) =
      Agenda.carryOutAll reply (Agenda.promotion organizationId userId member.role ++ rest) := by
  unfold Service.promote Agenda.promotion
  split
  · rfl
  · rw [bind_assoc]
    exact Guarded.write_bind _ (.setMemberRole organizationId userId .admin) (fun _ => rfl) _ _ _

namespace Store

variable (registry : Registry) (call : Call)

/-- An operation that finds the record of a call, checks the action on it and then does what the
call does is the call. -/
theorem guarded_eq {load : Authorized → Guarded Store call.request.Record}
    {body : Authorized → call.request.Record → Guarded Store Reply}
    (hload : ∀ authorized,
      load authorized = Guarded.find (call.record · authorized.membership.organizationId))
    (hbody : ∀ authorized record, body authorized record = call.serve ⟨authorized, record⟩) :
    (do let authorized ← (service registry).abilityFor call.actor call.organization
        let record ← load authorized
        authorized.ensure call.request.action (call.request.target record)
        body authorized record) =
      registry.admission call >>= call.serve := by
  unfold Registry.admission
  simp only [bind_assoc, pure_bind, hload, hbody]

/-- An operation that makes the record of a call, checks the action on it and then does what the
call does is the call. -/
theorem guarded_new_eq {made : Authorized → call.request.Record}
    {body : Authorized → Guarded Store Reply}
    (hmade : ∀ authorized store,
      call.record store authorized.membership.organizationId = .ok (made authorized))
    (hbody : ∀ authorized, body authorized = call.serve ⟨authorized, made authorized⟩) :
    (do let authorized ← (service registry).abilityFor call.actor call.organization
        authorized.ensure call.request.action (call.request.target (made authorized))
        body authorized) =
      registry.admission call >>= call.serve := by
  have hload : ∀ authorized, (Pure.pure (made authorized) : Guarded Store call.request.Record) =
      Guarded.find (call.record · authorized.membership.organizationId) := by
    intro authorized
    funext store
    simp only [Guarded.find, hmade]
    rfl
  have hguarded := guarded_eq registry call hload fun authorized _ => rfl
  simpa only [pure_bind, hbody] using hguarded

/-- An operation that asks for the record of a call, checks the action on it and then does what
the call does is the call. -/
theorem guarded_ask_eq {missing : Authorized → Missing}
    {found : Authorized → Store → Option call.request.Record}
    {body : Authorized → call.request.Record → Guarded Store Reply}
    (hfound : ∀ authorized store,
      call.record store authorized.membership.organizationId =
        (missing authorized).unlessFound (found authorized store))
    (hbody : ∀ authorized record, body authorized record = call.serve ⟨authorized, record⟩) :
    (do let authorized ← (service registry).abilityFor call.actor call.organization
        let answer ← Guarded.ask (.read fun store => .ok (found authorized store))
        let record ← Guarded.require (.notFound (missing authorized)) answer
        authorized.ensure call.request.action (call.request.target record)
        body authorized record) =
      registry.admission call >>= call.serve := by
  have hload : ∀ authorized,
      (do let answer ← Guarded.ask (.read fun store => .ok (found authorized store))
          Guarded.require (.notFound (missing authorized)) answer) =
        Guarded.find (call.record · authorized.membership.organizationId) := by
    intro authorized
    simp only [Guarded.ask_require_eq, hfound]
  rw [← guarded_eq registry call hload hbody]
  simp only [bind_assoc]

/-- Performing a call is admitting it and serving it. -/
theorem perform_eq_bind :
    (service registry).perform call = registry.admission call >>= call.serve := by
  obtain ⟨actor, reference, request, now, freshId⟩ := call
  have horganization : (service registry).loadOrganization reference =
      Guarded.find fun store =>
        (Missing.organization reference).unlessFound (store.findOrganization reference) :=
    Guarded.ask_require_eq _ _
  have hproject : ∀ (authorized : Authorized) (projectId : Uuid),
      (service registry).loadProject authorized projectId =
        Guarded.find fun store =>
          (Missing.project projectId).unlessFound
            (store.findProject authorized.membership.organizationId projectId) := by
    intro authorized projectId
    exact Guarded.ask_require_eq _ _
  unfold Service.perform
  -- an operation differs from the others in the record it loads and in what it does at the end
  cases request with
  | updateOrganization update =>
      simp only [Service.updateOrganization, bind_assoc]
      refine guarded_eq registry ⟨actor, reference, .updateOrganization update, now, freshId⟩
        (fun _ => horganization) fun authorized organization => ?_
      funext store
      simp only [Call.serve, Call.agenda, Call.agendaFor]
      cases update.isEmpty with
      | true => rfl
      | false =>
          simp only [Bool.false_eq_true, if_false, bind_assoc, pure_bind]
          have hsave := Guarded.write_eq _ (.saveOrganization (update.apply now organization))
            (fun _ => rfl) (.organizationUpdated actor (update.apply now organization).id)
            (.organization (update.apply now organization))
          exact congrFun hsave store
  | shutdownOrganization =>
      simp only [Service.shutdownOrganization, bind_assoc]
      refine guarded_eq registry ⟨actor, reference, .shutdownOrganization, now, freshId⟩
        (fun _ => horganization) fun authorized organization => ?_
      exact Guarded.write_eq _ (.deleteOrganization organization.id) (fun _ => rfl) _ _
  | transferOwnership newOwner =>
      simp only [Service.transferOwnership, bind_assoc, pure_bind]
      refine guarded_eq registry ⟨actor, reference, .transferOwnership newOwner, now, freshId⟩
        (fun _ => horganization) fun authorized organization => ?_
      funext store
      have hask : Guarded.ask ((service registry).backend.resolveMembership newOwner
          (.byId organization.id)) store =
          ⟨.ok (store.resolveMembership newOwner (.byId organization.id)), store, []⟩ := rfl
      simp only [Call.serve, Call.agenda, Call.agendaFor]
      rw [Guarded.bind_apply, hask]
      cases store.resolveMembership newOwner (.byId organization.id) with
      | none => rfl
      | some member =>
          have hsave := fun transferred : Organization =>
            Guarded.write_eq _ (.saveOrganization transferred) (fun _ => rfl)
              (.ownershipTransferred actor organization.id organization.ownerId newOwner)
              (.organization transferred)
          have hpromote := fun reply rest =>
            promote_bind registry organization.id newOwner member reply rest
          refine Eq.trans ?_ (congrFun (hpromote _ _) store)
          exact congrFun (bind_congr fun _ => hsave _) store
  | createProject input =>
      simp only [Service.createProject, bind_assoc, pure_bind]
      refine guarded_new_eq registry ⟨actor, reference, .createProject input, now, freshId⟩
        (fun _ _ => rfl) fun authorized => ?_
      exact Guarded.write_eq _ (.insertProject _) (fun _ => rfl) _ _
  | updateProject projectId update =>
      simp only [Service.updateProject, bind_assoc, pure_bind]
      refine guarded_eq registry ⟨actor, reference, .updateProject projectId update, now, freshId⟩
        (hproject · projectId) fun authorized project => ?_
      exact Guarded.write_eq _ (.saveProject (update.apply now project)) (fun _ => rfl) _ _
  | deleteProject projectId =>
      simp only [Service.deleteProject, bind_assoc]
      refine guarded_eq registry ⟨actor, reference, .deleteProject projectId, now, freshId⟩
        (hproject · projectId) fun authorized project => ?_
      exact Guarded.write_eq _ (.deleteProject project.id) (fun _ => rfl) _ _
  | getBilling =>
      simp only [Service.getBilling, bind_assoc, pure_bind]
      refine guarded_ask_eq registry ⟨actor, reference, .getBilling, now, freshId⟩
        (fun _ _ => rfl) fun authorized account => ?_
      rfl
  | createInvite email role =>
      simp only [Service.createInvite, bind_assoc, pure_bind]
      refine guarded_new_eq registry ⟨actor, reference, .createInvite email role, now, freshId⟩
        (fun _ _ => rfl) fun authorized => ?_
      funext store
      simp only [Call.serve, Call.agenda, Call.agendaFor]
      rw [Guarded.bind_apply, ensureSeat_apply]
      cases store.freeSeat authorized.membership.organizationId with
      | error failure => rfl
      | ok _ => exact congrFun (Guarded.write_eq _ (.insertInvite _) (fun _ => rfl) _ _) store
  | listInvites =>
      simp only [Service.listInvites, bind_assoc]
      refine guarded_new_eq registry ⟨actor, reference, .listInvites, now, freshId⟩
        (fun _ _ => rfl) fun authorized => ?_
      rfl
  | revokeInvite inviteId =>
      simp only [Service.revokeInvite, bind_assoc]
      refine guarded_ask_eq registry ⟨actor, reference, .revokeInvite inviteId, now, freshId⟩
        (fun _ _ => rfl) fun authorized invite => ?_
      exact Guarded.write_eq _ (.deleteInvite invite.id) (fun _ => rfl) _ _

/-- A call that is not admitted ends there, and one that is admitted carries out its agenda. -/
theorem perform_apply (call : Call) (store : Store) :
    (service registry).perform call store =
      match registry.verdict call store with
      | .error failure => ⟨.error failure, store, registry.admissionEvents call store⟩
      | .ok admitted =>
          let outcome := call.serve admitted store
          { outcome with events := registry.admissionEvents call store ++ outcome.events } := by
  rw [perform_eq_bind, Guarded.bind_apply, Registry.admission_apply]
  cases registry.verdict call store <;> rfl

end Store

end OrgAccess
