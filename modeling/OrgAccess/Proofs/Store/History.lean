import OrgAccess.Proofs.Store.Reachable
import OrgAccess.Store.Backend

/-!
# Histories

Everything that a store can be asked for as data: commands, of which some seed it, and queries. A
history is a list of such operations, and `Store.after` is the store that it leaves, refused
operations included. What an operation may do is said once, in `Operation.state_cases`: it leaves
the store as it was, or it is a command that is not refused. So the reachable stores are those that
histories lead to (`reachable_iff_exists_history`).
-/

namespace OrgAccess

namespace Store

variable {store changed : Store} {failure : Failure}

/-! ## Commands -/

/-- The store that a command makes when it is not refused. -/
def enact (store : Store) : Command → Store
  | .addOrganization organization | .saveOrganization organization =>
      store.addOrganization organization
  | .addMembership membership => store.addMembership membership
  | .addBilling account => store.addBilling account
  | .deleteOrganization id => store.withoutOrganization id
  | .setMemberRole organizationId userId role =>
      { store with memberships := setRole organizationId userId role store.memberships }
  | .insertProject project | .saveProject project =>
      { store with projects := store.projects.insert project.id project }
  | .deleteProject id => { store with projects := store.projects.erase id }
  | .insertInvite invite => { store with invites := store.invites.insert invite.id invite }
  | .deleteInvite id => { store with invites := store.invites.erase id }

/-- A command that is not refused leaves the store that it is to make. -/
theorem eq_enact_of_attempt {command : Command} (h : store.attempt command = .ok changed) :
    changed = store.enact command := by
  cases command with
  | addOrganization _ | addMembership _ | addBilling _ => exact (Except.ok.inj h).symm
  | saveOrganization _ => exact (saveOrganization_eq_ok_iff.1 h).2.2
  | deleteOrganization _ => exact (deleteOrganization_eq_ok_iff.1 h).2
  | setMemberRole _ _ _ => exact (setMemberRole_eq_ok_iff.1 h).2
  | insertProject _ => exact (insertProject_eq_ok_iff.1 h).2
  | saveProject _ => exact (saveProject_eq_ok_iff.1 h).2
  | deleteProject _ => exact (deleteProject_eq_ok_iff.1 h).2
  | insertInvite _ => exact (insertInvite_eq_ok_iff.1 h).2
  | deleteInvite _ => exact (deleteInvite_eq_ok_iff.1 h).2

namespace Command

/-- What is made of a command: filing records by hand is never refused, and the rest is left to the
backend. -/
def ask : Command → Exchange Store Unit
  | addOrganization organization => .write fun s => .ok (s.addOrganization organization)
  | addMembership membership => .write fun s => .ok (s.addMembership membership)
  | addBilling account => .write fun s => .ok (s.addBilling account)
  | saveOrganization organization => backend.saveOrganization organization
  | deleteOrganization id => backend.deleteOrganization id
  | setMemberRole organizationId userId role => backend.setMemberRole organizationId userId role
  | insertProject project => backend.insertProject project
  | saveProject project => backend.saveProject project
  | deleteProject id => backend.deleteProject id
  | insertInvite invite => backend.insertInvite invite
  | deleteInvite id => backend.deleteInvite id

/-- Every command is a write that may be refused. -/
theorem ask_eq_write (command : Command) : command.ask = .write (·.attempt command) := by
  cases command <;> rfl

/-- A command that is refused changes nothing. -/
theorem ask_of_error {command : Command} (h : store.attempt command = .error failure) :
    command.ask store = (.error failure, store) := by
  rw [ask_eq_write, Exchange.write, h]

/-- A command that is not refused is answered, and the store is the changed one. -/
theorem ask_of_ok {command : Command} (h : store.attempt command = .ok changed) :
    command.ask store = (.ok (), changed) := by
  rw [ask_eq_write, Exchange.write, h]

/-- The answer to a command is the reason for which it is refused, if it is. -/
theorem answer_eq_error_iff {command : Command} :
    (command.ask store).1 = .error failure ↔ store.attempt command = .error failure := by
  cases hattempt : store.attempt command with
  | error refusal =>
      rw [ask_of_error hattempt]
      exact ⟨fun h => congrArg _ (Except.error.inj h), fun h => congrArg _ (Except.error.inj h)⟩
  | ok changed =>
      rw [ask_of_ok hattempt]
      exact iff_of_false nofun nofun

/-- A command succeeds exactly when it is not refused. -/
theorem answer_eq_ok_iff {command : Command} :
    (command.ask store).1 = .ok () ↔ ∃ changed, store.attempt command = .ok changed := by
  cases hattempt : store.attempt command with
  | error refusal =>
      rw [ask_of_error hattempt]
      exact iff_of_false nofun nofun
  | ok changed =>
      rw [ask_of_ok hattempt]
      exact iff_of_true rfl ⟨changed, rfl⟩

end Command

/-! ## Queries -/

/-- A question about the records of a store. -/
inductive Query where
  | organization (id : Uuid)
  | project (id : Uuid)
  | resolveMembership (userId : Uuid) (reference : OrganizationRef)
  | findOrganization (reference : OrganizationRef)
  | findProject (organizationId projectId : Uuid)
  | seatsInUse (organizationId : Uuid)
  | findBilling (organizationId : Uuid)
  | listInvites (organizationId : Uuid)
  | findInvite (organizationId inviteId : Uuid)
deriving DecidableEq

namespace Query

/-- What a question is answered with. -/
def Answer : Query → Type
  | organization _ => Option Organization
  | project _ => Option Project
  | resolveMembership _ _ => Option ResolvedMembership
  | findOrganization _ => Option Organization
  | findProject _ _ => Option Project
  | seatsInUse _ => Nat
  | findBilling _ => Option BillingAccount
  | listInvites _ => List Invite
  | findInvite _ _ => Option Invite

/-- What is made of a question: organizations and projects may be looked up by their identifiers
alone, and the rest is left to the backend. -/
def ask : (query : Query) → Exchange Store query.Answer
  | organization id => .read fun s => .ok (s.organizations.get? id)
  | project id => .read fun s => .ok (s.projects.get? id)
  | resolveMembership userId reference => backend.resolveMembership userId reference
  | findOrganization reference => backend.findOrganization reference
  | findProject organizationId projectId => backend.findProject organizationId projectId
  | seatsInUse organizationId => backend.seatsInUse organizationId
  | findBilling organizationId => backend.findBilling organizationId
  | listInvites organizationId => backend.listInvites organizationId
  | findInvite organizationId inviteId => backend.findInvite organizationId inviteId

/-- Questions change nothing. -/
theorem state_ask (query : Query) (store : Store) : (query.ask store).2 = store := by
  cases query <;> rfl

end Query

/-! ## Operations -/

/-- What a store can be asked for. -/
inductive Operation where
  | write (command : Command)
  | read (query : Query)
deriving DecidableEq

namespace Operation

/-- What an operation is answered with. -/
def Answer : Operation → Type
  | write _ => Unit
  | read query => query.Answer

/-- What is made of an operation. -/
def ask : (operation : Operation) → Exchange Store operation.Answer
  | write command => command.ask
  | read query => query.ask

/-- The store after a command that is not refused is the changed one. -/
theorem state_write {command : Command} (h : store.attempt command = .ok changed) :
    ((write command).ask store).2 = changed :=
  congrArg Prod.snd (Command.ask_of_ok h)

/-- An operation leaves the store as it was, or it is a command that is not refused. -/
theorem state_cases (operation : Operation) (store : Store) :
    (operation.ask store).2 = store ∨
      ∃ command changed, operation = .write command ∧ store.attempt command = .ok changed ∧
        (operation.ask store).2 = changed := by
  cases operation with
  | read query => exact .inl (query.state_ask store)
  | write command =>
      cases hattempt : store.attempt command with
      | error failure => exact .inl (congrArg Prod.snd (Command.ask_of_error hattempt))
      | ok changed => exact .inr ⟨command, changed, rfl, hattempt, state_write hattempt⟩

/-- An operation that fails leaves the store as it was. -/
theorem state_of_error {operation : Operation} (h : (operation.ask store).1 = .error failure) :
    (operation.ask store).2 = store := by
  rcases operation.state_cases store with hstate | ⟨command, changed, rfl, hattempt, -⟩
  · exact hstate
  · cases (congrArg Prod.fst (Command.ask_of_ok hattempt)).symm.trans h

end Operation

/-! ## Histories -/

/-- The store after a history, whatever its operations are answered. -/
def after (store : Store) (history : List Operation) : Store :=
  history.foldl (fun store operation => (operation.ask store).2) store

/-- A history leads where its parts lead one after the other. -/
theorem after_append (store : Store) (before rest : List Operation) :
    store.after (before ++ rest) = (store.after before).after rest :=
  List.foldl_append

/-- An operation leads from reachable stores to reachable ones. -/
theorem Reachable.ask (h : store.Reachable) (operation : Operation) :
    (operation.ask store).2.Reachable := by
  rcases operation.state_cases store with hstate | ⟨command, changed, -, hattempt, hstate⟩
  · rwa [hstate]
  · rw [hstate]
    exact .step command h hattempt

/-- A history leads from reachable stores to reachable ones. -/
theorem Reachable.after (h : store.Reachable) (history : List Operation) :
    (store.after history).Reachable := by
  induction history generalizing store with
  | nil => exact h
  | cons operation rest ih => exact ih (h.ask operation)

/-- The reachable stores are those that histories lead to from the empty store. -/
theorem reachable_iff_exists_history :
    store.Reachable ↔ ∃ history, store = empty.after history := by
  constructor
  · intro h
    induction h with
    | empty => exact ⟨[], rfl⟩
    | @step store changed command _ hattempt ih =>
        obtain ⟨history, rfl⟩ := ih
        refine ⟨history ++ [.write command], ?_⟩
        rw [after_append]
        exact (Operation.state_write hattempt).symm
  · rintro ⟨history, rfl⟩
    exact Reachable.empty.after history

end Store

end OrgAccess
