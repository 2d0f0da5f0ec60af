import OrgAccess.Proofs.Service.Agenda

/-!
# Runs of calls

What a call that is carried out can come to. A refused command does not come of authorizing the
actor, a single command that is refused changes nothing, and calls lead from reachable stores to
reachable stores. Each is proved for one command, then for the commands of an agenda, and then for
calls.
-/

namespace OrgAccess

variable {store changed : Store} {failure : Failure}

/-- Whether a failure comes of authorizing the actor: a denial, or no ability to put a query to. -/
def Failure.isOfAuthorization : Failure → Bool
  | .forbidden _ _ | .notMember _ | .ability _ => true
  | .notFound _ | .conflict _ | .store _ => false

/-- A failure that does not come of authorizing the actor is no denial. -/
theorem Failure.isDenied_of_isOfAuthorization (h : failure.isOfAuthorization = false) :
    failure.isDenied = false := by
  cases failure with
  | forbidden _ _ | notMember _ | ability _ => cases h
  | notFound _ | conflict _ | store _ => rfl

/-! ## Commands -/

/-- A command is refused for a record that is missing or in the way, and not for its author. -/
theorem Store.isOfAuthorization_of_attempt {command : Store.Command}
    (h : store.attempt command = .error failure) : failure.isOfAuthorization = false := by
  cases command with
  | addOrganization _ | addMembership _ | addBilling _ => cases h
  | saveOrganization organization =>
      rw [attempt, saveOrganization_eq] at h
      split at h
      · obtain rfl := Except.error.inj h
        rfl
      · split at h
        · obtain rfl := Except.error.inj h
          rfl
        · cases h
  | insertProject _ | insertInvite _ =>
      simp only [attempt, insertProject, insertInvite] at h
      split at h
      · obtain rfl := Except.error.inj h
        rfl
      · cases h
  | deleteOrganization _ | setMemberRole _ _ _ | saveProject _ | deleteProject _
  | deleteInvite _ =>
      simp only [attempt, deleteOrganization, setMemberRole, saveProject, deleteProject,
        deleteInvite] at h
      split at h
      · cases h
      · obtain rfl := Except.error.inj h
        rfl

/-! ## Agendas -/

namespace Agenda

variable {reply : Reply}

/-- An agenda fails as one of its commands does. -/
theorem isOfAuthorization_of_carryOutAll (writes : List (Store.Command × Event))
    (h : (carryOutAll reply writes store).result = .error failure) :
    failure.isOfAuthorization = false := by
  induction writes generalizing store with
  | nil => cases h
  | cons write rest ih =>
      unfold carryOutAll at h
      split at h
      · next refusal hattempt =>
        obtain rfl := Except.error.inj h
        exact Store.isOfAuthorization_of_attempt hattempt
      · exact ih h

/-- An agenda leads from a reachable store to a reachable store, whether it fails or not. -/
theorem reachable_carryOutAll (writes : List (Store.Command × Event)) (h : store.Reachable) :
    (carryOutAll reply writes store).state.Reachable := by
  induction writes generalizing store with
  | nil => exact h
  | cons write rest ih =>
      unfold carryOutAll
      split
      · exact h
      · next changed hattempt => exact ih (.step write.1 h hattempt)

/-- One command is done or is not. -/
theorem state_carryOutAll_of_length_le_one {writes : List (Store.Command × Event)}
    (hlength : writes.length ≤ 1) (h : (carryOutAll reply writes store).result = .error failure) :
    (carryOutAll reply writes store).state = store := by
  cases writes with
  | nil => rfl
  | cons write rest =>
      obtain rfl : rest = [] := by simpa using hlength
      unfold carryOutAll at h ⊢
      cases hattempt : store.attempt write.1 with
      | error refusal => rfl
      | ok changed =>
          simp only [hattempt, carryOutAll] at h
          cases h

end Agenda

/-! ## Calls -/

namespace Call

variable {call : Call} {organizationId : Uuid}

/-- A seat is refused for want of seats. -/
theorem isOfAuthorization_of_freeSeat (h : store.freeSeat organizationId = .error failure) :
    failure.isOfAuthorization = false := by
  unfold Store.freeSeat at h
  split at h
  · cases h
  · split at h
    · next refusal hseats =>
      obtain rfl := Except.error.inj h
      unfold Store.seatsInUse at hseats
      split at hseats
      · exact nomatch hseats
      · obtain rfl := Except.error.inj hseats
        rfl
    · split at h
      · cases h
      · obtain rfl := Except.error.inj h
        rfl

/-- A call that fails before its first write fails for a member that is missing or for want of
seats. -/
theorem isOfAuthorization_of_agendaFor {request : Request} {record : request.Record}
    (h : call.agendaFor store organizationId request record = .error failure) :
    failure.isOfAuthorization = false := by
  cases request with
  | updateOrganization update =>
      simp only [agendaFor] at h
      split at h <;> cases h
  | transferOwnership newOwner =>
      simp only [agendaFor] at h
      split at h
      · obtain rfl := Except.error.inj h
        rfl
      · cases h
  | createInvite email role =>
      simp only [agendaFor] at h
      cases hseat : store.freeSeat organizationId with
      | error refusal =>
          rw [hseat] at h
          obtain rfl := Except.error.inj h
          exact isOfAuthorization_of_freeSeat hseat
      | ok _ =>
          rw [hseat] at h
          cases h
  | shutdownOrganization | createProject _ | updateProject _ _ | deleteProject _ | getBilling
  | listInvites | revokeInvite _ => cases h

/-- Only a transfer of ownership has more than one command on its agenda. -/
theorem length_writes_le_one {request : Request} {record : request.Record} {agenda : Agenda}
    (hrequest : ∀ newOwner, request ≠ .transferOwnership newOwner)
    (h : call.agendaFor store organizationId request record = .ok agenda) :
    agenda.writes.length ≤ 1 := by
  cases request with
  | transferOwnership newOwner => exact absurd rfl (hrequest newOwner)
  | updateOrganization update =>
      simp only [agendaFor] at h
      split at h
      · obtain rfl := Except.ok.inj h
        exact Nat.zero_le 1
      · obtain rfl := Except.ok.inj h
        exact Nat.le_refl 1
  | createInvite email role =>
      simp only [agendaFor] at h
      cases hseat : store.freeSeat organizationId with
      | error refusal =>
          rw [hseat] at h
          cases h
      | ok _ =>
          rw [hseat] at h
          obtain rfl := Except.ok.inj h
          exact Nat.le_refl 1
  | getBilling | listInvites =>
      obtain rfl := Except.ok.inj h
      exact Nat.zero_le 1
  | shutdownOrganization | createProject _ | updateProject _ _ | deleteProject _
  | revokeInvite _ =>
      obtain rfl := Except.ok.inj h
      exact Nat.le_refl 1

/-- Once a call is admitted authorizing the actor is over. -/
theorem isOfAuthorization_of_serve {admitted : call.Admitted}
    (h : (call.serve admitted store).result = .error failure) :
    failure.isOfAuthorization = false := by
  unfold serve at h
  split at h
  · next refusal hagenda =>
    obtain rfl := Except.error.inj h
    exact isOfAuthorization_of_agendaFor hagenda
  · exact Agenda.isOfAuthorization_of_carryOutAll _ h

/-- Serving a call that is admitted leads from reachable stores to reachable ones. -/
theorem reachable_serve (admitted : call.Admitted) (h : store.Reachable) :
    (call.serve admitted store).state.Reachable := by
  unfold serve
  split
  · exact h
  · exact Agenda.reachable_carryOutAll _ h

end Call

namespace Store

variable {registry : Registry} {call : Call}

/-- A call that is not admitted changes nothing. -/
theorem perform_of_verdict_error (h : registry.verdict call store = .error failure) :
    (service registry).perform call store =
      ⟨.error failure, store, registry.admissionEvents call store⟩ := by
  rw [perform_apply, h]

/-- A call that is admitted is served. -/
theorem perform_of_verdict_ok {admitted : call.Admitted}
    (h : registry.verdict call store = .ok admitted) :
    ((service registry).perform call store).result = (call.serve admitted store).result ∧
      ((service registry).perform call store).state = (call.serve admitted store).state := by
  rw [perform_apply, h]
  exact ⟨rfl, rfl⟩

/-- A call that succeeds is admitted. -/
theorem exists_verdict_of_ok {reply : Reply}
    (h : ((service registry).perform call store).result = .ok reply) :
    ∃ admitted, registry.verdict call store = .ok admitted := by
  cases hverdict : registry.verdict call store with
  | error refusal =>
      rw [perform_of_verdict_error hverdict] at h
      cases h
  | ok admitted => exact ⟨admitted, rfl⟩

/-- A call is denied exactly when it is not admitted for a denial. -/
theorem perform_denied_iff :
    (∃ failure, ((service registry).perform call store).result = .error failure ∧
        failure.isDenied = true) ↔
      ∃ failure, registry.verdict call store = .error failure ∧ failure.isDenied = true := by
  cases hverdict : registry.verdict call store with
  | error refusal =>
      rw [perform_of_verdict_error hverdict]
      simp
  | ok admitted =>
      rw [(perform_of_verdict_ok hverdict).1]
      refine iff_of_false ?_ (by simp)
      rintro ⟨failure, hresult, hdenied⟩
      have hadmitted := Call.isOfAuthorization_of_serve hresult
      rw [Failure.isDenied_of_isOfAuthorization hadmitted] at hdenied
      exact nomatch hdenied

/-- What a call makes of a reachable store is reachable. -/
theorem Reachable.perform (h : store.Reachable) (registry : Registry) (call : Call) :
    ((service registry).perform call store).state.Reachable := by
  cases hverdict : registry.verdict call store with
  | error refusal =>
      rw [perform_of_verdict_error hverdict]
      exact h
  | ok admitted =>
      rw [(perform_of_verdict_ok hverdict).2]
      exact Call.reachable_serve admitted h

/-- What every call on a reachable store keeps is kept by every run of calls. -/
theorem Reachable.runState_of_perform {P : Store → Prop} (h : store.Reachable)
    {registry : Registry}
    (hperform : ∀ {store : Store}, store.Reachable → P store → ∀ call : Call,
      P ((service registry).perform call store).state)
    (hstart : P store) (calls : List Call) : P ((service registry).runState store calls) := by
  induction calls generalizing store with
  | nil => exact hstart
  | cons call rest ih => exact ih (h.perform registry call) (hperform h hstart call)

/-- What a run of calls makes of a reachable store is reachable. -/
theorem Reachable.runState (h : store.Reachable) (registry : Registry) (calls : List Call) :
    ((service registry).runState store calls).Reachable :=
  h.runState_of_perform (fun hstore _ call => hstore.perform registry call) h calls

end Store

end OrgAccess
