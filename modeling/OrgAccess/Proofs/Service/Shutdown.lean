import OrgAccess.Proofs.Service.Effect
import OrgAccess.Proofs.Service.Isolation
import OrgAccess.Proofs.Store.Integrity

/-!
# An organization that is shut down

A shutdown removes an organization with everything that names it, and it is final: after any run of
calls nothing names the organization (`Store.Forgotten`), and whoever calls on it by its identifier
is told to be no member (`shutdown_is_final`). The store itself would take in a project or an invite
of an organization that does not exist. What keeps such records out is that a call writes in the
organization of its actor's membership alone, and that no call makes a membership.
-/

namespace OrgAccess

/-- A call closes an organization: it asks for the shutdown of that organization and succeeds. -/
structure Call.Closes (call : Call) (registry : Registry) (store : Store) (organizationId : Uuid) :
    Prop where
  request : call.request = .shutdownOrganization
  named : store.organizationId? call.organization = some organizationId
  succeeds : ((Store.service registry).perform call store).result = .ok .done

namespace Store

variable {registry : Registry} {store changed : Store} {command : Command} {call : Call}
  {organizationId other : Uuid}

/-- Nothing is left of an organization: it is gone, and no record names it. -/
structure Forgotten (store : Store) (organizationId : Uuid) : Prop where
  organization : store.organizations.get? organizationId = none
  memberships : ∀ m ∈ store.memberships, m.organizationId ≠ organizationId
  projects : ∀ p ∈ store.projects.values, p.organizationId ≠ organizationId
  invites : ∀ i ∈ store.invites.values, i.organizationId ≠ organizationId
  billing : ∀ account ∈ store.billing.values, account.organizationId ≠ organizationId

/-! ## One shutdown -/

/-- Everything that names an organization is removed along with it. -/
theorem Filed.forgotten_withoutOrganization (hstore : store.Filed) (organizationId : Uuid) :
    (store.withoutOrganization organizationId).Forgotten organizationId where
  organization := get?_withoutOrganization
  memberships := by
    intro m hm
    simpa using (List.mem_filter.1 hm).2
  projects := by
    intro p hp
    rw [Store.withoutOrganization, Table.values_filter] at hp
    simpa using (List.mem_filter.1 hp).2
  invites := by
    intro i hi
    rw [Store.withoutOrganization, Table.values_filter] at hi
    simpa using (List.mem_filter.1 hi).2
  billing := by
    -- an account is filed under the organization that it names
    intro account haccount
    obtain ⟨id, hget⟩ := Table.mem_values_iff.1 haccount
    have hid : account.organizationId = id := hstore.billing.erase organizationId id account hget
    rw [Store.withoutOrganization, Table.get?_erase] at hget
    intro hsame
    rw [if_pos (hid.symm.trans hsame)] at hget
    cases hget

/-- A call that closes an organization leaves the store without it. -/
theorem Filed.state_of_closes (hstore : store.Filed)
    (h : call.Closes registry store organizationId) :
    ((service registry).perform call store).state = store.withoutOrganization organizationId := by
  rcases hstore.settles_perform registry h.named with ⟨failure, hfailed, -⟩ | heffect
  · cases hfailed.symm.trans h.succeeds
  · generalize ((service registry).perform call store).result = result at heffect
    generalize ((service registry).perform call store).state = after at heffect ⊢
    cases heffect with
    | shutDown _ _ => rfl
    | keptOrganization hrequest _ _ | savedOrganization hrequest _ _ _ _
    | handedOver hrequest _ _ _ _ | stoppedHalfway hrequest _ _ _ _ | madeProject hrequest _ _
    | savedProject hrequest _ _ | removedProject hrequest _ | readBilling hrequest _
    | madeInvite hrequest _ _ _ | listedInvites hrequest | removedInvite hrequest _ =>
        cases h.request.symm.trans hrequest

/-! ## What comes later -/

/-- A command that keeps within one organization brings nothing of another one back. -/
theorem Command.Within.forgotten (hwithin : command.Within store organizationId)
    (hattempt : store.attempt command = .ok changed) (hother : other ≠ organizationId)
    (h : store.Forgotten other) : changed.Forgotten other := by
  have hsame := hwithin.sameOrganization hattempt hother
  have horganization := hsame.organization.trans h.organization
  have hmembers : ∀ m ∈ changed.memberships, m.organizationId ≠ other := by
    intro m hm hnamed
    have hold : m ∈ store.membersOf other := by
      rw [← hsame.members]
      exact List.mem_filter.2 ⟨hm, decide_eq_true hnamed⟩
    exact h.memberships m (List.mem_filter.1 hold).1 hnamed
  obtain rfl := eq_enact_of_attempt hattempt
  cases command with
  | addOrganization _ | saveOrganization _ | addMembership _ | setMemberRole _ _ _ =>
      exact ⟨horganization, hmembers, h.projects, h.invites, h.billing⟩
  | addBilling account =>
      have hnamed : account.organizationId ≠ other := fun hname => hother (hname.symm.trans hwithin)
      exact { h with billing := Table.forall_values_insert h.billing hnamed }
  | deleteOrganization id =>
      exact ⟨horganization, hmembers, Table.forall_values_filter h.projects _,
        Table.forall_values_filter h.invites _, Table.forall_values_erase h.billing⟩
  | insertProject project =>
      have hnamed : project.organizationId ≠ other := fun hname => hother (hname.symm.trans hwithin)
      exact { h with projects := Table.forall_values_insert h.projects hnamed }
  | saveProject project =>
      have hnamed : project.organizationId ≠ other :=
        fun hname => hother (hname.symm.trans hwithin.1)
      exact { h with projects := Table.forall_values_insert h.projects hnamed }
  | deleteProject id => exact { h with projects := Table.forall_values_erase h.projects }
  | insertInvite invite =>
      have hnamed : invite.organizationId ≠ other := fun hname => hother (hname.symm.trans hwithin)
      exact { h with invites := Table.forall_values_insert h.invites hnamed }
  | deleteInvite id => exact { h with invites := Table.forall_values_erase h.invites }

/-- A call brings nothing of an organization back of which nothing is left. -/
theorem Forgotten.perform (h : store.Forgotten organizationId) (hstore : store.Filed)
    (registry : Registry) (call : Call) :
    ((service registry).perform call store).state.Forgotten organizationId := by
  have hother := hstore.organizationId?_ne_of_gone h.organization call.organization
  rcases hstore.perform_elsewhere registry hother with
    hstate | ⟨named, agenda, hne, hplan, hstate⟩
  · rw [hstate]
    exact h
  · rw [hstate]
    exact (hplan.each_within hstore).state_carryOutAll
      (R := fun after before => before.Forgotten organizationId → after.Forgotten organizationId)
      (fun _ hbefore => hbefore) (fun hlast hfirst hbefore => hlast (hfirst hbefore))
      (fun hwithin hattempt hbefore => hwithin.forgotten hattempt hne hbefore) h

/-- An organization that is forgotten is not remembered by a run of calls. -/
theorem Forgotten.runState (h : store.Forgotten organizationId) (hstore : store.Reachable)
    (registry : Registry) (calls : List Call) :
    ((service registry).runState store calls).Forgotten organizationId :=
  hstore.runState_of_perform (P := fun store => store.Forgotten organizationId)
    (fun hstore h call => h.perform hstore.filed registry call) h calls

/-! ## Who asks for it -/

/-- Nobody has a membership in what does not exist. -/
theorem resolveMembership_byId_of_gone (hgone : store.organizations.get? organizationId = none)
    (userId : Uuid) : store.resolveMembership userId (.byId organizationId) = none := by
  have hid : store.organizationId? (.byId organizationId) = none := by
    rw [organizationId?, Table.contains, hgone]
    rfl
  rw [resolveMembership_eq, hid]
  rfl

/-- Whoever calls on an organization that is gone is told to be no member, and nothing else is
done. -/
theorem perform_of_gone (registry : Registry)
    (hgone : store.organizations.get? organizationId = none)
    (hnamed : call.organization = .byId organizationId) :
    (service registry).perform call store =
      ⟨.error (.notMember organizationId.text), store,
        [.notMember call.actor (.byId organizationId)]⟩ := by
  have hresolve := resolveMembership_byId_of_gone hgone call.actor
  have hverdict : registry.verdict call store = .error (.notMember organizationId.text) := by
    rw [Registry.verdict, hnamed, hresolve]
    rfl
  rw [perform_of_verdict_error hverdict, Registry.admissionEvents, hnamed, hresolve]

/-- Whoever asks what he may do in an organization that is gone is told to be no member. -/
theorem abilityFor_of_gone (registry : Registry)
    (hgone : store.organizations.get? organizationId = none) (actor : Uuid) :
    (service registry).abilityFor actor (.byId organizationId) store =
      ⟨.error (.notMember organizationId.text), store,
        [.notMember actor (.byId organizationId)]⟩ := by
  rw [Registry.abilityFor_apply, resolveMembership_byId_of_gone hgone]
  rfl

end Store

/-- A shutdown is complete and final, whatever the registry. When it succeeds nothing is left of the
organization, and what belongs to any other is as it was. That stays so through every run of calls,
by any users, on any organizations and with any arguments: the organization does not come back, no
record names it, and every call on it by its identifier, just as the question what a user may do
there, is answered that the user is not a member and changes nothing. -/
theorem shutdown_is_final (registry : Registry) {store : Store} (hstore : store.Reachable)
    {closing : Call} {organizationId : Uuid}
    (hclosing : closing.Closes registry store organizationId) :
    let closed := ((Store.service registry).perform closing store).state
    closed.Forgotten organizationId ∧
    (∀ other, other ≠ organizationId → closed.SameSlice store other) ∧
    ∀ calls : List Call,
      let now := (Store.service registry).runState closed calls
      now.Forgotten organizationId ∧
      (∀ call : Call, call.organization = .byId organizationId →
        (Store.service registry).perform call now =
          ⟨.error (.notMember organizationId.text), now,
            [.notMember call.actor (.byId organizationId)]⟩) ∧
      ∀ actor, (Store.service registry).abilityFor actor (.byId organizationId) now =
        ⟨.error (.notMember organizationId.text), now,
          [.notMember actor (.byId organizationId)]⟩ := by
  intro closed
  have hforgotten : closed.Forgotten organizationId := by
    rw [show closed = _ from hstore.filed.state_of_closes hclosing]
    exact hstore.filed.forgotten_withoutOrganization organizationId
  refine ⟨hforgotten, ?_, ?_⟩
  · intro other hother
    refine hstore.filed.sameSlice_perform registry ?_ ?_
    · rw [Call.IsFresh, hclosing.request]
      trivial
    · rw [hclosing.named]
      exact fun hsame => hother (Option.some.inj hsame).symm
  · intro calls now
    have hnow : now.Forgotten organizationId :=
      hforgotten.runState (hstore.perform registry closing) registry calls
    refine ⟨hnow, ?_, ?_⟩
    · intro call hnamed
      exact Store.perform_of_gone registry hnow.organization hnamed
    · intro actor
      exact Store.abilityFor_of_gone registry hnow.organization actor

/-! ## An end and what follows -/

/-- An admin who is not the owner closes an organization by its slug. -/
def farewell : Call :=
  { trespass with
    actor := .ofNat 12
    organization := .bySlug "acme"
    request := .shutdownOrganization }

/-- Then the other organization takes the slug, and its admin invites somebody there; the owner of
the closed one makes a project in it, and a member of it removes his. -/
def aftermath : List Call :=
  [{ farewell with
      actor := .ofNat 14
      organization := .byId (.ofNat 2)
      request := .updateOrganization ⟨none, some "acme", none⟩ },
    { farewell with actor := .ofNat 14, request := .createInvite "kim@example.com" .member },
    { trespass with request := .createProject ⟨"Shop", "shop", none⟩ },
    { trespass with actor := .ofNat 13, request := .deleteProject (.ofNat 21) }]

/-- Nothing is left of the closed organization then, and its former owner is no member of it. -/
theorem forgotten_aftermath :
    Store.neighbours.Reachable ∧ farewell.Closes .standard Store.neighbours (.ofNat 1) ∧
      let closed := ((Store.service .standard).perform farewell Store.neighbours).state
      let now := (Store.service .standard).runState closed aftermath
      closed.SameSlice Store.neighbours (.ofNat 2) ∧ now.Forgotten (.ofNat 1) ∧
        now.organizationId? (.bySlug "acme") = some (.ofNat 2) ∧
        ((Store.service .standard).perform trespass now).result =
          .error (.notMember (Uuid.ofNat 1).text) := by
  have hclosing : farewell.Closes .standard Store.neighbours (.ofNat 1) :=
    ⟨rfl, by decide, by decide⟩
  obtain ⟨-, hothers, hlater⟩ :=
    shutdown_is_final .standard Store.reachable_neighbours hclosing
  obtain ⟨hforgotten, hrefused, -⟩ := hlater aftermath
  refine ⟨Store.reachable_neighbours, hclosing, hothers _ (by decide), hforgotten,
    by decide, ?_⟩
  rw [hrefused trespass rfl]

end OrgAccess
