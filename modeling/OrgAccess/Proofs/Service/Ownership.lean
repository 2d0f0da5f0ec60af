import OrgAccess.Proofs.Service.Isolation

/-!
# Owners keep their organizations

With the standard roles an organization and the list of its members change by calls of its owner
alone, but for an admin who shuts the organization down. `Filed.sameOrganization_of_not_owner` says
so of one call and `owner_protected` of every run of calls by others, successful or not, on this
organization and on any other. What is gone stays gone (`Reachable.sameOrganization_of_gone`).
-/

namespace OrgAccess

/-- A call shuts an organization down: it names the organization, its actor is an admin there, and
it succeeds. -/
structure Call.ShutsDown (call : Call) (store : Store) (organizationId : Uuid) : Prop where
  request : call.request = .shutdownOrganization
  named : store.organizationId? call.organization = some organizationId
  admin : store.HasRole organizationId call.actor .admin
  succeeds : ((Store.service .standard).perform call store).result = .ok .done

namespace Store

variable {store : Store} {call : Call} {organization : Organization} {organizationId : Uuid}

/-! ## One call -/

/-- A call by another than the owner leaves an organization and its members as they were, or it is
an admin's who shuts it down. -/
theorem Filed.sameOrganization_of_not_owner (hstore : store.Filed)
    (hget : store.organizations.get? organizationId = some organization)
    (hactor : call.actor ≠ organization.ownerId) :
    ((service .standard).perform call store).state.SameOrganization store organizationId ∨
      call.ShutsDown store organizationId ∧
        ((service .standard).perform call store).state.organizations.get? organizationId =
          none := by
  by_cases hnamed : store.organizationId? call.organization = some organizationId
  · rcases hstore.perform_standard_cases hnamed with
      hstate | ⟨found, role, agenda, -, hother, hrole, hallowed, hplan, hresult, hstate⟩
    · rw [hstate]
      exact .inl (.refl store organizationId)
    · obtain rfl := Option.some.inj (hget.symm.trans hother)
      cases hplan with
      | updateNothing hrequest _ _ | updateOrganization hrequest _ _
      | transferOwnership hrequest _ _ =>
          -- these are left to the owner
          rw [hrequest] at hallowed
          exact absurd (not_not.1 hallowed).2 hactor
      | @shutdownOrganization removed hrequest hremoved =>
          rw [hrequest] at hallowed
          obtain rfl : role = .admin := not_not.1 hallowed
          have hkey : removed.id = organizationId := hstore.organizations _ _ hremoved
          have hattempt : store.attempt (.deleteOrganization removed.id) =
              .ok (store.withoutOrganization removed.id) :=
            deleteOrganization_eq_ok_iff.2 ⟨⟨removed, hkey ▸ hremoved⟩, rfl⟩
          rw [Agenda.carryOut_write hattempt] at hresult hstate
          refine .inr ⟨⟨hrequest, hnamed, hrole, hresult⟩, ?_⟩
          rw [hstate, hkey]
          exact Table.get?_erase_self
      | getBilling _ _ | listInvites _ =>
          rw [hstate]
          exact .inl (.refl store organizationId)
      | createProject _ _ | updateProject _ _ | deleteProject _ _ | createInvite _ _ _
      | revokeInvite _ _ =>
          -- these are about projects and invites
          rw [hstate]
          refine .inl (Agenda.Each.state_carryOutAll
            (P := fun _ command => command.SparesOrganizations)
            (R := fun after before => after.SameOrganization before organizationId)
            (Agenda.each_write trivial) (.refl · organizationId) SameOrganization.trans ?_)
          exact Command.SparesOrganizations.sameOrganization
  · exact .inl (hstore.sameOrganization_perform .standard hnamed)

/-! ## Runs -/

/-- An organization that does not exist is not made by calls, nor are its members changed. -/
theorem Reachable.sameOrganization_of_gone (hstore : store.Reachable) (registry : Registry)
    (hgone : store.organizations.get? organizationId = none) (calls : List Call) :
    ((service registry).runState store calls).SameOrganization store organizationId := by
  induction calls generalizing store with
  | nil => exact .refl store organizationId
  | cons call rest ih =>
      have hother := hstore.filed.organizationId?_ne_of_gone hgone call.organization
      have hstep := hstore.filed.sameOrganization_perform registry hother
      exact (ih (hstore.perform registry call) (hstep.organization.trans hgone)).trans hstep

/-- After a run of calls by others than the owner an organization and its members are as they were,
or an admin has shut it down on the way. -/
theorem Reachable.sameOrganization_or_shutsDown (hstore : store.Reachable)
    (hget : store.organizations.get? organizationId = some organization) {calls : List Call}
    (hactors : ∀ call ∈ calls, call.actor ≠ organization.ownerId) :
    ((service .standard).runState store calls).SameOrganization store organizationId ∨
      ((service .standard).runState store calls).organizations.get? organizationId = none ∧
        ∃ before call rest, calls = before ++ call :: rest ∧
          ((service .standard).runState store before).SameOrganization store organizationId ∧
          call.ShutsDown ((service .standard).runState store before) organizationId := by
  induction calls generalizing store with
  | nil => exact .inl (.refl store organizationId)
  | cons call rest ih =>
      have hreachable := hstore.perform .standard call
      rcases hstore.filed.sameOrganization_of_not_owner hget
        (hactors call List.mem_cons_self) with hstep | ⟨hshut, hgone⟩
      · rcases ih hreachable (hstep.organization.trans hget)
          (fun other hother => hactors other (List.mem_cons_of_mem call hother)) with
          hrest | ⟨hgone, before, last, after, rfl, hbefore, hshut⟩
        · exact .inl (hrest.trans hstep)
        · exact .inr ⟨hgone, call :: before, last, after, rfl, hbefore.trans hstep, hshut⟩
      · have hrest := hreachable.sameOrganization_of_gone .standard hgone rest
        exact .inr ⟨hrest.organization.trans hgone, [], call, rest, rfl,
          .refl store organizationId, hshut⟩

end Store

/-- Nobody but the owner changes an organization. After every step of a run of calls by others the
organization and its members are exactly what they were at the start, or an admin who was a member
has shut it down and it is gone. And whatever was done before and by whom, a call that leaves other
members or another record of an organization that exists is its owner's at that time, or it is an
admin's who shuts it down. -/
theorem owner_protected {store : Store} (hstore : store.Reachable) {organizationId : Uuid} :
    (∀ organization, store.organizations.get? organizationId = some organization →
      ∀ calls : List Call, (∀ call ∈ calls, call.actor ≠ organization.ownerId) →
        ∀ done, done <+: calls →
          let after := (Store.service .standard).runState store done
          after.SameOrganization store organizationId ∨
            after.organizations.get? organizationId = none ∧
              ∃ before call rest, done = before ++ call :: rest ∧
                ((Store.service .standard).runState store before).SameOrganization store
                  organizationId ∧
                call.ShutsDown ((Store.service .standard).runState store before)
                  organizationId) ∧
    ∀ (earlier : List Call) (call : Call) (current : Organization),
      let now := (Store.service .standard).runState store earlier
      now.organizations.get? organizationId = some current →
        ¬ ((Store.service .standard).perform call now).state.SameOrganization now
            organizationId →
          call.actor = current.ownerId ∨ call.ShutsDown now organizationId := by
  constructor
  · intro organization hget calls hactors done hdone
    exact hstore.sameOrganization_or_shutsDown hget
      fun call hcall => hactors call (hdone.subset hcall)
  · intro earlier call current now hget hchanged
    refine or_iff_not_imp_left.2 fun hactor => ?_
    have hnow : now.Reachable := hstore.runState .standard earlier
    rcases hnow.filed.sameOrganization_of_not_owner hget hactor with hsame | ⟨hshut, -⟩
    · exact absurd hsame hchanged
    · exact hshut

/-! ## An attempt to take over -/

/-- An admin who is not the owner takes an organization and renames it, a member shuts it down, and
the same member removes a project of his own. -/
def takeover : List Call :=
  [of 12 (.transferOwnership (.ofNat 12)),
    of 12 (.updateOrganization ⟨some "Mine", none, none⟩),
    of 13 .shutdownOrganization,
    of 13 (.deleteProject (.ofNat 21))]
where
  /-- A call on the first organization. -/
  of (actor : Nat) (request : Request) : Call :=
    { actor := .ofNat actor
      organization := .byId (.ofNat 1)
      request
      now := Store.sharedSlug.start
      freshId := .ofNat 41 }

/-- Only the project is gone afterwards. -/
theorem sameOrganization_takeover :
    Store.neighbours.Reachable ∧
      Store.neighbours.organizations.get? (.ofNat 1) =
        some (Store.neighbours.tenant 1 "acme" 11) ∧
      (∀ call ∈ takeover, call.actor ≠ .ofNat 11) ∧
      ((Store.service .standard).runState Store.neighbours takeover).SameOrganization
        Store.neighbours (.ofNat 1) ∧
      ((Store.service .standard).runState Store.neighbours takeover).findProject (.ofNat 1)
        (.ofNat 21) = none := by
  have hget : Store.neighbours.organizations.get? (.ofNat 1) =
      some (Store.neighbours.tenant 1 "acme" 11) := by decide
  have hactors : ∀ call ∈ takeover, call.actor ≠ .ofNat 11 := by decide
  have hthere : ((Store.service .standard).runState Store.neighbours
      takeover).organizations.get? (.ofNat 1) ≠ none := by decide
  refine ⟨Store.reachable_neighbours, hget, hactors, ?_, by decide⟩
  rcases (owner_protected Store.reachable_neighbours).1 _ hget takeover hactors takeover
    List.prefix_rfl with hsame | ⟨hgone, -⟩
  · exact hsame
  · exact absurd hgone hthere

end OrgAccess
