import OrgAccess.Proofs.Service.Effect
import OrgAccess.Proofs.Service.Ownership

/-!
# What becomes of the record of an organization

Calls make no organizations. Of one that there is, a call leaves the record as `Call.amended` says,
or the organization is gone (`Call.Effect.organization_eq_or`). A field of the record that calls
overwrite, such as the owner or the slug, is after a run of calls what was given last, or what it
was at the start (`Store.Reachable.field_runState`).
-/

namespace OrgAccess

namespace Call

variable {store after : Store} {call : Call} {organizationId : Uuid} {organization : Organization}
  {result : Except Failure Reply}

/-- What a call makes of the record of the organization that it names by what it answers, if the
organization is not gone. -/
def amended (call : Call) (organization : Organization) : Except Failure Reply → Organization
  | .error _ => organization
  | .ok _ =>
      match call.request with
      | .updateOrganization update =>
          if update.isEmpty then organization else update.apply call.now organization
      | .transferOwnership newOwner => call.transferred organization newOwner
      | _ => organization

/-- A call leaves the organization that it names with the record that it makes of it, or gone. -/
theorem Effect.organization_eq_or (h : call.Effect store organizationId result after)
    (hstore : store.Filed) (hget : store.organizations.get? organizationId = some organization) :
    after.organizations.get? organizationId = none ∨
      after.organizations.get? organizationId = some (call.amended organization result) := by
  obtain rfl : organization.id = organizationId := hstore.organizations _ _ hget
  cases h with
  | shutDown _ _ => exact .inl Store.get?_withoutOrganization
  | savedOrganization hrequest hempty hfound hnew _ =>
      obtain rfl := Option.some.inj (hget.symm.trans hfound)
      right
      simp only [amended, hrequest, hempty, hnew]
      exact Table.get?_insert_self
  | handedOver hrequest hfound _ hnew _ =>
      obtain rfl := Option.some.inj (hget.symm.trans hfound)
      right
      simp only [amended, hrequest, hnew]
      exact Table.get?_insert_self
  | stoppedHalfway _ _ _ _ _ => exact .inr hget
  | keptOrganization hrequest hempty _ =>
      right
      simp only [amended, hrequest, hempty]
      exact hget
  | madeProject hrequest _ _ | savedProject hrequest _ _ | removedProject hrequest _
  | readBilling hrequest _ | madeInvite hrequest _ _ _ | listedInvites hrequest
  | removedInvite hrequest _ =>
      right
      simp only [amended, hrequest]
      exact hget

end Call

namespace Store

variable {α : Type} {gives : Request → Except Failure Reply → Option α} {field : Organization → α}
  {registry : Registry} {store : Store} {organizationId : Uuid}

/-! ## Fields -/

/-- What a call gives the organization that it names, read off its request and the answer. -/
def given? (gives : Request → Except Failure Reply → Option α) (registry : Registry)
    (organizationId : Uuid) (store : Store) (call : Call) : Option α :=
  if store.organizationId? call.organization = some organizationId then
    gives call.request ((service registry).perform call store).result
  else none

/-- What the calls of a run give an organization, one after another. -/
def given (gives : Request → Except Failure Reply → Option α) (registry : Registry)
    (organizationId : Uuid) : Store → List Call → List α
  | _, [] => []
  | store, call :: rest =>
      (store.given? gives registry organizationId call).toList ++
        given gives registry organizationId ((service registry).perform call store).state rest

/-- Whatever is given by a run is given by a request and the answer to it. -/
theorem exists_of_mem_given {calls : List Call} {value : α}
    (h : value ∈ given gives registry organizationId store calls) :
    ∃ request result, gives request result = some value := by
  induction calls generalizing store with
  | nil => cases h
  | cons call rest ih =>
      rcases List.mem_append.1 h with hnow | hlater
      · have hgiven := (Option.ite_none_right_eq_some.1 (Option.mem_toList.1 hnow)).2
        exact ⟨_, _, hgiven⟩
      · exact ih hlater

/-- What a run gives at some point is given by one of its calls, and what is given before that by
the calls before. -/
theorem exists_of_given_eq_append {calls : List Call} {value : α} {before later : List α}
    (h : given gives registry organizationId store calls = before ++ value :: later) :
    ∃ done call rest, calls = done ++ call :: rest ∧
      before = given gives registry organizationId store done ∧
      ((service registry).runState store done).given? gives registry organizationId call =
        some value := by
  induction calls generalizing store before with
  | nil => cases before <;> cases h
  | cons call rest ih =>
      rw [given] at h
      cases hgiven : store.given? gives registry organizationId call with
      | none =>
          rw [hgiven] at h
          obtain ⟨done, next, more, rfl, rfl, hnext⟩ := ih h
          refine ⟨call :: done, next, more, rfl, ?_, hnext⟩
          rw [given, hgiven]
          rfl
      | some first =>
          rw [hgiven] at h
          cases before with
          | nil =>
              obtain ⟨rfl, -⟩ := List.cons.inj h
              exact ⟨[], call, rest, rfl, rfl, hgiven⟩
          | cons head tail =>
              obtain ⟨rfl, htail⟩ := List.cons.inj h
              obtain ⟨done, next, more, rfl, rfl, hnext⟩ := ih htail
              refine ⟨call :: done, next, more, rfl, ?_, hnext⟩
              rw [given, hgiven]
              rfl

/-- A field of the record is overwritten by what requests give and by nothing else. -/
def Overwrites (gives : Request → Except Failure Reply → Option α) (field : Organization → α) :
    Prop :=
  ∀ (call : Call) (organization : Organization) (result : Except Failure Reply),
    field (call.amended organization result) =
      (gives call.request result).getD (field organization)

/-- A call leaves a field of an organization as it was or as the call gives it, or the organization
is gone. -/
theorem Filed.field_perform (hstore : store.Filed) (hfield : Overwrites gives field)
    (registry : Registry) (call : Call) (organizationId : Uuid) :
    let after := ((service registry).perform call store).state
    after.organizations.get? organizationId = none ∨
      (after.organizations.get? organizationId).map field =
        (store.given? gives registry organizationId call).or
          ((store.organizations.get? organizationId).map field) := by
  intro after
  unfold given?
  by_cases hnamed : store.organizationId? call.organization = some organizationId
  · obtain ⟨organization, hget⟩ := hstore.get?_of_organizationId? hnamed
    have hsome : ∀ result : Except Failure Reply,
        some (field (call.amended organization result)) =
          (gives call.request result).or (some (field organization)) := fun result =>
      (congrArg some (hfield call organization result)).trans Option.or_some.symm
    rw [if_pos hnamed, hget]
    rcases hstore.settles_perform registry hnamed with ⟨failure, hresult, hstate⟩ | heffect
    · right
      rw [hresult, show after = store from hstate, hget]
      exact hsome (.error failure)
    · refine (heffect.organization_eq_or hstore hget).imp_right fun hkept => ?_
      rw [show after.organizations.get? organizationId = _ from hkept]
      exact hsome _
  · right
    rw [if_neg hnamed, show after.organizations.get? organizationId = _ from
      (hstore.sameOrganization_perform registry hnamed).organization]
    rfl

/-- After a run of calls a field of an organization is what was given last, or what it was at the
start if nothing was given, or the organization is gone. -/
theorem Reachable.field_runState (hstore : store.Reachable) (hfield : Overwrites gives field)
    (registry : Registry) (calls : List Call) (organizationId : Uuid) :
    let after := (service registry).runState store calls
    after.organizations.get? organizationId = none ∨
      (after.organizations.get? organizationId).map field =
        (given gives registry organizationId store calls).getLast?.or
          ((store.organizations.get? organizationId).map field) := by
  induction calls generalizing store with
  | nil => exact .inr rfl
  | cons call rest ih =>
      have hreachable := hstore.perform registry call
      rcases hstore.filed.field_perform hfield registry call organizationId with hgone | hstep
      · have hrest := hreachable.sameOrganization_of_gone registry hgone rest
        exact .inl (hrest.organization.trans hgone)
      · -- what is given later comes after what this call gives
        refine (ih hreachable).imp_right fun hrest => ?_
        have hlast : (store.given? gives registry organizationId call).toList.getLast? =
            store.given? gives registry organizationId call := by
          cases store.given? gives registry organizationId call <;> rfl
        rw [given, List.getLast?_append, hlast, Option.or_assoc, ← hstep]
        exact hrest

/-- An organization that there is after a run of calls was there at the start, and a field of its
record is what was given last or what it was. -/
theorem Reachable.field_eq_getLastD (hstore : store.Reachable) (hfield : Overwrites gives field)
    {calls : List Call} {current : Organization}
    (hcurrent : ((service registry).runState store calls).organizations.get? organizationId =
      some current) :
    ∃ first, store.organizations.get? organizationId = some first ∧
      field current = (given gives registry organizationId store calls).getLastD (field first) := by
  cases hfirst : store.organizations.get? organizationId with
  | none =>
      have hsame := hstore.sameOrganization_of_gone registry hfirst calls
      cases hcurrent.symm.trans (hsame.organization.trans hfirst)
  | some first =>
      refine ⟨first, rfl, ?_⟩
      rcases hstore.field_runState hfield registry calls organizationId with hgone | hlast
      · cases hcurrent.symm.trans hgone
      · rw [hcurrent, hfirst] at hlast
        rw [List.getLastD_eq_getLast?]
        exact Option.some.inj (hlast.trans Option.or_some)

end Store

end OrgAccess
