import OrgAccess.Proofs.Service.Management

/-!
# Whose account is billed

A billing account has an owner of its own, beside that of the organization. No call writes it
(`Reachable.findBilling_runState`), while every transfer of ownership writes the other
(`Reachable.owner?_runState`). So the account that a call reads has the owner that the organization
had at the start of the run, and that is its owner when the account is read only if there was no
transfer or the last has led back (`account_of_first_owner`).
-/

namespace OrgAccess

namespace Store

variable {registry : Registry} {store : Store} {call : Call} {organizationId : Uuid}

/-- There is no owner exactly when there is no organization. -/
theorem owner?_eq_none_iff :
    store.owner? organizationId = none ↔ store.organizations.get? organizationId = none :=
  Option.map_eq_none_iff

/-- Every billing account of an organization has the owner of the organization. -/
def BillsOwners (store : Store) : Prop :=
  ∀ organizationId organization account,
    store.organizations.get? organizationId = some organization →
      store.findBilling organizationId = some account → account.ownerId = organization.ownerId

/-- The users whom a run of calls makes the owner of an organization, one after another. -/
def heirs (registry : Registry) (organizationId : Uuid) : Store → List Call → List Uuid :=
  given Request.heir? registry organizationId

/-! ## One call -/

/-- A call leaves an organization with the account that it had, or gone. -/
theorem Filed.findBilling_perform (hstore : store.Filed) (registry : Registry) (call : Call)
    (organizationId : Uuid) :
    ((service registry).perform call store).state.findBilling organizationId =
        store.findBilling organizationId ∨
      ((service registry).perform call store).state.organizations.get? organizationId = none := by
  rcases hstore.perform_effect registry call with ⟨failure, -, hstate⟩ | ⟨named, -, heffect⟩
  · rw [hstate]
    exact .inl rfl
  · exact heffect.findBilling_eq_or organizationId

/-- The answer with a billing account is given by reading it, and nothing is changed. -/
theorem Filed.findBilling_of_reply (hstore : store.Filed) {account : BillingAccount}
    (h : ((service registry).perform call store).result = .ok (.billing account)) :
    call.request = .getBilling ∧ ∃ organizationId,
      store.organizationId? call.organization = some organizationId ∧
        store.findBilling organizationId = some account := by
  obtain ⟨organizationId, hnamed, heffect⟩ := hstore.effect_of_ok h
  generalize ((service registry).perform call store).state = after at heffect
  cases heffect with
  | readBilling hrequest hfind => exact ⟨hrequest, organizationId, hnamed, hfind⟩

/-! ## Runs -/

/-- A run of calls leaves an organization with the account that it had, or gone. -/
theorem Reachable.findBilling_runState (hstore : store.Reachable) (registry : Registry)
    (calls : List Call) (organizationId : Uuid) :
    ((service registry).runState store calls).findBilling organizationId =
        store.findBilling organizationId ∨
      ((service registry).runState store calls).organizations.get? organizationId = none := by
  induction calls generalizing store with
  | nil => exact .inl rfl
  | cons call rest ih =>
      have hreachable := hstore.perform registry call
      rcases hstore.filed.findBilling_perform registry call organizationId with hstep | hgone
      · exact (ih hreachable).imp_left fun hrest => hrest.trans hstep
      · have hrest := hreachable.sameOrganization_of_gone registry hgone rest
        exact .inr (hrest.organization.trans hgone)

/-- A run of calls leaves an organization to the last whom it is handed to, or gone. -/
theorem Reachable.owner?_runState (hstore : store.Reachable) (registry : Registry)
    (calls : List Call) (organizationId : Uuid) :
    ((service registry).runState store calls).owner? organizationId = none ∨
      ((service registry).runState store calls).owner? organizationId =
        (heirs registry organizationId store calls).getLast?.or (store.owner? organizationId) := by
  rw [owner?_eq_none_iff, heirs]
  exact hstore.field_runState Call.overwrites_ownerId registry calls organizationId

end Store

/-- A billing account that is read has the owner that the organization had at the start. If the
accounts are their organizations' owners' at the start, and the last of a run of calls answers with
an account, then with any registry this is the account that the organization had at the start, with
the owner that it had. The organization itself has the owner whom the run has handed it to last. So
the account has the owner of the organization at the time of reading if nobody was made the owner
on the way or the last who was is the first owner, and otherwise it has not. -/
theorem account_of_first_owner (registry : Registry) {store : Store} (hstore : store.Reachable)
    (howners : store.BillsOwners) (calls : List Call) (call : Call) {account : BillingAccount} :
    let now := (Store.service registry).runState store calls
    ((Store.service registry).perform call now).result = .ok (.billing account) →
      call.request = .getBilling ∧ ∃ first current,
        now.findOrganization call.organization = some current ∧
        store.organizations.get? current.id = some first ∧
        store.findBilling current.id = some account ∧
        account.ownerId = first.ownerId ∧
        let heirs := Store.heirs registry current.id store calls
        current.ownerId = heirs.getLastD first.ownerId ∧
        (account.ownerId = current.ownerId ↔ ∀ heir ∈ heirs.getLast?, heir = first.ownerId) := by
  intro now hreply
  have hnow : now.Reachable := hstore.runState registry calls
  obtain ⟨hrequest, organizationId, hnamed, hfind⟩ := hnow.filed.findBilling_of_reply hreply
  obtain ⟨current, hcurrent⟩ := hnow.filed.get?_of_organizationId? hnamed
  obtain rfl : current.id = organizationId := hnow.filed.organizations _ _ hcurrent
  have hpresent : now.organizations.get? current.id ≠ none := by
    rw [hcurrent]
    exact Option.some_ne_none current
  have haccount : store.findBilling current.id = some account :=
    ((hstore.findBilling_runState registry calls current.id).resolve_right hpresent).symm.trans
      hfind
  cases hfirst : store.organizations.get? current.id with
  | none =>
      -- what is gone at the start is gone when the account is read
      have hsame := hstore.sameOrganization_of_gone registry hfirst calls
      exact absurd (hsame.organization.trans hfirst) hpresent
  | some first =>
      have howner : account.ownerId = first.ownerId := howners _ _ _ hfirst haccount
      have hlast : current.ownerId =
          (Store.heirs registry current.id store calls).getLastD first.ownerId := by
        have hrun := (hstore.owner?_runState registry calls current.id).resolve_left
          (mt Store.owner?_eq_none_iff.1 hpresent)
        rw [Store.owner?, hcurrent, Store.owner?, hfirst] at hrun
        rw [List.getLastD_eq_getLast?]
        exact Option.some.inj (hrun.trans Option.or_some)
      refine ⟨hrequest, first, current, ?_, hfirst, haccount, howner, hlast, ?_⟩
      · exact hnow.filed.findOrganization_eq_some_iff.2 ⟨hnamed, hcurrent⟩
      · rw [howner, hlast, List.getLastD_eq_getLast?]
        cases (Store.heirs registry current.id store calls).getLast? with
        | none => simp
        | some heir => simp [eq_comm]

/-! ## An organization that changes hands -/

namespace Store

/-- In the first of the two organizations the account is the owner's, and the second has none. -/
theorem billsOwners_neighbours : neighbours.BillsOwners := by
  have hbilling : ∀ id, neighbours.findBilling id =
      if id = .ofNat 1 then some ⟨.ofNat 1, .ofNat 11, .free, none⟩ else none :=
    fun id => Table.get?_insert _ _ id _
  have hget : neighbours.organizations.get? (.ofNat 1) = some (neighbours.tenant 1 "acme" 11) := by
    decide
  intro organizationId organization account horganization haccount
  rw [hbilling] at haccount
  split at haccount
  · next hid =>
    rw [hid, hget] at horganization
    obtain rfl := Option.some.inj horganization
    obtain rfl := Option.some.inj haccount
    rfl
  · cases haccount

end Store

/-- The owner of an organization hands it to the other admin. -/
def sale : Call :=
  { handOver with request := .transferOwnership (.ofNat 12) }

/-- The other admin hands it back. -/
def repurchase : Call :=
  { handOver with actor := .ofNat 12, request := .transferOwnership (.ofNat 11) }

/-- The other admin reads the billing account. -/
def inspection : Call :=
  { handOver with actor := .ofNat 12, request := .getBilling }

/-- The account that is read after the one transfer has the owner who was before. -/
theorem stale_account :
    Store.neighbours.Reachable ∧ Store.neighbours.BillsOwners ∧
      let now := (Store.service .standard).runState Store.neighbours [sale]
      ((Store.service .standard).perform inspection now).result =
          .ok (.billing ⟨.ofNat 1, .ofNat 11, .free, none⟩) ∧
        now.owner? (.ofNat 1) = some (.ofNat 12) ∧ Uuid.ofNat 11 ≠ .ofNat 12 :=
  ⟨Store.reachable_neighbours, Store.billsOwners_neighbours, by decide,
    by decide, by decide⟩

/-- The account that is read after both has the owner of the organization. -/
theorem account_of_returned_owner :
    Store.neighbours.Reachable ∧ Store.neighbours.BillsOwners ∧
      let now := (Store.service .standard).runState Store.neighbours [sale, repurchase]
      ((Store.service .standard).perform inspection now).result =
          .ok (.billing ⟨.ofNat 1, .ofNat 11, .free, none⟩) ∧
        ∃ current, now.findOrganization inspection.organization = some current ∧
          current.ownerId = .ofNat 11 := by
  have hreachable := Store.reachable_neighbours
  have howners := Store.billsOwners_neighbours
  have hreply : ((Store.service .standard).perform inspection ((Store.service .standard).runState
      Store.neighbours [sale, repurchase])).result =
        .ok (.billing ⟨.ofNat 1, .ofNat 11, .free, none⟩) := by decide
  have hnamed : ((Store.service .standard).runState Store.neighbours
      [sale, repurchase]).organizationId? inspection.organization = some (.ofNat 1) := by
    decide
  have hheirs : Store.heirs .standard (.ofNat 1) Store.neighbours [sale, repurchase] =
      [.ofNat 12, .ofNat 11] := by decide
  obtain ⟨-, first, current, hcurrent, -, -, howner, -, hiff⟩ :=
    account_of_first_owner .standard hreachable howners [sale, repurchase] inspection hreply
  have hnow := (hreachable.runState .standard [sale, repurchase]).filed
  have hid : Uuid.ofNat 1 = current.id := Option.some.inj
    (hnamed.symm.trans (hnow.findOrganization_eq_some_iff.1 hcurrent).1)
  rw [← hid, hheirs] at hiff
  refine ⟨hreachable, howners, hreply, current, hcurrent, (hiff.2 ?_).symm⟩
  intro heir hheir
  obtain rfl := Option.some.inj hheir
  exact howner

end OrgAccess
