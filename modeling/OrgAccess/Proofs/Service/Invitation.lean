import OrgAccess.Proofs.Service.Plan

/-!
# Making an invite

What comes of asking for an invite, once the actor's ability allows it. The seats of the plan are
looked at first (`Store.Full`), the address next (`Store.Invited`), and if neither is in the way the
invite is filed. `invite_exact` says so for every registry, in this order: a full organization
refuses an address as full, whether it is invited or not.
-/

namespace OrgAccess

namespace Store

variable {store : Store} {organizationId : Uuid} {account : BillingAccount}

/-! ## Seats -/

/-- The members and pending invites of an organization take all seats of its plan. -/
structure Full (store : Store) (organizationId : Uuid) (account : BillingAccount) : Prop where
  found : store.findBilling organizationId = some account
  taken : ∃ limit, account.plan.seatLimit? = some limit ∧ limit ≤ store.seatCount organizationId

/-- A seat fits exactly as long as the organization is not full. -/
theorem full_iff (hfound : store.findBilling organizationId = some account) :
    store.Full organizationId account ↔
      account.hasSeatFor (store.seatCount organizationId) = false := by
  refine ⟨fun h => ?_, fun h => ⟨hfound, ?_⟩⟩
  · obtain ⟨limit, hlimit, hle⟩ := h.taken
    simp [BillingAccount.hasSeatFor, hlimit, hle]
  · unfold BillingAccount.hasSeatFor at h
    split at h
    · next limit hlimit => exact ⟨limit, hlimit, by simpa using h⟩
    · cases h

/-- In a full organization there is no free seat. -/
theorem Full.freeSeat_eq (h : store.Full organizationId account)
    (hcount : store.seatCount organizationId < seatCountLimit) :
    store.freeSeat organizationId =
      .error (.conflict (.noFreeSeat account.plan (store.seatCount organizationId))) := by
  have hseats : store.seatsInUse organizationId = .ok (store.seatCount organizationId) :=
    if_pos hcount
  have hnone := (full_iff h.found).1 h
  simp [freeSeat, h.found, hseats, hnone]

/-- In any other there is one. -/
theorem freeSeat_eq_ok (h : ∀ account, ¬ store.Full organizationId account)
    (hcount : store.seatCount organizationId < seatCountLimit) :
    store.freeSeat organizationId = .ok () := by
  have hseats : store.seatsInUse organizationId = .ok (store.seatCount organizationId) :=
    if_pos hcount
  unfold freeSeat
  cases hfound : store.findBilling organizationId with
  | none => rfl
  | some account =>
      have hfits := (not_congr (full_iff hfound)).1 (h account)
      simp [hseats, hfits]

end Store

/-! ## An invite that is allowed -/

/-- The invite that a call asks for. -/
def Call.invitation (call : Call) (organizationId : Uuid) (email : String) (role : Role) : Invite :=
  { id := call.freshId
    organizationId
    email := Invite.normalEmail email
    role
    authorId := call.actor
    createdAt := call.now }

namespace Store

variable {registry : Registry} {store : Store} {call : Call} {authorized : Authorized}
  {email : String} {role : Role}

/-- A call for an invite that is allowed needs a free seat first and then an address that is not
invited. -/
theorem perform_createInvite (hrequest : call.request = .createInvite email role)
    (hability : ((service registry).abilityFor call.actor call.organization store).result =
      .ok authorized)
    (hallowed : authorized.ability.can .create
      (.record (call.invitation authorized.membership.organizationId email role).subject) = true) :
    let outcome := (service registry).perform call store
    let invite := call.invitation authorized.membership.organizationId email role
    (outcome.result, outcome.state) =
      match store.freeSeat authorized.membership.organizationId with
      | .error failure => (.error failure, store)
      | .ok _ =>
          if store.Invited authorized.membership.organizationId invite.email then
            (.error (.conflict (.alreadyInvited invite.email)), store)
          else
            (.ok (.invite invite),
              { store with invites := store.invites.insert invite.id invite }) := by
  obtain ⟨actor, reference, request, now, freshId⟩ := call
  obtain rfl : request = .createInvite email role := hrequest
  intro outcome invite
  have hadmitted : registry.verdict
      ⟨actor, reference, .createInvite email role, now, freshId⟩ store =
        .ok ⟨authorized, .new freshId _ email role actor now⟩ :=
    Registry.verdict_of_abilityFor hability rfl hallowed
  have hfile : store.attempt (.insertInvite invite) = _ := store.insertInvite_eq invite
  rw [show outcome.result = _ from (perform_of_verdict_ok hadmitted).1,
    show outcome.state = _ from (perform_of_verdict_ok hadmitted).2]
  simp only [Call.serve, Call.agenda, Call.agendaFor]
  cases store.freeSeat authorized.membership.organizationId with
  | error failure => rfl
  | ok _ =>
      dsimp only [Except.map]
      by_cases hinvited : store.Invited authorized.membership.organizationId invite.email
      · rw [if_pos hinvited]
        obtain ⟨hresult, hstate⟩ := Agenda.write_refused (hfile.trans (if_pos hinvited))
        exact Prod.ext hresult hstate
      · rw [if_neg hinvited]
        obtain ⟨hresult, hstate⟩ := Agenda.write_done (hfile.trans (if_neg hinvited))
        exact Prod.ext hresult hstate

end Store

/-- Asking for an invite, whatever the registry, once the actor's ability in an organization allows
the invite to be made. If the plan of the organization has no seat left, the answer is a conflict
over the seat, whether the address is invited or not; if it has one and the address, without blanks
and in lower case, is invited, it is a conflict over the address; in both cases nothing changes.
Else the invite is made, for the organization, with that address, the role that is asked for and the
actor as its author, and the store has it beside all that it had. An organization without a billing
account is never full. Seats are taken to be countable, and the identifier of the invite to be
fresh. -/
theorem invite_exact (registry : Registry) {store : Store} (call : Call) {email : String}
    {role : Role} (hrequest : call.request = .createInvite email role) {authorized : Authorized}
    (hability : ((Store.service registry).abilityFor call.actor call.organization store).result =
      .ok authorized)
    (hallowed : authorized.ability.can .create
      (.record (call.invitation authorized.membership.organizationId email role).subject) = true)
    (hcount : store.seatCount authorized.membership.organizationId < Store.seatCountLimit)
    (hfresh : store.invites.get? call.freshId = none) :
    let organizationId := authorized.membership.organizationId
    let seats := store.seatCount organizationId
    let invite : Invite :=
      { id := call.freshId
        organizationId
        email := Invite.normalEmail email
        role
        authorId := call.actor
        createdAt := call.now }
    let outcome := (Store.service registry).perform call store
    (∀ account, store.Full organizationId account →
      outcome.result = .error (.conflict (.noFreeSeat account.plan seats)) ∧
        outcome.state = store) ∧
    ((∀ account, ¬ store.Full organizationId account) →
      (store.Invited organizationId invite.email →
        outcome.result = .error (.conflict (.alreadyInvited invite.email)) ∧
          outcome.state = store) ∧
      (¬ store.Invited organizationId invite.email →
        outcome.result = .ok (.invite invite) ∧
          outcome.state = { store with invites := store.invites.insert invite.id invite } ∧
          outcome.state.invites.values = store.invites.values ++ [invite])) ∧
    (store.findBilling organizationId = none → ∀ plan taken,
      outcome.result ≠ .error (.conflict (.noFreeSeat plan taken))) := by
  intro organizationId seats invite outcome
  have houtcome : (outcome.result, outcome.state) = _ :=
    Store.perform_createInvite hrequest hability hallowed
  refine ⟨?_, ?_, ?_⟩
  · intro account hfull
    apply Prod.mk.inj
    rw [houtcome, hfull.freeSeat_eq hcount]
  · intro hroom
    rw [Store.freeSeat_eq_ok hroom hcount] at houtcome
    constructor
    · intro hinvited
      exact Prod.mk.inj (houtcome.trans (if_pos hinvited))
    · intro hnew
      obtain ⟨hresult, hstate⟩ := Prod.mk.inj (houtcome.trans (if_neg hnew))
      refine ⟨hresult, hstate, ?_⟩
      rw [hstate]
      exact Table.values_insert_of_not_mem hfresh invite
  · intro hnone plan taken hresult
    have hroom : ∀ account, ¬ store.Full organizationId account := by
      intro account hfull
      cases hnone.symm.trans hfull.found
    rw [Store.freeSeat_eq_ok hroom hcount, hresult] at houtcome
    by_cases hinvited : store.Invited organizationId invite.email
    · cases congrArg Prod.fst (houtcome.trans (if_pos hinvited))
    · cases congrArg Prod.fst (houtcome.trans (if_neg hinvited))

/-! ## A full organization is asked for a seat -/

/-- Five members and invites fill the free plan. -/
def Store.crowded : Store :=
  neighbours.addMembership (neighbours.seat 1 15 .billing)

/-- The store whose seats are taken is reachable. -/
theorem Store.reachable_crowded : crowded.Reachable :=
  .step (.addMembership (neighbours.seat 1 15 .billing)) reachable_neighbours rfl

/-- An address that is invited is asked for again, with blanks and capitals, where no seat is left:
the conflict is over the seat. -/
theorem full_crowded :
    let call : Call :=
      { actor := .ofNat 11
        organization := .bySlug "acme"
        request := .createInvite "  Jane@Example.COM " .billing
        now := Store.sharedSlug.start
        freshId := .ofNat 41 }
    let authorized : Authorized :=
      ⟨⟨.ofNat 11, .ofNat 1, .admin⟩, Registry.abilityOf .admin (.ofNat 11) .admin⟩
    let outcome := (Store.service .standard).perform call Store.crowded
    Store.crowded.Reachable ∧
      ((Store.service .standard).abilityFor call.actor call.organization Store.crowded).result =
        .ok authorized ∧
      authorized.ability.can .create (.record (call.invitation (.ofNat 1)
        "  Jane@Example.COM " .billing).subject) = true ∧
      Store.crowded.seatCount (.ofNat 1) = 5 ∧
      Store.crowded.Full (.ofNat 1) ⟨.ofNat 1, .ofNat 11, .free, none⟩ ∧
      Store.crowded.Invited (.ofNat 1) (Invite.normalEmail "  Jane@Example.COM ") ∧
      outcome.result = .error (.conflict (.noFreeSeat .free 5)) ∧
      outcome.state = Store.crowded := by
  intro call authorized outcome
  have hability : ((Store.service .standard).abilityFor call.actor call.organization
      Store.crowded).result = .ok authorized := rfl
  have hallowed : authorized.ability.can .create (.record (call.invitation (.ofNat 1)
      "  Jane@Example.COM " .billing).subject) = true := by decide
  have hseats : Store.crowded.seatCount (.ofNat 1) = 5 := by decide
  have hfull : Store.crowded.Full (.ofNat 1) ⟨.ofNat 1, .ofNat 11, .free, none⟩ :=
    ⟨by decide, 5, rfl, Nat.le_of_eq hseats.symm⟩
  have hinvited : Store.crowded.Invited (.ofNat 1)
      (Invite.normalEmail "  Jane@Example.COM ") := by decide
  have hcount : Store.crowded.seatCount (.ofNat 1) < Store.seatCountLimit := by
    rw [hseats]
    decide
  obtain ⟨hresult, hstate⟩ := (invite_exact .standard call rfl hability hallowed hcount
    (by decide)).1 _ hfull
  rw [hseats] at hresult
  exact ⟨Store.reachable_crowded, hability, hallowed, hseats, hfull, hinvited, hresult, hstate⟩

end OrgAccess
