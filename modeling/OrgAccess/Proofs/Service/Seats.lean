import OrgAccess.Proofs.Service.Effect
import OrgAccess.Proofs.Service.Isolation
import OrgAccess.Proofs.Store.Seats

/-!
# The seats of a plan

An invite is made only where the plan has a seat left, and nothing else that a call can do takes a
seat (`Request.ChangesSeats`). So no run of calls takes more seats than the plan has, unless they
were taken before (`seats_capped`). Two things could undo the limit on the way, and neither does:
the billing account is what it was for as long as the organization is there, and an organization
that is gone stays gone.
-/

namespace OrgAccess

/-- Where a plan has a limit, it is one that can be counted to. -/
theorem Plan.lt_seatCountLimit {plan : Plan} {limit : Nat} (h : plan.seatLimit? = some limit) :
    limit < Store.seatCountLimit := by
  cases plan with
  | free | team =>
      obtain rfl := Option.some.inj h
      decide
  | enterprise => cases h

/-- What the answer to a request makes of the number of seats that are taken in the organization:
one more with an invite, one less without it, none after the end, and else as many as before. -/
def Request.ChangesSeats (request : Request) :
    Except Failure Reply → (before after : Nat) → Prop
  | .error _, before, after => after = before
  | .ok _, before, after =>
      match request with
      | .createInvite _ _ => after = before + 1
      | .revokeInvite _ => after + 1 = before
      | .shutdownOrganization => after = 0
      | _ => after = before

/-- Only an invite that is made takes another seat. -/
theorem Request.ChangesSeats.le_or {request : Request} {result : Except Failure Reply}
    {before after : Nat} (h : request.ChangesSeats result before after) :
    after ≤ before ∨ after = before + 1 ∧
      ∃ email role reply, request = .createInvite email role ∧ result = .ok reply := by
  cases result with
  | error failure => exact .inl (Nat.le_of_eq h)
  | ok reply =>
      cases request with
      | createInvite email role => exact .inr ⟨h, email, role, reply, rfl, rfl⟩
      | revokeInvite _ =>
          have hless : after + 1 = before := h
          omega
      | shutdownOrganization =>
          have hnone : after = 0 := h
          omega
      | updateOrganization _ | transferOwnership _ | createProject _ | updateProject _ _
      | deleteProject _ | getBilling | listInvites => exact .inl (Nat.le_of_eq h)

namespace Call

variable {store after : Store} {call : Call} {organizationId : Uuid}
  {result : Except Failure Reply}

/-! ## One call -/

/-- What a call does to the seats of the organization that it names. -/
theorem Effect.changesSeats (h : call.Effect store organizationId result after)
    (hfresh : call.IsFresh store) :
    call.request.ChangesSeats result (store.seatCount organizationId)
      (after.seatCount organizationId) := by
  cases h with
  | keptOrganization hrequest _ _ | savedOrganization hrequest _ _ _ _ | madeProject hrequest _ _
  | savedProject hrequest _ _ | removedProject hrequest _ | readBilling hrequest _
  | listedInvites hrequest =>
      -- neither memberships nor invites are written
      rw [hrequest]
      rfl
  | @handedOver newOwner _ _ _ hrequest _ _ _ _ =>
      rw [hrequest]
      exact Store.seatCount_setRole organizationId newOwner .admin
  | @stoppedHalfway newOwner _ _ _ _ _ _ _ =>
      exact Store.seatCount_setRole organizationId newOwner .admin
  | shutDown hrequest _ =>
      rw [hrequest]
      exact Store.seatCount_withoutOrganization
  | madeInvite hrequest hnew _ _ =>
      rw [IsFresh, hrequest] at hfresh
      rw [hrequest, hnew]
      exact Store.seatCount_insertInvite hfresh
  | removedInvite hrequest hfind =>
      rw [hrequest]
      exact Store.seatCount_eraseInvite hfind

end Call

namespace Store

variable {registry : Registry} {store : Store} {call : Call} {organizationId : Uuid}
  {account : BillingAccount} {limit bound : Nat}

/-- Where a plan has a seat left, fewer are taken than the plan has. -/
theorem seatCount_lt_of_freeSeat (h : store.freeSeat organizationId = .ok ())
    (haccount : store.findBilling organizationId = some account)
    (hlimit : account.plan.seatLimit? = some limit) :
    store.seatCount organizationId < limit := by
  unfold freeSeat seatsInUse at h
  rw [haccount] at h
  by_cases hcount : store.seatCount organizationId < seatCountLimit
  · rw [if_pos hcount] at h
    simpa [BillingAccount.hasSeatFor, hlimit, ite_ok_eq_ok_iff] using h
  · rw [if_neg hcount] at h
    cases h

/-- A call on another organization takes no seat and gives none back. -/
theorem Reachable.seatCount_perform_elsewhere (hstore : store.Reachable) (registry : Registry)
    (hfresh : call.IsFresh store)
    (hother : store.organizationId? call.organization ≠ some organizationId) :
    ((service registry).perform call store).state.seatCount organizationId =
      store.seatCount organizationId :=
  (hstore.filed.sameSlice_perform registry hfresh hother).seatCount_eq
    (hstore.perform registry call).filed hstore.filed

/-- A call on the organization changes the number of seats by what it answers. -/
theorem Filed.changesSeats_perform (hstore : store.Filed) (registry : Registry)
    (hfresh : call.IsFresh store)
    (hnamed : store.organizationId? call.organization = some organizationId) :
    let outcome := (service registry).perform call store
    call.request.ChangesSeats outcome.result (store.seatCount organizationId)
      (outcome.state.seatCount organizationId) := by
  intro outcome
  rcases hstore.settles_perform registry hnamed with ⟨failure, hresult, hstate⟩ | heffect
  · rw [show outcome.result = _ from hresult, show outcome.state = _ from hstate]
    rfl
  · exact heffect.changesSeats hfresh

/-! ## Runs -/

/-- No more seats are taken in an organization than a bound allows, and the billing account is
there for as long as the organization is. -/
structure Capped (store : Store) (organizationId : Uuid) (account : BillingAccount) (bound : Nat) :
    Prop where
  seats : store.seatCount organizationId ≤ bound
  account : store.findBilling organizationId = some account ∨
    store.organizations.get? organizationId = none

/-- A call keeps within a bound that the plan does not exceed. -/
theorem Capped.perform (h : store.Capped organizationId account bound) (hstore : store.Reachable)
    (registry : Registry) (hfresh : call.IsFresh store)
    (hlimit : account.plan.seatLimit? = some limit) (hbound : limit ≤ bound) :
    ((service registry).perform call store).state.Capped organizationId account bound := by
  by_cases hnamed : store.organizationId? call.organization = some organizationId
  · have hchange := hstore.filed.changesSeats_perform registry hfresh hnamed
    rcases hstore.filed.settles_perform registry hnamed with ⟨failure, -, hstate⟩ | heffect
    · rw [hstate]
      exact h
    · obtain ⟨organization, hget⟩ := hstore.filed.get?_of_organizationId? hnamed
      have haccount : store.findBilling organizationId = some account :=
        h.account.resolve_right (by rw [hget]; exact Option.some_ne_none _)
      constructor
      · rcases hchange.le_or with hle | ⟨hmore, email, role, -, hinvite, -⟩
        · exact Nat.le_trans hle h.seats
        · -- the invite has found a seat in the plan of the account that was there all along
          obtain ⟨-, hseat, -⟩ := heffect.invite_made hinvite
          have hfree := seatCount_lt_of_freeSeat hseat haccount hlimit
          omega
      · exact (heffect.findBilling_eq_or organizationId).imp_left fun hsame =>
          hsame.trans haccount
  · have hslice := hstore.filed.sameSlice_perform registry hfresh hnamed
    constructor
    · rw [hstore.seatCount_perform_elsewhere registry hfresh hnamed]
      exact h.seats
    · rw [hslice.billing, hslice.organization]
      exact h.account

/-- A run of fresh calls takes no more seats than the bound. -/
theorem Capped.runState (h : store.Capped organizationId account bound) (hstore : store.Reachable)
    (hlimit : account.plan.seatLimit? = some limit) (hbound : limit ≤ bound) {calls : List Call}
    (hfresh : FreshRun registry store calls) :
    ((service registry).runState store calls).Capped organizationId account bound := by
  induction calls generalizing store with
  | nil => exact h
  | cons call rest ih =>
      exact ih (h.perform hstore registry hfresh.1 hlimit hbound) (hstore.perform registry call)
        hfresh.2

/-- The call that follows on a run is fresh when its turn comes. -/
theorem FreshRun.isFresh_last {done : List Call} (h : FreshRun registry store (done ++ [call])) :
    call.IsFresh ((service registry).runState store done) := by
  induction done generalizing store with
  | nil => exact h.1
  | cons first rest ih => exact ih h.2

end Store

/-- No run of calls takes more seats in an organization than its plan has, or than were taken at the
start, whatever the registry. At every step the store counts the memberships and pending invites of
the organization, and they are not more than that. A call on the organization changes their number
by what it answers: an invite that is made takes a seat, an invite that is revoked gives it back, a
shutdown leaves none, and everything else, failures above all, leaves as many as there were. A call
on another organization changes nothing, so that the only way to take a seat is to make an invite.
New records are taken to be fresh, and seats to be countable at the start. -/
theorem seats_capped (registry : Registry) {store : Store} (hstore : store.Reachable)
    {organizationId : Uuid} {account : BillingAccount} {limit : Nat}
    (haccount : store.findBilling organizationId = some account)
    (hlimit : account.plan.seatLimit? = some limit)
    (hcount : store.seatCount organizationId < Store.seatCountLimit) {calls : List Call}
    (hfresh : store.FreshRun registry calls) :
    ∀ done, done <+: calls →
      let now := (Store.service registry).runState store done
      let seats := now.seatCount organizationId
      now.seatsInUse organizationId = .ok seats ∧
      seats ≤ max limit (store.seatCount organizationId) ∧
      ∀ call, done ++ [call] <+: calls →
        let outcome := (Store.service registry).perform call now
        let seatsAfter := outcome.state.seatCount organizationId
        let named := now.organizationId? call.organization = some organizationId
        (named → call.request.ChangesSeats outcome.result seats seatsAfter) ∧
        (¬ named → seatsAfter = seats) ∧
        (seats < seatsAfter → named ∧ seatsAfter = seats + 1 ∧
          ∃ email role reply, call.request = .createInvite email role ∧
            outcome.result = .ok reply) := by
  intro done hdone now seats
  have hnow : now.Reachable := hstore.runState registry done
  have hcapped : now.Capped organizationId account (max limit (store.seatCount organizationId)) :=
    Store.Capped.runState ⟨Nat.le_max_right _ _, .inl haccount⟩ hstore hlimit
      (Nat.le_max_left _ _) (hfresh.of_prefix hdone)
  have hseats : seats ≤ max limit (store.seatCount organizationId) := hcapped.seats
  have hsmall : limit < Store.seatCountLimit := Plan.lt_seatCountLimit hlimit
  refine ⟨if_pos (show seats < Store.seatCountLimit by omega), hseats, ?_⟩
  intro call hcall outcome seatsAfter named
  have hnext : call.IsFresh now := (hfresh.of_prefix hcall).isFresh_last
  refine ⟨hnow.filed.changesSeats_perform registry hnext,
    hnow.seatCount_perform_elsewhere registry hnext, ?_⟩
  intro hmore
  by_cases hnamed : named
  · rcases (hnow.filed.changesSeats_perform registry hnext hnamed).le_or with
      hle | ⟨hone, hinvite⟩
    · exact absurd hmore (Nat.not_lt.2 hle)
    · exact ⟨hnamed, hone, hinvite⟩
  · have hsame : seatsAfter = seats := hnow.seatCount_perform_elsewhere registry hnext hnamed
    omega

/-! ## A full house -/

/-- The last seat of an organization is taken, another is asked for, and an invite is revoked. -/
def hiring : List Call :=
  [of 41 (.createInvite "kim@example.com" .member),
    of 42 (.createInvite "lee@example.com" .member),
    of 43 (.revokeInvite (.ofNat 31))]
where
  /-- A call by the owner, with an identifier for what it makes. -/
  of (freshId : Nat) (request : Request) : Call :=
    { handOver with request, freshId := .ofNat freshId }

/-- The five seats of the plan are not exceeded, and the revoked invite gives back one of them. -/
theorem seatCount_hiring :
    Store.neighbours.Reachable ∧
      Store.neighbours.findBilling (.ofNat 1) = some ⟨.ofNat 1, .ofNat 11, .free, none⟩ ∧
      Plan.free.seatLimit? = some 5 ∧
      Store.neighbours.seatCount (.ofNat 1) = 4 ∧
      Store.neighbours.FreshRun .standard hiring ∧
      (∀ done, done <+: hiring →
        ((Store.service .standard).runState Store.neighbours done).seatCount (.ofNat 1) ≤ 5) ∧
      ((Store.service .standard).runState Store.neighbours hiring).seatCount (.ofNat 1) = 4 := by
  have hreachable := Store.reachable_neighbours
  have haccount : Store.neighbours.findBilling (.ofNat 1) =
      some ⟨.ofNat 1, .ofNat 11, .free, none⟩ := by decide
  have hstart : Store.neighbours.seatCount (.ofNat 1) = 4 := by decide
  have hcount : Store.neighbours.seatCount (.ofNat 1) < Store.seatCountLimit := by
    rw [hstart]
    decide
  have hfirst : Store.neighbours.invites.get? (.ofNat 41) = none := by decide
  have hsecond : ((Store.service .standard).runState Store.neighbours
      (hiring.take 1)).invites.get? (.ofNat 42) = none := by decide
  have hfresh : Store.neighbours.FreshRun .standard hiring := ⟨hfirst, hsecond, trivial, trivial⟩
  have hcapped := seats_capped .standard hreachable haccount rfl hcount hfresh
  refine ⟨hreachable, haccount, rfl, hstart, hfresh, ?_, ?_⟩
  · intro done hdone
    have hseats := (hcapped done hdone).2.1
    rw [hstart] at hseats
    exact hseats
  · -- all seats are taken when the last call revokes an invite
    have hfull : ((Store.service .standard).runState Store.neighbours
        (hiring.take 2)).seatCount (.ofNat 1) = 5 := by decide
    have hanswer : ((Store.service .standard).perform (hiring.of 43 (.revokeInvite (.ofNat 31)))
        ((Store.service .standard).runState Store.neighbours (hiring.take 2))).result =
          .ok .done := by decide
    have hlast := (hcapped _ (List.take_prefix 2 hiring)).2.2
      (hiring.of 43 (.revokeInvite (.ofNat 31))) List.prefix_rfl
    have hrevoked := hlast.1 (by decide)
    rw [hanswer, hfull] at hrevoked
    exact Nat.succ.inj hrevoked

end OrgAccess
