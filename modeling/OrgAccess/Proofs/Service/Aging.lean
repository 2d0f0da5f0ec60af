import Mathlib.Data.List.Pairwise
import OrgAccess.Proofs.Service.Amendments
import OrgAccess.Proofs.Service.Provenance

/-!
# What time does to records

Operations load a record, change it and save it whole, so each field that is to stay is a matter of
every write. `Store.Ages` says what may differ between an earlier and a later store, which is never
an identifier, a time of creation or the owner of a project, and that an organization or a project
that differs has a later time of change. Each call ages a store (`Store.Filed.ages_perform`), and so
does every run, between any two points of it (`records_age_forward`), if the clock goes forward.
-/

namespace OrgAccess

/-! ## Records -/

/-- A record is as it was, or its time of change is a later one. -/
def Stamped {α : Type} (updatedAt : α → Instant) (before after : α) : Prop :=
  after = before ∨ updatedAt before < updatedAt after

/-- A record that is changed later and later is changed later. -/
theorem Stamped.trans {α : Type} {updatedAt : α → Instant} {a b c : α}
    (hab : Stamped updatedAt a b) (hbc : Stamped updatedAt b c) : Stamped updatedAt a c := by
  rcases hbc with rfl | hbc
  · exact hab
  · rcases hab with rfl | hab
    · exact .inr hbc
    · exact .inr (lt_trans hab hbc)

/-- What may become of the record of an organization. -/
structure Organization.Ages (before after : Organization) : Prop where
  id : after.id = before.id
  createdAt : after.createdAt = before.createdAt
  stamped : Stamped Organization.updatedAt before after

/-- What may become of the record of a project. -/
structure Project.Ages (before after : Project) : Prop where
  id : after.id = before.id
  organizationId : after.organizationId = before.organizationId
  slug : after.slug = before.slug
  ownerId : after.ownerId = before.ownerId
  createdAt : after.createdAt = before.createdAt
  stamped : Stamped Project.updatedAt before after

/-- What may become of a membership. -/
structure Membership.Ages (before after : Membership) : Prop where
  id : after.id = before.id
  organizationId : after.organizationId = before.organizationId
  userId : after.userId = before.userId
  joinedAt : after.joinedAt = before.joinedAt
  role : after.role = before.role ∨ after.role = .admin

/-- The record of an organization may stay as it is. -/
theorem Organization.Ages.refl (organization : Organization) : organization.Ages organization :=
  ⟨rfl, rfl, .inl rfl⟩

/-- What becomes of an organization in two steps may become of it. -/
theorem Organization.Ages.trans {a b c : Organization} (hab : a.Ages b) (hbc : b.Ages c) :
    a.Ages c :=
  ⟨hbc.id.trans hab.id, hbc.createdAt.trans hab.createdAt, hab.stamped.trans hbc.stamped⟩

/-- The record of a project may stay as it is. -/
theorem Project.Ages.refl (project : Project) : project.Ages project :=
  ⟨rfl, rfl, rfl, rfl, rfl, .inl rfl⟩

/-- What becomes of a project in two steps may become of it. -/
theorem Project.Ages.trans {a b c : Project} (hab : a.Ages b) (hbc : b.Ages c) : a.Ages c where
  id := hbc.id.trans hab.id
  organizationId := hbc.organizationId.trans hab.organizationId
  slug := hbc.slug.trans hab.slug
  ownerId := hbc.ownerId.trans hab.ownerId
  createdAt := hbc.createdAt.trans hab.createdAt
  stamped := hab.stamped.trans hbc.stamped

/-- A membership may stay as it is. -/
theorem Membership.Ages.refl (membership : Membership) : membership.Ages membership :=
  ⟨rfl, rfl, rfl, rfl, .inl rfl⟩

/-- What becomes of a membership in two steps may become of it. -/
theorem Membership.Ages.trans {a b c : Membership} (hab : a.Ages b) (hbc : b.Ages c) :
    a.Ages c where
  id := hbc.id.trans hab.id
  organizationId := hbc.organizationId.trans hab.organizationId
  userId := hbc.userId.trans hab.userId
  joinedAt := hbc.joinedAt.trans hab.joinedAt
  role := by
    rcases hbc.role with hsame | hadmin
    · rw [hsame]
      exact hab.role
    · exact .inr hadmin

/-! ## Stores -/

namespace Store

/-- What may become of the records of a store while they are there. Organizations, memberships and
billing accounts are none but those of before. -/
structure Ages (before after : Store) : Prop where
  organizations : ∀ id current, after.organizations.get? id = some current →
    ∃ old, before.organizations.get? id = some old ∧ old.Ages current
  memberships : ∀ current ∈ after.memberships, ∃ old ∈ before.memberships, old.Ages current
  projects : ∀ id old current, before.projects.get? id = some old →
    after.projects.get? id = some current → old.Ages current
  invites : ∀ id old current, before.invites.get? id = some old →
    after.invites.get? id = some current → current = old
  billing : ∀ id current, after.billing.get? id = some current →
    before.billing.get? id = some current

/-- The clock goes forward from call to call, and what is stored was changed before all of them. -/
structure Precedes (store : Store) (calls : List Call) : Prop where
  increasing : (calls.map Call.now).Pairwise (· < ·)
  organizations : ∀ call ∈ calls, ∀ organization ∈ store.organizations.values,
    organization.updatedAt < call.now
  projects : ∀ call ∈ calls, ∀ project ∈ store.projects.values, project.updatedAt < call.now

/-- A store may stay as it is. -/
theorem Ages.refl (store : Store) : store.Ages store where
  organizations id current hcurrent := ⟨current, hcurrent, .refl current⟩
  memberships current hcurrent := ⟨current, hcurrent, .refl current⟩
  projects id old current hold hcurrent := by
    obtain rfl := Option.some.inj (hold.symm.trans hcurrent)
    exact .refl old
  invites id old current hold hcurrent := Option.some.inj (hcurrent.symm.trans hold)
  billing id current hcurrent := hcurrent

/-- A store ages on if no project and no invite comes back in the meantime. -/
theorem Ages.trans {a b c : Store} (hab : a.Ages b) (hbc : b.Ages c)
    (hprojects : ∀ id, a.projects.get? id ≠ none → b.projects.get? id = none →
      c.projects.get? id = none)
    (hinvites : ∀ id, a.invites.get? id ≠ none → b.invites.get? id = none →
      c.invites.get? id = none) : a.Ages c where
  organizations := by
    intro id current hcurrent
    obtain ⟨middle, hmiddle, hlate⟩ := hbc.organizations id current hcurrent
    obtain ⟨old, hold, hearly⟩ := hab.organizations id middle hmiddle
    exact ⟨old, hold, hearly.trans hlate⟩
  memberships := by
    intro current hcurrent
    obtain ⟨middle, hmiddle, hlate⟩ := hbc.memberships current hcurrent
    obtain ⟨old, hold, hearly⟩ := hab.memberships middle hmiddle
    exact ⟨old, hold, hearly.trans hlate⟩
  projects := by
    intro id old current hold hcurrent
    cases hmiddle : b.projects.get? id with
    | none =>
        -- what was away in between would not be there now
        have hgone := hprojects id (by rw [hold]; exact Option.some_ne_none old) hmiddle
        cases hgone.symm.trans hcurrent
    | some middle =>
        exact (hab.projects id old middle hold hmiddle).trans
          (hbc.projects id middle current hmiddle hcurrent)
  invites := by
    intro id old current hold hcurrent
    cases hmiddle : b.invites.get? id with
    | none =>
        have hgone := hinvites id (by rw [hold]; exact Option.some_ne_none old) hmiddle
        cases hgone.symm.trans hcurrent
    | some middle =>
        rw [hbc.invites id middle current hmiddle hcurrent]
        exact hab.invites id old middle hold hmiddle
  billing id current hcurrent := hab.billing id current (hbc.billing id current hcurrent)

end Store

/-! ## One call -/

/-- A membership is as it was before somebody was made an admin, or it is that admin's. -/
theorem Store.ages_of_mem_setRole {organizationId userId : Uuid} {memberships : List Membership}
    {current : Membership}
    (hcurrent : current ∈ setRole organizationId userId .admin memberships) :
    ∃ old ∈ memberships, old.Ages current := by
  induction memberships with
  | nil => cases hcurrent
  | cons m rest ih =>
      unfold setRole at hcurrent
      split at hcurrent
      · rcases List.mem_cons.1 hcurrent with rfl | hrest
        · exact ⟨m, List.mem_cons_self, rfl, rfl, rfl, rfl, .inr rfl⟩
        · exact ⟨current, List.mem_cons_of_mem m hrest, .refl current⟩
      · rcases List.mem_cons.1 hcurrent with rfl | hrest
        · exact ⟨current, List.mem_cons_self, .refl current⟩
        · obtain ⟨old, hold, hages⟩ := ih hrest
          exact ⟨old, List.mem_cons_of_mem m hold, hages⟩

namespace Call

variable {store after : Store} {call : Call} {organizationId : Uuid}
  {result : Except Failure Reply}

/-- What a call makes of the record of an organization is that record, or one of the same
organization that is stamped with the time of the call. -/
theorem amended_eq_or (call : Call) (organization : Organization)
    (result : Except Failure Reply) :
    let amended := call.amended organization result
    amended = organization ∨ amended.id = organization.id ∧
      amended.createdAt = organization.createdAt ∧ amended.updatedAt = call.now := by
  cases result with
  | error _ => exact .inl rfl
  | ok reply =>
      dsimp only [amended]
      split
      · next update _ =>
        by_cases hempty : update.isEmpty
        · exact .inl (if_pos hempty)
        · right
          rw [if_neg hempty]
          exact ⟨rfl, rfl, rfl⟩
      · exact .inr ⟨rfl, rfl, rfl⟩
      · exact .inl rfl

/-- A membership after a call is one of before, with the role that it had or that of an admin. -/
theorem Effect.membership_origin (h : call.Effect store organizationId result after)
    {current : Membership} (hcurrent : current ∈ after.memberships) :
    ∃ old ∈ store.memberships, old.Ages current := by
  cases h with
  | handedOver _ _ _ _ _ | stoppedHalfway _ _ _ _ _ => exact Store.ages_of_mem_setRole hcurrent
  | shutDown _ _ => exact ⟨current, (List.mem_filter.1 hcurrent).1, .refl current⟩
  | keptOrganization _ _ _ | savedOrganization _ _ _ _ _ | madeProject _ _ _ | savedProject _ _ _
  | removedProject _ _ | readBilling _ _ | madeInvite _ _ _ _ | listedInvites _
  | removedInvite _ _ => exact ⟨current, hcurrent, .refl current⟩

/-- A billing account after a call is one of before. -/
theorem Effect.billing_origin (h : call.Effect store organizationId result after) {id : Uuid}
    {account : BillingAccount} (hget : after.billing.get? id = some account) :
    store.billing.get? id = some account := by
  rcases h.billing_eq_or with hbilling | rfl
  · rwa [hbilling] at hget
  · exact (Table.get?_erase_eq_some_iff.1 hget).2

end Call

namespace Store

variable {store : Store} {call : Call} {calls rest : List Call} {id : Uuid}

/-- An organization that there is after a call was there before, and its record is the same or is
stamped with the time of the call. -/
theorem Filed.organization_origin (hstore : store.Filed) (registry : Registry) (call : Call)
    {current : Organization}
    (hcurrent : ((service registry).perform call store).state.organizations.get? id =
      some current) :
    ∃ old, store.organizations.get? id = some old ∧
      (current = old ∨ current.id = old.id ∧ current.createdAt = old.createdAt ∧
        current.updatedAt = call.now) := by
  by_cases hnamed : store.organizationId? call.organization = some id
  · obtain ⟨old, hold⟩ := hstore.get?_of_organizationId? hnamed
    refine ⟨old, hold, ?_⟩
    rcases hstore.settles_perform registry hnamed with ⟨failure, -, hstate⟩ | heffect
    · rw [hstate, hold] at hcurrent
      exact .inl (Option.some.inj hcurrent).symm
    · rcases heffect.organization_eq_or hstore hold with hgone | hkept
      · cases hgone.symm.trans hcurrent
      · obtain rfl := Option.some.inj (hcurrent.symm.trans hkept)
        exact call.amended_eq_or old _
  · have hsame := (hstore.sameOrganization_perform registry hnamed).organization
    exact ⟨current, hsame.symm.trans hcurrent, .inl rfl⟩

/-- A call that comes later than what is stored ages the store. -/
theorem Filed.ages_perform (hstore : store.Filed) (registry : Registry)
    (hnew : store.NewIds (call :: rest)) (hlate : store.Precedes (call :: rest)) :
    store.Ages ((service registry).perform call store).state where
  organizations := by
    intro id current hcurrent
    obtain ⟨old, hold, hsame⟩ := hstore.organization_origin registry call hcurrent
    refine ⟨old, hold, ?_⟩
    rcases hsame with rfl | ⟨hid, hcreated, hupdated⟩
    · exact .refl current
    · refine ⟨hid, hcreated, .inr ?_⟩
      rw [hupdated]
      exact hlate.organizations call List.mem_cons_self old (Table.mem_values_iff.2 ⟨id, hold⟩)
  memberships := by
    intro current hcurrent
    rcases hstore.perform_effect registry call with ⟨_, -, hstate⟩ | ⟨_, -, heffect⟩
    · rw [hstate] at hcurrent
      exact ⟨current, hcurrent, .refl current⟩
    · exact heffect.membership_origin hcurrent
  projects := by
    intro id old current hold hcurrent
    rcases hstore.project_origin registry call hcurrent with
      hsame | ⟨other, update, hother, rfl⟩ | ⟨hid, -⟩
    · obtain rfl := Option.some.inj (hold.symm.trans hsame)
      exact .refl old
    · obtain rfl := Option.some.inj (hold.symm.trans hother)
      refine ⟨rfl, rfl, rfl, rfl, rfl, .inr ?_⟩
      exact hlate.projects call List.mem_cons_self old (Table.mem_values_iff.2 ⟨id, hold⟩)
    · -- a new project does not take the place of one that is there
      cases hold.symm.trans (hnew.projects.free id (mem_filterMap_newId?_cons.2 (.inl hid)))
  invites := by
    intro id old current hold hcurrent
    rcases hstore.invite_origin registry call hcurrent with hsame | hid
    · exact Option.some.inj (hsame.symm.trans hold)
    · cases hold.symm.trans (hnew.invites.free id (mem_filterMap_newId?_cons.2 (.inl hid)))
  billing := by
    intro id current hcurrent
    rcases hstore.perform_effect registry call with ⟨_, -, hstate⟩ | ⟨_, -, heffect⟩
    · rwa [hstate] at hcurrent
    · exact heffect.billing_origin hcurrent

/-! ## Runs -/

namespace Precedes

/-- What is stored after the first call was changed before all of the rest. -/
theorem perform (h : store.Precedes (call :: rest)) (hstore : store.Filed) (registry : Registry) :
    ((service registry).perform call store).state.Precedes rest := by
  obtain ⟨hnext, hrest⟩ := List.pairwise_cons.1 h.increasing
  refine ⟨hrest, ?_, ?_⟩
  · intro next hmem current hcurrent
    obtain ⟨id, hget⟩ := Table.mem_values_iff.1 hcurrent
    obtain ⟨old, hold, rfl | ⟨-, -, hupdated⟩⟩ := hstore.organization_origin registry call hget
    · exact h.organizations next (List.mem_cons_of_mem call hmem) current
        (Table.mem_values_iff.2 ⟨id, hold⟩)
    · rw [hupdated]
      exact hnext next.now (List.mem_map_of_mem hmem)
  · intro next hmem current hcurrent
    obtain ⟨id, hget⟩ := Table.mem_values_iff.1 hcurrent
    rcases hstore.project_origin registry call hget with hsame | ⟨_, _, -, rfl⟩ | ⟨-, hupdated⟩
    · exact h.projects next (List.mem_cons_of_mem call hmem) current
        (Table.mem_values_iff.2 ⟨id, hsame⟩)
    · exact hnext next.now (List.mem_map_of_mem hmem)
    · rw [hupdated]
      exact hnext next.now (List.mem_map_of_mem hmem)

/-- What is stored after the first part of a run was changed before all of the rest. -/
theorem runState (h : store.Precedes (calls ++ rest)) (hstore : store.Reachable)
    (registry : Registry) : ((service registry).runState store calls).Precedes rest := by
  induction calls generalizing store with
  | nil => exact h
  | cons call more ih => exact ih (h.perform hstore.filed registry) (hstore.perform registry call)

/-- What precedes a run precedes its first part. -/
theorem left (h : store.Precedes (calls ++ rest)) : store.Precedes calls where
  increasing := h.increasing.sublist ((List.sublist_append_left calls rest).map _)
  organizations call hcall := h.organizations call (List.mem_append_left rest hcall)
  projects call hcall := h.projects call (List.mem_append_left rest hcall)

end Precedes

/-- A run of calls that come later than what is stored, and later and later, ages the store. -/
theorem Reachable.ages_runState (hstore : store.Reachable) (registry : Registry)
    (hnew : store.NewIds calls) (hlate : store.Precedes calls) :
    store.Ages ((service registry).runState store calls) := by
  induction calls generalizing store with
  | nil => exact .refl store
  | cons call rest ih =>
      have hfirst := hstore.filed.ages_perform registry hnew hlate
      have hrest := ih (hstore.perform registry call) (hnew.perform hstore.filed registry)
        (hlate.perform hstore.filed registry)
      refine hfirst.trans hrest ?_ ?_
      · intro id hthere hgone
        exact filesNew_projects.stays_removed hstore registry hnew.projects hthere hgone
      · intro id hthere hgone
        exact filesNew_invites.stays_removed hstore registry hnew.invites hthere hgone

end Store

/-- Between any two points of a run of calls records keep what is theirs and go forward in time,
whatever the registry, if the clock does and identifiers for new records are not used already. An
organization keeps its identifier and its time of creation, a project also its organization, its
slug and its owner, and where either differs its time of change is a later one. Invites and billing
accounts are the same, and so is a membership but for its role, which can only become that of an
admin. -/
theorem records_age_forward (registry : Registry) {store : Store} (hstore : store.Reachable)
    {calls : List Call} (hnew : store.NewIds calls) (hlate : store.Precedes calls)
    {earlier later : List Call} (hearlier : earlier <+: later) (hlater : later <+: calls) :
    ((Store.service registry).runState store earlier).Ages
      ((Store.service registry).runState store later) := by
  obtain ⟨more, rfl⟩ := hearlier
  obtain ⟨rest, rfl⟩ := hlater
  rw [Service.runState, Service.runState, List.foldl_append]
  exact (hstore.runState registry earlier).ages_runState registry
    (hnew.left.runState hstore registry) (hlate.left.runState hstore registry)

/-! ## A few hours -/

/-- The owner renames an organization, a member redescribes his project, and the owner hands the
organization over to him. -/
def handover : List Call :=
  [hour 1 11 (.updateOrganization ⟨some "Acme & Co", none, none⟩),
    hour 2 13 (.updateProject (.ofNat 21) ⟨none, some "The site"⟩),
    hour 3 11 (.transferOwnership (.ofNat 13))]
where
  /-- A call on the first organization, some hours after the start. -/
  hour (hours actor : Nat) (request : Request) : Call :=
    { trespass with
      actor := .ofNat actor
      request
      now := { Store.sharedSlug.start with
        seconds := Store.sharedSlug.start.seconds + 3600 * hours } }

/-- From the first hour on the organization is changed once more, at the third, and the new owner's
role has become that of an admin. -/
theorem ages_handover :
    Store.neighbours.Reachable ∧ Store.neighbours.NewIds handover ∧
      Store.neighbours.Precedes handover ∧
      let renamed := (Store.service .standard).runState Store.neighbours (handover.take 1)
      let now := (Store.service .standard).runState Store.neighbours handover
      renamed.Ages now ∧
        (renamed.organizations.get? (.ofNat 1)).map Organization.updatedAt =
          some (handover.hour 1 11 .listInvites).now ∧
        (now.organizations.get? (.ofNat 1)).map Organization.updatedAt =
          some (handover.hour 3 11 .listInvites).now ∧
        renamed.role? (.ofNat 1) (.ofNat 13) = some .member ∧
        now.role? (.ofNat 1) (.ofNat 13) = some .admin := by
  have hnew : Store.neighbours.NewIds handover :=
    ⟨⟨by decide, by decide⟩, ⟨by decide, by decide⟩⟩
  have hlate : Store.neighbours.Precedes handover :=
    ⟨by decide, by decide, by decide⟩
  have hages := records_age_forward .standard Store.reachable_neighbours hnew hlate
    (List.take_prefix 1 handover) List.prefix_rfl
  exact ⟨Store.reachable_neighbours, hnew, hlate, hages, by decide, by decide,
    by decide, by decide⟩

end OrgAccess
