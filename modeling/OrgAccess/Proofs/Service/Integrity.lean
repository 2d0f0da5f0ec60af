import OrgAccess.Proofs.Service.Amendments
import OrgAccess.Proofs.Store.Integrity

/-!
# Calls make no strays and no doubles

Slugs of organizations are checked when one is saved, those of projects when one is made, and no
call gives a project another slug or another organization. With what a removal takes along this
keeps stores well formed (`Call.Effect.wellFormed`). So after any run of calls a slug names the one
organization that has it after all renames, and no record is left of an organization that is gone
(`calls_keep_integrity`). Nor does a call that fails leave anything behind there
(`Store.WellFormed.state_of_error`).
-/

namespace OrgAccess

/-- The slug that the answer to a request gives the organization. -/
def Request.newSlug? (request : Request) : Except Failure Reply → Option String
  | .error _ => none
  | .ok _ =>
      match request with
      | .updateOrganization update => update.slug
      | _ => none

namespace Call

variable {store after : Store} {call : Call} {organizationId : Uuid} {result : Except Failure Reply}

/-- The slug of an organization changes by updates that have one. -/
theorem overwrites_slug : Store.Overwrites Request.newSlug? Organization.slug := by
  rintro ⟨actor, reference, request, now, freshId⟩ organization (failure | reply)
  · rfl
  · cases request with
    | updateOrganization update =>
        change (if update.isEmpty then organization else _).slug =
          update.slug.getD organization.slug
        split
        · next hempty =>
          have hnone : update.slug = none := by
            simp only [OrganizationUpdate.isEmpty, Bool.and_eq_true, Option.isNone_iff_eq_none]
              at hempty
            exact hempty.1.2
          rw [hnone]
          rfl
        · rfl
    | transferOwnership _ | shutdownOrganization | createProject _ | updateProject _ _
    | deleteProject _ | getBilling | createInvite _ _ | listInvites | revokeInvite _ => rfl

/-! ## One call -/

/-- What a call does in an organization that exists leaves a well formed store well formed. -/
theorem Effect.wellFormed (h : call.Effect store organizationId result after)
    (hstore : store.Filed) (hwell : store.WellFormed)
    (hthere : store.organizations.contains organizationId = true) : after.WellFormed := by
  cases h with
  | keptOrganization _ _ _ | readBilling _ _ | listedInvites _ => exact hwell
  | savedOrganization hrequest hempty hget hnew hfree =>
      obtain rfl := hstore.organizations _ _ hget
      subst hnew
      exact hwell.addOrganization hstore hfree
  | shutDown _ _ => exact hwell.withoutOrganization hstore organizationId
  | @handedOver newOwner organization _ _ hrequest hget hrole hnew hfree =>
      obtain rfl := hstore.organizations _ _ hget
      subst hnew
      have hpromoted := hwell.setRole organization.id newOwner .admin
      exact hpromoted.addOrganization (hstore.attempt (Store.attempt_setMemberRole hrole)) hfree
  | stoppedHalfway _ _ _ _ _ => exact hwell.setRole _ _ _
  | @madeProject _ project hrequest hnew hfree =>
      obtain rfl : project.organizationId = organizationId := by
        rw [hnew]
        rfl
      have hpaths : ∀ p ∈ store.projects.values, p.path ≠ project.path := by
        intro p hp
        exact Project.path_ne_iff.2 (hfree p hp)
      exact hwell.insertProject hthere (hwell.paths.insert_free hpaths project.id)
  | savedProject hrequest hfind hnew =>
      -- the project stays in its organization and keeps its slug
      obtain ⟨hget, horganization⟩ := Option.filter_eq_some_iff.1 hfind
      obtain rfl := of_decide_eq_true horganization
      subst hnew
      exact hwell.insertProject hthere (hwell.paths.insert_same hget rfl)
  | removedProject _ _ => exact hwell.eraseProject _
  | madeInvite hrequest hnew hseat hfree =>
      subst hnew
      exact hwell.insertInvite hthere _
  | removedInvite _ _ => exact hwell.eraseInvite _

end Call

namespace Store

variable {registry : Registry} {store : Store}

/-- A call leaves a well formed store well formed, whatever it is answered. -/
theorem WellFormed.perform (h : store.WellFormed) (hstore : store.Filed) (registry : Registry)
    (call : Call) : ((service registry).perform call store).state.WellFormed := by
  rcases hstore.perform_effect registry call with ⟨failure, -, hstate⟩ | ⟨named, hnamed, heffect⟩
  · rwa [hstate]
  · have hthere := Table.contains_eq_true_iff.2 (hstore.get?_of_organizationId? hnamed)
    exact heffect.wellFormed hstore h hthere

/-- In a well formed store a call that fails changes nothing: no transfer of ownership stops halfway
for a slug that another organization has. -/
theorem WellFormed.state_of_error (h : store.WellFormed) (hstore : store.Filed) {call : Call}
    {failure : Failure}
    (hfailed : ((service registry).perform call store).result = .error failure) :
    ((service registry).perform call store).state = store := by
  rcases hstore.perform_effect registry call with ⟨_, -, hstate⟩ | ⟨named, -, heffect⟩
  · exact hstate
  · rw [hfailed] at heffect
    generalize ((service registry).perform call store).state = after at heffect ⊢
    cases heffect with
    | @stoppedHalfway _ organization _ _ hget _ _ hclash =>
        obtain ⟨id, other, hne, hother, hslug⟩ := hstore.slugTaken_iff.1 hclash
        exact absurd (Table.distinctBy_iff.1 h.slugs id named other organization hother hget hslug)
          hne

/-- Nothing is written to find out what an actor may do. -/
theorem state_abilityFor (registry : Registry) (actor : Uuid) (reference : OrganizationRef)
    (store : Store) : ((service registry).abilityFor actor reference store).state = store := by
  rw [Registry.abilityFor_apply]
  cases store.resolveMembership actor reference with
  | none => rfl
  | some membership =>
      dsimp only
      split <;> rfl

/-! ## Runs -/

/-- A run of calls leaves a well formed store well formed. -/
theorem WellFormed.runState (h : store.WellFormed) (hstore : store.Reachable)
    (registry : Registry) (calls : List Call) :
    ((service registry).runState store calls).WellFormed :=
  hstore.runState_of_perform (fun hstore h call => h.perform hstore.filed registry call) h calls

/-- The slugs that a run of calls gives an organization, one after another. -/
def renames (registry : Registry) (organizationId : Uuid) : Store → List Call → List String :=
  given Request.newSlug? registry organizationId

end Store

/-- Calls keep slugs unique and leave no record without its organization. Whatever the registry, a
call on a well formed store leaves it well formed, by any user, on any organization, with any
arguments, and whether it succeeds or fails; so does looking up what a user may do, which changes
nothing. So after every run of calls the store is well formed, and a slug names an organization
exactly when there is one with that slug. That slug is the last that the run has given it, or the
one that it had at the start. -/
theorem calls_keep_integrity (registry : Registry) {store : Store} (hstore : store.Reachable)
    (hwell : store.WellFormed) :
    (∀ call : Call, ((Store.service registry).perform call store).state.WellFormed) ∧
    (∀ actor reference,
      ((Store.service registry).abilityFor actor reference store).state = store) ∧
    ∀ calls : List Call,
      let now := (Store.service registry).runState store calls
      now.WellFormed ∧
      (∀ slug organization, now.findOrganization (.bySlug slug) = some organization ↔
        now.organizations.get? organization.id = some organization ∧ organization.slug = slug) ∧
      ∀ organizationId current, now.organizations.get? organizationId = some current →
        ∃ first, store.organizations.get? organizationId = some first ∧
          current.slug =
            (Store.renames registry organizationId store calls).getLastD first.slug := by
  refine ⟨hwell.perform hstore.filed registry, ?_, fun calls => ?_⟩
  · intro actor reference
    exact Store.state_abilityFor registry actor reference store
  · intro now
    have hnow : now.Reachable := hstore.runState registry calls
    have hkept : now.WellFormed := hwell.runState hstore registry calls
    refine ⟨hkept, ?_, ?_⟩
    · intro slug organization
      exact hnow.filed.findOrganization_bySlug_eq_some_iff hkept.slugs
    · intro organizationId current hcurrent
      exact hstore.field_eq_getLastD Call.overwrites_slug hcurrent

/-! ## A slug that changes hands -/

/-- The owner of one organization gives up its slug, which the owner of the other takes. A member
makes a project in the first organization, its owner does not get the slug back, and shuts the
organization down. -/
def succession : List Call :=
  [of 11 (.byId (.ofNat 1)) (.updateOrganization ⟨none, some "solo", none⟩),
    of 14 (.bySlug "bolt") (.updateOrganization ⟨none, some "acme", none⟩),
    of 13 (.bySlug "solo") (.createProject ⟨"Shop", "shop", none⟩),
    of 11 (.bySlug "solo") (.updateOrganization ⟨none, some "acme", none⟩),
    of 11 (.bySlug "solo") .shutdownOrganization]
where
  /-- A call by a user on an organization. -/
  of (actor : Nat) (organization : OrganizationRef) (request : Request) : Call :=
    { actor := .ofNat actor
      organization
      request
      now := Store.sharedSlug.start
      freshId := .ofNat 41 }

/-- The store with two organizations is well formed. -/
theorem Store.wellFormed_neighbours : Store.neighbours.WellFormed where
  slugs := by decide
  paths := by decide
  memberships := by decide
  projects := by decide
  invites := by decide
  billing := by decide

/-- Nothing is left of the first organization then, and its slug names the second. -/
theorem wellFormed_succession :
    Store.neighbours.Reachable ∧ Store.neighbours.WellFormed ∧
      let now := (Store.service .standard).runState Store.neighbours succession
      now.WellFormed ∧ now.organizations.get? (.ofNat 1) = none ∧
        ∃ current, now.findOrganization (.bySlug "acme") = some current ∧
          current.id = .ofNat 2 := by
  obtain ⟨-, -, hruns⟩ :=
    calls_keep_integrity .standard Store.reachable_neighbours Store.wellFormed_neighbours
  obtain ⟨hwell, hslug, -⟩ := hruns succession
  refine ⟨Store.reachable_neighbours, Store.wellFormed_neighbours, hwell, by decide, ?_⟩
  have hget : (((Store.service .standard).runState Store.neighbours
      succession).organizations.get? (.ofNat 2)).map Organization.slug = some "acme" := by
    decide
  obtain ⟨current, hcurrent, hacme⟩ := Option.map_eq_some_iff.1 hget
  have hfiled := (Store.reachable_neighbours.runState .standard succession).filed
  have hid : current.id = .ofNat 2 := hfiled.organizations _ _ hcurrent
  exact ⟨current, (hslug "acme" current).2 ⟨hid ▸ hcurrent, hacme⟩, hid⟩

end OrgAccess
