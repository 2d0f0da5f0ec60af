import OrgAccess.Proofs.Service.Management
import OrgAccess.Proofs.Store.Integrity

/-!
# Transfers of ownership

With the standard roles, exactly when an organization is handed over and exactly what has changed
then. A transfer needs its actor to be the owner and an admin, the new owner to be a member, and the
slug to be no other organization's (`Filed.transfer_succeeds_iff`). It replaces the record of the
organization and one role (`Store.HandedOver`). What is left to owners follows the record: the new
owner may do it from then on, and nobody else (`Filed.denied_iff_not_owner`).
-/

namespace OrgAccess

/-- A request that the standard roles leave to the owner of the organization. -/
def Request.IsOfOwner (request : Request) : Prop :=
  (∃ update, request = .updateOrganization update) ∨
    ∃ newOwner, request = .transferOwnership newOwner

namespace Store

variable {store : Store} {call : Call} {organization : Organization} {organizationId : Uuid}

/-! ## Who is admitted -/

/-- A member is admitted whom the table does not refuse and whose record is found. -/
theorem Filed.exists_verdict_of_not_refuses (hstore : store.Filed)
    (hfind : store.findOrganization call.organization = some organization) {role : Role}
    (hrole : store.HasRole organization.id call.actor role) {record : call.request.Record}
    (hrecord : call.record store organization.id = .ok record)
    (hallowed : ¬ store.Refuses organization call.actor role call.request) :
    ∃ admitted, Registry.standard.verdict call store = .ok admitted := by
  have hcan := Permissions.standard_can_iff ⟨call.actor.text, role⟩ .default
    call.request.action (call.request.target record) role
  rw [Registry.verdict_of_hasRole hstore hfind hrole, Registry.standard_permissionsFor, hrecord]
  dsimp only
  split
  · exact ⟨_, rfl⟩
  · next hcannot =>
    refine absurd ((refuses_iff hfind).2 ⟨record, hrecord, ?_⟩) hallowed
    exact fun hallows => hcannot (hcan.2 hallows)

/-- What is left to the owner is denied to everybody else, and to an owner who is no admin. -/
theorem Filed.denied_iff_not_owner (hstore : store.Filed)
    (hfind : store.findOrganization call.organization = some organization)
    (hrequest : call.request.IsOfOwner) :
    (∃ failure, ((service .standard).perform call store).result = .error failure ∧
        failure.isDenied = true) ↔
      ¬ (store.HasRole organization.id call.actor .admin ∧
        call.actor = organization.ownerId) := by
  rw [perform_denied_iff]
  have hrefuses : ∀ {role}, store.Refuses organization call.actor role call.request ↔
      ¬ (role = .admin ∧ call.actor = organization.ownerId) := by
    intro role
    rcases hrequest with ⟨update, hrequest⟩ | ⟨newOwner, hrequest⟩ <;> rw [hrequest] <;> rfl
  by_cases hmember : ∃ role, store.HasRole organization.id call.actor role
  · obtain ⟨role, hrole⟩ := hmember
    rw [hstore.denied_iff_of_hasRole hfind hrole, hrefuses]
    refine not_congr (and_congr_left fun _ => ?_)
    constructor
    · rintro rfl
      exact hrole
    · exact hstore.hasRole_unique hrole
  · have hnone : Registry.standard.verdict call store =
        .error (.notMember call.organization.text) := by
      apply Registry.verdict_of_not_member hstore
      intro other role hother hrole
      obtain rfl := Option.some.inj (hfind.symm.trans hother)
      exact hmember ⟨role, hrole⟩
    refine iff_of_true ⟨_, hnone, rfl⟩ ?_
    rintro ⟨hadmin, -⟩
    exact hmember ⟨_, hadmin⟩

/-- A transfer is admitted if its actor is the owner and an admin, and not else. -/
theorem Filed.admits_transfer_iff (hstore : store.Filed)
    (hfind : store.findOrganization call.organization = some organization) {newOwner : Uuid}
    (hrequest : call.request = .transferOwnership newOwner) :
    (∃ admitted, Registry.standard.verdict call store = .ok admitted) ↔
      store.HasRole organization.id call.actor .admin ∧
        call.actor = organization.ownerId := by
  constructor
  · rintro ⟨admitted, hadmitted⟩
    obtain ⟨other, role, hother, -, hrole, hallowed⟩ := hstore.not_refuses_of_verdict hadmitted
    obtain rfl := Option.some.inj (hfind.symm.trans hother)
    rw [hrequest] at hallowed
    obtain ⟨rfl, howner⟩ := not_not.1 hallowed
    exact ⟨hrole, howner⟩
  · rintro ⟨hadmin, howner⟩
    obtain ⟨actor, reference, request, now, freshId⟩ := call
    obtain rfl : request = .transferOwnership newOwner := hrequest
    exact hstore.exists_verdict_of_not_refuses hfind hadmin
      (Missing.unlessFound_eq_ok_iff.2 hfind) (not_not.2 ⟨rfl, howner⟩)

/-! ## What a transfer changes -/

/-- One store comes from another by handing an organization over: the record of the organization
has been replaced, the membership of its owner there has the role of an admin, and nothing else is
different. -/
structure HandedOver (after before : Store) (transferred : Organization) : Prop where
  stored : after.organizations.get? transferred.id = some transferred
  others : ∀ id, id ≠ transferred.id →
    after.organizations.get? id = before.organizations.get? id
  admin : after.HasRole transferred.id transferred.ownerId .admin
  memberships : after.memberships = before.memberships.map fun m =>
    if m.links transferred.id transferred.ownerId then { m with role := .admin } else m
  projects : after.projects = before.projects
  invites : after.invites = before.invites
  billing : after.billing = before.billing

/-- Of memberships with different links giving one a role changes no other. -/
theorem setRole_eq_map (organizationId userId : Uuid) (role : Role) {memberships : List Membership}
    (h : (memberships.map Membership.link).Nodup) :
    setRole organizationId userId role memberships =
      memberships.map fun m => if m.links organizationId userId then { m with role } else m := by
  induction memberships with
  | nil => rfl
  | cons m rest ih =>
      rw [List.map_cons, List.nodup_cons] at h
      obtain ⟨hfirst, hrest⟩ := h
      rw [setRole, List.map_cons, ← ih hrest]
      split
      · next hlinks =>
        -- no later membership has the link, so the rest is as it was
        refine congrArg _ (Eq.symm ?_)
        rw [ih hrest]
        refine (List.map_congr_left fun other hother => if_neg ?_).trans (List.map_id _)
        intro hagain
        refine hfirst (List.mem_map.2 ⟨other, hother, ?_⟩)
        exact ((other.links_iff _ _).1 hagain).trans ((m.links_iff _ _).1 hlinks).symm
      · rfl

/-- A member who is promoted and made the owner is handed the organization. -/
theorem Filed.handedOver (hstore : store.Filed) {transferred : Organization} {role : Role}
    (hrole : store.HasRole transferred.id transferred.ownerId role) :
    ((store.withAdmin transferred.id transferred.ownerId).addOrganization transferred).HandedOver
      store transferred where
  stored := Table.get?_insert_self
  others _ hid := Table.get?_insert_of_ne hid
  admin := hstore.hasRole_withAdmin_self hrole
  memberships := setRole_eq_map _ _ _ hstore.memberships
  projects := rfl
  invites := rfl
  billing := rfl

/-- What a transfer comes to that succeeds. -/
theorem Filed.transfer_of_ok (hstore : store.Filed)
    (hfind : store.findOrganization call.organization = some organization) {newOwner : Uuid}
    (hrequest : call.request = .transferOwnership newOwner) {registry : Registry} {reply : Reply}
    (hreply : ((service registry).perform call store).result = .ok reply) :
    reply = .organization (call.transferred organization newOwner) ∧
      (∃ role, store.HasRole organization.id newOwner role) ∧
      ¬ store.SlugTaken organization.slug organization.id ∧
      ((service registry).perform call store).state.HandedOver store
        (call.transferred organization newOwner) := by
  obtain ⟨hnamed, hget⟩ := hstore.findOrganization_eq_some_iff.1 hfind
  rcases hstore.settles_perform registry hnamed with ⟨failure, hfailed, -⟩ | heffect
  · cases hfailed.symm.trans hreply
  · rw [hreply] at heffect
    generalize ((service registry).perform call store).state = after at heffect ⊢
    cases heffect with
    | handedOver hhanded hother hrole hnew hfree =>
        obtain rfl := Request.transferOwnership.inj (hrequest.symm.trans hhanded)
        obtain rfl := Option.some.inj (hget.symm.trans hother)
        subst hnew
        exact ⟨rfl, ⟨_, hrole⟩, hfree, hstore.handedOver hrole⟩
    | keptOrganization hother _ _ | savedOrganization hother _ _ _ _ | shutDown hother _
    | madeProject hother _ _ | savedProject hother _ _ | removedProject hother _
    | readBilling hother _ | madeInvite hother _ _ _ | listedInvites hother
    | removedInvite hother _ => cases hrequest.symm.trans hother

/-- When a transfer succeeds. -/
theorem Filed.transfer_succeeds_iff (hstore : store.Filed)
    (hfind : store.findOrganization call.organization = some organization) {newOwner : Uuid}
    (hrequest : call.request = .transferOwnership newOwner) :
    (∃ reply, ((service .standard).perform call store).result = .ok reply) ↔
      store.HasRole organization.id call.actor .admin ∧ call.actor = organization.ownerId ∧
        (∃ role, store.HasRole organization.id newOwner role) ∧
        ¬ store.SlugTaken organization.slug organization.id := by
  rw [← and_assoc, ← hstore.admits_transfer_iff hfind hrequest]
  constructor
  · rintro ⟨reply, hreply⟩
    obtain ⟨-, hmember, hfree, -⟩ := hstore.transfer_of_ok hfind hrequest hreply
    exact ⟨exists_verdict_of_ok hreply, hmember, hfree⟩
  · rintro ⟨⟨admitted, hadmitted⟩, ⟨role, hrole⟩, hfree⟩
    obtain ⟨other, hother, hserve⟩ := Call.serve_transferOwnership hstore hadmitted hrequest
    obtain rfl := Option.some.inj (hfind.symm.trans hother)
    have hget := (hstore.findOrganization_eq_some_iff.1 hfind).2
    rw [(perform_of_verdict_ok hadmitted).1, hserve, hstore.role?_eq_some_iff.2 hrole]
    dsimp only
    rw [Call.carryOutAll_transferWrites_of_not_slugTaken hstore hget hrole hfree]
    exact ⟨_, rfl⟩

/-! ## Names that stay -/

/-- An organization that is handed over is named by what it was named by, if no other has its
slug. -/
theorem HandedOver.findOrganization {after : Store} {transferred : Organization}
    (h : after.HandedOver store transferred) (hafter : after.Filed) (hstore : store.Filed)
    {reference : OrganizationRef} (hfind : store.findOrganization reference = some organization)
    (hid : transferred.id = organization.id) (hslug : transferred.slug = organization.slug)
    (hfree : ¬ store.SlugTaken organization.slug organization.id) :
    after.findOrganization reference = some transferred := by
  obtain ⟨hnamed, hget⟩ := hstore.findOrganization_eq_some_iff.1 hfind
  refine hafter.findOrganization_eq_some_iff.2 ⟨?_, h.stored⟩
  rcases hstore.eq_byId_or_bySlug hnamed hget with rfl | rfl
  · rw [← hid]
    exact if_pos (Table.contains_eq_true_iff.2 ⟨_, h.stored⟩)
  · rw [← hslug]
    refine organizationId?_bySlug h.stored fun htaken => hfree ?_
    obtain ⟨id, other, hne, hother, hsame⟩ := hafter.slugTaken_iff.1 htaken
    rw [h.others id hne] at hother
    exact hstore.slugTaken_iff.2 ⟨id, other, hid ▸ hne, hother, hsame.trans hslug⟩

end Store

/-- A transfer of ownership with the standard roles. It succeeds exactly if the actor is the owner
and an admin, the new owner is a member, and no other organization has the slug. It answers then
with the record that is stored, which has another owner and another time of the last update and is
otherwise the same; the new owner is an admin, and every other membership, organization, project,
invite and billing account is what it was. From then on updates and transfers of the organization
are denied to everybody but the new owner. -/
theorem transfer_exact {store : Store} (hstore : store.Reachable) (call : Call) {newOwner : Uuid}
    (hrequest : call.request = .transferOwnership newOwner) {organization : Organization}
    (hfind : store.findOrganization call.organization = some organization) :
    let outcome := (Store.service .standard).perform call store
    let transferred := { organization with ownerId := newOwner, updatedAt := call.now }
    ((∃ reply, outcome.result = .ok reply) ↔
      store.HasRole organization.id call.actor .admin ∧ call.actor = organization.ownerId ∧
        (∃ role, store.HasRole organization.id newOwner role) ∧
        ¬ store.SlugTaken organization.slug organization.id) ∧
    ∀ reply, outcome.result = .ok reply →
      reply = .organization transferred ∧
        outcome.state.findOrganization call.organization = some transferred ∧
        outcome.state.HandedOver store transferred ∧
        ∀ next : Call, outcome.state.findOrganization next.organization = some transferred →
          next.request.IsOfOwner →
            ((∀ failure, ((Store.service .standard).perform next outcome.state).result =
                .error failure → failure.isDenied = false) ↔
              next.actor = newOwner) := by
  intro outcome transferred
  have hfiled := hstore.filed
  refine ⟨hfiled.transfer_succeeds_iff hfind hrequest, ?_⟩
  intro reply hreply
  obtain ⟨rfl, -, hfree, hhanded⟩ := hfiled.transfer_of_ok hfind hrequest hreply
  have hafter : outcome.state.Filed := (hstore.perform .standard call).filed
  refine ⟨rfl, hhanded.findOrganization hafter hfiled hfind rfl rfl hfree, hhanded, ?_⟩
  intro next hnext hleft
  have hdenied := hafter.denied_iff_not_owner hnext hleft
  constructor
  · intro hallowed
    by_contra hother
    obtain ⟨failure, hfailure, hdenial⟩ := hdenied.2 fun howner => hother howner.2
    rw [hallowed failure hfailure] at hdenial
    cases hdenial
  · intro hactor failure hfailure
    rw [Bool.eq_false_iff]
    intro hdenial
    refine hdenied.1 ⟨failure, hfailure, hdenial⟩ ⟨?_, hactor⟩
    rw [hactor]
    exact hhanded.admin

/-! ## A transfer and another -/

/-- The owner of an organization hands it to a member, by its slug. -/
def bequest : Call :=
  { trespass with
    actor := .ofNat 11
    organization := .bySlug "acme"
    request := .transferOwnership (.ofNat 13) }

/-- The member has it then and is an admin, and so may hand it back. -/
theorem handedOver_bequest :
    let before := Store.neighbours.tenant 1 "acme" 11
    let outcome := (Store.service .standard).perform bequest Store.neighbours
    let back :=
      { bequest with actor := .ofNat 13, request := .transferOwnership (.ofNat 11) }
    Store.neighbours.Reachable ∧
      Store.neighbours.findOrganization bequest.organization = some before ∧
      (∃ reply, outcome.result = .ok reply) ∧
      outcome.state.HandedOver Store.neighbours
        { before with ownerId := .ofNat 13, updatedAt := bequest.now } ∧
      ∀ failure, ((Store.service .standard).perform back outcome.state).result =
        .error failure → failure.isDenied = false := by
  intro before outcome back
  have hfind : Store.neighbours.findOrganization bequest.organization = some before := by
    decide
  obtain ⟨-, hdone⟩ := transfer_exact Store.reachable_neighbours bequest rfl hfind
  obtain ⟨-, hstored, hhanded, hnext⟩ := hdone _ rfl
  exact ⟨Store.reachable_neighbours, hfind, ⟨_, rfl⟩, hhanded,
    (hnext back hstored (.inr ⟨_, rfl⟩)).2 rfl⟩

end OrgAccess
