import OrgAccess.Proofs.Service.Isolation

/-!
# Ways of naming an organization

A call resolves its reference more than once: for the membership of the actor, for the record of the
organization, and by the identifier in that record. References that resolve to one identifier are
the same to all of these, so a call comes to the same whichever of them it uses
(`Filed.perform_naming`), but for the text in which somebody who is not a member is turned away. The
record that is checked is one of the organization in which the actor's ability was compiled
(`Filed.isRecordOf`).
-/

namespace OrgAccess

/-- The call with another reference to the organization. -/
def Call.naming (call : Call) (reference : OrganizationRef) : Call :=
  { call with organization := reference }

/-- The record that a request is checked on is one of an organization. The list of invites is
checked on none. -/
def Request.IsRecordOf (organizationId : Uuid) : (request : Request) → request.Record → Prop
  | .updateOrganization _, organization => Organization.id organization = organizationId
  | .shutdownOrganization, organization => Organization.id organization = organizationId
  | .transferOwnership _, organization => Organization.id organization = organizationId
  | .createProject _, project => Project.organizationId project = organizationId
  | .updateProject _ _, project => Project.organizationId project = organizationId
  | .deleteProject _, project => Project.organizationId project = organizationId
  | .getBilling, account => BillingAccount.organizationId account = organizationId
  | .createInvite _ _, invite => Invite.organizationId invite = organizationId
  | .listInvites, _ => True
  | .revokeInvite _, invite => Invite.organizationId invite = organizationId

namespace Store

variable {store : Store} {call : Call} {a b : OrganizationRef} {id : Uuid}

/-- References that resolve to one identifier name one organization. -/
theorem findOrganization_eq_of_organizationId? (ha : store.organizationId? a = some id)
    (hb : store.organizationId? b = some id) :
    store.findOrganization a = store.findOrganization b := by
  rw [findOrganization, findOrganization, ha, hb]

/-- They find one record for a call. -/
theorem Filed.record_naming (hstore : store.Filed) (call : Call)
    (ha : store.organizationId? a = some id) (hb : store.organizationId? b = some id)
    (organizationId : Uuid) :
    (call.naming a).record store organizationId = (call.naming b).record store organizationId := by
  obtain ⟨organization, hfind, -⟩ := hstore.exists_findOrganization ha
  have hother : store.findOrganization b = some organization :=
    (findOrganization_eq_of_organizationId? hb ha).trans hfind
  obtain ⟨actor, reference, request, now, freshId⟩ := call
  cases request with
  | updateOrganization _ | shutdownOrganization | transferOwnership _ =>
      change (Missing.organization a).unlessFound (store.findOrganization a) =
        (Missing.organization b).unlessFound (store.findOrganization b)
      rw [hfind, hother]
      rfl
  | createProject _ | updateProject _ _ | deleteProject _ | getBilling | createInvite _ _
  | listInvites | revokeInvite _ => rfl

/-- A call of a member comes to the same by whichever reference to the organization. -/
theorem Filed.perform_naming (hstore : store.Filed) (registry : Registry)
    (ha : store.organizationId? a = some id) (hb : store.organizationId? b = some id) {role : Role}
    (hrole : store.HasRole id call.actor role) :
    (service registry).perform (call.naming a) store =
      (service registry).perform (call.naming b) store := by
  obtain ⟨actor, reference, request, now, freshId⟩ := call
  have hresolve : ∀ {reference}, store.organizationId? reference = some id →
      store.resolveMembership actor reference = some ⟨actor, id, role⟩ := by
    intro reference hid
    rw [resolveMembership_eq, hid, Option.bind_some, hstore.role?_eq_some_iff.2 hrole]
    rfl
  -- from the membership on, only the record is looked for by the reference
  have hrecord : (Call.mk actor a request now freshId).record store id =
      (Call.mk actor b request now freshId).record store id :=
    hstore.record_naming ⟨actor, reference, request, now, freshId⟩ ha hb id
  simp only [Call.naming, perform_apply, Registry.admissionEvents, Registry.verdict, hresolve ha,
    hresolve hb]
  cases registry.compile (ResolvedMembership.principal ⟨actor, id, role⟩) .default with
  | error fault => rfl
  | ok ability =>
      dsimp only
      rw [hrecord]
      cases (Call.mk actor b request now freshId).record store id with
      | error missing => rfl
      | ok record =>
          dsimp only
          cases ability.can request.action (request.target record) <;> rfl

/-- What is found for a call is a record of the organization that the call names, and what the call
is to make is one too. -/
theorem Filed.isRecordOf (hstore : store.Filed) (call : Call)
    (hid : store.organizationId? call.organization = some id) {record : call.request.Record}
    (hrecord : call.record store id = .ok record) : call.request.IsRecordOf id record := by
  obtain ⟨actor, reference, request, now, freshId⟩ := call
  have horganization : ∀ {organization : Organization},
      (Missing.organization reference).unlessFound (store.findOrganization reference) =
        .ok organization → organization.id = id := by
    intro organization hfound
    have hfind := Missing.unlessFound_eq_ok_iff.1 hfound
    exact Option.some.inj ((hstore.findOrganization_eq_some_iff.1 hfind).1.symm.trans hid)
  cases request with
  | updateOrganization _ | shutdownOrganization | transferOwnership _ =>
      exact horganization hrecord
  | createProject _ | createInvite _ _ =>
      obtain rfl := Except.ok.inj hrecord
      rfl
  | updateProject _ _ | deleteProject _ =>
      exact (hstore.of_findProject (Missing.unlessFound_eq_ok_iff.1 hrecord)).2
  | getBilling => exact hstore.billing _ _ (Missing.unlessFound_eq_ok_iff.1 hrecord)
  | listInvites => trivial
  | revokeInvite _ => exact (hstore.of_findInvite (Missing.unlessFound_eq_ok_iff.1 hrecord)).2

end Store

/-- A slug and the identifier that it stands for are interchangeable, whatever the registry. A call
by either comes to the same: to the member of the organization the same answer, store and events,
and to anybody else the same but for the text of the reference. Even if other organizations have
the slug, the actor's membership, from which the ability is compiled, and the record that is checked
are those of one organization, and every other organization is left with its record and its members
as they were. -/
theorem slug_and_id_interchangeable (registry : Registry) {store : Store}
    (hstore : store.Reachable) (call : Call) {slug : String} {id : Uuid}
    (hslug : store.organizationId? (.bySlug slug) = some id) :
    let outcome (reference : OrganizationRef) :=
      (Store.service registry).perform (call.naming reference) store
    (∀ role, store.HasRole id call.actor role → outcome (.bySlug slug) = outcome (.byId id)) ∧
    ((∀ role, ¬ store.HasRole id call.actor role) →
      outcome (.bySlug slug) =
          ⟨.error (.notMember slug), store, [.notMember call.actor (.bySlug slug)]⟩ ∧
        outcome (.byId id) =
          ⟨.error (.notMember id.text), store, [.notMember call.actor (.byId id)]⟩) ∧
    (∀ admitted, registry.verdict (call.naming (.bySlug slug)) store = .ok admitted →
      admitted.membership.organizationId = id ∧
        call.request.IsRecordOf id admitted.record) ∧
    ∀ other, other ≠ id → (outcome (.bySlug slug)).state.SameOrganization store other := by
  intro outcome
  have hfiled := hstore.filed
  obtain ⟨organization, hfind, rfl⟩ := hfiled.exists_findOrganization hslug
  have hid : store.organizationId? (.byId organization.id) = some organization.id :=
    (hfiled.findOrganization_eq_some_iff.1 (hfiled.findOrganization_byId hfind)).1
  refine ⟨fun role hrole => hfiled.perform_naming registry hslug hid hrole, ?_, ?_, ?_⟩
  · intro hnone
    have hdenied : ∀ reference, store.organizationId? reference = some organization.id →
        outcome reference =
          ⟨.error (.notMember reference.text), store, [.notMember call.actor reference]⟩ := by
      intro reference hnamed
      show (Store.service registry).perform (call.naming reference) store = _
      apply hfiled.perform_of_not_member
      intro other role hother hrole
      have hsame := (hfiled.findOrganization_eq_some_iff.1 hother).1
      rw [← Option.some.inj (hnamed.symm.trans hsame)] at hrole
      exact hnone role hrole
    exact ⟨hdenied _ hslug, hdenied _ hid⟩
  · rintro ⟨⟨membership, ability⟩, record⟩ hadmitted
    have hsame : membership.organizationId = organization.id :=
      Option.some.inj ((Store.organizationId?_of_verdict hadmitted).symm.trans hslug)
    obtain ⟨-, -, hrecord, -⟩ := Registry.verdict_eq_ok_iff.1 hadmitted
    rw [hsame] at hrecord
    exact ⟨hsame, hfiled.isRecordOf (call.naming (.bySlug slug)) hslug hrecord⟩
  · intro other hother
    show ((Store.service registry).perform
      (call.naming (.bySlug slug)) store).state.SameOrganization store other
    apply hfiled.sameOrganization_perform registry
    intro hsame
    exact hother (Option.some.inj (hsame.symm.trans hslug))

/-- Two organizations have a slug, and it stands for the first of them: a member of that one makes a
project there by the slug as by the identifier, and the second is left alone. -/
theorem project_by_slug_sharedSlug :
    let call : Call :=
      { actor := .ofNat 13
        organization := .bySlug "acme"
        request := .createProject { name := "Site", slug := "site", description := none }
        now := Store.sharedSlug.start
        freshId := .ofNat 41 }
    let outcome := (Store.service .standard).perform call Store.sharedSlug
    Store.sharedSlug.Reachable ∧
      Store.sharedSlug.organizationId? (.bySlug "acme") = some (.ofNat 1) ∧
      (∃ reply, outcome.result = .ok reply) ∧
      outcome = (Store.service .standard).perform (call.naming (.byId (.ofNat 1)))
        Store.sharedSlug ∧
      outcome.state.SameOrganization Store.sharedSlug (.ofNat 2) := by
  intro call outcome
  have hslug : Store.sharedSlug.organizationId? (.bySlug "acme") = some (.ofNat 1) := by
    decide
  obtain ⟨hsame, -, -, hothers⟩ :=
    slug_and_id_interchangeable .standard Store.reachable_sharedSlug call hslug
  have hmember : Store.sharedSlug.HasRole (.ofNat 1) call.actor .member := by
    refine Store.reachable_sharedSlug.filed.role?_eq_some_iff.1 ?_
    decide
  exact ⟨Store.reachable_sharedSlug, hslug, ⟨_, rfl⟩, hsame _ hmember,
    hothers _ (by decide)⟩

end OrgAccess
