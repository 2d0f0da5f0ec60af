import OrgAccess.Proofs.Service.Plan
import OrgAccess.Proofs.Store.Integrity

/-!
# Updating an organization

What comes of an update of an organization, once the actor's ability allows it. An update of no
field leaves everything as it is. Any other replaces the fields that it gives and the time of the
last update, unless another organization has the slug that this one would have (`update_exact`, for
every registry). Where slugs tell organizations apart they do so afterwards: the new slug stands for
the organization and the old one for nothing (`Store.Filed.slugs_addOrganization`).
-/

namespace OrgAccess

/-- An update of no field is one with no field. -/
theorem OrganizationUpdate.isEmpty_iff {update : OrganizationUpdate} :
    update.isEmpty = true ↔ update = ⟨none, none, none⟩ := by
  obtain ⟨name, slug, description⟩ := update
  simp [isEmpty, and_assoc]

namespace Store

variable {registry : Registry} {store : Store} {call : Call} {authorized : Authorized}
  {organization updated : Organization} {update : OrganizationUpdate}

/-- An update that is allowed needs a slug that no other organization has. -/
theorem Filed.perform_updateOrganization (hstore : store.Filed)
    (hrequest : call.request = .updateOrganization update)
    (hability : ((service registry).abilityFor call.actor call.organization store).result =
      .ok authorized)
    (hget : store.organizations.get? authorized.membership.organizationId = some organization)
    (hallowed : authorized.ability.can .update (.record organization.subject) = true) :
    let outcome := (service registry).perform call store
    let updated := update.apply call.now organization
    (outcome.result, outcome.state) =
      if update.isEmpty then (.ok (.organization organization), store)
      else if store.SlugTaken updated.slug organization.id then
        (.error (.conflict (.organizationSlug updated.slug)), store)
      else (.ok (.organization updated), store.addOrganization updated) := by
  obtain ⟨actor, reference, request, now, freshId⟩ := call
  obtain rfl : request = .updateOrganization update := hrequest
  intro outcome updated
  -- the record that is loaded is that of the organization of the membership
  have hid : organization.id = authorized.membership.organizationId :=
    hstore.organizations _ _ hget
  have hnamed := organizationId?_of_resolveMembership (Registry.abilityFor_eq_ok_iff.1 hability).1
  have hfind : store.findOrganization reference = some organization := by
    refine hstore.findOrganization_eq_some_iff.2 ⟨?_, ?_⟩
    · rw [hid]
      exact hnamed
    · rw [hid]
      exact hget
  have hadmitted : registry.verdict
      ⟨actor, reference, .updateOrganization update, now, freshId⟩ store =
        .ok ⟨authorized, organization⟩ :=
    Registry.verdict_of_abilityFor hability (Missing.unlessFound_eq_ok_iff.2 hfind) hallowed
  rw [show outcome.result = _ from (perform_of_verdict_ok hadmitted).1,
    show outcome.state = _ from (perform_of_verdict_ok hadmitted).2]
  simp only [Call.serve, Call.agenda, Call.agendaFor]
  cases update.isEmpty with
  | true => rfl
  | false =>
      have hthere : ¬ store.organizations.get? updated.id = none := by
        simp [updated, OrganizationUpdate.apply, hid, hget]
      have hsave : store.attempt (.saveOrganization updated) = _ :=
        (store.saveOrganization_eq updated).trans (if_neg hthere)
      simp only [Bool.false_eq_true, if_false]
      by_cases htaken : store.SlugTaken updated.slug organization.id
      · rw [if_pos htaken, Agenda.carryOut_write_of_error (hsave.trans (if_pos htaken))]
      · rw [if_neg htaken, Agenda.carryOut_write (hsave.trans (if_neg htaken))]

/-! ## Slugs -/

/-- Where slugs tell organizations apart and one is given a slug that is free, the slug stands for
it, and the slug that it had, if that is another, for nothing. -/
theorem Filed.slugs_addOrganization (hstore : store.Filed)
    (hslugs : store.organizations.DistinctBy Organization.slug)
    (hget : store.organizations.get? updated.id = some organization)
    (hfree : ¬ store.SlugTaken updated.slug updated.id) :
    let after := store.addOrganization updated
    after.organizationId? (.bySlug updated.slug) = some updated.id ∧
      (updated.slug ≠ organization.slug →
        after.organizationId? (.bySlug organization.slug) = none) := by
  intro after
  have hself : after.organizations.get? updated.id = some updated := Table.get?_insert_self
  have hothers : ∀ id, id ≠ updated.id →
      after.organizations.get? id = store.organizations.get? id := fun id hid =>
    Table.get?_insert_of_ne hid
  constructor
  · apply organizationId?_bySlug hself
    rw [(hstore.addOrganization updated).slugTaken_iff]
    rintro ⟨id, other, hid, hother, hslug⟩
    rw [hothers id hid] at hother
    exact hfree (hstore.slugTaken_iff.2 ⟨id, other, hid, hother, hslug⟩)
  · intro hchanged
    refine organizationId?_bySlug_eq_none_iff.2 fun id other hother hslug => ?_
    by_cases hid : id = updated.id
    · rw [hid, hself] at hother
      obtain rfl := Option.some.inj hother
      exact hchanged hslug
    · rw [hothers id hid] at hother
      exact hid (Table.distinctBy_iff.1 hslugs _ _ _ _ hother hget hslug)

end Store

/-- Updating an organization, whatever the registry, once the actor's ability allows it. An update
of no field answers with the record that is stored and changes nothing. Any other is refused with a
conflict over the slug, and changes nothing, exactly if another organization has the slug that this
one would have; else it answers with the record with the fields that are given replaced and another
time of the last update, and stores this in place of the old one and changes nothing else. If slugs
told organizations apart, then after an update that succeeds the slug of the organization stands for
it, and the one that it had, if that was another, for nothing. -/
theorem update_exact (registry : Registry) {store : Store} (hstore : store.Reachable) (call : Call)
    {update : OrganizationUpdate} (hrequest : call.request = .updateOrganization update)
    {authorized : Authorized}
    (hability : ((Store.service registry).abilityFor call.actor call.organization store).result =
      .ok authorized)
    {organization : Organization}
    (hget : store.organizations.get? authorized.membership.organizationId = some organization)
    (hallowed : authorized.ability.can .update (.record organization.subject) = true) :
    let updated : Organization :=
      { organization with
        name := update.name.getD organization.name
        slug := update.slug.getD organization.slug
        description := update.description.or organization.description
        updatedAt := call.now }
    let outcome := (Store.service registry).perform call store
    let after := outcome.state
    (update = ⟨none, none, none⟩ →
      outcome.result = .ok (.organization organization) ∧ after = store) ∧
    (update ≠ ⟨none, none, none⟩ →
      (outcome.result = .error (.conflict (.organizationSlug updated.slug)) ∧ after = store ↔
        store.SlugTaken updated.slug organization.id) ∧
      (¬ store.SlugTaken updated.slug organization.id →
        outcome.result = .ok (.organization updated) ∧
          after = { store with
            organizations := store.organizations.insert organization.id updated } ∧
          after.organizations.get? organization.id = some updated)) ∧
    (store.organizations.DistinctBy Organization.slug →
      ∀ record, outcome.result = .ok (.organization record) →
        after.organizationId? (.bySlug updated.slug) = some organization.id ∧
        (updated.slug ≠ organization.slug →
          after.organizationId? (.bySlug organization.slug) = none)) := by
  intro updated outcome after
  have hfiled := hstore.filed
  have houtcome : (outcome.result, after) = _ :=
    hfiled.perform_updateOrganization hrequest hability hget hallowed
  have hid : organization.id = authorized.membership.organizationId :=
    hfiled.organizations _ _ hget
  rw [← hid] at hget
  by_cases hempty : update = ⟨none, none, none⟩
  · -- nothing is to be replaced, the slug included
    obtain ⟨hresult, hstate⟩ :=
      Prod.mk.inj (houtcome.trans (if_pos (OrganizationUpdate.isEmpty_iff.2 hempty)))
    refine ⟨fun _ => ⟨hresult, hstate⟩, fun hsome => absurd hempty hsome, fun hslugs _ _ => ?_⟩
    have hslug : updated.slug = organization.slug := by simp [updated, hempty]
    rw [hstate, hslug]
    exact ⟨Store.organizationId?_bySlug hget (hfiled.not_slugTaken hslugs hget),
      fun hchanged => absurd rfl hchanged⟩
  rw [if_neg (mt OrganizationUpdate.isEmpty_iff.1 hempty)] at houtcome
  by_cases htaken : store.SlugTaken updated.slug organization.id
  · obtain ⟨hresult, hstate⟩ := Prod.mk.inj (houtcome.trans (if_pos htaken))
    refine ⟨fun h => absurd h hempty, fun _ => ⟨iff_of_true ⟨hresult, hstate⟩ htaken,
      fun hfree => absurd htaken hfree⟩, fun _ record hok => ?_⟩
    cases hresult.symm.trans hok
  · obtain ⟨hresult, hstate⟩ := Prod.mk.inj (houtcome.trans (if_neg htaken))
    have hold : store.organizations.get? updated.id = some organization := hget
    refine ⟨fun h => absurd h hempty, fun _ => ⟨iff_of_false ?_ htaken,
      fun _ => ⟨hresult, hstate, ?_⟩⟩, fun hslugs _ _ => ?_⟩
    · rintro ⟨hconflict, -⟩
      cases hresult.symm.trans hconflict
    · rw [hstate]
      exact Table.get?_insert_self
    · rw [hstate]
      exact hfiled.slugs_addOrganization hslugs hold htaken

/-- An organization is given another slug: the new one stands for it and the old one for nothing. -/
theorem slugs_neighbours :
    let acme := Store.neighbours.tenant 1 "acme" 11
    let call : Call :=
      { actor := .ofNat 11
        organization := .bySlug "acme"
        request := .updateOrganization ⟨none, some "apex", some "Tools"⟩
        now := Store.sharedSlug.start
        freshId := .ofNat 41 }
    let authorized : Authorized :=
      ⟨⟨.ofNat 11, .ofNat 1, .admin⟩, Registry.abilityOf .admin (.ofNat 11) .admin⟩
    let outcome := (Store.service .standard).perform call Store.neighbours
    Store.neighbours.Reachable ∧
      ((Store.service .standard).abilityFor call.actor call.organization
        Store.neighbours).result = .ok authorized ∧
      Store.neighbours.organizations.get? (.ofNat 1) = some acme ∧
      authorized.ability.can .update (.record acme.subject) = true ∧
      Store.neighbours.organizations.DistinctBy Organization.slug ∧
      ¬ Store.neighbours.SlugTaken "apex" (.ofNat 1) ∧
      outcome.result = .ok (.organization
        { acme with slug := "apex", description := some "Tools", updatedAt := call.now }) ∧
      outcome.state.organizationId? (.bySlug "apex") = some (.ofNat 1) ∧
      outcome.state.organizationId? (.bySlug "acme") = none := by
  intro acme call authorized outcome
  have hability : ((Store.service .standard).abilityFor call.actor call.organization
      Store.neighbours).result = .ok authorized := rfl
  have hget : Store.neighbours.organizations.get? (.ofNat 1) = some acme := rfl
  have hallowed : authorized.ability.can .update (.record acme.subject) = true := by
    decide
  have hslugs : Store.neighbours.organizations.DistinctBy Organization.slug := by
    decide
  have hfree : ¬ Store.neighbours.SlugTaken "apex" (.ofNat 1) := by decide
  obtain ⟨-, hchange, hlookup⟩ := update_exact .standard Store.reachable_neighbours call rfl
    hability hget hallowed
  obtain ⟨hresult, -, -⟩ := (hchange (by decide)).2 hfree
  obtain ⟨hnew, hold⟩ := hlookup hslugs _ hresult
  exact ⟨Store.reachable_neighbours, hability, hget, hallowed, hslugs, hfree, hresult, hnew,
    hold (by decide)⟩

end OrgAccess
