import OrgAccess.Proofs.Service.Effect
import OrgAccess.Proofs.Service.Independence
import OrgAccess.Proofs.Service.Succession

/-!
# Taking back what was made

With the standard roles an invite that was made can be revoked by any admin of its organization, and
a project that was made can be deleted by whoever made it and by any admin. The store is then the
one that there was before, record for record and in the same order (`creation_undone`), so that the
seat and the address of the invite, or the slug of the project, are free as they were.
-/

namespace OrgAccess

namespace Store

variable {store : Store} {call : Call} {id : Uuid} {role : Role}

/-! ## Removals -/

/-- A member whom the table does not refuse the revision of a record makes it. -/
theorem Filed.revised_of_not_refuses (hstore : store.Filed) {organization : Organization}
    (hfind : store.findOrganization call.organization = some organization)
    (hrole : store.HasRole organization.id call.actor role) {record : call.request.Record}
    (hrecord : call.record store organization.id = .ok record)
    (hallowed : ¬ store.Refuses organization call.actor role call.request)
    (hid : call.request.recordId? = some id) :
    let outcome := (service .standard).perform call store
    outcome.result = .ok (call.answer store) ∧
      outcome.state = store.revise? call.revision? := by
  obtain ⟨admitted, hverdict⟩ :=
    hstore.exists_verdict_of_not_refuses hfind hrole hrecord hallowed
  dsimp only
  rw [(perform_of_verdict_ok hverdict).1, (perform_of_verdict_ok hverdict).2]
  exact hstore.serve_of_recordId? hid hverdict

/-- An admin of its organization revokes an invite. -/
theorem Filed.revoked_by_admin (hstore : store.Filed) {invite : Invite}
    (hget : store.invites.get? invite.id = some invite)
    (hrequest : call.request = .revokeInvite invite.id)
    (hnamed : store.organizationId? call.organization = some invite.organizationId)
    (hadmin : store.HasRole invite.organizationId call.actor .admin) :
    let outcome := (service .standard).perform call store
    outcome.result = .ok .done ∧
      outcome.state = store.revise (.invite invite.id fun _ => none) := by
  obtain ⟨organization, hfind, horganization⟩ := hstore.exists_findOrganization hnamed
  have hfound : store.findInvite organization.id invite.id = some invite :=
    Option.filter_eq_some_iff.2 ⟨hget, decide_eq_true horganization.symm⟩
  rw [← horganization] at hadmin
  obtain ⟨actor, reference, request, now, freshId⟩ := call
  obtain rfl : request = .revokeInvite invite.id := hrequest
  refine hstore.revised_of_not_refuses hfind hadmin (Missing.unlessFound_eq_ok_iff.2 hfound) ?_ rfl
  rintro ⟨-, -, hrank⟩
  exact hrank rfl

/-- An admin of its organization deletes a project, and so does a member who owns it. -/
theorem Filed.deleted_by_admin_or_owner (hstore : store.Filed) {project : Project}
    (hget : store.projects.get? project.id = some project)
    (hrequest : call.request = .deleteProject project.id)
    (hnamed : store.organizationId? call.organization = some project.organizationId)
    (hrole : store.HasRole project.organizationId call.actor role)
    (hrank : role = .admin ∨ role = .member ∧ call.actor = project.ownerId) :
    let outcome := (service .standard).perform call store
    outcome.result = .ok .done ∧
      outcome.state = store.revise (.project project.id fun _ => none) := by
  obtain ⟨organization, hfind, horganization⟩ := hstore.exists_findOrganization hnamed
  have hfound : store.findProject organization.id project.id = some project :=
    Option.filter_eq_some_iff.2 ⟨hget, decide_eq_true horganization.symm⟩
  rw [← horganization] at hrole
  obtain ⟨actor, reference, request, now, freshId⟩ := call
  obtain rfl : request = .deleteProject project.id := hrequest
  refine hstore.revised_of_not_refuses hfind hrole (Missing.unlessFound_eq_ok_iff.2 hfound) ?_ rfl
  rintro ⟨found, hother, hrefused⟩
  obtain rfl := Option.some.inj (hfound.symm.trans hother)
  exact hrefused hrank

/-! ## What was made -/

/-- Whoever a call succeeds for is a member that the table does not refuse. -/
theorem Filed.not_refuses_of_ok (hstore : store.Filed) {reply : Reply}
    (h : ((service .standard).perform call store).result = .ok reply) :
    ∃ organization role, store.findOrganization call.organization = some organization ∧
      store.HasRole organization.id call.actor role ∧
      ¬ store.Refuses organization call.actor role call.request := by
  obtain ⟨admitted, hverdict⟩ := exists_verdict_of_ok h
  obtain ⟨organization, role, hfind, -, hrole, hallowed⟩ := hstore.not_refuses_of_verdict hverdict
  exact ⟨organization, role, hfind, hrole, hallowed⟩

/-- An invite that was made is there, where there was a seat and its address was not invited, and
to remove it is to go back. -/
theorem Filed.made_invite (hstore : store.Filed) (registry : Registry) (hfresh : call.IsFresh store)
    {invite : Invite} (h : ((service registry).perform call store).result = .ok (.invite invite)) :
    let made := ((service registry).perform call store).state
    made.invites.get? invite.id = some invite ∧
      made.revise (.invite invite.id fun _ => none) = store ∧
      store.freeSeat invite.organizationId = .ok () ∧
      ¬ store.Invited invite.organizationId invite.email := by
  obtain ⟨organizationId, -, heffect⟩ := hstore.effect_of_ok h
  generalize ((service registry).perform call store).state = made at heffect ⊢
  cases heffect with
  | madeInvite hrequest hnew hseat hfree =>
      obtain rfl := hnew
      rw [Call.IsFresh, hrequest] at hfresh
      refine ⟨Table.get?_insert_self, ?_, hseat, Store.not_invited_iff.2 hfree⟩
      exact congrArg (fun invites => { store with invites }) (Table.alter_insert hfresh _)

/-- A project that was made is there, where its slug was free, whoever made it is an admin or a
member who owns it, and to remove it is to go back. -/
theorem Filed.made_project (hstore : store.Filed) (hfresh : call.IsFresh store) {input : NewProject}
    (hrequest : call.request = .createProject input) {project : Project}
    (h : ((service .standard).perform call store).result = .ok (.project project)) :
    let made := ((service .standard).perform call store).state
    made.projects.get? project.id = some project ∧
      made.revise (.project project.id fun _ => none) = store ∧
      (∃ role, made.HasRole project.organizationId call.actor role ∧
        (role = .admin ∨ role = .member ∧ call.actor = project.ownerId)) ∧
      ∀ other ∈ store.projects.values, other.organizationId = project.organizationId →
        other.slug ≠ project.slug := by
  obtain ⟨organization, role, hfind, hrole, hallowed⟩ := hstore.not_refuses_of_ok h
  rw [hrequest] at hallowed
  obtain ⟨organizationId, hnamed, heffect⟩ := hstore.effect_of_ok h
  have hid := (hstore.findOrganization_eq_some_iff.1 hfind).1
  obtain rfl := Option.some.inj (hnamed.symm.trans hid)
  generalize ((service .standard).perform call store).state = made at heffect ⊢
  cases heffect with
  | savedProject hother _ _ => cases hother.symm.trans hrequest
  | madeProject hrequest hnew hfree =>
      obtain rfl := hnew
      rw [Call.IsFresh, hrequest] at hfresh
      refine ⟨Table.get?_insert_self, ?_, ⟨role, hrole, ?_⟩, hfree⟩
      · exact congrArg (fun projects => { store with projects }) (Table.alter_insert hfresh _)
      · cases role with
        | admin => exact .inl rfl
        | member => exact .inr ⟨rfl, rfl⟩
        | billing => exact absurd rfl hallowed

end Store

/-- With the standard roles, what is made can be taken back. If an invite is made, then any admin of
its organization can revoke it, the store is the one that there was, and a seat and the address are
free. If a project is made, then whoever made it and any admin of its organization can delete it,
the store is the one that there was, and the slug is free. The identifier of what is made is taken
to be fresh. -/
theorem creation_undone {store : Store} (hstore : store.Reachable) {create : Call}
    (hfresh : create.IsFresh store) (remove : Call) :
    let perform := (Store.service .standard).perform
    let made := perform create store
    let removed := perform remove made.state
    (∀ invite, made.result = .ok (.invite invite) →
      remove.request = .revokeInvite invite.id →
      made.state.organizationId? remove.organization = some invite.organizationId →
      made.state.HasRole invite.organizationId remove.actor .admin →
      removed.result = .ok .done ∧ removed.state = store ∧
        removed.state.freeSeat invite.organizationId = .ok () ∧
        ¬ removed.state.Invited invite.organizationId invite.email) ∧
    (∀ input project, create.request = .createProject input →
      made.result = .ok (.project project) →
      remove.request = .deleteProject project.id →
      made.state.organizationId? remove.organization = some project.organizationId →
      remove.actor = create.actor ∨
        made.state.HasRole project.organizationId remove.actor .admin →
      removed.result = .ok .done ∧ removed.state = store ∧
        ∀ other ∈ removed.state.projects.values,
          other.organizationId = project.organizationId → other.slug ≠ project.slug) := by
  intro perform made removed
  have hafter : made.state.Filed := (hstore.perform .standard create).filed
  constructor
  · intro invite hmade hrequest hnamed hadmin
    obtain ⟨hthere, hback, hseat, hfree⟩ := hstore.filed.made_invite .standard hfresh hmade
    obtain ⟨hdone, hrevoked⟩ := hafter.revoked_by_admin hthere hrequest hnamed hadmin
    have hsame : removed.state = store := hrevoked.trans hback
    rw [hsame]
    exact ⟨hdone, rfl, hseat, hfree⟩
  · intro input project hcreate hmade hrequest hnamed hremover
    obtain ⟨hthere, hback, hcreator, hfree⟩ := hstore.filed.made_project hfresh hcreate hmade
    have hentitled : ∃ role, made.state.HasRole project.organizationId remove.actor role ∧
        (role = .admin ∨ role = .member ∧ remove.actor = project.ownerId) := by
      rcases hremover with hself | hadmin
      · rw [hself]
        exact hcreator
      · exact ⟨.admin, hadmin, .inl rfl⟩
    obtain ⟨role, hrole, hrank⟩ := hentitled
    obtain ⟨hdone, hdeleted⟩ :=
      hafter.deleted_by_admin_or_owner hthere hrequest hnamed hrole hrank
    have hsame : removed.state = store := hdeleted.trans hback
    rw [hsame]
    exact ⟨hdone, rfl, hfree⟩

/-- A member makes a project and deletes it; an admin gives the last seat away and another takes it
back. -/
theorem undone_neighbours :
    let draft : Call :=
      { actor := .ofNat 13
        organization := .bySlug "acme"
        request := .createProject ⟨"Docs", "docs", none⟩
        now := Store.sharedSlug.start
        freshId := .ofNat 41 }
    let discard : Call := { draft with request := .deleteProject (.ofNat 41) }
    let offer : Call :=
      { draft with actor := .ofNat 11, request := .createInvite "Kim@acme.org" .member }
    let withdraw : Call :=
      { offer with
        actor := .ofNat 12
        organization := .byId (.ofNat 1)
        request := .revokeInvite (.ofNat 41) }
    let perform := (Store.service .standard).perform
    let drafted := perform draft Store.neighbours
    let offered := perform offer Store.neighbours
    Store.neighbours.Reachable ∧ draft.IsFresh Store.neighbours ∧ offer.IsFresh Store.neighbours ∧
      (∃ project, drafted.result = .ok (.project project) ∧ project.id = .ofNat 41) ∧
      (∃ invite, offered.result = .ok (.invite invite) ∧ invite.id = .ofNat 41) ∧
      offered.state.freeSeat (.ofNat 1) ≠ .ok () ∧
      (perform discard drafted.state).state = Store.neighbours ∧
      (perform withdraw offered.state).state = Store.neighbours ∧
      Store.neighbours.freeSeat (.ofNat 1) = .ok () := by
  intro draft discard offer withdraw perform drafted offered
  have hdraft : draft.IsFresh Store.neighbours := by
    show Store.neighbours.projects.get? (.ofNat 41) = none
    decide
  have hoffer : offer.IsFresh Store.neighbours := by
    show Store.neighbours.invites.get? (.ofNat 41) = none
    decide
  have hdrafted : drafted.result = .ok (.project
      (NewProject.toProject ⟨"Docs", "docs", none⟩ (.ofNat 41) (.ofNat 1) (.ofNat 13)
        Store.sharedSlug.start)) := by decide
  have hoffered : offered.result = .ok (.invite
      (.new (.ofNat 41) (.ofNat 1) "Kim@acme.org" .member (.ofNat 11) Store.sharedSlug.start)) := by
    decide
  obtain ⟨-, hproject⟩ := creation_undone Store.reachable_neighbours hdraft discard
  obtain ⟨-, hdiscarded, -⟩ := hproject _ _ rfl hdrafted rfl (by decide) (.inl rfl)
  obtain ⟨hinvite, -⟩ := creation_undone Store.reachable_neighbours hoffer withdraw
  obtain ⟨-, hwithdrawn, hseat, -⟩ := hinvite _ hoffered rfl (by decide)
    (Store.hasRole_of_role? (by decide))
  rw [hwithdrawn] at hseat
  exact ⟨Store.reachable_neighbours, hdraft, hoffer, ⟨_, hdrafted, rfl⟩, ⟨_, hoffered, rfl⟩,
    by decide, hdiscarded, hwithdrawn, hseat⟩

end OrgAccess
