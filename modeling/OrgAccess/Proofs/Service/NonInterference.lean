import OrgAccess.Proofs.Service.Isolation
import OrgAccess.Proofs.Store.Locality

/-!
# What other organizations have is not observed

Two stores that have the same records of an organization cannot be told apart by calls on it,
whatever the registry: a call is answered alike, tells the same events, and leaves the same records
of the organization (`SameSlice.same_perform`). What a call is admitted with, what it has on
its agenda and what its commands come to is compared one after the other. The slug that an
organization is to be saved with is compared with those of all others, so there the stores must
agree.
-/

namespace OrgAccess

/-! ## Answers that cannot be told apart -/

/-- Two replies are the same, or list the same invites with equally old ones in another order. -/
inductive Reply.Same : Reply → Reply → Prop
  | refl (reply : Reply) : Same reply reply
  | reordered {xs ys : List Invite} (hinvites : xs.Perm ys)
      (hages : xs.map Invite.createdAt = ys.map Invite.createdAt) :
      Same (.invites xs) (.invites ys)

/-- Two agendas have the same commands and the same answer. -/
structure Agenda.Same (x y : Agenda) : Prop where
  writes : x.writes = y.writes
  reply : x.reply.Same y.reply

/-- An agenda is the same as itself. -/
theorem Agenda.Same.refl (agenda : Agenda) : agenda.Same agenda :=
  ⟨rfl, .refl agenda.reply⟩

/-- Two outcomes are the same for those who see one organization. -/
structure Outcome.Same (organizationId : Uuid) (x y : Outcome Store Reply) : Prop where
  result : SameResult Reply.Same x.result y.result
  events : x.events = y.events
  state : x.state.SameSlice y.state organizationId

/-- The slug that an organization is to be saved with. -/
def Request.savedSlug? (organization : Organization) : Request → Option String
  | .updateOrganization update =>
      if update.isEmpty then none else some (update.slug.getD organization.slug)
  | .transferOwnership _ => some organization.slug
  | _ => none

/-- What a plan saves of the organization has that slug. -/
theorem Call.Plans.savedSlug?_eq {call : Call} {store : Store} {organizationId : Uuid}
    {agenda : Agenda} (h : call.Plans store organizationId agenda)
    {write : Store.Command × Event} (hwrite : write ∈ agenda.writes) {saved : Organization}
    (hsaved : write.1 = .saveOrganization saved) :
    ∃ organization, store.organizations.get? organizationId = some organization ∧
      call.request.savedSlug? organization = some saved.slug := by
  cases h with
  | updateNothing _ _ _ | getBilling _ _ | listInvites _ => cases hwrite
  | shutdownOrganization _ _ | createProject _ _ | updateProject _ _ | deleteProject _ _
  | createInvite _ _ _ | revokeInvite _ _ =>
      obtain rfl := List.mem_singleton.1 hwrite
      cases hsaved
  | @updateOrganization update organization hrequest hempty hget =>
      obtain rfl := List.mem_singleton.1 hwrite
      cases hsaved
      refine ⟨organization, hget, ?_⟩
      rw [hrequest, Request.savedSlug?, hempty]
      rfl
  | @transferOwnership newOwner organization role hrequest hget hrole =>
      refine ⟨organization, hget, ?_⟩
      rw [hrequest]
      rcases mem_transferWrites hwrite with hcommand | hcommand
      · cases hcommand.symm.trans hsaved
      · cases hcommand.symm.trans hsaved
        rfl

namespace Store.SameSlice

variable {registry : Registry} {a b : Store} {call : Call} {organizationId : Uuid}

/-! ## Admission -/

/-- A call finds the same record in both stores, or misses the same. -/
theorem record_eq (h : a.SameSlice b organizationId)
    (hna : a.organizationId? call.organization = some organizationId)
    (hnb : b.organizationId? call.organization = some organizationId) :
    call.record a organizationId = call.record b organizationId := by
  obtain ⟨actor, reference, request, now, freshId⟩ := call
  have hfind := h.findOrganization_eq hna hnb
  cases request with
  | updateOrganization _ | shutdownOrganization | transferOwnership _ =>
      exact congrArg (Missing.organization reference).unlessFound hfind
  | createProject _ | createInvite _ _ | listInvites => rfl
  | updateProject projectId _ | deleteProject projectId =>
      exact congrArg (Missing.project projectId).unlessFound (h.projects projectId)
  | getBilling => exact congrArg (Missing.billingAccount organizationId).unlessFound h.billing
  | revokeInvite inviteId =>
      exact congrArg (Missing.invite inviteId).unlessFound (h.invites inviteId)

/-- A call is admitted in both stores, with the same events, or in neither. -/
theorem admission_eq (registry : Registry) (h : a.SameSlice b organizationId)
    (hna : a.organizationId? call.organization = some organizationId)
    (hnb : b.organizationId? call.organization = some organizationId) :
    registry.verdict call a = registry.verdict call b ∧
      registry.admissionEvents call a = registry.admissionEvents call b := by
  unfold Registry.verdict Registry.admissionEvents
  rw [h.resolveMembership_eq call.actor hna hnb]
  cases hresolve : b.resolveMembership call.actor call.organization with
  | none => exact ⟨rfl, rfl⟩
  | some membership =>
      have hid := organizationId?_of_resolveMembership hresolve
      obtain rfl := Option.some.inj (hnb.symm.trans hid)
      -- the ability depends on the role alone, so only the record is left to compare
      dsimp only
      rw [h.record_eq hna hnb]
      exact ⟨rfl, rfl⟩

/-! ## Agendas -/

/-- Whether there is a free seat is the same in both stores. -/
theorem freeSeat_eq (ha : a.Filed) (hb : b.Filed) (h : a.SameSlice b organizationId) :
    a.freeSeat organizationId = b.freeSeat organizationId := by
  rw [freeSeat, freeSeat, h.billing, h.seatsInUse_eq ha hb]

/-- An admitted call has the same commands on its agenda. -/
theorem same_agenda (ha : a.Filed) (hb : b.Filed) (h : a.SameSlice b organizationId)
    (hna : a.organizationId? call.organization = some organizationId)
    (hnb : b.organizationId? call.organization = some organizationId)
    {admitted : call.Admitted} (hverdict : registry.verdict call a = .ok admitted) :
    SameResult Agenda.Same (call.agenda a admitted) (call.agenda b admitted) := by
  obtain rfl := Option.some.inj (hna.symm.trans (organizationId?_of_verdict hverdict))
  obtain ⟨⟨membership, ability⟩, record⟩ := admitted
  obtain ⟨-, -, hrecord, -⟩ := Registry.verdict_eq_ok_iff.1 hverdict
  obtain ⟨actor, reference, request, now, freshId⟩ := call
  unfold Call.agenda
  cases request with
  | updateOrganization _ | shutdownOrganization | createProject _ | updateProject _ _
  | deleteProject _ | getBilling | revokeInvite _ => exact .refl .refl _
  | transferOwnership newOwner =>
      obtain ⟨hid, hget⟩ :=
        ha.findOrganization_eq_some_iff.1 (Missing.unlessFound_eq_ok_iff.1 hrecord)
      have hsame : membership.organizationId = Organization.id record :=
        Option.some.inj (hna.symm.trans hid)
      rw [hsame] at h
      -- the new owner is looked for among the members of the organization
      have hmember : a.resolveMembership newOwner (.byId (Organization.id record)) =
          b.resolveMembership newOwner (.byId (Organization.id record)) := by
        rw [resolveMembership_byId hget, resolveMembership_byId (h.organization.symm.trans hget),
          h.role?_eq]
      simp only [Call.agendaFor, hmember]
      exact .refl .refl _
  | createInvite email role =>
      simp only [Call.agendaFor, h.freeSeat_eq ha hb]
      exact .refl .refl _
  | listInvites =>
      exact .done ⟨rfl, .reordered (h.listInvites_perm ha hb) (h.map_createdAt_listInvites ha hb)⟩

/-! ## Outcomes -/

/-- Commands that keep within the organization come to the same in both stores, where these agree
on the slugs that are to be saved. -/
theorem same_carryOutAll (ha : a.Filed) (hb : b.Filed) (h : a.SameSlice b organizationId)
    {x y : Reply} (hreply : x.Same y) {writes : List (Command × Event)}
    (hwithin : Agenda.Each (fun store command => command.Within store organizationId) a writes)
    (hslug : ∀ write ∈ writes, ∀ organization, write.1 = .saveOrganization organization →
      (a.SlugTaken organization.slug organizationId ↔
        b.SlugTaken organization.slug organizationId)) :
    (Agenda.carryOutAll x writes a).Same organizationId (Agenda.carryOutAll y writes b) := by
  induction writes generalizing a b with
  | nil => exact ⟨.done hreply, rfl, h⟩
  | cons write rest ih =>
      have hattempt := h.attempt ha hb hwithin.1 (hslug write List.mem_cons_self)
      unfold Agenda.carryOutAll
      generalize hx : a.attempt write.1 = atA, hy : b.attempt write.1 = atB at hattempt
      cases hattempt with
      | refused failure => exact ⟨.refused failure, rfl, h⟩
      | done hslice =>
          have hrest := ih (ha.attempt hx) (hb.attempt hy) hslice (hwithin.2 _ hx) ?_
          · exact ⟨hrest.result, congrArg (write.2 :: ·) hrest.events, hrest.state⟩
          · -- the slugs of other organizations are what they were
            intro other hother organization hsave
            rw [hwithin.1.slugTaken_iff ha hx, (h.within hwithin.1).slugTaken_iff hb hy]
            exact hslug other (List.mem_cons_of_mem write hother) organization hsave

/-- A call on the organization comes to the same in both stores, where these agree on the slug that
is to be saved. -/
theorem same_perform (registry : Registry) (ha : a.Filed) (hb : b.Filed)
    (h : a.SameSlice b organizationId)
    (hna : a.organizationId? call.organization = some organizationId)
    (hnb : b.organizationId? call.organization = some organizationId)
    (hslug : ∀ organization slug, a.organizations.get? organizationId = some organization →
      call.request.savedSlug? organization = some slug →
        (a.SlugTaken slug organizationId ↔ b.SlugTaken slug organizationId)) :
    ((service registry).perform call a).Same organizationId
      ((service registry).perform call b) := by
  obtain ⟨hverdicts, hevents⟩ := h.admission_eq registry hna hnb
  rw [perform_apply, perform_apply, ← hverdicts, ← hevents]
  cases hverdict : registry.verdict call a with
  | error failure => exact ⟨.refused failure, rfl, h⟩
  | ok admitted =>
      have hagendas := h.same_agenda ha hb hna hnb hverdict
      have hserve : (call.serve admitted a).Same organizationId (call.serve admitted b) := by
        unfold Call.serve
        generalize hx : call.agenda a admitted = atA, call.agenda b admitted = atB at hagendas
        cases hagendas with
        | refused failure => exact ⟨.refused failure, rfl, h⟩
        | done hsame =>
            obtain rfl := Option.some.inj (hna.symm.trans (organizationId?_of_verdict hverdict))
            have hplan := Call.plans_of_agenda ha hverdict hx
            dsimp only [Agenda.carryOut]
            rw [← hsame.writes]
            refine h.same_carryOutAll ha hb hsame.reply (hplan.each_within ha) ?_
            intro write hwrite saved hsaved
            obtain ⟨organization, hget, hsavedSlug⟩ := hplan.savedSlug?_eq hwrite hsaved
            exact hslug organization saved.slug hget hsavedSlug
      exact ⟨hserve.result, congrArg (registry.admissionEvents call a ++ ·) hserve.events,
        hserve.state⟩

end Store.SameSlice

/-! ## Identifiers of other organizations -/

namespace Store

variable {registry : Registry} {a b : Store} {call : Call} {organizationId : Uuid}

/-- Two requests whose records are missing are told apart by nothing but what is missing. -/
theorem SameOrganization.perform_of_record_error (registry : Registry)
    (h : a.SameOrganization b organizationId)
    (hna : a.organizationId? call.organization = some organizationId)
    (hnb : b.organizationId? call.organization = some organizationId)
    {first second : Request} {missing other : Missing}
    (hfirst : ({ call with request := first } : Call).record a organizationId = .error missing)
    (hsecond : ({ call with request := second } : Call).record b organizationId = .error other) :
    let x := (service registry).perform { call with request := first } a
    let y := (service registry).perform { call with request := second } b
    x.events = y.events ∧ x.state = a ∧ y.state = b ∧
      (x.result = y.result ∨
        x.result = .error (.notFound missing) ∧ y.result = .error (.notFound other)) := by
  intro x y
  have hresolve := h.resolveMembership_eq call.actor hna hnb
  simp only [x, y, perform_apply, Registry.verdict, Registry.admissionEvents, hresolve]
  cases hmember : b.resolveMembership call.actor call.organization with
  | none => exact ⟨rfl, rfl, rfl, .inl rfl⟩
  | some membership =>
      have hid := organizationId?_of_resolveMembership hmember
      obtain rfl := Option.some.inj (hnb.symm.trans hid)
      dsimp only
      cases registry.compile membership.principal .default with
      | error fault => exact ⟨rfl, rfl, rfl, .inl rfl⟩
      | ok ability =>
          rw [hfirst, hsecond]
          exact ⟨rfl, rfl, rfl, .inr ⟨rfl, rfl⟩⟩

end Store

/-- Two reachable stores with the same records of an organization cannot be told apart by a call on
it, whatever the registry and whatever else they contain. The call is answered alike, with equally
old invites in any order, tells the same events and leaves the same records of the organization;
for the slug that it is to be saved with, the stores must agree on whether another organization has
it. Requests for records that the organization lacks are told apart by what is missing alone, and
not by whether another organization has it or nobody. -/
theorem others_unobserved (registry : Registry) {a b : Store} (ha : a.Reachable)
    (hb : b.Reachable) {call : Call} {organizationId : Uuid}
    (hna : a.organizationId? call.organization = some organizationId)
    (hnb : b.organizationId? call.organization = some organizationId)
    (hslice : a.SameSlice b organizationId)
    (hslug : ∀ organization slug, a.organizations.get? organizationId = some organization →
      call.request.savedSlug? organization = some slug →
        (a.SlugTaken slug organizationId ↔ b.SlugTaken slug organizationId)) :
    ((Store.service registry).perform call a).Same organizationId
      ((Store.service registry).perform call b) ∧
    ∀ first second missing other,
      a.Lacks organizationId first missing → b.Lacks organizationId second other →
        let x := (Store.service registry).perform { call with request := first } a
        let y := (Store.service registry).perform { call with request := second } b
        x.events = y.events ∧ x.state = a ∧ y.state = b ∧
          (x.result = y.result ∨
            x.result = .error (.notFound missing) ∧ y.result = .error (.notFound other)) := by
  refine ⟨hslice.same_perform registry ha.filed hb.filed hna hnb hslug, ?_⟩
  intro first second missing other hfirst hsecond
  exact hslice.toSameOrganization.perform_of_record_error registry hna hnb hfirst.record_eq
    hsecond.record_eq

/-! ## A neighbour that leaves -/

/-- The owner of the first organization gives it another slug. -/
def rename : Call :=
  { actor := .ofNat 11
    organization := .byId (.ofNat 1)
    request := .updateOrganization ⟨none, some "crux", none⟩
    now := Store.sharedSlug.start
    freshId := .ofNat 41 }
where
  /-- The owner of the second organization shuts it down. -/
  departure : Call :=
    { rename with
      actor := .ofNat 14
      organization := .byId (.ofNat 2)
      request := .shutdownOrganization }
  /-- The store that is left. -/
  alone : Store := ((Store.service .standard).perform departure Store.neighbours).state
  /-- The owner of the first asks for the project of the second to be removed. -/
  probe : Call := { rename with request := .deleteProject (.ofNat 22) }

/-- The owner of the first does not learn whether the second organization and its project are still
there. -/
theorem unobserved_departure :
    Store.neighbours.Reachable ∧ rename.alone.Reachable ∧
      Store.neighbours.organizations.get? (.ofNat 2) ≠ none ∧
      rename.alone.organizations.get? (.ofNat 2) = none ∧
      Store.neighbours.SameSlice rename.alone (.ofNat 1) ∧
      ((Store.service .standard).perform rename Store.neighbours).Same (.ofNat 1)
        ((Store.service .standard).perform rename rename.alone) ∧
      Store.neighbours.NamesForeign (.ofNat 1) (.deleteProject (.ofNat 22))
        (.project (.ofNat 22)) ∧
      rename.alone.projects.get? (.ofNat 22) = none ∧
      let x := (Store.service .standard).perform rename.probe Store.neighbours
      let y := (Store.service .standard).perform rename.probe rename.alone
      x.result = y.result ∧ x.events = y.events := by
  have hreachable := Store.reachable_neighbours
  have halone : rename.alone.Reachable := hreachable.perform .standard rename.departure
  have hfresh : rename.departure.IsFresh Store.neighbours := trivial
  have hother : Store.neighbours.organizationId? rename.departure.organization ≠
      some (.ofNat 1) := by decide
  have hslice : rename.alone.SameSlice Store.neighbours (.ofNat 1) :=
    hreachable.filed.sameSlice_perform .standard hfresh hother
  have hslug : ∀ organization slug,
      Store.neighbours.organizations.get? (.ofNat 1) = some organization →
      rename.request.savedSlug? organization = some slug →
        (Store.neighbours.SlugTaken slug (.ofNat 1) ↔
          rename.alone.SlugTaken slug (.ofNat 1)) := by
    intro organization slug _ hsaved
    obtain rfl : "crux" = slug := Option.some.inj hsaved
    exact iff_of_false (by decide) (by decide)
  have hsite : Store.neighbours.findProject (.ofNat 2) (.ofNat 22) =
      some (Store.neighbours.site 2 22 14) := by decide
  have hforeign : Store.neighbours.NamesForeign (.ofNat 1) (.deleteProject (.ofNat 22))
      (.project (.ofNat 22)) :=
    .deletedProject hsite (by decide)
  have hnowhere : rename.alone.projects.get? (.ofNat 22) = none := by decide
  have hna : Store.neighbours.organizationId? rename.organization = some (.ofNat 1) := by
    decide
  have hnb : rename.alone.organizationId? rename.organization = some (.ofNat 1) := by
    decide
  obtain ⟨hsame, hlacking⟩ :=
    others_unobserved .standard hreachable halone hna hnb hslice.symm hslug
  obtain ⟨hevents, -, -, hresults⟩ := hlacking _ _ _ _ hforeign.lacks
    (.deletedProject (by rw [Store.findProject, hnowhere]; rfl))
  refine ⟨hreachable, halone, by decide, by decide, hslice.symm, hsame, hforeign,
    hnowhere, ?_, hevents⟩
  rcases hresults with hresult | ⟨hx, hy⟩
  · exact hresult
  · exact hx.trans hy.symm

end OrgAccess
