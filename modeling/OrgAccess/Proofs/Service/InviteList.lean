import OrgAccess.Proofs.Service.Accounting

/-!
# The list of invites

Whoever may list the invites of an organization is answered what the store lists
(`Call.ListsInvites.result_perform`): all that are stored for the organization, each once, and the
oldest first. The store does not keep them in that order, and it keeps those of other organizations
among them. Over a run of calls that begins without invites to the organization the list is read
off the log of what was made and revoked (`Store.Reachable.listInvites_runState`): both have the
same members, by the account of the log, and both are in the order of the clock.
-/

namespace OrgAccess

namespace Call

/-- The time that a call has for the invite that it is to make. -/
def inviteTime? (call : Call) : Option Instant :=
  match call.request with
  | .createInvite _ _ => some call.now
  | _ => none

/-- A call asks for the invites of an organization and is permitted to. -/
structure ListsInvites (call : Call) (registry : Registry) (store : Store)
    (organizationId : Uuid) : Prop where
  request : call.request = .listInvites
  named : store.organizationId? call.organization = some organizationId
  permitted : registry.Permits store call

/-- A permitted call for the invites of an organization is answered what the store lists. -/
theorem ListsInvites.result_perform {call : Call} {registry : Registry} {store : Store}
    {organizationId : Uuid} (h : call.ListsInvites registry store organizationId)
    (hstore : store.Filed) :
    ((Store.service registry).perform call store).result =
      .ok (.invites (store.listInvites organizationId)) := by
  obtain ⟨actor, organization, request, now, freshId⟩ := call
  obtain rfl : request = .listInvites := h.request
  obtain ⟨admitted, hverdict⟩ := (Registry.exists_verdict_iff hstore).2 h.permitted
  have hid : admitted.membership.organizationId = organizationId :=
    Option.some.inj ((Store.organizationId?_of_verdict hverdict).symm.trans h.named)
  rw [(Store.perform_of_verdict_ok hverdict).1, ← hid]
  rfl

end Call

namespace Store

variable {registry : Registry} {store : Store} {call : Call} {calls : List Call}
  {organizationId : Uuid} {invite : Invite}

/-- An invite that a call makes has the identifier and the time that the call has for it. -/
theorem Filed.invite_of_entry (hstore : store.Filed)
    (h : store.given? Request.loggedInvite? registry organizationId call = some (.made invite)) :
    call.inviteId? = some invite.id ∧ call.inviteTime? = some invite.createdAt := by
  obtain ⟨hnamed, hentry⟩ := Option.ite_none_right_eq_some.1 h
  rcases hstore.settles_perform registry hnamed with ⟨failure, hresult, -⟩ | heffect
  · rw [hresult, Request.loggedInvite?_error] at hentry
    cases hentry
  · unfold Request.loggedInvite? at hentry
    split at hentry
    · next email role reply hrequest hreply =>
      obtain rfl := Entry.made.inj (Option.some.inj hentry)
      obtain ⟨hmade, -⟩ := heffect.invite_made hrequest
      obtain rfl := Reply.invite.inj (Except.ok.inj (hreply.symm.trans hmade))
      rw [Call.inviteId?, Call.inviteTime?, hrequest]
      exact ⟨rfl, rfl⟩
    · cases Option.some.inj hentry
    · cases hentry

/-- The time of the invite that a call makes, if it makes one, is the one that the call has. -/
theorem Filed.invite_time_sublist (hstore : store.Filed) :
    (((store.given? Request.loggedInvite? registry organizationId call).toList.filterMap
      Entry.made?).map Invite.createdAt).Sublist call.inviteTime?.toList := by
  cases hgiven : store.given? Request.loggedInvite? registry organizationId call with
  | none => exact List.nil_sublist _
  | some entry =>
      cases entry with
      | made invite =>
          rw [(hstore.invite_of_entry hgiven).2]
          exact .refl _
      | saved _ | removed _ => exact List.nil_sublist _

/-- The times of the invites that a run makes are among those that its calls have, in order. -/
theorem Reachable.invite_times_sublist (hstore : store.Reachable) :
    (((given Request.loggedInvite? registry organizationId store calls).filterMap
      Entry.made?).map Invite.createdAt).Sublist (calls.filterMap Call.inviteTime?) := by
  induction calls generalizing store with
  | nil => exact .slnil
  | cons call rest ih =>
      rw [given, List.filterMap_append, List.map_append, filterMap_cons_eq]
      exact hstore.filed.invite_time_sublist.append (ih (hstore.perform registry call))

/-! ## What is listed after a run -/

/-- Nothing is revoked before it is made, since its identifier is not in use until then. -/
theorem Reachable.not_removed_before_made (hstore : store.Reachable) (hnew : store.NewIds calls)
    (hopen : store.StaysOpen registry calls organizationId) {before later : List (Entry Invite)}
    (hlog : given Request.loggedInvite? registry organizationId store calls =
      before ++ .made invite :: later) :
    .removed invite.id ∉ before := by
  obtain ⟨done, call, rest, rfl, rfl, hgiven⟩ := exists_of_given_eq_append hlog
  obtain ⟨hid, -⟩ := (hstore.runState registry done).filed.invite_of_entry hgiven
  have hlate : invite.id ∈ (call :: rest).filterMap Call.inviteId? :=
    mem_filterMap_newId?_cons.2 (.inl hid)
  have hunused := hnew.invites
  rw [List.filterMap_append] at hunused
  have hfree := hunused.free _ (List.mem_append_right _ hlate)
  intro hremoved
  rcases (hstore.tallies_runState hnew.left hopen.left).2.removed _ hremoved with hthere | hearly
  · rw [findInvite, hfree] at hthere
    exact hthere rfl
  · exact (List.nodup_append.1 hunused.nodup).2.2 _ hearly _ hlate rfl

/-- If there were no invites to the organization at first, those that are listed after a run of
calls are those that stand in its log. -/
theorem Reachable.mem_listInvites_runState_iff (hstore : store.Reachable)
    (hnew : store.NewIds calls) (hopen : store.StaysOpen registry calls organizationId)
    (hnone : ∀ invite ∈ store.invites.values, invite.organizationId ≠ organizationId) :
    invite ∈ ((service registry).runState store calls).listInvites organizationId ↔
      invite ∈ Entry.standing Invite.id
        (given Request.loggedInvite? registry organizationId store calls) := by
  have hfirst : ∀ id, store.findInvite organizationId id = none := by
    intro id
    rw [findInvite, Option.filter_eq_none_iff]
    intro invite hinvite
    have hother := hnone invite (Table.mem_values_iff.2 ⟨id, hinvite⟩)
    simpa using hother
  rw [(hstore.runState registry calls).filed.mem_listInvites_iff_findInvite]
  exact (hstore.tallies_runState hnew hopen).2.found_iff_mem_standing hnew.invites.nodup hfirst
    (filterMap_record?_invites registry organizationId store calls)
    fun _ _ _ hlog => hstore.not_removed_before_made hnew hopen hlog

/-- The invites that stand after a run were made one after another, if the clock goes on from one
new invite to the next. -/
theorem Reachable.pairwise_standing (hstore : store.Reachable)
    (hclock : (calls.filterMap Call.inviteTime?).Pairwise (· < ·)) :
    ((Entry.standing Invite.id (given Request.loggedInvite? registry organizationId store
      calls)).map Invite.createdAt).Pairwise (· < ·) := by
  have hstands := (Entry.standing_sublist Invite.id
    (given Request.loggedInvite? registry organizationId store calls)).map Invite.createdAt
  exact hclock.sublist (hstands.trans hstore.invite_times_sublist)

/-- The invites that are listed after a run of calls are those that stand in its log, and in the
same order: no two are of one time, so there is one way to list them by age. -/
theorem Reachable.listInvites_runState (hstore : store.Reachable) (hnew : store.NewIds calls)
    (hopen : store.StaysOpen registry calls organizationId)
    (hnone : ∀ invite ∈ store.invites.values, invite.organizationId ≠ organizationId)
    (hclock : (calls.filterMap Call.inviteTime?).Pairwise (· < ·)) :
    ((service registry).runState store calls).listInvites organizationId =
      Entry.standing Invite.id
        (given Request.loggedInvite? registry organizationId store calls) := by
  let listed := ((service registry).runState store calls).listInvites organizationId
  let standing := Entry.standing Invite.id
    (given Request.loggedInvite? registry organizationId store calls)
  have hfiled := (hstore.runState registry calls).filed
  have hincreasing : (standing.map Invite.createdAt).Pairwise (· < ·) :=
    hstore.pairwise_standing hclock
  have hdistinct : (standing.map Invite.createdAt).Nodup := hincreasing.imp ne_of_lt
  have hmembers : ∀ invite, invite ∈ listed ↔ invite ∈ standing := fun _ =>
    hstore.mem_listInvites_runState_iff hnew hopen hnone
  have hperm : listed.Perm standing :=
    (List.perm_ext_iff_of_nodup ((hfiled.nodup_map_id_listInvites organizationId).of_map _)
      (hdistinct.of_map _)).2 hmembers
  refine hperm.eq_of_pairwise ?_ (pairwise_listInvites _ organizationId)
    ((List.pairwise_map.1 hincreasing).imp le_of_lt)
  intro invite other hinvite hother hle hge
  exact List.inj_on_of_nodup_map hdistinct ((hmembers invite).1 hinvite) hother
    (le_antisymm hle hge)

end Store

/-- The list of invites is faithful and in order, whatever the registry. On a reachable store a
permitted call for the invites of an organization is answered a list with every stored invite to
that organization and nothing else, none of them twice, and none before an older one. And after any
run of calls, by any users and on any organizations, that begins without invites to the
organization, such a call is answered exactly what calls on the organization have made and not
revoked since, in the order in which it was made. The identifiers for new records are not in use,
and the clock goes on from one new invite to the next. -/
theorem invites_listed_faithfully (registry : Registry) {store : Store} (hstore : store.Reachable)
    (organizationId : Uuid) :
    (∀ call : Call, call.ListsInvites registry store organizationId →
      ∃ invites, ((Store.service registry).perform call store).result = .ok (.invites invites) ∧
        (∀ invite, invite ∈ invites ↔
          invite ∈ store.invites.values ∧ invite.organizationId = organizationId) ∧
        (invites.map Invite.id).Nodup ∧
        invites.Pairwise fun earlier later => earlier.createdAt ≤ later.createdAt) ∧
    ((∀ invite ∈ store.invites.values, invite.organizationId ≠ organizationId) →
      ∀ calls : List Call, store.NewIds calls →
        (calls.filterMap Call.inviteTime?).Pairwise (· < ·) →
        let now := (Store.service registry).runState store calls
        let log := Store.given Request.loggedInvite? registry organizationId store calls
        ∀ call : Call, call.ListsInvites registry now organizationId →
          ((Store.service registry).perform call now).result =
            .ok (.invites (Entry.standing Invite.id log))) := by
  constructor
  · intro call hlists
    refine ⟨_, hlists.result_perform hstore.filed, fun _ => Store.mem_listInvites_iff, ?_, ?_⟩
    · exact hstore.filed.nodup_map_id_listInvites organizationId
    · exact store.pairwise_listInvites organizationId
  · intro hnone calls hnew hclock now log call hlists
    have hopen := hstore.staysOpen_of_named hlists.named
    have hlisted := hstore.listInvites_runState hnew hopen hnone hclock
    rw [hlists.result_perform (hstore.runState registry calls).filed, hlisted]

/-! ## Some coming and going -/

/-- Two admins invite somebody each, the first invite is revoked, and its author invites the same
address again with another role. Another organization invites somebody meanwhile. -/
def turnover : List Call :=
  [minute 1 (.createInvite "kim@example.com" .member),
    { minute 2 (.createInvite "kim@example.com" .admin) with
      actor := .ofNat 14
      organization := .byId (.ofNat 2) },
    { minute 3 (.createInvite "lee@example.com" .member) with
      actor := .ofNat 12
      organization := .bySlug "acme" },
    minute 4 (.revokeInvite (.ofNat 41)),
    minute 5 (.createInvite "kim@example.com" .billing)]
where
  /-- A call on the first organization, some minutes after the start. -/
  minute (minutes : Nat) (request : Request) : Call :=
    { trespass with
      request
      now := { Store.sharedSlug.start with
        seconds := Store.sharedSlug.start.seconds + 60 * minutes }
      freshId := .ofNat (40 + minutes) }

/-- After the organization has revoked its old invite, the two that stand are listed, and no other
that is stored is to that organization. -/
theorem turnover_listed :
    let revoke : Call := turnover.minute 0 (.revokeInvite (.ofNat 31))
    let start := ((Store.service .standard).perform revoke Store.neighbours).state
    let now := (Store.service .standard).runState start turnover
    let list : Call := { turnover.minute 6 .listInvites with actor := .ofNat 12 }
    let listed : List Invite :=
      [.new (.ofNat 43) (.ofNat 1) "lee@example.com" .member (.ofNat 12)
          (turnover.minute 3 .listInvites).now,
        .new (.ofNat 45) (.ofNat 1) "kim@example.com" .billing (.ofNat 11)
          (turnover.minute 5 .listInvites).now]
    start.Reachable ∧ (∀ invite ∈ start.invites.values, invite.organizationId ≠ .ofNat 1) ∧
      start.NewIds turnover ∧ (turnover.filterMap Call.inviteTime?).Pairwise (· < ·) ∧
      list.ListsInvites .standard now (.ofNat 1) ∧
      ((Store.service .standard).perform list now).result = .ok (.invites listed) ∧
      ∀ invite ∈ now.invites.values, invite.organizationId = .ofNat 1 → invite ∈ listed := by
  intro revoke start now list listed
  have hstart : start.Reachable := Store.reachable_neighbours.perform .standard revoke
  have hnow : now.Reachable := hstart.runState .standard turnover
  have hnone : ∀ invite ∈ start.invites.values, invite.organizationId ≠ .ofNat 1 := by decide
  have hnew : start.NewIds turnover := ⟨⟨by decide, by decide⟩, ⟨by decide, by decide⟩⟩
  have hclock : (turnover.filterMap Call.inviteTime?).Pairwise (· < ·) := by decide
  have hpermitted : Registry.standard.Permits now list :=
    ⟨Store.neighbours.tenant 1 "acme" 11, .admin, Permissions.admin, (), by decide,
      hnow.filed.role?_eq_some_iff.1 (by decide), rfl, rfl, by decide⟩
  have hlists : list.ListsInvites .standard now (.ofNat 1) := ⟨rfl, by decide, hpermitted⟩
  have hresult : ((Store.service .standard).perform list now).result = .ok (.invites listed) := by
    have hstands := (invites_listed_faithfully .standard hstart (.ofNat 1)).2 hnone turnover hnew
      hclock list hlists
    have hlog : Entry.standing Invite.id (Store.given Request.loggedInvite? .standard (.ofNat 1)
        start turnover) = listed := by decide
    rw [hlog] at hstands
    exact hstands
  obtain ⟨invites, hinvites, hmembers, -⟩ :=
    (invites_listed_faithfully .standard hnow (.ofNat 1)).1 list hlists
  obtain rfl := Reply.invites.inj (Except.ok.inj (hresult.symm.trans hinvites))
  exact ⟨hstart, hnone, hnew, hclock, hlists, hresult,
    fun invite hinvite hnamed => (hmembers invite).2 ⟨hinvite, hnamed⟩⟩

end OrgAccess
