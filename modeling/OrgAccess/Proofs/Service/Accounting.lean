import OrgAccess.Proofs.Service.Amendments
import OrgAccess.Proofs.Service.Provenance
import OrgAccess.Proofs.Service.Shutdown
import OrgAccess.Proofs.Store.Ledger

/-!
# Accounting for projects and invites

What a run of calls did to the projects and the invites of an organization can be read off the
requests and the answers, as a log of records that were made, saved and removed. The log accounts
for every record (`records_accounted_for`): none is lost, none turns up unasked for, each is what
was answered when it was stored last, and none that was removed is ever found again. One call is
compared with its entry in the log, by cases on what it comes to (`Call.Effect.tally_projects`), and
the entries of a run add up.
-/

namespace OrgAccess

namespace Request

/-- What a request and the answer to it say of a project. -/
def loggedProject? : Request → Except Failure Reply → Option (Entry Project)
  | .createProject _, .ok (.project project) => some (.made project)
  | .updateProject _ _, .ok (.project project) => some (.saved project)
  | .deleteProject projectId, .ok _ => some (.removed projectId)
  | _, _ => none

/-- What a request and the answer to it say of an invite. -/
def loggedInvite? : Request → Except Failure Reply → Option (Entry Invite)
  | .createInvite _ _, .ok (.invite invite) => some (.made invite)
  | .revokeInvite inviteId, .ok _ => some (.removed inviteId)
  | _, _ => none

/-- A failure leaves no entry for a project. -/
theorem loggedProject?_error (request : Request) (failure : Failure) :
    request.loggedProject? (.error failure) = none := by
  cases request <;> rfl

/-- A failure leaves no entry for an invite. -/
theorem loggedInvite?_error (request : Request) (failure : Failure) :
    request.loggedInvite? (.error failure) = none := by
  cases request <;> rfl

end Request

/-! ## Calls and their entries -/

namespace Call

variable {store after : Store} {call : Call} {organizationId : Uuid}
  {result : Except Failure Reply}

/-- The entry of a call accounts for the projects of the organization, if that stays open. -/
theorem Effect.tally_projects (h : call.Effect store organizationId result after)
    (hstore : store.Filed) (hopen : call.request = .shutdownOrganization → result ≠ .ok .done) :
    Entry.Tally Project.id call.projectId?.toList (store.findProject organizationId)
      (after.findProject organizationId) (call.request.loggedProject? result).toList := by
  cases h with
  | @madeProject input project hrequest hnew _ =>
      have hid : call.projectId? = some project.id := by
        rw [projectId?, hrequest, hnew]
        rfl
      rw [hrequest, hid]
      refine .make (Table.filter_get?_insert_of_keep ?_)
      rw [hnew]
      exact decide_eq_true rfl
  | @savedProject projectId update project updated hrequest hfind hnew =>
      obtain ⟨hid, horganization⟩ := hstore.of_findProject hfind
      have hkey : updated.id = projectId := by
        rw [hnew]
        exact hid
      rw [hrequest]
      refine .save ?_ ?_
      · rw [hkey, hfind]
        exact Option.some_ne_none project
      · rw [hkey]
        refine Table.filter_get?_insert_of_keep ?_
        rw [hnew]
        exact decide_eq_true horganization
  | removedProject hrequest hfind =>
      rw [hrequest]
      refine .remove ?_ (Table.filter_get?_erase_eq _ _ _)
      rw [hfind]
      exact Option.some_ne_none _
  | shutDown hrequest _ => exact absurd rfl (hopen hrequest)
  | keptOrganization hrequest _ _ | savedOrganization hrequest _ _ _ _
  | handedOver hrequest _ _ _ _ | stoppedHalfway hrequest _ _ _ _ | readBilling hrequest _
  | madeInvite hrequest _ _ _ | listedInvites hrequest | removedInvite hrequest _ =>
      rw [hrequest]
      exact .unchanged _ fun _ => rfl

/-- The entry of a call accounts for the invites to the organization, if that stays open. -/
theorem Effect.tally_invites (h : call.Effect store organizationId result after)
    (hopen : call.request = .shutdownOrganization → result ≠ .ok .done) :
    Entry.Tally Invite.id call.inviteId?.toList (store.findInvite organizationId)
      (after.findInvite organizationId) (call.request.loggedInvite? result).toList := by
  cases h with
  | @madeInvite email role invite hrequest hnew _ _ =>
      have hid : call.inviteId? = some invite.id := by
        rw [inviteId?, hrequest, hnew]
        rfl
      rw [hrequest, hid]
      refine .make (Table.filter_get?_insert_of_keep ?_)
      rw [hnew]
      exact decide_eq_true rfl
  | removedInvite hrequest hfind =>
      rw [hrequest]
      refine .remove ?_ (Table.filter_get?_erase_eq _ _ _)
      rw [hfind]
      exact Option.some_ne_none _
  | shutDown hrequest _ => exact absurd rfl (hopen hrequest)
  | keptOrganization hrequest _ _ | savedOrganization hrequest _ _ _ _
  | handedOver hrequest _ _ _ _ | stoppedHalfway hrequest _ _ _ _ | madeProject hrequest _ _
  | savedProject hrequest _ _ | removedProject hrequest _ | readBilling hrequest _
  | listedInvites hrequest =>
      rw [hrequest]
      exact .unchanged _ fun _ => rfl

/-- A project that a call removes was there, and it is gone for every organization. -/
theorem Effect.removed_project {id : Uuid} (h : call.Effect store organizationId result after)
    (hentry : call.request.loggedProject? result = some (.removed id)) :
    store.projects.get? id ≠ none ∧ after.projects.get? id = none := by
  cases h with
  | removedProject hrequest hfind =>
      rw [hrequest] at hentry
      obtain rfl := Entry.removed.inj (Option.some.inj hentry)
      refine ⟨?_, Table.get?_erase_self⟩
      rw [(Option.filter_eq_some_iff.1 hfind).1]
      exact Option.some_ne_none _
  | keptOrganization hrequest _ _ | savedOrganization hrequest _ _ _ _ | shutDown hrequest _
  | handedOver hrequest _ _ _ _ | stoppedHalfway hrequest _ _ _ _ | madeProject hrequest _ _
  | savedProject hrequest _ _ | readBilling hrequest _ | madeInvite hrequest _ _ _
  | listedInvites hrequest | removedInvite hrequest _ =>
      rw [hrequest] at hentry
      cases hentry

/-- An invite whose removal is logged was there before and is not there after. -/
theorem Effect.removed_invite {id : Uuid} (h : call.Effect store organizationId result after)
    (hentry : call.request.loggedInvite? result = some (.removed id)) :
    store.invites.get? id ≠ none ∧ after.invites.get? id = none := by
  cases h with
  | removedInvite hrequest hfind =>
      rw [hrequest] at hentry
      obtain rfl := Entry.removed.inj (Option.some.inj hentry)
      refine ⟨?_, Table.get?_erase_self⟩
      rw [(Option.filter_eq_some_iff.1 hfind).1]
      exact Option.some_ne_none _
  | keptOrganization hrequest _ _ | savedOrganization hrequest _ _ _ _ | shutDown hrequest _
  | handedOver hrequest _ _ _ _ | stoppedHalfway hrequest _ _ _ _ | madeProject hrequest _ _
  | savedProject hrequest _ _ | removedProject hrequest _ | readBilling hrequest _
  | madeInvite hrequest _ _ _ | listedInvites hrequest =>
      rw [hrequest] at hentry
      cases hentry

end Call

namespace Store

variable {α : Type} {table : Store → Table α} {newId? : Call → Option Uuid}
  {logged? : Request → Except Failure Reply → Option (Entry α)} {registry : Registry}
  {store : Store} {call : Call} {rest calls : List Call} {organizationId id : Uuid}

/-- No call of a run closes an organization when its turn comes. -/
def StaysOpen (store : Store) (registry : Registry) (calls : List Call) (organizationId : Uuid) :
    Prop :=
  ∀ done call rest, calls = done ++ call :: rest →
    ¬ call.Closes registry ((service registry).runState store done) organizationId

/-- The first call of the run does not close the organization. -/
theorem StaysOpen.head (h : store.StaysOpen registry (call :: rest) organizationId) :
    ¬ call.Closes registry store organizationId :=
  h [] call rest rfl

/-- After the first call the organization stays open in the rest of the run. -/
theorem StaysOpen.tail (h : store.StaysOpen registry (call :: rest) organizationId) :
    ((service registry).perform call store).state.StaysOpen registry rest organizationId := by
  intro done next more hrest
  refine h (call :: done) next more ?_
  rw [hrest]
  rfl

/-- An organization that stays open in a run stays open in the first part of it. -/
theorem StaysOpen.left (h : store.StaysOpen registry (calls ++ rest) organizationId) :
    store.StaysOpen registry calls organizationId := by
  rintro done call more rfl
  refine h done call (more ++ rest) ?_
  rw [List.append_assoc, List.cons_append]

/-- An organization that has a name after a run of calls was not closed in the course of it. -/
theorem Reachable.staysOpen_of_named (hstore : store.Reachable) {reference : OrganizationRef}
    (hnamed : ((service registry).runState store calls).organizationId? reference =
      some organizationId) :
    store.StaysOpen registry calls organizationId := by
  rintro done call rest rfl hcloses
  have hdone := hstore.runState registry done
  have hclosed := hdone.perform registry call
  have hforgotten : ((service registry).perform call
      ((service registry).runState store done)).state.Forgotten organizationId := by
    rw [hdone.filed.state_of_closes hcloses]
    exact hdone.filed.forgotten_withoutOrganization organizationId
  have hgone := (hforgotten.runState hclosed registry rest).organization
  refine (hstore.runState registry _).filed.organizationId?_ne_of_gone ?_ reference hnamed
  simpa [Service.runState] using hgone

/-! ## What is found -/

/-- One call and its entry, if the organization stays open. -/
theorem Filed.tallies_perform (hstore : store.Filed) (hfresh : call.IsFresh store)
    (hopen : ¬ call.Closes registry store organizationId) :
    let after := ((service registry).perform call store).state
    Entry.Tally Project.id call.projectId?.toList (store.findProject organizationId)
        (after.findProject organizationId)
        (store.given? Request.loggedProject? registry organizationId call).toList ∧
      Entry.Tally Invite.id call.inviteId?.toList (store.findInvite organizationId)
        (after.findInvite organizationId)
        (store.given? Request.loggedInvite? registry organizationId call).toList := by
  intro after
  unfold given?
  by_cases hnamed : store.organizationId? call.organization = some organizationId
  · rw [if_pos hnamed, if_pos hnamed]
    rcases hstore.settles_perform registry hnamed with ⟨failure, hresult, hstate⟩ | heffect
    · rw [hresult, show after = store from hstate, Request.loggedProject?_error,
        Request.loggedInvite?_error]
      exact ⟨.unchanged _ fun _ => rfl, .unchanged _ fun _ => rfl⟩
    · have hsucceeds : call.request = .shutdownOrganization →
          ((service registry).perform call store).result ≠ .ok .done :=
        fun hrequest hdone => hopen ⟨hrequest, hnamed, hdone⟩
      exact ⟨heffect.tally_projects hstore hsucceeds, heffect.tally_invites hsucceeds⟩
  · have hsame := hstore.sameSlice_perform registry hfresh hnamed
    rw [if_neg hnamed, if_neg hnamed]
    exact ⟨.unchanged _ hsame.projects, .unchanged _ hsame.invites⟩

/-- What gets an identifier later is not found yet and does not get the one that is given now. -/
theorem not_found_later (h : (table store).Unused ((call :: rest).filterMap newId?))
    (keep : α → Bool) : ∀ id ∈ rest.filterMap newId?,
      ((table store).get? id).filter keep = none ∧ id ∉ (newId? call).toList := by
  intro id hid
  obtain ⟨hfree, hother⟩ := unused_later h id hid
  rw [hfree]
  exact ⟨rfl, hother⟩

/-- A run of calls and its log, if the organization stays open. -/
theorem Reachable.tallies_runState (hstore : store.Reachable) (hnew : store.NewIds calls)
    (hopen : store.StaysOpen registry calls organizationId) :
    let now := (service registry).runState store calls
    Entry.Tally Project.id (calls.filterMap Call.projectId?) (store.findProject organizationId)
        (now.findProject organizationId)
        (given Request.loggedProject? registry organizationId store calls) ∧
      Entry.Tally Invite.id (calls.filterMap Call.inviteId?) (store.findInvite organizationId)
        (now.findInvite organizationId)
        (given Request.loggedInvite? registry organizationId store calls) := by
  induction calls generalizing store with
  | nil => exact ⟨.unchanged _ fun _ => rfl, .unchanged _ fun _ => rfl⟩
  | cons call rest ih =>
      obtain ⟨hprojects, hinvites⟩ := hstore.filed.tallies_perform hnew.isFresh hopen.head
      obtain ⟨hlaterProjects, hlaterInvites⟩ :=
        ih (hstore.perform registry call) (hnew.perform hstore.filed registry) hopen.tail
      -- what later calls are given is new, so they make nothing that was there or was removed now
      rw [filterMap_cons_eq, filterMap_cons_eq]
      exact ⟨hprojects.trans hlaterProjects (not_found_later hnew.projects _),
        hinvites.trans hlaterInvites (not_found_later hnew.invites _)⟩

/-! ## What is removed -/

/-- What an entry says to be removed was in a table and is not in it any more. -/
def Removes (table : Store → Table α)
    (logged? : Request → Except Failure Reply → Option (Entry α)) : Prop :=
  ∀ {store : Store}, store.Filed → ∀ (registry : Registry) (call : Call) (organizationId id : Uuid),
    store.given? logged? registry organizationId call = some (.removed id) →
      (table store).get? id ≠ none ∧
        (table ((service registry).perform call store).state).get? id = none

/-- It is enough to look at what calls come to. -/
theorem removes_of_effect (herror : ∀ request failure, logged? request (.error failure) = none)
    (heffect : ∀ {store after : Store} {call : Call} {organizationId id : Uuid}
      {result : Except Failure Reply}, call.Effect store organizationId result after →
        logged? call.request result = some (.removed id) →
          (table store).get? id ≠ none ∧ (table after).get? id = none) :
    Removes table logged? := by
  intro store hstore registry call organizationId id hentry
  obtain ⟨hnamed, hentry⟩ := Option.ite_none_right_eq_some.1 hentry
  rcases hstore.settles_perform registry hnamed with ⟨failure, hresult, -⟩ | hsettled
  · rw [hresult, herror] at hentry
    cases hentry
  · exact heffect hsettled hentry

/-- What is logged as a removed project was there and is removed. -/
theorem removes_projects : Removes Store.projects Request.loggedProject? :=
  removes_of_effect Request.loggedProject?_error fun h hentry => h.removed_project hentry

/-- What is logged as a removed invite was there and is removed. -/
theorem removes_invites : Removes Store.invites Request.loggedInvite? :=
  removes_of_effect Request.loggedInvite?_error fun h hentry => h.removed_invite hentry

/-- What was removed in the course of a run is not there at its end. -/
theorem FilesNew.get?_of_removed (h : FilesNew table newId?) (hremoves : Removes table logged?)
    (hstore : store.Reachable) (hunused : (table store).Unused (calls.filterMap newId?))
    (hremoved : .removed id ∈ given logged? registry organizationId store calls) :
    (table ((service registry).runState store calls)).get? id = none := by
  induction calls generalizing store with
  | nil => cases hremoved
  | cons call rest ih =>
      rcases List.mem_append.1 hremoved with hnow | hlater
      · obtain ⟨hthere, hgone⟩ :=
          hremoves hstore.filed registry call organizationId id (Option.mem_toList.1 hnow)
        exact h.stays_removed hstore registry hunused hthere hgone
      · exact ih (hstore.perform registry call) (h.unused_perform hstore.filed registry hunused)
          hlater

/-! ## What is made -/

/-- Invites are not saved again, so each that is stored was made then. -/
theorem filterMap_record?_invites (registry : Registry) (organizationId : Uuid) (store : Store)
    (calls : List Call) :
    (given Request.loggedInvite? registry organizationId store calls).filterMap Entry.record? =
      (given Request.loggedInvite? registry organizationId store calls).filterMap Entry.made? := by
  refine List.filterMap_congr fun entry hentry => ?_
  obtain ⟨request, result, hgives⟩ := exists_of_mem_given hentry
  cases entry with
  | made _ | removed _ => rfl
  | saved _ =>
      unfold Request.loggedInvite? at hgives
      split at hgives <;> cases hgives

end Store

/-- Every project and every invite of an organization is accounted for, whatever the registry, over
every run of calls by any users and on any organizations, if the identifiers for new records are not
used already. As long as the organization is not shut down, those found at the end are those found
at first and those made in the meantime, without those removed; a project is what was answered when
it was made or changed last, or what it was at first, and an invite is what was answered when it was
made. And what was removed is found under no organization any more. -/
theorem records_accounted_for (registry : Registry) {store : Store} (hstore : store.Reachable)
    {calls : List Call} (hnew : store.NewIds calls) (organizationId : Uuid) :
    let now := (Store.service registry).runState store calls
    let projects := Store.given Request.loggedProject? registry organizationId store calls
    let invites := Store.given Request.loggedInvite? registry organizationId store calls
    (store.StaysOpen registry calls organizationId →
      Entry.Accounts Project.id (store.findProject organizationId)
          (now.findProject organizationId) projects ∧
        Entry.Accounts Invite.id (store.findInvite organizationId)
          (now.findInvite organizationId) invites ∧
        ∀ invite, .made invite ∈ invites → ∀ current,
          now.findInvite organizationId invite.id = some current → current = invite) ∧
    (∀ id, .removed id ∈ projects → now.projects.get? id = none) ∧
    ∀ id, .removed id ∈ invites → now.invites.get? id = none := by
  intro now projects invites
  refine ⟨?_, ?_, ?_⟩
  · intro hopen
    obtain ⟨hprojects, hinvites⟩ := hstore.tallies_runState hnew hopen
    refine ⟨hprojects.toAccounts, hinvites.toAccounts, ?_⟩
    intro invite hmade current hcurrent
    have hrecords : invites.filterMap Entry.record? = invites.filterMap Entry.made? :=
      Store.filterMap_record?_invites registry organizationId store calls
    have hlast : Entry.lastRecord? Invite.id invites invite.id = some invite := by
      apply Entry.lastRecord?_of_nodup
      · rw [hrecords]
        exact hnew.invites.nodup.sublist hinvites.made
      · rw [hrecords]
        exact List.mem_filterMap.2 ⟨_, hmade, rfl⟩
    have hlatest := hinvites.latest invite.id current hcurrent
    rw [hlast] at hlatest
    exact (Option.some.inj hlatest).symm
  · intro id hremoved
    exact Store.filesNew_projects.get?_of_removed Store.removes_projects hstore hnew.projects
      hremoved
  · intro id hremoved
    exact Store.filesNew_invites.get?_of_removed Store.removes_invites hstore hnew.invites hremoved

/-! ## A few changes -/

/-- A member makes a project and renames it, an admin in vain tries to remove another organization's
and then removes the old one and replaces an invite, and the other organization invites somebody
meanwhile. -/
def reshuffle : List Call :=
  [{ trespass with
      actor := .ofNat 13
      request := .createProject ⟨"Shop", "shop", none⟩ },
    trespass,
    { trespass with actor := .ofNat 13, request := .updateProject (.ofNat 41) ⟨"Store", none⟩ },
    { trespass with request := .deleteProject (.ofNat 21) },
    { trespass with request := .revokeInvite (.ofNat 31) },
    { trespass with
      actor := .ofNat 14
      organization := .byId (.ofNat 2)
      request := .createInvite "kim@example.com" .member
      freshId := .ofNat 42 },
    { trespass with request := .createInvite "kim@example.com" .member }]

/-- The new project is there with its new name and the new invite as it was made, and what was
removed is gone. -/
theorem reshuffle_accounted_for :
    Store.neighbours.Reachable ∧ Store.neighbours.NewIds reshuffle ∧
      Store.neighbours.StaysOpen .standard reshuffle (.ofNat 1) ∧
      let now := (Store.service .standard).runState Store.neighbours reshuffle
      now.findProject (.ofNat 1) (.ofNat 41) =
        some { Store.neighbours.site 1 41 13 with name := "Store", slug := "shop" } ∧
      now.findInvite (.ofNat 1) (.ofNat 41) =
        some (.new (.ofNat 41) (.ofNat 1) "kim@example.com" .member (.ofNat 11)
          Store.sharedSlug.start) ∧
      now.projects.get? (.ofNat 21) = none ∧ now.invites.get? (.ofNat 31) = none := by
  have hnew : Store.neighbours.NewIds reshuffle :=
    ⟨⟨by decide, by decide⟩, ⟨by decide, by decide⟩⟩
  have hrequests : ∀ call ∈ reshuffle, call.request ≠ .shutdownOrganization := by decide
  have hopen : Store.neighbours.StaysOpen .standard reshuffle (.ofNat 1) := by
    intro done call rest hcalls hcloses
    refine hrequests call ?_ hcloses.request
    rw [hcalls]
    exact List.mem_append_right done List.mem_cons_self
  obtain ⟨hbooks, hprojects, hinvites⟩ :=
    records_accounted_for .standard Store.reachable_neighbours hnew (.ofNat 1)
  obtain ⟨haccounts, hoffers, hmade⟩ := hbooks hopen
  refine ⟨Store.reachable_neighbours, hnew, hopen, ?_, ?_, hprojects _ (by decide),
    hinvites _ (by decide)⟩
  · have hthere := (haccounts.found (.ofNat 41)).2 ⟨.inr (by decide), by decide⟩
    obtain ⟨project, hproject⟩ := Option.ne_none_iff_exists'.1 hthere
    have hlast : Entry.lastRecord? Project.id (Store.given Request.loggedProject? .standard
        (.ofNat 1) Store.neighbours reshuffle) (.ofNat 41) =
          some { Store.neighbours.site 1 41 13 with name := "Store", slug := "shop" } := by
      decide
    have hlatest := haccounts.latest _ _ hproject
    rw [hlast] at hlatest
    rw [hproject, ← hlatest]
    rfl
  · have hthere := (hoffers.found (.ofNat 41)).2 ⟨.inr (by decide), by decide⟩
    obtain ⟨invite, hinvite⟩ := Option.ne_none_iff_exists'.1 hthere
    rw [hinvite, hmade (.new (.ofNat 41) (.ofNat 1) "kim@example.com" .member (.ofNat 11)
      Store.sharedSlug.start) (by decide) invite hinvite]

end OrgAccess
