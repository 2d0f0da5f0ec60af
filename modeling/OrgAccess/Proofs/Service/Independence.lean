import OrgAccess.Proofs.Service.Plan
import OrgAccess.Proofs.Store.Revision

/-!
# Calls on different records

Changing a project, deleting one and revoking an invite are requests for the revision of one record.
Such a call reads who is a member of what and that record, and writes that record, so that calls for
different records may come in either order (`independent_calls_commute`, for every registry): each
is answered alike, and the same store is left. Where the readings of the clock differ as well, so
do the times of the last update of the projects, and nothing else. It follows that any number of
such calls may come in any order (`Store.Reachable.runState_perm`).
-/

namespace OrgAccess

/-- The identifier of the project or invite that a request is to change or remove. -/
def Request.recordId? : Request → Option Uuid
  | .updateProject id _ | .deleteProject id | .revokeInvite id => some id
  | _ => none

namespace Call

/-- The call at another reading of the clock. -/
def timed (call : Call) (now : Instant) : Call := { call with now }

/-- The revision that a call asks for. -/
def revision? (call : Call) : Option Store.Revision :=
  match call.request with
  | .updateProject projectId update =>
      some (.project projectId fun project => some (update.apply call.now project))
  | .deleteProject projectId => some (.project projectId fun _ => none)
  | .revokeInvite inviteId => some (.invite inviteId fun _ => none)
  | _ => none

/-- What a call for a revision answers when it is done. -/
def answer (call : Call) (store : Store) : Reply :=
  match call.request with
  | .updateProject projectId update =>
      match store.projects.get? projectId with
      | some project => .project (update.apply call.now project)
      | none => .done
  | _ => .done

/-- The revision that a call asks for is of the record that it names. -/
theorem id_of_revision? {call : Call} {revision : Store.Revision}
    (h : call.revision? = some revision) : call.request.recordId? = some revision.id := by
  obtain ⟨actor, reference, request, now, freshId⟩ := call
  cases request with
  | updateProject _ _ | deleteProject _ | revokeInvite _ =>
      obtain rfl := Option.some.inj h
      rfl
  | updateOrganization _ | shutdownOrganization | transferOwnership _ | createProject _
  | getBilling | createInvite _ _ | listInvites => cases h

end Call

namespace Registry

/-- Why a call is not admitted, if it is not. -/
def refusal? (registry : Registry) (call : Call) (store : Store) : Option Failure :=
  match registry.verdict call store with
  | .error failure => some failure
  | .ok _ => none

/-- What a call for a revision is answered. -/
def response (registry : Registry) (call : Call) (store : Store) : Except Failure Reply :=
  match registry.refusal? call store with
  | some failure => .error failure
  | none => .ok (call.answer store)

/-- The revision that a call asks for, if the call is admitted. -/
def granted? (registry : Registry) (call : Call) (store : Store) : Option Store.Revision :=
  match registry.refusal? call store with
  | some _ => none
  | none => call.revision?

/-- Why a call is not admitted is known by the target that its action is checked on. -/
theorem refusal?_eq (registry : Registry) (call : Call) (store : Store) :
    registry.refusal? call store =
      match store.resolveMembership call.actor call.organization with
      | none => some (.notMember call.organization.text)
      | some membership =>
          match registry.compile membership.principal .default with
          | .error fault => some (.ability fault)
          | .ok ability =>
              match (call.record store membership.organizationId).map call.request.target with
              | .error missing => some (.notFound missing)
              | .ok target =>
                  if ability.can call.request.action target then none
                  else some (.forbidden call.request.action target.subjectType) := by
  unfold refusal? verdict
  cases store.resolveMembership call.actor call.organization with
  | none => rfl
  | some membership =>
      dsimp only
      cases registry.compile membership.principal .default with
      | error fault => rfl
      | ok ability =>
          dsimp only
          cases call.record store membership.organizationId with
          | error missing => rfl
          | ok record =>
              dsimp only [Except.map]
              cases ability.can call.request.action (call.request.target record) <;> rfl

end Registry

namespace Store

variable {registry : Registry} {store : Store} {call : Call} {revision : Revision}
  {organizationId id other : Uuid}

/-- The store with a revision made, if there is one to make. -/
def revise? (store : Store) (revision : Option Revision) : Store :=
  revision.elim store store.revise

/-! ## What comes of a call for a revision -/

/-- Saving a project that is found with some of its fields changed is a revision of it. -/
theorem Filed.attempt_saveProject (hstore : store.Filed) {project : Project}
    (hfind : store.findProject organizationId id = some project) {change : Project → Project}
    (hchange : (change project).id = project.id) :
    store.attempt (.saveProject (change project)) =
      .ok (store.revise (.project id fun project => some (change project))) := by
  have hget := (Option.filter_eq_some_iff.1 hfind).1
  obtain rfl : (change project).id = id := hchange.trans (hstore.of_findProject hfind).1
  have halter : store.projects.alter _ (fun project => some (change project)) = _ :=
    Table.alter_of_some hget rfl
  refine saveProject_eq_ok_iff.2 ⟨⟨project, hget⟩, ?_⟩
  rw [revise, halter]

/-- So is deleting it. -/
theorem Filed.attempt_deleteProject (hstore : store.Filed) {project : Project}
    (hfind : store.findProject organizationId id = some project) :
    store.attempt (.deleteProject project.id) =
      .ok (store.revise (.project id fun _ => none)) := by
  have hget := (Option.filter_eq_some_iff.1 hfind).1
  obtain rfl : project.id = id := (hstore.of_findProject hfind).1
  refine deleteProject_eq_ok_iff.2 ⟨⟨project, hget⟩, ?_⟩
  rw [revise, Table.alter_of_none hget rfl]

/-- Revoking an invite that is found is a revision of it. -/
theorem Filed.attempt_deleteInvite (hstore : store.Filed) {invite : Invite}
    (hfind : store.findInvite organizationId id = some invite) :
    store.attempt (.deleteInvite invite.id) = .ok (store.revise (.invite id fun _ => none)) := by
  have hget := (Option.filter_eq_some_iff.1 hfind).1
  obtain rfl : invite.id = id := (hstore.of_findInvite hfind).1
  refine deleteInvite_eq_ok_iff.2 ⟨⟨invite, hget⟩, ?_⟩
  rw [revise, Table.alter_of_none hget rfl]

/-- A call for a revision that is admitted makes the revision. -/
theorem Filed.serve_of_recordId? (hstore : store.Filed)
    (hrecord : call.request.recordId? = some id) {admitted : call.Admitted}
    (hverdict : registry.verdict call store = .ok admitted) :
    (call.serve admitted store).result = .ok (call.answer store) ∧
      (call.serve admitted store).state = store.revise? call.revision? := by
  obtain ⟨⟨membership, ability⟩, record⟩ := admitted
  obtain ⟨-, -, hfound, -⟩ := Registry.verdict_eq_ok_iff.1 hverdict
  obtain ⟨actor, reference, request, now, freshId⟩ := call
  cases request with
  | updateProject projectId update =>
      have hfind := Missing.unlessFound_eq_ok_iff.1 hfound
      have hget := (Option.filter_eq_some_iff.1 hfind).1
      have hsave : store.attempt (.saveProject (update.apply now _)) = _ :=
        hstore.attempt_saveProject hfind rfl
      simp only [Call.answer, hget]
      exact Agenda.write_done hsave
  | deleteProject projectId =>
      have hfind := Missing.unlessFound_eq_ok_iff.1 hfound
      exact Agenda.write_done (hstore.attempt_deleteProject hfind)
  | revokeInvite inviteId =>
      have hfind := Missing.unlessFound_eq_ok_iff.1 hfound
      exact Agenda.write_done (hstore.attempt_deleteInvite hfind)
  | updateOrganization _ | shutdownOrganization | transferOwnership _ | createProject _
  | getBilling | createInvite _ _ | listInvites => cases hrecord

/-- A call for a revision is refused, or makes the revision. -/
theorem Filed.perform_of_recordId? (hstore : store.Filed) (registry : Registry) (call : Call)
    (hrecord : call.request.recordId? = some id) :
    let outcome := (service registry).perform call store
    outcome.result = registry.response call store ∧
      outcome.state = store.revise? (registry.granted? call store) := by
  dsimp only
  cases hverdict : registry.verdict call store with
  | error failure =>
      have hrefusal : registry.refusal? call store = some failure := by
        rw [Registry.refusal?, hverdict]
      rw [perform_of_verdict_error hverdict, Registry.response, Registry.granted?, hrefusal]
      exact ⟨rfl, rfl⟩
  | ok admitted =>
      have hrefusal : registry.refusal? call store = none := by
        rw [Registry.refusal?, hverdict]
      rw [(perform_of_verdict_ok hverdict).1, (perform_of_verdict_ok hverdict).2,
        Registry.response, Registry.granted?, hrefusal]
      exact hstore.serve_of_recordId? hrecord hverdict

/-! ## Other records are not looked at -/

/-- A call for the revision of one record finds it as it was when another is revised. -/
theorem record_revise (hrecord : call.request.recordId? = some id) (hother : id ≠ revision.id)
    (organizationId : Uuid) :
    call.record (store.revise revision) organizationId = call.record store organizationId := by
  obtain ⟨actor, reference, request, now, freshId⟩ := call
  cases request with
  | updateProject projectId _ | deleteProject projectId =>
      obtain rfl := Option.some.inj hrecord
      simp only [Call.record, findProject, get?_projects_revise hother]
  | revokeInvite inviteId =>
      obtain rfl := Option.some.inj hrecord
      simp only [Call.record, findInvite, get?_invites_revise hother]
  | updateOrganization _ | shutdownOrganization | transferOwnership _ | createProject _
  | getBilling | createInvite _ _ | listInvites => cases hrecord

/-- It is admitted as it would have been. -/
theorem verdict_revise (hrecord : call.request.recordId? = some id) (hother : id ≠ revision.id) :
    registry.verdict call (store.revise revision) = registry.verdict call store := by
  simp only [Registry.verdict, resolveMembership_revise, record_revise hrecord hother]

/-- It is answered as it would have been. -/
theorem response_revise (hrecord : call.request.recordId? = some id) (hother : id ≠ revision.id) :
    registry.response call (store.revise revision) = registry.response call store := by
  have hanswer : call.answer (store.revise revision) = call.answer store := by
    obtain ⟨actor, reference, request, now, freshId⟩ := call
    cases request with
    | updateProject projectId update =>
        obtain rfl := Option.some.inj hrecord
        simp only [Call.answer, get?_projects_revise hother]
    | _ => rfl
  rw [Registry.response, Registry.refusal?, verdict_revise hrecord hother, hanswer]
  rfl

/-- It makes the revision that it would have made. -/
theorem granted?_revise (hrecord : call.request.recordId? = some id) (hother : id ≠ revision.id) :
    registry.granted? call (store.revise revision) = registry.granted? call store := by
  rw [Registry.granted?, Registry.refusal?, verdict_revise hrecord hother]
  rfl

/-- The revision that a call is granted is of the record that it names. -/
theorem id_of_granted? (hrecord : call.request.recordId? = some id)
    (h : registry.granted? call store = some revision) : revision.id = id := by
  unfold Registry.granted? at h
  split at h
  · cases h
  · exact Option.some.inj ((Call.id_of_revision? h).symm.trans hrecord)

/-- What a call is answered and the revision that it makes do not depend on whether a call for
another record came before it. -/
theorem after_granted? (registry : Registry) (store : Store) {first second : Call}
    (hfirst : first.request.recordId? = some id) (hsecond : second.request.recordId? = some other)
    (hdistinct : id ≠ other) :
    let after := store.revise? (registry.granted? first store)
    registry.response second after = registry.response second store ∧
      registry.granted? second after = registry.granted? second store := by
  cases hgranted : registry.granted? first store with
  | none => exact ⟨rfl, rfl⟩
  | some revision =>
      have hother : other ≠ revision.id := by
        rw [id_of_granted? hfirst hgranted]
        exact hdistinct.symm
      exact ⟨response_revise hsecond hother, granted?_revise hsecond hother⟩

/-- Two calls for different records, one after the other. -/
theorem Reachable.perform_after (hstore : store.Reachable) (registry : Registry)
    (first second : Call) (hfirst : first.request.recordId? = some id)
    (hsecond : second.request.recordId? = some other) (hdistinct : id ≠ other) :
    let outcome := (service registry).perform second ((service registry).perform first store).state
    outcome.result = registry.response second store ∧
      outcome.state = (store.revise? (registry.granted? first store)).revise?
        (registry.granted? second store) := by
  obtain ⟨hresult, hstate⟩ :=
    (hstore.perform registry first).filed.perform_of_recordId? registry second hsecond
  obtain ⟨-, hbefore⟩ := hstore.filed.perform_of_recordId? registry first hfirst
  obtain ⟨hresponse, hgranted⟩ := after_granted? registry store hfirst hsecond hdistinct
  rw [hbefore] at hresult hstate
  rw [hresponse] at hresult
  rw [hgranted] at hstate
  rw [hbefore]
  exact ⟨hresult, hstate⟩

/-- The revisions that two calls for different records make may be made in either order. -/
theorem revise?_granted?_comm (registry : Registry) (store : Store) (first second : Call)
    (hfirst : first.request.recordId? = some id) (hsecond : second.request.recordId? = some other)
    (hdistinct : id ≠ other) :
    (store.revise? (registry.granted? first store)).revise? (registry.granted? second store) =
      (store.revise? (registry.granted? second store)).revise? (registry.granted? first store) := by
  cases hx : registry.granted? first store with
  | none => rfl
  | some x =>
      cases hy : registry.granted? second store with
      | none => rfl
      | some y =>
          have hxy : x.id ≠ y.id := by
            rw [id_of_granted? hfirst hx, id_of_granted? hsecond hy]
            exact hdistinct
          exact store.revise_comm hxy

/-- Calls for different records may come in either order. -/
theorem Reachable.perform_comm (hstore : store.Reachable) (registry : Registry)
    {first second : Call} (hfirst : first.request.recordId? = some id)
    (hsecond : second.request.recordId? = some other) (hdistinct : id ≠ other) :
    let perform := (service registry).perform
    (perform first store).result = (perform first (perform second store).state).result ∧
      (perform second (perform first store).state).result = (perform second store).result ∧
      (perform second (perform first store).state).state =
        (perform first (perform second store).state).state := by
  intro perform
  have hthen := hstore.perform_after registry first second hfirst hsecond hdistinct
  have hback := hstore.perform_after registry second first hsecond hfirst hdistinct.symm
  refine ⟨?_, ?_, ?_⟩
  · exact (hstore.filed.perform_of_recordId? registry first hfirst).1.trans hback.1.symm
  · exact hthen.1.trans (hstore.filed.perform_of_recordId? registry second hsecond).1.symm
  · rw [hthen.2, hback.2]
    exact revise?_granted?_comm registry store first second hfirst hsecond hdistinct

/-- Any number of calls, each for a record that no other is for, may come in any order. -/
theorem Reachable.runState_perm (hstore : store.Reachable) (registry : Registry)
    {calls others : List Call} (hperm : calls.Perm others)
    (hrecords : ∀ call ∈ calls, ∃ id, call.request.recordId? = some id)
    (hdistinct : (calls.map fun call => call.request.recordId?).Nodup) :
    (service registry).runState store calls = (service registry).runState store others := by
  induction hperm generalizing store with
  | nil => rfl
  | cons call _ ih =>
      exact ih (hstore.perform registry call) (fun other h => hrecords other (.tail _ h))
        (List.nodup_cons.1 hdistinct).2
  | swap second first rest =>
      obtain ⟨id, hid⟩ := hrecords first List.mem_cons_self
      obtain ⟨other, hother⟩ := hrecords second (.tail _ List.mem_cons_self)
      have hne : id ≠ other := by
        rintro rfl
        simp [hid, hother] at hdistinct
      have hcomm := (hstore.perform_comm registry hid hother hne).2.2
      exact congrArg (fun store => (service registry).runState store rest) hcomm
  | trans hleft hright ihleft ihright =>
      refine (ihleft hstore hrecords hdistinct).trans (ihright hstore ?_ ?_)
      · exact fun call h => hrecords call (hleft.mem_iff.2 h)
      · exact (hleft.map _).nodup_iff.1 hdistinct

end Store

/-! ## Readings of the clock -/

/-- A project with another time of the last update. -/
def Project.dated (project : Project) (now : Instant) : Project := { project with updatedAt := now }

/-- A reply in which a project has another time of the last update. -/
def Reply.dated (now : Instant) : Reply → Reply
  | .project made => .project (made.dated now)
  | reply => reply

namespace Store

variable {call : Call} {id other : Uuid}

/-- The store in which a project has another time of the last update. -/
def dated (store : Store) (id : Uuid) (now : Instant) : Store :=
  store.revise (.project id fun project => some (project.dated now))

/-- A call for a revision is refused for one reason, whatever the time. -/
theorem refusal?_timed (registry : Registry) (store : Store)
    (hrecord : call.request.recordId? = some id) (now : Instant) :
    registry.refusal? (call.timed now) store = registry.refusal? call store := by
  rw [Registry.refusal?_eq, Registry.refusal?_eq]
  obtain ⟨actor, reference, request, start, freshId⟩ := call
  cases request with
  | updateProject _ _ | deleteProject _ | revokeInvite _ => rfl
  | updateOrganization _ | shutdownOrganization | transferOwnership _ | createProject _
  | getBilling | createInvite _ _ | listInvites => cases hrecord

/-- What a call for a revision is answered depends on the time only in the time of the update. -/
theorem response_timed (registry : Registry) (store : Store)
    (hrecord : call.request.recordId? = some id) (time now : Instant) :
    (registry.response (call.timed time) store).map (Reply.dated now) =
      (registry.response call store).map (Reply.dated now) := by
  rw [Registry.response, Registry.response, refusal?_timed registry store hrecord]
  cases registry.refusal? call store with
  | some failure => rfl
  | none =>
      refine congrArg Except.ok ?_
      obtain ⟨actor, reference, request, start, freshId⟩ := call
      cases request with
      | updateProject projectId update =>
          simp only [Call.answer, Call.timed]
          cases store.projects.get? projectId <;> rfl
      | _ => rfl

/-- So does the revision that it makes. -/
theorem dated_revise?_timed (registry : Registry) (base store : Store)
    (hrecord : call.request.recordId? = some id) (time now : Instant) :
    (base.revise? (registry.granted? (call.timed time) store)).dated id now =
      (base.revise? (registry.granted? call store)).dated id now := by
  rw [Registry.granted?, Registry.granted?, refusal?_timed registry store hrecord]
  cases registry.refusal? call store with
  | some failure => rfl
  | none =>
      obtain ⟨actor, reference, request, start, freshId⟩ := call
      cases request with
      | updateProject projectId update =>
          obtain rfl := Option.some.inj hrecord
          simp only [Call.revision?, Call.timed, revise?, Option.elim_some, dated, revise,
            Table.alter_alter]
          rfl
      | _ => rfl

/-- Dating one project and revising another may be done in either order. -/
theorem dated_revise?_granted? (registry : Registry) (base store : Store)
    (hrecord : call.request.recordId? = some id) (hdistinct : other ≠ id) (now : Instant) :
    (base.revise? (registry.granted? call store)).dated other now =
      (base.dated other now).revise? (registry.granted? call store) := by
  cases hgranted : registry.granted? call store with
  | none => rfl
  | some revision =>
      refine base.revise_comm ?_
      rw [id_of_granted? hrecord hgranted]
      exact hdistinct.symm

/-- Once the records of two calls are dated it does not matter when they were revised. -/
theorem dated_timed (registry : Registry) (store : Store) {first second : Call}
    (hfirst : first.request.recordId? = some id) (hsecond : second.request.recordId? = some other)
    (hdistinct : id ≠ other) (time later now : Instant) :
    (((store.revise? (registry.granted? (first.timed time) store)).revise?
        (registry.granted? (second.timed later) store)).dated id now).dated other now =
      (((store.revise? (registry.granted? first store)).revise?
        (registry.granted? second store)).dated id now).dated other now := by
  have hlater : (second.timed later).request.recordId? = some other := hsecond
  rw [dated_revise?_granted? registry _ store hlater hdistinct,
    dated_revise?_timed registry _ store hfirst, dated_revise?_timed registry _ store hsecond,
    ← dated_revise?_granted? registry _ store hsecond hdistinct]

end Store

/-- Two calls that change or remove projects or invites under different identifiers, by whomever, in
whatever organizations and whatever the registry, may come in either order. If each reads the same
time in both orders, then each is answered the same and the same store is left. If not, then the
answers and the stores are the same but for the times of the last update of the two projects. -/
theorem independent_calls_commute (registry : Registry) {store : Store} (hstore : store.Reachable)
    {first second : Call} {id other : Uuid} (hfirst : first.request.recordId? = some id)
    (hsecond : second.request.recordId? = some other) (hdistinct : id ≠ other)
    (time time' later later' : Instant) :
    let perform := (Store.service registry).perform
    -- the first call comes first
    let one := perform (first.timed time) store
    let two := perform (second.timed later) one.state
    -- the second call comes first
    let two' := perform (second.timed later') store
    let one' := perform (first.timed time') two'.state
    (time = time' → later = later' →
      one.result = one'.result ∧ two.result = two'.result ∧ two.state = one'.state) ∧
    ∀ now : Instant,
      one.result.map (Reply.dated now) = one'.result.map (Reply.dated now) ∧
      two.result.map (Reply.dated now) = two'.result.map (Reply.dated now) ∧
      (two.state.dated id now).dated other now = (one'.state.dated id now).dated other now := by
  intro perform one two two' one'
  constructor
  · rintro rfl rfl
    exact hstore.perform_comm registry hfirst hsecond hdistinct
  · intro now
    -- in either order each call comes to what it comes to alone
    have hone := (hstore.filed.perform_of_recordId? registry (first.timed time) hfirst).1
    have htwo' := (hstore.filed.perform_of_recordId? registry (second.timed later') hsecond).1
    obtain ⟨htwo, hthen⟩ := hstore.perform_after registry (first.timed time) (second.timed later)
      hfirst hsecond hdistinct
    obtain ⟨hone', hback⟩ := hstore.perform_after registry (second.timed later')
      (first.timed time') hsecond hfirst hdistinct.symm
    refine ⟨?_, ?_, ?_⟩
    · rw [show one.result = _ from hone, show one'.result = _ from hone',
        Store.response_timed registry store hfirst, Store.response_timed registry store hfirst]
    · rw [show two.result = _ from htwo, show two'.result = _ from htwo',
        Store.response_timed registry store hsecond, Store.response_timed registry store hsecond]
    · have hcomm := Store.revise?_granted?_comm registry store (first.timed time')
        (second.timed later') hfirst hsecond hdistinct
      rw [show two.state = _ from hthen, show one'.state = _ from hback, ← hcomm,
        Store.dated_timed registry store hfirst hsecond hdistinct,
        Store.dated_timed registry store hfirst hsecond hdistinct]

/-- A member renames a project and an admin revokes an invite, one an hour after the other. Which of
them is first is told by the time of the renaming alone. -/
theorem commute_neighbours :
    let rename : Call :=
      { actor := .ofNat 13
        organization := .bySlug "acme"
        request := .updateProject (.ofNat 21) ⟨some "Home", none⟩
        now := Store.sharedSlug.start
        freshId := .ofNat 41 }
    let withdraw : Call :=
      { rename with actor := .ofNat 12, request := .revokeInvite (.ofNat 31) }
    let hour : Instant := { seconds := 3600, nanos := 0 }
    let perform := (Store.service .standard).perform
    let one := perform (rename.timed Store.sharedSlug.start) Store.neighbours
    let two := perform (withdraw.timed hour) one.state
    let two' := perform (withdraw.timed Store.sharedSlug.start) Store.neighbours
    let one' := perform (rename.timed hour) two'.state
    Store.neighbours.Reachable ∧
      rename.request.recordId? = some (.ofNat 21) ∧
      withdraw.request.recordId? = some (.ofNat 31) ∧
      Uuid.ofNat 21 ≠ Uuid.ofNat 31 ∧
      two.state.projects.get? (.ofNat 21) ≠ one'.state.projects.get? (.ofNat 21) ∧
      two.result = .ok .done ∧
      ∀ now : Instant,
        two.result.map (Reply.dated now) = two'.result.map (Reply.dated now) ∧
        (two.state.dated (.ofNat 21) now).dated (.ofNat 31) now =
          (one'.state.dated (.ofNat 21) now).dated (.ofNat 31) now := by
  intro rename withdraw hour perform one two two' one'
  have hrename : rename.request.recordId? = some (.ofNat 21) := rfl
  have hwithdraw : withdraw.request.recordId? = some (.ofNat 31) := rfl
  have hdistinct : Uuid.ofNat 21 ≠ Uuid.ofNat 31 := by decide
  have hcommute := independent_calls_commute .standard Store.reachable_neighbours hrename
    hwithdraw hdistinct Store.sharedSlug.start hour hour Store.sharedSlug.start
  exact ⟨Store.reachable_neighbours, hrename, hwithdraw, hdistinct, by decide,
    by decide, fun now => (hcommute.2 now).2⟩

end OrgAccess
