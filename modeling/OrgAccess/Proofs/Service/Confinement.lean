import OrgAccess.Proofs.Service.Isolation

/-!
# What others than admins can change

With the standard roles an organization is left as it was by everybody who is not an admin there,
but for the projects of members, which their owners may change and remove
(`Filed.unchangedBut_of_not_admin`). That goes for whole runs (`non_admins_confined`): nobody in
them rises to be an admin, since nobody in them can change the role of a member, and so the calls
that come later are again by others than admins.
-/

namespace OrgAccess

namespace Store

/-! ## All but some projects -/

/-- An organization is as it was before, but for the projects of some owners. -/
structure UnchangedBut (after before : Store) (organizationId : Uuid) (owners : Uuid → Prop) : Prop
    extends SameOrganization after before organizationId where
  projects : ∀ id project, before.findProject organizationId id = some project →
    ¬ owners project.ownerId → after.findProject organizationId id = some project
  invites : ∀ id, after.findInvite organizationId id = before.findInvite organizationId id
  billing : after.findBilling organizationId = before.findBilling organizationId

variable {store a b c : Store} {call : Call} {organizationId : Uuid} {owners others : Uuid → Prop}

namespace UnchangedBut

/-- A slice that is the same is unchanged, whoever the owners are. -/
theorem of_sameSlice (h : a.SameSlice b organizationId) :
    a.UnchangedBut b organizationId owners where
  toSameOrganization := h.toSameOrganization
  projects id _ hfind _ := (h.projects id).trans hfind
  invites := h.invites
  billing := h.billing

/-- A store is unchanged in itself. -/
theorem refl (store : Store) (organizationId : Uuid) (owners : Uuid → Prop) :
    store.UnchangedBut store organizationId owners :=
  .of_sameSlice (.refl store organizationId)

/-- What is unchanged in two steps is unchanged. -/
theorem trans (hab : a.UnchangedBut b organizationId owners)
    (hbc : b.UnchangedBut c organizationId owners) : a.UnchangedBut c organizationId owners where
  toSameOrganization := hab.toSameOrganization.trans hbc.toSameOrganization
  projects id project hfind howner :=
    hab.projects id project (hbc.projects id project hfind howner) howner
  invites id := (hab.invites id).trans (hbc.invites id)
  billing := hab.billing.trans hbc.billing

/-- What is unchanged but for some owners is unchanged but for more of them. -/
theorem mono (h : a.UnchangedBut b organizationId owners)
    (howners : ∀ owner, owners owner → others owner) :
    a.UnchangedBut b organizationId others where
  toSameOrganization := h.toSameOrganization
  projects id project hfind howner := h.projects id project hfind (mt (howners _) howner)
  invites := h.invites
  billing := h.billing

/-- Projects are written in one place, where none stood but one of the owners'. -/
theorem of_place {xs : Table Project} {place : Uuid}
    (hplace : ∀ project, store.findProject organizationId place = some project →
      owners project.ownerId)
    (helse : ∀ id, id ≠ place → xs.get? id = store.projects.get? id) :
    { store with projects := xs }.UnchangedBut store organizationId owners where
  toSameOrganization := ⟨rfl, rfl⟩
  projects := by
    intro id project hfind howner
    have hid : id ≠ place := by
      rintro rfl
      exact howner (hplace project hfind)
    rw [findProject, helse id hid]
    exact hfind
  invites _ := rfl
  billing := rfl

end UnchangedBut

/-- The place in which a command writes a project. -/
def Command.project? : Command → Option Uuid
  | .insertProject project | .saveProject project => some project.id
  | .deleteProject id => some id
  | _ => none

/-- A command that writes a project changes nothing but what is the owners', if nothing else stood
in its place. -/
theorem UnchangedBut.of_attempt {command : Command} {changed : Store} {place : Uuid}
    (hproject : command.project? = some place)
    (hplace : ∀ project, store.findProject organizationId place = some project →
      owners project.ownerId)
    (h : store.attempt command = .ok changed) :
    changed.UnchangedBut store organizationId owners := by
  cases command with
  | addOrganization _ | saveOrganization _ | addMembership _ | deleteOrganization _
  | setMemberRole _ _ _ | addBilling _ | insertInvite _ | deleteInvite _ => cases hproject
  | insertProject project =>
      obtain rfl := Option.some.inj hproject
      obtain ⟨-, rfl⟩ := insertProject_eq_ok_iff.1 h
      exact .of_place hplace fun id hid => Table.get?_insert_of_ne hid
  | saveProject project =>
      obtain rfl := Option.some.inj hproject
      obtain ⟨-, rfl⟩ := saveProject_eq_ok_iff.1 h
      exact .of_place hplace fun id hid => Table.get?_insert_of_ne hid
  | deleteProject id =>
      obtain rfl := Option.some.inj hproject
      obtain ⟨-, rfl⟩ := deleteProject_eq_ok_iff.1 h
      exact .of_place hplace fun id hid => Table.get?_erase_of_ne hid

/-- What a plan with one such command leaves. -/
theorem UnchangedBut.of_write {command : Command} {event : Event} {reply : Reply} {place : Uuid}
    (hproject : command.project? = some place)
    (hplace : ∀ project, store.findProject organizationId place = some project →
      owners project.ownerId) :
    ((Agenda.write command event reply).carryOut store).state.UnchangedBut store organizationId
      owners := by
  cases hattempt : store.attempt command with
  | error failure =>
      rw [Agenda.carryOut_write_of_error hattempt]
      exact .refl store organizationId owners
  | ok changed =>
      rw [Agenda.carryOut_write hattempt]
      exact .of_attempt hproject hplace hattempt

/-! ## One call -/

/-- Of the projects a member who is not an admin may write the member's own. -/
theorem HasRole.owner_of_may_write {actor projectId : Uuid} {role : Role}
    (hrole : store.HasRole organizationId actor role) (hadmin : role ≠ .admin)
    (hmay : ¬ ∃ project, store.findProject organizationId projectId = some project ∧
      ¬ (role = .admin ∨ role = .member ∧ actor = project.ownerId)) :
    ∀ project, store.findProject organizationId projectId = some project →
      store.HasRole organizationId project.ownerId .member ∧ actor = project.ownerId := by
  intro project hfind
  have hwhose := not_not.1 (not_and.1 (not_exists.1 hmay project) hfind)
  obtain ⟨hmember, hwhose⟩ := hwhose.resolve_left hadmin
  rw [← hwhose, ← hmember]
  exact ⟨hrole, rfl⟩

/-- A call by somebody who is not an admin changes nothing in an organization but projects of the
actor, if the actor is a member. -/
theorem Filed.unchangedBut_of_not_admin (hstore : store.Filed) (hfresh : call.IsFresh store)
    (hactor : ¬ store.HasRole organizationId call.actor .admin) :
    ((service .standard).perform call store).state.UnchangedBut store organizationId
      fun owner => store.HasRole organizationId owner .member ∧ call.actor = owner := by
  by_cases hnamed : store.organizationId? call.organization = some organizationId
  · rcases hstore.perform_standard_cases hnamed with
      hstate | ⟨organization, role, agenda, rfl, -, hrole, hallowed, hplan, -, hstate⟩
    · rw [hstate]
      exact .refl store organizationId _
    · rw [hstate]
      have hadmin : role ≠ .admin := by
        rintro rfl
        exact hactor hrole
      cases hplan with
      -- these are left to admins
      | updateOrganization hrequest _ _ | transferOwnership hrequest _ _ =>
          rw [hrequest] at hallowed
          exact absurd (not_not.1 hallowed).1 hadmin
      | shutdownOrganization hrequest _ | createInvite hrequest _ _ =>
          rw [hrequest] at hallowed
          exact absurd (not_not.1 hallowed) hadmin
      | @revokeInvite _ invite hrequest hfind =>
          rw [hrequest] at hallowed
          exact absurd ⟨invite, hfind, hadmin⟩ hallowed
      | updateNothing _ _ _ | getBilling _ _ | listInvites _ => exact .refl store _ _
      | createProject hrequest hnew =>
          rw [Call.IsFresh, hrequest] at hfresh
          -- where a new project is filed none of the organization stood
          refine .of_write rfl fun project hfind => ?_
          have hnone : store.findProject organization.id call.freshId = none := by
            rw [findProject, hfresh]
            rfl
          rw [hnew] at hfind
          cases hnone.symm.trans hfind
      | updateProject hrequest hfind =>
          rw [hrequest] at hallowed
          refine .of_write rfl (hrole.owner_of_may_write hadmin ?_)
          exact (hstore.of_findProject hfind).1.symm ▸ hallowed
      | deleteProject hrequest hfind =>
          rw [hrequest] at hallowed
          refine .of_write rfl (hrole.owner_of_may_write hadmin ?_)
          exact (hstore.of_findProject hfind).1.symm ▸ hallowed
  · exact .of_sameSlice (hstore.sameSlice_perform .standard hfresh hnamed)

/-! ## Runs -/

/-- Nor do calls change more that follow one another, since nobody becomes an admin on the way. -/
theorem Reachable.unchangedBut_runState (hstore : store.Reachable) {calls : List Call}
    (hactors : ∀ call ∈ calls, ¬ store.HasRole organizationId call.actor .admin)
    (hfresh : FreshRun .standard store calls) :
    ((service .standard).runState store calls).UnchangedBut store organizationId
      fun owner => store.HasRole organizationId owner .member ∧
        ∃ call ∈ calls, call.actor = owner := by
  induction calls generalizing store with
  | nil => exact .refl store organizationId _
  | cons call rest ih =>
      have hstep := hstore.filed.unchangedBut_of_not_admin hfresh.1
        (hactors call List.mem_cons_self)
      have hroles : ∀ {userId : Uuid} {role : Role},
          ((service .standard).perform call store).state.HasRole organizationId userId role ↔
            store.HasRole organizationId userId role := hstep.toSameOrganization.hasRole_iff
      -- roles are what they were, so whoever acts later is still not an admin
      have hrest := ih (hstore.perform .standard call)
        (fun other hother => mt hroles.1 (hactors other (List.mem_cons_of_mem call hother)))
        hfresh.2
      refine (hrest.mono ?_).trans (hstep.mono ?_)
      · rintro owner ⟨hmember, other, hother, hactor⟩
        exact ⟨hroles.1 hmember, other, List.mem_cons_of_mem call hother, hactor⟩
      · rintro owner ⟨hmember, hactor⟩
        exact ⟨hmember, call, List.mem_cons_self, hactor⟩

end Store

/-- Others than admins are confined. After every step of a run of calls by users none of whom is an
admin of an organization at the start, the organization, its members, its invites and its billing
account are as they were, none of these users is an admin there, and every project is as it was
whose owner is not one of them with the role of a member. New records are taken to be fresh. -/
theorem non_admins_confined {store : Store} (hstore : store.Reachable) {organizationId : Uuid}
    {calls : List Call}
    (hactors : ∀ call ∈ calls, ¬ store.HasRole organizationId call.actor .admin)
    (hfresh : store.FreshRun .standard calls) :
    ∀ done, done <+: calls →
      let after := (Store.service .standard).runState store done
      (after.UnchangedBut store organizationId fun owner =>
        store.HasRole organizationId owner .member ∧ ∃ call ∈ done, call.actor = owner) ∧
      ∀ call ∈ calls, ¬ after.HasRole organizationId call.actor .admin := by
  intro done hdone after
  have hunchanged := hstore.unchangedBut_runState
    (fun call hcall => hactors call (hdone.subset hcall)) (hfresh.of_prefix hdone)
  exact ⟨hunchanged, fun call hcall =>
    mt hunchanged.toSameOrganization.hasRole_iff.1 (hactors call hcall)⟩

/-! ## An attempt to rise -/

/-- An admin has made a project beside the one of a member. Then the member removes both, asks for
the organization and makes a third project, and the admin of the other organization removes one of
the first and invites somebody to the second. -/
def intrusion : List Call :=
  [of 13 1 (.deleteProject (.ofNat 21)), of 13 1 (.deleteProject (.ofNat 23)),
    of 13 1 (.transferOwnership (.ofNat 13)), of 13 1 (.createProject ⟨"Third", "third", none⟩),
    of 14 1 (.deleteProject (.ofNat 23)), of 14 2 (.createInvite "late@example.com" .admin)]
where
  /-- A call on an organization. -/
  of (actor organization : Nat) (request : Request) : Call :=
    { actor := .ofNat actor
      organization := .byId (.ofNat organization)
      request
      now := Store.sharedSlug.start
      freshId := .ofNat 41 }
  /-- The store in which the admin has made the project. -/
  setting : Store :=
    (Store.service .standard).runState Store.neighbours
      [{ of 11 1 (.createProject ⟨"Second", "second", none⟩) with freshId := .ofNat 23 }]

/-- Of the two projects the admin's is still there afterwards. -/
theorem unchangedBut_intrusion :
    intrusion.setting.Reachable ∧
      (∀ call ∈ intrusion, ¬ intrusion.setting.HasRole (.ofNat 1) call.actor .admin) ∧
      intrusion.setting.FreshRun .standard intrusion ∧
      let after := (Store.service .standard).runState intrusion.setting intrusion
      (∃ project, project.ownerId = .ofNat 11 ∧
        after.findProject (.ofNat 1) (.ofNat 23) = some project) ∧
      after.findProject (.ofNat 1) (.ofNat 21) = none ∧
      after.membersOf (.ofNat 1) = intrusion.setting.membersOf (.ofNat 1) := by
  have hreachable : intrusion.setting.Reachable :=
    Store.reachable_neighbours.runState .standard _
  have hroles : ∀ call ∈ intrusion,
      intrusion.setting.role? (.ofNat 1) call.actor ≠ some .admin := by decide
  have hactors : ∀ call ∈ intrusion,
      ¬ intrusion.setting.HasRole (.ofNat 1) call.actor .admin := fun call hcall =>
    mt hreachable.filed.role?_eq_some_iff.2 (hroles call hcall)
  have hthird : ((Store.service .standard).runState intrusion.setting
      (intrusion.take 3)).projects.get? (.ofNat 41) = none := by decide
  have hinvite : ((Store.service .standard).runState intrusion.setting
      (intrusion.take 5)).invites.get? (.ofNat 41) = none := by decide
  have hfresh : intrusion.setting.FreshRun .standard intrusion :=
    ⟨trivial, trivial, trivial, hthird, trivial, hinvite, trivial⟩
  have hsecond : intrusion.setting.findProject (.ofNat 1) (.ofNat 23) =
      some { Store.neighbours.site 1 23 11 with name := "Second", slug := "second" } := by
    decide
  have hadmin : ¬ intrusion.setting.HasRole (.ofNat 1) (.ofNat 11) .member := by
    rw [← hreachable.filed.role?_eq_some_iff]
    decide
  obtain ⟨hunchanged, -⟩ :=
    non_admins_confined hreachable hactors hfresh intrusion List.prefix_rfl
  have hkept := hunchanged.projects _ _ hsecond fun howner => hadmin howner.1
  exact ⟨hreachable, hactors, hfresh, ⟨_, rfl, hkept⟩, by decide, hunchanged.members⟩

end OrgAccess
