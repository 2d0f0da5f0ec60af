import OrgAccess.Proofs.Policy.Compilation
import OrgAccess.Proofs.Store.Lookup
import OrgAccess.Service.Request

/-!
# Admission

How far a call on a store gets before it writes. Every call resolves the actor's membership,
compiles the ability of the role, finds the record that it is about and checks its action on that
record; `admission` is this common beginning, and `admission_apply` says what comes of it as a
function of the store (`verdict`) and with which events (`admissionEvents`). Nothing is written on
the way.
-/

namespace OrgAccess

namespace Guarded

variable {σ α β γ : Type}

/-- A step that gives a value and does nothing else may be left out before another. -/
theorem pure_bind (value : α) (next : α → Guarded σ β) :
    ((Pure.pure value : Guarded σ α) >>= next) = next value := by
  funext state
  rw [bind_apply, pure_apply]
  rfl

/-- A step that gives a value and does nothing else may be left out after another. -/
theorem bind_pure (first : Guarded σ α) : (first >>= Pure.pure) = first := by
  funext state
  rw [bind_apply]
  rcases first state with ⟨failure | value, after, events⟩
  · rfl
  · simp

/-- Of three steps in a row either two may be put together first. -/
theorem bind_assoc (first : Guarded σ α) (next : α → Guarded σ β) (last : β → Guarded σ γ) :
    ((first >>= next) >>= last) = first >>= fun value => next value >>= last := by
  funext state
  simp only [bind_apply]
  rcases first state with ⟨failure | value, after, events⟩
  · rfl
  · dsimp only
    rcases next value after with ⟨failure | value, after, more⟩
    · rfl
    · simp

/-- A computation that goes on with another succeeds where both do. -/
theorem result_bind_eq_ok_iff {first : Guarded σ α} {next : α → Guarded σ β} {state : σ}
    {answer : β} :
    ((first >>= next) state).result = .ok answer ↔
      ∃ value, (first state).result = .ok value ∧
        (next value (first state).state).result = .ok answer := by
  rw [bind_apply]
  cases (first state).result <;> simp

/-- Guarded computations may be regrouped. -/
instance : LawfulMonad (Guarded σ) :=
  LawfulMonad.mk' _ bind_pure pure_bind bind_assoc

/-- Finds a record that must be there. -/
def find (found : Store → Except Missing α) : Guarded Store α := fun store =>
  match found store with
  | .ok record => ⟨.ok record, store, []⟩
  | .error missing => ⟨.error (.notFound missing), store, []⟩

end Guarded

/-! ## What a request is checked on -/

namespace Request

/-- The action that a request is checked for. -/
def action : Request → Action
  | .updateOrganization _ => .update
  | .shutdownOrganization => .delete
  | .transferOwnership _ => .transferOwnership
  | .createProject _ => .create
  | .updateProject _ _ => .update
  | .deleteProject _ => .delete
  | .getBilling => .get
  | .createInvite _ _ => .create
  | .listInvites => .get
  | .revokeInvite _ => .delete

/-- The kind of record that a request is checked on. The list of invites is checked on none. -/
def Record : Request → Type
  | .updateOrganization _ | .shutdownOrganization | .transferOwnership _ => Organization
  | .createProject _ | .updateProject _ _ | .deleteProject _ => Project
  | .getBilling => BillingAccount
  | .createInvite _ _ | .revokeInvite _ => Invite
  | .listInvites => Unit

/-- The target that a request is checked on. -/
def target : (request : Request) → request.Record → Target
  | .updateOrganization _, organization => .record (Organization.subject organization)
  | .shutdownOrganization, organization => .record (Organization.subject organization)
  | .transferOwnership _, organization => .record (Organization.subject organization)
  | .createProject _, project => .record (Project.subject project)
  | .updateProject _ _, project => .record (Project.subject project)
  | .deleteProject _, project => .record (Project.subject project)
  | .getBilling, account => .record (BillingAccount.subject account)
  | .createInvite _ _, invite => .record (Invite.subject invite)
  | .listInvites, _ => .tag (Kind.invite)
  | .revokeInvite _, invite => .record (Invite.subject invite)

end Request

namespace Missing

/-- What is found, or that it is missing. -/
def unlessFound {α : Type} (missing : Missing) : Option α → Except Missing α
  | some value => .ok value
  | none => .error missing

variable {α : Type} {missing other : Missing} {found : Option α}

/-- A record is given when it is found. -/
theorem unlessFound_eq_ok_iff {record : α} :
    missing.unlessFound found = .ok record ↔ found = some record := by
  cases found <;> simp [unlessFound]

/-- What is missing is told when nothing is found. -/
theorem unlessFound_eq_error_iff :
    missing.unlessFound found = .error other ↔ found = none ∧ other = missing := by
  cases found <;> simp [unlessFound, eq_comm]

/-- What holds of the record that is given holds of the record that is found. -/
theorem exists_unlessFound_iff {P : α → Prop} :
    (∃ record, missing.unlessFound found = .ok record ∧ P record) ↔
      ∃ record, found = some record ∧ P record := by
  simp only [unlessFound_eq_ok_iff]

end Missing

namespace Call

/-- The record that a call is about: the stored one that it names, as it is before the call, or the
one that it is to make. -/
def record (call : Call) (store : Store) (organizationId : Uuid) :
    Except Missing call.request.Record :=
  match call.request with
  | .updateOrganization _ | .shutdownOrganization | .transferOwnership _ =>
      (Missing.organization call.organization).unlessFound
        (store.findOrganization call.organization)
  | .createProject input =>
      .ok (input.toProject call.freshId organizationId call.actor call.now)
  | .updateProject projectId _ | .deleteProject projectId =>
      (Missing.project projectId).unlessFound (store.findProject organizationId projectId)
  | .getBilling =>
      (Missing.billingAccount organizationId).unlessFound (store.findBilling organizationId)
  | .createInvite email role =>
      .ok (Invite.new call.freshId organizationId email role call.actor call.now)
  | .listInvites => .ok ()
  | .revokeInvite inviteId =>
      (Missing.invite inviteId).unlessFound (store.findInvite organizationId inviteId)

/-- With what a call is admitted: the actor's membership and ability, and the record. -/
structure Admitted (call : Call) extends Authorized where
  record : call.request.Record

end Call

/-- The guarded operations over the store, for a registry. -/
def Store.service (registry : Registry) : Service Store :=
  { backend := Store.backend, registry }

namespace Registry

/-- The beginning that all calls have in common, up to the check of the action. -/
def admission (registry : Registry) (call : Call) : Guarded Store call.Admitted := do
  let authorized ← (Store.service registry).abilityFor call.actor call.organization
  let record ← Guarded.find (call.record · authorized.membership.organizationId)
  authorized.ensure call.request.action (call.request.target record)
  return ⟨authorized, record⟩

/-- Why a call is not admitted, or with what it is. -/
def verdict (registry : Registry) (call : Call) (store : Store) : Except Failure call.Admitted :=
  match store.resolveMembership call.actor call.organization with
  | none => .error (.notMember call.organization.text)
  | some membership =>
      match registry.compile membership.principal .default with
      | .error fault => .error (.ability fault)
      | .ok ability =>
          match call.record store membership.organizationId with
          | .error missing => .error (.notFound missing)
          | .ok record =>
              if ability.can call.request.action (call.request.target record) then
                .ok ⟨⟨membership, ability⟩, record⟩
              else
                .error (.forbidden call.request.action (call.request.target record).subjectType)

/-- What is reported until a call is admitted or is not. -/
def admissionEvents (registry : Registry) (call : Call) (store : Store) : List Event :=
  match store.resolveMembership call.actor call.organization with
  | none => [.notMember call.actor call.organization]
  | some membership =>
      let user := membership.principal
      match registry.compile user .default with
      | .error _ => [.noPermissions user.id user.role]
      | .ok ability =>
          .abilityCompiled user.id user.role ability.rules.length ::
          .abilityResolved call.actor membership.organizationId membership.role ::
          match call.record store membership.organizationId with
          | .error _ => []
          | .ok record =>
              let action := call.request.action
              let target := call.request.target record
              .abilityChecked action target.subjectType (ability.can action target) ::
              if ability.can action target then []
              else
                [.checkDenied membership.userId membership.organizationId action
                  target.subjectType]

/-! ## The beginning as a function of the store -/

/-- Whether a user has an ability is a matter of the membership and of what its role compiles to. -/
theorem abilityFor_apply (registry : Registry) (actor : Uuid) (reference : OrganizationRef)
    (store : Store) :
    (Store.service registry).abilityFor actor reference store =
      match store.resolveMembership actor reference with
      | none =>
          ⟨.error (.notMember reference.text), store, [.notMember actor reference]⟩
      | some membership =>
          let user := membership.principal
          match registry.compile user .default with
          | .error fault =>
              ⟨.error (.ability fault), store, [.noPermissions user.id user.role]⟩
          | .ok ability =>
              ⟨.ok ⟨membership, ability⟩, store,
                [.abilityCompiled user.id user.role ability.rules.length,
                  .abilityResolved actor membership.organizationId membership.role]⟩ := by
  have hask : Guarded.ask ((Store.service registry).backend.resolveMembership actor reference)
      store = ⟨.ok (store.resolveMembership actor reference), store, []⟩ := rfl
  unfold Service.abilityFor
  rw [Guarded.bind_apply, hask]
  cases store.resolveMembership actor reference with
  | none => rfl
  | some membership =>
      simp only [Service.compile, Guarded.bind_apply, compileReported, Store.service]
      cases registry.compile membership.principal .default <;> rfl

/-- A query that is allowed is let through and reported, and any other is refused, with the denial
reported too. -/
theorem ensure_apply {σ : Type} (authorized : Authorized) (action : Action) (target : Target)
    (state : σ) :
    authorized.ensure action target state =
      if authorized.ability.can action target then
        ⟨.ok (), state, [.abilityChecked action target.subjectType true]⟩
      else
        ⟨.error (.forbidden action target.subjectType), state,
          [.abilityChecked action target.subjectType false,
            .checkDenied authorized.membership.userId authorized.membership.organizationId action
              target.subjectType]⟩ := by
  unfold Authorized.ensure Ability.check
  cases authorized.ability.can action target <;> rfl

/-- A check passes where the ability allows the action. -/
theorem ensure_eq_ok_iff {σ : Type} {authorized : Authorized} {action : Action} {target : Target}
    {state : σ} :
    (authorized.ensure action target state).result = .ok () ↔
      authorized.ability.can action target = true := by
  rw [ensure_apply]
  cases authorized.ability.can action target <;> simp

/-- The beginning of a call leaves the store alone and ends as `verdict` says. -/
theorem admission_apply (registry : Registry) (call : Call) (store : Store) :
    registry.admission call store =
      ⟨registry.verdict call store, store, registry.admissionEvents call store⟩ := by
  unfold admission verdict admissionEvents
  rw [Guarded.bind_apply, abilityFor_apply]
  cases store.resolveMembership call.actor call.organization with
  | none => rfl
  | some membership =>
      dsimp only
      cases registry.compile membership.principal .default with
      | error fault => rfl
      | ok ability =>
          simp only [Guarded.bind_apply, Guarded.find, ensure_apply]
          cases call.record store membership.organizationId with
          | error missing => rfl
          | ok record =>
              dsimp only
              cases ability.can call.request.action (call.request.target record) <;> rfl

/-! ## Who is admitted -/

/-- A role without an entry has no permissions. -/
theorem permissionsFor_of_not_mem {registry : Registry} {role : Role} (h : role ∉ registry.roles) :
    registry.permissionsFor role = .error (.configuration (.unknownRole role.name)) := by
  rw [permissionsFor, Role.find?_eq_none_iff.2 h]

/-- A role with an entry has permissions. -/
theorem exists_permissionsFor {registry : Registry} {role : Role} (h : role ∈ registry.roles) :
    ∃ declare, registry.permissionsFor role = .ok declare := by
  unfold permissionsFor
  split
  · exact ⟨_, rfl⟩
  · next hnone => exact absurd h (Role.find?_eq_none_iff.1 hnone)

/-- The ability that the rules of a role give a member. -/
def abilityOf (declare : Permissions) (userId : Uuid) (role : Role) : Ability :=
  ⟨declare ⟨userId.text, role⟩, .default⟩

/-- What a registry must say about a call: the actor has a role in the organization that the call
names, the role has an entry, the record that the call is about can be found, and the rules of the
entry allow the action on that record as it is before the call. -/
def Permits (registry : Registry) (store : Store) (call : Call) : Prop :=
  ∃ organization role declare record,
    store.findOrganization call.organization = some organization ∧
      store.HasRole organization.id call.actor role ∧
      registry.permissionsFor role = .ok declare ∧
      call.record store organization.id = .ok record ∧
      (abilityOf declare call.actor role).can call.request.action
        (call.request.target record) = true

variable {registry : Registry} {store : Store} {call : Call}

/-- Whether a member is admitted comes down to the rules of the member's role. -/
theorem verdict_of_hasRole (hstore : store.Filed) {organization : Organization} {role : Role}
    (hfind : store.findOrganization call.organization = some organization)
    (hrole : store.HasRole organization.id call.actor role) :
    registry.verdict call store =
      match registry.permissionsFor role with
      | .error fault => .error (.ability fault)
      | .ok declare =>
          let ability := abilityOf declare call.actor role
          match call.record store organization.id with
          | .error missing => .error (.notFound missing)
          | .ok record =>
              if ability.can call.request.action (call.request.target record) then
                .ok ⟨⟨⟨call.actor, organization.id, role⟩, ability⟩, record⟩
              else
                .error (.forbidden call.request.action
                  (call.request.target record).subjectType) := by
  have hresolve : store.resolveMembership call.actor call.organization =
      some ⟨call.actor, organization.id, role⟩ :=
    hstore.resolveMembership_eq_some_iff.2 ⟨organization, role, hfind, hrole, rfl⟩
  simp only [verdict, hresolve, compile, ResolvedMembership.principal]
  cases registry.permissionsFor role <;> rfl

/-- Nobody is admitted who is not a member. -/
theorem verdict_of_not_member (hstore : store.Filed)
    (h : ∀ organization role, store.findOrganization call.organization = some organization →
      ¬ store.HasRole organization.id call.actor role) :
    registry.verdict call store = .error (.notMember call.organization.text) := by
  rw [verdict, hstore.resolveMembership_eq_none_iff.2 h]

/-- An ability is compiled of the permissions that the registry has for the user's role. -/
theorem compile_eq_ok_iff {user : Principal} {discriminant : Discriminant} {ability : Ability} :
    registry.compile user discriminant = .ok ability ↔
      ∃ declare, registry.permissionsFor user.role = .ok declare ∧
        ability = ⟨declare user, discriminant⟩ := by
  unfold compile
  cases registry.permissionsFor user.role with
  | error fault => simp [Except.map]
  | ok declare => simp [Except.map, eq_comm]

/-- With what a call is admitted. -/
theorem verdict_eq_ok_iff {membership : ResolvedMembership} {ability : Ability}
    {record : call.request.Record} :
    registry.verdict call store = .ok ⟨⟨membership, ability⟩, record⟩ ↔
      store.resolveMembership call.actor call.organization = some membership ∧
        registry.compile membership.principal .default = .ok ability ∧
        call.record store membership.organizationId = .ok record ∧
        ability.can call.request.action (call.request.target record) = true := by
  unfold verdict
  -- each question on the way has one answer, and the right-hand side names it
  cases store.resolveMembership call.actor call.organization with
  | none => simp
  | some found =>
      rw [Option.some.injEq]
      dsimp only
      cases hcompile : registry.compile found.principal .default with
      | error fault =>
          refine iff_of_false (nomatch ·) ?_
          rintro ⟨rfl, hability, -⟩
          exact nomatch hcompile.symm.trans hability
      | ok compiled =>
          dsimp only
          cases hrecord : call.record store found.organizationId with
          | error missing =>
              refine iff_of_false (nomatch ·) ?_
              rintro ⟨rfl, -, hfound, -⟩
              exact nomatch hrecord.symm.trans hfound
          | ok loaded =>
              dsimp only
              rw [ite_ok_eq_ok_iff]
              constructor
              · rintro ⟨hcan, heq⟩
                obtain ⟨⟨rfl, rfl⟩, rfl⟩ := by simpa using heq
                exact ⟨rfl, hcompile, hrecord, hcan⟩
              · rintro ⟨rfl, hability, hfound, hcan⟩
                obtain rfl := Except.ok.inj (hcompile.symm.trans hability)
                obtain rfl := Except.ok.inj (hrecord.symm.trans hfound)
                exact ⟨hcan, rfl⟩

/-- An actor has an ability where a membership is found and the role of it can be compiled. -/
theorem abilityFor_eq_ok_iff {actor : Uuid} {reference : OrganizationRef}
    {membership : ResolvedMembership} {ability : Ability} :
    ((Store.service registry).abilityFor actor reference store).result =
        .ok ⟨membership, ability⟩ ↔
      store.resolveMembership actor reference = some membership ∧
        registry.compile membership.principal .default = .ok ability := by
  rw [abilityFor_apply]
  cases store.resolveMembership actor reference with
  | none => simp
  | some found =>
      dsimp only
      cases hcompile : registry.compile found.principal .default with
      | error fault =>
          refine iff_of_false nofun ?_
          rintro ⟨hfound, hability⟩
          obtain rfl := Option.some.inj hfound
          cases hcompile.symm.trans hability
      | ok compiled =>
          constructor
          · intro h
            obtain ⟨rfl, rfl⟩ := Authorized.mk.inj (Except.ok.inj h)
            exact ⟨rfl, hcompile⟩
          · rintro ⟨hfound, hability⟩
            obtain rfl := Option.some.inj hfound
            obtain rfl := Except.ok.inj (hcompile.symm.trans hability)
            rfl

/-- Whoever has an ability that allows the action on the record is admitted. -/
theorem verdict_of_abilityFor {authorized : Authorized} {record : call.request.Record}
    (hability : ((Store.service registry).abilityFor call.actor call.organization store).result =
      .ok authorized)
    (hrecord : call.record store authorized.membership.organizationId = .ok record)
    (hallowed : authorized.ability.can call.request.action (call.request.target record) = true) :
    registry.verdict call store = .ok ⟨authorized, record⟩ := by
  obtain ⟨hresolve, hcompile⟩ := abilityFor_eq_ok_iff.1 hability
  exact verdict_eq_ok_iff.2 ⟨hresolve, hcompile, hrecord, hallowed⟩

/-- A call is admitted exactly when the registry permits it. -/
theorem exists_verdict_iff (hstore : store.Filed) :
    (∃ admitted, registry.verdict call store = .ok admitted) ↔ registry.Permits store call := by
  constructor
  · rintro ⟨⟨⟨membership, ability⟩, record⟩, hadmitted⟩
    obtain ⟨hresolve, hcompile, hrecord, hcan⟩ := verdict_eq_ok_iff.1 hadmitted
    obtain ⟨organization, role, hfind, hrole, rfl⟩ :=
      hstore.resolveMembership_eq_some_iff.1 hresolve
    obtain ⟨declare, hentry, rfl⟩ := compile_eq_ok_iff.1 hcompile
    exact ⟨organization, role, declare, record, hfind, hrole, hentry, hrecord, hcan⟩
  · rintro ⟨organization, role, declare, record, hfind, hrole, hentry, hrecord, hcan⟩
    rw [verdict_of_hasRole hstore hfind hrole, hentry, hrecord]
    exact ⟨_, if_pos hcan⟩

end Registry

end OrgAccess
