import OrgAccess.Proofs.Store.History
import OrgAccess.Proofs.Store.Slice

/-!
# Records that may not share a key

Besides the identifiers under which they are filed, some records have a key of their own: invites
their address in an organization, projects their slug in an organization. No two invites of a
reachable store share theirs (`Reachable.invites_distinct`), which together with `Filed` is the
invariant of the store (`filed_and_unique`). For projects this is left to who uses the store: a new
project is refused when its slug is taken, but one that is saved in place of another is not
(`Operation.Doubles`), and that is the only way to two projects with one slug
(`project_paths_distinct_iff`).
-/

namespace OrgAccess

namespace Table

variable {α β : Type} {table : Table α} {key : α → β} {id : Uuid} {value : α}

/-- No two records of a table have the same key. -/
def DistinctBy (key : α → β) (table : Table α) : Prop :=
  (table.values.map key).Nodup

/-- Whether keys are distinct is seen by comparing those of all records. -/
instance [DecidableEq β] (key : α → β) (table : Table α) : Decidable (table.DistinctBy key) :=
  inferInstanceAs (Decidable (List.Nodup _))

/-- Keys are distinct when a key tells the identifier of its record. -/
theorem distinctBy_iff :
    table.DistinctBy key ↔ ∀ (id other : Uuid) (a b : α), table.get? id = some a →
      table.get? other = some b → key a = key b → id = other := by
  have hentries : table.values.map key = table.entries.map fun entry => key entry.2 :=
    List.map_map
  rw [DistinctBy, hentries, List.nodup_map_iff_inj_on table.nodup.of_map]
  constructor
  · intro h id other a b ha hb hkey
    exact congrArg Prod.fst
      (h (id, a) (get?_eq_some_iff.1 ha) (other, b) (get?_eq_some_iff.1 hb) hkey)
  · rintro h ⟨id, a⟩ ha ⟨other, b⟩ hb hkey
    rw [← get?_eq_some_iff] at ha hb
    obtain rfl := h id other a b ha hb hkey
    obtain rfl := Option.some.inj (ha.symm.trans hb)
    rfl

/-- An empty table has no two records with one key. -/
theorem distinctBy_empty : (empty : Table α).DistinctBy key :=
  List.nodup_nil

/-- A record may be filed as long as no other one has its key. -/
theorem DistinctBy.insert_iff (h : table.DistinctBy key) :
    (table.insert id value).DistinctBy key ↔
      ∀ (other : Uuid) (a : α), table.get? other = some a → key a = key value → other = id := by
  rw [distinctBy_iff] at h ⊢
  constructor
  · intro hinsert other a ha hkey
    by_contra hne
    have hother : (table.insert id value).get? other = some a :=
      (get?_insert_of_ne hne).trans ha
    have hself : (table.insert id value).get? id = some value := get?_insert_self
    exact hne (hinsert other id a value hother hself hkey)
  · intro hfree x y a b ha hb hkey
    rcases get?_insert_eq_some_iff.1 ha with ⟨hx, rfl⟩ | ⟨-, ha⟩
    · rcases get?_insert_eq_some_iff.1 hb with ⟨hy, rfl⟩ | ⟨-, hb⟩
      · rw [hx, hy]
      · rw [hx, hfree y b hb hkey.symm]
    · rcases get?_insert_eq_some_iff.1 hb with ⟨hy, rfl⟩ | ⟨-, hb⟩
      · rw [hy, hfree x a ha hkey]
      · exact h x y a b ha hb hkey

/-- A record may be filed under any identifier when none has its key. -/
theorem DistinctBy.insert_free (h : table.DistinctBy key)
    (hfree : ∀ a ∈ table.values, key a ≠ key value) (id : Uuid) :
    (table.insert id value).DistinctBy key := by
  refine h.insert_iff.2 fun other a ha hkey => ?_
  exact absurd hkey (hfree a (mem_values_iff.2 ⟨other, ha⟩))

/-- A record may be filed in place of one with the same key. -/
theorem DistinctBy.insert_same (h : table.DistinctBy key) {old : α}
    (hold : table.get? id = some old) (hkey : key value = key old) :
    (table.insert id value).DistinctBy key := by
  refine h.insert_iff.2 fun other a ha hother => ?_
  exact distinctBy_iff.1 h other id a old ha hold (hother.trans hkey)

/-- The keys of some of the entries of a table are distinct if those of all are. -/
theorem DistinctBy.filterEntries (h : table.DistinctBy key) (keep : Uuid × α → Bool) :
    (table.filterEntries keep).DistinctBy key :=
  h.sublist ((List.filter_sublist.map _).map _)

/-- Removing a record leaves the keys of the others distinct. -/
theorem DistinctBy.erase (h : table.DistinctBy key) (id : Uuid) : (table.erase id).DistinctBy key :=
  h.filterEntries _

/-- Removing the records that do not pass a test leaves the keys of the others distinct. -/
theorem DistinctBy.filter (h : table.DistinctBy key) (keep : α → Bool) :
    (table.filter keep).DistinctBy key :=
  h.filterEntries _

end Table

/-- The organization and the address that an invite links. -/
def Invite.link (invite : Invite) : Uuid × String :=
  (invite.organizationId, invite.email)

/-- Invites link different things when they have different addresses in one organization. -/
theorem Invite.link_ne_iff {invite other : Invite} :
    other.link ≠ invite.link ↔
      (other.organizationId = invite.organizationId → other.email ≠ invite.email) := by
  rw [link, link, Ne, Prod.mk.injEq, not_and]

/-- The organization and the slug by which a project is known. -/
def Project.path (project : Project) : Uuid × String :=
  (project.organizationId, project.slug)

/-- Projects have different paths when they have different slugs in one organization. -/
theorem Project.path_ne_iff {project other : Project} :
    other.path ≠ project.path ↔
      (other.organizationId = project.organizationId → other.slug ≠ project.slug) := by
  rw [path, path, Ne, Prod.mk.injEq, not_and]

namespace Store

variable {store changed : Store}

/-! ## Invites -/

/-- No command gives an organization two invites for one address. -/
theorem invites_distinct_attempt {command : Command} (h : store.invites.DistinctBy Invite.link)
    (hattempt : store.attempt command = .ok changed) : changed.invites.DistinctBy Invite.link := by
  obtain rfl := eq_enact_of_attempt hattempt
  cases command with
  | insertInvite invite =>
      obtain ⟨hfree, -⟩ := insertInvite_eq_ok_iff.1 hattempt
      exact h.insert_free (fun i hi => Invite.link_ne_iff.2 (hfree i hi)) invite.id
  | deleteInvite id => exact h.erase id
  | deleteOrganization id => exact h.filter _
  | addOrganization _ | addMembership _ | addBilling _ | saveOrganization _ | setMemberRole _ _ _
  | insertProject _ | saveProject _ | deleteProject _ => exact h

/-- In every reachable store an address is invited to an organization once at most. -/
theorem Reachable.invites_distinct (h : store.Reachable) :
    store.invites.DistinctBy Invite.link := by
  induction h with
  | empty => exact Table.distinctBy_empty
  | step command _ hattempt ih => exact invites_distinct_attempt ih hattempt

/-! ## Projects -/

/-- Another project than the one that is to be filed has its path. -/
def PathTaken (store : Store) (project : Project) : Prop :=
  ∃ id other, id ≠ project.id ∧ store.projects.get? id = some other ∧ other.path = project.path

/-- An operation saves a project that is stored with the path of another one. -/
inductive Operation.Doubles (store : Store) : Operation → Prop
  | saveProject {project old : Project} (hstored : store.projects.get? project.id = some old)
      (htaken : store.PathTaken project) : Doubles store (.write (.saveProject project))

/-- A new project is refused when there is one with its path. -/
theorem insertProject_eq_conflict_iff {project : Project} :
    store.insertProject project = .error (.conflict (.projectSlug project.slug)) ↔
      ∃ id other, store.projects.get? id = some other ∧ other.path = project.path := by
  have hclash : (store.projects.values.any fun p =>
      p.organizationId = project.organizationId && p.slug = project.slug) = true ↔
        ∃ id other, store.projects.get? id = some other ∧ other.path = project.path := by
    rw [List.any_eq_true]
    constructor
    · rintro ⟨other, hmem, hsame⟩
      obtain ⟨id, hget⟩ := Table.mem_values_iff.1 hmem
      simp only [Bool.and_eq_true, decide_eq_true_eq] at hsame
      exact ⟨id, other, hget, Prod.ext hsame.1 hsame.2⟩
    · rintro ⟨id, other, hget, hpath⟩
      obtain ⟨horganization, hslug⟩ := Prod.mk.inj hpath
      exact ⟨other, Table.mem_values_iff.2 ⟨id, hget⟩, by simp [horganization, hslug]⟩
  rw [insertProject, ← hclash]
  split
  · next h => exact iff_of_true rfl h
  · next h =>
    refine iff_of_false ?_ h
    intro hok
    cases hok

/-- A command that is not refused leaves projects with paths of their own, unless it saves one with
the path of another. -/
theorem paths_distinct_attempt {command : Command} (h : store.projects.DistinctBy Project.path)
    (hsingle : ∀ project, command = .saveProject project → ¬ store.PathTaken project)
    (hattempt : store.attempt command = .ok changed) :
    changed.projects.DistinctBy Project.path := by
  obtain rfl := eq_enact_of_attempt hattempt
  cases command with
  | insertProject project =>
      obtain ⟨hfree, -⟩ := insertProject_eq_ok_iff.1 hattempt
      exact h.insert_free (fun p hp => Project.path_ne_iff.2 (hfree p hp)) project.id
  | saveProject project =>
      refine h.insert_iff.2 fun other p hp hpath => ?_
      by_contra hne
      exact hsingle project rfl ⟨other, p, hne, hp, hpath⟩
  | deleteProject id => exact h.erase id
  | deleteOrganization id => exact h.filter _
  | addOrganization _ | addMembership _ | addBilling _ | saveOrganization _
  | setMemberRole _ _ _ | insertInvite _ | deleteInvite _ => exact h

/-- Two projects with one path come of saving the one with the path of the other. -/
theorem Operation.paths_distinct_iff (h : store.projects.DistinctBy Project.path)
    (operation : Operation) :
    (operation.ask store).2.projects.DistinctBy Project.path ↔ ¬ operation.Doubles store := by
  constructor
  · intro hafter hdoubles
    obtain @⟨project, old, hstored, id, other, hne, hget, hpath⟩ := hdoubles
    have hattempt : store.attempt (.saveProject project) =
        .ok (store.enact (.saveProject project)) :=
      saveProject_eq_ok_iff.2 ⟨⟨old, hstored⟩, rfl⟩
    rw [state_write hattempt] at hafter
    exact hne (h.insert_iff.1 hafter id other hget hpath)
  · intro hsingle
    rcases operation.state_cases store with hstate | ⟨command, changed, rfl, hattempt, hstate⟩
    · rwa [hstate]
    · rw [hstate]
      refine paths_distinct_attempt h ?_ hattempt
      rintro project rfl htaken
      obtain ⟨⟨old, hstored⟩, -⟩ := saveProject_eq_ok_iff.1 hattempt
      exact hsingle (.saveProject hstored htaken)

/-- No store on the way has two projects with one path as long as no operation doubles one. -/
theorem paths_distinct_after_iff (h : store.projects.DistinctBy Project.path)
    (history : List Operation) :
    (∀ done, done <+: history → (store.after done).projects.DistinctBy Project.path) ↔
      ∀ before operation rest, history = before ++ operation :: rest →
        ¬ operation.Doubles (store.after before) := by
  constructor
  · rintro hdistinct before operation rest rfl
    have hbefore := hdistinct before (List.prefix_append before _)
    have hnext := hdistinct (before ++ [operation]) ⟨rest, by simp⟩
    rw [after_append] at hnext
    exact (operation.paths_distinct_iff hbefore).1 hnext
  · intro hsingle
    induction history generalizing store with
    | nil =>
        intro done hdone
        obtain rfl := List.prefix_nil.1 hdone
        exact h
    | cons operation rest ih =>
        intro done hdone
        rcases List.prefix_cons_iff.1 hdone with rfl | ⟨later, rfl, hlater⟩
        · exact h
        · -- the first operation doubles nothing, so the rest starts without doubles as well
          have hnext := (operation.paths_distinct_iff h).2 (hsingle [] operation rest rfl)
          refine ih hnext (fun before other last hrest => ?_) later hlater
          exact hsingle (operation :: before) other last (congrArg _ hrest)

end Store

/-- The invariant of the store. After every history from the empty store, whatever its operations
are given and whether they fail or not, organizations, projects and invites are filed under their
own identifiers and billing accounts under those of their organizations, a user has one membership
in an organization at most, and an address one invite to it. And any operation that fails then
leaves the store exactly as it is. -/
theorem filed_and_unique (history : List Store.Operation) :
    let store := Store.empty.after history
    store.Filed ∧ store.invites.DistinctBy Invite.link ∧
      ∀ (operation : Store.Operation) (failure : Failure),
        (operation.ask store).1 = .error failure → (operation.ask store).2 = store := by
  intro store
  have hreachable : store.Reachable := Store.Reachable.empty.after history
  exact ⟨hreachable.filed, hreachable.invites_distinct,
    fun operation failure => operation.state_of_error⟩

/-- A project is filed, another with its slug is refused, and the store stays as it was. -/
theorem filed_after_refusal :
    let store := Store.empty.after [.write (.insertProject (Store.neighbours.site 1 21 13))]
    let refused := Store.Command.insertProject (Store.neighbours.site 1 22 13)
    store.Filed ∧ (refused.ask store).1 = .error (.conflict (.projectSlug "site")) ∧
      (refused.ask store).2 = store := by
  intro store refused
  have hrefused : (refused.ask store).1 = .error (.conflict (.projectSlug "site")) := by
    decide
  obtain ⟨hfiled, -, hstays⟩ :=
    filed_and_unique [.write (.insertProject (Store.neighbours.site 1 21 13))]
  exact ⟨hfiled, hrefused, hstays (.write refused) _ hrefused⟩

/-- Projects of one organization have different slugs in every store that a history from the empty
store passes through if, and only if, no operation of the history saves a project that is stored
with the slug that another project of its organization has. The store refuses to take in a new
project for such a slug, but not to save one: there it asks only whether the project is stored. -/
theorem project_paths_distinct_iff (history : List Store.Operation) :
    ((∀ done, done <+: history →
        (Store.empty.after done).projects.DistinctBy Project.path) ↔
      ∀ before operation rest, history = before ++ operation :: rest →
        ¬ operation.Doubles (Store.empty.after before)) ∧
    let store := Store.empty.after history
    ∀ project : Project,
      (((Store.Command.insertProject project).ask store).1 =
          .error (.conflict (.projectSlug project.slug)) ↔
        ∃ id other, store.projects.get? id = some other ∧ other.path = project.path) ∧
      (((Store.Command.saveProject project).ask store).1 = .ok () ↔
        ∃ old, store.projects.get? project.id = some old) := by
  refine ⟨Store.paths_distinct_after_iff Table.distinctBy_empty history, ?_⟩
  intro store project
  rw [Store.Command.answer_eq_error_iff, Store.Command.answer_eq_ok_iff]
  refine ⟨Store.insertProject_eq_conflict_iff, ?_⟩
  constructor
  · rintro ⟨changed, hattempt⟩
    exact (Store.saveProject_eq_ok_iff.1 hattempt).1
  · intro hstored
    exact ⟨_, Store.saveProject_eq_ok_iff.2 ⟨hstored, rfl⟩⟩

/-! ## A project that is saved with the slug of another -/

namespace Store

/-- Two projects of an organization are filed with slugs of their own, and then the second is saved
with the slug of the first. -/
def twins : List Operation :=
  [.write (.insertProject (neighbours.site 1 21 13)),
    .write (.insertProject { neighbours.site 1 22 13 with slug := "shop" }),
    .write (.saveProject (neighbours.site 1 22 13))]

/-- Nothing is refused, and the two projects of the organization have one slug then. -/
theorem twins_share_path :
    ((Command.saveProject (neighbours.site 1 22 13)).ask (empty.after (twins.take 2))).1 =
        .ok () ∧
      ¬ (empty.after twins).projects.DistinctBy Project.path := by
  decide

end Store

end OrgAccess
