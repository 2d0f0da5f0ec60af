import OrgAccess.Proofs.Store.Lookup

/-!
# Revisions of single records

A revision changes or removes the project or the invite under one identifier, if there is one.
Revisions under different identifiers commute (`Store.revise_comm`), and a revision leaves alone
what is found under every other identifier and who is a member of what. Tables that are equal as
functions need not be equal, since they keep an order; `Table.Narrows` says of a table that it has
what is left of another in the order of the other, and two such tables that are equal as functions
are equal (`Table.Narrows.ext`).
-/

namespace OrgAccess

namespace Table

variable {α : Type} {a b c table : Table α} {key other : Uuid} {change : α → Option α}

/-! ## Tables that keep an order -/

/-- The identifiers of a table are those under which something is found. -/
theorem mem_keys_iff : key ∈ table.keys ↔ (table.get? key).isSome = true := by
  rw [Option.isSome_iff_ne_none, ne_eq, get?_eq_none_iff, not_not]

/-- A table is its identifiers, in order, with what is found under them. -/
theorem entries_eq (table : Table α) :
    table.entries = table.keys.filterMap fun key => (table.get? key).map (key, ·) := by
  rw [keys, List.filterMap_map]
  conv_lhs => rw [← List.filterMap_some (l := table.entries)]
  refine List.filterMap_congr fun entry hentry => ?_
  have hget : table.get? entry.1 = some entry.2 := get?_eq_some_iff.2 hentry
  simp [hget]

/-- The identifiers of one table are those of another that it has a record for, in their order. -/
def Narrows (a b : Table α) : Prop :=
  a.keys = b.keys.filter fun key => (a.get? key).isSome

namespace Narrows

/-- A table with the identifiers of another in the same order narrows it. -/
theorem of_keys_eq (h : a.keys = b.keys) : a.Narrows b := by
  rw [Narrows, ← h, List.filter_eq_self.2 fun key hkey => mem_keys_iff.1 hkey]

/-- What narrows a table that narrows a third one narrows the third one. -/
theorem trans (hab : a.Narrows b) (hbc : b.Narrows c) : a.Narrows c := by
  unfold Narrows at hab
  have hkept : ∀ key, (a.get? key).isSome = true → (b.get? key).isSome = true := by
    intro key hkey
    have hmem := mem_keys_iff.2 hkey
    rw [hab] at hmem
    exact mem_keys_iff.1 (List.mem_filter.1 hmem).1
  rw [Narrows, hab, hbc, List.filter_filter]
  refine List.filter_congr fun key _ => ?_
  cases hkey : (a.get? key).isSome with
  | false => rfl
  | true => exact hkept key hkey

/-- Removing records leaves the others in their order. -/
theorem filterEntries (table : Table α) (keep : Uuid × α → Bool) :
    (table.filterEntries keep).Narrows table := by
  rw [Narrows, keys, keys, List.filter_map]
  refine congrArg (List.map Prod.fst) (List.filter_congr fun entry hentry => ?_)
  have hget : table.get? entry.1 = some entry.2 := get?_eq_some_iff.2 hentry
  simp [get?_filterEntries, hget]

/-- What is left of one table is known by what is found in it. -/
theorem ext (ha : a.Narrows c) (hb : b.Narrows c) (h : ∀ key, a.get? key = b.get? key) : a = b := by
  apply Table.ext
  have hget : a.get? = b.get? := funext h
  rw [entries_eq a, entries_eq b, ha, hb, hget]

end Narrows

/-! ## Changing one record -/

/-- The table with the record under an identifier changed or removed, if there is one. -/
def alter (table : Table α) (key : Uuid) (change : α → Option α) : Table α :=
  match table.get? key with
  | none => table
  | some value =>
      match change value with
      | some changed => table.insert key changed
      | none => table.erase key

/-- A record that is changed is filed in its place. -/
theorem alter_of_some {value changed : α} (hget : table.get? key = some value)
    (hchange : change value = some changed) :
    table.alter key change = table.insert key changed := by
  simp [alter, hget, hchange]

/-- A record that is changed into nothing is removed. -/
theorem alter_of_none {value : α} (hget : table.get? key = some value)
    (hchange : change value = none) : table.alter key change = table.erase key := by
  simp [alter, hget, hchange]

/-- What is found after a change is what the change makes of what was found. -/
theorem get?_alter (table : Table α) (key other : Uuid) (change : α → Option α) :
    (table.alter key change).get? other =
      if other = key then (table.get? key).bind change else table.get? other := by
  cases hget : table.get? key with
  | none =>
      by_cases h : other = key
      · simp [alter, hget, h]
      · simp [alter, hget, h]
  | some value =>
      cases hchange : change value with
      | none => rw [alter_of_none hget hchange, get?_erase, Option.bind_some, hchange]
      | some changed => rw [alter_of_some hget hchange, get?_insert, Option.bind_some, hchange]

/-- Changing one record, or removing it, leaves the others in their order. -/
theorem narrows_alter (table : Table α) (key : Uuid) (change : α → Option α) :
    (table.alter key change).Narrows table := by
  cases hget : table.get? key with
  | none => exact .of_keys_eq (by simp [alter, hget])
  | some value =>
      cases hchange : change value with
      | none =>
          rw [alter_of_none hget hchange]
          exact .filterEntries table _
      | some changed =>
          rw [alter_of_some hget hchange]
          refine .of_keys_eq ((keys_insertEntry _ _ _).trans (if_pos ?_))
          exact mem_keys_iff.2 (by simp [hget])

/-- Changes of two records may be made in either order. -/
theorem alter_comm (table : Table α) (h : key ≠ other) (change again : α → Option α) :
    (table.alter key change).alter other again = (table.alter other again).alter key change := by
  refine Narrows.ext ((narrows_alter _ _ _).trans (narrows_alter _ _ _))
    ((narrows_alter _ _ _).trans (narrows_alter table _ _)) fun k => ?_
  simp only [get?_alter, if_neg h, if_neg h.symm]
  by_cases hkey : k = key
  · rw [if_pos hkey, if_pos hkey, if_neg (hkey ▸ h)]
  · rw [if_neg hkey, if_neg hkey]

/-- Two changes of one record are one. -/
theorem alter_alter (table : Table α) (key : Uuid) (change again : α → Option α) :
    (table.alter key change).alter key again =
      table.alter key fun value => (change value).bind again := by
  refine Narrows.ext ((narrows_alter _ _ _).trans (narrows_alter _ _ _))
    (narrows_alter table _ _) fun k => ?_
  simp only [get?_alter, if_true, Option.bind_assoc]
  by_cases hkey : k = key
  · rw [if_pos hkey, if_pos hkey]
  · rw [if_neg hkey, if_neg hkey, if_neg hkey]

/-- Filing a record under a new identifier and removing it changes nothing. -/
theorem alter_insert (h : table.get? key = none) (value : α) :
    (table.insert key value).alter key (fun _ => none) = table := by
  have hget : (table.insert key value).get? key = some value := get?_insert_self
  rw [alter_of_none hget rfl, erase_insert h]

end Table

namespace Store

/-! ## Revisions -/

/-- A change or removal of the project or of the invite under an identifier. -/
inductive Revision where
  | project (id : Uuid) (change : Project → Option Project)
  | invite (id : Uuid) (change : Invite → Option Invite)

/-- The identifier of the record that a revision is of. -/
def Revision.id : Revision → Uuid
  | project id _ | invite id _ => id

/-- The store with a record revised. -/
def revise (store : Store) : Revision → Store
  | .project id change => { store with projects := store.projects.alter id change }
  | .invite id change => { store with invites := store.invites.alter id change }

variable {store : Store} {first second revision : Revision}

/-- Revisions of different records may be made in either order. -/
theorem revise_comm (store : Store) (h : first.id ≠ second.id) :
    (store.revise first).revise second = (store.revise second).revise first := by
  cases first with
  | project id change =>
      cases second with
      | project other again =>
          exact congrArg (fun projects => { store with projects })
            (store.projects.alter_comm h change again)
      | invite other again => rfl
  | invite id change =>
      cases second with
      | project other again => rfl
      | invite other again =>
          exact congrArg (fun invites => { store with invites })
            (store.invites.alter_comm h change again)

/-- Nobody becomes or ceases to be a member by a revision. -/
@[simp] theorem resolveMembership_revise (store : Store) (revision : Revision) (userId : Uuid)
    (reference : OrganizationRef) :
    (store.revise revision).resolveMembership userId reference =
      store.resolveMembership userId reference := by
  cases revision <;> rfl

/-- A project that is not revised is found as before. -/
theorem get?_projects_revise {id : Uuid} (h : id ≠ revision.id) :
    (store.revise revision).projects.get? id = store.projects.get? id := by
  cases revision with
  | project other change => exact (Table.get?_alter _ _ _ _).trans (if_neg h)
  | invite other change => rfl

/-- So is an invite. -/
theorem get?_invites_revise {id : Uuid} (h : id ≠ revision.id) :
    (store.revise revision).invites.get? id = store.invites.get? id := by
  cases revision with
  | project other change => rfl
  | invite other change => exact (Table.get?_alter _ _ _ _).trans (if_neg h)

end Store

end OrgAccess
