import OrgAccess.Uuid

/-!
# Tables

A table files records under identifiers, at most one under each. Records stay in the order in
which their identifiers were first filed. Main statements: the lookup laws `get?_insert`,
`get?_erase` and `get?_filter`; that a new record is filed last (`entries_insert_of_not_mem`); and
`erase_insert`, that filing a new record and removing it leaves the table as it was.
-/

namespace OrgAccess

/-- Records filed under identifiers. -/
structure Table (α : Type) where
  entries : List (Uuid × α)
  nodup : (entries.map Prod.fst).Nodup

namespace Table

variable {α : Type}

/-- The table without records. -/
def empty : Table α := ⟨[], .nil⟩

/-- The table with no records. -/
instance : Inhabited (Table α) := ⟨empty⟩

/-- The records, in order. -/
def values (table : Table α) : List α :=
  table.entries.map Prod.snd

/-- The identifiers under which a record is filed, in order. -/
def keys (table : Table α) : List Uuid :=
  table.entries.map Prod.fst

/-- The record filed under an identifier in a list of entries. -/
def lookup (key : Uuid) : List (Uuid × α) → Option α
  | [] => none
  | (k, v) :: rest => if k = key then some v else lookup key rest

/-- The record filed under an identifier. -/
def get? (table : Table α) (key : Uuid) : Option α :=
  lookup key table.entries

/-- Whether a record is filed under an identifier. -/
def contains (table : Table α) (key : Uuid) : Bool :=
  (table.get? key).isSome

/-- A list of entries with one record filed: in place of another, or last. -/
def insertEntry (key : Uuid) (value : α) : List (Uuid × α) → List (Uuid × α)
  | [] => [(key, value)]
  | (k, v) :: rest =>
      if k = key then (key, value) :: rest else (k, v) :: insertEntry key value rest

/-- Setting an entry leaves the keys in their order, and puts a new one at the end. -/
theorem keys_insertEntry (key : Uuid) (value : α) (entries : List (Uuid × α)) :
    (insertEntry key value entries).map Prod.fst =
      if key ∈ entries.map Prod.fst then entries.map Prod.fst
      else entries.map Prod.fst ++ [key] := by
  induction entries with
  | nil => simp [insertEntry]
  | cons head rest ih =>
      obtain ⟨k, v⟩ := head
      unfold insertEntry
      split
      · next h => simp [h]
      · next h =>
        simp only [List.map_cons, List.mem_cons, ih, Ne.symm h, false_or]
        split <;> simp

/-- Setting an entry repeats no key. -/
theorem nodup_insertEntry (key : Uuid) (value : α) {entries : List (Uuid × α)}
    (h : (entries.map Prod.fst).Nodup) :
    ((insertEntry key value entries).map Prod.fst).Nodup := by
  rw [keys_insertEntry]
  split
  · exact h
  · next hmem =>
    refine List.nodup_append.2 ⟨h, by simp, fun a ha b hb => ?_⟩
    rintro rfl
    exact hmem (by simpa [List.mem_singleton.1 hb] using ha)

/-- The table with one record filed: in place of another under that identifier, or last. -/
def insert (table : Table α) (key : Uuid) (value : α) : Table α :=
  ⟨insertEntry key value table.entries, nodup_insertEntry key value table.nodup⟩

/-- The entries of a table that pass a test. -/
def filterEntries (table : Table α) (keep : Uuid × α → Bool) : Table α :=
  ⟨table.entries.filter keep, table.nodup.sublist (List.filter_sublist.map _)⟩

/-- The table without one identifier. -/
def erase (table : Table α) (key : Uuid) : Table α :=
  table.filterEntries fun entry => entry.1 ≠ key

/-- The table of the records that pass a test. -/
def filter (table : Table α) (keep : α → Bool) : Table α :=
  table.filterEntries fun entry => keep entry.2

/-! ## Laws -/

/-- Tables with the same entries are equal. -/
theorem ext {a b : Table α} (h : a.entries = b.entries) : a = b := by
  obtain ⟨xs, hx⟩ := a
  obtain ⟨ys, hy⟩ := b
  subst h
  rfl

/-- Nothing is found in the empty table. -/
@[simp] theorem get?_empty (key : Uuid) : (empty : Table α).get? key = none := rfl

/-- After an entry is set its key has the new record and every other key its old one. -/
theorem lookup_insertEntry (key other : Uuid) (value : α) (entries : List (Uuid × α)) :
    lookup other (insertEntry key value entries) =
      if other = key then some value else lookup other entries := by
  induction entries with
  | nil => simp [insertEntry, lookup, eq_comm]
  | cons head rest ih =>
      obtain ⟨k, v⟩ := head
      unfold insertEntry
      split
      · next h =>
        subst h
        by_cases ho : other = k
        · simp [lookup, ho]
        · simp [lookup, ho, Ne.symm ho]
      · next h =>
        simp only [lookup, ih]
        by_cases ho : other = key
        · subst ho; simp [h]
        · simp [ho]

/-- After a record is filed its identifier has it and every other identifier its old record. -/
theorem get?_insert (table : Table α) (key other : Uuid) (value : α) :
    (table.insert key value).get? other =
      if other = key then some value else table.get? other :=
  lookup_insertEntry key other value table.entries

/-- What was just filed is found. -/
theorem get?_insert_self {table : Table α} {key : Uuid} {value : α} :
    (table.insert key value).get? key = some value :=
  (get?_insert table key key value).trans (if_pos rfl)

/-- Filing a record leaves what is found under any other identifier. -/
theorem get?_insert_of_ne {table : Table α} {key other : Uuid} {value : α} (h : other ≠ key) :
    (table.insert key value).get? other = table.get? other :=
  (get?_insert table key other value).trans (if_neg h)

/-- So a record that is there then is the one that was filed, or it was there before. -/
theorem get?_insert_eq_some_iff {table : Table α} {key other : Uuid} {value found : α} :
    (table.insert key value).get? other = some found ↔
      other = key ∧ value = found ∨ other ≠ key ∧ table.get? other = some found := by
  rw [get?_insert]
  by_cases h : other = key <;> simp [h]

/-- Nothing is found under a key exactly when no entry has it. -/
theorem lookup_eq_none_iff {key : Uuid} {entries : List (Uuid × α)} :
    lookup key entries = none ↔ key ∉ entries.map Prod.fst := by
  induction entries with
  | nil => simp [lookup]
  | cons head rest ih =>
      obtain ⟨k, v⟩ := head
      by_cases h : k = key
      · simp [lookup, h]
      · simp [lookup, h, ih, Ne.symm h]

/-- Where no key is repeated a record is found exactly when there is an entry for it. -/
theorem lookup_eq_some_iff {key : Uuid} {value : α} {entries : List (Uuid × α)}
    (hnodup : (entries.map Prod.fst).Nodup) :
    lookup key entries = some value ↔ (key, value) ∈ entries := by
  induction entries with
  | nil => simp [lookup]
  | cons head rest ih =>
      obtain ⟨k, v⟩ := head
      rw [List.map_cons] at hnodup
      obtain ⟨hk, hrest⟩ := List.nodup_cons.1 hnodup
      by_cases h : k = key
      · subst h
        have : (k, value) ∉ rest := fun hm => hk (List.mem_map.2 ⟨_, hm, rfl⟩)
        simp [lookup, this, eq_comm]
      · simp [lookup, h, ih hrest, Ne.symm h]

/-- An identifier has a record exactly when the pair is an entry. -/
theorem get?_eq_some_iff {table : Table α} {key : Uuid} {value : α} :
    table.get? key = some value ↔ (key, value) ∈ table.entries :=
  lookup_eq_some_iff table.nodup

/-- An identifier has no record exactly when it is not a key. -/
theorem get?_eq_none_iff {table : Table α} {key : Uuid} :
    table.get? key = none ↔ key ∉ table.keys :=
  lookup_eq_none_iff

/-- Keeping some entries keeps their records and removes the others. -/
theorem get?_filterEntries (table : Table α) (keep : Uuid × α → Bool) (key : Uuid) :
    (table.filterEntries keep).get? key =
      (table.get? key).filter fun value => keep (key, value) := by
  apply Option.ext
  intro value
  rw [get?_eq_some_iff, Option.filter_eq_some_iff, get?_eq_some_iff]
  simp [filterEntries]

/-- After an identifier is removed it has no record and every other its old one. -/
theorem get?_erase (table : Table α) (key other : Uuid) :
    (table.erase key).get? other = if other = key then none else table.get? other := by
  rw [erase, get?_filterEntries]
  by_cases h : other = key
  · simp [h]
  · cases table.get? other <;> simp [h]

/-- What was just removed is not found. -/
theorem get?_erase_self {table : Table α} {key : Uuid} : (table.erase key).get? key = none :=
  (get?_erase table key key).trans (if_pos rfl)

/-- Removing a record leaves what is found under any other identifier. -/
theorem get?_erase_of_ne {table : Table α} {key other : Uuid} (h : other ≠ key) :
    (table.erase key).get? other = table.get? other :=
  (get?_erase table key other).trans (if_neg h)

/-- What is found after a record was removed was found before, under another identifier. -/
theorem get?_erase_eq_some_iff {table : Table α} {key other : Uuid} {found : α} :
    (table.erase key).get? other = some found ↔ other ≠ key ∧ table.get? other = some found := by
  rw [get?_erase]
  by_cases h : other = key <;> simp [h]

/-- Keeping the records that pass a test removes the others. -/
theorem get?_filter (table : Table α) (keep : α → Bool) (key : Uuid) :
    (table.filter keep).get? key = (table.get? key).filter keep :=
  get?_filterEntries table (fun entry => keep entry.2) key

/-- An entry with a new key is put at the end. -/
theorem insertEntry_of_not_mem {key : Uuid} {entries : List (Uuid × α)}
    (h : key ∉ entries.map Prod.fst) (value : α) :
    insertEntry key value entries = entries ++ [(key, value)] := by
  induction entries with
  | nil => rfl
  | cons head rest ih =>
      obtain ⟨k, v⟩ := head
      simp only [List.map_cons, List.mem_cons, not_or] at h
      simp [insertEntry, Ne.symm h.1, ih h.2]

/-- A record under a new identifier is filed last. -/
theorem entries_insert_of_not_mem {table : Table α} {key : Uuid} (h : table.get? key = none)
    (value : α) : (table.insert key value).entries = table.entries ++ [(key, value)] :=
  insertEntry_of_not_mem (lookup_eq_none_iff.1 h) value

/-- A record under a new identifier is put at the end. -/
theorem values_insert_of_not_mem {table : Table α} {key : Uuid} (h : table.get? key = none)
    (value : α) : (table.insert key value).values = table.values ++ [value] := by
  rw [values, entries_insert_of_not_mem h, List.map_append]
  rfl

/-- Filing a record under a new identifier and removing it leaves the table as it was. -/
theorem erase_insert {table : Table α} {key : Uuid} (h : table.get? key = none) (value : α) :
    (table.insert key value).erase key = table := by
  apply ext
  have hkeys := lookup_eq_none_iff.1 h
  simp only [erase, filterEntries, entries_insert_of_not_mem h, List.filter_append]
  rw [List.filter_eq_self.2, List.filter_eq_nil_iff.2, List.append_nil]
  · simp
  · rintro ⟨k, v⟩ hm
    have : k ≠ key := fun heq => hkeys (List.mem_map.2 ⟨_, hm, heq⟩)
    simpa using this

end Table

end OrgAccess
