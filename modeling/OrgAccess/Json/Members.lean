import OrgAccess.Json.Basic

/-!
# Sorted members

A finite map from keys to JSON values, kept as a list in increasing order of keys (code point by
code point). Main statements: the lookup laws `get?_insert` and `get?_erase`, and `ext`, that maps
with the same lookups are equal, so the order in which members are set never shows unless a key
is set twice, when the last value stays.
-/

namespace OrgAccess.Json

/-- A finite map from keys to values in increasing order of keys. -/
structure Members where
  entries : List (String × Json)
  sorted : entries.Pairwise (fun a b => a.1 < b.1)

namespace Members

/-- The map with no members. -/
def empty : Members := ⟨[], .nil⟩

/-- There is a map without members. -/
instance : Inhabited Members := ⟨empty⟩

/-- The value under a key in a list of entries. -/
def lookup (key : String) : List (String × Json) → Option Json
  | [] => none
  | (k, v) :: rest => if k = key then some v else lookup key rest

/-- A sorted list of entries with one entry set. -/
def insertEntry (key : String) (value : Json) : List (String × Json) → List (String × Json)
  | [] => [(key, value)]
  | (k, v) :: rest =>
      if key < k then (key, value) :: (k, v) :: rest
      else if key = k then (key, value) :: rest
      else (k, v) :: insertEntry key value rest

/-- An entry of the list with one set is that one or was there before. -/
theorem mem_insertEntry {key : String} {value : Json} {entries : List (String × Json)}
    {entry : String × Json} (h : entry ∈ insertEntry key value entries) :
    entry = (key, value) ∨ entry ∈ entries := by
  induction entries with
  | nil => simpa [insertEntry] using h
  | cons head rest ih =>
      obtain ⟨k, v⟩ := head
      unfold insertEntry at h
      split at h
      · simpa using h
      · split at h
        · rcases List.mem_cons.1 h with h | h
          · exact .inl h
          · exact .inr (List.mem_cons_of_mem _ h)
        · rcases List.mem_cons.1 h with h | h
          · exact .inr (by simp [h])
          · rcases ih h with h | h
            · exact .inl h
            · exact .inr (List.mem_cons_of_mem _ h)

/-- Setting an entry leaves a sorted list sorted. -/
theorem sorted_insertEntry {key : String} {value : Json} {entries : List (String × Json)}
    (h : entries.Pairwise (fun a b => a.1 < b.1)) :
    (insertEntry key value entries).Pairwise (fun a b => a.1 < b.1) := by
  induction entries with
  | nil => simp [insertEntry]
  | cons head rest ih =>
      obtain ⟨k, v⟩ := head
      have hrest := List.pairwise_cons.1 h
      unfold insertEntry
      split
      · next hlt =>
        refine List.pairwise_cons.2 ⟨fun entry hm => ?_, h⟩
        rcases List.mem_cons.1 hm with rfl | hm
        · exact hlt
        · exact String.lt_trans hlt (hrest.1 entry hm)
      · split
        · next heq => exact List.pairwise_cons.2 ⟨fun e he => heq ▸ hrest.1 e he, hrest.2⟩
        · next hlt hne =>
          refine List.pairwise_cons.2 ⟨fun entry hm => ?_, ih hrest.2⟩
          rcases mem_insertEntry hm with rfl | hm
          · rcases Decidable.em (k < key) with hk | hk
            · exact hk
            · exact absurd (String.le_antisymm (String.not_lt.1 hk) (String.not_lt.1 hlt)) hne
          · exact hrest.1 entry hm

/-- The value under a key. -/
def get? (members : Members) (key : String) : Option Json :=
  lookup key members.entries

/-- The map with one member set. -/
def insert (members : Members) (key : String) (value : Json) : Members :=
  ⟨insertEntry key value members.entries, sorted_insertEntry members.sorted⟩

/-- The map without one key. -/
def erase (members : Members) (key : String) : Members :=
  ⟨members.entries.filter (fun entry => entry.1 ≠ key), members.sorted.filter _⟩

/-- The map with the listed members set in order, so that the last value of a key stays. -/
def insertAll (members : Members) (list : List (String × Json)) : Members :=
  list.foldl (fun map entry => map.insert entry.1 entry.2) members

/-- The map of the listed members; the last value of a key stays. -/
def ofList (list : List (String × Json)) : Members :=
  empty.insertAll list

/-- The object with these members. -/
def toJson (members : Members) : Json :=
  .object members.entries

/-! ## Laws of lookup -/

/-- The key that is set has the value that it is set to. -/
theorem lookup_insertEntry_self (key : String) (value : Json) (entries : List (String × Json)) :
    lookup key (insertEntry key value entries) = some value := by
  induction entries with
  | nil => simp [insertEntry, lookup]
  | cons head rest ih =>
      obtain ⟨k, v⟩ := head
      unfold insertEntry
      split
      · simp [lookup]
      · split
        · simp [lookup]
        · next hne => simp [lookup, Ne.symm hne, ih]

/-- Every other key has the value that it had. -/
theorem lookup_insertEntry_ne {key other : String} (hne : other ≠ key) (value : Json)
    (entries : List (String × Json)) :
    lookup other (insertEntry key value entries) = lookup other entries := by
  induction entries with
  | nil => simp [insertEntry, lookup, Ne.symm hne]
  | cons head rest ih =>
      obtain ⟨k, v⟩ := head
      unfold insertEntry
      split
      · simp [lookup, Ne.symm hne]
      · split
        · next heq => subst heq; simp [lookup, Ne.symm hne]
        · simp [lookup, ih]

/-- No key has a value in the map without members. -/
@[simp] theorem get?_empty (key : String) : empty.get? key = none := rfl

/-- After a member is set its key has the new value and every other key its old one. -/
theorem get?_insert (members : Members) (key other : String) (value : Json) :
    (members.insert key value).get? other =
      if other = key then some value else members.get? other := by
  split
  · next h => rw [h]; exact lookup_insertEntry_self key value members.entries
  · next h => exact lookup_insertEntry_ne h value members.entries

/-- A key that a filter on keys keeps has its old value, and every other key has none. -/
theorem lookup_filter (keep : String → Bool) (key : String) (entries : List (String × Json)) :
    lookup key (entries.filter fun entry => keep entry.1) =
      if keep key then lookup key entries else none := by
  induction entries with
  | nil => simp [lookup]
  | cons head rest ih =>
      obtain ⟨k, v⟩ := head
      rw [List.filter_cons]
      by_cases hk : k = key
      · subst hk
        cases hkeep : keep k with
        | true => simp [lookup]
        | false => simp [ih, hkeep]
      · cases keep k with
        | true => simp [lookup, hk, ih]
        | false => simp [lookup, hk, ih]

/-- After a key is removed it has no value and every other key its old one. -/
theorem get?_erase (members : Members) (key other : String) :
    (members.erase key).get? other = if other = key then none else members.get? other := by
  refine (lookup_filter (fun k => k ≠ key) other members.entries).trans ?_
  by_cases h : other = key <;> simp [h, get?]

/-- A key that no entry has has no value. -/
theorem lookup_eq_none_of_not_mem {key : String} {entries : List (String × Json)}
    (hkey : key ∉ entries.map Prod.fst) : lookup key entries = none := by
  induction entries with
  | nil => rfl
  | cons head rest ih =>
      obtain ⟨hhead, hrest⟩ := not_or.1 (fun h => hkey (List.mem_cons.2 h))
      rw [lookup, if_neg (Ne.symm hhead), ih hrest]

/-- A key below every key of a list has no value there. -/
theorem lookup_eq_none_of_lt {key : String} {entries : List (String × Json)}
    (h : ∀ entry ∈ entries, key < entry.1) : lookup key entries = none := by
  apply lookup_eq_none_of_not_mem
  intro hmem
  obtain ⟨entry, hentry, rfl⟩ := List.mem_map.1 hmem
  exact String.lt_irrefl entry.1 (h entry hentry)

/-- Sorted lists with the same values under all keys are one list. -/
theorem entries_ext {xs ys : List (String × Json)}
    (hx : xs.Pairwise (fun a b => a.1 < b.1)) (hy : ys.Pairwise (fun a b => a.1 < b.1))
    (h : ∀ key, lookup key xs = lookup key ys) : xs = ys := by
  induction xs generalizing ys with
  | nil =>
      cases ys with
      | nil => rfl
      | cons head rest => have := h head.1; simp [lookup] at this
  | cons x xs ih =>
      obtain ⟨k, v⟩ := x
      have hx' := List.pairwise_cons.1 hx
      cases ys with
      | nil => have := h k; simp [lookup] at this
      | cons y ys =>
          obtain ⟨l, w⟩ := y
          have hy' := List.pairwise_cons.1 hy
          have hkl : k = l := by
            rcases Decidable.em (k < l) with hlt | hlt
            · have hk := h k
              have hnone : lookup k ys = none :=
                lookup_eq_none_of_lt fun e he => String.lt_trans hlt (hy'.1 e he)
              have hl : l ≠ k := fun heq => String.lt_irrefl k (heq ▸ hlt)
              simp [lookup, hl, hnone] at hk
            · rcases Decidable.em (l < k) with hgt | hgt
              · have hl := h l
                have hnone : lookup l xs = none :=
                  lookup_eq_none_of_lt fun e he => String.lt_trans hgt (hx'.1 e he)
                have hk : k ≠ l := fun heq => String.lt_irrefl l (heq ▸ hgt)
                simp [lookup, hk, hnone] at hl
              · exact String.le_antisymm (String.not_lt.1 hgt) (String.not_lt.1 hlt)
          subst hkl
          have hvw : v = w := by simpa [lookup] using h k
          subst hvw
          have hrest : xs = ys := by
            apply ih hx'.2 hy'.2
            intro key
            by_cases hkey : k = key
            · subst hkey
              rw [lookup_eq_none_of_lt hx'.1, lookup_eq_none_of_lt hy'.1]
            · simpa [lookup, hkey] using h key
          rw [hrest]

/-- Maps with the same lookups are equal. -/
theorem ext {a b : Members} (h : ∀ key, a.get? key = b.get? key) : a = b := by
  obtain ⟨xs, hx⟩ := a
  obtain ⟨ys, hy⟩ := b
  have heq : xs = ys := entries_ext hx hy h
  subst heq
  rfl

/-! ## Laws of lists -/

/-- No key of a map has two entries. -/
theorem nodup_keys (members : Members) : (members.entries.map Prod.fst).Nodup := by
  rw [List.Nodup, List.pairwise_map]
  refine members.sorted.imp fun {a b} hlt heq => ?_
  exact String.lt_irrefl b.1 (heq ▸ hlt)

/-- After members with distinct keys are set a key has the value that they give it, or else its old
one. -/
theorem get?_insertAll (members : Members) {list : List (String × Json)}
    (hkeys : (list.map Prod.fst).Nodup) (key : String) :
    (members.insertAll list).get? key = (lookup key list).or (members.get? key) := by
  induction list generalizing members with
  | nil => rfl
  | cons head rest ih =>
      obtain ⟨k, v⟩ := head
      obtain ⟨hhead, hrest⟩ := List.nodup_cons.1 hkeys
      have hset : members.insertAll ((k, v) :: rest) = (members.insert k v).insertAll rest := rfl
      rw [hset, ih _ hrest, get?_insert, lookup]
      by_cases hk : k = key
      · subst hk
        rw [lookup_eq_none_of_not_mem hhead, if_pos rfl, if_pos rfl]
        rfl
      · rw [if_neg hk, if_neg (Ne.symm hk)]

/-- A key has the value that a list without repeated keys gives it. -/
@[simp] theorem get?_ofList {list : List (String × Json)} (hkeys : (list.map Prod.fst).Nodup)
    (key : String) : (ofList list).get? key = lookup key list := by
  rw [ofList, get?_insertAll empty hkeys, get?_empty, Option.or_none]

/-- The map of its own entries is the map. -/
theorem ofList_entries (members : Members) : ofList members.entries = members := by
  apply ext
  intro key
  exact get?_ofList members.nodup_keys key

end Members

end OrgAccess.Json
