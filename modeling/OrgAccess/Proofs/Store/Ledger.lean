import Mathlib.Data.List.Nodup
import OrgAccess.Uuid

/-!
# Logs of what is done to records

A log lists the records that were made, saved and removed, in the order of the calls. It accounts
for what is found at its end (`Entry.Accounts`) when no record is lost, none turns up unasked for,
and each is as it was stored last. Logs that each account for their part account for the whole
(`Entry.Tally.trans`), as long as the later one makes records under identifiers that are new. Where
there was nothing at first and nothing is saved again, what is found are the records that were made
and have not been removed since (`Entry.Tally.found_iff_mem_standing`).
-/

namespace OrgAccess

/-- What a call that succeeds does to the records of an organization. -/
inductive Entry (α : Type) where
  | made (record : α)
  | saved (record : α)
  | removed (id : Uuid)
deriving DecidableEq

namespace Entry

variable {α : Type} {key : α → Uuid} {first middle last : Uuid → Option α}
  {log later : List (Entry α)} {ids laterIds : List Uuid} {id : Uuid} {record : α}

/-- The record that is stored, if one is. -/
def record? : Entry α → Option α
  | made record | saved record => some record
  | removed _ => none

/-- The record that is made, if one is. -/
def made? : Entry α → Option α
  | made record => some record
  | saved _ | removed _ => none

/-- The identifiers of the records that were made. -/
def madeIds (key : α → Uuid) (log : List (Entry α)) : List Uuid :=
  (log.filterMap made?).map key

/-- The record that was stored last under an identifier. -/
def lastRecord? (key : α → Uuid) (log : List (Entry α)) (id : Uuid) : Option α :=
  ((log.filterMap record?).filter fun record => key record = id).getLast?

/-- The records that were made and have not been removed since, in the order in which they were
made. -/
def standing [DecidableEq α] (key : α → Uuid) : List (Entry α) → List α
  | [] => []
  | made record :: later =>
      if .removed (key record) ∈ later then standing key later
      else record :: standing key later
  | saved _ :: later | removed _ :: later => standing key later

/-- A log accounts for what is found under identifiers. There are records under those that had one
at first and those of the records that were made, without those that were removed, and each record
is the one that was stored last, or the one that was there at first if none was stored. -/
structure Accounts (key : α → Uuid) (first last : Uuid → Option α) (log : List (Entry α)) :
    Prop where
  found : ∀ id, last id ≠ none ↔
    (first id ≠ none ∨ id ∈ madeIds key log) ∧ removed id ∉ log
  latest : ∀ id record, last id = some record →
    (lastRecord? key log id).or (first id) = some record

/-- A log accounts for what is found, makes records under the given identifiers alone, one at most
under each, and removes none but such as were there at first or are among these. -/
structure Tally (key : α → Uuid) (ids : List Uuid) (first last : Uuid → Option α)
    (log : List (Entry α)) : Prop extends Accounts key first last log where
  made : (madeIds key log).Sublist ids
  removed : ∀ id, removed id ∈ log → first id ≠ none ∨ id ∈ ids

/-! ## Logs -/

/-- Records made in the course of two logs are made in the first or in the second, in that order. -/
theorem madeIds_append (key : α → Uuid) (log later : List (Entry α)) :
    madeIds key (log ++ later) = madeIds key log ++ madeIds key later := by
  rw [madeIds, List.filterMap_append, List.map_append]
  rfl

/-- A record is made under an identifier when the log has an entry for it. -/
theorem mem_madeIds_iff :
    id ∈ madeIds key log ↔ ∃ record, .made record ∈ log ∧ key record = id := by
  have hmade : ∀ record, record ∈ log.filterMap made? ↔ .made record ∈ log := by
    intro record
    rw [List.mem_filterMap]
    constructor
    · rintro ⟨entry, hentry, hrecord⟩
      cases entry with
      | made other => rwa [← Option.some.inj hrecord]
      | saved _ | removed _ => cases hrecord
    · intro hentry
      exact ⟨_, hentry, rfl⟩
  simp only [madeIds, List.mem_map, hmade]

/-- The record that was stored last is that of the later log, if it has one. -/
theorem lastRecord?_append (key : α → Uuid) (log later : List (Entry α)) (id : Uuid) :
    lastRecord? key (log ++ later) id =
      (lastRecord? key later id).or (lastRecord? key log id) := by
  rw [lastRecord?, List.filterMap_append, List.filter_append, List.getLast?_append]
  rfl

/-- Where no identifier is stored twice the record that was stored last is the only one. -/
theorem lastRecord?_of_nodup (hnodup : ((log.filterMap record?).map key).Nodup)
    (hrecord : record ∈ log.filterMap record?) :
    lastRecord? key log (key record) = some record := by
  cases hlast : lastRecord? key log (key record) with
  | none =>
      have hnone := List.getLast?_eq_none_iff.1 hlast
      exact absurd (decide_eq_true rfl) (List.filter_eq_nil_iff.1 hnone record hrecord)
  | some other =>
      obtain ⟨hother, hkey⟩ := List.mem_filter.1 (List.mem_of_getLast? hlast)
      rw [List.inj_on_of_nodup_map hnodup hother hrecord (of_decide_eq_true hkey)]

/-! ## One entry -/

/-- What is found after a record was stored is that record, or what was found before. -/
theorem latest_of_stored {entry : Entry α} {found : α} (hentry : entry.record? = some record)
    (hlast : ∀ id, last id = if id = key record then some record else first id)
    (hfound : last id = some found) :
    (lastRecord? key [entry] id).or (first id) = some found := by
  have hlog : [entry].filterMap record? = [record] := by
    rw [List.filterMap_cons_some hentry, List.filterMap_nil]
  rw [hlast] at hfound
  rw [lastRecord?, hlog]
  by_cases hid : id = key record
  · simpa [hid] using hfound
  · simpa [hid, Ne.symm hid] using hfound

namespace Tally

/-- An empty log accounts for what has not changed. -/
theorem unchanged (ids : List Uuid) (hlast : ∀ id, last id = first id) :
    Tally key ids first last [] where
  found := by simp [hlast, madeIds]
  latest := by
    intro id record hrecord
    rw [← hlast, hrecord]
    rfl
  made := List.nil_sublist ids
  removed := by simp

/-- One entry accounts for a record that is made. -/
theorem make (hlast : ∀ id, last id = if id = key record then some record else first id) :
    Tally key [key record] first last [.made record] where
  found := by
    intro id
    rw [hlast]
    by_cases hid : id = key record <;> simp [hid, madeIds, made?]
  latest := fun _ _ => latest_of_stored rfl hlast
  made := List.Sublist.refl _
  removed := by simp

/-- One entry accounts for a record that is saved in place of another. -/
theorem save (hfirst : first (key record) ≠ none)
    (hlast : ∀ id, last id = if id = key record then some record else first id) :
    Tally key ids first last [.saved record] where
  found := by
    intro id
    rw [hlast]
    by_cases hid : id = key record <;> simp [hid, hfirst, madeIds, made?]
  latest := fun _ _ => latest_of_stored rfl hlast
  made := List.nil_sublist ids
  removed := by simp

/-- One entry accounts for a record that is removed. -/
theorem remove (hfirst : first id ≠ none)
    (hlast : ∀ other, last other = if other = id then none else first other) :
    Tally key ids first last [.removed id] where
  found := by
    intro other
    rw [hlast]
    by_cases hid : other = id <;> simp [hid, madeIds, made?]
  latest := by
    intro other found hfound
    rw [hlast] at hfound
    split at hfound
    · cases hfound
    · exact hfound
  made := List.nil_sublist ids
  removed := by
    intro other hother
    obtain rfl : other = id := by simpa using hother
    exact .inl hfirst

/-! ## Logs that follow each other -/

/-- Logs add up when the later one makes records under identifiers that are new. -/
theorem trans (h : Tally key ids first middle log) (hlater : Tally key laterIds middle last later)
    (hnew : ∀ id ∈ laterIds, first id = none ∧ id ∉ ids) :
    Tally key (ids ++ laterIds) first last (log ++ later) where
  found := by
    intro id
    -- what is made later has not been removed before
    have hnever : id ∈ madeIds key later → .removed id ∉ log := by
      intro hmade hremoved
      obtain ⟨hnone, hother⟩ := hnew id (hlater.made.subset hmade)
      rcases h.removed id hremoved with hfirst | hid
      · exact hfirst hnone
      · exact hother hid
    rw [hlater.found, h.found, madeIds_append, List.mem_append, List.mem_append]
    tauto
  latest := by
    intro id record hrecord
    rw [lastRecord?_append, Option.or_assoc]
    have hstored := hlater.latest id record hrecord
    cases hlast : lastRecord? key later id with
    | some other =>
        rw [hlast] at hstored
        exact hstored
    | none =>
        rw [hlast] at hstored
        exact h.latest id record hstored
  made := by
    rw [madeIds_append]
    exact h.made.append hlater.made
  removed := by
    intro id hid
    rcases List.mem_append.1 hid with hearly | hlate
    · exact (h.removed id hearly).imp_right (List.mem_append_left _)
    · rcases hlater.removed id hlate with hmiddle | hlaterId
      · rcases ((h.found id).1 hmiddle).1 with hfirst | hmade
        · exact .inl hfirst
        · exact .inr (List.mem_append_left _ (h.made.subset hmade))
      · exact .inr (List.mem_append_right _ hlaterId)

/-- A record that was made is found as it was made, if no identifier is given twice and nothing is
saved. -/
theorem eq_of_made {current : α} (h : Tally key ids first last log) (hids : ids.Nodup)
    (hsaved : log.filterMap record? = log.filterMap made?) (hmade : .made record ∈ log)
    (hcurrent : last (key record) = some current) : current = record := by
  have hlast : lastRecord? key log (key record) = some record := by
    apply lastRecord?_of_nodup
    · rw [hsaved]
      exact hids.sublist h.made
    · rw [hsaved]
      exact List.mem_filterMap.2 ⟨_, hmade, rfl⟩
  have hlatest := h.latest (key record) current hcurrent
  rw [hlast] at hlatest
  exact (Option.some.inj hlatest).symm

end Tally

/-! ## What stands -/

section Standing

variable [DecidableEq α]

/-- The records that stand are some of those that were made, in their order. -/
theorem standing_sublist (key : α → Uuid) (log : List (Entry α)) :
    (standing key log).Sublist (log.filterMap made?) := by
  induction log with
  | nil => exact .slnil
  | cons entry later ih =>
      cases entry with
      | made record =>
          change (standing key (.made record :: later)).Sublist (record :: later.filterMap made?)
          rw [standing]
          split
          · exact ih.cons record
          · exact ih.cons_cons record
      | saved _ | removed _ => exact ih

/-- A record stands where a log makes it and goes on without removing it. -/
theorem mem_standing_iff :
    record ∈ standing key log ↔
      ∃ before later, log = before ++ .made record :: later ∧ .removed (key record) ∉ later := by
  induction log with
  | nil => simp [standing]
  | cons entry rest ih =>
      have hsplit : (∃ before later, entry :: rest = before ++ .made record :: later ∧
            .removed (key record) ∉ later) ↔
          (entry = .made record ∧ .removed (key record) ∉ rest) ∨ record ∈ standing key rest := by
        rw [ih]
        constructor
        · rintro ⟨before, later, hlog, hkept⟩
          rcases List.cons_eq_append_iff.1 hlog with ⟨rfl, hlater⟩ | ⟨earlier, rfl, hrest⟩
          · obtain ⟨rfl, rfl⟩ := List.cons.inj hlater
            exact .inl ⟨rfl, hkept⟩
          · exact .inr ⟨earlier, later, hrest, hkept⟩
        · rintro (⟨rfl, hkept⟩ | ⟨before, later, rfl, hkept⟩)
          · exact ⟨[], rest, rfl, hkept⟩
          · exact ⟨entry :: before, later, rfl, hkept⟩
      rw [hsplit]
      cases entry with
      | made other =>
          rw [standing]
          split <;> grind
      | saved _ | removed _ => simp [standing]

/-- Where nothing was there at first, nothing is saved and nothing is removed before it is made,
what is found is what stands. -/
theorem Tally.found_iff_mem_standing (h : Tally key ids first last log) (hids : ids.Nodup)
    (hfirst : ∀ id, first id = none) (hsaved : log.filterMap record? = log.filterMap made?)
    (horder : ∀ before record later, log = before ++ .made record :: later →
      .removed (key record) ∉ before) :
    last (key record) = some record ↔ record ∈ standing key log := by
  rw [mem_standing_iff]
  constructor
  · intro hfound
    have hthere : last (key record) ≠ none := by
      rw [hfound]
      exact Option.some_ne_none record
    obtain ⟨hknown, hkept⟩ := (h.found _).1 hthere
    obtain ⟨other, hother, hkey⟩ := mem_madeIds_iff.1 (hknown.resolve_left (not_not.2 (hfirst _)))
    obtain rfl := h.eq_of_made hids hsaved hother (hkey ▸ hfound)
    obtain ⟨before, later, rfl⟩ := List.append_of_mem hother
    refine ⟨before, later, rfl, fun hlater => hkept ?_⟩
    exact List.mem_append_right before (List.mem_cons_of_mem _ hlater)
  · rintro ⟨before, later, hlog, hkept⟩
    have hmade : .made record ∈ log := by
      rw [hlog]
      exact List.mem_append_right before List.mem_cons_self
    have hnever : .removed (key record) ∉ log := by
      have hbefore := horder before record later hlog
      rw [hlog]
      simp [hbefore, hkept]
    have hthere := (h.found _).2 ⟨.inr (mem_madeIds_iff.2 ⟨record, hmade, rfl⟩), hnever⟩
    obtain ⟨current, hcurrent⟩ := Option.ne_none_iff_exists'.1 hthere
    rw [hcurrent, h.eq_of_made hids hsaved hmade hcurrent]

end Standing

end Entry

end OrgAccess
