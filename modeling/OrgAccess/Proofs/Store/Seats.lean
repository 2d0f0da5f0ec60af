import OrgAccess.Proofs.Store.Slice

/-!
# Counting seats

What changes of a store do to the number of seats that are taken in an organization. A membership
takes its seat whatever its role, so no change of a role counts (`seatCount_setRole`); an invite
takes one from when it is filed (`seatCount_insertInvite`) until it is removed
(`seatCount_eraseInvite`), as long as it takes no other record's place.
-/

namespace OrgAccess

namespace Table

variable {α : Type} {table : Table α} {key : Uuid} {value : α} {keep : α → Bool}

/-- A table with a record has the entries of the table without it, and the record's. -/
theorem entries_perm_erase (h : table.get? key = some value) :
    table.entries.Perm ((key, value) :: (table.erase key).entries) := by
  have herased : ∀ entry, entry ∈ (table.erase key).entries ↔
      entry ∈ table.entries ∧ entry.1 ≠ key := by
    intro entry
    simp [erase, filterEntries]
  have hnew : (key, value) ∉ (table.erase key).entries := by
    rw [herased]
    exact fun hmem => hmem.2 rfl
  refine (List.perm_ext_iff_of_nodup table.nodup.of_map
    (List.nodup_cons.2 ⟨hnew, (table.erase key).nodup.of_map⟩)).2 fun entry => ?_
  rw [List.mem_cons, herased]
  obtain ⟨other, record⟩ := entry
  constructor
  · intro hmem
    by_cases hkey : other = key
    · -- there is one record under the identifier
      subst hkey
      obtain rfl := Option.some.inj ((get?_eq_some_iff.2 hmem).symm.trans h)
      exact .inl rfl
    · exact .inr ⟨hmem, hkey⟩
  · rintro (hsame | ⟨hmem, -⟩)
    · obtain ⟨rfl, rfl⟩ := Prod.mk.inj hsame
      exact get?_eq_some_iff.1 h
    · exact hmem

/-- One record less passes a test after one that passed it is removed. -/
theorem length_filter_values_erase (h : table.get? key = some value) (hkeep : keep value = true) :
    ((table.erase key).values.filter keep).length + 1 = (table.values.filter keep).length := by
  have hperm : table.values.Perm (value :: (table.erase key).values) :=
    (entries_perm_erase h).map Prod.snd
  rw [(hperm.filter keep).length_eq, List.filter_cons_of_pos hkeep, List.length_cons]

/-- One more passes it after one that passes it is filed. -/
theorem length_filter_values_insert (h : table.get? key = none) (hkeep : keep value = true) :
    ((table.insert key value).values.filter keep).length =
      (table.values.filter keep).length + 1 := by
  rw [values_insert_of_not_mem h, List.filter_append, List.filter_cons_of_pos hkeep,
    List.length_append]
  rfl

end Table

namespace Store

variable {store : Store} {organizationId : Uuid}

/-- How many members an organization has depends on whom the memberships link. -/
theorem length_filter_memberships (memberships : List Membership) :
    (memberships.filter fun m => m.organizationId = organizationId).length =
      (memberships.map Membership.link).countP fun link => link.1 = organizationId := by
  rw [List.countP_map, List.countP_eq_length_filter]
  rfl

/-- A change of role takes no seat and frees none. -/
theorem seatCount_setRole (other userId : Uuid) (role : Role) :
    { store with memberships := setRole other userId role store.memberships }.seatCount
      organizationId = store.seatCount organizationId := by
  unfold seatCount
  rw [length_filter_memberships, map_link_setRole, ← length_filter_memberships]

/-- A new invite takes a seat in its organization. -/
theorem seatCount_insertInvite {invite : Invite}
    (hfresh : store.invites.get? invite.id = none) :
    { store with invites := store.invites.insert invite.id invite }.seatCount
      invite.organizationId = store.seatCount invite.organizationId + 1 := by
  unfold seatCount
  dsimp only
  rw [Table.length_filter_values_insert hfresh (by simp), Nat.add_assoc]

/-- Removing an invite frees a seat. -/
theorem seatCount_eraseInvite {inviteId : Uuid} {invite : Invite}
    (hfind : store.findInvite organizationId inviteId = some invite) :
    { store with invites := store.invites.erase inviteId }.seatCount organizationId + 1 =
      store.seatCount organizationId := by
  obtain ⟨hget, hkeep⟩ := Option.filter_eq_some_iff.1 hfind
  unfold seatCount
  dsimp only
  rw [Nat.add_assoc, Table.length_filter_values_erase hget (by simpa using hkeep)]

/-- Nobody has a seat in an organization that is gone. -/
theorem seatCount_withoutOrganization :
    (store.withoutOrganization organizationId).seatCount organizationId = 0 := by
  unfold seatCount withoutOrganization
  rw [Table.values_filter, List.filter_filter, List.filter_filter]
  simp

end Store

end OrgAccess
