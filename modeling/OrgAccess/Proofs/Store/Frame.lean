import OrgAccess.Proofs.Store.Slice

/-!
# What a command leaves alone

A command names one organization (`Command.Within`) and leaves every other as it was. The other
organizations themselves and their members are never touched (`Command.Within.sameOrganization`).
Their projects and invites are not either (`Command.Within.sameSlice`), as long as no new record is
filed under an identifier that is in use: the tables of records are shared by all organizations.
-/

namespace OrgAccess

namespace Table

variable {α : Type} {table : Table α} {keep : α → Bool} {key id : Uuid} {value : α}

/-- A record that passes a test is found through it once it is filed. -/
theorem filter_get?_insert_of_keep (hvalue : keep value = true) (id : Uuid) :
    ((table.insert key value).get? id).filter keep =
      if id = key then some value else (table.get? id).filter keep := by
  rw [get?_insert]
  split
  · exact Option.filter_some_pos hvalue
  · rfl

/-- Through a test nothing is seen under an identifier whose record is removed, and the rest as
before. -/
theorem filter_get?_erase_eq (table : Table α) (keep : α → Bool) (key id : Uuid) :
    ((table.erase key).get? id).filter keep =
      if id = key then none else (table.get? id).filter keep := by
  rw [get?_erase]
  split <;> rfl

/-- A record that does not pass a test is not seen through it, where no record that passes had its
place. -/
theorem filter_get?_insert (hvalue : keep value = false)
    (hold : (table.get? key).filter keep = none) :
    ((table.insert key value).get? id).filter keep = (table.get? id).filter keep := by
  rw [get?_insert]
  split
  · next hid =>
    rw [hid, hold]
    simp [hvalue]
  · rfl

/-- Nor is one missed through it that does not pass. -/
theorem filter_get?_erase (hold : (table.get? key).filter keep = none) :
    ((table.erase key).get? id).filter keep = (table.get? id).filter keep := by
  rw [get?_erase]
  split
  · next hid =>
    rw [hid, hold]
    rfl
  · rfl

/-- Removing records that do not pass a test leaves what is seen through it. -/
theorem filter_get?_filter {others : α → Bool} (h : ∀ value, keep value = true →
    others value = true) :
    ((table.filter others).get? id).filter keep = (table.get? id).filter keep := by
  rw [get?_filter]
  cases table.get? id with
  | none => rfl
  | some value =>
      cases hkeep : keep value with
      | false => cases hothers : others value <;> simp [Option.filter, hkeep, hothers]
      | true => simp [Option.filter, hkeep, h value hkeep]

/-- A record that counts for one owner does not count for another. -/
theorem filter_get?_of_ne {owner : α → Uuid} {x y : Uuid}
    (h : ∃ value, (table.get? id).filter (fun v => owner v = x) = some value) (hne : y ≠ x) :
    (table.get? id).filter (fun v => owner v = y) = none := by
  obtain ⟨value, hfound⟩ := h
  obtain ⟨hget, howner⟩ := Option.filter_eq_some_iff.1 hfound
  rw [decide_eq_true_eq] at howner
  rw [hget]
  simp [Option.filter, howner, hne.symm]

end Table

namespace Store

variable {store changed : Store} {command : Command} {organizationId other : Uuid}

/-! ## The organization that a command names -/

/-- A command names one organization: what it writes belongs to it, and so does what is replaced
or removed. -/
def Command.Within (store : Store) (organizationId : Uuid) : Command → Prop
  | .addOrganization organization | .saveOrganization organization =>
      organization.id = organizationId
  | .addMembership membership => membership.organizationId = organizationId
  | .addBilling account => account.organizationId = organizationId
  | .deleteOrganization id | .setMemberRole id _ _ => id = organizationId
  | .insertProject project => project.organizationId = organizationId
  | .saveProject project =>
      project.organizationId = organizationId ∧
        ∃ old, store.findProject organizationId project.id = some old
  | .deleteProject id => ∃ old, store.findProject organizationId id = some old
  | .insertInvite invite => invite.organizationId = organizationId
  | .deleteInvite id => ∃ old, store.findInvite organizationId id = some old

/-- A command files no new record under an identifier that is in use for such a record. -/
def Command.IsFresh (store : Store) : Command → Prop
  | .insertProject project => store.projects.get? project.id = none
  | .insertInvite invite => store.invites.get? invite.id = none
  | _ => True

/-! ## Members of one organization -/

/-- The members of an organization are told of no change of role elsewhere. -/
theorem filter_setRole_of_ne (hother : other ≠ organizationId) (userId : Uuid) (role : Role)
    (memberships : List Membership) :
    (setRole organizationId userId role memberships).filter (fun m => m.organizationId = other) =
      memberships.filter fun m => m.organizationId = other := by
  induction memberships with
  | nil => rfl
  | cons m rest ih =>
      unfold setRole
      split
      · next hlinks =>
        have hm : m.organizationId ≠ other := by
          intro hm
          simp only [Membership.links, Bool.and_eq_true, decide_eq_true_eq] at hlinks
          exact hother (hm.symm.trans hlinks.1)
        simp [hm]
      · simp only [List.filter_cons, ih]

/-- Filing a membership changes the members of its organization. -/
theorem membersOf_addMembership (membership : Membership) :
    (store.addMembership membership).membersOf organizationId =
      (store.membersOf organizationId).filter
          (fun m => !m.links membership.organizationId membership.userId) ++
        [membership].filter fun m => m.organizationId = organizationId := by
  rw [membersOf, addMembership, List.filter_append, List.filter_filter, membersOf,
    List.filter_filter]
  simp only [Bool.and_comm]

/-! ## Organizations and their members -/

/-- A command is about projects, invites or billing alone. -/
def Command.SparesOrganizations : Command → Prop
  | .addBilling _ | .insertProject _ | .saveProject _ | .deleteProject _ | .insertInvite _
  | .deleteInvite _ => True
  | _ => False

/-- Such a command leaves every organization and its members as they were. -/
theorem Command.SparesOrganizations.sameOrganization (hspares : command.SparesOrganizations)
    (h : store.attempt command = .ok changed) : changed.SameOrganization store other := by
  cases command with
  | addOrganization _ | saveOrganization _ | addMembership _ | deleteOrganization _
  | setMemberRole _ _ _ => exact hspares.elim
  | addBilling account =>
      obtain rfl := Except.ok.inj h
      exact ⟨rfl, rfl⟩
  | insertProject project =>
      obtain ⟨-, rfl⟩ := insertProject_eq_ok_iff.1 h
      exact ⟨rfl, rfl⟩
  | saveProject project =>
      obtain ⟨-, rfl⟩ := saveProject_eq_ok_iff.1 h
      exact ⟨rfl, rfl⟩
  | deleteProject id =>
      obtain ⟨-, rfl⟩ := deleteProject_eq_ok_iff.1 h
      exact ⟨rfl, rfl⟩
  | insertInvite invite =>
      obtain ⟨-, rfl⟩ := insertInvite_eq_ok_iff.1 h
      exact ⟨rfl, rfl⟩
  | deleteInvite id =>
      obtain ⟨-, rfl⟩ := deleteInvite_eq_ok_iff.1 h
      exact ⟨rfl, rfl⟩

/-- Other organizations and their members are as they were. -/
theorem Command.Within.sameOrganization (hwithin : command.Within store organizationId)
    (h : store.attempt command = .ok changed) (hother : other ≠ organizationId) :
    changed.SameOrganization store other := by
  have hadd : ∀ organization : Organization, organization.id = organizationId →
      (store.addOrganization organization).SameOrganization store other := by
    rintro organization rfl
    exact ⟨Table.get?_insert_of_ne hother, rfl⟩
  cases command with
  | addOrganization organization =>
      obtain rfl := Except.ok.inj h
      exact hadd organization hwithin
  | saveOrganization organization =>
      obtain ⟨-, -, rfl⟩ := saveOrganization_eq_ok_iff.1 h
      exact hadd organization hwithin
  | addMembership membership =>
      obtain rfl := Except.ok.inj h
      obtain rfl : membership.organizationId = organizationId := hwithin
      refine ⟨rfl, ?_⟩
      rw [membersOf_addMembership, List.filter_eq_self.2]
      · simp [hother.symm]
      · intro m hm
        have horganization : m.organizationId = other := by
          simpa using (List.mem_filter.1 hm).2
        simp [Membership.links, horganization, hother]
  | deleteOrganization id =>
      obtain ⟨-, rfl⟩ := deleteOrganization_eq_ok_iff.1 h
      obtain rfl : id = organizationId := hwithin
      refine ⟨Table.get?_erase_of_ne hother, ?_⟩
      rw [membersOf, withoutOrganization, List.filter_filter, membersOf]
      refine List.filter_congr fun m _ => ?_
      by_cases hm : m.organizationId = other <;> simp [hm, hother]
  | setMemberRole id userId role =>
      obtain ⟨-, rfl⟩ := setMemberRole_eq_ok_iff.1 h
      obtain rfl : id = organizationId := hwithin
      exact ⟨rfl, filter_setRole_of_ne hother userId role store.memberships⟩
  | addBilling _ | insertProject _ | saveProject _ | deleteProject _ | insertInvite _
  | deleteInvite _ =>
      refine Command.SparesOrganizations.sameOrganization ?_ h
      trivial

/-- A slug is taken where an organization is filed that has it. -/
theorem Filed.slugTaken_iff (h : store.Filed) {slug : String} :
    store.SlugTaken slug organizationId ↔
      ∃ id organization, id ≠ organizationId ∧
        store.organizations.get? id = some organization ∧ organization.slug = slug := by
  constructor
  · rintro ⟨organization, hmem, hid, hslug⟩
    obtain ⟨id, hget⟩ := Table.mem_values_iff.1 hmem
    have hkey : organization.id = id := h.organizations _ _ hget
    exact ⟨id, organization, hkey ▸ hid, hget, hslug⟩
  · rintro ⟨id, organization, hid, hget, hslug⟩
    have hkey : organization.id = id := h.organizations _ _ hget
    exact ⟨organization, Table.mem_values_iff.2 ⟨id, hget⟩, hkey ▸ hid, hslug⟩

/-- The slugs of other organizations are as they were. -/
theorem Command.Within.slugTaken_iff (hwithin : command.Within store organizationId)
    (hstore : store.Filed) (h : store.attempt command = .ok changed) {slug : String} :
    changed.SlugTaken slug organizationId ↔ store.SlugTaken slug organizationId := by
  rw [(hstore.attempt h).slugTaken_iff, hstore.slugTaken_iff]
  refine exists_congr fun id => exists_congr fun organization => and_congr_right fun hid => ?_
  rw [(hwithin.sameOrganization h hid).organization]

/-- The records of other organizations are as they were. -/
theorem Command.Within.sameSlice (hwithin : command.Within store organizationId)
    (hfresh : command.IsFresh store) (h : store.attempt command = .ok changed)
    (hother : other ≠ organizationId) : changed.SameSlice store other := by
  have hsame := hwithin.sameOrganization h hother
  cases command with
  | addOrganization organization | addMembership membership =>
      obtain rfl := Except.ok.inj h
      exact ⟨hsame, fun _ => rfl, fun _ => rfl, rfl⟩
  | saveOrganization organization =>
      obtain ⟨-, -, rfl⟩ := saveOrganization_eq_ok_iff.1 h
      exact ⟨hsame, fun _ => rfl, fun _ => rfl, rfl⟩
  | setMemberRole id userId role =>
      obtain ⟨-, rfl⟩ := setMemberRole_eq_ok_iff.1 h
      exact ⟨hsame, fun _ => rfl, fun _ => rfl, rfl⟩
  | addBilling account =>
      obtain rfl := Except.ok.inj h
      obtain rfl : account.organizationId = organizationId := hwithin
      refine ⟨hsame, fun _ => rfl, fun _ => rfl, ?_⟩
      exact Table.get?_insert_of_ne hother
  | deleteOrganization id =>
      obtain ⟨-, rfl⟩ := deleteOrganization_eq_ok_iff.1 h
      obtain rfl : id = organizationId := hwithin
      refine ⟨hsame, fun projectId => ?_, fun inviteId => ?_, ?_⟩
      · refine Table.filter_get?_filter fun project hproject => ?_
        rw [decide_eq_true_eq] at hproject ⊢
        rwa [hproject]
      · refine Table.filter_get?_filter fun invite hinvite => ?_
        rw [decide_eq_true_eq] at hinvite ⊢
        rwa [hinvite]
      · exact Table.get?_erase_of_ne hother
  | insertProject project =>
      obtain ⟨-, rfl⟩ := insertProject_eq_ok_iff.1 h
      obtain rfl : project.organizationId = organizationId := hwithin
      have hfree : store.projects.get? project.id = none := hfresh
      refine ⟨hsame, fun _ => ?_, fun _ => rfl, rfl⟩
      exact Table.filter_get?_insert (by simp [hother.symm]) (by rw [hfree]; rfl)
  | saveProject project =>
      obtain ⟨-, rfl⟩ := saveProject_eq_ok_iff.1 h
      obtain ⟨rfl, hold⟩ := hwithin
      refine ⟨hsame, fun _ => ?_, fun _ => rfl, rfl⟩
      exact Table.filter_get?_insert (by simp [hother.symm]) (Table.filter_get?_of_ne hold hother)
  | deleteProject id =>
      obtain ⟨-, rfl⟩ := deleteProject_eq_ok_iff.1 h
      refine ⟨hsame, fun _ => ?_, fun _ => rfl, rfl⟩
      exact Table.filter_get?_erase (Table.filter_get?_of_ne hwithin hother)
  | insertInvite invite =>
      obtain ⟨-, rfl⟩ := insertInvite_eq_ok_iff.1 h
      obtain rfl : invite.organizationId = organizationId := hwithin
      have hfree : store.invites.get? invite.id = none := hfresh
      refine ⟨hsame, fun _ => rfl, fun _ => ?_, rfl⟩
      exact Table.filter_get?_insert (by simp [hother.symm]) (by rw [hfree]; rfl)
  | deleteInvite id =>
      obtain ⟨-, rfl⟩ := deleteInvite_eq_ok_iff.1 h
      refine ⟨hsame, fun _ => rfl, fun _ => ?_, rfl⟩
      exact Table.filter_get?_erase (Table.filter_get?_of_ne hwithin hother)

end Store

end OrgAccess
