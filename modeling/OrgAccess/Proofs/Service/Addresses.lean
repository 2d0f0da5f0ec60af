import OrgAccess.Proofs.Service.Provenance
import OrgAccess.Proofs.Store.Uniqueness
import OrgAccess.Proofs.Text.NormalForm

/-!
# Addresses of invites

An address is kept without blanks at its ends and in lower case. This form is canonical: it is its
own form, and its ends stay without blanks in lower case (`Invite.normalEmail_normalEmail`). So
where no other invites were to begin with, every address that is stored is a normal form, and texts
with one form stand for one address, which is invited to an organization once at most
(`addresses_canonical`).
-/

namespace OrgAccess

/-! ## The form in which an address is kept -/

namespace Invite

/-- An address is trimmed and then lower-cased. -/
theorem toList_normalEmail (text : String) :
    (normalEmail text).toList = Text.lowerChars (Text.trim text.toList) :=
  String.toList_ofList

/-- An address is kept without blanks at its ends, before and after it is lower-cased. -/
theorem isTrimmed_normalEmail (text : String) : Text.IsTrimmed (normalEmail text).toList := by
  rw [toList_normalEmail]
  exact (Text.isTrimmed_trim text.toList).lowerChars

/-- The form of an address is its own form. -/
theorem normalEmail_normalEmail (text : String) :
    normalEmail (normalEmail text) = normalEmail text := by
  have htrimmed := (isTrimmed_normalEmail text).trim_eq
  rw [toList_normalEmail] at htrimmed
  rw [normalEmail, toList_normalEmail, htrimmed, Text.lowerChars_lowerChars]
  rfl

end Invite

namespace Store

variable {store : Store}

/-! ## Stored addresses -/

/-- Every address that is stored is a normal form. -/
def NormalAddresses (store : Store) : Prop :=
  ∀ id invite, store.invites.get? id = some invite → Invite.normalEmail invite.email = invite.email

/-- A store without invites has no address that is not a normal form. -/
theorem normalAddresses_of_no_invites (h : store.invites.values = []) : store.NormalAddresses := by
  intro id invite hget
  have hmem : invite ∈ store.invites.values := Table.mem_values_iff.2 ⟨id, hget⟩
  rw [h] at hmem
  cases hmem

/-- A call that makes an invite keeps its address as a normal form, and no call changes one. -/
theorem NormalAddresses.perform (h : store.NormalAddresses) (hstore : store.Filed)
    (registry : Registry) (call : Call) :
    ((service registry).perform call store).state.NormalAddresses := by
  intro id invite hget
  rcases hstore.perform_effect registry call with ⟨_, -, hstate⟩ | ⟨_, -, heffect⟩
  · rw [hstate] at hget
    exact h id invite hget
  · rcases heffect.invite_kept_or_made hget with hkept | ⟨text, _, -, rfl, -⟩
    · exact h id invite hkept
    · exact Invite.normalEmail_normalEmail text

/-- Addresses that are normal forms are still normal forms after a run of calls. -/
theorem NormalAddresses.runState (h : store.NormalAddresses) (hstore : store.Reachable)
    (registry : Registry) (calls : List Call) :
    ((service registry).runState store calls).NormalAddresses :=
  hstore.runState_of_perform (fun hstore h call => h.perform hstore.filed registry call) h calls

/-! ## Invites for one address -/

/-- The pending invites of an organization for an address. -/
def invitesFor (store : Store) (organizationId : Uuid) (email : String) : List Invite :=
  store.invites.values.filter fun invite =>
    invite.organizationId = organizationId ∧ invite.email = email

/-- There is one such invite at most. -/
theorem Reachable.length_invitesFor_le (h : store.Reachable) (organizationId : Uuid)
    (email : String) : (store.invitesFor organizationId email).length ≤ 1 := by
  have hlinks : (store.invitesFor organizationId email).length =
      (store.invites.values.map Invite.link).count (organizationId, email) := by
    rw [List.count_eq_countP, List.countP_map, List.countP_eq_length_filter, invitesFor]
    congr 2
    funext invite
    exact Bool.eq_iff_iff.2 (by simp [Invite.link])
  rw [hlinks]
  exact List.nodup_iff_count_le_one.1 h.invites_distinct _

variable {registry : Registry} {call : Call} {organizationId : Uuid} {text : String} {role : Role}

/-- An invite that was made has the form of the text that it was asked for with. -/
theorem Filed.email_of_made (hstore : store.Filed)
    (hrequest : call.request = .createInvite text role) {invite : Invite}
    (h : ((service registry).perform call store).result = .ok (.invite invite)) :
    invite.email = Invite.normalEmail text := by
  obtain ⟨organizationId, -, heffect⟩ := hstore.effect_of_ok h
  have hmade := (heffect.invite_made hrequest).1
  obtain rfl := Reply.invite.inj (Except.ok.inj hmade)
  rfl

/-- While an address is invited no call makes an invite for it. -/
theorem Filed.refused_of_invited (hstore : store.Filed)
    (hrequest : call.request = .createInvite text role)
    (hnamed : store.organizationId? call.organization = some organizationId)
    (hinvited : store.Invited organizationId (Invite.normalEmail text)) :
    let outcome := (service registry).perform call store
    (∃ failure, outcome.result = .error failure) ∧ outcome.state = store := by
  intro outcome
  rcases hstore.settles_perform registry hnamed with ⟨failure, hfailed, hstate⟩ | heffect
  · exact ⟨⟨failure, hfailed⟩, hstate⟩
  · exact absurd hinvited (heffect.invite_made hrequest).2.2

end Store

/-- Addresses are kept in a canonical form. The form of any text has no blank at either end and is
its own form. So in every store that calls make of one without invites every address is its own
form, and of all pending invites of an organization at most one has the form of a given text. Two
texts with one form stand for one address: while the invite that was made for the first is pending,
asking for one with the second in the same organization fails and changes nothing, whoever asks, and
whatever comes of it there are no two invites for the address afterwards. -/
theorem addresses_canonical :
    (∀ text, Invite.normalEmail (Invite.normalEmail text) = Invite.normalEmail text ∧
      Text.IsTrimmed (Invite.normalEmail text).toList) ∧
    ∀ (registry : Registry) (store : Store), store.Reachable → store.invites.values = [] →
      ∀ calls : List Call,
      let service := Store.service registry
      let reached := service.runState store calls
      (∀ invite ∈ reached.invites.values, Invite.normalEmail invite.email = invite.email) ∧
      (∀ organizationId text,
        (reached.invitesFor organizationId (Invite.normalEmail text)).length ≤ 1) ∧
      ∀ (first second : Call) (between : List Call) (text other : String) (role rank : Role)
        (invite : Invite), first.request = .createInvite text role →
        second.request = .createInvite other rank →
        Invite.normalEmail text = Invite.normalEmail other →
        (service.perform first reached).result = .ok (.invite invite) →
        let later := service.runState (service.perform first reached).state between
        let again := service.perform second later
        later.organizationId? second.organization = some invite.organizationId →
        (later.invites.get? invite.id = some invite →
          (∃ failure, again.result = .error failure) ∧ again.state = later) ∧
        (again.state.invitesFor invite.organizationId (Invite.normalEmail text)).length ≤ 1 := by
  refine ⟨fun text => ⟨Invite.normalEmail_normalEmail text, Invite.isTrimmed_normalEmail text⟩, ?_⟩
  intro registry store hstore hempty calls service reached
  have hreached : reached.Reachable := hstore.runState registry calls
  have hnormal : reached.NormalAddresses :=
    (Store.normalAddresses_of_no_invites hempty).runState hstore registry calls
  refine ⟨fun invite hmem => ?_, fun organizationId text => ?_, ?_⟩
  · obtain ⟨id, hget⟩ := Table.mem_values_iff.1 hmem
    exact hnormal id invite hget
  · exact hreached.length_invitesFor_le organizationId _
  · intro first second between text other role rank invite hfirst hsecond hsame hmade later again
      hnamed
    have hlater : later.Reachable := (hreached.perform registry first).runState registry between
    refine ⟨fun hpending => ?_, (hlater.perform registry second).length_invitesFor_le _ _⟩
    have hemail : invite.email = Invite.normalEmail text :=
      hreached.filed.email_of_made hfirst hmade
    exact hlater.filed.refused_of_invited hsecond hnamed
      ⟨invite, Table.mem_values_iff.2 ⟨_, hpending⟩, rfl, hemail.trans hsame⟩

set_option maxRecDepth 4096 in
/-- A capital sigma at the end of a word and a final sigma, blanks and capitals aside, make one
address, which is invited once. -/
theorem one_invite_sigma :
    let first : Call :=
      { actor := .ofNat 11
        organization := .byId (.ofNat 1)
        request := .createInvite " ΟΔΟΣ@X" .member
        now := Store.sharedSlug.start
        freshId := .ofNat 31 }
    let second : Call :=
      { first with
        request := .createInvite "οδος@x\u3000" .billing
        freshId := .ofNat 32 }
    let later := ((Store.service .standard).perform first Store.sharedSlug).state
    let again := (Store.service .standard).perform second later
    Store.sharedSlug.Reachable ∧ Store.sharedSlug.invites.values = [] ∧
      Invite.normalEmail " ΟΔΟΣ@X" = "οδος@x" ∧
      Invite.normalEmail "οδος@x\u3000" = "οδος@x" ∧
      later.Invited (.ofNat 1) "οδος@x" ∧ (∃ failure, again.result = .error failure) ∧
      again.state = later := by
  intro first second later again
  have hforms : Invite.normalEmail " ΟΔΟΣ@X" = "οδος@x" ∧
      Invite.normalEmail "οδος@x\u3000" = "οδος@x" := by decide
  let invite : Invite := .new (.ofNat 31) (.ofNat 1) " ΟΔΟΣ@X" .member (.ofNat 11)
    Store.sharedSlug.start
  have hmade : ((Store.service .standard).perform first Store.sharedSlug).result =
      .ok (.invite invite) := by decide
  have hpending : later.invites.get? invite.id = some invite := by decide
  obtain ⟨-, hrun⟩ := addresses_canonical
  obtain ⟨-, -, hcalls⟩ := hrun .standard Store.sharedSlug Store.reachable_sharedSlug rfl []
  obtain ⟨hrefused, -⟩ := hcalls first second [] _ _ _ _ invite rfl rfl
    (hforms.1.trans hforms.2.symm) hmade (by decide)
  obtain ⟨hfailed, hstate⟩ := hrefused hpending
  refine ⟨Store.reachable_sharedSlug, rfl, hforms.1, hforms.2, ?_, hfailed, hstate⟩
  exact ⟨invite, Table.mem_values_iff.2 ⟨_, hpending⟩, rfl, hforms.1⟩

end OrgAccess
