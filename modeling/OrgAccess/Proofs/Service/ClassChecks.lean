import OrgAccess.Proofs.Policy.Monotonicity
import OrgAccess.Proofs.Service.Admission
import OrgAccess.Proofs.Store.Slice

/-!
# Checks of bare types

Listing invites asks for `get` on the bare type and on no invite. Checking a bare type is checking
the subject of the type without attributes, and under rules whose denials have no conditions what is
allowed there is allowed on every subject of the type. So whoever is given the list, by whatever
backend, would be allowed `get` on each invite by itself (`class_checks_suffice`).
-/

namespace OrgAccess

/-- Who is given the invites of an organization may `get` the bare type. -/
theorem Service.can_of_listInvites {σ : Type} {service : Service σ} {actor : Uuid}
    {reference : OrganizationRef} {state : σ} {invites : List Invite}
    (h : (service.listInvites actor reference state).result = .ok invites) :
    ∃ authorized, (service.abilityFor actor reference state).result = .ok authorized ∧
      authorized.ability.can .get (.tag (Kind.invite)) = true := by
  obtain ⟨authorized, hability, h⟩ := Guarded.result_bind_eq_ok_iff.1 h
  obtain ⟨_, hensure, -⟩ := Guarded.result_bind_eq_ok_iff.1 h
  exact ⟨authorized, hability, Registry.ensure_eq_ok_iff.1 hensure⟩

/-- A check of a bare type is the check of the subject of the type without attributes: the same rule
decides, with the same answer. Where no denial has a condition, an action that the bare type is
allowed is allowed on every subject of the type, whatever its attributes. So an actor who is given
the invites of an organization has an ability which, if its denials are of that form, allows `get`
on every single invite. -/
theorem class_checks_suffice :
    (∀ (ability : Ability) (action : Action) (kind : Kind),
      ability.DecidesAlike action (.tag kind) (.record (.bare kind)) ∧
      (Rule.PlainDenials ability.rules → ability.can action (.tag kind) = true →
        ∀ subject : Subject, subject.kind = kind →
          ability.can action (.record subject) = true)) ∧
    ∀ {σ : Type} (service : Service σ) (actor : Uuid) (reference : OrganizationRef) (state : σ)
      (invites : List Invite),
      (service.listInvites actor reference state).result = .ok invites →
      ∃ authorized, (service.abilityFor actor reference state).result = .ok authorized ∧
        (Rule.PlainDenials authorized.ability.rules →
          ∀ subject : Subject, subject.kind = .invite →
            authorized.ability.can .get (.record subject) = true) := by
  refine ⟨fun ability action kind => ⟨ability.decidesAlike_tag action kind, ?_⟩, ?_⟩
  · rintro hplain hcan subject rfl
    exact Ability.can_of_can_tag hplain hcan
  · intro σ service actor reference state invites h
    obtain ⟨authorized, hability, hcan⟩ := Service.can_of_listInvites h
    refine ⟨authorized, hability, fun hplain subject hkind => ?_⟩
    exact Ability.can_of_can_tag hplain (hkind ▸ hcan)

/-- An admin who lists the invites may look at each, also at one that another admin has written. -/
theorem offer_seen_neighbours :
    let service := Store.service .standard
    let acme : OrganizationRef := .byId (.ofNat 1)
    let offer := Store.neighbours.offer 1 31 11
    let auditor : Ability :=
      ⟨[.cannot [.manage] .all, .can [.get] (Kind.invite),
        .canIf [.delete] (Kind.invite) (.ownedBy "u1")], .default⟩
    Rule.PlainDenials auditor.rules ∧ auditor.can .get (.tag (Kind.invite)) = true ∧
      auditor.can .get (.record offer.subject) = true ∧
      (∃ invites,
        (service.listInvites (.ofNat 12) acme Store.neighbours).result = .ok invites) ∧
      ∃ authorized : Authorized,
        (service.abilityFor (.ofNat 12) acme Store.neighbours).result = .ok authorized ∧
        Rule.PlainDenials authorized.ability.rules ∧
        authorized.ability.can .get (.record offer.subject) = true := by
  intro service acme offer auditor
  obtain ⟨hclass, hlist⟩ := class_checks_suffice
  have hplain : Rule.PlainDenials auditor.rules := by decide
  have hcan : auditor.can .get (.tag (Kind.invite)) = true := by decide
  have hlisted : ∃ invites,
      (service.listInvites (.ofNat 12) acme Store.neighbours).result = .ok invites := ⟨_, rfl⟩
  refine ⟨hplain, hcan, (hclass auditor .get .invite).2 hplain hcan offer.subject rfl, hlisted, ?_⟩
  obtain ⟨invites, hinvites⟩ := hlisted
  obtain ⟨⟨membership, ability⟩, hability, hsingle⟩ := hlist service _ acme _ invites hinvites
  obtain ⟨-, hcompile⟩ := Registry.abilityFor_eq_ok_iff.1 hability
  obtain rfl := Except.ok.inj ((Registry.standard_compile _ _).symm.trans hcompile)
  have hstandard := Permissions.plainDenials_standard membership.principal.role membership.principal
  exact ⟨_, hability, hstandard, hsingle hstandard offer.subject rfl⟩

end OrgAccess
