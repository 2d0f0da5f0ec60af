import OrgAccess.Proofs.Policy.Rulings
import OrgAccess.Proofs.Policy.StandardRoles

/-!
# Rules that never decide

A rule is shadowed by a later one that has no condition and covers its type and each of its actions:
whatever the one matches the other matches too, and comes last. So a shadowed rule may be deleted,
and not only is every answer the same but every query is decided by the same rule
(`shadowed_rules_dead`). The denial in the rules of an admin covers the grant to the owner in this
way, which is why the grant has to follow the denial.
-/

namespace OrgAccess

namespace Rule

variable {rule later : Rule} {action : Action} {target : Target}

/-- A rule shadows another when it has no condition and covers the type and every action of the
other. -/
def Shadows (later rule : Rule) : Prop :=
  later.isConditional = false ∧ later.subject.covers rule.subject = true ∧
    ∀ listed ∈ rule.actions, ∃ another ∈ later.actions, another.covers listed = true

/-- Whether a rule shadows another is decided from what the two list. -/
instance (later rule : Rule) : Decidable (later.Shadows rule) :=
  inferInstanceAs (Decidable (_ ∧ _ ∧ _))

/-- A rule matches whatever a rule that it shadows matches. -/
theorem Shadows.isMatch (h : later.Shadows rule) (hmatch : rule.isMatch action target = true) :
    later.isMatch action target = true := by
  obtain ⟨hplain, htype, hactions⟩ := h
  simp only [Rule.isMatch, appliesTo, Bool.and_eq_true, List.any_eq_true] at hmatch ⊢
  obtain ⟨⟨hcovers, listed, hlisted, haction⟩, -⟩ := hmatch
  obtain ⟨another, hanother, hlistedToo⟩ := hactions listed hlisted
  have hnone : later.condition = none := by simpa [isConditional] using hplain
  refine ⟨⟨SubjectType.covers_trans htype hcovers, another, hanother, ?_⟩, ?_⟩
  · exact Action.covers_trans hlistedToo haction
  · rw [hnone]
    rfl

end Rule

/-- A rule that is shadowed later in a list is never the last that matches. -/
theorem Ability.relevantRule?_of_shadowed {rule later : Rule} {before after : List Rule}
    (hlater : later ∈ after) (hshadows : later.Shadows rule) (discriminant : Discriminant)
    (action : Action) (target : Target) :
    (Ability.mk (before ++ rule :: after) discriminant).relevantRule? action target =
      (Ability.mk (before ++ after) discriminant).relevantRule? action target := by
  have hsplit : before ++ rule :: after = before ++ ([rule] ++ after) := rfl
  rw [relevantRule?_eq, relevantRule?_eq, hsplit]
  simp only [Rule.candidates_append, List.getLast?_append]
  by_cases hmatch : rule.isMatch action target = true
  · -- the later rule matches as well, so the last that matches is among those after
    have hne : Rule.candidates after action target ≠ [] := by
      refine List.ne_nil_of_mem (a := later) ?_
      rw [Rule.candidates_eq]
      exact List.mem_filter.2 ⟨hlater, hshadows.isMatch hmatch⟩
    rw [List.getLast?_eq_some_getLast hne]
    rfl
  · have hnone : Rule.candidates [rule] action target = [] := by
      simp [Rule.candidates_eq, hmatch]
    rw [hnone]
    simp

/-- The actions that are kept for the owner are updating and handing over. -/
theorem Permissions.mem_ownerActions_iff {action : Action} :
    action ∈ ownerActions ↔ action = .update ∨ action = .transferOwnership := by
  simp [ownerActions, or_comm]

/-- The denial in the rules of an admin shadows the grant that follows it. If it came last nobody
could do what is left to owners. -/
theorem Permissions.can_of_denial_last {user : Principal} {full denial lift : Rule}
    (hadmin : admin user = [full, denial, lift]) :
    denial.Shadows lift ∧
      ∀ (discriminant : Discriminant) (organization : Subject),
        organization.kind = .organization → ∀ action ∈ ownerActions,
          (Ability.mk [full, lift, denial] discriminant).can action (.record organization) =
            false := by
  obtain ⟨rfl, rfl, rfl⟩ : Rule.can [.manage] .all = full ∧
      Rule.cannot ownerActions (Kind.organization) = denial ∧
      Rule.canIf ownerActions (Kind.organization) (.ownedBy user.id) = lift := by
    simpa [admin] using hadmin
  constructor
  · refine ⟨rfl, rfl, ?_⟩
    intro listed hlisted
    exact ⟨listed, hlisted, (listed.covers_iff listed).2 (.inr rfl)⟩
  · intro discriminant organization hkind action haction
    have htype : (Target.record organization).subjectType = .of .organization :=
      congrArg SubjectType.of hkind
    have hmatch : (Rule.cannot ownerActions (Kind.organization)).isMatch action
        (.record organization) = true :=
      (Rule.isMatch_of_iff _ _ _ _ _).2
        ((speaks_ownerActions_iff _ _).2 ⟨mem_ownerActions_iff.1 haction, htype⟩)
    have hlast := Ability.can_concat
      [Rule.can [.manage] .all, Rule.canIf ownerActions (Kind.organization) (.ownedBy user.id)]
      (Rule.cannot ownerActions (Kind.organization)) discriminant action (.record organization)
    rw [if_pos hmatch] at hlast
    exact hlast

/-- A shadowed rule is dead. Where a rule, of whatever effect and with or without a condition, is
followed at any distance by one without a condition that covers its type and its actions, it may be
deleted: each action on each target is decided by the same rule as before, or by none as before, and
with the same answer. In the rules of an admin the denial covers the grant after it: as they stand
the owner of an organization, and nobody else, may update it and hand it over; with these two rules
exchanged the grant is dead, and the owner may not either. -/
theorem shadowed_rules_dead :
    (∀ (before after : List Rule) (rule : Rule), (∃ later ∈ after, later.Shadows rule) →
      ∀ (discriminant : Discriminant) (action : Action) (target : Target),
        let whole : Ability := ⟨before ++ rule :: after, discriminant⟩
        let rest : Ability := ⟨before ++ after, discriminant⟩
        whole.relevantRule? action target = rest.relevantRule? action target ∧
          whole.can action target = rest.can action target) ∧
    ∀ (user : Principal) (full denial lift : Rule),
      Permissions.admin user = [full, denial, lift] →
        denial.Shadows lift ∧
        ∀ (discriminant : Discriminant) (organization : Subject),
          organization.kind = .organization → ∀ action ∈ Permissions.ownerActions,
            ((Ability.mk [full, denial, lift] discriminant).can action (.record organization) =
                true ↔ organization.attribute? ownerIdKey = some (.string user.id)) ∧
              (Ability.mk [full, lift, denial] discriminant).can action (.record organization) =
                false := by
  constructor
  · rintro before after rule ⟨later, hlater, hshadows⟩ discriminant action target whole rest
    have hrule : whole.relevantRule? action target = rest.relevantRule? action target :=
      Ability.relevantRule?_of_shadowed hlater hshadows discriminant action target
    exact ⟨hrule, by rw [Ability.can, Ability.can, hrule]⟩
  · intro user full denial lift hadmin
    obtain ⟨hshadows, hexchanged⟩ := Permissions.can_of_denial_last hadmin
    refine ⟨hshadows, fun discriminant organization hkind action haction => ⟨?_, ?_⟩⟩
    · have hreserved := Permissions.mem_ownerActions_iff.1 haction
      have htype : (Target.record organization).subjectType = .of .organization :=
        congrArg SubjectType.of hkind
      rw [← hadmin, Permissions.admin_can_iff, ← Target.record_isOwnedBy_iff]
      exact ⟨fun h => h hreserved htype, fun howner _ _ => howner⟩
    · exact hexchanged discriminant organization hkind action haction

/-- A grant on projects is dead, two rules before a denial of everything: with it and without it
that denial decides an export. And an admin who owns an organization may update it only because the
grant to the owner comes last. -/
theorem decided_without_dead_grant :
    let dead : Rule := .canIf [.get, .export] (Kind.project) (.differs "status" .null)
    let denial : Rule := .cannot [.manage, .get] .all
    let before : List Rule := [.can [.create] (Kind.invite)]
    let after : List Rule := [.can [.get] (Kind.user), denial, .can [.get] (Kind.organization)]
    let draft := (Subject.bare .project).withAttribute "status" (.string "draft")
    let acme := Subject.ownedBy .organization "u1"
    dead.isMatch .export (.record draft) = true ∧
      (Ability.mk (before ++ dead :: after) .default).relevantRule? .export (.record draft) =
        some denial ∧
      (Ability.mk (before ++ after) .default).relevantRule? .export (.record draft) =
        some denial ∧
      ∃ full denial lift, Permissions.admin ⟨"u1", .admin⟩ = [full, denial, lift] ∧
        (Ability.mk [full, denial, lift] .default).can .update (.record acme) = true ∧
        (Ability.mk [full, lift, denial] .default).can .update (.record acme) = false := by
  intro dead denial before after draft acme
  obtain ⟨hdead, hadmin⟩ := shadowed_rules_dead
  have hshadowed : ∃ later ∈ after, later.Shadows dead := ⟨denial, by simp [after], by decide⟩
  have hsame := (hdead before after dead hshadowed .default .export (.record draft)).1
  have hdenied : (Ability.mk (before ++ dead :: after) .default).relevantRule? .export
      (.record draft) = some denial := rfl
  obtain ⟨-, howners⟩ := hadmin ⟨"u1", .admin⟩ _ _ _ rfl
  obtain ⟨howner, hexchanged⟩ := howners .default acme rfl .update (by decide)
  exact ⟨rfl, hdenied, hsame.symm.trans hdenied, _, _, _, rfl, howner.2 rfl, hexchanged⟩

end OrgAccess
