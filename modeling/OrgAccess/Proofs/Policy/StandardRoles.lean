import OrgAccess.Policy.Registry
import OrgAccess.Proofs.Policy.Evaluation

/-!
# What the standard roles allow

`Role.Allows` is the table of what a user may do in each role of the standard registry, without
rules, wildcards or their order. `standard_can_iff` says that the rules give this table, and
`standard_decisions` that nothing about a record but its kind and whether it has the user for an
owner ever counts.
-/

namespace OrgAccess

/-- What a user may do in a role. An admin may do anything, but what only an owner may do to an
organization; a member sees users, makes and sees projects, and changes those of their own; and
the billing role has all of billing. -/
def Role.Allows (role : Role) (user : String) (action : Action) (target : Target) : Prop :=
  match role with
  | .admin =>
      action = .update ∨ action = .transferOwnership →
        target.subjectType = .of .organization → target.IsOwnedBy user
  | .member =>
      (action = .get ∧ target.subjectType = .of .user) ∨
        ((action = .create ∨ action = .get) ∧ target.subjectType = .of .project) ∨
        ((action = .update ∨ action = .delete) ∧ target.subjectType = .of .project ∧
          target.IsOwnedBy user)
  | .billing => target.subjectType = .of .billing

/-- A record counts by its kind and by whether the user owns it. -/
theorem Role.allows_congr {role : Role} {user : String} {action : Action} {a b : Target}
    (htype : a.subjectType = b.subjectType) (howner : a.IsOwnedBy user ↔ b.IsOwnedBy user) :
    role.Allows user action a ↔ role.Allows user action b := by
  cases role <;> simp only [Allows, htype, howner]

namespace Permissions

variable (user : Principal) (discriminant : Discriminant) (action : Action) (target : Target)

/-- What a rule on the actions of an owner speaks of. -/
theorem speaks_ownerActions_iff :
    (((Kind.organization : SubjectType) = .all ∨ (Kind.organization : SubjectType) =
        target.subjectType) ∧
      (.manage ∈ ownerActions ∨ action ∈ ownerActions)) ↔
      (action = .update ∨ action = .transferOwnership) ∧
        target.subjectType = .of .organization := by
  simp [ownerActions, and_comm, or_comm, eq_comm]

/-- The denial of what only an owner may do stands between the grant of everything and the grant
to the owner, so it holds for all but the owner. -/
theorem admin_can_iff :
    (Ability.mk (admin user) discriminant).can action target = true ↔
      Role.admin.Allows user.id action target := by
  have hrules : admin user =
      [Rule.can [.manage] .all] ++ [Rule.cannot ownerActions (Kind.organization)] ++
        [Rule.canIf ownerActions (Kind.organization) (.ownedBy user.id)] := rfl
  have hall : (Ability.mk [Rule.can [.manage] .all] discriminant).can action target = true := by
    refine (Ability.can_iff_of_forall_grant (by simp [Rule.can, Rule.of]) action target).2 ?_
    refine ⟨_, List.mem_singleton.2 rfl, (Rule.isMatch_of_iff _ _ _ _ _).2 ⟨.inl rfl, .inl ?_⟩⟩
    decide
  have hdeny : (Rule.cannot ownerActions (Kind.organization)).isMatch action target = true ↔ _ :=
    (Rule.isMatch_of_iff .deny ownerActions Kind.organization action target).trans
      (speaks_ownerActions_iff action target)
  have hgrant :=
    (Rule.isMatch_ownedBy_iff ownerActions Kind.organization user.id action target).trans
      (and_congr_left' (speaks_ownerActions_iff action target))
  -- the rules are asked from the last: the owner's grant, the denial, the grant of everything
  rw [hrules, Ability.can_concat, Ability.can_concat, hall]
  by_cases hreserved :
      (action = .update ∨ action = .transferOwnership) ∧ target.subjectType = .of .organization
  · by_cases howner : target.IsOwnedBy user.id
    · rw [if_pos (hgrant.2 ⟨hreserved, howner⟩)]
      exact iff_of_true rfl fun _ _ => howner
    · rw [if_neg fun h => howner (hgrant.1 h).2, if_pos (hdeny.2 hreserved)]
      exact iff_of_false Bool.false_ne_true fun h => howner (h hreserved.1 hreserved.2)
  · rw [if_neg fun h => hreserved (hgrant.1 h).1, if_neg fun h => hreserved (hdeny.1 h)]
    exact iff_of_true rfl fun haction htype => absurd ⟨haction, htype⟩ hreserved

/-- The rules for members allow exactly what members are to be allowed. -/
theorem member_can_iff :
    (Ability.mk (member user) discriminant).can action target = true ↔
      Role.member.Allows user.id action target := by
  have hgrants : ∀ rule ∈ member user, rule.effect = .grant := by
    simp [member, Rule.can, Rule.canIf, Rule.of, Rule.withCondition]
  have hsee : (Rule.can [.get] (Kind.user)).isMatch action target = true ↔
      action = .get ∧ target.subjectType = .of .user := by
    rw [Rule.can, Rule.isMatch_of_iff]
    simp [and_comm, eq_comm]
  have hmake : (Rule.can [.create, .get] (Kind.project)).isMatch action target = true ↔
      (action = .create ∨ action = .get) ∧ target.subjectType = .of .project := by
    rw [Rule.can, Rule.isMatch_of_iff]
    simp [and_comm, eq_comm]
  have hchange :
      (Rule.canIf [.update, .delete] (Kind.project) (.ownedBy user.id)).isMatch action target =
        true ↔
      (action = .update ∨ action = .delete) ∧ target.subjectType = .of .project ∧
        target.IsOwnedBy user.id := by
    rw [Rule.isMatch_ownedBy_iff, ← and_assoc]
    simp [and_comm, eq_comm]
  rw [Ability.can_iff_of_forall_grant hgrants]
  simp only [member, List.mem_cons, List.not_mem_nil, or_false, exists_eq_or_imp,
    exists_eq_left, hsee, hmake, hchange]
  rfl

/-- The rules for billing users allow exactly what billing users are to be allowed. -/
theorem billing_can_iff :
    (Ability.mk (billing user) discriminant).can action target = true ↔
      Role.billing.Allows user.id action target := by
  have hgrants : ∀ rule ∈ billing user, rule.effect = .grant := by
    simp [billing, Rule.can, Rule.of]
  rw [Ability.can_iff_of_forall_grant hgrants]
  simp only [billing, List.mem_singleton, exists_eq_left, Rule.can, Rule.isMatch_of_iff]
  simp [Role.Allows, eq_comm]

/-- The rules of each standard role give what the table says. -/
theorem standard_can_iff (role : Role) :
    (Ability.mk (standard role user) discriminant).can action target = true ↔
      role.Allows user.id action target := by
  cases role with
  | admin => exact admin_can_iff user discriminant action target
  | member => exact member_can_iff user discriminant action target
  | billing => exact billing_can_iff user discriminant action target

end Permissions

/-- The standard registry has an entry for every role. -/
theorem Registry.standard_permissionsFor (role : Role) :
    Registry.standard.permissionsFor role = .ok (Permissions.standard role) := by
  cases role <;> rfl

/-- The standard registry compiles the permissions of the user's role, whatever the role. -/
theorem Registry.standard_compile (user : Principal) (discriminant : Discriminant) :
    Registry.standard.compile user discriminant =
      .ok ⟨Permissions.standard user.role user, discriminant⟩ := by
  rw [compile, standard_permissionsFor]
  rfl

/-- The ability that the standard registry compiles for a user decides every action on every tag
and every record by the table of the role, and tells records of one kind apart by nothing but
whether the user owns them. -/
theorem standard_decisions (user : String) (role : Role) :
    ∃ ability, Registry.standard.compile ⟨user, role⟩ .default = .ok ability ∧
      (∀ (action : Action) (target : Target),
        ability.can action target = true ↔ role.Allows user action target) ∧
      ∀ (action : Action) (a b : Subject), a.kind = b.kind →
        (a.attribute? ownerIdKey = some (.string user) ↔
          b.attribute? ownerIdKey = some (.string user)) →
        ability.can action (.record a) = ability.can action (.record b) := by
  have hcan : ∀ (action : Action) (target : Target),
      (Ability.mk (Permissions.standard role ⟨user, role⟩) .default).can action target = true ↔
        role.Allows user action target := by
    intro action target
    exact Permissions.standard_can_iff ⟨user, role⟩ .default action target role
  refine ⟨_, Registry.standard_compile ⟨user, role⟩ .default, hcan, ?_⟩
  intro action a b hkind howner
  rw [Bool.eq_iff_iff, hcan, hcan]
  refine Role.allows_congr (congrArg SubjectType.of hkind) ?_
  rw [Target.record_isOwnedBy_iff, Target.record_isOwnedBy_iff]
  exact howner

end OrgAccess
