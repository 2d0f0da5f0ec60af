import Mathlib.Data.List.Induction
import OrgAccess.Policy.Ability

/-!
# How an ability decides

The rules of an ability are read from the last to the first. `can_concat` says what one more rule
at the end does to the answers, and `can_iff_of_forall_grant` that rules which only grant allow
what one of them matches. `Rule.appliesTo_iff`, `Rule.isMatch_of_iff` and `Rule.isMatch_ownedBy_iff`
say when a rule matches by what it lists, for which repetitions do not count (`Rule.mem_distinct`).
-/

namespace OrgAccess

namespace Target

/-- The target is a record whose owner is a user: the attribute is there and is that string. -/
def IsOwnedBy (target : Target) (user : String) : Prop :=
  ∃ subject, target = .record subject ∧
    subject.attribute? ownerIdKey = some (.string user)

/-- A record is a user's when its attribute for the owner is the string that names the user. -/
theorem record_isOwnedBy_iff (subject : Subject) (user : String) :
    (record subject).IsOwnedBy user ↔ subject.attribute? ownerIdKey = some (.string user) := by
  constructor
  · rintro ⟨other, hother, howner⟩
    obtain rfl := record.inj hother
    exact howner
  · intro howner
    exact ⟨subject, rfl, howner⟩

/-- A bare type has no owner. -/
theorem not_tag_isOwnedBy (type : SubjectType) (user : String) :
    ¬ (tag type).IsOwnedBy user := by
  rintro ⟨_, h, _⟩
  exact nomatch h

end Target

/-! ## Matching -/

/-- Only a string is equal to a string. -/
theorem Json.beq_string_iff (value : Json) (text : String) :
    (value == Json.string text) = true ↔ value = .string text := by
  rw [Json.beq_eq_same]
  cases value <;> simp [Json.same]

/-- A record fulfils the condition of ownership when its attribute for the owner is the user. -/
theorem Condition.isMatch_ownedBy_iff (user : String) (subject : Subject) :
    (Condition.ownedBy user).isMatch subject = true ↔
      subject.attribute? ownerIdKey = some (.string user) := by
  rw [Condition.isMatch_iff]
  constructor
  · rintro ⟨actual, hattribute, haccepts⟩
    obtain rfl := (Json.beq_string_iff actual user).1 haccepts
    exact hattribute
  · intro hattribute
    exact ⟨.string user, hattribute, (Json.beq_string_iff _ user).2 rfl⟩

namespace Rule

/-- One more action is kept at the end, unless it is there before. -/
theorem distinct_concat (actions : List Action) (action : Action) :
    distinct (actions ++ [action]) =
      if action ∈ distinct actions then distinct actions else distinct actions ++ [action] := by
  simp only [distinct, List.foldl_append, List.foldl_cons, List.foldl_nil, List.contains_iff_mem]

/-- No action is lost with the repetitions, and none is added. -/
theorem mem_distinct {actions : List Action} {action : Action} :
    action ∈ distinct actions ↔ action ∈ actions := by
  induction actions using List.reverseRecOn with
  | nil => rfl
  | append_singleton before last ih =>
      rw [distinct_concat, List.mem_append, List.mem_singleton]
      split
      · next hlast =>
        constructor
        · intro h
          exact .inl (ih.1 h)
        · rintro (h | rfl)
          · exact ih.2 h
          · exact hlast
      · rw [List.mem_append, List.mem_singleton, ih]

/-- A rule speaks of an action on a type exactly when it has that type or the wildcard and lists
that action or the wildcard. -/
theorem appliesTo_iff (rule : Rule) (action : Action) (type : SubjectType) :
    rule.appliesTo action type = true ↔
      (rule.subject = .all ∨ rule.subject = type) ∧
        (.manage ∈ rule.actions ∨ action ∈ rule.actions) := by
  rw [appliesTo, Bool.and_eq_true, SubjectType.covers_iff, List.any_eq_true]
  refine and_congr_right fun _ => ?_
  constructor
  · rintro ⟨listed, hlisted, hcovers⟩
    rcases (listed.covers_iff action).1 hcovers with rfl | rfl
    · exact .inl hlisted
    · exact .inr hlisted
  · rintro (hmanage | haction)
    · exact ⟨_, hmanage, (Action.covers_iff _ _).2 (.inl rfl)⟩
    · exact ⟨_, haction, (Action.covers_iff _ _).2 (.inr rfl)⟩

/-- A rule without a condition matches what it speaks of. -/
theorem isMatch_of_iff (effect : Effect) (actions : List Action) (type : SubjectType)
    (action : Action) (target : Target) :
    (Rule.of effect actions type).isMatch action target = true ↔
      (type = .all ∨ type = target.subjectType) ∧
        (.manage ∈ actions ∨ action ∈ actions) := by
  rw [isMatch, Bool.and_eq_true, appliesTo_iff]
  simp [Rule.of, conditionHolds, mem_distinct]

/-- A rule for the owner matches what it speaks of on records of that owner. -/
theorem isMatch_ownedBy_iff (actions : List Action) (type : SubjectType) (user : String)
    (action : Action) (target : Target) :
    (Rule.canIf actions type (.ownedBy user)).isMatch action target = true ↔
      ((type = .all ∨ type = target.subjectType) ∧
        (.manage ∈ actions ∨ action ∈ actions)) ∧ target.IsOwnedBy user := by
  rw [isMatch, Bool.and_eq_true, appliesTo_iff]
  refine and_congr (and_congr_right fun _ => or_congr mem_distinct mem_distinct) ?_
  cases target with
  | tag type => exact iff_of_false Bool.false_ne_true (Target.not_tag_isOwnedBy type user)
  | record subject =>
      rw [Target.record_isOwnedBy_iff]
      exact Condition.isMatch_ownedBy_iff user subject

end Rule

/-! ## Deciding -/

namespace Ability

/-- A last rule decides what it matches and leaves everything else to the rules before it. -/
theorem can_concat (rules : List Rule) (rule : Rule) (discriminant : Discriminant)
    (action : Action) (target : Target) :
    (Ability.mk (rules ++ [rule]) discriminant).can action target =
      if rule.isMatch action target then rule.effect.allows
      else (Ability.mk rules discriminant).can action target := by
  unfold can relevantRule?
  rw [List.reverse_append, List.reverse_singleton, List.singleton_append, List.find?_cons]
  cases rule.isMatch action target <;> rfl

/-- Rules that only grant allow exactly what one of them matches. -/
theorem can_iff_of_forall_grant {ability : Ability}
    (h : ∀ rule ∈ ability.rules, rule.effect = .grant) (action : Action) (target : Target) :
    ability.can action target = true ↔
      ∃ rule ∈ ability.rules, rule.isMatch action target = true := by
  unfold can
  cases hfind : ability.relevantRule? action target with
  | none =>
      have hnone := List.find?_eq_none.1 hfind
      simp only [List.mem_reverse] at hnone
      refine iff_of_false Bool.false_ne_true ?_
      rintro ⟨rule, hrule, hmatch⟩
      exact hnone rule hrule hmatch
  | some rule =>
      -- whichever match comes last, it grants
      have hrule : rule ∈ ability.rules := List.mem_reverse.1 (List.mem_of_find?_eq_some hfind)
      have hmatch : rule.isMatch action target = true := by simpa using List.find?_some hfind
      refine iff_of_true ?_ ⟨rule, hrule, hmatch⟩
      show rule.effect.allows = true
      rw [h rule hrule]
      rfl

end Ability

end OrgAccess
