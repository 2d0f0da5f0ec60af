import Mathlib.Data.List.Induction
import OrgAccess.Proofs.Policy.Evaluation

/-!
# The rules that count for a query

Which rules count for a query, said in the order of their declaration: of all rules those on the
type of the target or on `all`, of these those that list the action or `manage`, and of these those
without a condition or with one that holds of the record (`Rule.candidates`). An ability reads its
rules from the end and stops at the first match; `last_candidate_decides` says that this is the last
candidate, that the answer is what it would be if every candidate in turn replaced the answer of
those before it, and that the rules for the action on the type are enough to give it.
-/

namespace OrgAccess

/-- A condition holds of a record that has the attribute, with a value as the condition says. -/
inductive Condition.Holds (subject : Subject) : Condition → Prop where
  | equals {field : String} {value actual : Json}
      (hattribute : subject.attribute? field = some actual) (hsame : (actual == value) = true) :
      Holds subject (.equals field value)
  | differs {field : String} {value actual : Json}
      (hattribute : subject.attribute? field = some actual) (hsame : (actual == value) = false) :
      Holds subject (.differs field value)
  | oneOf {field : String} {values : List Json} {value actual : Json}
      (hattribute : subject.attribute? field = some actual) (hvalue : value ∈ values)
      (hsame : (actual == value) = true) : Holds subject (.oneOf field values)

/-- Matching a condition decides whether it holds of a record. -/
theorem Condition.isMatch_iff_holds (condition : Condition) (subject : Subject) :
    condition.isMatch subject = true ↔ condition.Holds subject := by
  rw [isMatch_iff]
  constructor
  · rintro ⟨actual, hattribute, haccepts⟩
    cases condition with
    | equals field value => exact .equals hattribute haccepts
    | differs field value => exact .differs hattribute (by simpa [accepts, bne] using haccepts)
    | oneOf field values =>
        obtain ⟨value, hvalue, hsame⟩ := List.contains_iff_exists_mem_beq.1 haccepts
        exact .oneOf hattribute hvalue hsame
  · intro h
    cases h with
    | @equals _ _ actual hattribute hsame => exact ⟨actual, hattribute, hsame⟩
    | @differs _ _ actual hattribute hsame =>
        exact ⟨actual, hattribute, by simp [accepts, bne, hsame]⟩
    | @oneOf _ _ value actual hattribute hvalue hsame =>
        exact ⟨actual, hattribute, List.contains_iff_exists_mem_beq.2 ⟨value, hvalue, hsame⟩⟩

namespace Rule

/-! ## What a rule must say to count -/

/-- The rule is on a type or on all. -/
def IsOn (rule : Rule) (type : SubjectType) : Prop :=
  rule.subject = type ∨ rule.subject = .all

/-- The rule lists an action or the one that stands for all. -/
def Lists (rule : Rule) (action : Action) : Prop :=
  action ∈ rule.actions ∨ .manage ∈ rule.actions

/-- The rule has no condition, or the target is a record of which the condition holds. -/
def Admits (rule : Rule) (target : Target) : Prop :=
  rule.condition = none ∨ ∃ condition subject, rule.condition = some condition ∧
    target = .record subject ∧ condition.Holds subject

/-- A condition is never asked of a bare type. -/
theorem conditionHolds_iff_admits (rule : Rule) (target : Target) :
    conditionHolds rule.condition target = true ↔ rule.Admits target := by
  unfold Admits
  cases rule.condition with
  | none => exact iff_of_true rfl (.inl rfl)
  | some condition =>
      cases target with
      | tag type => simp [conditionHolds, Target.subject?]
      | record subject =>
          simp only [conditionHolds, Target.subject?, condition.isMatch_iff_holds]
          simp

/-- A rule applies when it is on the type and lists the action. -/
theorem appliesTo_iff_isOn (rule : Rule) (action : Action) (type : SubjectType) :
    rule.appliesTo action type = true ↔ rule.IsOn type ∧ rule.Lists action := by
  rw [appliesTo_iff, or_comm, or_comm (a := Action.manage ∈ rule.actions)]
  rfl

/-- Whether a rule is on a type is seen from the type of its subject. -/
instance (rule : Rule) (type : SubjectType) : Decidable (rule.IsOn type) :=
  inferInstanceAs (Decidable (_ ∨ _))

/-- Whether a rule lists an action is seen from its actions. -/
instance (rule : Rule) (action : Action) : Decidable (rule.Lists action) :=
  inferInstanceAs (Decidable (_ ∨ _))

/-- Whether a rule admits a target is found by evaluating its condition. -/
instance (rule : Rule) (target : Target) : Decidable (rule.Admits target) :=
  decidable_of_iff _ (rule.conditionHolds_iff_admits target)

/-- The rule counts for a query. -/
def Counts (rule : Rule) (action : Action) (target : Target) : Prop :=
  rule.IsOn target.subjectType ∧ rule.Lists action ∧ rule.Admits target

/-- Whether a rule counts for a query is decided part by part. -/
instance (rule : Rule) (action : Action) (target : Target) :
    Decidable (rule.Counts action target) :=
  inferInstanceAs (Decidable (_ ∧ _))

/-- The rules that match a query are those that count for it. -/
theorem isMatch_iff_counts (rule : Rule) (action : Action) (target : Target) :
    rule.isMatch action target = true ↔ rule.Counts action target := by
  rw [isMatch, Bool.and_eq_true, appliesTo_iff_isOn, conditionHolds_iff_admits, and_assoc]
  rfl

/-- The rules that count for a query, in the order of their declaration: the type is looked at
first, then the action, and the condition last. -/
def candidates (rules : List Rule) (action : Action) (target : Target) : List Rule :=
  ((rules.filter fun rule => rule.IsOn target.subjectType).filter fun rule =>
    rule.Lists action).filter fun rule => rule.Admits target

/-- To look at the type, the action and the condition one after another is to match. -/
theorem candidates_eq (rules : List Rule) (action : Action) (target : Target) :
    candidates rules action target = rules.filter fun rule => rule.isMatch action target := by
  rw [candidates, List.filter_filter, List.filter_filter]
  apply List.filter_congr
  intro rule _
  rw [Bool.eq_iff_iff, isMatch_iff_counts, Counts]
  simp only [Bool.and_eq_true, decide_eq_true_eq]
  tauto

end Rule

namespace Ability

variable (ability : Ability) (action : Action) (target : Target)

/-! ## How the rules that count decide -/

/-- Reading the rules from the end up to a match finds the last that counts. -/
theorem relevantRule?_eq :
    ability.relevantRule? action target =
      (Rule.candidates ability.rules action target).getLast? := by
  rw [Rule.candidates_eq, relevantRule?, ← List.head?_filter, List.filter_reverse,
    List.head?_reverse]

/-- What the last rule that counts says is the answer. -/
theorem can_iff_getLast :
    ability.can action target = true ↔
      ∃ h : Rule.candidates ability.rules action target ≠ [],
        ((Rule.candidates ability.rules action target).getLast h).effect = .grant := by
  rw [can, relevantRule?_eq]
  by_cases hne : Rule.candidates ability.rules action target = []
  · rw [hne]
    exact iff_of_false Bool.false_ne_true fun h => h.1 rfl
  · rw [List.getLast?_eq_some_getLast hne]
    constructor
    · intro hallows
      exact ⟨hne, of_decide_eq_true hallows⟩
    · rintro ⟨_, hgrant⟩
      exact decide_eq_true hgrant

/-- Each rule that counts replaces the answer of those before it. -/
theorem can_eq_foldl :
    ability.can action target =
      ability.rules.foldl
        (fun answer rule => if rule.Counts action target then rule.effect.allows else answer)
        false := by
  obtain ⟨rules, discriminant⟩ := ability
  -- the rule that was declared last is the first that is read
  induction rules using List.reverseRecOn with
  | nil => rfl
  | append_singleton rules rule ih =>
      rw [can_concat, List.foldl_append, List.foldl_cons, List.foldl_nil, ← ih]
      simp only [Rule.isMatch_iff_counts]

/-- The rules for an action on a type are those that are on the type and list the action. -/
theorem rulesFor_eq (type : SubjectType) :
    ability.rulesFor action type =
      (ability.rules.filter fun rule => rule.IsOn type).filter fun rule => rule.Lists action := by
  rw [rulesFor, List.filter_filter]
  apply List.filter_congr
  intro rule _
  rw [Bool.eq_iff_iff, Rule.appliesTo_iff_isOn]
  simp only [Bool.and_eq_true, decide_eq_true_eq, and_comm]

/-- The rules for the action on the type leave out none that counts. -/
theorem candidates_rulesFor :
    Rule.candidates (ability.rulesFor action target.subjectType) action target =
      Rule.candidates ability.rules action target := by
  rw [Rule.candidates_eq, Rule.candidates_eq, rulesFor, List.filter_filter]
  apply List.filter_congr
  intro rule _
  unfold Rule.isMatch
  cases rule.appliesTo action target.subjectType <;> simp

/-- A rule that decides is one of the rules for the action on the type. -/
theorem mem_rulesFor_of_relevantRule? {rule : Rule}
    (h : ability.relevantRule? action target = some rule) :
    rule ∈ ability.rulesFor action target.subjectType := by
  rw [relevantRule?_eq, ← candidates_rulesFor, Rule.candidates_eq] at h
  exact (List.mem_filter.1 (List.mem_of_getLast? h)).1

/-- Whatever the other rules of two abilities are, they decide two queries alike if the same rules
count. -/
theorem decide_alike {a b : Ability} {other : Action} {another : Target}
    (h : Rule.candidates a.rules action target = Rule.candidates b.rules other another) :
    a.relevantRule? action target = b.relevantRule? other another ∧
      a.can action target = b.can other another := by
  have hrule : a.relevantRule? action target = b.relevantRule? other another := by
    rw [relevantRule?_eq, relevantRule?_eq, h]
  exact ⟨hrule, by rw [can, can, hrule]⟩

end Ability

/-- An ability decides a query by the last of the rules that count for it, taken in the order of
their declaration, and denies it if none counts. What it lists for the action on the type of the
target are the rules that are left when conditions are not looked at; the rule that decides is among
them, and an ability with these rules alone decides alike. The answer is also what comes of going
through all rules once, with a denial to begin with, and letting each that counts replace it. -/
theorem last_candidate_decides (ability : Ability) (action : Action) (target : Target) :
    let candidates := Rule.candidates ability.rules action target
    let listed := ability.rulesFor action target.subjectType
    ability.relevantRule? action target = candidates.getLast? ∧
    (ability.can action target = true ↔
      ∃ h : candidates ≠ [], (candidates.getLast h).effect = .grant) ∧
    (∀ type, ability.rulesFor action type =
      (ability.rules.filter fun rule => rule.IsOn type).filter fun rule => rule.Lists action) ∧
    (∀ rule, ability.relevantRule? action target = some rule → rule ∈ listed) ∧
    (∀ discriminant,
      (Ability.mk listed discriminant).relevantRule? action target =
          ability.relevantRule? action target ∧
        (Ability.mk listed discriminant).can action target = ability.can action target) ∧
    ability.can action target =
      ability.rules.foldl
        (fun answer rule => if rule.Counts action target then rule.effect.allows else answer)
        false := by
  intro candidates listed
  refine ⟨ability.relevantRule?_eq action target, ability.can_iff_getLast action target,
    ability.rulesFor_eq action, fun rule => ability.mem_rulesFor_of_relevantRule? action target,
    ?_, ability.can_eq_foldl action target⟩
  intro discriminant
  exact Ability.decide_alike action target (ability.candidates_rulesFor action target)

end OrgAccess
