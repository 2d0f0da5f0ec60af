import OrgAccess.Proofs.Policy.Rulings

/-!
# Rules in smaller pieces

A rule that lists several actions, or whose condition lists several values, is short for several
rules that stand in its place: one for each action (`Rule.perAction`), and one for each value
(`Rule.perValue`). They have one effect, so it does not matter which of them matches last, and the
rule matches what any of them matches; a list that is empty leaves no rule. `rules_decompose` says
that every answer is kept when one rule of a list is taken apart, and when all are
(`Rule.elementary`). What is left then are rules for single actions whose conditions compare with a
single value.
-/

namespace OrgAccess

namespace Condition

variable {field : String} {value : Json} {values : List Json} {subject : Subject}

/-- To be one of several values is to be equal to some of them. -/
theorem isMatch_oneOf_iff :
    (oneOf field values).isMatch subject = true ↔
      ∃ value ∈ values, (equals field value).isMatch subject = true := by
  simp only [isMatch_iff, accepts, Condition.field, List.contains_iff_exists_mem_beq]
  constructor
  · rintro ⟨actual, hattribute, value, hvalue, hsame⟩
    exact ⟨value, hvalue, actual, hattribute, hsame⟩
  · rintro ⟨value, hvalue, actual, hattribute, hsame⟩
    exact ⟨actual, hattribute, value, hvalue, hsame⟩

/-- To differ from a value is to be there and not to be equal to it. -/
theorem isMatch_differs_iff :
    (differs field value).isMatch subject = true ↔
      (∃ actual, subject.attribute? field = some actual) ∧
        (equals field value).isMatch subject = false := by
  simp only [isMatch, accepts, Condition.field]
  cases subject.attribute? field <;> simp [bne]

end Condition

namespace Rule

variable {rule : Rule} {parts rules : List Rule}

/-- A rule consists of others when they have its effect and it matches what one of them matches. -/
structure ConsistsOf (rule : Rule) (parts : List Rule) : Prop where
  effect : ∀ part ∈ parts, part.effect = rule.effect
  isMatch : ∀ action target,
    rule.isMatch action target = true ↔ ∃ part ∈ parts, part.isMatch action target = true

/-- A rule says what the rules say that it consists of, whichever of them comes last. -/
theorem ConsistsOf.sameRulings (h : rule.ConsistsOf parts) : SameRulings [rule] parts := by
  intro action target
  apply Option.ext
  intro effect
  rw [ruling?_eq_some_iff, ruling?_eq_some_iff]
  · simp only [List.mem_singleton, exists_eq_left]
    constructor
    · rintro ⟨hmatch, heffect⟩
      obtain ⟨part, hpart, hpartMatch⟩ := (h.isMatch action target).1 hmatch
      exact ⟨part, hpart, hpartMatch, (h.effect part hpart).trans heffect⟩
    · rintro ⟨part, hpart, hpartMatch, heffect⟩
      refine ⟨(h.isMatch action target).2 ⟨part, hpart, hpartMatch⟩, ?_⟩
      exact (h.effect part hpart).symm.trans heffect
  · intro part hpart other hother _ _
    rw [h.effect part hpart, h.effect other hother]
  · intro first hfirst second hsecond _ _
    rw [List.mem_singleton.1 hfirst, List.mem_singleton.1 hsecond]

/-- A rule may be replaced where it stands by the rules that it consists of. -/
theorem ConsistsOf.interchangeable (h : rule.ConsistsOf parts) (before after : List Rule) :
    Interchangeable (before ++ rule :: after) (before ++ parts ++ after) := by
  rw [List.append_cons]
  exact (h.sameRulings.replace before after).interchangeable

/-! ## One rule for each action -/

/-- The rule with one action in the place of those that it lists. -/
def only (rule : Rule) (action : Action) : Rule :=
  { rule with actions := [action] }

/-- A copy of the rule for each action that it lists. -/
def perAction (rule : Rule) : List Rule :=
  rule.actions.map rule.only

/-- A rule consists of its copies with one action each. -/
theorem consistsOf_perAction (rule : Rule) : rule.ConsistsOf rule.perAction where
  effect := by
    intro part hpart
    obtain ⟨listed, -, rfl⟩ := List.mem_map.1 hpart
    rfl
  isMatch := by
    intro action target
    simp only [perAction, List.mem_map, exists_exists_and_eq_and, isMatch, appliesTo, only,
      Bool.and_eq_true, List.any_eq_true, List.mem_singleton, exists_eq_left]
    constructor
    · rintro ⟨⟨htype, listed, hlisted, hcovers⟩, hcondition⟩
      exact ⟨listed, hlisted, ⟨htype, hcovers⟩, hcondition⟩
    · rintro ⟨listed, hlisted, ⟨htype, hcovers⟩, hcondition⟩
      exact ⟨⟨htype, listed, hlisted, hcovers⟩, hcondition⟩

/-! ## One rule for each value -/

/-- A copy of the rule for each of several values to which an attribute may be equal. -/
def withEach (rule : Rule) (field : String) (values : List Json) : List Rule :=
  values.map fun value => rule.withCondition (.equals field value)

/-- A rule on several values consists of its copies with one value each. -/
theorem consistsOf_withEach {field : String} {values : List Json}
    (hcondition : rule.condition = some (.oneOf field values)) :
    rule.ConsistsOf (rule.withEach field values) where
  effect := by
    intro part hpart
    obtain ⟨value, -, rfl⟩ := List.mem_map.1 hpart
    rfl
  isMatch := by
    intro action target
    simp only [withEach, List.mem_map, exists_exists_and_eq_and, isMatch, appliesTo, withCondition,
      hcondition, Bool.and_eq_true]
    cases target with
    | tag type => simp [conditionHolds, Target.subject?]
    | record subject =>
        simp only [conditionHolds, Target.subject?, Condition.isMatch_oneOf_iff]
        constructor
        · rintro ⟨happlies, value, hvalue, hequal⟩
          exact ⟨value, hvalue, happlies, hequal⟩
        · rintro ⟨value, hvalue, happlies, hequal⟩
          exact ⟨happlies, value, hvalue, hequal⟩

/-- The rule itself, or a copy for each value if its condition lists several. -/
def perValue (rule : Rule) : List Rule :=
  match rule.condition with
  | some (.oneOf field values) => rule.withEach field values
  | _ => [rule]

/-- A rule says what its copies for single values say. -/
theorem sameRulings_perValue (rule : Rule) : SameRulings [rule] rule.perValue := by
  unfold perValue
  split
  · next field values hcondition => exact (consistsOf_withEach hcondition).sameRulings
  · exact .refl [rule]

/-! ## Both -/

/-- The rules of a list taken apart by action and then by value. -/
def elementary (rules : List Rule) : List Rule :=
  (rules.flatMap perAction).flatMap perValue

/-- A list of rules says what it says when it is taken apart. -/
theorem sameRulings_elementary (rules : List Rule) : SameRulings rules (elementary rules) := by
  have hactions : SameRulings rules (rules.flatMap perAction) :=
    .flatMap fun rule _ => rule.consistsOf_perAction.sameRulings
  exact hactions.trans (.flatMap fun rule _ => rule.sameRulings_perValue)

/-- A rule lists one action and has no condition that lists values. -/
def IsElementary (rule : Rule) : Prop :=
  (∃ action, rule.actions = [action]) ∧
    ∀ field values, rule.condition ≠ some (.oneOf field values)

/-- What a list is taken apart into cannot be taken apart further. -/
theorem isElementary_of_mem (hrule : rule ∈ elementary rules) : rule.IsElementary := by
  obtain ⟨single, hsingle, hrule⟩ := List.mem_flatMap.1 hrule
  obtain ⟨whole, -, hpart⟩ := List.mem_flatMap.1 hsingle
  obtain ⟨action, -, rfl⟩ := List.mem_map.1 hpart
  unfold perValue at hrule
  split at hrule
  · obtain ⟨value, -, rfl⟩ := List.mem_map.1 hrule
    exact ⟨⟨action, rfl⟩, fun _ _ => by simp [withCondition]⟩
  · next hcondition =>
    obtain rfl := List.mem_singleton.1 hrule
    exact ⟨⟨action, rfl⟩, hcondition⟩

end Rule

/-- Rules decompose. Any rule of a list may be replaced where it stands by a copy for each action
that it lists, and one whose condition lists several values by a copy for each value, which is none
where the list is empty; every answer on every action and target is kept. So it is when all rules
are taken apart in both ways, and then each rule is for one action and compares with one value. To
differ from a value is to have the attribute and not be equal to the value, and an integer is never
equal to a double. -/
theorem rules_decompose :
    (∀ (before after : List Rule) (rule : Rule),
      Rule.Interchangeable (before ++ rule :: after) (before ++ rule.perAction ++ after) ∧
        ∀ (field : String) (values : List Json), rule.condition = some (.oneOf field values) →
          Rule.Interchangeable (before ++ rule :: after)
            (before ++ rule.withEach field values ++ after)) ∧
    (∀ rules : List Rule, Rule.Interchangeable rules (Rule.elementary rules) ∧
      ∀ rule ∈ Rule.elementary rules, rule.IsElementary) ∧
    (∀ (subject : Subject) (field : String) (value : Json),
      (Condition.differs field value).isMatch subject = true ↔
        (∃ actual, subject.attribute? field = some actual) ∧
          (Condition.equals field value).isMatch subject = false) ∧
    ∀ (n : Int) (d : Json.Double),
      (Json.integer n == Json.double d) = false ∧ (Json.double d == Json.integer n) = false := by
  refine ⟨?_, ?_, fun _ _ _ => Condition.isMatch_differs_iff, fun _ _ => ⟨rfl, rfl⟩⟩
  · intro before after rule
    refine ⟨rule.consistsOf_perAction.interchangeable before after, ?_⟩
    intro field values hcondition
    exact (Rule.consistsOf_withEach hcondition).interchangeable before after
  · intro rules
    exact ⟨(Rule.sameRulings_elementary rules).interchangeable, fun _ => Rule.isElementary_of_mem⟩

/-- A grant for two priorities, taken apart by value and by action: the project with priority `2`
may be exported as before, and the one with the double of the same value may not. -/
theorem export_by_priority :
    let tiers : List Json := [.integer 1, .integer 2]
    let tiered : Rule := .canIf [.get, .export] (Kind.project) (.oneOf "priority" tiers)
    let before : List Rule := [.cannot [.manage] .all]
    let after : List Rule := [.cannot [.export] (Kind.invite)]
    let two : Json.Double := ⟨false, 0x4000000000000000, by decide⟩
    let urgent := (Subject.bare .project).withAttribute "priority" (.integer 2)
    let vague := (Subject.bare .project).withAttribute "priority" (.double two)
    let byValue : Ability := ⟨before ++ tiered.withEach "priority" tiers ++ after, .default⟩
    let byAction : Ability := ⟨before ++ tiered.perAction ++ after, .default⟩
    two.ratio.1 = 2 * two.ratio.2 ∧
      byValue.can .export (.record urgent) = true ∧ byValue.can .export (.record vague) = false ∧
      byAction.can .export (.record urgent) = true ∧
      byAction.can .export (.record vague) = false := by
  intro tiers tiered before after two urgent vague byValue byAction
  obtain ⟨hactions, hvalues⟩ := rules_decompose.1 before after tiered
  have hvalues := hvalues "priority" tiers rfl
  have hurgent : (Ability.mk (before ++ tiered :: after) .default).can .export (.record urgent) =
      true := rfl
  have hvague : (Ability.mk (before ++ tiered :: after) .default).can .export (.record vague) =
      false := rfl
  exact ⟨by decide, (hvalues _ _ _).symm.trans hurgent, (hvalues _ _ _).symm.trans hvague,
    (hactions _ _ _).symm.trans hurgent, (hactions _ _ _).symm.trans hvague⟩

end OrgAccess
