import OrgAccess.Proofs.Policy.Candidates

/-!
# What lists of rules say

What a list of rules says of a query is what its last rule says that matches, or nothing. An ability
denies where its rules say nothing; inside a list to say nothing is to leave the query to the rules
before, and to deny is to overrule them. So it is rulings, and not answers, that are put together
from those of the parts of a list (`Rule.ruling?_append`). Parts with the same rulings may stand for
each other in any list (`Rule.SameRulings.replace`, `Rule.SameRulings.flatMap`), and lists with the
same rulings answer every query alike (`Rule.SameRulings.interchangeable`).
-/

namespace OrgAccess

namespace Rule

variable {rules others : List Rule} {action : Action} {target : Target} {effect : Effect}

/-- The rules of two lists that count for a query are those of the first and then those of the
second. -/
theorem candidates_append (rules later : List Rule) (action : Action) (target : Target) :
    candidates (rules ++ later) action target =
      candidates rules action target ++ candidates later action target := by
  simp only [candidates_eq, List.filter_append]

/-- What the last of the rules that count for a query says of it, if any counts. -/
def ruling? (rules : List Rule) (action : Action) (target : Target) : Option Effect :=
  (candidates rules action target).getLast?.map Rule.effect

/-- What a list says is said by the last of its rules that match. -/
theorem ruling?_eq (rules : List Rule) (action : Action) (target : Target) :
    ruling? rules action target =
      (rules.filter fun rule => rule.isMatch action target).getLast?.map Rule.effect := by
  rw [ruling?, candidates_eq]

/-- What follows in a list is asked first. -/
theorem ruling?_append (rules later : List Rule) (action : Action) (target : Target) :
    ruling? (rules ++ later) action target =
      (ruling? later action target).or (ruling? rules action target) := by
  rw [ruling?, candidates_append, List.getLast?_append, Option.map_or]
  rfl

/-- A list says nothing of a query that none of its rules matches. -/
theorem ruling?_eq_none_iff :
    ruling? rules action target = none ↔ ∀ rule ∈ rules, ¬ rule.isMatch action target = true := by
  rw [ruling?_eq, Option.map_eq_none_iff, List.getLast?_eq_none_iff, List.filter_eq_nil_iff]

/-- What a list says is said by one of its rules that match. -/
theorem exists_of_ruling? (h : ruling? rules action target = some effect) :
    ∃ rule ∈ rules, rule.isMatch action target = true ∧ rule.effect = effect := by
  rw [ruling?_eq] at h
  obtain ⟨rule, hlast, heffect⟩ := Option.map_eq_some_iff.1 h
  obtain ⟨hrule, hmatch⟩ := List.mem_filter.1 (List.mem_of_getLast? hlast)
  exact ⟨rule, hrule, hmatch, heffect⟩

/-- Where no two rules that match differ, any of them gives the ruling. -/
theorem ruling?_eq_some_iff
    (hagree : ∀ rule ∈ rules, ∀ other ∈ rules, rule.isMatch action target = true →
      other.isMatch action target = true → rule.effect = other.effect) :
    ruling? rules action target = some effect ↔
      ∃ rule ∈ rules, rule.isMatch action target = true ∧ rule.effect = effect := by
  refine ⟨exists_of_ruling?, ?_⟩
  rintro ⟨rule, hrule, hmatch, rfl⟩
  cases hruling : ruling? rules action target with
  | none => exact absurd hmatch (ruling?_eq_none_iff.1 hruling rule hrule)
  | some effect =>
      obtain ⟨other, hother, hotherMatch, rfl⟩ := exists_of_ruling? hruling
      rw [hagree rule hrule other hother hmatch hotherMatch]

/-! ## Lists that say the same -/

/-- Two lists of rules say the same of every query. -/
def SameRulings (rules others : List Rule) : Prop :=
  ∀ action target, ruling? rules action target = ruling? others action target

/-- Two lists of rules are interchangeable: an ability with the one answers every query as an
ability with the other does. -/
def Interchangeable (rules others : List Rule) : Prop :=
  ∀ (discriminant : Discriminant) (action : Action) (target : Target),
    (Ability.mk rules discriminant).can action target =
      (Ability.mk others discriminant).can action target

end Rule

/-- An ability allows what its rules grant. -/
theorem Ability.can_eq_ruling (ability : Ability) (action : Action) (target : Target) :
    ability.can action target = (Rule.ruling? ability.rules action target).any Effect.allows := by
  rw [can, relevantRule?_eq, Rule.ruling?]
  cases (Rule.candidates ability.rules action target).getLast? <;> rfl

namespace Rule.SameRulings

variable {rules others middle : List Rule}

/-- Every list says what it says. -/
theorem refl (rules : List Rule) : SameRulings rules rules := fun _ _ => rfl

/-- Lists that say what a third one says, say the same. -/
theorem trans (h : SameRulings rules middle) (hothers : SameRulings middle others) :
    SameRulings rules others :=
  fun action target => (h action target).trans (hothers action target)

/-- Lists with the same rulings give the same answers. -/
theorem interchangeable (h : SameRulings rules others) : Interchangeable rules others := by
  intro discriminant action target
  rw [Ability.can_eq_ruling, Ability.can_eq_ruling, h action target]

/-- Lists that say the same say the same between others. -/
theorem replace (h : SameRulings rules others) (before after : List Rule) :
    SameRulings (before ++ rules ++ after) (before ++ others ++ after) := by
  intro action target
  simp only [ruling?_append, h action target]

/-- Every rule of a list may be replaced by rules that together say what it says. -/
theorem flatMap {parts : Rule → List Rule} (h : ∀ rule ∈ rules, SameRulings [rule] (parts rule)) :
    SameRulings rules (rules.flatMap parts) := by
  induction rules with
  | nil => exact refl []
  | cons rule rest ih =>
      intro action target
      have hrest := ih fun other hother => h other (List.mem_cons_of_mem rule hother)
      rw [← List.singleton_append, List.flatMap_append, List.flatMap_singleton, ruling?_append,
        ruling?_append, h rule List.mem_cons_self, hrest]

end Rule.SameRulings

end OrgAccess
