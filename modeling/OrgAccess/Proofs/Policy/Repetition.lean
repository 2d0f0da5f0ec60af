import Mathlib.Data.List.Basic
import OrgAccess.Proofs.Json.RoundTrip
import OrgAccess.Proofs.Policy.Decomposition

/-!
# Repeated actions

A rule that is made from a list of actions keeps each action where it is first and drops its
repetitions; a rule that is read keeps all that it lists. What one more action at the end of the
list does (`Rule.distinct_concat`) gives the laws of what is kept, by induction on the list from its
end. Neither the order of the actions nor their repetitions say anything of a query, so a rule that
is made and one that is read from the same list decide alike (`repeated_actions_immaterial`).
-/

namespace OrgAccess

namespace Rule

/-! ## Actions without repetitions -/

/-- The actions that are kept stand in the order in which they are first listed. -/
theorem pairwise_distinct (actions : List Action) :
    (distinct actions).Pairwise fun first second =>
      actions.idxOf first < actions.idxOf second := by
  induction actions using List.reverseRecOn with
  | nil => exact .nil
  | append_singleton before last ih =>
      -- what is listed before the last action is first listed where it was
      have hplace : ∀ kept ∈ distinct before,
          (before ++ [last]).idxOf kept = before.idxOf kept := fun kept hkept =>
        List.idxOf_append_of_mem (mem_distinct.1 hkept)
      have hbefore : (distinct before).Pairwise fun first second =>
          (before ++ [last]).idxOf first < (before ++ [last]).idxOf second := by
        refine ih.imp_of_mem fun hfirst hsecond hlt => ?_
        rwa [hplace _ hfirst, hplace _ hsecond]
      rw [distinct_concat]
      split
      · exact hbefore
      · next hnew =>
        refine List.pairwise_append.2 ⟨hbefore, List.pairwise_singleton _ _, ?_⟩
        intro kept hkept other hother
        obtain rfl := List.mem_singleton.1 hother
        rw [hplace kept hkept, List.idxOf_append_of_notMem (mt mem_distinct.2 hnew)]
        have hlt := List.idxOf_lt_length_of_mem (mem_distinct.1 hkept)
        omega

/-- No action is kept twice. -/
theorem nodup_distinct (actions : List Action) : (distinct actions).Nodup := by
  refine (pairwise_distinct actions).imp ?_
  rintro first _ hlt rfl
  exact Nat.lt_irrefl _ hlt

/-- A list without repetitions is kept as it is. -/
theorem distinct_eq_self {actions : List Action} (h : actions.Nodup) :
    distinct actions = actions := by
  induction actions using List.reverseRecOn with
  | nil => rfl
  | append_singleton before last ih =>
      obtain ⟨hbefore, -, hnew⟩ := List.nodup_append.1 h
      have hlast : last ∉ before := fun hmem => hnew last hmem last List.mem_cons_self rfl
      rw [distinct_concat, ih hbefore, if_neg hlast]

/-! ## Rules that are made and rules that are read -/

/-- The rule on a list of actions, with a condition or without one. -/
def build (effect : Effect) (actions : List Action) (type : SubjectType) :
    Option Condition → Rule
  | none => of effect actions type
  | some condition => (of effect actions type).withCondition condition

variable (effect : Effect) (actions : List Action) (type : SubjectType)
  (condition : Option Condition)

/-- A rule that is made has the distinct actions of the list, whether or not it has a condition. -/
theorem build_eq :
    build effect actions type condition = ⟨effect, distinct actions, type, condition⟩ := by
  cases condition <;> rfl

/-- A rule speaks of the same actions and types when its repetitions are dropped. -/
theorem appliesTo_build (action : Action) (queried : SubjectType) :
    (build effect actions type condition).appliesTo action queried =
      (Rule.mk effect actions type condition).appliesTo action queried := by
  rw [Bool.eq_iff_iff, appliesTo_iff, appliesTo_iff, build_eq]
  simp only [mem_distinct]

/-- A rule matches the same queries when its repetitions are dropped. -/
theorem isMatch_build (action : Action) (target : Target) :
    (build effect actions type condition).isMatch action target =
      (Rule.mk effect actions type condition).isMatch action target := by
  rw [isMatch, isMatch, appliesTo_build, build_eq]

/-- A rule that lists actions repeatedly says what the rule says that is made from its list. -/
theorem consistsOf_build :
    (Rule.mk effect actions type condition).ConsistsOf
      [build effect actions type condition] where
  effect := by
    intro part hpart
    obtain rfl := List.mem_singleton.1 hpart
    rw [build_eq]
  isMatch := by
    intro action target
    simp only [List.mem_singleton, exists_eq_left, isMatch_build]

end Rule

/-- Repeated actions do not matter. The rule that is made from a list of actions lists the same
actions, none of them twice and in the order in which they are first listed, and to make it again
from its own list changes nothing. A rule that is read keeps the list as it is written, but with the
same condition, or with none, both speak of the same actions and types and match the same queries,
and in the place of each other among any rules they leave every answer as it is. -/
theorem repeated_actions_immaterial (effect : Effect) (actions : List Action)
    (type : SubjectType) :
    let plain := Rule.of effect actions type
    plain = ⟨effect, plain.actions, type, none⟩ ∧
    (plain.actions.Nodup ∧ (∀ action, action ∈ plain.actions ↔ action ∈ actions) ∧
      plain.actions.Pairwise fun first second =>
        actions.idxOf first < actions.idxOf second) ∧
    Rule.of effect plain.actions type = plain ∧
    ∀ condition : Option Condition,
      let built := Rule.build effect actions type condition
      let listed : Rule := ⟨effect, actions, type, condition⟩
      Codec.ofJson? (Codec.toJson listed) = some listed ∧
      (∀ action queried, built.appliesTo action queried = listed.appliesTo action queried) ∧
      (∀ action target, built.isMatch action target = listed.isMatch action target) ∧
      ∀ before after,
        Rule.Interchangeable (before ++ listed :: after) (before ++ built :: after) := by
  intro plain
  have hagain : Rule.of effect plain.actions type = plain := by
    show Rule.mk effect (Rule.distinct (Rule.distinct actions)) type none = plain
    rw [Rule.distinct_eq_self (Rule.nodup_distinct actions)]
    rfl
  refine ⟨rfl, ⟨Rule.nodup_distinct actions, fun _ => Rule.mem_distinct,
    Rule.pairwise_distinct actions⟩, hagain, ?_⟩
  intro condition built listed
  refine ⟨listed.readsBack, Rule.appliesTo_build effect actions type condition,
    Rule.isMatch_build effect actions type condition, ?_⟩
  intro before after
  rw [List.append_cons before built after]
  exact (Rule.consistsOf_build effect actions type condition).interchangeable before after

end OrgAccess
