import Mathlib.Data.List.FinRange
import OrgAccess.Proofs.Policy.Rulings

/-!
# Rules in another order

Which rules may change places. Two rules overlap when there is a query of which both speak, their
conditions aside; for a rule on a type and a list of actions that is a question of what covers what
(`Rule.overlaps_iff`). Only a grant and a denial that overlap conflict, and only conflicting rules
have to stay in their order: every other rearrangement of the positions of a list keeps each
decision (`reordering_safe`), though another rule may come to decide it. So rules may be put into
buckets that conflicting rules share, such as one for each type or for each action, and rules that
do not conflict may be permuted where they stand.
-/

namespace OrgAccess

namespace Rule

variable {rule other : Rule} {rules others : List Rule} {action : Action} {target : Target}
  {effect : Effect}

/-! ## Overlaps and conflicts -/

/-- Two rules overlap: of some action on some type both speak, their conditions aside. -/
def Overlaps (rule other : Rule) : Prop :=
  ∃ action type, rule.appliesTo action type = true ∧ other.appliesTo action type = true

/-- Two rules conflict: one grants and the other denies, and they overlap. -/
def Conflicts (rule other : Rule) : Prop :=
  rule.effect ≠ other.effect ∧ rule.Overlaps other

/-- Of two things, either of which may be the wildcard, some third is covered by both exactly when
one is covered by the other. -/
theorem exists_covered_iff {α : Type} (wildcard a b : α) :
    (∃ queried, (a = wildcard ∨ a = queried) ∧ (b = wildcard ∨ b = queried)) ↔
      (a = wildcard ∨ a = b) ∨ b = wildcard ∨ b = a := by
  constructor
  · rintro ⟨queried, rfl | rfl, rfl | rfl⟩
    · exact .inl (.inl rfl)
    · exact .inl (.inl rfl)
    · exact .inr (.inl rfl)
    · exact .inl (.inr rfl)
  · rintro ((rfl | rfl) | rfl | rfl)
    · exact ⟨b, .inl rfl, .inr rfl⟩
    · exact ⟨a, .inr rfl, .inr rfl⟩
    · exact ⟨a, .inr rfl, .inl rfl⟩
    · exact ⟨b, .inr rfl, .inr rfl⟩

/-- Rules overlap when one's type covers the other's and an action of one covers an action of the
other, either way round. -/
theorem overlaps_iff :
    rule.Overlaps other ↔
      (rule.subject.covers other.subject = true ∨ other.subject.covers rule.subject = true) ∧
        ∃ listed ∈ rule.actions, ∃ another ∈ other.actions,
          listed.covers another = true ∨ another.covers listed = true := by
  simp only [Overlaps, appliesTo, Bool.and_eq_true, List.any_eq_true, Action.covers_iff,
    SubjectType.covers_iff, ← exists_covered_iff]
  constructor
  · rintro ⟨action, type, ⟨htype, listed, hlisted, hcovers⟩, hotherType, another, hanother, hother⟩
    exact ⟨⟨type, htype, hotherType⟩, listed, hlisted, another, hanother, action, hcovers, hother⟩
  · rintro ⟨⟨type, htype, hotherType⟩, listed, hlisted, another, hanother, action, hcovers, hother⟩
    exact ⟨action, type, ⟨htype, listed, hlisted, hcovers⟩, hotherType, another, hanother, hother⟩

/-- Whether two rules overlap is seen from their actions and types. -/
instance (rule other : Rule) : Decidable (rule.Overlaps other) :=
  decidable_of_iff' _ overlaps_iff

/-- Whether two rules conflict is seen from their effects and whether they overlap. -/
instance (rule other : Rule) : Decidable (rule.Conflicts other) :=
  inferInstanceAs (Decidable (_ ∧ _))

/-- Rules that both match a query overlap, so they conflict if they differ in effect. -/
theorem conflicts_of_isMatch (hrule : rule.isMatch action target = true)
    (hother : other.isMatch action target = true) (hne : rule.effect ≠ other.effect) :
    rule.Conflicts other := by
  rw [isMatch, Bool.and_eq_true] at hrule hother
  exact ⟨hne, action, target.subjectType, hrule.1, hother.1⟩

/-- Conflicting rules that are not on `all` are on one type. -/
theorem Conflicts.subject_eq (h : rule.Conflicts other) (hrule : rule.subject ≠ .all)
    (hother : other.subject ≠ .all) : rule.subject = other.subject := by
  obtain ⟨_, type, happlies, hotherApplies⟩ := h.2
  rw [appliesTo_iff] at happlies hotherApplies
  exact (happlies.1.resolve_left hrule).trans (hotherApplies.1.resolve_left hother).symm

/-- Conflicting rules that list one action each, and not `manage`, list the same. -/
theorem Conflicts.actions_eq (h : rule.Conflicts other)
    (hrule : ∃ listed, listed ≠ .manage ∧ rule.actions = [listed])
    (hother : ∃ listed, listed ≠ .manage ∧ other.actions = [listed]) :
    rule.actions = other.actions := by
  obtain ⟨listed, hlisted, hrule⟩ := hrule
  obtain ⟨another, hanother, hother⟩ := hother
  obtain ⟨action, _, happlies, hotherApplies⟩ := h.2
  rw [appliesTo_iff, hrule, List.mem_singleton, List.mem_singleton] at happlies
  rw [appliesTo_iff, hother, List.mem_singleton, List.mem_singleton] at hotherApplies
  have hsame := happlies.2.resolve_left (Ne.symm hlisted)
  have hotherSame := hotherApplies.2.resolve_left (Ne.symm hanother)
  rw [hrule, hother, ← hsame, ← hotherSame]

/-! ## Rearrangements -/

/-- One list of rules is another with its positions permuted, and conflicting rules stay in their
order: where the rule at one position comes to stand before the rule at another and the two
conflict, it stood before it. -/
structure Rearrangement (rules others : List Rule) where
  order : List (Fin rules.length)
  perm : order.Perm (List.finRange rules.length)
  others_eq : others = order.map rules.get
  keeps : order.Pairwise fun i j => (rules.get i).Conflicts (rules.get j) → i < j

/-- Rules are listed by what they stand for, in a certain order. Of those that match a query the
last gives the ruling, and the others come before it. -/
theorem exists_last_of_ruling? {ι : Type} {rule : ι → Rule} {order : List ι} {R : ι → ι → Prop}
    (hpairs : order.Pairwise R) (h : ruling? (order.map rule) action target = some effect) :
    ∃ last ∈ order, (rule last).isMatch action target = true ∧ (rule last).effect = effect ∧
      ∀ i ∈ order, (rule i).isMatch action target = true → i = last ∨ R i last := by
  rw [ruling?_eq, List.filter_map, List.getLast?_map, Option.map_map] at h
  obtain ⟨last, hlast, heffect⟩ := Option.map_eq_some_iff.1 h
  obtain ⟨earlier, hmatching⟩ := List.getLast?_eq_some_iff.1 hlast
  have hmem : ∀ i, i ∈ earlier ++ [last] ↔ i ∈ order ∧ (rule i).isMatch action target = true := by
    intro i
    rw [← hmatching]
    exact List.mem_filter
  obtain ⟨hthere, hmatch⟩ := (hmem last).1 (List.mem_append_right _ (List.mem_singleton.2 rfl))
  refine ⟨last, hthere, hmatch, heffect, ?_⟩
  intro i hi himatch
  have hordered : (earlier ++ [last]).Pairwise R := hmatching ▸ hpairs.filter _
  rcases List.mem_append.1 ((hmem i).2 ⟨hi, himatch⟩) with hearlier | hsame
  · exact .inr ((List.pairwise_append.1 hordered).2.2 i hearlier last (List.mem_singleton.2 rfl))
  · exact .inl (List.mem_singleton.1 hsame)

namespace Rearrangement

/-- A rearrangement has the same rules. -/
theorem rules_perm (arranged : Rearrangement rules others) : others.Perm rules := by
  have hperm := arranged.perm.map rules.get
  rwa [← arranged.others_eq, List.map_get_finRange] at hperm

/-- A rearrangement says the same as before: if the rules that match last, before and after, were of
different effects they would conflict, and one of them would have overtaken the other. -/
theorem sameRulings (arranged : Rearrangement rules others) : SameRulings rules others := by
  intro action target
  cases hbefore : ruling? rules action target with
  | none =>
      rw [ruling?_eq_none_iff] at hbefore
      refine (ruling?_eq_none_iff.2 fun rule hrule => ?_).symm
      exact hbefore rule (arranged.rules_perm.mem_iff.1 hrule)
  | some effect =>
      have hrules : ruling? ((List.finRange rules.length).map rules.get) action target =
          some effect := by
        rwa [List.map_get_finRange]
      obtain ⟨i, hi, himatch, rfl, hilast⟩ :=
        exists_last_of_ruling? (List.pairwise_lt_finRange rules.length) hrules
      cases hafter : ruling? others action target with
      | none =>
          have hthere := arranged.rules_perm.mem_iff.2 (List.get_mem rules i)
          exact absurd himatch (ruling?_eq_none_iff.1 hafter _ hthere)
      | some effect =>
          rw [arranged.others_eq] at hafter
          obtain ⟨j, hj, hjmatch, rfl, hjlast⟩ := exists_last_of_ruling? arranged.keeps hafter
          congr 1
          by_contra hne
          have hconflict := conflicts_of_isMatch himatch hjmatch hne
          rcases hjlast i (arranged.perm.mem_iff.2 hi) himatch with rfl | hkept
          · exact hne rfl
          · have hlt := hkept hconflict
            rcases hilast j (List.mem_finRange j) hjmatch with rfl | hgt
            · exact lt_irrefl _ hlt
            · exact lt_asymm hlt hgt

end Rearrangement

/-! ## Buckets -/

/-- The rules of a list bucket by bucket: for each key in turn the rules that have it, in their
order. -/
def buckets {κ : Type} [DecidableEq κ] (key : Rule → κ) (keys : List κ) (rules : List Rule) :
    List Rule :=
  keys.flatMap fun k => rules.filter fun rule => key rule = k

/-- To put rules into buckets is to rearrange them, if conflicting rules share a bucket. -/
def Rearrangement.ofBuckets {κ : Type} [DecidableEq κ] {key : Rule → κ} {keys : List κ}
    (hkeys : keys.Nodup) (hall : ∀ rule ∈ rules, key rule ∈ keys)
    (hshared : ∀ rule ∈ rules, ∀ other ∈ rules, rule.Conflicts other → key rule = key other) :
    Rearrangement rules (buckets key keys rules) where
  order := keys.flatMap fun k =>
    (List.finRange rules.length).filter fun i => key (rules.get i) = k
  perm := by
    refine (List.perm_ext_iff_of_nodup ?_ (List.nodup_finRange _)).2 fun i => ?_
    · refine List.nodup_flatMap.2 ⟨fun k _ => (List.nodup_finRange _).filter _, ?_⟩
      refine hkeys.imp fun hne => ?_
      intro i hi hother
      simp only [List.mem_filter, decide_eq_true_eq] at hi hother
      exact hne (hi.2.symm.trans hother.2)
    · have hkey := hall _ (List.get_mem rules i)
      simpa using hkey
  others_eq := by
    have hfilter : ∀ keep : Rule → Bool,
        ((List.finRange rules.length).filter (keep ∘ rules.get)).map rules.get =
          rules.filter keep := by
      intro keep
      rw [← List.filter_map, List.map_get_finRange]
    rw [List.map_flatMap, buckets]
    exact congrArg (keys.flatMap ·) (funext fun k => (hfilter _).symm)
  keeps := by
    refine List.pairwise_flatMap.2 ⟨fun k _ => ?_, ?_⟩
    · have hsorted :=
        (List.pairwise_lt_finRange rules.length).filter fun i => key (rules.get i) = k
      refine hsorted.imp ?_
      intro i j hlt _
      exact hlt
    · refine hkeys.imp fun hne i hi j hj hconflict => ?_
      simp only [List.mem_filter, decide_eq_true_eq] at hi hj
      have hsame := hshared _ (List.get_mem rules i) _ (List.get_mem rules j) hconflict
      exact absurd (hi.2.symm.trans (hsame.trans hj.2)) hne

/-- Rules none of which conflict say the same in any order. -/
theorem sameRulings_of_perm (hperm : rules.Perm others)
    (hfree : ∀ rule ∈ rules, ∀ other ∈ rules, ¬ rule.Conflicts other) :
    SameRulings rules others := by
  intro action target
  apply Option.ext
  intro effect
  rw [ruling?_eq_some_iff, ruling?_eq_some_iff]
  · simp only [hperm.mem_iff]
  · intro rule hrule other hother hmatch hotherMatch
    by_contra hne
    rw [← hperm.mem_iff] at hrule hother
    exact hfree rule hrule other hother (conflicts_of_isMatch hmatch hotherMatch hne)
  · intro rule hrule other hother hmatch hotherMatch
    by_contra hne
    exact hfree rule hrule other hother (conflicts_of_isMatch hmatch hotherMatch hne)

end Rule

/-- Rules may be put into another order as long as every grant and every denial that speak of a
common action on a common type stay in theirs: each action on each target, be it a bare type or a
record, is then allowed or denied as before. So rules may be put into buckets, one after the other
and each in the order of declaration, where a grant and a denial that overlap share a bucket: by
type, if no rule is on `all`, or by action, if each rule lists one and none `manage`. And in a
stretch of rules none of which conflict, be they of one effect or without overlaps, the rules may be
permuted. -/
theorem reordering_safe :
    (∀ {rules others : List Rule}, Rule.Rearrangement rules others →
      Rule.Interchangeable rules others) ∧
    (∀ {κ : Type} [DecidableEq κ] (key : Rule → κ) (keys : List κ) (rules : List Rule),
      keys.Nodup → (∀ rule ∈ rules, key rule ∈ keys) →
      (∀ rule ∈ rules, ∀ other ∈ rules, rule.Conflicts other → key rule = key other) →
      Rule.Interchangeable rules (Rule.buckets key keys rules)) ∧
    (∀ rules : List Rule, (∀ rule ∈ rules, rule.subject ≠ .all) →
      Rule.Interchangeable rules (Rule.buckets Rule.subject SubjectType.every rules)) ∧
    (∀ rules : List Rule, (∀ rule ∈ rules, ∃ listed, listed ≠ .manage ∧ rule.actions = [listed]) →
      Rule.Interchangeable rules
        (Rule.buckets Rule.actions (Action.all.map fun action => [action]) rules)) ∧
    ∀ before rules others after : List Rule, rules.Perm others →
      (∀ rule ∈ rules, ∀ other ∈ rules, ¬ rule.Conflicts other) →
      Rule.Interchangeable (before ++ rules ++ after) (before ++ others ++ after) := by
  have hbuckets : ∀ {κ : Type} [DecidableEq κ] (key : Rule → κ) (keys : List κ) (rules : List Rule),
      keys.Nodup → (∀ rule ∈ rules, key rule ∈ keys) →
      (∀ rule ∈ rules, ∀ other ∈ rules, rule.Conflicts other → key rule = key other) →
      Rule.Interchangeable rules (Rule.buckets key keys rules) := by
    intro κ _ key keys rules hkeys hall hshared
    exact (Rule.Rearrangement.ofBuckets hkeys hall hshared).sameRulings.interchangeable
  refine ⟨fun arranged => arranged.sameRulings.interchangeable, hbuckets, ?_, ?_, ?_⟩
  · intro rules hconcrete
    refine hbuckets _ _ _ (by decide) (fun rule _ => rule.subject.mem_every) ?_
    intro rule hrule other hother hconflict
    exact hconflict.subject_eq (hconcrete rule hrule) (hconcrete other hother)
  · intro rules hsingle
    refine hbuckets _ _ _ (by decide) ?_ ?_
    · intro rule hrule
      obtain ⟨listed, -, hlisted⟩ := hsingle rule hrule
      exact List.mem_map.2 ⟨listed, listed.mem_all, hlisted.symm⟩
    · intro rule hrule other hother hconflict
      exact hconflict.actions_eq (hsingle rule hrule) (hsingle other hother)
  · intro before rules others after hperm hfree
    exact ((Rule.sameRulings_of_perm hperm hfree).replace before after).interchangeable

/-- A clerk may do anything but touch locked projects and export billing. Two grants that change
nothing come last, and may come first: another rule then decides, with the same answer. The rules of
a guest may be put into buckets, by type or by action, and two grants to the clerk may be swapped
where they stand. -/
theorem reordered_clerk :
    let full : Rule := .can [.manage] .all
    let locked : Rule := .cannotIf [.update, .delete] (Kind.project) (.equals "locked" (.bool true))
    let sealed : Rule := .cannot [.export] (Kind.billing)
    let project : Rule := .can [.get, .create] (Kind.project)
    let billing : Rule := .can [.get, .update] (Kind.billing)
    let clerk := [full, locked, sealed, project, billing]
    let sorted := [project, billing, full, sealed, locked]
    let view : Rule := .can [.get] (Kind.project)
    let own : Rule := .canIf [.update] (Kind.user) (.ownedBy "u1")
    let hidden : Rule := .cannotIf [.get] (Kind.project) (.equals "hidden" (.bool true))
    let guest := [view, own, hidden, .can [.get] (Kind.user)]
    Nonempty (Rule.Rearrangement clerk sorted) ∧
      (Ability.mk clerk .default).relevantRule? .get (.tag (Kind.project)) = some project ∧
      (Ability.mk sorted .default).relevantRule? .get (.tag (Kind.project)) = some full ∧
      Rule.Interchangeable clerk sorted ∧
      Rule.Interchangeable guest [own, .can [.get] (Kind.user), view, hidden] ∧
      Rule.Interchangeable guest [view, hidden, .can [.get] (Kind.user), own] ∧
      Rule.Interchangeable ([sealed] ++ [full, project] ++ [locked])
        ([sealed] ++ [project, full] ++ [locked]) := by
  intro full locked sealed project billing clerk sorted view own hidden guest
  obtain ⟨hrearranged, -, htypes, hactions, hpermuted⟩ := reordering_safe
  have arranged : Rule.Rearrangement clerk sorted :=
    { order := [3, 4, 0, 2, 1]
      perm := by decide
      others_eq := rfl
      keeps := by decide }
  have hsingle : ∀ rule ∈ guest, ∃ listed, listed ≠ .manage ∧ rule.actions = [listed] := by
    simp [guest, view, own, hidden, Rule.can, Rule.canIf, Rule.cannotIf, Rule.cannot, Rule.of,
      Rule.distinct, Rule.withCondition]
  exact ⟨⟨arranged⟩, rfl, rfl, hrearranged arranged, htypes guest (by decide),
    hactions guest hsingle, hpermuted [sealed] _ _ [locked] (List.Perm.swap project full [])
      (by decide)⟩

end OrgAccess
