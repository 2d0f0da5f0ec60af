import OrgAccess.Proofs.Policy.Attributes
import OrgAccess.Proofs.Policy.StandardRoles
import OrgAccess.Proofs.Policy.Typing

/-!
# Answers that carry over

When an answer of yes to one query settles another: every grant that matches the first has to match
the second, and every denial that matches the second has to match the first, wherever in the list
they stand (`Ability.can_of_can`). So rules whose denials have no conditions allow on a record all
that they allow on it without some of its attributes (`removal_never_allows`), and on every record
of a type what they allow on the bare type (`Ability.can_of_can_tag`). Where every denial lists
`manage`, to be allowed `manage` is to be allowed every action; and where every denial is on `all`
and without a condition, what is allowed on `all` is allowed on everything
(`wildcard_queries_strongest`).
-/

namespace OrgAccess

/-- An answer of yes carries over from a query to another that is matched by every grant which
matches the first, and by no denial that does not match the first. -/
theorem Ability.can_of_can {ability : Ability} {action other : Action} {target another : Target}
    (hgrants : ∀ rule ∈ ability.rules, rule.effect = .grant →
      rule.isMatch action target = true → rule.isMatch other another = true)
    (hdenials : ∀ rule ∈ ability.rules, rule.effect = .deny →
      rule.isMatch other another = true → rule.isMatch action target = true)
    (hcan : ability.can action target = true) : ability.can other another = true := by
  obtain ⟨rules, discriminant⟩ := ability
  induction rules using List.reverseRecOn with
  | nil => exact hcan
  | append_singleton rules rule ih =>
      have hearlier : (Ability.mk rules discriminant).can action target = true →
          (Ability.mk rules discriminant).can other another = true :=
        ih (fun rule hrule => hgrants rule (List.mem_append_left _ hrule))
          fun rule hrule => hdenials rule (List.mem_append_left _ hrule)
      have hlast : rule ∈ rules ++ [rule] := List.mem_append_right _ (List.mem_singleton.2 rfl)
      rw [can_concat] at hcan ⊢
      cases heffect : rule.effect with
      | grant =>
          by_cases hother : rule.isMatch other another = true
          · rw [if_pos hother]
            rfl
          · rw [if_neg hother]
            rw [if_neg (mt (hgrants rule hlast heffect) hother)] at hcan
            exact hearlier hcan
      | deny =>
          by_cases hmatch : rule.isMatch action target = true
          · -- the denial decides the first query, which was allowed
            rw [if_pos hmatch, heffect] at hcan
            cases hcan
          · rw [if_neg (mt (hdenials rule hlast heffect) hmatch)]
            rw [if_neg hmatch] at hcan
            exact hearlier hcan

/-! ## Missing attributes -/

/-- A condition that holds of a subject without some attributes holds of the subject. -/
theorem Condition.isMatch_of_without {condition : Condition} {subject : Subject}
    {removed : String → Bool} (h : condition.isMatch (subject.without removed) = true) :
    condition.isMatch subject = true := by
  rw [isMatch_iff] at h ⊢
  obtain ⟨actual, hattribute, haccepts⟩ := h
  rw [Subject.attribute?_without] at hattribute
  split at hattribute
  · cases hattribute
  · exact ⟨actual, hattribute, haccepts⟩

namespace Rule

variable {rule : Rule} {action : Action} {target : Target}

/-- A rule that matches a record without some of its attributes matches the whole record. -/
theorem isMatch_of_without {subject : Subject} {removed : String → Bool}
    (h : rule.isMatch action (.record (subject.without removed)) = true) :
    rule.isMatch action (.record subject) = true := by
  rw [isMatch, Bool.and_eq_true] at h ⊢
  refine ⟨h.1, ?_⟩
  cases hcondition : rule.condition with
  | none => rfl
  | some condition =>
      rw [hcondition] at h
      exact Condition.isMatch_of_without h.2

/-- On a bare type a rule matches what it matches on the subject without attributes: a condition
that is not asked is a condition that does not hold. -/
theorem isMatch_tag (rule : Rule) (action : Action) (kind : Kind) :
    rule.isMatch action (.tag kind) = rule.isMatch action (.record (.bare kind)) := by
  unfold isMatch
  congr 1
  cases rule.condition with
  | none => rfl
  | some condition =>
      show false = condition.isMatch (.bare kind)
      exact (Condition.isMatch_of_attribute?_eq_none rfl).symm

/-- A rule is unconditional when it has no condition. -/
theorem isConditional_eq_false_iff : rule.isConditional = false ↔ rule.condition = none := by
  simp [isConditional]

/-- No rule of a list that denies has a condition. -/
def PlainDenials (rules : List Rule) : Prop :=
  ∀ rule ∈ rules, rule.isInverted = true → rule.isConditional = false

/-- Whether all denials are plain is seen by looking at each rule. -/
instance (rules : List Rule) : Decidable (PlainDenials rules) :=
  inferInstanceAs (Decidable (∀ rule ∈ rules, _))

/-- A denial among plain denials has no condition. -/
theorem PlainDenials.condition_eq_none {rules : List Rule} (hplain : PlainDenials rules)
    (hrule : rule ∈ rules) (hdeny : rule.effect = .deny) : rule.condition = none :=
  isConditional_eq_false_iff.1 (hplain rule hrule (decide_eq_true hdeny))

end Rule

namespace Ability

variable {ability : Ability} {action : Action} {subject : Subject}

/-- What is allowed on a subject without some attributes is allowed on the subject. -/
theorem can_of_can_without (hplain : Rule.PlainDenials ability.rules) {removed : String → Bool}
    (hcan : ability.can action (.record (subject.without removed)) = true) :
    ability.can action (.record subject) = true := by
  refine can_of_can ?_ ?_ hcan
  · intro rule _ _
    exact Rule.isMatch_of_without
  · intro rule hrule hdeny hmatch
    -- a denial matches by the kind alone
    have hcondition := hplain.condition_eq_none hrule hdeny
    rw [Rule.isMatch_record_congr (subject.kind_without removed)]
    · exact hmatch
    · intro condition hsome
      cases hcondition.symm.trans hsome

/-- A bare type is decided as the subject of the type without attributes. -/
theorem decidesAlike_tag (ability : Ability) (action : Action) (kind : Kind) :
    ability.DecidesAlike action (.tag kind) (.record (.bare kind)) :=
  decidesAlike_of_isMatch fun rule _ => rule.isMatch_tag action kind

/-- What is allowed on the bare type is allowed on every subject of it. -/
theorem can_of_can_tag (hplain : Rule.PlainDenials ability.rules)
    (hcan : ability.can action (.tag subject.kind) = true) :
    ability.can action (.record subject) = true := by
  have hbare : Subject.bare subject.kind = subject.without fun _ => true :=
    Subject.ext rfl fun key => (subject.attribute?_without (fun _ => true) key).symm
  rw [(decidesAlike_tag ability action subject.kind).2, hbare] at hcan
  exact can_of_can_without hplain hcan

end Ability

/-- The subject that a record with members missing describes is the one that the full record
describes, without these attributes. -/
theorem Discriminant.Describes.of_filter {discriminant : Discriminant}
    {list : List (String × Json)} {removed : String → Bool} {part : Subject}
    (h : discriminant.Describes (.object (list.filter fun member => !removed member.1)) part) :
    ∃ subject, discriminant.Describes (.object list) subject ∧ part = subject.without removed := by
  obtain @⟨_, _, text, hmember, hkind, hattributes⟩ := h
  rw [Json.Members.ofList_filter] at hmember hattributes
  rw [Json.Members.get?_without] at hmember
  split at hmember
  · cases hmember
  · let subject : Subject := ⟨part.kind, (Json.Members.ofList list).erase discriminant.field⟩
    have hsubject : ∀ key, subject.attribute? key =
        if key = discriminant.field then none else (Json.Members.ofList list).get? key :=
      fun key => Json.Members.get?_erase _ _ key
    refine ⟨subject, .object hmember hkind hsubject, Subject.ext rfl fun key => ?_⟩
    rw [hattributes, Json.Members.get?_without, Subject.attribute?_without, hsubject]
    split_ifs <;> rfl

/-- The denials of the standard roles have no conditions. -/
theorem Permissions.plainDenials_standard (role : Role) (user : Principal) :
    Rule.PlainDenials (standard role user) := by
  cases role <;>
    simp [Rule.PlainDenials, standard, admin, member, billing, Rule.can, Rule.canIf, Rule.cannot,
      Rule.of, Rule.withCondition, Rule.isInverted, Rule.isConditional]

/-- Missing attributes never open anything. Where no denial has a condition, as in every standard
role, an action that is allowed on a record without some of its attributes is allowed on the record;
and a raw record with members missing is allowed an action only if the full one is. -/
theorem removal_never_allows :
    (∀ role user, Rule.PlainDenials (Permissions.standard role user)) ∧
    ∀ ability : Ability, Rule.PlainDenials ability.rules → ∀ (action : Action)
      (removed : String → Bool),
      (∀ subject : Subject, ability.can action (.record (subject.without removed)) = true →
        ability.can action (.record subject) = true) ∧
      ∀ list : List (String × Json),
        ability.tryCan action (.object (list.filter fun member => !removed member.1)) = .ok true →
        ability.tryCan action (.object list) = .ok true := by
  refine ⟨Permissions.plainDenials_standard, fun ability hplain action removed => ⟨?_, ?_⟩⟩
  · intro subject
    exact Ability.can_of_can_without hplain
  · intro list hcan
    obtain ⟨part, hpart, hallowed⟩ := Ability.tryCan_eq_ok_iff.1 hcan
    obtain ⟨subject, hsubject, rfl⟩ := (Discriminant.resolve_eq_ok_iff.1 hpart).of_filter
    exact Ability.tryCan_eq_ok_iff.2
      ⟨subject, hsubject.resolve_eq, Ability.can_of_can_without hplain hallowed⟩

/-- An owner may delete a draft, as a draft and, with its status missing, as the owner: another rule
decides, with the same answer, on the subject and on the raw record. -/
theorem allowed_without_status :
    let ability : Ability :=
      ⟨[.can [.manage] .all, .cannot [.delete] (Kind.project),
        .canIf [.delete] (Kind.project) (.ownedBy "u1"),
        .canIf [.delete] (Kind.project) (.oneOf "status" [.null, .string "draft"])], .default⟩
    let draft := (Subject.ownedBy .project "u1").withAttribute "status" (.string "draft")
    let list := (discriminantKey, .string "PROJECT") :: draft.attributes.entries
    Rule.PlainDenials ability.rules ∧
      ability.can .delete (.record (draft.without (· == "status"))) = true ∧
      ability.can .delete (.record draft) = true ∧
      ability.tryCan .delete (.object (list.filter fun member => !(member.1 == "status"))) =
        .ok true ∧
      ability.tryCan .delete (.object list) = .ok true := by
  intro ability draft list
  have hplain : Rule.PlainDenials ability.rules := by decide
  obtain ⟨hsubject, hrecord⟩ :=
    removal_never_allows.2 ability hplain .delete fun key => key == "status"
  have hpart : ability.can .delete (.record (draft.without (· == "status"))) = true := by decide
  have hraw : ability.tryCan .delete
      (.object (list.filter fun member => !(member.1 == "status"))) = .ok true := by decide
  exact ⟨hplain, hpart, hsubject draft hpart, hraw, hrecord list hraw⟩

/-- A denial with a condition is passed over where its attribute is missing. -/
example :
    let ability : Ability :=
      ⟨[.can [.delete] (Kind.project),
        .cannotIf [.delete] (Kind.project) (.equals "locked" (.bool true))], .default⟩
    let locked := (Subject.bare .project).withAttribute "locked" (.bool true)
    ability.can .delete (.record (locked.without (· == "locked"))) = true ∧
      ability.can .delete (.record locked) = false := by
  decide

/-! ## Wildcards -/

namespace Rule

variable {rule : Rule} {action : Action} {target : Target}

/-- A rule that matches the action which stands for all matches every action. -/
theorem isMatch_of_manage (h : rule.isMatch .manage target = true) (action : Action) :
    rule.isMatch action target = true := by
  rw [isMatch_iff_counts] at h ⊢
  obtain ⟨hon, hlists, hadmits⟩ := h
  exact ⟨hon, .inr (hlists.elim id id), hadmits⟩

/-- A rule that lists `manage` matches the query for it wherever it matches another. -/
theorem isMatch_manage (hmanage : .manage ∈ rule.actions)
    (h : rule.isMatch action target = true) : rule.isMatch .manage target = true := by
  rw [isMatch_iff_counts] at h ⊢
  exact ⟨h.1, .inl hmanage, h.2.2⟩

/-- A rule that matches the type which stands for all matches every target. -/
theorem isMatch_of_tag_all (h : rule.isMatch action (.tag .all) = true) (target : Target) :
    rule.isMatch action target = true := by
  rw [isMatch_iff_counts] at h ⊢
  obtain ⟨hon, hlists, hplain | ⟨_, _, _, hrecord, _⟩⟩ := h
  · exact ⟨.inr (hon.elim id id), hlists, .inl hplain⟩
  · cases hrecord

/-- A plain rule on everything that matches some target matches the bare type of everything. -/
theorem isMatch_tag_all (hplain : rule.condition = none) (hall : rule.subject = .all)
    (h : rule.isMatch action target = true) : rule.isMatch action (.tag .all) = true := by
  rw [isMatch_iff_counts] at h ⊢
  exact ⟨.inl hall, h.2.1, .inl hplain⟩

end Rule

/-- A query for a wildcard is at least as strong as any for which it stands. Where every denial
lists `manage`, what `manage` is allowed on a target every action is; and where every denial is on
`all` and without a condition, an action that the bare type `all` is allowed is allowed on every
type and every record. -/
theorem wildcard_queries_strongest (ability : Ability) :
    ((∀ rule ∈ ability.rules, rule.isInverted = true → .manage ∈ rule.actions) →
      ∀ target, ability.can .manage target = true →
        ∀ action, ability.can action target = true) ∧
    ((∀ rule ∈ ability.rules, rule.isInverted = true →
        rule.isConditional = false ∧ rule.subject = .all) →
      ∀ action, ability.can action (.tag .all) = true →
        ∀ target, ability.can action target = true) := by
  constructor
  · intro hdenials target hcan action
    refine Ability.can_of_can ?_ ?_ hcan
    · intro rule _ _ hmatch
      exact Rule.isMatch_of_manage hmatch action
    · intro rule hrule hdeny
      exact Rule.isMatch_manage (hdenials rule hrule (decide_eq_true hdeny))
  · intro hdenials action hcan target
    refine Ability.can_of_can ?_ ?_ hcan
    · intro rule _ _ hmatch
      exact Rule.isMatch_of_tag_all hmatch target
    · intro rule hrule hdeny
      obtain ⟨hplain, hall⟩ := hdenials rule hrule (decide_eq_true hdeny)
      exact Rule.isMatch_tag_all (Rule.isConditional_eq_false_iff.1 hplain) hall

/-- A keeper who may manage a project that is not locked may export it, though a denial speaks of
locked ones; and a clerk to whom exports are denied, and later granted again, everywhere may export
an invite. -/
theorem exported_by_wildcards :
    let keeper : Ability :=
      ⟨[.can [.manage] .all,
        .cannotIf [.delete, .manage] (Kind.project) (.equals "locked" (.bool true)),
        .can [.get] (Kind.project)], .default⟩
    let project := (Subject.bare .project).withAttribute "locked" (.bool false)
    let clerk : Ability :=
      ⟨[.can [.manage] (Kind.user), .cannot [.export] .all, .can [.get, .export] .all,
        .canIf [.delete] (Kind.invite) (.ownedBy "u1")], .default⟩
    let invite := Subject.ownedBy .invite "u2"
    (∀ rule ∈ keeper.rules, rule.isInverted = true → .manage ∈ rule.actions) ∧
      keeper.can .manage (.record project) = true ∧ keeper.can .export (.record project) = true ∧
      (∀ rule ∈ clerk.rules, rule.isInverted = true →
        rule.isConditional = false ∧ rule.subject = .all) ∧
      clerk.can .export (.tag .all) = true ∧ clerk.can .export (.record invite) = true := by
  intro keeper project clerk invite
  have hkeeper : ∀ rule ∈ keeper.rules, rule.isInverted = true → .manage ∈ rule.actions := by
    decide
  have hclerk : ∀ rule ∈ clerk.rules, rule.isInverted = true →
      rule.isConditional = false ∧ rule.subject = .all := by
    decide
  have hmanage : keeper.can .manage (.record project) = true := by decide
  have hall : clerk.can .export (.tag .all) = true := by decide
  exact ⟨hkeeper, hmanage, (wildcard_queries_strongest keeper).1 hkeeper _ hmanage .export,
    hclerk, hall, (wildcard_queries_strongest clerk).2 hclerk .export hall _⟩

/-- A denial of some actions alone leaves `manage` as it is: an admin may manage an organization and
not update it. -/
example :
    let ability : Ability := ⟨Permissions.admin ⟨"u1", .admin⟩, .default⟩
    ability.can .manage (.tag (Kind.organization)) = true ∧
      ability.can .update (.tag (Kind.organization)) = false := by
  decide

end OrgAccess
