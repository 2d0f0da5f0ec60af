import OrgAccess.Proofs.Policy.Candidates

/-!
# The attributes that count for a decision

A decision about a record rests on the attributes that are read by the conditions of the rules for
the action on the kind (`Ability.fieldsFor`), and on no others: two records of one kind that agree
on them are decided by the same rule and with the same answer, so an attribute that is not read may
be set, changed or taken away (`decided_by_fields_read`). To agree on an attribute is to be without
it both, or to have it both with values that are equal as conditions compare them; an attribute that
is missing is unlike one that is null.
-/

namespace OrgAccess

namespace Json.Members

/-- The map without some of the keys. -/
def without (members : Members) (removed : String → Bool) : Members :=
  ⟨members.entries.filter fun entry => !removed entry.1, members.sorted.filter _⟩

/-- Keys that are removed have no value, and all others have theirs. -/
theorem get?_without (members : Members) (removed : String → Bool) (key : String) :
    (members.without removed).get? key = if removed key then none else members.get? key := by
  refine (lookup_filter (fun key => !removed key) key members.entries).trans ?_
  cases removed key <;> rfl

/-- Removing keys undoes the setting of one of them and commutes with that of any other. -/
theorem without_insert (members : Members) (removed : String → Bool) (key : String)
    (value : Json) :
    (members.insert key value).without removed =
      if removed key then members.without removed
      else (members.without removed).insert key value := by
  apply ext
  intro other
  rw [get?_without, get?_insert, apply_ite (get? · other), get?_insert, get?_without]
  by_cases hkey : other = key
  · subst hkey
    cases removed other <;> simp
  · simp [hkey]

/-- Removing keys commutes with setting members, once those under the keys are left out. -/
theorem without_insertAll (members : Members) (removed : String → Bool)
    (list : List (String × Json)) :
    (members.insertAll list).without removed =
      (members.without removed).insertAll (list.filter fun entry => !removed entry.1) := by
  induction list generalizing members with
  | nil => rfl
  | cons head rest ih =>
      obtain ⟨key, value⟩ := head
      have hset : members.insertAll ((key, value) :: rest) =
          (members.insert key value).insertAll rest := rfl
      rw [hset, ih, without_insert, List.filter_cons]
      cases removed key <;> rfl

/-- Leaving keys out of a list leaves them out of its map. -/
theorem ofList_filter (list : List (String × Json)) (removed : String → Bool) :
    ofList (list.filter fun entry => !removed entry.1) = (ofList list).without removed :=
  (without_insertAll empty removed list).symm

end Json.Members

namespace Subject

/-- The subject without some of the attributes. -/
def without (subject : Subject) (removed : String → Bool) : Subject :=
  { subject with attributes := subject.attributes.without removed }

/-- The kind of a subject is not one of the attributes that are removed. -/
@[simp] theorem kind_without (subject : Subject) (removed : String → Bool) :
    (subject.without removed).kind = subject.kind := rfl

/-- Attributes that are removed are missing, and all others are as they were. -/
theorem attribute?_without (subject : Subject) (removed : String → Bool) (key : String) :
    (subject.without removed).attribute? key =
      if removed key then none else subject.attribute? key :=
  Json.Members.get?_without subject.attributes removed key

/-- Two subjects agree on an attribute when neither has it or both have it with equal values. -/
def AgreeOn (a b : Subject) (key : String) : Prop :=
  Option.Rel (fun value other => (value == other) = true) (a.attribute? key) (b.attribute? key)

/-- Subjects with the same value of an attribute agree on it. -/
theorem agreeOn_of_eq {a b : Subject} {key : String} (h : a.attribute? key = b.attribute? key) :
    a.AgreeOn b key := by
  unfold AgreeOn
  rw [h]
  cases b.attribute? key with
  | none => exact .none
  | some value => exact .some BEq.rfl

end Subject

/-! ## What a condition sees of a record -/

namespace Condition

/-- A condition does not tell equal values apart. -/
theorem accepts_congr (condition : Condition) {value other : Json} (h : (value == other) = true) :
    condition.accepts value = condition.accepts other := by
  cases condition with
  | equals field expected => exact BEq.congr_left h
  | differs field expected => exact congrArg (!·) (BEq.congr_left h)
  | oneOf field expected => exact List.contains_congr h

/-- A condition is the same for subjects that agree on the attribute that it reads. -/
theorem isMatch_congr {condition : Condition} {a b : Subject}
    (h : a.AgreeOn b condition.field) : condition.isMatch a = condition.isMatch b := by
  unfold Subject.AgreeOn at h
  unfold isMatch
  generalize a.attribute? condition.field = value at h
  generalize b.attribute? condition.field = other at h
  cases h with
  | none => rfl
  | some hsame => exact condition.accepts_congr hsame

end Condition

/-- A rule matches both or neither of two subjects of one kind that agree on what its condition
reads. -/
theorem Rule.isMatch_record_congr {rule : Rule} {action : Action} {a b : Subject}
    (hkind : a.kind = b.kind)
    (hfield : ∀ condition, rule.condition = some condition → a.AgreeOn b condition.field) :
    rule.isMatch action (.record a) = rule.isMatch action (.record b) := by
  have htype : (Target.record a).subjectType = (Target.record b).subjectType :=
    congrArg SubjectType.of hkind
  unfold isMatch
  rw [htype]
  congr 1
  cases hcondition : rule.condition with
  | none => rfl
  | some condition => exact Condition.isMatch_congr (hfield condition hcondition)

namespace Ability

variable {ability : Ability}

/-- Two targets are decided alike when one rule decides both and the answer is the same. -/
def DecidesAlike (ability : Ability) (action : Action) (target other : Target) : Prop :=
  ability.relevantRule? action target = ability.relevantRule? action other ∧
    ability.can action target = ability.can action other

/-- Targets that the same rules match are decided alike. -/
theorem decidesAlike_of_isMatch {action : Action} {target other : Target}
    (h : ∀ rule ∈ ability.rules, rule.isMatch action target = rule.isMatch action other) :
    ability.DecidesAlike action target other := by
  apply decide_alike
  rw [Rule.candidates_eq, Rule.candidates_eq, List.filter_congr h]

/-- The attributes that the conditions of the rules for an action on a type read. -/
def fieldsFor (ability : Ability) (action : Action) (type : SubjectType) : List String :=
  (ability.rulesFor action type).filterMap fun rule => rule.condition.map Condition.field

/-- What the condition of a rule reads is among the attributes read for the rule's queries. -/
theorem mem_fieldsFor {rule : Rule} {action : Action} {type : SubjectType} {condition : Condition}
    (hrule : rule ∈ ability.rules) (happlies : rule.appliesTo action type = true)
    (hcondition : rule.condition = some condition) :
    condition.field ∈ ability.fieldsFor action type := by
  refine List.mem_filterMap.2 ⟨rule, List.mem_filter.2 ⟨hrule, happlies⟩, ?_⟩
  rw [hcondition]
  rfl

/-- Subjects of one kind that agree on what is read are decided alike. -/
theorem decidesAlike_of_agreeOn {action : Action} {a b : Subject} (hkind : a.kind = b.kind)
    (hagree : ∀ key ∈ ability.fieldsFor action a.kind, a.AgreeOn b key) :
    ability.DecidesAlike action (.record a) (.record b) := by
  apply decidesAlike_of_isMatch
  intro rule hrule
  by_cases happlies : rule.appliesTo action a.kind = true
  · apply Rule.isMatch_record_congr hkind
    intro condition hcondition
    exact hagree condition.field (mem_fieldsFor hrule happlies hcondition)
  · -- the condition of a rule for something else is not asked
    have hother : rule.appliesTo action b.kind ≠ true := hkind ▸ happlies
    simp [Rule.isMatch, Target.subjectType, happlies, hother]

end Ability

/-- Decisions rest on the attributes that rules read. Of two records of one kind that agree on every
attribute which a rule for the action on that kind reads, the same rule decides both, with the same
answer. So no other attribute, be it set, changed or taken away, ever makes a difference. -/
theorem decided_by_fields_read (ability : Ability) (action : Action) :
    (∀ a b : Subject, a.kind = b.kind →
      (∀ key ∈ ability.fieldsFor action a.kind, a.AgreeOn b key) →
      ability.DecidesAlike action (.record a) (.record b)) ∧
    ∀ subject : Subject,
      (∀ key value, key ∉ ability.fieldsFor action subject.kind →
        ability.DecidesAlike action (.record (subject.withAttribute key value))
          (.record subject)) ∧
      ∀ removed : String → Bool,
        (∀ key ∈ ability.fieldsFor action subject.kind, removed key = false) →
        ability.DecidesAlike action (.record (subject.without removed)) (.record subject) := by
  refine ⟨fun a b => Ability.decidesAlike_of_agreeOn, fun subject => ⟨?_, ?_⟩⟩
  · intro key value hunread
    refine Ability.decidesAlike_of_agreeOn rfl fun read hread => Subject.agreeOn_of_eq ?_
    rw [Subject.attribute?_withAttribute, if_neg]
    rintro rfl
    exact hunread hread
  · intro removed hkept
    refine Ability.decidesAlike_of_agreeOn rfl fun read hread => Subject.agreeOn_of_eq ?_
    rw [Subject.attribute?_without, hkept read hread]
    rfl

/-- Zero has two signs but is one number: of two organizations that rank nought the denial decides
both, though a slug, which rules read of projects only, sets them apart. Without the rank it does
not apply. -/
theorem decidesAlike_noughts :
    let ability : Ability :=
      ⟨[.can [.get] .all, .cannotIf [.manage] .all (.oneOf "rank" [.double (.zero false)]),
        .canIf [.get] (Kind.project) (.differs "slug" .null)], .default⟩
    let plain := Subject.bare .organization
    let a := plain.withAttribute "rank" (.double (.zero false))
    let b := (plain.withAttribute "rank" (.double (.zero true))).withAttribute "slug" .null
    ability.fieldsFor .get (Kind.organization) = ["rank"] ∧ a.AgreeOn b "rank" ∧
      ability.DecidesAlike .get (.record a) (.record b) ∧
      ability.can .get (.record b) = false ∧
      ability.DecidesAlike .get (.record (b.withAttribute "slug" (.string "acme"))) (.record b) ∧
      ability.DecidesAlike .get (.record (b.without (· == "slug"))) (.record b) ∧
      ability.can .get (.record (b.without (· == "rank"))) = true := by
  intro ability plain a b
  have hfields : ability.fieldsFor .get (Kind.organization) = ["rank"] := by decide
  have hread : ∀ key ∈ ability.fieldsFor .get (Kind.organization), key = "rank" := by
    simp [hfields]
  have hagree : a.AgreeOn b "rank" := .some (by decide)
  obtain ⟨halike, hother⟩ := decided_by_fields_read ability .get
  obtain ⟨hset, hremoved⟩ := hother b
  refine ⟨hfields, hagree, halike a b rfl ?_, by decide, hset "slug" _ ?_, hremoved _ ?_, by decide⟩
  · intro key hkey
    obtain rfl := hread key hkey
    exact hagree
  · intro hslug
    exact absurd (hread "slug" hslug) (by decide)
  · intro key hkey
    obtain rfl := hread key hkey
    decide

end OrgAccess
