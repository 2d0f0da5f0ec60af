import OrgAccess.Policy.Registry

/-!
# What raw records are typed as

A raw record describes a subject when it is an object whose member for the discriminant is a text
that names a kind; the subject is of that kind and has the other members as attributes
(`Discriminant.Describes`). Every other record is a mismatch, of which `Discriminant.Rejects` lists
the five forms. Resolving a record gives the subject or the mismatch and never falls back on
anything else about the record, and a check of a raw record is a check of that subject
(`raw_records_typed`).
-/

namespace OrgAccess

namespace Discriminant

variable {discriminant : Discriminant} {record : Json}

/-- A record is an object whose member for the discriminant names the kind of a subject, and whose
other members are the attributes of the subject. -/
inductive Describes (discriminant : Discriminant) : Json → Subject → Prop where
  | object {list : List (String × Json)} {subject : Subject} {text : String}
      (hmember : (Json.Members.ofList list).get? discriminant.field = some (.string text))
      (hkind : SubjectType.ofText? text = some (.of subject.kind))
      (hattributes : ∀ key, subject.attribute? key =
        if key = discriminant.field then none else (Json.Members.ofList list).get? key) :
      Describes discriminant (.object list) subject

/-- Why a record is not a subject. -/
inductive Rejects (discriminant : Discriminant) : Json → Mismatch → Prop where
  | notObject {record : Json} (hother : ∀ list, record ≠ .object list) :
      Rejects discriminant record (.notObject record.typeName)
  | noMember {list : List (String × Json)}
      (hmissing : (Json.Members.ofList list).get? discriminant.field = none) :
      Rejects discriminant (.object list) (.noDiscriminant discriminant.field)
  | notString {list : List (String × Json)} {value : Json}
      (hmember : (Json.Members.ofList list).get? discriminant.field = some value)
      (hother : ∀ text, value ≠ .string text) :
      Rejects discriminant (.object list)
        (.discriminantNotString discriminant.field value.typeName)
  | unknown {list : List (String × Json)} {text : String}
      (hmember : (Json.Members.ofList list).get? discriminant.field = some (.string text))
      (hunknown : SubjectType.ofText? text = none) :
      Rejects discriminant (.object list) (.unrecognized text)
  | wildcard {list : List (String × Json)} {text : String}
      (hmember : (Json.Members.ofList list).get? discriminant.field = some (.string text))
      (hall : SubjectType.ofText? text = some .all) :
      Rejects discriminant (.object list) .notConcrete

/-! ## Resolving -/

/-- An object is resolved by its kind, and what is left are its other members. -/
theorem resolve_object (discriminant : Discriminant) (list : List (String × Json)) :
    discriminant.resolve (.object list) =
      (discriminant.kindOf (.ofList list)).map fun kind =>
        ⟨kind, (Json.Members.ofList list).erase discriminant.field⟩ := by
  simp only [resolve]
  cases discriminant.kindOf (.ofList list) <;> rfl

/-- The kind of an object is a matter of one member. -/
theorem kindOf_congr {members others : Json.Members}
    (h : members.get? discriminant.field = others.get? discriminant.field) :
    discriminant.kindOf members = discriminant.kindOf others := by
  unfold kindOf
  rw [h]

/-- An object is resolved as a subject of the kind that its member names, or for the same reason not
at all. -/
theorem map_kind_resolve_object (discriminant : Discriminant) (list : List (String × Json)) :
    (discriminant.resolve (.object list)).map Subject.kind =
      discriminant.kindOf (.ofList list) := by
  rw [resolve_object]
  cases discriminant.kindOf (.ofList list) <;> rfl

/-- A record is resolved as a subject that it describes, or it is rejected for what is wrong with
it. -/
theorem resolve_cases (discriminant : Discriminant) (record : Json) :
    (∃ subject, discriminant.resolve record = .ok subject ∧
        discriminant.Describes record subject) ∨
      ∃ cause, discriminant.resolve record = .error (.typeMismatch cause) ∧
        discriminant.Rejects record cause := by
  cases record with
  | null | bool _ | integer _ | double _ | string _ | array _ =>
      exact .inr ⟨_, rfl, .notObject fun _ h => by cases h⟩
  | object list =>
      rw [resolve_object]
      unfold kindOf
      cases hmember : (Json.Members.ofList list).get? discriminant.field with
      | none => exact .inr ⟨_, rfl, .noMember hmember⟩
      | some value =>
          cases value with
          | null | bool _ | integer _ | double _ | array _ | object _ =>
              exact .inr ⟨_, rfl, .notString hmember fun _ h => by cases h⟩
          | string text =>
              dsimp only
              cases htype : SubjectType.ofText? text with
              | none => exact .inr ⟨_, rfl, .unknown hmember htype⟩
              | some type =>
                  cases type with
                  | all => exact .inr ⟨_, rfl, .wildcard hmember htype⟩
                  | of kind =>
                      refine .inl ⟨_, rfl, .object hmember htype fun key => ?_⟩
                      exact Json.Members.get?_erase _ _ _

/-- A record that describes a subject is resolved as the subject. -/
theorem Describes.resolve_eq {subject : Subject} (h : discriminant.Describes record subject) :
    discriminant.resolve record = .ok subject := by
  obtain @⟨list, _, text, hmember, hkind, hattributes⟩ := h
  have hkindOf : discriminant.kindOf (.ofList list) = .ok subject.kind := by
    unfold kindOf
    rw [hmember]
    dsimp only
    rw [hkind]
  rw [resolve_object, hkindOf]
  refine congrArg Except.ok (Subject.ext rfl fun key => ?_)
  exact (Json.Members.get?_erase _ _ _).trans (hattributes key).symm

/-- A record with something wrong is rejected for that. -/
theorem Rejects.resolve_eq {cause : Mismatch} (h : discriminant.Rejects record cause) :
    discriminant.resolve record = .error (.typeMismatch cause) := by
  cases h with
  | notObject hother =>
      cases record with
      | object list => exact absurd rfl (hother list)
      | null | bool _ | integer _ | double _ | string _ | array _ => rfl
  | noMember hmissing =>
      rw [resolve_object, kindOf, hmissing]
      rfl
  | @notString _ value hmember hother =>
      rw [resolve_object, kindOf, hmember]
      cases value with
      | string text => exact absurd rfl (hother text)
      | null | bool _ | integer _ | double _ | array _ | object _ => rfl
  | unknown hmember htype | wildcard hmember htype =>
      rw [resolve_object, kindOf, hmember]
      dsimp only
      rw [htype]
      rfl

/-- A record is resolved as the subjects that it describes and as no others. -/
theorem resolve_eq_ok_iff {subject : Subject} :
    discriminant.resolve record = .ok subject ↔ discriminant.Describes record subject := by
  refine ⟨fun h => ?_, Describes.resolve_eq⟩
  rcases discriminant.resolve_cases record with ⟨found, hfound, hdescribes⟩ | ⟨cause, hfail, -⟩
  · obtain rfl := Except.ok.inj (h.symm.trans hfound)
    exact hdescribes
  · cases h.symm.trans hfail

/-- Records fail to be subjects as mismatches and in no other way. -/
theorem resolve_eq_error_iff {fault : Fault} :
    discriminant.resolve record = .error fault ↔
      ∃ cause, fault = .typeMismatch cause ∧ discriminant.Rejects record cause := by
  constructor
  · intro h
    rcases discriminant.resolve_cases record with ⟨_, hfound, -⟩ | ⟨cause, hfail, hrejects⟩
    · cases h.symm.trans hfound
    · exact ⟨cause, Except.error.inj (h.symm.trans hfail), hrejects⟩
  · rintro ⟨cause, rfl, hrejects⟩
    exact hrejects.resolve_eq

end Discriminant

/-! ## Checking -/

/-- Mapping an answer brings no failure and hides none. -/
theorem map_eq_error_iff {ε α β : Type} {f : α → β} {answer : Except ε α} {error : ε} :
    answer.map f = .error error ↔ answer = .error error := by
  cases answer <;> simp [Except.map]

namespace Ability

variable {ability : Ability} {record : Json} {subject : Subject}

/-- A check of a raw record is answered when it is resolved, by the check of the subject. -/
theorem tryCan_eq_ok_iff {action : Action} {answer : Bool} :
    ability.tryCan action record = .ok answer ↔
      ∃ subject, ability.resolve record = .ok subject ∧
        ability.can action (.record subject) = answer := by
  unfold tryCan
  cases ability.resolve record <;> simp [Except.map]

/-- A check of a raw record is a check of the subject that it is resolved as. -/
theorem tryCan_eq_ok (h : ability.resolve record = .ok subject) (action : Action) :
    ability.tryCan action record = .ok (ability.can action (.record subject)) :=
  tryCan_eq_ok_iff.2 ⟨subject, h, rfl⟩

/-- The opposite check of a record that is resolved has the opposite answer. -/
theorem tryCannot_eq_ok (h : ability.resolve record = .ok subject) (action : Action) :
    ability.tryCannot action record = .ok (!ability.can action (.record subject)) := by
  rw [tryCannot, tryCan_eq_ok h]
  rfl

end Ability

/-- Raw records are typed by one member, or not at all. A record resolves to a subject exactly when
it is an object whose member for the discriminant is a text that names a kind; the subject is of
that kind and has exactly the other members. In every other case the answer is a mismatch that says
what is wrong, and no other fault. Nothing else in a record has a part in its kind, which is never
the type that stands for all. And whatever the rules are, checks of a raw record fail exactly as
resolving it does, and otherwise give the answer for the subject and its negation. -/
theorem raw_records_typed (ability : Ability) (record : Json) :
    let typing := ability.discriminant
    (∀ subject, ability.resolve record = .ok subject ↔ typing.Describes record subject) ∧
    (∀ fault, ability.resolve record = .error fault ↔
      ∃ cause, fault = .typeMismatch cause ∧ typing.Rejects record cause) ∧
    (∀ list others : List (String × Json),
      (Json.Members.ofList list).get? typing.field =
        (Json.Members.ofList others).get? typing.field →
      (ability.resolve (.object list)).map Subject.kind =
        (ability.resolve (.object others)).map Subject.kind) ∧
    (∀ subject : Subject, (Target.record subject).subjectType ≠ .all) ∧
    ∀ action,
      (∀ fault, ability.tryCan action record = .error fault ↔
        ability.resolve record = .error fault) ∧
      (∀ fault, ability.tryCannot action record = .error fault ↔
        ability.resolve record = .error fault) ∧
      ∀ subject, ability.resolve record = .ok subject →
        ability.tryCan action record = .ok (ability.can action (.record subject)) ∧
        ability.tryCannot action record = .ok (!ability.can action (.record subject)) := by
  intro typing
  refine ⟨fun _ => Discriminant.resolve_eq_ok_iff, fun _ => Discriminant.resolve_eq_error_iff,
    fun list others hsame => ?_, fun subject => ?_, fun action => ⟨fun fault => ?_, fun fault => ?_,
    fun subject hresolve => ?_⟩⟩
  · unfold Ability.resolve
    rw [Discriminant.map_kind_resolve_object, Discriminant.map_kind_resolve_object]
    exact Discriminant.kindOf_congr hsame
  · intro hall
    cases hall
  · exact map_eq_error_iff
  · exact map_eq_error_iff.trans map_eq_error_iff
  · exact ⟨Ability.tryCan_eq_ok hresolve action, Ability.tryCannot_eq_ok hresolve action⟩

/-- Where the owner's member is the discriminant it names the kind and is no attribute, so that the
admin whom it would name as the owner may not change the organization. -/
theorem typed_by_owner :
    let ability : Ability := ⟨Permissions.admin ⟨"ORGANIZATION", .admin⟩, ⟨ownerIdKey⟩⟩
    let plain := [(ownerIdKey, Json.string "ORGANIZATION")]
    let list := plain ++ [(discriminantKey, .string "Project")]
    let record := Json.object list
    (ability.resolve record).map Subject.kind = (ability.resolve (.object plain)).map Subject.kind ∧
      ∃ subject, ability.resolve record = .ok subject ∧ subject.kind = .organization ∧
        subject.attribute? ownerIdKey = none ∧ ability.tryCan .update record = .ok false ∧
        ability.tryCannot .update record = .ok true := by
  intro ability plain list record
  obtain ⟨hresolved, -, hkinds, -, hchecks⟩ := raw_records_typed ability record
  let subject : Subject := ⟨.organization, (Json.Members.ofList list).erase ownerIdKey⟩
  have hdescribes : ability.discriminant.Describes record subject :=
    .object rfl (by decide) fun key => Json.Members.get?_erase _ _ key
  have hresolve := (hresolved subject).2 hdescribes
  obtain ⟨hcan, hcannot⟩ := (hchecks .update).2.2 subject hresolve
  exact ⟨hkinds _ _ rfl, subject, hresolve, rfl, rfl, hcan, hcannot⟩

end OrgAccess
