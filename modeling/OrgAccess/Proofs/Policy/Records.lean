import Mathlib.Data.List.Basic
import OrgAccess.Proofs.Policy.StandardRoles

/-!
# Records that subjects are written as

A subject is written with its kind as one member among its attributes, and read back by that member.
What comes back is the subject unless an attribute has the same key: that attribute then takes the
place of the kind, so the record is read as of the kind that it names, without the attribute, or not
at all (`Subject.resolve_toJson`). So a check of the record is the check of the subject exactly when
the discriminant is not shadowed (`raw_checks_agree`).
-/

namespace OrgAccess

/-- A kind is read back from its name. -/
theorem SubjectType.ofText?_name (kind : Kind) : ofText? kind.name = some (.of kind) := by
  cases kind <;> decide

namespace Subject

/-- The members of a written subject are its attributes, and its kind unless an attribute has that
key. -/
theorem get?_ofList_members (subject : Subject) (key : String) :
    (Json.Members.ofList subject.members).get? key =
      (subject.attribute? key).or
        (if key = discriminantKey then some (.string subject.kind.name) else none) := by
  -- the kind is set first, so an attribute with its key replaces it
  have hset : Json.Members.ofList subject.members =
      (Json.Members.empty.insert discriminantKey (.string subject.kind.name)).insertAll
        subject.attributes.entries := rfl
  rw [hset, Json.Members.get?_insertAll _ subject.attributes.nodup_keys, Json.Members.get?_insert]
  rfl

/-- Without the key of the kind what is left are the attributes without that key. -/
theorem erase_ofList_members (subject : Subject) :
    (Json.Members.ofList subject.members).erase discriminantKey =
      subject.attributes.erase discriminantKey := by
  apply Json.Members.ext
  intro key
  rw [Json.Members.get?_erase, Json.Members.get?_erase, get?_ofList_members]
  split
  · rfl
  · exact Option.or_none

/-- Removing the key of the type from attributes that do not have it changes nothing. -/
theorem erase_attributes_of_unshadowed {subject : Subject}
    (hfree : subject.attribute? discriminantKey = none) :
    subject.attributes.erase discriminantKey = subject.attributes := by
  apply Json.Members.ext
  intro key
  rw [Json.Members.get?_erase]
  split
  · next hkey =>
    rw [hkey]
    exact hfree.symm
  · rfl

/-- The kind that a written subject is read with: its own, or the one that an attribute in the place
of the kind names. -/
theorem kindOf_ofList_members (subject : Subject) :
    Discriminant.default.kindOf (Json.Members.ofList subject.members) =
      match subject.attribute? discriminantKey with
      | none => .ok subject.kind
      | some _ => Discriminant.default.kindOf subject.attributes := by
  unfold Discriminant.kindOf
  rw [show Discriminant.default.field = discriminantKey from rfl, get?_ofList_members, if_pos rfl,
    show subject.attributes.get? discriminantKey = subject.attribute? discriminantKey from rfl]
  cases subject.attribute? discriminantKey with
  | none => simp only [Option.none_or, SubjectType.ofText?_name]
  | some value => rfl

/-- What a written subject is read as: the subject, or, where an attribute has the key of the kind,
a subject of the kind that the attribute names, without it. -/
theorem resolve_toJson (subject : Subject) :
    Discriminant.default.resolve subject.toJson =
      match subject.attribute? discriminantKey with
      | none => .ok subject
      | some _ => (Discriminant.default.kindOf subject.attributes).map fun kind =>
          ⟨kind, subject.attributes.erase discriminantKey⟩ := by
  have hresolve : Discriminant.default.resolve subject.toJson =
      (Discriminant.default.kindOf (Json.Members.ofList subject.members)).map fun kind =>
        ⟨kind, subject.attributes.erase discriminantKey⟩ := by
    simp only [toJson, Json.Members.toJson, Discriminant.resolve, Json.Members.ofList_entries]
    rw [← erase_ofList_members]
    cases Discriminant.default.kindOf (Json.Members.ofList subject.members) <;> rfl
  rw [hresolve, kindOf_ofList_members]
  cases hshadow : subject.attribute? discriminantKey with
  | none =>
      dsimp only [Except.map]
      rw [erase_attributes_of_unshadowed hshadow]
  | some value => rfl

/-- The key of the kind is never that of an attribute of what is read. -/
theorem attribute?_of_resolve_eq_ok {record : Json} {subject : Subject}
    (h : Discriminant.default.resolve record = .ok subject) :
    subject.attribute? discriminantKey = none := by
  unfold Discriminant.resolve at h
  split at h
  · next list =>
    dsimp only at h
    split at h
    · obtain rfl := Except.ok.inj h
      exact (Json.Members.get?_erase _ _ _).trans (if_pos rfl)
    · cases h
  · cases h

end Subject

/-- A raw record is checked as the subject that it was written from, exactly when no attribute has
the key of the kind. The record is read back as the same subject if and only if the subject has no
such attribute; what is read never has one, so it differs from a subject that does. And an ability
with the default discriminant then answers for the record what it answers for the subject. -/
theorem raw_checks_agree (subject : Subject) :
    (Discriminant.default.resolve subject.toJson = .ok subject ↔
      subject.attribute? discriminantKey = none) ∧
    (∀ resolved, Discriminant.default.resolve subject.toJson = .ok resolved →
      resolved.attribute? discriminantKey = none) ∧
    (subject.attribute? discriminantKey = none →
      ∀ ability : Ability, ability.discriminant = .default → ∀ action : Action,
        ability.tryCan action subject.toJson = .ok (ability.can action (.record subject)) ∧
        ability.tryCannot action subject.toJson =
          .ok (ability.cannot action (.record subject))) := by
  have hread : subject.attribute? discriminantKey = none →
      Discriminant.default.resolve subject.toJson = .ok subject := by
    intro hfree
    rw [Subject.resolve_toJson, hfree]
  refine ⟨⟨Subject.attribute?_of_resolve_eq_ok, hread⟩,
    fun resolved => Subject.attribute?_of_resolve_eq_ok, ?_⟩
  intro hfree ability hdefault action
  have hcan : ability.tryCan action subject.toJson =
      .ok (ability.can action (.record subject)) := by
    rw [Ability.tryCan, Ability.resolve, hdefault, hread hfree]
    rfl
  refine ⟨hcan, ?_⟩
  rw [Ability.tryCannot, hcan]
  rfl

/-- A project with an attribute in the place of its kind is read as a billing account, so that the
billing role may delete the record and not the project. -/
theorem retyped_project :
    let ability : Ability := ⟨Permissions.billing ⟨"u1", .billing⟩, .default⟩
    let plain := Subject.ownedBy .project "u1"
    let shadowed := plain.withAttribute discriminantKey (.string "BILLING")
    plain.attribute? discriminantKey = none ∧
      ability.tryCan .delete plain.toJson = .ok (ability.can .delete (.record plain)) ∧
      Discriminant.default.resolve shadowed.toJson ≠ .ok shadowed ∧
      ability.can .delete (.record shadowed) = false ∧
      ability.tryCan .delete shadowed.toJson = .ok true := by
  intro ability plain shadowed
  have hfree : plain.attribute? discriminantKey = none := rfl
  have hshadow : shadowed.attribute? discriminantKey ≠ none := by
    rw [Subject.attribute?_withAttribute, if_pos rfl]
    exact Option.some_ne_none _
  refine ⟨hfree, ((raw_checks_agree plain).2.2 hfree ability rfl .delete).1, ?_, ?_, ?_⟩
  · exact mt (raw_checks_agree shadowed).1.1 hshadow
  · decide
  · decide

end OrgAccess
