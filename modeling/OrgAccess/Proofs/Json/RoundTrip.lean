import OrgAccess.Proofs.Json.Codec
import OrgAccess.Tenant.Codec

/-!
# Written forms are read back

Every value of the policy and of the records of organizations is read from the form that it is
written in, and whatever is read from another form is read again from the form that it is written
in then (`written_forms_round_trip`). A record is read field by field, so it is enough that its
members are found under the names of its fields; a condition is read as a whole, by its name
(`Condition.ofDocument?_members`). Records with instants are read back if a timestamp can tell
these, and no others are read.
-/

namespace OrgAccess

open Json (Document Members)
open Codec (ReadsBack RoundTrips)

/-! ## Names -/

/-- Every action reads back from its name. -/
@[simp] theorem Action.readsBack (action : Action) : ReadsBack action :=
  Document.named?_name action.mem_all fun _ _ => Action.name_injective

/-- Every subject type reads back from its name. -/
@[simp] theorem SubjectType.readsBack (type : SubjectType) : ReadsBack type :=
  Document.named?_name type.mem_every fun _ _ => SubjectType.name_injective

/-- Every role reads back from its name. -/
@[simp] theorem Role.readsBack (role : Role) : ReadsBack role :=
  Document.named?_name role.mem_all fun _ _ => Role.name_injective

/-- Both effects read back from their names. -/
@[simp] theorem Effect.readsBack (effect : Effect) : ReadsBack effect := by
  cases effect <;> rfl

/-- Every plan reads back from its name. -/
@[simp] theorem Plan.readsBack (plan : Plan) : ReadsBack plan := by
  cases plan <;> rfl

/-! ## The policy -/

namespace Condition

/-- An object that is written with the name first is read as the condition that the name and the
other members give. -/
theorem ofDocument?_record {tag : String} {parts : List (String × Json)}
    (hkeys : (((tagKey, .string tag) :: parts).map Prod.fst).Nodup) :
    ofDocument? (.value (Json.record ((tagKey, .string tag) :: parts))) =
      ofParts? tag (.value (Json.record ((tagKey, .string tag) :: parts))) := by
  have hitems : (Document.value (Json.record ((tagKey, .string tag) :: parts))).items? = none := rfl
  have hname : (Members.ofList ((tagKey, .string tag) :: parts)).documents.filter
      (fun member => member.1 = tagKey) = [(tagKey, .value (.string tag))] := by
    rw [Members.filter_documents, Members.get?_ofList hkeys, Members.lookup, if_pos rfl]
    rfl
  rw [ofDocument?, Document.value?_value, hitems, Json.record]
  simp only [Document.keyedMembers?_members, Option.bind_eq_bind, Option.bind_some, hname]
  rfl

/-- Every condition is read back. -/
@[simp] theorem readsBack (condition : Condition) : ReadsBack condition := by
  show ofDocument? (.value condition.toJson) = some condition
  cases condition with
  | equals field value =>
      rw [toJson, ofDocument?_record (by simp [tagKey])]
      simp [ofParts?, Json.record, Members.lookup, tagKey]
  | differs field value =>
      rw [toJson, ofDocument?_record (by simp [tagKey])]
      simp [ofParts?, Json.record, Members.lookup, tagKey]
  | oneOf field values =>
      rw [toJson, ofDocument?_record (by simp [tagKey])]
      simp [ofParts?, Json.record, Members.lookup, tagKey]

end Condition

/-- Every list of actions is read back, whichever of them it repeats. -/
@[simp] theorem Action.readsBack_list (actions : List Action) : ReadsBack actions :=
  Codec.readsBack_list fun action _ => action.readsBack

/-- Every rule is read back. -/
@[simp] theorem Rule.readsBack (rule : Rule) : ReadsBack rule := by
  obtain ⟨effect, actions, subject, condition⟩ := rule
  show Rule.ofDocument? (.value (Rule.toJson _)) = some _
  cases condition with
  | none =>
      simp [Rule.toJson, Rule.ofDocument?, Json.record, Members.lookup]
  | some condition =>
      have hcondition : ReadsBack (some condition) :=
        Codec.readsBack_option (fun _ _ => Condition.readsBack _)
          fun condition _ => by cases condition <;> rfl
      have hform : Codec.toJson (some condition) = condition.toJson := rfl
      rw [ReadsBack, hform] at hcondition
      simp [Rule.toJson, Rule.ofDocument?, Json.record, Members.lookup, hcondition]

/-- Every user reads back with the role for whom an ability is compiled. -/
@[simp] theorem Principal.readsBack (principal : Principal) : ReadsBack principal := by
  show Principal.ofDocument? (.value principal.toJson) = some principal
  simp [Principal.toJson, Principal.ofDocument?, Json.record, Members.lookup]

/-! ## Organizations -/

namespace Organization

/-- The timestamps of an organization are instants that a timestamp can tell. -/
def HasTimestamps (organization : Organization) : Prop :=
  organization.createdAt.IsTimestamp ∧ organization.updatedAt.IsTimestamp

/-- An organization reads back if timestamps can tell its times. -/
theorem readsBack {organization : Organization} (h : organization.HasTimestamps) :
    ReadsBack organization := by
  obtain ⟨hcreated, hupdated⟩ := h
  show ofDocument? (.value organization.toJson) = some organization
  simp [toJson, ofDocument?, fieldNames, Json.record, Members.lookup, hcreated,
    hupdated]

/-- Timestamps can tell the times of every organization that is read. -/
theorem hasTimestamps_of_ofDocument? {document : Document} {organization : Organization}
    (h : ofDocument? document = some organization) : organization.HasTimestamps := by
  simp only [ofDocument?, Option.bind_eq_bind, Option.bind_eq_some_iff] at h
  obtain ⟨_, -, _, -, _, -, _, -, _, -, _, -, _, hcreated, _, hupdated, hfields⟩ := h
  cases hfields
  exact ⟨Document.isTimestamp_of_required? hcreated, Document.isTimestamp_of_required? hupdated⟩

end Organization

/-- Every update of an organization reads back, whatever it leaves out. -/
@[simp] theorem OrganizationUpdate.readsBack (update : OrganizationUpdate) : ReadsBack update := by
  show OrganizationUpdate.ofDocument? (.value update.toJson) = some update
  simp [OrganizationUpdate.toJson, OrganizationUpdate.ofDocument?, Json.record,
    Members.lookup]

/-- A reference reads back as the identifier or the slug that it is. -/
@[simp] theorem OrganizationRef.readsBack (ref : OrganizationRef) : ReadsBack ref := by
  have hone : ∀ key value, (Document.value (Json.record [(key, value)])).keyedMembers? =
      some [(key, .value value)] :=
    fun key value => Document.keyedMembers?_members (Members.ofList [(key, value)])
  show OrganizationRef.ofDocument? (.value ref.toJson) = some ref
  cases ref with
  | byId id =>
      have hid : (Codec.ofDocument? (.value (Codec.toJson id)) : Option Uuid) = some id :=
        Codec.readsBack_uuid id
      simp [OrganizationRef.toJson, OrganizationRef.ofDocument?, hone, hid]
  | bySlug slug =>
      have hslug : (Codec.ofDocument? (.value (Codec.toJson slug)) : Option String) = some slug :=
        Codec.readsBack_string slug
      simp [OrganizationRef.toJson, OrganizationRef.ofDocument?, hone, hslug]

/-! ## Projects -/

namespace Project

/-- The timestamps of a project are instants that a timestamp can tell. -/
def HasTimestamps (project : Project) : Prop :=
  project.createdAt.IsTimestamp ∧ project.updatedAt.IsTimestamp

/-- A project reads back if timestamps can tell its times. -/
theorem readsBack {project : Project} (h : project.HasTimestamps) : ReadsBack project := by
  obtain ⟨hcreated, hupdated⟩ := h
  show ofDocument? (.value project.toJson) = some project
  simp [toJson, ofDocument?, fieldNames, Json.record, Members.lookup, hcreated,
    hupdated]

/-- Timestamps can tell the times of every project that is read. -/
theorem hasTimestamps_of_ofDocument? {document : Document} {project : Project}
    (h : ofDocument? document = some project) : project.HasTimestamps := by
  simp only [ofDocument?, Option.bind_eq_bind, Option.bind_eq_some_iff] at h
  obtain ⟨_, -, _, -, _, -, _, -, _, -, _, -, _, -, _, hcreated, _, hupdated, hfields⟩ := h
  cases hfields
  exact ⟨Document.isTimestamp_of_required? hcreated, Document.isTimestamp_of_required? hupdated⟩

end Project

/-- Every request for a project reads back, with a description or without one. -/
@[simp] theorem NewProject.readsBack (input : NewProject) : ReadsBack input := by
  show NewProject.ofDocument? (.value input.toJson) = some input
  simp [NewProject.toJson, NewProject.ofDocument?, Json.record, Members.lookup]

/-- Every update of a project reads back, whatever it leaves out. -/
@[simp] theorem ProjectUpdate.readsBack (update : ProjectUpdate) : ReadsBack update := by
  show ProjectUpdate.ofDocument? (.value update.toJson) = some update
  simp [ProjectUpdate.toJson, ProjectUpdate.ofDocument?, Json.record, Members.lookup]

/-! ## People and money -/

namespace Invite

/-- An invite reads back if a timestamp can tell when it was made. -/
theorem readsBack {invite : Invite} (h : invite.createdAt.IsTimestamp) : ReadsBack invite := by
  show ofDocument? (.value invite.toJson) = some invite
  simp [toJson, ofDocument?, fieldNames, Json.record, Members.lookup, h]

/-- A timestamp can tell when an invite that is read was made. -/
theorem isTimestamp_of_ofDocument? {document : Document} {invite : Invite}
    (h : ofDocument? document = some invite) : invite.createdAt.IsTimestamp := by
  simp only [ofDocument?, Option.bind_eq_bind, Option.bind_eq_some_iff] at h
  obtain ⟨_, -, _, -, _, -, _, -, _, -, _, -, _, hcreated, hfields⟩ := h
  cases hfields
  exact Document.isTimestamp_of_required? hcreated

end Invite

namespace Membership

/-- A membership reads back if a timestamp can tell its beginning. -/
theorem readsBack {membership : Membership} (h : membership.joinedAt.IsTimestamp) :
    ReadsBack membership := by
  show ofDocument? (.value membership.toJson) = some membership
  simp [toJson, ofDocument?, fieldNames, Json.record, Members.lookup, h]

/-- A timestamp can tell the beginning of every membership that is read. -/
theorem isTimestamp_of_ofDocument? {document : Document} {membership : Membership}
    (h : ofDocument? document = some membership) : membership.joinedAt.IsTimestamp := by
  simp only [ofDocument?, Option.bind_eq_bind, Option.bind_eq_some_iff] at h
  obtain ⟨_, -, _, -, _, -, _, -, _, -, _, hjoined, hfields⟩ := h
  cases hfields
  exact Document.isTimestamp_of_required? hjoined

end Membership

/-- Every resolved membership reads back. -/
@[simp] theorem ResolvedMembership.readsBack (membership : ResolvedMembership) :
    ReadsBack membership := by
  show ResolvedMembership.ofDocument? (.value membership.toJson) = some membership
  simp [ResolvedMembership.toJson, ResolvedMembership.ofDocument?, Json.record,
    Members.lookup]

/-- Every billing account reads back, with a customer or without one. -/
@[simp] theorem BillingAccount.readsBack (account : BillingAccount) : ReadsBack account := by
  show BillingAccount.ofDocument? (.value account.toJson) = some account
  simp [BillingAccount.toJson, BillingAccount.ofDocument?, BillingAccount.fieldNames, Json.record,
    Members.lookup]

/-! ## Round trips -/

/-- What is written of the policy and of the records is read back, no two values have one form,
and a value that was read from another form of it is read again from its own. A record with
instants must have ones that a timestamp can tell, and no record that is read has others. -/
theorem written_forms_round_trip :
    RoundTrips Condition (fun _ => True) ∧ RoundTrips Rule (fun _ => True) ∧
    RoundTrips Principal (fun _ => True) ∧
    RoundTrips Organization Organization.HasTimestamps ∧
    RoundTrips OrganizationUpdate (fun _ => True) ∧
    RoundTrips OrganizationRef (fun _ => True) ∧
    RoundTrips Project Project.HasTimestamps ∧
    RoundTrips NewProject (fun _ => True) ∧ RoundTrips ProjectUpdate (fun _ => True) ∧
    RoundTrips Invite (fun invite => invite.createdAt.IsTimestamp) ∧
    RoundTrips Membership (fun membership => membership.joinedAt.IsTimestamp) ∧
    RoundTrips ResolvedMembership (fun _ => True) ∧
    RoundTrips BillingAccount (fun _ => True) := by
  refine ⟨?condition, ?rule, ?principal, ?organization, ?organizationUpdate, ?organizationRef,
    ?project, ?newProject, ?projectUpdate, ?invite, ?membership, ?resolved, ?account⟩
  case organization =>
    exact .of (fun _ => Organization.readsBack) fun _ _ => Organization.hasTimestamps_of_ofDocument?
  case project =>
    exact .of (fun _ => Project.readsBack) fun _ _ => Project.hasTimestamps_of_ofDocument?
  case invite =>
    exact .of (fun _ => Invite.readsBack) fun _ _ => Invite.isTimestamp_of_ofDocument?
  case membership =>
    exact .of (fun _ => Membership.readsBack) fun _ _ => Membership.isTimestamp_of_ofDocument?
  all_goals exact .of (fun value _ => by simp) fun _ _ _ => trivial

end OrgAccess
