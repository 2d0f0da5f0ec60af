import OrgAccess.Store.Backend

/-!
# Probed backends

A probed backend notes which questions are asked and refuses those it has been told to refuse,
without asking the backend behind it. A split backend takes memberships from one backend and
everything else from another.
-/

namespace OrgAccess

/-- The questions that a backend is asked. -/
inductive Question where
  | resolveMembership
  | findOrganization
  | saveOrganization
  | deleteOrganization
  | findProject
  | insertProject
  | saveProject
  | deleteProject
  | setMemberRole
  | seatsInUse
  | findBilling
  | listInvites
  | findInvite
  | insertInvite
  | deleteInvite
deriving DecidableEq

namespace Question

/-- The name of a question. -/
def name : Question → String
  | resolveMembership => "resolve_membership"
  | findOrganization => "find_organization"
  | saveOrganization => "save_organization"
  | deleteOrganization => "delete_organization"
  | findProject => "find_project"
  | insertProject => "insert_project"
  | saveProject => "save_project"
  | deleteProject => "delete_project"
  | setMemberRole => "set_member_role"
  | seatsInUse => "seats_in_use"
  | findBilling => "find_billing"
  | listInvites => "list_invites"
  | findInvite => "find_invite"
  | insertInvite => "insert_invite"
  | deleteInvite => "delete_invite"

end Question

/-- The state of a probed backend: that of the backend behind it, the questions asked, last first,
and the names of the questions that are refused, with the reasons, last first. -/
structure Probe (σ : Type) where
  inner : σ
  asked : List Question
  refused : List (String × String)

namespace Probe

variable {σ α : Type}

/-- A probe that has seen nothing and refuses nothing. -/
def of (inner : σ) : Probe σ := ⟨inner, [], []⟩

/-- A question that is noted and put to the backend behind the probe unless it is refused. -/
def ask (question : Question) (exchange : Exchange σ α) : Exchange (Probe σ) α := fun probe =>
  let noted := { probe with asked := question :: probe.asked }
  match probe.refused.lookup question.name with
  | some reason => (.error (.store reason), noted)
  | none =>
      let (answer, inner) := exchange probe.inner
      (answer, { noted with inner })

end Probe

namespace Backend

variable {σ τ : Type}

/-- The backend with a probe in front of it. -/
def probed (backend : Backend σ) : Backend (Probe σ) where
  resolveMembership userId reference :=
    Probe.ask .resolveMembership (backend.resolveMembership userId reference)
  findOrganization reference := Probe.ask .findOrganization (backend.findOrganization reference)
  saveOrganization organization :=
    Probe.ask .saveOrganization (backend.saveOrganization organization)
  deleteOrganization id := Probe.ask .deleteOrganization (backend.deleteOrganization id)
  findProject organizationId id := Probe.ask .findProject (backend.findProject organizationId id)
  insertProject project := Probe.ask .insertProject (backend.insertProject project)
  saveProject project := Probe.ask .saveProject (backend.saveProject project)
  deleteProject id := Probe.ask .deleteProject (backend.deleteProject id)
  setMemberRole organizationId userId role :=
    Probe.ask .setMemberRole (backend.setMemberRole organizationId userId role)
  seatsInUse organizationId := Probe.ask .seatsInUse (backend.seatsInUse organizationId)
  findBilling organizationId := Probe.ask .findBilling (backend.findBilling organizationId)
  listInvites organizationId := Probe.ask .listInvites (backend.listInvites organizationId)
  findInvite organizationId id := Probe.ask .findInvite (backend.findInvite organizationId id)
  insertInvite invite := Probe.ask .insertInvite (backend.insertInvite invite)
  deleteInvite id := Probe.ask .deleteInvite (backend.deleteInvite id)

/-- A question put to the first of two states. -/
def onFirst {α : Type} (exchange : Exchange σ α) : Exchange (σ × τ) α := fun states =>
  let (answer, first) := exchange states.1
  (answer, (first, states.2))

/-- A question put to the second of two states. -/
def onSecond {α : Type} (exchange : Exchange τ α) : Exchange (σ × τ) α := fun states =>
  let (answer, second) := exchange states.2
  (answer, (states.1, second))

/-- The backend that takes memberships from `members` and everything else from `records`. -/
def split (records : Backend σ) (members : Backend τ) : Backend (σ × τ) where
  resolveMembership userId reference := onSecond (members.resolveMembership userId reference)
  findOrganization reference := onFirst (records.findOrganization reference)
  saveOrganization organization := onFirst (records.saveOrganization organization)
  deleteOrganization id := onFirst (records.deleteOrganization id)
  findProject organizationId id := onFirst (records.findProject organizationId id)
  insertProject project := onFirst (records.insertProject project)
  saveProject project := onFirst (records.saveProject project)
  deleteProject id := onFirst (records.deleteProject id)
  setMemberRole organizationId userId role :=
    onFirst (records.setMemberRole organizationId userId role)
  seatsInUse organizationId := onFirst (records.seatsInUse organizationId)
  findBilling organizationId := onFirst (records.findBilling organizationId)
  listInvites organizationId := onFirst (records.listInvites organizationId)
  findInvite organizationId id := onFirst (records.findInvite organizationId id)
  insertInvite invite := onFirst (records.insertInvite invite)
  deleteInvite id := onFirst (records.deleteInvite id)

end Backend

end OrgAccess
