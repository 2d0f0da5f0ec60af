import OrgAccess.Store.Basic

/-!
# Backends

What guarded operations ask of the storage behind them. A backend answers from a state and may
change it, also when it fails. `Store.backend` is the backend that keeps the records in a `Store`;
there a refused write changes nothing.
-/

namespace OrgAccess

/-- A question to a backend with a state: the answer, and the state afterwards. -/
abbrev Exchange (σ α : Type) := σ → Except Failure α × σ

/-- The questions that guarded operations ask. -/
structure Backend (σ : Type) where
  resolveMembership : Uuid → OrganizationRef → Exchange σ (Option ResolvedMembership)
  findOrganization : OrganizationRef → Exchange σ (Option Organization)
  saveOrganization : Organization → Exchange σ Unit
  deleteOrganization : Uuid → Exchange σ Unit
  findProject : Uuid → Uuid → Exchange σ (Option Project)
  insertProject : Project → Exchange σ Unit
  saveProject : Project → Exchange σ Unit
  deleteProject : Uuid → Exchange σ Unit
  setMemberRole : Uuid → Uuid → Role → Exchange σ Unit
  seatsInUse : Uuid → Exchange σ Nat
  findBilling : Uuid → Exchange σ (Option BillingAccount)
  listInvites : Uuid → Exchange σ (List Invite)
  findInvite : Uuid → Uuid → Exchange σ (Option Invite)
  insertInvite : Invite → Exchange σ Unit
  deleteInvite : Uuid → Exchange σ Unit

namespace Exchange

variable {α : Type}

/-- An answer that is read off the store. -/
def read (answer : Store → Except Failure α) : Exchange Store α := fun store =>
  (answer store, store)

/-- A write that may be refused. -/
def write (change : Store → Except Failure Store) : Exchange Store Unit := fun store =>
  match change store with
  | .ok changed => (.ok (), changed)
  | .error failure => (.error failure, store)

end Exchange

/-- The backend that keeps the records in a store. -/
def Store.backend : Backend Store where
  resolveMembership userId reference := .read fun s => .ok (s.resolveMembership userId reference)
  findOrganization reference := .read fun s => .ok (s.findOrganization reference)
  saveOrganization organization := .write (·.saveOrganization organization)
  deleteOrganization id := .write (·.deleteOrganization id)
  findProject organizationId id := .read fun s => .ok (s.findProject organizationId id)
  insertProject project := .write (·.insertProject project)
  saveProject project := .write (·.saveProject project)
  deleteProject id := .write (·.deleteProject id)
  setMemberRole organizationId userId role := .write (·.setMemberRole organizationId userId role)
  seatsInUse organizationId := .read (·.seatsInUse organizationId)
  findBilling organizationId := .read fun s => .ok (s.findBilling organizationId)
  listInvites organizationId := .read fun s => .ok (s.listInvites organizationId)
  findInvite organizationId id := .read fun s => .ok (s.findInvite organizationId id)
  insertInvite invite := .write (·.insertInvite invite)
  deleteInvite id := .write (·.deleteInvite id)

end OrgAccess
