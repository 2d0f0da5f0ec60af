import OrgAccess.Service.Basic

/-!
# Requests

The guarded operations as data, so that runs of many operations can be spoken of. A call is a
request by an actor on an organization, with the reading of the clock and the identifier that a
created record gets. `Service.run` performs calls one after the other, whatever their results.
-/

namespace OrgAccess

/-- A guarded operation and its arguments. -/
inductive Request where
  | updateOrganization (update : OrganizationUpdate)
  | shutdownOrganization
  | transferOwnership (newOwner : Uuid)
  | createProject (input : NewProject)
  | updateProject (projectId : Uuid) (update : ProjectUpdate)
  | deleteProject (projectId : Uuid)
  | getBilling
  | createInvite (email : String) (role : Role)
  | listInvites
  | revokeInvite (inviteId : Uuid)
deriving DecidableEq

/-- What a guarded operation answers. -/
inductive Reply where
  | done
  | organization (organization : Organization)
  | project (project : Project)
  | billing (account : BillingAccount)
  | invite (invite : Invite)
  | invites (invites : List Invite)
deriving DecidableEq

/-- A request by an actor on an organization. -/
structure Call where
  actor : Uuid
  organization : OrganizationRef
  request : Request
  now : Instant
  freshId : Uuid
deriving DecidableEq

namespace Service

variable {σ : Type}

/-- Performs a call. -/
def perform (service : Service σ) (call : Call) : Guarded σ Reply :=
  let actor := call.actor
  let organization := call.organization
  match call.request with
  | .updateOrganization update => do
      return .organization (← service.updateOrganization actor organization update call.now)
  | .shutdownOrganization => do
      service.shutdownOrganization actor organization
      return .done
  | .transferOwnership newOwner => do
      return .organization (← service.transferOwnership actor organization newOwner call.now)
  | .createProject input => do
      return .project (← service.createProject actor organization input call.freshId call.now)
  | .updateProject projectId update => do
      return .project (← service.updateProject actor organization projectId update call.now)
  | .deleteProject projectId => do
      service.deleteProject actor organization projectId
      return .done
  | .getBilling => do
      return .billing (← service.getBilling actor organization)
  | .createInvite email role => do
      return .invite
        (← service.createInvite actor organization email role call.freshId call.now)
  | .listInvites => do
      return .invites (← service.listInvites actor organization)
  | .revokeInvite inviteId => do
      service.revokeInvite actor organization inviteId
      return .done

/-- The outcomes of calls performed one after the other. -/
def run (service : Service σ) (state : σ) : List Call → List (Outcome σ Reply)
  | [] => []
  | call :: rest =>
      let outcome := service.perform call state
      outcome :: service.run outcome.state rest

/-- The state after calls performed one after the other. -/
def runState (service : Service σ) (state : σ) (calls : List Call) : σ :=
  calls.foldl (fun state call => (service.perform call state).state) state

end Service

end OrgAccess
