import OrgAccess.Policy.Subject
import OrgAccess.Uuid

/-!
# Billing accounts

The billing account of an organization has a plan, and the plan says how many seats members and
pending invites may take.
-/

namespace OrgAccess

/-- A plan that an organization subscribes to. -/
inductive Plan where
  | free
  | team
  | enterprise
deriving DecidableEq, Ord

namespace Plan

/-- Every plan, the smallest first. -/
def all : List Plan := [free, team, enterprise]

/-- The name of a plan. -/
def name : Plan → String
  | free => "free"
  | team => "team"
  | enterprise => "enterprise"

/-- The word for a plan in messages. -/
def label : Plan → String
  | free => "Free"
  | team => "Team"
  | enterprise => "Enterprise"

/-- The number of seats, unless there is no limit. -/
def seatLimit? : Plan → Option Nat
  | free => some 5
  | team => some 100
  | enterprise => none

end Plan

/-- The billing account of an organization. -/
structure BillingAccount where
  organizationId : Uuid
  ownerId : Uuid
  plan : Plan
  billingEmail : Option String
deriving DecidableEq

namespace BillingAccount

/-- Whether another seat fits when some are taken. -/
def hasSeatFor (account : BillingAccount) (seatsInUse : Nat) : Bool :=
  match account.plan.seatLimit? with
  | some limit => seatsInUse < limit
  | none => true

/-- The subject that checks on an account are about. -/
def subject (account : BillingAccount) : Subject :=
  Subject.ownedBy .billing account.ownerId.text

end BillingAccount

end OrgAccess
