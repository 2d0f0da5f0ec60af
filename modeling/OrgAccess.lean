import OrgAccess.Json.Reader
import OrgAccess.Service.Request
import OrgAccess.Store.Probe
import OrgAccess.Tenant.Codec
import OrgAccess.Proofs.Policy.Evaluation
import OrgAccess.Proofs.Policy.StandardRoles
import OrgAccess.Proofs.Policy.Candidates
import OrgAccess.Proofs.Policy.Records
import OrgAccess.Proofs.Instant.Order
import OrgAccess.Proofs.Store.Lookup
import OrgAccess.Proofs.Store.Slice
import OrgAccess.Proofs.Store.Frame
import OrgAccess.Proofs.Store.Locality
import OrgAccess.Proofs.Store.Seats
import OrgAccess.Proofs.Store.History
import OrgAccess.Proofs.Store.Uniqueness
import OrgAccess.Proofs.Store.Directory
import OrgAccess.Proofs.Store.Integrity
import OrgAccess.Proofs.Store.Ledger
import OrgAccess.Proofs.Service.Admission
import OrgAccess.Proofs.Service.Agenda
import OrgAccess.Proofs.Service.Run
import OrgAccess.Proofs.Service.Authorization
import OrgAccess.Proofs.Service.AccessMatrix
import OrgAccess.Proofs.Service.Atomicity
import OrgAccess.Proofs.Service.Plan
import OrgAccess.Proofs.Service.Isolation
import OrgAccess.Proofs.Service.Ownership
import OrgAccess.Proofs.Service.Confinement
import OrgAccess.Proofs.Service.NonInterference
import OrgAccess.Proofs.Service.Effect
import OrgAccess.Proofs.Service.Seats
import OrgAccess.Proofs.Service.Amendments
import OrgAccess.Proofs.Service.Management
import OrgAccess.Proofs.Service.Billing
import OrgAccess.Proofs.Service.Integrity
import OrgAccess.Proofs.Service.Shutdown
import OrgAccess.Proofs.Service.Provenance
import OrgAccess.Proofs.Service.Accounting
import OrgAccess.Proofs.Service.Aging
import OrgAccess.Proofs.Service.Reports
import OrgAccess.Proofs.Service.References
import OrgAccess.Proofs.Service.Succession
import OrgAccess.Proofs.Json.RoundTrip
import OrgAccess.Proofs.Service.Invitation
import OrgAccess.Proofs.Service.Profile
import OrgAccess.Proofs.Service.Independence
import OrgAccess.Proofs.Service.Reversal
import OrgAccess.Proofs.Text.CaseMapping
import OrgAccess.Proofs.Policy.Names
import OrgAccess.Proofs.Text.NormalForm
import OrgAccess.Proofs.Service.Addresses
import OrgAccess.Proofs.Policy.Typing
import OrgAccess.Proofs.Policy.Attributes
import OrgAccess.Proofs.Policy.Monotonicity
import OrgAccess.Proofs.Service.ClassChecks
import OrgAccess.Proofs.Policy.Rulings
import OrgAccess.Proofs.Policy.Reordering
import OrgAccess.Proofs.Policy.Shadowing
import OrgAccess.Proofs.Policy.Decomposition
import OrgAccess.Proofs.Service.InviteList
import OrgAccess.Proofs.Policy.Compilation
import OrgAccess.Proofs.Policy.Repetition
