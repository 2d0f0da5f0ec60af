import OrgAccess.Policy.Vocabulary

/-!
# Faults

What can be wrong with the way an ability is set up or asked. A plain denial is not a fault. Each
fault has a message, a code for interfaces, and a status; configuration and subject type faults
are the server's, unknown words the requester's.
-/

namespace OrgAccess

/-- Why a role has no permissions. -/
inductive Misconfiguration where
  | unknownRole (name : String)
  | other (detail : String)
deriving DecidableEq

namespace Misconfiguration

/-- The wording of a misconfiguration. -/
def detail : Misconfiguration → String
  | unknownRole name => s!"unknown role '{name}'"
  | other detail => detail

end Misconfiguration

/-- Why a record is not a subject. -/
inductive Mismatch where
  | notObject (found : String)
  | noDiscriminant (field : String)
  | discriminantNotString (field found : String)
  | unrecognized (text : String)
  | notConcrete
  | other (detail : String)
deriving DecidableEq

namespace Mismatch

/-- The wording of a mismatch. -/
def detail : Mismatch → String
  | notObject found => s!"subject record must be an object, got {found}"
  | noDiscriminant field => s!"subject record has no '{field}' discriminant"
  | discriminantNotString field found =>
      s!"discriminant '{field}' must be a string, got {found}"
  | unrecognized text => s!"unrecognized subject type '{text}'"
  | notConcrete => "'all' is not a concrete subject type"
  | other detail => detail

end Mismatch

/-- A defect in how an ability is set up or asked. -/
inductive Fault where
  | configuration (cause : Misconfiguration)
  | typeMismatch (cause : Mismatch)
  | unknownAction (text : String)
  | unknownSubjectType (text : String)
  | unknownRole (text : String)
deriving DecidableEq

namespace Fault

/-- The message of a fault. -/
def message : Fault → String
  | configuration cause => "Configuration error: " ++ cause.detail
  | typeMismatch cause => "Subject type mismatch: " ++ cause.detail
  | unknownAction text => "Unknown action: " ++ text
  | unknownSubjectType text => "Unknown subject type: " ++ text
  | unknownRole text => "Unknown role: " ++ text

/-- The code of a fault in answers to requests. -/
def code : Fault → String
  | configuration _ => "CONFIG_ERROR"
  | typeMismatch _ => "SUBJECT_TYPE_MISMATCH"
  | unknownAction _ => "UNKNOWN_ACTION"
  | unknownSubjectType _ => "UNKNOWN_SUBJECT_TYPE"
  | unknownRole _ => "UNKNOWN_ROLE"

/-- Whether the server and not the requester is at fault. -/
def isServerFault : Fault → Bool
  | configuration _ | typeMismatch _ => true
  | unknownAction _ | unknownSubjectType _ | unknownRole _ => false

/-- The status of an answer that reports a fault. -/
def status (fault : Fault) : Nat :=
  if fault.isServerFault then 500 else 400

end Fault

/-- The action that a text names, or the fault that it names none. -/
def Action.ofText (text : String) : Except Fault Action :=
  match Action.ofText? text with
  | some action => .ok action
  | none => .error (.unknownAction text)

/-- The subject type that a text names, or the fault that it names none. -/
def SubjectType.ofText (text : String) : Except Fault SubjectType :=
  match SubjectType.ofText? text with
  | some type => .ok type
  | none => .error (.unknownSubjectType text)

/-- The role that a text names, or the fault that it names none. -/
def Role.ofText (text : String) : Except Fault Role :=
  match Role.ofText? text with
  | some role => .ok role
  | none => .error (.unknownRole text)

end OrgAccess
