import Frontera.Platform
import Frontera.Text.JsonValue

/-! Exactly what is approved, under exactly which requirement, and the canonical text every verdict
is bound to by its digest. -/

namespace Frontera.Approval

open Frontera.Text

/-- A profile's approval requirement. -/
structure GovernanceProfileApproval where
  approverAction : String
  (minimumApprovals requestTtlSeconds approvalValiditySeconds : Int)
  requiredEvidence : Option (List String) := none

inductive SubjectParameterValue where
  | text (value : String)
  | number (value : Int)

structure SubjectParameter where
  (dimension type : String)
  value : SubjectParameterValue

structure SubjectDecision where
  status : String
  reasonCodes : List String
  evaluatedAt : String

structure SubjectAmount where
  (value unit : String)

structure SubjectDecisionDigest where
  (requestDigest evaluationDigest : String)

/-- A committed decision, and the requirement as it stood when its request was opened. -/
structure ApprovalSubject where
  (organizationId requestId decisionId evaluationId : String)
  decisionDigest : SubjectDecisionDigest
  actorId : String
  principalActorId : Option String := none
  (action resourceScope : String)
  counterpartyId : Option String := none
  amount : Option SubjectAmount := none
  (governanceProfile actionClass resourceClass : String)
  parameters : Option (List SubjectParameter) := none
  contextDigest : Option String := none
  contextValidUntil : Option String := none
  decision : SubjectDecision
  requirement : GovernanceProfileApproval
  requirementDigest : String

/-- `stableStringify`: the keys of every object sorted by code unit. -/
def stableStringify (value : Json String) : String :=
  Json.canonicalSerialize (fun a b => !stringLt b a) value

/-- An entry that is there only when its value is. -/
def entryOf (key : String) (value : Option (Json String)) : List (String × Json String) :=
  (value.map fun j => (key, j)).toList

def texts (values : List String) : Json String := .arr (values.map .str)

def GovernanceProfileApproval.toJson (requirement : GovernanceProfileApproval) : Json String :=
  .obj ([("approverAction", .str requirement.approverAction),
      ("minimumApprovals", .num requirement.minimumApprovals),
      ("requestTtlSeconds", .num requirement.requestTtlSeconds),
      ("approvalValiditySeconds", .num requirement.approvalValiditySeconds)] ++
    entryOf "requiredEvidence" (requirement.requiredEvidence.map texts))

def SubjectParameter.toJson (parameter : SubjectParameter) : Json String :=
  .obj [("dimension", .str parameter.dimension), ("type", .str parameter.type),
    ("value", match parameter.value with
      | .text value => .str value
      | .number value => .num value)]

/-- `APPROVAL_SUBJECT_FORMAT` -/
def approvalSubjectFormat : String := "frontera.approval-subject.v1"

def ApprovalSubject.toJson (subject : ApprovalSubject) : Json String :=
  .obj ([("format", .str approvalSubjectFormat), ("organizationId", .str subject.organizationId),
      ("requestId", .str subject.requestId), ("decisionId", .str subject.decisionId),
      ("evaluationId", .str subject.evaluationId),
      ("decisionDigest", .obj [("requestDigest", .str subject.decisionDigest.requestDigest),
        ("evaluationDigest", .str subject.decisionDigest.evaluationDigest)]),
      ("actorId", .str subject.actorId)] ++
    entryOf "principalActorId" (subject.principalActorId.map .str) ++
    [("action", .str subject.action), ("resourceScope", .str subject.resourceScope)] ++
    entryOf "counterpartyId" (subject.counterpartyId.map .str) ++
    entryOf "amount" (subject.amount.map fun amount =>
      .obj [("value", .str amount.value), ("unit", .str amount.unit)]) ++
    [("governanceProfile", .str subject.governanceProfile),
      ("actionClass", .str subject.actionClass), ("resourceClass", .str subject.resourceClass)] ++
    entryOf "parameters" (subject.parameters.map fun parameters =>
      .arr (parameters.map SubjectParameter.toJson)) ++
    entryOf "contextDigest" (subject.contextDigest.map .str) ++
    entryOf "contextValidUntil" (subject.contextValidUntil.map .str) ++
    [("decision", .obj [("status", .str subject.decision.status),
        ("reasonCodes", texts subject.decision.reasonCodes),
        ("evaluatedAt", .str subject.decision.evaluatedAt)]),
      ("requirement", subject.requirement.toJson), ("requirementDigest", .str subject.requirementDigest)])

def canonicalApprovalSubject (subject : ApprovalSubject) : String := stableStringify subject.toJson

variable (P : Platform)

def approvalSubjectDigest (canonical : String) : String := P.digestOf canonical

/-- `APPROVAL_REQUIREMENT_FORMAT` -/
def approvalRequirementFormat : String := "frontera.approval-requirement.v1"

def approvalRequirementDigest (requirement : GovernanceProfileApproval) : String :=
  P.digestOf (approvalRequirementFormat ++ "\n" ++ stableStringify requirement.toJson)

end Frontera.Approval
