import Frontera.GovernedAction.Request

/-! Committed decisions with the reference rows attached to them. -/

namespace Frontera.GovernedAction

open Frontera.Text

inductive KernelDecisionStatus where
  | allowed | denied | approvalRequired | indeterminate

/-- The kernel's result, as far as the governed-action path reads it. -/
structure KernelDecision where
  (decisionId requestId : String)
  status : KernelDecisionStatus
  reasonCodes : List String
  evaluatedAt : String
  /-- `context?.validUntil` -/
  validUntil : Option String
  /-- `obligations !== undefined` -/
  declaresObligations : Bool

inductive GovernanceReferenceType where
  | authorizationArtifact | executionRecord | reconsiderationLink | issuanceRecord
deriving DecidableEq

structure GovernanceReference where
  (referenceId evaluationId : String)
  referenceType : GovernanceReferenceType
  externalId : String
  externalVersion : Option String := none
  digest : Option String := none
  uri : Option String := none
  createdAt : String

/-- What the store seals a record with. -/
structure GovernanceSeal where
  (evaluationId requestDigest evaluationDigest aggregateDigest : String)

structure GovernanceRecord where
  request : KernelEvaluationRequest
  decision : KernelDecision
  integrity : GovernanceSeal
  references : List GovernanceReference

inductive GovernanceStoreError where
  | idempotencyConflict | validation | accessScopeViolation | recordNotFound | transactionFailed
  | unavailable

end Frontera.GovernedAction
