import Frontera.GovernedAction.GovernanceStore
import Frontera.GovernedAction.OutcomeStore

/-! The reference rows the execution ledger writes and reads back, and the results a replayed call
ends with. -/

namespace Frontera.GovernedAction

open Frontera.Text Frontera.Monetary Frontera.Grant
open Frontera.Execution (ExecutionFailureReason)

variable (H : Host)

def withAdapter (recorded adapterId : String) : String :=
  if isRecordableExecutionAdapterId adapterId then recorded ++ "@" ++ adapterId else recorded

def withheldPrefix : String := "withheld:"

def encodeWithheldOutcome (layer : WithholdingLayer) (reasonCodes : List String) : Option String :=
  if isCanonicalWithheldCodes layer reasonCodes then
    some (withheldPrefix ++ layer.text ++ ":" ++ join "," reasonCodes)
  else none

def executionUnconfirmedOutcome : String := "execution-unconfirmed"

def executionFailedPrefix : String := "execution-failed:"

/-- The form an outcome is recorded in, when it has one. -/
def recordedOutcome : ExerciseOutcome → Option String
  | .executed attribution => some (withAdapter "executed" attribution.adapterId)
  | .withheld layer reasonCodes => encodeWithheldOutcome layer reasonCodes
  | .executionUnconfirmed attribution =>
      some (withAdapter executionUnconfirmedOutcome attribution.adapterId)
  | .executionFailed attribution reason =>
      some (withAdapter (executionFailedPrefix ++ failureText reason) attribution.adapterId)

/-- The body of a recorded form, and the recordable adapter behind its last `@`. -/
def splitAdapter (recorded : String) : String × Option String :=
  match recorded.toList.reverse.span (· != '@') with
  | (adapterId, _ :: body) =>
      if isRecordableExecutionAdapterId (String.ofList adapterId.reverse) then
        (String.ofList body.reverse, some (String.ofList adapterId.reverse))
      else (recorded, none)
  | (_, []) => (recorded, none)

def withholdingLayerOf (text : String) : Option WithholdingLayer :=
  [WithholdingLayer.grantExercise, .emergencyControl, .exerciseControl].find? (·.text == text)

def decodeWithheldOutcome (recorded : String) : Option (WithholdingLayer × List String) :=
  match List.isPrefixOf? withheldPrefix.toList recorded.toList with
  | none => none
  | some body =>
      let codesOf (text : List Char) : List String := (text.splitOn ',').map String.ofList
      let decoded : WithholdingLayer × List String :=
        match body.span (· != ':') with
        | (head, _ :: rest) =>
            match withholdingLayerOf (String.ofList head) with
            | some layer => (layer, codesOf rest)
            | none => (.grantExercise, codesOf body)
        | (_, []) => (.grantExercise, codesOf body)
      if isCanonicalWithheldCodes decoded.1 decoded.2 then some decoded else none

structure PriorExecution where
  attempted : Bool
  outcome : Option String := none
  withheld : Option (WithholdingLayer × List String) := none
  adapterId : Option String := none

/-- The record holds the write-ahead claim of an execution. -/
def executionClaimRecorded (record : GovernanceRecord) (executionId : String) : Bool :=
  record.references.any fun entry =>
    entry.referenceId == executionAttemptReferenceId H executionId &&
      entry.externalId == executionId

/-- What a record already says about an execution. -/
def prior (record : GovernanceRecord) (executionId : String) : PriorExecution :=
  let attempted := executionClaimRecorded H record executionId
  match (record.references.find? fun entry =>
      entry.referenceId == executionOutcomeReferenceId H executionId &&
        entry.externalId == executionId).bind (·.externalVersion) with
  | none => { attempted := attempted }
  | some recorded =>
      let (body, adapterId) :=
        if (List.isPrefixOf? withheldPrefix.toList recorded.toList).isSome then (recorded, none)
        else splitAdapter recorded
      match decodeWithheldOutcome body with
      | none => { attempted := attempted, outcome := some body, adapterId := adapterId }
      | some withheld =>
          { attempted := attempted, outcome := some "withheld", withheld := some withheld }

def outcomeReference (evaluationId executionId recordedAs observationDigest createdAt : String) :
    GovernanceReference where
  referenceId := executionOutcomeReferenceId H executionId
  evaluationId := evaluationId
  referenceType := .executionRecord
  externalId := executionId
  externalVersion := some recordedAs
  digest := some observationDigest
  createdAt := createdAt

inductive GovernedActionReasonCode where
  | intentInvalid | identityInvalid | idempotencyConflict | kernelFailed | decisionPersistenceFailed
  | persistedDecisionUnverifiable | persistedDecisionMismatch | compositionInvalid
  | grantTermsUnavailable | grantIssuanceFailed | authorizationEvidenceFailed | executionClaimFailed
  | executionAlreadyAttempted | executionOutcomeUnconfirmed | executionOutcomeUnrecorded
  | approvalPending | approvalRejected | approvalRequestExpired | approvalExpired | approvalRevoked
  | approvalSuperseded | approvalUnavailable | reconsiderationTargetSelf
  | reconsiderationTargetNotFound | reconsiderationTargetUnverifiable
  | reconsiderationTargetOtherActor | reconsiderationTargetNotOriginal
  | reconsiderationTargetNotWithheld | reconsiderationIntentMismatch | reconsiderationLinkFailed
  | reconsiderationAlreadyRealized

def GovernedActionReasonCode.text : GovernedActionReasonCode → String
  | .intentInvalid => "GOVERNED_ACTION_INTENT_INVALID"
  | .identityInvalid => "GOVERNED_ACTION_IDENTITY_INVALID"
  | .idempotencyConflict => "GOVERNED_ACTION_IDEMPOTENCY_CONFLICT"
  | .kernelFailed => "GOVERNED_ACTION_KERNEL_FAILED"
  | .decisionPersistenceFailed => "GOVERNED_ACTION_DECISION_PERSISTENCE_FAILED"
  | .persistedDecisionUnverifiable => "GOVERNED_ACTION_PERSISTED_DECISION_UNVERIFIABLE"
  | .persistedDecisionMismatch => "GOVERNED_ACTION_PERSISTED_DECISION_MISMATCH"
  | .compositionInvalid => "GOVERNED_ACTION_COMPOSITION_INVALID"
  | .grantTermsUnavailable => "GOVERNED_ACTION_GRANT_TERMS_UNAVAILABLE"
  | .grantIssuanceFailed => "GOVERNED_ACTION_GRANT_ISSUANCE_FAILED"
  | .authorizationEvidenceFailed => "GOVERNED_ACTION_AUTHORIZATION_EVIDENCE_FAILED"
  | .executionClaimFailed => "GOVERNED_ACTION_EXECUTION_CLAIM_FAILED"
  | .executionAlreadyAttempted => "GOVERNED_ACTION_EXECUTION_ALREADY_ATTEMPTED"
  | .executionOutcomeUnconfirmed => "GOVERNED_ACTION_EXECUTION_OUTCOME_UNCONFIRMED"
  | .executionOutcomeUnrecorded => "GOVERNED_ACTION_EXECUTION_OUTCOME_UNRECORDED"
  | .approvalPending => "GOVERNED_ACTION_APPROVAL_PENDING"
  | .approvalRejected => "GOVERNED_ACTION_APPROVAL_REJECTED"
  | .approvalRequestExpired => "GOVERNED_ACTION_APPROVAL_REQUEST_EXPIRED"
  | .approvalExpired => "GOVERNED_ACTION_APPROVAL_EXPIRED"
  | .approvalRevoked => "GOVERNED_ACTION_APPROVAL_REVOKED"
  | .approvalSuperseded => "GOVERNED_ACTION_APPROVAL_SUPERSEDED"
  | .approvalUnavailable => "GOVERNED_ACTION_APPROVAL_UNAVAILABLE"
  | .reconsiderationTargetSelf => "GOVERNED_ACTION_RECONSIDERATION_TARGET_SELF"
  | .reconsiderationTargetNotFound => "GOVERNED_ACTION_RECONSIDERATION_TARGET_NOT_FOUND"
  | .reconsiderationTargetUnverifiable => "GOVERNED_ACTION_RECONSIDERATION_TARGET_UNVERIFIABLE"
  | .reconsiderationTargetOtherActor => "GOVERNED_ACTION_RECONSIDERATION_TARGET_OTHER_ACTOR"
  | .reconsiderationTargetNotOriginal => "GOVERNED_ACTION_RECONSIDERATION_TARGET_NOT_ORIGINAL"
  | .reconsiderationTargetNotWithheld => "GOVERNED_ACTION_RECONSIDERATION_TARGET_NOT_WITHHELD"
  | .reconsiderationIntentMismatch => "GOVERNED_ACTION_RECONSIDERATION_INTENT_MISMATCH"
  | .reconsiderationLinkFailed => "GOVERNED_ACTION_RECONSIDERATION_LINK_FAILED"
  | .reconsiderationAlreadyRealized => "GOVERNED_ACTION_RECONSIDERATION_ALREADY_REALIZED"

inductive GovernedActionWithheldBy where
  | approval | obligations | grant | authorityBinding | grantTerms | exercise | emergencyControl
  | reconsideration

inductive GovernedActionStatus where
  | executed (providerRef : Option String) (replayed outcomeRecorded : Bool)
  | denied | indeterminate
  | withheld (withheldBy : GovernedActionWithheldBy)
  | executionFailed (failure : ExecutionFailureReason) (replayed outcomeRecorded : Bool)
  | executionUnconfirmed | rejected | systemError

structure GovernedActionDecisionRef where
  (decisionId evaluationId : String)
  status : KernelDecisionStatus
  reasonCodes : List String

structure ResultContext where
  requestId : Option String := none
  correlationId : Option String := none
  decision : Option GovernedActionDecisionRef := none
  executionId : Option String := none

structure GovernedActionResult where
  status : GovernedActionStatus
  context : ResultContext
  reasonCodes : List String

/-- Attempted, and no initial observation can be established. -/
def unresolvedResult (context : ResultContext) : GovernedActionResult :=
  ⟨.executionUnconfirmed,context,[GovernedActionReasonCode.executionAlreadyAttempted.text]⟩

/-- The public name of a layer that withheld an effect. -/
def withheldByOf : WithholdingLayer → GovernedActionWithheldBy
  | .emergencyControl => .emergencyControl
  | .exerciseControl | .grantExercise => .exercise

def failureOf (text : String) : Option ExecutionFailureReason :=
  [ExecutionFailureReason.providerRejected, .providerUnavailable, .providerResponseInvalid,
    .adapterError].find? fun reason => failureText reason == text

/-- An execution on record from before the outcome store. -/
def replayResult (context : ResultContext) (prior : PriorExecution)
    (decisionReasonCodes : List String) : GovernedActionResult :=
  if prior.outcome = some "executed" then
    ⟨.executed none true true,context,decisionReasonCodes⟩
  else
    match prior.withheld with
    | some (layer, reasonCodes) => ⟨.withheld (withheldByOf layer),context,reasonCodes⟩
    | none =>
        match (prior.outcome.bind fun outcome =>
            (List.isPrefixOf? executionFailedPrefix.toList outcome.toList).bind fun reason =>
              failureOf (String.ofList reason)) with
        | some failure => ⟨.executionFailed failure true true,context,[failureText failure]⟩
        | none =>
            if prior.outcome = some executionUnconfirmedOutcome then
              ⟨.executionUnconfirmed,context, [GovernedActionReasonCode.executionOutcomeUnconfirmed.text]⟩
            else unresolvedResult context

end Frontera.GovernedAction
