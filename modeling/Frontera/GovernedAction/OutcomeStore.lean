import Frontera.GovernedAction.Request
import Frontera.Execution.Service

/-! The outcomes of an exercise, the codes each layer withholds with, and the adapter ids that a row
can hold. -/

namespace Frontera.GovernedAction

open Frontera.Text Frontera.Monetary Frontera.Grant
open Frontera.Execution (ExecutionFailureReason)

inductive WithholdingLayer where
  | grantExercise | emergencyControl | exerciseControl
deriving DecidableEq

def WithholdingLayer.text : WithholdingLayer → String
  | .grantExercise => "grant-exercise"
  | .emergencyControl => "emergency-control"
  | .exerciseControl => "exercise-control"

/-- Who performed an effect, and the handle it answered with. -/
structure Attribution where
  adapterId : String
  routedBy : Option String := none
  providerRef : Option String := none

inductive ExerciseOutcome where
  | executed (attribution : Attribution)
  | executionFailed (attribution : Attribution) (reason : ExecutionFailureReason)
  | executionUnconfirmed (attribution : Attribution)
  | withheld (layer : WithholdingLayer) (reasonCodes : List String)

def failureText : ExecutionFailureReason → String
  | .providerRejected => "PROVIDER_REJECTED"
  | .providerUnavailable => "PROVIDER_UNAVAILABLE"
  | .providerResponseInvalid => "PROVIDER_RESPONSE_INVALID"
  | .adapterError => "ADAPTER_ERROR"

def grantExerciseReasonCodeValues : List String :=
  ["GRANT_EXERCISE_REQUEST_MALFORMED", "GRANT_EXERCISE_NOT_FOUND",
    "GRANT_EXERCISE_INTEGRITY_INVALID", "GRANT_EXERCISE_EXPIRED", "GRANT_EXERCISE_REVOKED",
    "GRANT_EXERCISE_SUBJECT_MISMATCH", "GRANT_EXERCISE_CORRELATION_INVALID",
    "GRANT_EXERCISE_ACTION_OUT_OF_SCOPE", "GRANT_EXERCISE_RESOURCE_OUT_OF_SCOPE",
    "GRANT_EXERCISE_COUNTERPARTY_OUT_OF_SCOPE", "GRANT_EXERCISE_ORGANIZATION_OUT_OF_SCOPE",
    "GRANT_EXERCISE_AMOUNT_EXCEEDED", "GRANT_EXERCISE_GOVERNANCE_PROFILE_MISMATCH",
    "GRANT_EXERCISE_PARAMETER_OUT_OF_SCOPE", "GRANT_EXERCISE_SEMANTIC_CLASS_MISMATCH"]

def emergencyControlReasonCodeValues : List String :=
  ["EMERGENCY_CONTROL_ACTIVE", "EMERGENCY_CONTROL_UNAVAILABLE"]

def exerciseControlReasonCodeValues : List String :=
  ["EXERCISE_CONTROL_POLICY_INVALID", "EXERCISE_CONTROL_LEDGER_UNAVAILABLE",
    "EXERCISE_CONTROL_LIMIT_EXCEEDED", "EXERCISE_CONTROL_AMOUNT_REQUIRED",
    "EXERCISE_CONTROL_UNIT_MISMATCH", "EXERCISE_CONTROL_EXECUTION_ALREADY_RESERVED",
    "EXERCISE_CONTROL_RESERVATION_CONFLICT", "EXERCISE_CONTROL_AUTHORITY_BINDING_UNVERIFIABLE",
    "EXERCISE_CONTROL_AUTHORITY_BINDING_CHANGED", "EXERCISE_CONTROL_ACTION_CLASS_MISMATCH"]

def withholdingVocabulary : WithholdingLayer → List String
  | .grantExercise => grantExerciseReasonCodeValues
  | .emergencyControl => emergencyControlReasonCodeValues
  | .exerciseControl => exerciseControlReasonCodeValues

/-- At least one code, none repeated, every one from the layer's own vocabulary. -/
def isCanonicalWithheldCodes (layer : WithholdingLayer) (codes : List String) : Bool :=
  !codes.isEmpty && decide (codes.length ≤ (withholdingVocabulary layer).length) &&
    decide codes.Nodup && codes.all fun code => (withholdingVocabulary layer).contains code

/-- `RECORDABLE_ADAPTER_ID` -/
def isRecordableExecutionAdapterId (adapterId : String) : Bool :=
  match adapterId.toList with
  | [] => false
  | first :: rest =>
      isAsciiAlphanumeric first && decide (rest.length ≤ 63) &&
        rest.all fun c => isAsciiAlphanumeric c || ['.', '_', ':', '/', '-'].contains c

end Frontera.GovernedAction
