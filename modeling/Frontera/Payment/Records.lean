import Frontera.Payment.Intent

/-! The records the settlement and refund services read: the committed decision, the execution
attempt with its terminal observation (P11), the resolution of an uncertain attempt (P12), and the
settlement with its receipt. Fields that no function here reads are left out. -/

namespace Frontera.Payment

open Frontera.Monetary Frontera.Text

structure ExecutionAttemptRecord where
  (organizationId executionId evaluationId requestId decisionId boundedGrantId action : String)
  amount : Option MonetaryAmount
  parameters : Option (List Grant.GovernedParameter)
  attemptDigest : String

inductive ProviderCertainty where
  | confirmedCompleted | confirmedNotCompleted | unconfirmed

inductive ExecutionTerminalObservation where
  | provider (certainty : ProviderCertainty) (adapterId : String) (providerRef : Option String)
  | withheld

structure ExecutionTerminalRecord where
  observation : ExecutionTerminalObservation
  observationDigest : String

structure ExecutionOutcomeRecord where
  attempt : ExecutionAttemptRecord
  terminal : Option ExecutionTerminalRecord

inductive ExecutionResolutionCertainty where
  | confirmedCompleted | confirmedNotCompleted

structure ExecutionResolutionBinding where
  (attemptDigest authorityId bindingDigest : String)

structure ExecutionResolutionRecord where
  (attemptDigest bindingDigest : String)
  basisObservationDigest : Option String
  authorityId : String
  certainty : ExecutionResolutionCertainty
  providerRef : Option String
  resolutionDigest : String

structure ExecutionResolutionState where
  binding : Option ExecutionResolutionBinding
  resolution : Option ExecutionResolutionRecord

inductive CanonicalPaymentResolution where
  | completed (digest : String) (providerRef : Option String)
  | notCompleted (digest : String)
  | none | inconsistent

/-- The handle P11 recorded with its observation. -/
def observedProviderRef (outcome : ExecutionOutcomeRecord) : Option String :=
  match outcome.terminal with
  | some ⟨.provider _ _ providerRef,_⟩ => providerRef
  | _ => .none

/-- The binding is on record and is the one the resolution names. -/
def boundBy (binding : Option ExecutionResolutionBinding)
    (resolution : ExecutionResolutionRecord) : Bool :=
  match binding with
  | .none => false
  | some binding =>
      binding.bindingDigest == resolution.bindingDigest &&
        binding.attemptDigest == resolution.attemptDigest &&
        binding.authorityId == resolution.authorityId

/-- A handle P11 recorded and one P12 learned are two different handles. -/
def handlesDiffer (initial learned : Option String) : Bool :=
  match initial, learned with
  | some a, some b => a != b
  | _, _ => false

def canonicalPaymentResolution (outcome : ExecutionOutcomeRecord)
    (state : Option ExecutionResolutionState) : CanonicalPaymentResolution :=
  match state with
  | .none => .none
  | some state =>
      match state.resolution with
      | .none => .none
      | some resolution =>
          if resolution.attemptDigest ≠ outcome.attempt.attemptDigest then .inconsistent
          else if resolution.basisObservationDigest ≠
              outcome.terminal.map (·.observationDigest) then .inconsistent
          else if !boundBy state.binding resolution then .inconsistent
          else if handlesDiffer (observedProviderRef outcome) resolution.providerRef then
            .inconsistent
          else
            match resolution.certainty with
            | .confirmedNotCompleted => .notCompleted resolution.resolutionDigest
            | .confirmedCompleted =>
                .completed resolution.resolutionDigest resolution.providerRef

structure PaymentSettlementTerms where
  source : PaymentSourceRef
  destination : PaymentDestination
  amount : MonetaryAmount
  purpose : String
  (reference rail : Option String)

inductive PaymentSettlementBasisKind where
  | providerConfirmedCompleted | resolutionConfirmedCompleted

structure PaymentSettlementBasis where
  kind : PaymentSettlementBasisKind
  attemptDigest : String
  (observationDigest resolutionDigest : Option String)

structure PaymentFinalityFact where
  (name value : String)

structure PaymentSettlementFinality where
  (authorityId method providerRef : String)
  finalizedAt : Option String
  facts : List PaymentFinalityFact
  proofDigest : String

structure RecordPaymentSettlementInput where
  (organizationId executionId requestId decisionId evaluationId boundedGrantId action : String)
  railId : Option String
  basis : PaymentSettlementBasis
  payment : PaymentSettlementTerms
  finality : PaymentSettlementFinality
  verifiedAt : String

structure PaymentSettlementRecord extends RecordPaymentSettlementInput where
  (schemaVersion settlementId contentDigest recordedAt settlementDigest : String)

structure PaymentReceiptFinality where
  (authorityId method providerRef : String)
  finalizedAt : Option String
  proofDigest : String

structure PaymentReceipt where
  (format receiptId status settlementId settlementContentDigest organizationId executionId : String)
  (requestId decisionId : String)
  railId : Option String
  payment : PaymentSettlementTerms
  finality : PaymentReceiptFinality
  receiptDigest : String

inductive EvaluationStatus where
  | allowed | denied
  | other (status : String)

/-- What is read of a committed decision and its request. -/
structure GovernanceRecord where
  requestId : String
  organizationId : Option String
  resourceScope : String
  requestPayload : Json String
  (evaluationId evaluationRequestId decisionId : String)
  status : EvaluationStatus

/-- One record of a Governance Store query. -/
structure GovernanceQueryHit where
  (evaluationId requestId : String)
  organizationId : Option String
deriving DecidableEq

inductive GovernedRecordResolution where
  | absent
  | notGoverned (record : GovernanceRecord)
  | governed (record : GovernanceRecord)

end Frontera.Payment
