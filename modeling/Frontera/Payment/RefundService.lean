import Frontera.Payment.Records
import Frontera.Payment.RefundLedger

/-! `requestRefund` and `reconcileRefund` of `refund-service.ts`, as tasks of any number of
processes over one refund accounting. A task advances from one awaited call to the next; the ledger
calls may fail before or after they write, a task may be lost between any two of its calls, and the
records it reads (decisions, P11, P12) may change in between. -/

namespace Frontera.Payment

open Frontera.Monetary Frontera.Text

variable (P : Platform)

/-- `digest(parts)`: 32 hexadecimal digits over a JSON array. -/
def partsDigest (parts : List String) : String :=
  String.ofList ((P.sha256 (Json.stringify (.arr (parts.map .str)))).toList.take 32)

def deriveGovernedActionRequestId (organizationId principalId idempotencyKey : String) : String :=
  "aoc.gar:" ++ partsDigest P
    ["aoc.governed-action.request.v1", organizationId, principalId, idempotencyKey]

def deriveGovernedActionExecutionId (requestId decisionId : String) : String :=
  "aoc.exec:" ++ partsDigest P ["aoc.governed-action.execution.v1", requestId, decisionId]

structure BoundCustomerIdentity where
  (plane principalId organizationId actorId : String)

def isCanonicalCustomerIdentifier (value : String) : Bool :=
  value != "" && decide ((codeUnits value).length ≤ 256) && value == trim value &&
    !value.toList.any isControlCharacter

/-- The principal the identity is bound to, within the served organization. -/
def boundScopeOf (identity : BoundCustomerIdentity) (servedOrganizationId : String) : Option String :=
  if identity.plane ≠ "customer" then none
  else if !isCanonicalCustomerIdentifier identity.principalId ||
      !isCanonicalCustomerIdentifier identity.organizationId ||
      !isCanonicalCustomerIdentifier identity.actorId then none
  else if identity.organizationId ≠ servedOrganizationId then none
  else some identity.principalId

/-- What the three stores answer now, within the organization. -/
structure RefundWorld where
  getByRequestId : String → Option GovernanceRecord
  /-- The scoped query for records of the governed-action path: organization and request. -/
  governedHits : String → String → List GovernanceQueryHit
  outcomes : String → Option ExecutionOutcomeRecord
  resolutions : String → Option ExecutionResolutionState

def hasGovernedActionProvenance (W : RefundWorld) (record : GovernanceRecord) : Bool :=
  match record.organizationId with
  | none => false
  | some organizationId =>
      if record.requestId ≠ record.evaluationRequestId then false
      else
        W.governedHits organizationId record.evaluationRequestId ==
          [⟨record.evaluationId,record.evaluationRequestId,some organizationId⟩]

def resolveGovernedRecord (W : RefundWorld) (requestId : String) : GovernedRecordResolution :=
  match W.getByRequestId requestId with
  | none => .absent
  | some record =>
      if record.evaluationRequestId ≠ requestId then .notGoverned record
      else if hasGovernedActionProvenance W record then .governed record
      else .notGoverned record

structure PaymentRefundServiceOptions where
  organizationId : String
  /-- The settlement of an execution and its receipt, once it is settled. -/
  settlements : String → Option (PaymentSettlementRecord × PaymentReceipt)
  binding : PaymentGovernanceBinding
  assets : MonetaryAssetRegistry

structure PaymentRefundRequest where
  (originalExecutionId refundKey : String)
  amount : MonetaryAmount
  (rail correlationId : Option String)
  envelope : PaymentEnvelopeOptions

/-- How the read of the original's settlement goes. -/
inductive SettlementReading where
  | threw | basisUnavailable | notYetSettled | asRecorded

/-- What the trusted counterparty mapping does. -/
inductive CounterpartyReading where
  | threw | unresolved
  | resolved (source : PaymentSourceRef) (destination : PaymentDestination)

structure RefundCall where
  identity : BoundCustomerIdentity
  request : PaymentRefundRequest
  settlement : SettlementReading
  counterparty : CounterpartyReading

inductive PaymentRefundRequestResult where
  | governed (refundOperationId : String)
  | identityRefused | originalNotSettled | originalIsRefund | counterpartyUnresolved
  | refundKeyInvalid
  | intentRefused (violations : List PaymentIntentViolation)
  | refused (refusal : PaymentRefundRefusal)
  | conflict
  | closed (refundOperationId : String)
  | accountingUnavailable | basisUnavailable
  /-- `compilePaymentIntent` threw. -/
  | threw (error : PaymentCompilationError)

inductive PaymentRefundReconciliation where
  | released (basis : PaymentRefundReleaseBasis)
  | alreadyReleased
  | refundCompleted (refundExecutionId : String)
  | refundPending | notFound | basisUnavailable

/-- A refund on its way to the governed path: the settled original it refunds, what is reserved
for it, and the payment it compiles to. -/
structure GovernedRefund where
  original : PaymentSettlementRecord
  input : ReservePaymentRefundInput
  intent : PaymentGovernedActionIntent

def settledOriginal (options : PaymentRefundServiceOptions) (executionId : String)
    (reading : SettlementReading) :
    Except PaymentRefundRequestResult (PaymentSettlementRecord × PaymentReceipt) :=
  if !isOpaqueExecutionIdentifier executionId then .error .originalNotSettled
  else
    match reading with
    | .threw => .error .basisUnavailable
    | .basisUnavailable => .error .basisUnavailable
    | .notYetSettled => .error .originalNotSettled
    | .asRecorded =>
        match options.settlements executionId with
        | none => .error .originalNotSettled
        | some settled => .ok settled

/-- `requestRefund` up to the call of the ledger: what it reserves and what it will hand to
the governed path, or its answer. -/
def prepareRefund (options : PaymentRefundServiceOptions) (call : RefundCall) :
    Except PaymentRefundRequestResult GovernedRefund :=
  match boundScopeOf call.identity options.organizationId with
  | none => .error .identityRefused
  | some principalId =>
      match settledOriginal options call.request.originalExecutionId call.settlement with
      | .error answer => .error answer
      | .ok (original, receipt) =>
          if original.payment.purpose = "refund" then .error .originalIsRefund
          else if !isOpaqueExecutionIdentifier call.request.refundKey then .error .refundKeyInvalid
          else
            match call.counterparty with
            | .threw => .error .basisUnavailable
            | .unresolved => .error .counterpartyUnresolved
            | .resolved source destination =>
                let refundOperationId := paymentRefundOperationId P options.organizationId
                  principalId original.settlementId call.request.refundKey
                let governedKey := paymentRefundGovernedKey refundOperationId
                match validatePaymentIntent
                    { source := source
                      destination := destination
                      amount := call.request.amount
                      purpose := "refund"
                      reference := some governedKey
                      rail := call.request.rail
                      idempotencyKey := governedKey
                      correlationId := call.request.correlationId } options.assets with
                | .error violations => .error (.intentRefused violations)
                | .ok intent =>
                    match paymentRefundRefusal original.payment.amount "0" intent.amount with
                    | some refusal => .error (.refused refusal)
                    | none =>
                        match compilePaymentIntent intent options.binding call.request.envelope with
                        | .error error => .error (.threw error)
                        | .ok governed =>
                            .ok
                              { original := original
                                input :=
                                  { organizationId := options.organizationId
                                    principalId := principalId
                                    refundKey := call.request.refundKey
                                    originalSettlementId := original.settlementId
                                    originalExecutionId := original.executionId
                                    originalReceiptId := receipt.receiptId
                                    originalAmount := original.payment.amount
                                    amount := intent.amount
                                    refundRequestId := deriveGovernedActionRequestId P
                                      options.organizationId principalId governed.idempotencyKey }
                                intent := governed }

/-- Where a call stands: the awaited call that comes next, or its answer. -/
inductive RefundTask where
  | reserving (refund : GovernedRefund)
  | governing (refund : GovernedRefund)
  | looking (refundOperationId : String)
  | deciding (refundOperationId refundRequestId : String)
  | observing (refundOperationId executionId : String)
  | resolving (refundOperationId executionId : String) (outcome : ExecutionOutcomeRecord)
  | releasing (refundOperationId : String) (basis : PaymentRefundReleaseBasis)
      (reference : String)
  | requested (result : PaymentRefundRequestResult)
  | reconciled (result : PaymentRefundReconciliation)

/-- How an awaited call goes. -/
inductive CallFault where
  | none
  /-- It throws and has written nothing. -/
  | unwritten
  /-- It throws, and what it was to write is written. -/
  | written
deriving DecidableEq

structure RefundSystem where
  ledger : InMemoryRefundLedger
  tasks : List RefundTask
  /-- What was handed to the governed path, in order. -/
  handed : List GovernedRefund
  world : RefundWorld

def RefundSystem.open (W : RefundWorld) : RefundSystem :=
  ⟨InMemoryRefundLedger.open P,[],[],W⟩

/-- `releaseBasis` once the committed decision is read. -/
def afterDecision (W : RefundWorld) (refundOperationId refundRequestId : String) : RefundTask :=
  match resolveGovernedRecord W refundRequestId with
  | .absent => .reconciled .refundPending
  | .notGoverned _ => .reconciled .basisUnavailable
  | .governed record =>
      match record.status with
      | .denied => .releasing refundOperationId .decisionDenied record.evaluationId
      | .allowed =>
          .observing refundOperationId
            (deriveGovernedActionExecutionId P refundRequestId record.decisionId)
      | .other _ => .reconciled .refundPending

/-- Once P11 is read. -/
def afterOutcome (W : RefundWorld) (refundOperationId executionId : String) : RefundTask :=
  match W.outcomes executionId with
  | none => .reconciled .refundPending
  | some outcome =>
      match outcome.terminal with
      | some ⟨.withheld,digest⟩ => .releasing refundOperationId .executionWithheld digest
      | some ⟨.provider .confirmedNotCompleted _ _,digest⟩ =>
          .releasing refundOperationId .providerConfirmedNotCompleted digest
      | some ⟨.provider .confirmedCompleted _ _,_⟩ => .reconciled (.refundCompleted executionId)
      | _ => .resolving refundOperationId executionId outcome

/-- Once P12 is read. -/
def afterResolution (W : RefundWorld) (refundOperationId executionId : String)
    (outcome : ExecutionOutcomeRecord) : RefundTask :=
  match canonicalPaymentResolution outcome (W.resolutions executionId) with
  | .none => .reconciled .refundPending
  | .inconsistent => .reconciled .basisUnavailable
  | .notCompleted digest =>
      .releasing refundOperationId .resolutionConfirmedNotCompleted digest
  | .completed _ _ => .reconciled (.refundCompleted executionId)

/-- A call of the ledger under a fault: what is written, and what is answered or thrown. -/
def faulty {R : Type} (fault : CallFault) (ledger : InMemoryRefundLedger)
    (call : InMemoryRefundLedger × Except RefundLedgerError R) :
    InMemoryRefundLedger × Option R :=
  match fault with
  | .none => (call.1, call.2.toOption)
  | .unwritten => (ledger, none)
  | .written => (call.1, none)

/-- `requestRefund` once the ledger has answered. -/
def afterReserve (refund : GovernedRefund) : Option ReservePaymentRefundResult → RefundTask
  | none => .requested .accountingUnavailable
  | some .conflict => .requested .conflict
  | some (.closed _) => .requested (.closed (refund.input.refundOperationId P))
  | some (.refused refusal _) => .requested (.refused refusal)
  | some (.reserved _ _) => .governing refund
  | some (.existing _ _) => .governing refund

/-- `reconcileRefund` once the operation is read. -/
def afterLooking (refundOperationId : String) : Option (Option PaymentRefundReservation) → RefundTask
  | none => .reconciled .basisUnavailable
  | some none => .reconciled .notFound
  | some (some reservation) =>
      if reservation.release.isSome then .reconciled .alreadyReleased
      else .deciding refundOperationId reservation.reserve.content.refundRequestId

/-- `reconcileRefund` once the ledger has released. -/
def afterRelease (basis : PaymentRefundReleaseBasis) : Option ReleasePaymentRefundResult → RefundTask
  | none => .reconciled .basisUnavailable
  | some .notFound => .reconciled .notFound
  | some (.released _) => .reconciled (.released basis)
  | some (.existing _) => .reconciled .alreadyReleased

inductive RefundStep where
  /-- `requestRefund` is called. -/
  | request (call : RefundCall)
  /-- `reconcileRefund` is called. -/
  | reconcile (refundOperationId : String)
  /-- A task makes its next call, under a fault and at a clock that reads `now`. -/
  | advance (task : Nat) (fault : CallFault) (now : String)
  /-- A task is lost. -/
  | crash (task : Nat)
  /-- The decisions, outcomes and resolutions on record change. -/
  | world (next : RefundWorld)

/-- The next call of a task: the system's ledger and hand-overs, and where the task stands. -/
def RefundSystem.advance (options : PaymentRefundServiceOptions) (s : RefundSystem)
    (task : RefundTask) (fault : CallFault) (now : String) :
    InMemoryRefundLedger × List GovernedRefund × RefundTask :=
  match task with
  | .reserving refund =>
      let called := faulty fault s.ledger (s.ledger.reserve P now refund.input)
      (called.1, [], afterReserve P refund called.2)
  | .governing refund =>
      (s.ledger, [refund], .requested (.governed (refund.input.refundOperationId P)))
  | .looking operation =>
      let called := faulty fault s.ledger
        (s.ledger, s.ledger.readOperation P options.organizationId operation)
      (s.ledger, [], afterLooking operation called.2)
  | .deciding operation requestId =>
      (s.ledger, [], if fault = .none then afterDecision P s.world operation requestId
        else .reconciled .basisUnavailable)
  | .observing operation executionId =>
      (s.ledger, [], if fault = .none then afterOutcome s.world operation executionId
        else .reconciled .basisUnavailable)
  | .resolving operation executionId outcome =>
      (s.ledger, [], if fault = .none then afterResolution s.world operation executionId outcome
        else .reconciled .basisUnavailable)
  | .releasing operation basis reference =>
      let called := faulty fault s.ledger
        (s.ledger.release P now ⟨options.organizationId,operation,basis,reference⟩)
      (called.1, [], afterRelease basis called.2)
  | .requested result => (s.ledger, [], .requested result)
  | .reconciled result => (s.ledger, [], .reconciled result)

def RefundSystem.step (options : PaymentRefundServiceOptions) (s : RefundSystem) : RefundStep → RefundSystem
  | .request call =>
      match prepareRefund P options call with
      | .error result => { s with tasks := s.tasks ++ [.requested result] }
      | .ok refund => { s with tasks := s.tasks ++ [.reserving refund] }
  | .reconcile operation => { s with tasks := s.tasks ++ [.looking operation] }
  | .advance i fault now =>
      match s.tasks[i]? with
      | none => s
      | some task =>
          let advanced := s.advance P options task fault now
          { s with
            ledger := advanced.1
            tasks := s.tasks.set i advanced.2.2
            handed := s.handed ++ advanced.2.1 }
  | .crash i => { s with tasks := s.tasks.eraseIdx i }
  | .world next => { s with world := next }

def RefundSystem.run (options : PaymentRefundServiceOptions) (s : RefundSystem)
    (steps : List RefundStep) : RefundSystem :=
  steps.foldl (RefundSystem.step P options) s

end Frontera.Payment
