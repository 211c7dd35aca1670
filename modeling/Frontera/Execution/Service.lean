import Frontera.Execution.Assessment
import Frontera.ExerciseControl.Gate

/-! `GrantExecutionService.exercise` with exercise controls composed. A call runs from one `await`
to the next without interruption, and any number of calls interleave at those points over one
ledger. Every port answers as it pleases: the store, the clock, the emergency control, the host's
callbacks and the adapter are read from the step, and the ledger may raise before or after it has
recorded. -/

namespace Frontera.Execution

open Frontera.ExerciseControl Frontera.Grant

inductive EmergencyControlScope where
  | global | organization | actor | workflow | adapter | resource
deriving DecidableEq

structure EmergencyControlScopeMatch where
  scope : EmergencyControlScope
  value : Option String
deriving DecidableEq

structure EmergencyControlQuery where
  organizationId : Option String := none
  actorId : Option String := none
  workflowId : Option String := none
  adapterId : Option String := none
  resource : Option String := none

inductive EmergencyControlReasonCode where
  | active | unavailable
deriving DecidableEq

inductive EmergencyControlAssessment where
  | clear
  | blocked (matchedScopes : List EmergencyControlScopeMatch)
  | unavailable
deriving DecidableEq

def EmergencyControlAssessment.reasonCodes : EmergencyControlAssessment → List EmergencyControlReasonCode
  | .clear => []
  | .blocked _ => [.active]
  | .unavailable => [.unavailable]

def EmergencyControlAssessment.matchedScopes : EmergencyControlAssessment → List EmergencyControlScopeMatch
  | .blocked matchedScopes => matchedScopes
  | _ => []

/-- A composed reader: `none` is a raised error or an answer that is not an assessment. -/
abbrev EmergencyControlReader := EmergencyControlQuery → Option EmergencyControlAssessment

def readEmergencyControl (reader : Option EmergencyControlReader) (query : EmergencyControlQuery) :
    EmergencyControlAssessment :=
  match reader with
  | none => .clear
  | some read => (read query).getD .unavailable

inductive ExecutionFailureReason where
  | providerRejected | providerUnavailable | providerResponseInvalid | adapterError
deriving DecidableEq

structure ValidatedExecutionCorrelation where
  (requestId decisionId executionId : String)

structure ValidatedExecutionAction where
  (boundedGrantId subject action resource : String)
  (counterparty organization : Option String)
  amount : Option Monetary.MonetaryAmount
  parameters : Option (List GovernedParameter)
  notAfter : String
  correlation : ValidatedExecutionCorrelation

inductive ExecutionStatus where
  | executed | executionUnconfirmed
  | executionFailed (reason : ExecutionFailureReason)
  | withheldByGrantExercise
  | withheldByEmergencyControl (reasonCodes : List EmergencyControlReasonCode)
      (matchedScopes : List EmergencyControlScopeMatch)
  | withheldByExerciseControl (reasonCodes : List ExerciseControlReasonCode)
deriving DecidableEq

structure ExecutionOutcome where
  status : ExecutionStatus
  assessment : BoundedGrantExerciseAssessment
  correlation : ValidatedExecutionCorrelation
  exercisedAt : String

def reservationDispositionFor (outcome : ExecutionOutcome) : ExerciseReservationDisposition :=
  match outcome.status with
  | .executed => ⟨.settled,.executed⟩
  | .executionUnconfirmed => ⟨.settled,.executionUnconfirmed⟩
  | .executionFailed _ => ⟨.released,.executionFailed⟩
  | .withheldByEmergencyControl _ _ => ⟨.released,.emergencyControl⟩
  | .withheldByExerciseControl _ => ⟨.released,.exerciseControl⟩
  | .withheldByGrantExercise => ⟨.released,.grantExercise⟩

/-- What awaiting `adapter.execute` and reading its result comes to. -/
inductive AdapterAnswer where
  | completed
  | failed (reason : ExecutionFailureReason)
  | unconfirmed
  /-- A thrown `EmergencyControlWithheldError`. -/
  | raisedWithheld (reasonCodes : List EmergencyControlReasonCode)
      (matchedScopes : List EmergencyControlScopeMatch)
  | raised
  /-- A result that raises while it is read, or is not a well-formed one. -/
  | unreadable

/-- The status of a crossing, by the adapter's answer. Only a trusted registry's
withholding is believed. -/
def executionStatus (adapterIsTrustedRegistry : Bool) : AdapterAnswer → ExecutionStatus
  | .completed => .executed
  | .failed reason => .executionFailed reason
  | .unconfirmed => .executionUnconfirmed
  | .raisedWithheld reasonCodes matchedScopes =>
      if adapterIsTrustedRegistry then .withheldByEmergencyControl reasonCodes matchedScopes
      else .executionFailed .adapterError
  | .raised => .executionFailed .adapterError
  | .unreadable => .executionFailed .adapterError

/-- What the authoritative store answers a read with. -/
inductive StoreReading where
  | raised
  | answered (grant : Option BoundedGrant) (revocation : Option GrantRevocation)

/-- The host's callbacks, as they answer between two awaits. -/
structure ExecutionHost extends ExerciseControlHost where
  emergencyControl : Option EmergencyControlReader

def correlationOf (request : GrantExerciseRequest) : ValidatedExecutionCorrelation where
  requestId := request.correlation.requestId
  decisionId := request.correlation.decisionId
  executionId := request.executionId

def notFound (request : GrantExerciseRequest) : BoundedGrantExerciseAssessment where
  usable := false
  reasonCodes := [.notFound]
  boundedGrantId := request.boundedGrantId
  correlation := request.correlation
  executionId := request.executionId

def emergencyQueryFor (request : GrantExerciseRequest) (grant : BoundedGrant) : EmergencyControlQuery where
  organizationId := request.organization
  actorId := some grant.subject
  resource := some request.resource

def exerciseControlInputFor (request : GrantExerciseRequest) (grant : BoundedGrant)
    (at' : String) : ExerciseControlAdmissionInput where
  grant := ⟨grant.id,grant.subject,grant.issuedAt,grant.expiresAt,grant.correlation,
    grant.authorityBindingDigest⟩
  attempt := ⟨request.action,request.resource,request.counterparty,request.organization, request.amount⟩
  executionId := request.executionId
  at' := at'

def actionFor (request : GrantExerciseRequest) (grant : BoundedGrant) : ValidatedExecutionAction where
  boundedGrantId := request.boundedGrantId
  subject := grant.subject
  action := request.action
  resource := request.resource
  counterparty := request.counterparty
  organization := request.organization
  amount := request.amount
  parameters := request.parameters
  notAfter := grant.expiresAt
  correlation := correlationOf request

variable (P : Platform)

/-- The assessment of one read at the instant sampled after it, and the grant when it is
usable. -/
def assessReading (request : GrantExerciseRequest) (reading : StoreReading) (at' : String) :
    BoundedGrantExerciseAssessment × Option BoundedGrant :=
  match reading with
  | .answered (some grant) revocation =>
      let assessment := assessBoundedGrantExercise P grant revocation request at'
      (assessment, if assessment.usable then some grant else none)
  | _ => (notFound request, none)

/-- Where a call stands: what it awaits, and the locals it will go on with. -/
inductive CallStage where
  /-- The first grant read. -/
  | firstRead
  /-- The ledger has been asked to reserve. -/
  | reserving (request : ExerciseReservationRequest) (assessment : BoundedGrantExerciseAssessment)
      (exercisedAt : String)
  /-- The ledger has acted; its answer, `none` for a raised error, is on the way. -/
  | reserveAnswered (request : ExerciseReservationRequest)
      (answer : Option ExerciseReservationOutcome) (assessment : BoundedGrantExerciseAssessment)
      (exercisedAt : String)
  /-- The second grant read. -/
  | secondRead (reservation : ExerciseReservationHandle)
  /-- The adapter has been invoked. -/
  | executing (reservation : ExerciseReservationHandle)
      (assessment : BoundedGrantExerciseAssessment) (exercisedAt : String)
  /-- The outcome stands, and the ledger has been asked to settle or release. -/
  | finalizing (reservation : ExerciseReservationHandle) (outcome : ExecutionOutcome)
  | done (reservation : Option ExerciseReservationHandle) (outcome : ExecutionOutcome)
  /-- The promise was rejected: a clock or a callback raised. -/
  | rejected

/-- Something that happened, by the number of the call it happened in. -/
inductive ExecutionEvent where
  | started (call : Nat) (request : GrantExerciseRequest)
  | reserved (call : Nat) (reservation : ExerciseReservationRecord)
  | secondRead (call : Nat) (reading : StoreReading)
  | clock (call : Nat) (at' : String)
  /-- What the binding resolver answered after the second read. -/
  | revalidated (call : Nat) (resolved : Option String)
  | emergencyRead (call : Nat) (assessment : EmergencyControlAssessment)
  | execute (call : Nat) (action : ValidatedExecutionAction)
  | finalized (call : Nat) (terminal : ExerciseReservationTerminalEvent)

/-- From the first read to the ledger. -/
def afterFirstRead (request : GrantExerciseRequest) (reading : StoreReading)
    (clock : Option String) (host : ExecutionHost) : CallStage :=
  match clock with
  | none => .rejected
  | some at' =>
      let (assessment, grant) := assessReading P request reading at'
      let outcome := fun status =>
        CallStage.done none ⟨status,assessment,correlationOf request,at'⟩
      match grant with
      | none => outcome .withheldByGrantExercise
      | some grant =>
          match readEmergencyControl host.emergencyControl (emergencyQueryFor request grant) with
          | .clear =>
              match admitExercise P host.toExerciseControlHost
                  (exerciseControlInputFor request grant at') with
              | .raised => .rejected
              | .withheld reasonCodes => outcome (.withheldByExerciseControl reasonCodes)
              | .reserve reservation => .reserving reservation assessment at'
          | emergency =>
              outcome (.withheldByEmergencyControl emergency.reasonCodes emergency.matchedScopes)

/-- From the ledger's answer to the second read. -/
def afterReserve (request : GrantExerciseRequest) (reservation : ExerciseReservationRequest)
    (answer : Option ExerciseReservationOutcome) (assessment : BoundedGrantExerciseAssessment)
    (exercisedAt : String) : CallStage :=
  match admissionFrom reservation answer with
  | .withheld reasonCodes => .done none ⟨.withheldByExerciseControl reasonCodes,assessment,
      correlationOf request,exercisedAt⟩
  | .admitted reservation => .secondRead reservation

/-- From the second read to the adapter, with nothing awaited in between. -/
def afterSecondRead (call : Nat) (request : GrantExerciseRequest)
    (reservation : ExerciseReservationHandle) (reading : StoreReading) (clock : Option String)
    (host : ExecutionHost) : CallStage × List ExecutionEvent :=
  match clock with
  | none => (.rejected, [.secondRead call reading])
  | some at' =>
      let (assessment, grant) := assessReading P request reading at'
      let finish := fun status =>
        CallStage.finalizing reservation ⟨status,assessment,correlationOf request,at'⟩
      let read := [ExecutionEvent.secondRead call reading, .clock call at']
      match grant with
      | none => (finish .withheldByGrantExercise, read)
      | some grant =>
          let input := exerciseControlInputFor request grant at'
          let rebound := read ++ [.revalidated call (resolvedBinding host.toExerciseControlHost input)]
          match revalidate P host.toExerciseControlHost reservation input with
          | .raised => (.rejected, read)
          | .withheld reasonCodes => (finish (.withheldByExerciseControl reasonCodes), rebound)
          | .verified =>
              match readEmergencyControl host.emergencyControl
                  (emergencyQueryFor request grant) with
              | .clear => (.executing reservation assessment at', rebound ++
                  [.emergencyRead call .clear, .execute call (actionFor request grant)])
              | emergency =>
                  (finish (.withheldByEmergencyControl emergency.reasonCodes
                    emergency.matchedScopes), rebound ++ [.emergencyRead call emergency])

structure ExerciseCall where
  request : GrantExerciseRequest
  stage : CallStage

structure ExerciseSystem where
  ledger : InMemoryLedger
  calls : List ExerciseCall
  history : List ExecutionEvent

/-- When a ledger call raises, if it does. -/
inductive LedgerFault where
  | none | before | after

/-- One step of one call, with the answers it receives. -/
inductive ExerciseStep where
  | start (request : GrantExerciseRequest)
  | firstRead (call : Nat) (reading : StoreReading) (clock : Option String) (host : ExecutionHost)
  /-- The ledger acts on a reservation, at the instant it samples. -/
  | reserve (call : Nat) (now : String) (fault : LedgerFault)
  | reserveAnswer (call : Nat)
  | secondRead (call : Nat) (reading : StoreReading) (clock : Option String) (host : ExecutionHost)
  | adapterAnswer (call : Nat) (answer : AdapterAnswer)
  /-- The ledger acts on a settlement or a release, recorded at the gate's instant. -/
  | finalize (call : Nat) (recordedAt : Option String) (fault : LedgerFault)

namespace ExerciseSystem

def empty : ExerciseSystem := ⟨.empty,[],[]⟩

/-- The call moves on and the events join the history. -/
def move (s : ExerciseSystem) (call : Nat) (request : GrantExerciseRequest) (stage : CallStage)
    (events : List ExecutionEvent) : ExerciseSystem where
  ledger := s.ledger
  calls := s.calls.set call ⟨request,stage⟩
  history := s.history ++ events

/-- The answer to a reservation and the ledger after it. -/
def reserveWith (ledger : InMemoryLedger) (request : ExerciseReservationRequest) (now : String) :
    LedgerFault → Option ExerciseReservationOutcome × InMemoryLedger
  | .before => (none, ledger)
  | .none =>
      match ledger.reserve P request now with
      | .ok (outcome, ledger') => (some outcome, ledger')
      | .error _ => (none, ledger)
  | .after => (none, ledger.after P (.reserve request now))

/-- The event that a reservation's answer adds to the history. -/
def reservedEvents (call : Nat) : Option ExerciseReservationOutcome → List ExecutionEvent
  | some (.reserved record) => [.reserved call record]
  | _ => []

/-- The ledger after a finalization: unchanged when the clock or the ledger raised first. -/
def finalizeWith (ledger : InMemoryLedger) (reservation : ExerciseReservationHandle)
    (outcome : ExecutionOutcome) (recordedAt : Option String) : LedgerFault → InMemoryLedger
  | .before => ledger
  | _ =>
      match recordedAt with
      | none => ledger
      | some recordedAt => ledger.after P
          (finalizeCall reservation (reservationDispositionFor outcome) recordedAt)

/-- The terminal event that a finalization recorded, if it did. -/
def finalizedEvents (call : Nat) (reservationId : String) (before after : InMemoryLedger) :
    List ExecutionEvent :=
  match before.terminals.get reservationId, after.terminals.get reservationId with
  | none, some terminal => [.finalized call terminal]
  | _, _ => []

/-- A step of a call that does not stand where the step goes on from changes nothing. -/
def step (adapterIsTrustedRegistry : Bool) (s : ExerciseSystem) : ExerciseStep → ExerciseSystem
  | .start request => {
      ledger := s.ledger
      calls := s.calls ++ [⟨request,.firstRead⟩]
      history := s.history ++ [.started s.calls.length request] }
  | .firstRead call reading clock host =>
      match s.calls[call]? with
      | some ⟨request,.firstRead⟩ =>
          s.move call request (afterFirstRead P request reading clock host) []
      | _ => s
  | .reserve call now fault =>
      match s.calls[call]? with
      | some ⟨request,.reserving reservation assessment exercisedAt⟩ =>
          let (answer, ledger) := reserveWith P s.ledger reservation now fault
          { s.move call request (.reserveAnswered reservation answer assessment exercisedAt)
              (reservedEvents call answer) with ledger := ledger }
      | _ => s
  | .reserveAnswer call =>
      match s.calls[call]? with
      | some ⟨request,.reserveAnswered reservation answer assessment exercisedAt⟩ =>
          s.move call request (afterReserve request reservation answer assessment exercisedAt) []
      | _ => s
  | .secondRead call reading clock host =>
      match s.calls[call]? with
      | some ⟨request,.secondRead reservation⟩ =>
          let (stage, events) := afterSecondRead P call request reservation reading clock host
          s.move call request stage events
      | _ => s
  | .adapterAnswer call answer =>
      match s.calls[call]? with
      | some ⟨request,.executing reservation assessment exercisedAt⟩ =>
          s.move call request (.finalizing reservation
            ⟨executionStatus adapterIsTrustedRegistry answer,assessment,correlationOf request,
              exercisedAt⟩) []
      | _ => s
  | .finalize call recordedAt fault =>
      match s.calls[call]? with
      | some ⟨request,.finalizing reservation outcome⟩ =>
          let ledger := finalizeWith P s.ledger reservation outcome recordedAt fault
          { s.move call request (.done (some reservation) outcome)
              (finalizedEvents call reservation.reservationId s.ledger ledger) with
            ledger := ledger }
      | _ => s

def run (adapterIsTrustedRegistry : Bool) (steps : List ExerciseStep) : ExerciseSystem :=
  steps.foldl (step P adapterIsTrustedRegistry) empty

end ExerciseSystem

end Frontera.Execution
