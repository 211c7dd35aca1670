import Frontera.Platform
import Frontera.Text.Pattern
import Mathlib.Data.List.Sort

/-! The state of an obligation is derived on every read: its declaration, the observations of its
discharge in the order of their instants' texts, and the instant of the read. -/

namespace Frontera.Obligation

open Frontera.Text

inductive ObligationState where
  | required | pending | discharged | verified | waived | expired
deriving DecidableEq

/-- `OBLIGATION_STATE_TRANSITIONS` -/
def ObligationState.transitions : ObligationState → List ObligationState
  | .required => [.pending, .waived, .expired]
  | .pending => [.discharged, .waived, .expired]
  | .discharged => [.verified, .expired]
  | .verified => []
  | .waived => []
  | .expired => []

def isLegalObligationTransition (source target : ObligationState) : Bool :=
  source.transitions.contains target

/-- The index in `OBLIGATION_PROGRESS_CHAIN`. -/
def obligationProgressRank : ObligationState → Option Nat
  | .required => some 0
  | .pending => some 1
  | .discharged => some 2
  | .verified => some 3
  | .waived | .expired => none

/-- `SATISFYING_OBLIGATION_STATES` -/
def obligationStateSatisfies (state : ObligationState) : Bool :=
  state == .verified || state == .waived

def isObligationExpiredAt (P : Platform) (expiresAt instant : String) : Bool :=
  match P.dateParse expiresAt, P.dateParse instant with
  | some deadline, some now => decide (deadline ≤ now)
  | _, _ => false

structure ObligationCorrelation where
  (requestId action resourceScope : String)
deriving DecidableEq

structure ObligationRequirement where
  obligationType : String
  blocking : Bool
  expiresAt : Option String := none

inductive ObligationDischargeSourceKind where
  | request | internalStore | approvalRuntime | providerAdapter | signedAttestation | externalApi
deriving DecidableEq

inductive ObligationDischargeVerificationClass where
  | independent | selfReported
deriving DecidableEq

structure ObligationDischargeSource where
  id : String
  kind : ObligationDischargeSourceKind
  name : String
  verificationClass : ObligationDischargeVerificationClass

def isObligationType (value : String) : Bool :=
  value ≠ "" && decide ((codeUnits value).length ≤ 64) && identifierPattern.matchesText value

/-- No `validateObligationDeclaration` violation. -/
def isValidObligationDeclaration (P : Platform) (requirements : List ObligationRequirement) : Bool :=
  requirements.all (fun requirement => isObligationType requirement.obligationType &&
      requirement.expiresAt.all fun expiresAt => (P.dateParse expiresAt).isSome) &&
    decide ((requirements.map fun requirement => lowerCaseIdentifier requirement.obligationType).Nodup)

/-- No `validateObligationDischargeSource` violation. -/
def isValidObligationDischargeSource (source : ObligationDischargeSource) : Bool :=
  trim source.id ≠ "" && trim source.name ≠ "" &&
    (source.verificationClass == .selfReported ||
      [ObligationDischargeSourceKind.approvalRuntime, .providerAdapter, .signedAttestation].contains
        source.kind)

/-- A service is built only over a valid declaration and a valid registry. -/
structure ObligationLifecycleService (P : Platform) where
  sources : List ObligationDischargeSource
  requirements : List ObligationRequirement
  declaration_valid : isValidObligationDeclaration P requirements = true
  sources_valid : sources.all isValidObligationDischargeSource = true
  sources_once : (sources.map (·.id)).Nodup

inductive ObligationDischargeOutcome where
  | pending | discharged | refused | waived
deriving DecidableEq

def ObligationDischargeOutcome.text : ObligationDischargeOutcome → String
  | .pending => "pending"
  | .discharged => "discharged"
  | .refused => "refused"
  | .waived => "waived"

structure ObligationDischargeObservation where
  obligationType : String
  correlation : ObligationCorrelation
  sourceId : String
  outcome : ObligationDischargeOutcome
  observedAt : String
  subjectId : Option String := none
  reference : Option String := none

structure ObligationDischargeRecord where
  sourceId : String
  sourceKind : ObligationDischargeSourceKind
  verificationClass : ObligationDischargeVerificationClass
  outcome : ObligationDischargeOutcome
  observedAt : String
  (subjectId reference : Option String)

inductive ObligationObservationDisregardReason where
  | unregisteredSource | undeclaredObligation | correlationMismatch | waiverNotIndependent
  | verificationNotApplicable | illegalTransition

def ObligationObservationDisregardReason.text : ObligationObservationDisregardReason → String
  | .unregisteredSource => "unregistered_source"
  | .undeclaredObligation => "undeclared_obligation"
  | .correlationMismatch => "correlation_mismatch"
  | .waiverNotIndependent => "waiver_not_independent"
  | .verificationNotApplicable => "verification_not_applicable"
  | .illegalTransition => "illegal_transition"

structure DisregardedObligationObservation where
  (obligationType sourceId : String)
  outcome : ObligationDischargeOutcome
  observedAt : String
  reason : ObligationObservationDisregardReason

def disregard (observation : ObligationDischargeObservation)
    (reason : ObligationObservationDisregardReason) : DisregardedObligationObservation :=
  ⟨observation.obligationType,observation.sourceId,observation.outcome,observation.observedAt, reason⟩

/-- `compare(left, right) < 0` -/
def textsLt : List String → List String → Bool
  | a :: as, b :: bs => if stringLt a b then true else if stringLt b a then false else textsLt as bs
  | _, _ => false

def ObligationDischargeObservation.sortKey (observation : ObligationDischargeObservation) : List String :=
  [observation.observedAt, observation.obligationType, observation.sourceId, observation.outcome.text]

def observationLe (left right : ObligationDischargeObservation) : Bool :=
  !textsLt right.sortKey left.sortKey

def sortObservations (observations : List ObligationDischargeObservation) :
    List ObligationDischargeObservation :=
  observations.insertionSort fun left right => observationLe left right

def DisregardedObligationObservation.sortKey (entry : DisregardedObligationObservation) : List String :=
  [entry.obligationType, entry.observedAt, entry.sourceId, entry.outcome.text, entry.reason.text]

def sortDisregarded (entries : List DisregardedObligationObservation) :
    List DisregardedObligationObservation :=
  entries.insertionSort fun left right => !textsLt right.sortKey left.sortKey

inductive ObligationTransitionReason where
  | activated | dischargeReported | dischargeConfirmed | waiverRecorded | deadlinePassed

structure ObligationTransition where
  (source target : ObligationState)
  instant : String
  reason : ObligationTransitionReason

/-- `ObligationVerificationRecord`, of an attempt that did not succeed. -/
structure ObligationVerificationRecord where
  sourceId : String
  sourceKind : ObligationDischargeSourceKind
  verificationClass : ObligationDischargeVerificationClass
  observedAt : String
  (subjectId reference : Option String)

structure ObligationInstance where
  (id obligationType : String)
  blocking : Bool
  correlation : ObligationCorrelation
  state : ObligationState
  declaredAt : String
  transitions : List ObligationTransition
  discharge : Option ObligationDischargeRecord
  verification : Option ObligationVerificationRecord
  expiresAt : Option String

def obligationInstanceId (correlation : ObligationCorrelation) (obligationType : String) : String :=
  "aoc.obligation:" ++ correlation.requestId ++ ":" ++ correlation.action ++ ":" ++
    correlation.resourceScope ++ ":" ++ obligationType

def declareObligation (requirement : ObligationRequirement) (correlation : ObligationCorrelation)
    (declaredAt : String) : ObligationInstance where
  id := obligationInstanceId correlation requirement.obligationType
  obligationType := requirement.obligationType
  blocking := requirement.blocking
  correlation := correlation
  state := .required
  declaredAt := declaredAt
  transitions := []
  discharge := none
  verification := none
  expiresAt := requirement.expiresAt

def obligationWithholdsExercise (inst : ObligationInstance) : Bool :=
  inst.blocking && !obligationStateSatisfies inst.state

inductive ObligationTransitionOutcome where
  | applied (inst : ObligationInstance)
  | unchanged (inst : ObligationInstance)
  | illegal (inst : ObligationInstance) (source target : ObligationState)

def transitionObligation (inst : ObligationInstance) (target : ObligationState) (instant : String)
    (reason : ObligationTransitionReason) (discharge : Option ObligationDischargeRecord) :
    ObligationTransitionOutcome :=
  if inst.state = target then .unchanged inst
  else
    match obligationProgressRank inst.state, obligationProgressRank target with
    | some currentRank, some targetRank =>
        if targetRank < currentRank then .unchanged inst else step
    | _, _ => step
where
  step : ObligationTransitionOutcome :=
    if !isLegalObligationTransition inst.state target then .illegal inst inst.state target
    else
      .applied { inst with
        state := target
        transitions := inst.transitions ++ [⟨inst.state,target,instant,reason⟩]
        discharge := discharge.or inst.discharge }

structure AdmissibleObservation where
  observation : ObligationDischargeObservation
  source : ObligationDischargeSource

def stepsFor (outcome : ObligationDischargeOutcome)
    (verificationClass : ObligationDischargeVerificationClass) :
    List (ObligationState × ObligationTransitionReason) :=
  match outcome, verificationClass with
  | .pending, _ => [(.pending, .activated)]
  | .discharged, .independent =>
      [(.pending, .activated), (.discharged, .dischargeReported), (.verified, .dischargeConfirmed)]
  | .discharged, .selfReported => [(.pending, .activated), (.discharged, .dischargeReported)]
  | .waived, _ => [(.waived, .waiverRecorded)]
  | .refused, _ => []

def dischargeRecordFor (entry : AdmissibleObservation) : Option ObligationDischargeRecord :=
  if entry.observation.outcome = .pending then none
  else
    some ⟨entry.source.id,entry.source.kind,entry.source.verificationClass,
      entry.observation.outcome,entry.observation.observedAt,entry.observation.subjectId,
      entry.observation.reference⟩

def verificationRecordFor (entry : AdmissibleObservation) : ObligationVerificationRecord :=
  ⟨entry.source.id,entry.source.kind,entry.source.verificationClass,entry.observation.observedAt,
    entry.observation.subjectId,entry.observation.reference⟩

/-- The steps of one observation in order, the record on the last; `none`: one is illegal. -/
def takeSteps (instant : String) (record : Option ObligationDischargeRecord) :
    ObligationInstance → List (ObligationState × ObligationTransitionReason) → Option ObligationInstance
  | inst, [] => some inst
  | inst, step :: steps =>
      match transitionObligation inst step.1 instant step.2
          (if steps.isEmpty then record else none) with
      | .illegal _ _ _ => none
      | .applied inst => takeSteps instant record inst steps
      | .unchanged inst => takeSteps instant record inst steps

structure Resolving where
  instances : List ObligationInstance
  disregarded : List DisregardedObligationObservation

/-- `instances.get(obligationType)` -/
def Resolving.instanceOf (resolving : Resolving) (obligationType : String) : Option ObligationInstance :=
  resolving.instances.find? fun inst => inst.obligationType == obligationType

/-- `instances.set(obligationType, inst)` -/
def Resolving.put (resolving : Resolving) (inst : ObligationInstance) : Resolving :=
  { resolving with instances := resolving.instances.map fun entry =>
      if entry.obligationType = inst.obligationType then inst else entry }

def Resolving.disregard (resolving : Resolving) (observation : ObligationDischargeObservation)
    (reason : ObligationObservationDisregardReason) : Resolving :=
  { resolving with
    disregarded := resolving.disregarded ++ [Obligation.disregard observation reason] }

def applyEntry (instant : String) (resolving : Resolving) (entry : AdmissibleObservation) : Resolving :=
  match resolving.instanceOf entry.observation.obligationType with
  | none => resolving
  | some current =>
      if entry.observation.outcome = .refused then
        if current.state ≠ .discharged then
          resolving.disregard entry.observation .verificationNotApplicable
        else resolving.put { current with verification := some (verificationRecordFor entry) }
      else
        match takeSteps instant (dischargeRecordFor entry) current
            (stepsFor entry.observation.outcome entry.source.verificationClass) with
        | none => resolving.disregard entry.observation .illegalTransition
        | some inst => resolving.put inst

/-- The deadline, after the observations. -/
def applyExpiry (P : Platform) (instant : String) (inst : ObligationInstance) : ObligationInstance :=
  match inst.expiresAt with
  | none => inst
  | some expiresAt =>
      if !isObligationExpiredAt P expiresAt instant then inst
      else if !isLegalObligationTransition inst.state .expired then inst
      else
        match transitionObligation inst .expired instant .deadlinePassed none with
        | .applied inst => inst
        | _ => inst

inductive ObligationExerciseEligibility where
  | eligible | blocked

structure ObligationResolution where
  declaredTypes : List String
  obligations : List ObligationInstance
  disregarded : List DisregardedObligationObservation
  exerciseEligibility : ObligationExerciseEligibility
  resolvedAt : String

namespace ObligationLifecycleService

variable {P : Platform} (service : ObligationLifecycleService P)

def requirementOf (obligationType : String) : Option ObligationRequirement :=
  service.requirements.find? fun requirement => requirement.obligationType == obligationType

def sourceOf (sourceId : String) : Option ObligationDischargeSource :=
  service.sources.find? fun source => source.id == sourceId

/-- The declared requirements in the order of their types. -/
def declaredRequirements : List ObligationRequirement :=
  service.requirements.insertionSort fun left right =>
    !stringLt right.obligationType left.obligationType

def declaredTypes : List String := service.declaredRequirements.map (·.obligationType)

def declare (correlation : ObligationCorrelation) (instant : String) : List ObligationInstance :=
  service.declaredRequirements.map fun requirement =>
    declareObligation requirement correlation instant

/-- An observation that may count, or why it does not. -/
def admission (correlation : ObligationCorrelation) (observation : ObligationDischargeObservation) :
    Except ObligationObservationDisregardReason AdmissibleObservation :=
  if (service.requirementOf observation.obligationType).isNone then .error .undeclaredObligation
  else if observation.correlation ≠ correlation then .error .correlationMismatch
  else
    match service.sourceOf observation.sourceId with
    | none => .error .unregisteredSource
    | some source =>
        if observation.outcome = .waived ∧ source.verificationClass ≠ .independent then
          .error .waiverNotIndependent
        else .ok ⟨observation,source⟩

def admissible (correlation : ObligationCorrelation)
    (observations : List ObligationDischargeObservation) : List AdmissibleObservation :=
  (sortObservations observations).filterMap fun observation =>
    (service.admission correlation observation).toOption

def refusals (correlation : ObligationCorrelation)
    (observations : List ObligationDischargeObservation) : List DisregardedObligationObservation :=
  (sortObservations observations).filterMap fun observation =>
    match service.admission correlation observation with
    | .ok _ => none
    | .error reason => some (Obligation.disregard observation reason)

def resolve (observations : List ObligationDischargeObservation)
    (correlation : ObligationCorrelation) (instant : String) : ObligationResolution :=
  let resolving := (service.admissible correlation observations).foldl (applyEntry instant)
    ⟨service.declare correlation instant,service.refusals correlation observations⟩
  let obligations := resolving.instances.map (applyExpiry P instant)
  { declaredTypes := service.declaredTypes
    obligations := obligations
    disregarded := sortDisregarded resolving.disregarded
    exerciseEligibility :=
      if obligations.any obligationWithholdsExercise then .blocked else .eligible
    resolvedAt := instant }

end ObligationLifecycleService

end Frontera.Obligation
