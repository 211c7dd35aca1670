import Frontera.Obligation.Lifecycle
import Frontera.Data.Runs

/-! Reports of one organization, recorded one at a time, and what the lifecycle is given of them.
The store is the list of the rows it has committed; their positions and digests, and the signed head
that a read verifies first, are left out. -/

namespace Frontera.Obligation

inductive ObligationDischargeErrorCode where
  | writerUntrusted | invalid

structure ObligationDischargeError where
  code : ObligationDischargeErrorCode
  message : String

structure ObligationDischargeWriterContext where
  system : Bool
  actorId : String

structure ObligationDischargeRecordInput where
  correlation : ObligationCorrelation
  (obligationType sourceId : String)
  outcome : ObligationDischargeOutcome
  observedAt : String
  reference : Option String := none
  subjectId : Option String := none
deriving DecidableEq

structure ObligationDischargeContent extends ObligationDischargeRecordInput where
  (organizationId recordedBy recordedAt : String)
deriving DecidableEq

structure ObligationDischargeRecorderOptions where
  sources : List ObligationDischargeSource
  organizationId : String

/-- `isText`: at most 256 code units, and not white space alone. -/
def isText (value : String) : Bool :=
  trim value ≠ "" && decide ((codeUnits value).length ≤ 256)

def rowsForCorrelation (rows : List ObligationDischargeContent)
    (correlation : ObligationCorrelation) : List ObligationDischargeContent :=
  rows.filter fun row => row.correlation = correlation

/-- The instant of a row is not before this one; an instant that is none compares as false. -/
def notBefore (P : Platform) (observedAt : String) (row : ObligationDischargeContent) : Bool :=
  match P.dateParse row.observedAt, P.dateParse observedAt with
  | some recorded, some instant => decide (instant ≤ recorded)
  | _, _ => false

def liesInTheFuture (P : Platform) (observedAt recordedAt : String) : Bool :=
  match P.dateParse observedAt, P.dateParse recordedAt with
  | some observed, some recorded => decide (recorded < observed)
  | _, _ => false

def invalid (message : String) : Except ObligationDischargeError ObligationDischargeContent :=
  .error ⟨.invalid,message⟩

/-- The row a report becomes, behind every check. -/
def recordOnce (P : Platform) (options : ObligationDischargeRecorderOptions)
    (rows : List ObligationDischargeContent) (writer : ObligationDischargeWriterContext)
    (input : ObligationDischargeRecordInput) (recordedAt : String) :
    Except ObligationDischargeError ObligationDischargeContent :=
  if !writer.system || !isText writer.actorId then
    .error ⟨.writerUntrusted,"Recording an obligation discharge requires a trusted writer context \x7b system: true, actorId \x7d."⟩
  else if !isText input.correlation.requestId || !isText input.correlation.action ||
      !isText input.correlation.resourceScope then
    invalid "The correlation must name a requestId, an action and a resourceScope."
  else if !isObligationType input.obligationType then
    invalid "The obligation kind is not a well-formed identifier."
  else if !options.sources.any fun source => source.id == input.sourceId then
    invalid "The report must cite a configured discharge source."
  else if (P.dateParse input.observedAt).isNone then
    invalid "observedAt must be a valid ISO-8601 instant."
  else if liesInTheFuture P input.observedAt recordedAt then
    invalid "observedAt lies in the future; a report of something that has not happened yet is not recorded."
  else if !input.reference.all isText then
    invalid "reference must be a non-empty string of at most 256 characters when present."
  else if !input.subjectId.all isText then
    invalid "subjectId must be a non-empty string of at most 256 characters when present."
  else if ((rowsForCorrelation rows input.correlation).filter fun row =>
      row.obligationType == input.obligationType).any (notBefore P input.observedAt) then
    invalid "A report for this obligation was already recorded at or after this observation time; reports are recorded in time order."
  else .ok ⟨input,options.organizationId,writer.actorId,recordedAt⟩

structure ObligationDischargeReport where
  writer : ObligationDischargeWriterContext
  input : ObligationDischargeRecordInput
  recordedAt : String

/-- One report: recorded, or refused and nothing is written. -/
def record (P : Platform) (options : ObligationDischargeRecorderOptions)
    (rows : List ObligationDischargeContent) (report : ObligationDischargeReport) :
    List ObligationDischargeContent :=
  match recordOnce P options rows report.writer report.input report.recordedAt with
  | .ok row => rows ++ [row]
  | .error _ => rows

def recordAll (P : Platform) (options : ObligationDischargeRecorderOptions)
    (reports : List ObligationDischargeReport) : List ObligationDischargeContent :=
  reports.foldl (record P options) []

def ObligationDischargeContent.observation (row : ObligationDischargeContent) :
    ObligationDischargeObservation where
  obligationType := row.obligationType
  correlation := row.correlation
  sourceId := row.sourceId
  outcome := row.outcome
  observedAt := row.observedAt
  subjectId := row.subjectId
  reference := row.reference

variable {P : Platform}

/-- What the stored provider answers: the rows of a correlation, as observations. -/
def ObligationLifecycleService.dischargesOf (service : ObligationLifecycleService P)
    (rows : List ObligationDischargeContent) (correlation : ObligationCorrelation) :
    List ObligationDischargeObservation :=
  ((rowsForCorrelation rows correlation).filter fun row =>
    service.declaredTypes.contains row.obligationType).map (·.observation)

/-- The lifecycle over the rows of a store. -/
def ObligationLifecycleService.resolveStored (service : ObligationLifecycleService P)
    (rows : List ObligationDischargeContent) (correlation : ObligationCorrelation)
    (instant : String) : ObligationResolution :=
  service.resolve (service.dischargesOf rows correlation) correlation instant

end Frontera.Obligation
