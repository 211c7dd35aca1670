import Frontera.Data.Programs
import Frontera.StatusHistory.Mark

/-! A check of a document's use against the receiver's history, and the anchoring of that history,
as programs over a store that reads and compares-and-sets. -/

namespace Frontera.StatusHistory

open Frontera.Data Frontera.Text

inductive StoreOperation where
  | read (key : StatusHistoryKey)
  | compareAndSet (key : StatusHistoryKey) (expectedRevision : Option Int)
      (next : StatusHighWaterMark)

/-- What an operation answers; `none` when it throws. -/
def StoreOperation.Answer : StoreOperation → Type
  | .read _ => Option (Option StatusHighWaterMarkEntry)
  | .compareAndSet _ _ _ => Option Bool

def statusStore : Interface := ⟨StoreOperation,StoreOperation.Answer⟩

/-- What becomes of a write: it is answered, declined, or lost before or after it took effect. -/
inductive WriteFate where
  | answered | declined | lostBefore | lostAfter

abbrev Histories := StatusHistoryKey → Option StatusHighWaterMarkEntry

/-- The histories after the write of a mark. -/
def Histories.write (histories : Histories) (key : StatusHistoryKey) (next : StatusHighWaterMark) :
    Histories :=
  Function.update histories key
    (some ⟨((histories key).map (·.revision)).getD 0 + 1,next⟩)

theorem Histories.write_apply (histories : Histories) (key other : StatusHistoryKey)
    (next : StatusHighWaterMark) :
    histories.write key next other =
      if other = key then some ⟨((histories key).map (·.revision)).getD 0 + 1,next⟩
      else histories other := by
  simp [write,Function.update_apply]

/-- The histories after a write, and what it is answered; nothing when it is lost. -/
def Histories.compareAndSet (histories : Histories) (key : StatusHistoryKey)
    (expectedRevision : Option Int) (next : StatusHighWaterMark) (fate : WriteFate) :
    Histories × Option Bool :=
  let matched := decide ((histories key).map (·.revision) = expectedRevision)
  match fate with
  | .answered =>
      if matched then (histories.write key next, some true) else (histories, some false)
  | .declined => (histories, some false)
  | .lostBefore => (histories, none)
  | .lostAfter => if matched then (histories.write key next, none) else (histories, none)

/-- A store whose `compareAndSet` checks the revision and writes in one step. -/
def linearizableStore : World statusStore where
  State := Histories
  Choice
    | .read _ => Bool
    | .compareAndSet _ _ _ => WriteFate
  act
    | .read key, histories, answers => (histories, if answers then some (histories key) else none)
    | .compareAndSet key expectedRevision next, histories, fate =>
        Histories.compareAndSet histories key expectedRevision next fate

inductive ReadEntry where
  | unavailable | invalid | absent
  | found (revision : Int) (mark : StatusHighWaterMark)

def readEntry (key : StatusHistoryKey) : Option (Option StatusHighWaterMarkEntry) → ReadEntry
  | none => .unavailable
  | some none => .absent
  | some (some entry) =>
      match readMark entry.mark with
      | none => .invalid
      | some mark =>
          if isSafeInteger entry.revision = true ∧ 1 ≤ entry.revision ∧ mark.key = key then
            .found entry.revision mark
          else .invalid

/-- `MAX_ATTEMPTS` -/
def maxAttempts : Nat := 4

inductive DocumentUseAction where
  | access | export | modifyProtectedTerms
deriving DecidableEq

def DocumentUseAction.ofText : String → Option DocumentUseAction
  | "aoc.licensing:access" => some .access
  | "soberania.document:export" => some .export
  | "soberania.document:modify-protected-terms" => some .modifyProtectedTerms
  | _ => none

/-- `DOCUMENT_USE_FRESHNESS_CEILINGS` -/
def DocumentUseAction.ceiling : DocumentUseAction → Int
  | .access => 86400
  | .export => 900
  | .modifyProtectedTerms => 900

inductive DocumentUsePolicyDecisionValue where
  | allowed | denied | withheld

/-- A decision issued in this process, with the eligibility it was evaluated over. -/
structure IssuedDecision where
  decision : DocumentUsePolicyDecisionValue
  (action evaluationTime : Option String)
  (sovereignAssetId registrant : String)
  terms : SovereignStatusTermsReference
  manifestDigest : Option String

structure FreshnessContext where
  resolved : Resolved
  (evaluationTime operationId : String)
  maxStatusAgeSeconds : DocumentUseAction → Int

/-- A check: the decision when it was issued here, the presented text, the context when it could
be read as one. -/
structure CheckInput where
  decision : Option IssuedDecision
  presented : Option String
  context : Option FreshnessContext

def maxOperationIdLength : Nat := 256

def isLimit (action : DocumentUseAction) (limit : Int) : Bool :=
  isSafeInteger limit && decide (1 ≤ limit) && decide (limit ≤ action.ceiling)

def readContext (context : FreshnessContext) : Option FreshnessContext :=
  if isIdentifier context.operationId = true ∧
      (codeUnits context.operationId).length ≤ maxOperationIdLength ∧
      ([.access, .export, .modifyProtectedTerms].all fun action =>
        isLimit action (context.maxStatusAgeSeconds action)) = true then
    some context
  else none

inductive DocumentUseFreshnessVerdict where
  | fresh | stale | expired | revoked | withdrawn | superseded | unknown | rollbackDetected
  | conflictDetected | continuityUnproven | historyUninitialized | historyStoreUnavailable
  | historyStoreInvalid | clockRollbackDetected | statusBindingMismatch | statusVerificationFailed
  | policyProvenanceInvalid | unsupportedAction | contextInvalid

inductive HistoryInitialization where
  | established | uninitialized | unknown

inductive HistoryTransition where
  | notAttempted | unchanged | advanced | advancedWithGap | conflictRecorded | refused

/-- The sequence and the digest of a head. -/
structure HeadEvidence where
  sequence : Int
  statusDigest : String

def StatusHighWaterMark.evidence (mark : StatusHighWaterMark) : HeadEvidence :=
  ⟨mark.sequence,mark.statusDigest⟩

structure DocumentUseFreshnessHistoryEvidence where
  initialization : HistoryInitialization := .unknown
  before : Option HeadEvidence := none
  after : Option HeadEvidence := none
  transition : HistoryTransition := .notAttempted

structure DocumentUseFreshnessStatusEvidence where
  sequence : Int
  statusDigest : String
  assetStatus : SovereignAssetStatusValue
  currentTermsDigest : Option String
  (issuedAt validUntil : String)

structure GateState where
  operationId : Option String := none
  action : Option String := none
  sovereignAssetId : Option String := none
  policy : Option SovereignStatusTermsReference := none
  evaluationTime : Option String := none
  before : Option DocumentUsePolicyDecisionValue := none
  statusRejection : Option SovereignStatusRejectionReason := none
  status : Option DocumentUseFreshnessStatusEvidence := none
  history : DocumentUseFreshnessHistoryEvidence := {}
  maxStatusAgeSeconds : Option Int := none

structure DocumentUseFreshnessResult extends GateState where
  freshnessVerdict : DocumentUseFreshnessVerdict
  policyDecisionAfterFreshness : DocumentUsePolicyDecisionValue

/-- Only `fresh` lets a decision stand, and nothing rises. -/
def result (verdict : DocumentUseFreshnessVerdict) (state : GateState) : DocumentUseFreshnessResult :=
  { state with
    freshnessVerdict := verdict
    policyDecisionAfterFreshness :=
      match verdict, state.before with
      | .fresh, some .allowed => .allowed
      | .fresh, some .withheld => .withheld
      | _, _ => .denied }

def statusVerdict : SovereignStatusRejectionReason → DocumentUseFreshnessVerdict
  | .statusExpired => .expired
  | .statusSubjectMismatch | .manifestBindingMismatch | .statusIssuerUnauthorized =>
      .statusBindingMismatch
  | _ => .statusVerificationFailed

def statusEvidence (verified : SovereignStatusVerified) : DocumentUseFreshnessStatusEvidence where
  sequence := verified.sequence
  statusDigest := verified.statusDigest
  assetStatus := verified.assetStatus
  currentTermsDigest := verified.termsDigest
  issuedAt := verified.issuedAt
  validUntil := verified.validUntil

/-- A check that has reached the history. -/
structure Prepared where
  state : GateState
  verified : SovereignStatusVerified
  policy : SovereignStatusTermsReference
  (now maxAgeSeconds : Int)

def SovereignStatusVerified.historyKey (verified : SovereignStatusVerified) : StatusHistoryKey :=
  ⟨verified.sovereignAssetId,verified.issuer⟩

/-- What a check does before it reads its history. -/
def prepare (H : Host) (input : CheckInput) : Except DocumentUseFreshnessResult Prepared :=
  match input.decision with
  | none => .error (result .policyProvenanceInvalid {})
  | some issued =>
      let state : GateState := {
        before := some issued.decision
        action := issued.action
        sovereignAssetId := some issued.sovereignAssetId
        policy := some issued.terms
        evaluationTime := issued.evaluationTime }
      match issued.manifestDigest with
      | none => .error (result .policyProvenanceInvalid state)
      | some manifestDigest =>
          match input.context.bind readContext with
          | none => .error (result .contextInvalid state)
          | some context =>
              let state := { state with operationId := some context.operationId }
              match canonicalInstant context.evaluationTime with
              | none => .error (result .contextInvalid state)
              | some now =>
                  if issued.evaluationTime ≠ some context.evaluationTime then
                    .error (result .contextInvalid state)
                  else
                    match issued.action.bind DocumentUseAction.ofText with
                    | none => .error (result .unsupportedAction state)
                    | some action =>
                        let limit := context.maxStatusAgeSeconds action
                        let state := { state with maxStatusAgeSeconds := some limit }
                        match input.presented with
                        | none => .error (result .unknown state)
                        | some text =>
                            match verifySovereignStatus H (some text) {
                              expectedSovereignAssetId := issued.sovereignAssetId
                              expectedRegistrant := issued.registrant
                              expectedManifestDigest := manifestDigest
                              evaluationTime := context.evaluationTime
                              resolved := context.resolved } with
                            | .error reason => .error (result (statusVerdict reason)
                                { state with statusRejection := some reason })
                            | .ok verified => .ok {
                                state := { state with status := some (statusEvidence verified) }
                                verified := verified
                                policy := issued.terms
                                now := now
                                maxAgeSeconds := limit }

/-- What the presented status says, once it is the head of its history. -/
def conclude (prepared : Prepared) (head : StatusHighWaterMark) : DocumentUseFreshnessVerdict :=
  if head.continuity ≠ .verified then .continuityUnproven
  else if prepared.verified.assetStatus = .withdrawn then .withdrawn
  else if prepared.verified.currentTerms = none then .revoked
  else if prepared.verified.currentTerms ≠ some prepared.policy then .superseded
  else if prepared.maxAgeSeconds * nanosPerSecond <
      prepared.now - instantOf prepared.verified.issuedAt then .stale
  else .fresh

/-- What a check makes of its read; a write that is refused leads to another attempt. -/
def settle (prepared : Prepared)
    (retry : DocumentUseFreshnessHistoryEvidence → Prog statusStore DocumentUseFreshnessResult)
    (history : DocumentUseFreshnessHistoryEvidence)
    (answer : Option (Option StatusHighWaterMarkEntry)) :
    Prog statusStore DocumentUseFreshnessResult :=
  match readEntry prepared.verified.historyKey answer with
  | .unavailable =>
      pure (result .historyStoreUnavailable { prepared.state with history := history })
  | .invalid => pure (result .historyStoreInvalid { prepared.state with history := history })
  | .absent => pure (result .historyUninitialized
      { prepared.state with history := { initialization := .uninitialized } })
  | .found revision mark =>
      let history : DocumentUseFreshnessHistoryEvidence := {
        initialization := .established
        before := some mark.evidence
        after := some mark.evidence }
      let verdictOn (verdict : DocumentUseFreshnessVerdict) (head : StatusHighWaterMark)
          (transition : HistoryTransition) : DocumentUseFreshnessResult :=
        result verdict { prepared.state with
          history := { history with after := some head.evidence, transition := transition } }
      let write (next : StatusHighWaterMark) (written : DocumentUseFreshnessResult) :
          Prog statusStore DocumentUseFreshnessResult :=
        .ask (.compareAndSet prepared.verified.historyKey (some revision) next)
          fun (answer : Option Bool) =>
            match answer with
            | none => pure (result .historyStoreUnavailable
                { prepared.state with history := history })
            | some false => retry history
            | some true => pure written
      if prepared.now < instantOf mark.timeFloor then
        pure (result .clockRollbackDetected { prepared.state with history := history })
      else if mark.conflict then
        pure (result .conflictDetected { prepared.state with history := history })
      else
        match transition mark prepared.verified with
        | .rollback => pure (verdictOn .rollbackDetected mark .refused)
        | .unchanged => pure (verdictOn (conclude prepared mark) mark .unchanged)
        | .conflict next => write next (verdictOn .conflictDetected next .conflictRecorded)
        | .advance next gap => write next (verdictOn (conclude prepared next) next
            (if gap then .advancedWithGap else .advanced))

/-- The attempts a check has left, with the evidence of the last one. -/
def attempts (prepared : Prepared) : Nat → DocumentUseFreshnessHistoryEvidence →
    Prog statusStore DocumentUseFreshnessResult
  | 0, history => pure (result .historyStoreUnavailable { prepared.state with history := history })
  | n + 1, history =>
      .ask (.read prepared.verified.historyKey) (settle prepared (attempts prepared n) history)

def checkDocumentUseFreshness (H : Host) (input : CheckInput) :
    Prog statusStore DocumentUseFreshnessResult :=
  match prepare H input with
  | .error refused => pure refused
  | .ok prepared => attempts prepared maxAttempts {}

structure BootstrapInput where
  presented : Option String
  context : Option SovereignStatusTrustedContext
  reanchor : Bool

structure StatusHistoryBootstrapResult where
  reason : StatusHistoryBootstrapReason
  statusRejection : Option SovereignStatusRejectionReason := none
  mark : Option StatusHighWaterMark := none

/-- An anchoring that has reached the history. -/
structure Anchoring where
  reanchor : Bool
  verified : SovereignStatusVerified
  evaluationTime : String

def prepareAnchoring (H : Host) (input : BootstrapInput) : Except StatusHistoryBootstrapResult Anchoring :=
  match input.context with
  | none => .error { reason := .contextInvalid }
  | some context =>
      match canonicalInstant context.evaluationTime with
      | none => .error { reason := .contextInvalid }
      | some _ =>
          match verifySovereignStatus H input.presented context with
          | .error .contextInvalid | .error .evaluationTimeInvalid =>
              .error { reason := .contextInvalid }
          | .error reason => .error { reason := .statusRejected, statusRejection := some reason }
          | .ok verified => .ok ⟨input.reanchor,verified,context.evaluationTime⟩

/-- What an anchoring makes of its read. -/
def anchor (anchoring : Anchoring) (retry : Prog statusStore StatusHistoryBootstrapResult)
    (answer : Option (Option StatusHighWaterMarkEntry)) :
    Prog statusStore StatusHistoryBootstrapResult :=
  let attempt (expected : Option Int) (read : Option StatusHighWaterMark) :
      Prog statusStore StatusHistoryBootstrapResult :=
    match anchoredMark anchoring.reanchor anchoring.verified anchoring.evaluationTime read with
    | .error reason => pure { reason := reason }
    | .ok next =>
        .ask (.compareAndSet anchoring.verified.historyKey expected next)
          fun (written : Option Bool) =>
            match written with
            | none => pure { reason := .historyStoreUnavailable }
            | some false => retry
            | some true => pure {
                reason := if read.isSome then .reestablished else .established
                mark := some next }
  match readEntry anchoring.verified.historyKey answer with
  | .unavailable => pure { reason := .historyStoreUnavailable }
  | .invalid => pure { reason := .historyStoreInvalid }
  | .absent => attempt none none
  | .found revision mark => attempt (some revision) (some mark)

/-- The attempts an anchoring has left. -/
def anchoringAttempts (anchoring : Anchoring) : Nat → Prog statusStore StatusHistoryBootstrapResult
  | 0 => pure { reason := .historyStoreUnavailable }
  | n + 1 => .ask (.read anchoring.verified.historyKey)
      (anchor anchoring (anchoringAttempts anchoring n))

def establishStatusHistory (H : Host) (input : BootstrapInput) :
    Prog statusStore StatusHistoryBootstrapResult :=
  match prepareAnchoring H input with
  | .error refused => pure refused
  | .ok anchoring => anchoringAttempts anchoring maxAttempts

inductive Call where
  | check (input : CheckInput)
  | establish (input : BootstrapInput)

inductive Reply where
  | checked (result : DocumentUseFreshnessResult)
  | anchored (result : StatusHistoryBootstrapResult)

/-- The program of a call. -/
def callProgram (H : Host) : Call → Prog statusStore Reply
  | .check input => checkDocumentUseFreshness H input >>= fun result => pure (.checked result)
  | .establish input => establishStatusHistory H input >>= fun result => pure (.anchored result)

abbrev Receiver := System linearizableStore Call Reply

/-- Only calls change the store. -/
def nothingOutside (event : Empty) (_ : Histories) : Histories := event.elim

/-- A run of calls over an empty store. -/
def receiverRun (H : Host) (events : List (Event linearizableStore Call Empty)) : Receiver :=
  System.run (callProgram H) nothingOutside (System.initial fun _ => none) events

end Frontera.StatusHistory
