import Frontera.Approval.Policies
import Frontera.Approval.Record
import Frontera.Approval.Subject
import Frontera.Context.Facts

/-! Nothing is stored but the rows of the log. The state is replayed from them on every read:
request expiry is judged at the instant a verdict was recorded, the standing of its author at the
instant of the read. -/

namespace Frontera.Approval

open Frontera.Context Frontera.Data Frontera.Text

/-- What the replay asks of its host: `toISOString`, which is never empty, and `JSON.parse`. -/
structure Host (P : Platform) extends Dates P where
  toISOString_ne_empty : ∀ n, toISOString n ≠ ""
  parseJson : String → Option (Json String)

structure ApprovalAuthorityQuery where
  (actorId capability resourceScope instant : String)

/-- The answers of the Kernel-Authority world; `none` is a throw. -/
structure ApprovalAuthorityPort where
  recognition : String → Option ApprovalApproverRecognitionResult
  authority : ApprovalAuthorityQuery → Option ApprovalAuthorityCheckResult

variable {P : Platform} (H : Host P)

/-- `new Date(Date.parse(instant) + seconds * 1000).toISOString()`, which throws on what is
no instant of a `Date`. -/
def plusSeconds (instant : String) (seconds : Int) : Option String := do
  let ms ← P.dateParse instant
  if |ms + seconds * 1000| ≤ maxTime then some (H.toISOString (ms + seconds * 1000)) else none

structure ApprovalEvidenceReference where
  (type hash : String)
  uri : Option String

/-- A value that is a string. -/
def asString : Option (Json String) → Option String
  | some (.str value) => some value
  | _ => none

/-- One reviewed reference, when it carries a type and a hash. -/
def evidenceArtifact (row : StoredApprovalRecord) (actorId : String) (entry : Json String) :
    Option ApprovalEvidenceArtifact := do
  let type ← asString (entry.get "type")
  let hash ← asString (entry.get "hash")
  some { id := hash, type, providedByActorId := actorId, hash := some hash,
         uri := asString (entry.get "uri"), createdAt := row.recordedAt }

def evidenceArtifacts (row : StoredApprovalRecord) (actorId : String) : List ApprovalEvidenceArtifact :=
  match row.evidence.bind H.parseJson with
  | some (.arr entries) => entries.filterMap (evidenceArtifact row actorId)
  | _ => []

def runtimeRequirementOf (subject : ApprovalSubject) : ApprovalRequirement where
  id := "approval-requirement:" ++ subject.requirementDigest
  trustDomainId := subject.organizationId
  action := subject.action
  resourceScope := subject.resourceScope
  requiredAuthorityCapability := some subject.requirement.approverAction
  minimumApprovals := subject.requirement.minimumApprovals
  requiresSegregationOfDuties := true
  evidenceRequirements := (subject.requirement.requiredEvidence.getD []).map fun type =>
    { id := type, type, required := true,
      description := "Required by " ++ subject.governanceProfile ++ "." }

def runtimeRequestOf (subject : ApprovalSubject) (approvalRequestId : String)
    (status : ApprovalRequestStatus) : Option ApprovalRequest := do
  let expiresAt ← plusSeconds H subject.decision.evaluatedAt subject.requirement.requestTtlSeconds
  some {
    id := approvalRequestId
    trustDomainId := subject.organizationId
    actionRequestId := subject.requestId
    requestedByActorId := subject.actorId
    -- The governed actor is also the target of its own action.
    targetActorId := subject.actorId
    principalActorId := subject.principalActorId
    action := subject.action
    resourceScope := subject.resourceScope
    requirement := runtimeRequirementOf subject
    status
    createdAt := subject.decision.evaluatedAt
    expiresAt := some expiresAt }

/-- Both answers of the port, or none when either throws. -/
def standingOf (authority : ApprovalAuthorityPort) (actorId capability resourceScope instant : String) :
    Option (ApprovalApproverRecognitionResult × ApprovalAuthorityCheckResult) := do
  let approverRecognition ← authority.recognition actorId
  let authorityCheck ← authority.authority ⟨actorId,capability,resourceScope,instant⟩
  some (approverRecognition, authorityCheck)

/-- Unreadable authority is no authority. -/
def unreadableStanding : ApprovalApproverRecognitionResult × ApprovalAuthorityCheckResult :=
  (⟨false,"APPROVER_UNKNOWN","Kernel-Authority could not be read."⟩,
    ⟨false,"authority_missing","APPROVER_AUTHORITY_MISSING",
      "Kernel-Authority could not be read."⟩)

def policyContextFor (request : ApprovalRequest) (actorId : String) (type : ApprovalDecisionType)
    (evidenceReviewed : List ApprovalEvidenceArtifact) (decidedAt authorityAt : String)
    (priorDecisions : List ApprovalDecision) (authority : ApprovalAuthorityPort) :
    ApprovalPolicyContext :=
  let capability := request.requirement.requiredAuthorityCapability.getD ""
  let standing :=
    (standingOf authority actorId capability request.resourceScope authorityAt).getD
      unreadableStanding
  { now := decidedAt
    request := some request
    attempt := ⟨actorId,type,evidenceReviewed⟩
    approverRecognition := standing.1
    authorityCheck := some standing.2
    priorDecisions }

inductive ApprovalStatus where
  | pending | approved | rejected | revoked | requestExpired | approvalExpired
deriving DecidableEq

/-- One verdict as the replay judged it. -/
structure ApprovalVerdictView where
  kind : ApprovalRecordKind
  (actorId recordedAt rowDigest : String)
  counted : Bool
  (reasonCode recordedBy : String)
  reason : Option String
  evidence : List ApprovalEvidenceReference

structure ApprovalEvaluation where
  status : ApprovalStatus
  approvers : List String
  minimumApprovals : Int
  requestExpiresAt : String
  verdicts : List ApprovalVerdictView
  approvedAt : Option String := none
  notAfter : Option String := none
  approvalDigest : Option String := none
  closedBy : Option String := none

structure EvaluateApprovalInput where
  subject : ApprovalSubject
  (subjectDigest approvalRequestId : String)
  rows : List StoredApprovalRecord
  now : String
  authority : ApprovalAuthorityPort

structure AcceptedVerdict where
  decision : ApprovalDecision
  rowDigest : String

/-- The variables of the row loop. -/
structure Replay where
  status : ApprovalRequestStatus
  (approvedAt closedBy : Option String)
  accepted : List AcceptedVerdict
  verdicts : List ApprovalVerdictView

def Replay.start : Replay := ⟨.pending,none,none,[],[]⟩

def belongs (input : EvaluateApprovalInput) (row : StoredApprovalRecord) : Bool :=
  decide (row.requestId = input.subject.requestId) &&
  decide (row.decisionId = input.subject.decisionId) &&
  decide (row.subjectDigest = input.subjectDigest) &&
  decide (row.organizationId = input.subject.organizationId)

def verdictView (row : StoredApprovalRecord) (actorId : String) (counted : Bool)
    (reasonCode : String) : ApprovalVerdictView where
  kind := row.kind
  actorId := actorId
  recordedAt := row.recordedAt
  rowDigest := row.digest
  counted := counted
  reasonCode := reasonCode
  recordedBy := row.recordedBy
  reason := row.reason
  evidence := (evidenceArtifacts H row actorId).map fun artifact =>
    ⟨artifact.type,artifact.hash.getD artifact.id,artifact.uri⟩

/-- The state with one more view of a verdict. -/
def Replay.view (replay : Replay) (row : StoredApprovalRecord) (actorId : String) (counted : Bool)
    (reasonCode : String) : Replay :=
  { replay with verdicts := replay.verdicts ++ [verdictView H row actorId counted reasonCode] }

/-- A revocation or a rejection, which closes the request when it is in one of these states. -/
def Replay.close (replay : Replay) (open_ : List ApprovalRequestStatus)
    (closed : ApprovalRequestStatus) (reasonCode : String) (row : StoredApprovalRecord)
    (actorId : String) : Replay :=
  if replay.status ∈ open_ then
    Replay.view H { replay with status := closed, closedBy := some actorId } row actorId true
      reasonCode
  else replay.view H row actorId false "APPROVAL_REQUEST_INVALID"

/-- An approving verdict: the admission chain, then the quorum. -/
def Replay.approve (input : EvaluateApprovalInput) (replay : Replay) (row : StoredApprovalRecord)
    (actorId : String) : Option Replay := do
  let request ← runtimeRequestOf H input.subject input.approvalRequestId replay.status
  let context := policyContextFor request actorId .approved (evidenceArtifacts H row actorId)
    row.recordedAt input.now (replay.accepted.map (·.decision)) input.authority
  let admitted := admitApproval P context
  if !admitted.passed then some (replay.view H row actorId false admitted.reasonCode)
  else
    let reached := (quorumPolicy.evaluate context).passed
    let verdict : AcceptedVerdict := {
      rowDigest := row.digest
      decision := {
        id := row.digest
        approvalRequestId := input.approvalRequestId
        trustDomainId := input.subject.organizationId
        approverActorId := actorId
        type := .approved
        approved := true
        reasonCode := admitted.reasonCode
        evidenceReviewed := context.attempt.evidenceReviewed
        decidedAt := row.recordedAt } }
    let counted := Replay.view H { replay with accepted := replay.accepted ++ [verdict] } row actorId
      true (if reached then "APPROVAL_QUORUM_MET" else "APPROVAL_QUORUM_NOT_MET")
    some (if reached then { counted with status := .approved, approvedAt := some row.recordedAt }
      else counted)

/-- One turn of the row loop. -/
def replayRow (input : EvaluateApprovalInput) (replay : Replay) (row : StoredApprovalRecord) :
    Option Replay :=
  if row.kind = .requested || !belongs input row then some replay
  else
    match row.actorId with
    | none => some replay
    | some actorId =>
        match row.kind with
        | .revoked =>
            some (replay.close H [.pending, .approved] .revoked "APPROVAL_REVOKED" row actorId)
        | .rejected => some (replay.close H [.pending] .rejected "APPROVAL_REJECTED" row actorId)
        | .escalated => some (replay.view H row actorId false "APPROVAL_ESCALATED")
        | .requestedChanges => some (replay.view H row actorId false "APPROVAL_CHANGES_REQUESTED")
        | .approved | .requested => replay.approve H input row actorId

/-- `APPROVAL_PROOF_FORMAT` -/
def approvalProofFormat : String := "frontera.approval-proof.v1"

structure ApprovalProof where
  (organizationId approvalRequestId requestId decisionId subjectDigest requirementDigest : String)
  minimumApprovals : Int
  (approvers rowDigests : List String)
  (approvedAt notAfter : String)

def approvalProofText (proof : ApprovalProof) : String :=
  approvalProofFormat ++ "\n\x7b" ++ join "," [
    "\"approvalRequestId\":" ++ stringify proof.approvalRequestId,
    "\"approvedAt\":" ++ stringify proof.approvedAt,
    "\"approvers\":[" ++ join "," (proof.approvers.map stringify) ++ "]",
    "\"decisionId\":" ++ stringify proof.decisionId,
    "\"minimumApprovals\":" ++ toString proof.minimumApprovals,
    "\"notAfter\":" ++ stringify proof.notAfter,
    "\"organizationId\":" ++ stringify proof.organizationId,
    "\"requestId\":" ++ stringify proof.requestId,
    "\"requirementDigest\":" ++ stringify proof.requirementDigest,
    "\"rows\":[" ++ join "," (proof.rowDigests.map stringify) ++ "]",
    "\"subjectDigest\":" ++ stringify proof.subjectDigest] ++ "\x7d"

def approvalProofDigest (P : Platform) (proof : ApprovalProof) : String :=
  P.digestOf (approvalProofText proof)

/-- `Date.parse(left) >= Date.parse(right)`, false when either is not an instant. -/
def notEarlier (P : Platform) (left right : String) : Bool :=
  match P.dateParse left, P.dateParse right with
  | some l, some r => decide (r ≤ l)
  | _, _ => false

/-- The approvers of a replay, in the order they were accepted. -/
def Replay.approvers (replay : Replay) : List String :=
  replay.accepted.map (·.decision.approverActorId)

def proofOf (input : EvaluateApprovalInput) (replay : Replay) (approvedAt notAfter : String) :
    ApprovalProof where
  organizationId := input.subject.organizationId
  approvalRequestId := input.approvalRequestId
  requestId := input.subject.requestId
  decisionId := input.subject.decisionId
  subjectDigest := input.subjectDigest
  requirementDigest := input.subject.requirementDigest
  minimumApprovals := input.subject.requirement.minimumApprovals
  approvers := replay.approvers
  rowDigests := replay.accepted.map (·.rowDigest)
  approvedAt := approvedAt
  notAfter := notAfter

/-- `none` is a throw, on instants no `Date` holds. -/
def evaluateApproval (input : EvaluateApprovalInput) : Option ApprovalEvaluation := do
  let subject := input.subject
  let requestExpiresAt ← plusSeconds H subject.decision.evaluatedAt subject.requirement.requestTtlSeconds
  let replay ← input.rows.foldlM (replayRow H input) Replay.start
  let base : ApprovalEvaluation := {
    status := .pending
    approvers := replay.approvers
    minimumApprovals := subject.requirement.minimumApprovals
    requestExpiresAt
    verdicts := replay.verdicts }
  match replay.status, replay.approvedAt with
  | .rejected, _ => some { base with status := .rejected, closedBy := replay.closedBy }
  | .revoked, _ => some { base with status := .revoked, closedBy := replay.closedBy }
  | .approved, some approvedAt => do
      let notAfter ← plusSeconds H approvedAt subject.requirement.approvalValiditySeconds
      if notEarlier P input.now notAfter then
        some { base with status := .approvalExpired, approvedAt := some approvedAt,
                         notAfter := some notAfter }
      else
        some { base with status := .approved, approvedAt := some approvedAt,
                         notAfter := some notAfter, approvalDigest :=
                           some (approvalProofDigest P (proofOf input replay approvedAt notAfter)) }
  | _, _ =>
      if notEarlier P input.now requestExpiresAt then some { base with status := .requestExpired }
      else some base

end Frontera.Approval
