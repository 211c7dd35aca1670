import Frontera.Approval.Evaluation
import Frontera.Data.Throwing
import Frontera.Payment.Grammar

/-! The commands of approvers and the reads of the governed path, over one log. Commands are
serialized, so each of them reads and extends the same history; what Kernel-Authority, the clock and
trusted configuration answer is taken anew at every call. -/

namespace Frontera.Approval

open Frontera.Data Frontera.Text List

inductive ApprovalCommandKind where
  | approve | reject | requestChanges | escalate | revoke
deriving DecidableEq

/-- `RECORD_KIND` -/
def ApprovalCommandKind.recordKind : ApprovalCommandKind → ApprovalRecordKind
  | .approve => .approved
  | .reject => .rejected
  | .requestChanges => .requestedChanges
  | .escalate => .escalated
  | .revoke => .revoked

/-- The decision type a command other than a revocation attempts. -/
def ApprovalCommandKind.attempted : ApprovalCommandKind → ApprovalDecisionType
  | .approve => .approved
  | .reject => .rejected
  | .requestChanges => .requestedChanges
  | .escalate => .escalated
  | .revoke => .revoked

structure ApprovalCommandContext where
  authenticated : Bool
  (actorId authenticatedBy : String)

structure ApprovalCommand where
  (approvalRequestId subjectDigest : String)
  evidence : List ApprovalEvidenceReference := []
  reason : Option String := none

inductive ApprovalAuthorityErrorCode where
  | contextUntrusted | invalid | approverIneligible | duplicate | evidenceInsufficient
  | requestClosed | requestSuperseded | storeCorrupt

/-- What a call throws. -/
inductive ApprovalFailure where
  | refused (code : ApprovalAuthorityErrorCode) (reasonCode : Option String)
  | syntaxError | rangeError

/-- `refusalCode` -/
def refusalCode (reasonCode : String) : ApprovalAuthorityErrorCode :=
  if reasonCode = "DUPLICATE_APPROVAL" then .duplicate
  else if reasonCode = "APPROVAL_INSUFFICIENT_EVIDENCE" then .evidenceInsufficient
  else if reasonCode = "APPROVAL_EXPIRED" ∨ reasonCode = "APPROVAL_REQUEST_INVALID" then
    .requestClosed
  else .approverIneligible

/-- `MAX_TEXT` -/
def maxText : Nat := 256

/-- `MAX_EVIDENCE` -/
def maxEvidence : Nat := 32

def isText (value : String) : Bool :=
  trim value != "" && decide ((codeUnits value).length ≤ maxText)

theorem length_charCodeUnits (c : Char) : (charCodeUnits c).length ≤ 2 := by
  unfold charCodeUnits
  split <;> simp

theorem length_flatMap_charCodeUnits (chars : List Char) :
    (chars.flatMap charCodeUnits).length ≤ 2 * chars.length := by
  induction chars with
  | nil => simp
  | cons c rest ih =>
    have hc := length_charCodeUnits c
    rw [flatMap_cons,length_append,length_cons]
    omega

theorem isText_literal {value : String} {first : Char} {rest : List Char}
    (h : value = String.ofList (first :: rest)) (hfirst : isTrimmed first = false)
    (hlength : rest.length ≤ 127) : isText value = true := by
  have hkept : trim value ≠ "" := by
    have hopens : (first :: rest).dropWhile isTrimmed = first :: rest :=
      dropWhile_cons_of_neg (by simp [hfirst])
    rw [trim,Text.toList_literal h,hopens]
    intro hempty
    have hnone := String.ofList_eq_empty_iff.1 hempty
    rw [reverse_eq_nil_iff,dropWhile_eq_nil_iff] at hnone
    simpa [hfirst] using hnone first (by simp)
  have hunits := length_flatMap_charCodeUnits (first :: rest)
  rw [isText,codeUnits,Text.toList_literal h]
  simp only [length_cons] at hunits
  rw [Bool.and_eq_true,bne_iff_ne,decide_eq_true_eq,maxText]
  exact ⟨hkept,by omega⟩

def validContext (context : ApprovalCommandContext) : Except ApprovalFailure Unit :=
  if !context.authenticated || !isText context.actorId || !isText context.authenticatedBy then
    throw (.refused .contextUntrusted none)
  else pure ()

def validEvidence (entry : ApprovalEvidenceReference) : Bool :=
  isText entry.type && Payment.isWellFormedDigest entry.hash && entry.uri.all isText

def validCommand (command : ApprovalCommand) : Except ApprovalFailure Unit :=
  if !isText command.approvalRequestId || !Payment.isWellFormedDigest command.subjectDigest then
    throw (.refused .invalid none)
  else if command.reason.any fun reason => !isText reason then throw (.refused .invalid none)
  else if maxEvidence < command.evidence.length then throw (.refused .invalid none)
  else if command.evidence.any fun entry => !validEvidence entry then
    throw (.refused .invalid none)
  else pure ()

/-- `[{hash, type, uri?}]`, sorted. -/
def canonicalEvidence (evidence : List ApprovalEvidenceReference) : String :=
  let entries := evidence.map fun entry =>
    "\x7b\"hash\":" ++ stringify entry.hash ++ ",\"type\":" ++ stringify entry.type ++ (match entry.uri with
        | some uri => ",\"uri\":" ++ stringify uri
        | none => "") ++ "\x7d"
  "[" ++ join "," (entries.insertionSort fun a b => !stringLt b a) ++ "]"

/-- What trusted code reads at one call: the clock, the authority world, and the approval
requirement of each configured profile. -/
structure Moment where
  now : String
  authority : ApprovalAuthorityPort
  governance : List (String × Option GovernanceProfileApproval)

structure ApprovalRequestView where
  (approvalRequestId requestId decisionId subjectDigest : String)
  subject : ApprovalSubject
  requestedAt : String
  superseded : Bool
  state : ApprovalEvaluation

/-- The service of one organization over one store. -/
structure ApprovalAuthority (P : Platform) where
  host : Host P
  /-- `JSON.parse(text) as ApprovalSubject`; `none` is a syntax error. -/
  parseSubject : String → Option ApprovalSubject
  (organizationId storeId : String)

variable {P : Platform}

/-- The identity of the one approval request a committed decision has. -/
def approvalRequestIdFor (P : Platform) (organizationId requestId decisionId subjectDigest : String) :
    String :=
  "approval-request:" ++ P.sha256 (
    "frontera.approval-request.v1\n\x7b\"decisionId\":" ++ stringify decisionId ++
    ",\"organizationId\":" ++ stringify organizationId ++ ",\"requestId\":" ++
    stringify requestId ++ ",\"subjectDigest\":" ++ stringify subjectDigest ++ "\x7d")

/-- The first `requested` row of each request and decision. -/
def requestsIn (rows : List StoredApprovalRecord) : List StoredApprovalRecord :=
  (rows.foldl (fun (seen : List String × List StoredApprovalRecord) row =>
    let key := row.requestId ++ "\u0000" ++ row.decisionId
    if row.kind ≠ .requested ∨ key ∈ seen.1 then seen else (seen.1 ++ [key], seen.2 ++ [row]))
    ([], [])).2

/-- The rows of one governed request. -/
def rowsForRequest (rows : List StoredApprovalRecord) (requestId : String) : List StoredApprovalRecord :=
  rows.filter fun row => row.requestId = requestId

namespace ApprovalAuthority

variable (service : ApprovalAuthority P)

/-- Whether trusted configuration still holds the requirement a request was opened under. -/
def stillConfigured (moment : Moment) (subject : ApprovalSubject) : Bool :=
  ((moment.governance.find? fun profile => profile.1 = subject.governanceProfile).bind (·.2)).any
    fun requirement => approvalRequirementDigest P requirement = subject.requirementDigest

/-- The subject of a `requested` row, proven against its digest. -/
def subjectOf (row : StoredApprovalRecord) : Except ApprovalFailure ApprovalSubject :=
  match row.subject with
  | none => throw (.refused .storeCorrupt none)
  | some text =>
      if approvalSubjectDigest P text ≠ row.subjectDigest then
        throw (.refused .storeCorrupt none)
      else
        match service.parseSubject text with
        | none => throw .syntaxError
        | some subject =>
            if subject.organizationId ≠ service.organizationId ∨ subject.requestId ≠ row.requestId ∨
                subject.decisionId ≠ row.decisionId then
              throw (.refused .storeCorrupt none)
            else pure subject

/-- What an evaluation of a request is asked about. -/
def inputOf (rows : List StoredApprovalRecord) (requested : StoredApprovalRecord)
    (subject : ApprovalSubject) (moment : Moment) : EvaluateApprovalInput where
  subject := subject
  subjectDigest := requested.subjectDigest
  approvalRequestId := approvalRequestIdFor P service.organizationId requested.requestId
    requested.decisionId requested.subjectDigest
  rows := rows
  now := moment.now
  authority := moment.authority

def viewOf (rows : List StoredApprovalRecord) (requested : StoredApprovalRecord) (moment : Moment) :
    Except ApprovalFailure ApprovalRequestView := do
  let subject ← service.subjectOf requested
  let input := service.inputOf rows requested subject moment
  match evaluateApproval service.host input with
  | none => throw .rangeError
  | some state =>
      pure {
        approvalRequestId := input.approvalRequestId
        requestId := requested.requestId
        decisionId := requested.decisionId
        subjectDigest := requested.subjectDigest
        subject
        requestedAt := requested.recordedAt
        superseded := !stillConfigured (P := P) moment subject
        state }

/-- `store.append`; a sequence past the safe integers is a range error. -/
def append (rows : List StoredApprovalRecord) (content : ApprovalRowContent) :
    Except ApprovalFailure StoredApprovalRecord := do
  let digest ←
    (approvalRowDigest P service.storeId (rows.length + 1) content).elim (throw .rangeError) pure
  pure { content with sequence := rows.length + 1, digest }

/-- A revocation needs an open or a completed request, and live standing. -/
def admitRevocation (context : ApprovalCommandContext) (view : ApprovalRequestView)
    (moment : Moment) : Except ApprovalFailure Unit :=
  if view.state.status ≠ .pending ∧ view.state.status ≠ .approved then
    throw (.refused .requestClosed none)
  else
    let recognition := moment.authority.recognition context.actorId
    let standing := moment.authority.authority
      ⟨context.actorId,view.subject.requirement.approverAction,view.subject.resourceScope, moment.now⟩
    if (recognition.map (·.recognized)) ≠ some true ∨ (standing.map (·.valid)) ≠ some true then
      throw (.refused .approverIneligible
        ((standing.map (·.reasonCode)).or (recognition.map (·.reasonCode))))
    else pure ()

/-- The counted approvals of a view, as decisions. -/
def priorDecisions (view : ApprovalRequestView) : List ApprovalDecision :=
  (view.state.verdicts.filter fun verdict => verdict.kind = .approved ∧ verdict.counted).map
    fun verdict =>
      { id := verdict.rowDigest
        approvalRequestId := view.approvalRequestId
        trustDomainId := service.organizationId
        approverActorId := verdict.actorId
        type := .approved
        approved := true
        reasonCode := verdict.reasonCode
        evidenceReviewed := []
        decidedAt := verdict.recordedAt }

/-- Every other verdict needs a pending request, and passes the admission chain. -/
def admitVerdict (kind : ApprovalCommandKind) (context : ApprovalCommandContext)
    (command : ApprovalCommand) (view : ApprovalRequestView) (moment : Moment) :
    Except ApprovalFailure Unit :=
  if view.state.status ≠ .pending then throw (.refused .requestClosed none)
  else
    match runtimeRequestOf service.host view.subject view.approvalRequestId .pending with
    | none => throw .rangeError
    | some request =>
        let evidenceReviewed := command.evidence.map fun entry =>
          { id := entry.hash, type := entry.type, providedByActorId := context.actorId,
            hash := some entry.hash, uri := entry.uri, createdAt := moment.now }
        let admitted := admitApproval P (policyContextFor request context.actorId kind.attempted
          evidenceReviewed moment.now moment.now (service.priorDecisions view) moment.authority)
        if !admitted.passed then
          throw (.refused (refusalCode admitted.reasonCode) (some admitted.reasonCode))
        else pure ()

/-- What a command of each kind has to meet. -/
def admitKind (kind : ApprovalCommandKind) (context : ApprovalCommandContext)
    (command : ApprovalCommand) (view : ApprovalRequestView) (moment : Moment) :
    Except ApprovalFailure Unit :=
  if kind = .revoke then admitRevocation context view moment
  else service.admitVerdict kind context command view moment

/-- The row a command writes. -/
def verdictRow (kind : ApprovalCommandKind) (context : ApprovalCommandContext)
    (command : ApprovalCommand) (requested : StoredApprovalRecord) (moment : Moment) :
    ApprovalRowContent where
  organizationId := service.organizationId
  requestId := requested.requestId
  decisionId := requested.decisionId
  subjectDigest := requested.subjectDigest
  kind := kind.recordKind
  actorId := some context.actorId
  evidence := if command.evidence.isEmpty then none else some (canonicalEvidence command.evidence)
  reason := command.reason
  recordedBy := context.authenticatedBy
  recordedAt := moment.now

/-- Everything a command does before its row is appended: the request it names and the row. -/
def admitCommand (kind : ApprovalCommandKind) (context : ApprovalCommandContext)
    (command : ApprovalCommand) (moment : Moment) (rows : List StoredApprovalRecord) :
    Except ApprovalFailure (StoredApprovalRecord × StoredApprovalRecord) := do
  validContext context
  validCommand command
  match (requestsIn rows).find? fun row =>
      approvalRequestIdFor P service.organizationId row.requestId row.decisionId
        row.subjectDigest = command.approvalRequestId with
  | none => throw (.refused .invalid none)
  | some requested =>
      if requested.subjectDigest ≠ command.subjectDigest then throw (.refused .invalid none)
      else do
        let view ← service.viewOf (rowsForRequest rows requested.requestId) requested moment
        if view.superseded then throw (.refused .requestSuperseded none)
        else do
          service.admitKind kind context command view moment
          let row ← service.append rows (service.verdictRow kind context command requested moment)
          pure (requested, row)

/-- A command: the rows after it, and what it answers. The clock and the authority world are read
once more for the view it answers. -/
def commandOnce (kind : ApprovalCommandKind) (context : ApprovalCommandContext)
    (command : ApprovalCommand) (moment after : Moment) (rows : List StoredApprovalRecord) :
    List StoredApprovalRecord × Except ApprovalFailure ApprovalRequestView :=
  match service.admitCommand kind context command moment rows with
  | .error failure => (rows, .error failure)
  | .ok (requested, row) =>
      (rows ++ [row], service.viewOf (rowsForRequest (rows ++ [row]) requested.requestId) requested after)

inductive ApprovalAssessment where
  | notApplicable | superseded | unavailable
  | withheld (status : ApprovalStatus)
  | approved (approvalDigest notAfter : String)

/-- `APPROVAL_REQUESTED_BY` -/
def approvalRequestedBy : String := "frontera:governed-action"

/-- The row that opens a request. -/
def requestedRow (subject : ApprovalSubject) (moment : Moment) : ApprovalRowContent where
  organizationId := service.organizationId
  requestId := subject.requestId
  decisionId := subject.decisionId
  subjectDigest := approvalSubjectDigest P (canonicalApprovalSubject subject)
  kind := .requested
  subject := some (canonicalApprovalSubject subject)
  recordedBy := approvalRequestedBy
  recordedAt := moment.now

/-- The rows after the request of a subject was looked up or opened, and its `requested` row;
`none` when another decision, or the same one under other bytes, was opened under its request. -/
def openRequest (subject : ApprovalSubject) (moment : Moment) (rows : List StoredApprovalRecord) :
    Except ApprovalFailure (List StoredApprovalRecord × Option StoredApprovalRecord) :=
  match (requestsIn (rowsForRequest rows subject.requestId)).find? fun row =>
      row.requestId = subject.requestId with
  | some existing =>
      if existing.decisionId = subject.decisionId ∧
          existing.subjectDigest = approvalSubjectDigest P (canonicalApprovalSubject subject) then
        pure (rows, some existing)
      else pure (rows, none)
  | none => do
      let row ← service.append rows (service.requestedRow subject moment)
      pure (rows ++ [row], some row)

/-- What an assessment answers for a view. -/
def assessmentOf (state : ApprovalEvaluation) : ApprovalAssessment :=
  match state.status, state.approvalDigest, state.notAfter with
  | .approved, some approvalDigest, some notAfter => .approved approvalDigest notAfter
  | .approved, _, _ => .unavailable
  | status, _, _ => .withheld status

/-- The orchestrator's port. The subject is what the committed decision and trusted configuration
establish; without one, no approval can resume the decision. -/
def assess (subject : Option ApprovalSubject) (moment after : Moment)
    (rows : List StoredApprovalRecord) :
    List StoredApprovalRecord × ApprovalAssessment × Option ApprovalRequestView :=
  match subject with
  | none => (rows, .notApplicable, none)
  | some subject =>
      match service.openRequest subject moment rows with
      | .error _ => (rows, .unavailable, none)
      | .ok (rows', none) => (rows', .superseded, none)
      | .ok (rows', some requested) =>
          match service.viewOf (rowsForRequest rows' subject.requestId) requested after with
          | .error _ => (rows', .unavailable, none)
          | .ok view => (rows', assessmentOf view.state, some view)

/-- Oldest first, by the collation of the instants' texts. -/
def oldestFirst (P : Platform) (views : List ApprovalRequestView) : List ApprovalRequestView :=
  views.insertionSort fun left right => P.localeCompare left.requestedAt right.requestedAt ≠ .gt

def list (moment : Moment) (rows : List StoredApprovalRecord) :
    Except ApprovalFailure (List ApprovalRequestView) := do
  let views ← (requestsIn rows).mapM fun requested =>
    service.viewOf (rowsForRequest rows requested.requestId) requested moment
  pure (oldestFirst P views)

def pending (moment : Moment) (rows : List StoredApprovalRecord) :
    Except ApprovalFailure (List ApprovalRequestView) := do
  let views ← (requestsIn rows).mapM fun requested =>
    service.viewOf (rowsForRequest rows requested.requestId) requested moment
  pure (oldestFirst P (views.filter fun view => !view.superseded && view.state.status = .pending))

def describe (requestId : String) (moment : Moment) (rows : List StoredApprovalRecord) :
    Except ApprovalFailure (Option ApprovalRequestView) :=
  if !isText requestId then pure none
  else
    match (requestsIn (rowsForRequest rows requestId)).getLast? with
    | none => pure none
    | some requested => do
        let view ← service.viewOf (rowsForRequest rows requestId) requested moment
        pure (some view)

end ApprovalAuthority

end Frontera.Approval
