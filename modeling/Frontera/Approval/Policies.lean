import Frontera.Data.OrderedSet
import Frontera.Platform

/-! The policies an approval decision is judged by, the chain they stand in, and what an approving
attempt that passes the admission chain has met. -/

namespace Frontera.Approval

open Frontera.Data

inductive ApprovalRequestStatus where
  | pending | approved | rejected | expired | revoked | cancelled | superseded
deriving DecidableEq

inductive ApprovalDecisionType where
  | approved | rejected | requestedChanges | escalated | expired | revoked | invalidApprover
  | insufficientEvidence | outOfScope | conflictOfInterest | quorumNotMet | duplicateApproval
deriving DecidableEq

structure ApprovalEvidenceArtifact where
  (id type providedByActorId : String)
  (hash uri : Option String)
  createdAt : String

structure ApprovalEvidenceRequirement where
  (id type : String)
  required : Bool
  description : String

structure ApprovalRequirement where
  (id trustDomainId action resourceScope : String)
  requiredAuthorityCapability : Option String
  minimumApprovals : Int
  requiresSegregationOfDuties : Bool
  evidenceRequirements : List ApprovalEvidenceRequirement

structure ApprovalRequest where
  (id trustDomainId actionRequestId requestedByActorId targetActorId : String)
  principalActorId : Option String
  (action resourceScope : String)
  requirement : ApprovalRequirement
  status : ApprovalRequestStatus
  createdAt : String
  expiresAt : Option String

structure ApprovalDecision where
  (id approvalRequestId trustDomainId approverActorId : String)
  type : ApprovalDecisionType
  approved : Bool
  reasonCode : String
  evidenceReviewed : List ApprovalEvidenceArtifact
  decidedAt : String

structure ApprovalDecisionAttempt where
  approverActorId : String
  type : ApprovalDecisionType
  evidenceReviewed : List ApprovalEvidenceArtifact

structure ApprovalApproverRecognitionResult where
  recognized : Bool
  (reasonCode reason : String)

structure ApprovalAuthorityCheckResult where
  valid : Bool
  (type reasonCode reason : String)

structure ApprovalPolicyContext where
  now : String
  request : Option ApprovalRequest
  attempt : ApprovalDecisionAttempt
  approverRecognition : ApprovalApproverRecognitionResult
  authorityCheck : Option ApprovalAuthorityCheckResult
  priorDecisions : List ApprovalDecision

structure ApprovalPolicyOutcome where
  policyId : String
  passed : Bool
  reasonCode : String

structure ApprovalPolicy where
  id : String
  evaluate : ApprovalPolicyContext → ApprovalPolicyOutcome

def pass (policyId reasonCode : String) : ApprovalPolicyOutcome := ⟨policyId,true,reasonCode⟩

def refuse (policyId reasonCode : String) : ApprovalPolicyOutcome := ⟨policyId,false,reasonCode⟩

/-- A request must be pending to receive a new decision. -/
def validApprovalRequestPolicy : ApprovalPolicy where
  id := "valid_approval_request"
  evaluate context :=
    match context.request with
    | none => refuse "valid_approval_request" "APPROVAL_REQUEST_INVALID"
    | some request =>
        if request.status ≠ .pending then refuse "valid_approval_request" "APPROVAL_REQUEST_INVALID"
        else pass "valid_approval_request" "APPROVAL_REQUEST_VALID"

def recognizedApproverPolicy : ApprovalPolicy where
  id := "recognized_approver"
  evaluate context :=
    if !context.approverRecognition.recognized then refuse "recognized_approver" "INVALID_APPROVER"
    else pass "recognized_approver" "APPROVER_RECOGNIZED"

/-- A scope mismatch is left to the policy after it. -/
def approverAuthorityPolicy : ApprovalPolicy where
  id := "approver_authority"
  evaluate context :=
    match context.request.bind fun request => request.requirement.requiredAuthorityCapability with
    | none => pass "approver_authority" "AUTHORITY_NOT_REQUIRED"
    | some _ =>
        match context.authorityCheck with
        | none => refuse "approver_authority" "APPROVER_AUTHORITY_MISSING"
        | some check =>
            if check.type = "scope_expansion_detected" then
              pass "approver_authority" "APPROVER_AUTHORITY_PRESENT"
            else if !check.valid then refuse "approver_authority" "APPROVER_AUTHORITY_MISSING"
            else pass "approver_authority" "APPROVER_AUTHORITY_PRESENT"

def approvalScopePolicy : ApprovalPolicy where
  id := "approval_scope"
  evaluate context :=
    match context.authorityCheck with
    | none => pass "approval_scope" "APPROVAL_IN_SCOPE"
    | some check =>
        if check.type ≠ "scope_expansion_detected" then pass "approval_scope" "APPROVAL_IN_SCOPE"
        else refuse "approval_scope" "APPROVAL_OUT_OF_SCOPE"

/-- The evidence types a requirement names that an attempt has not reviewed. -/
def missingEvidence (requirement : ApprovalRequirement) (reviewed : List ApprovalEvidenceArtifact) :
    List String :=
  ((requirement.evidenceRequirements.filter (·.required)).map (·.type)).filter fun type =>
    !decide (type ∈ reviewed.map (·.type))

def approvalEvidencePolicy : ApprovalPolicy where
  id := "approval_evidence"
  evaluate context :=
    match context.request with
    | none => pass "approval_evidence" "EVIDENCE_NOT_REQUIRED"
    | some request =>
        if context.attempt.type ≠ .approved then pass "approval_evidence" "EVIDENCE_NOT_REQUIRED"
        else if missingEvidence request.requirement context.attempt.evidenceReviewed ≠ [] then
          refuse "approval_evidence" "APPROVAL_INSUFFICIENT_EVIDENCE"
        else pass "approval_evidence" "APPROVAL_EVIDENCE_SUFFICIENT"

/-- The requester and the target of an action do not approve it. -/
def segregationOfDutiesPolicy : ApprovalPolicy where
  id := "segregation_of_duties"
  evaluate context :=
    match context.request with
    | none => pass "segregation_of_duties" "SEGREGATION_NOT_REQUIRED"
    | some request =>
        if context.attempt.type ≠ .approved ∨ !request.requirement.requiresSegregationOfDuties then
          pass "segregation_of_duties" "SEGREGATION_NOT_REQUIRED"
        else if context.attempt.approverActorId = request.requestedByActorId then
          refuse "segregation_of_duties" "SEGREGATION_OF_DUTIES_VIOLATION"
        else if context.attempt.approverActorId = request.targetActorId then
          refuse "segregation_of_duties" "SEGREGATION_OF_DUTIES_VIOLATION"
        else pass "segregation_of_duties" "SEGREGATION_SATISFIED"

/-- `Date.parse(left) < Date.parse(right)`, false when either is not an instant. -/
def earlier (P : Platform) (left right : String) : Bool :=
  match P.dateParse left, P.dateParse right with
  | some l, some r => decide (l < r)
  | _, _ => false

def expirationPolicy (P : Platform) : ApprovalPolicy where
  id := "expiration"
  evaluate context :=
    match context.request.bind fun request => request.expiresAt with
    | none => pass "expiration" "APPROVAL_NOT_EXPIRED"
    | some expiresAt =>
        if expiresAt = "" ∨ earlier P context.now expiresAt then
          pass "expiration" "APPROVAL_NOT_EXPIRED"
        else refuse "expiration" "APPROVAL_EXPIRED"

def revocationPolicy : ApprovalPolicy where
  id := "revocation"
  evaluate context :=
    if context.request.map (·.status) = some .revoked then refuse "revocation" "APPROVAL_REVOKED"
    else if context.authorityCheck.map (·.type) = some "ancestor_revoked" then
      refuse "revocation" "APPROVAL_REVOKED"
    else pass "revocation" "APPROVAL_NOT_REVOKED"

def duplicateApprovalPolicy : ApprovalPolicy where
  id := "duplicate_approval"
  evaluate context :=
    if context.attempt.type ≠ .approved then
      pass "duplicate_approval" "DUPLICATE_CHECK_NOT_APPLICABLE"
    else if context.priorDecisions.any fun decision =>
        decision.approverActorId = context.attempt.approverActorId ∧ decision.type = .approved then
      refuse "duplicate_approval" "DUPLICATE_APPROVAL"
    else pass "duplicate_approval" "NO_DUPLICATE_APPROVAL"

/-- The approvers a quorum counts: those already accepted, then the one who attempts. -/
def distinctApprovers (context : ApprovalPolicyContext) : List String :=
  let prior := OrderedSet.ofList
    ((context.priorDecisions.filter fun decision => decision.type = .approved).map
      (·.approverActorId))
  if context.attempt.type = .approved then OrderedSet.add prior context.attempt.approverActorId
  else prior

def quorumPolicy : ApprovalPolicy where
  id := "quorum"
  evaluate context :=
    let minimumApprovals := (context.request.map (·.requirement.minimumApprovals)).getD 1
    if ((distinctApprovers context).length : Int) < minimumApprovals then
      refuse "quorum" "APPROVAL_QUORUM_NOT_MET"
    else pass "quorum" "APPROVAL_QUORUM_MET"

def createDefaultApprovalPolicyChain (P : Platform) : List ApprovalPolicy :=
  [validApprovalRequestPolicy, recognizedApproverPolicy, approverAuthorityPolicy,
    approvalScopePolicy, approvalEvidencePolicy, segregationOfDutiesPolicy, expirationPolicy P,
    revocationPolicy, duplicateApprovalPolicy, quorumPolicy]

def createAdmissionApprovalPolicyChain (P : Platform) : List ApprovalPolicy :=
  (createDefaultApprovalPolicyChain P).filter fun policy => policy.id ≠ "quorum"

structure ApprovalPolicyEvaluationResult where
  passed : Bool
  reasonCode : String

/-- The first policy that refuses decides. -/
def ApprovalPolicyEvaluator.evaluate (context : ApprovalPolicyContext) :
    List ApprovalPolicy → ApprovalPolicyEvaluationResult
  | [] => ⟨true,"ALL_APPROVAL_POLICIES_SATISFIED"⟩
  | policy :: policies =>
      let outcome := policy.evaluate context
      if !outcome.passed then ⟨false,outcome.reasonCode⟩ else evaluate context policies

theorem ApprovalPolicyEvaluator.evaluate_passed {context : ApprovalPolicyContext}
    {policies : List ApprovalPolicy} :
    (evaluate context policies).passed = true ↔
      ∀ policy ∈ policies, (policy.evaluate context).passed = true := by
  induction policies with
  | nil => simp [evaluate]
  | cons policy policies ih =>
    simp only [evaluate,List.forall_mem_cons,← ih]
    cases h : (policy.evaluate context).passed <;> simp

/-- `admit` -/
def admitApproval (P : Platform) (context : ApprovalPolicyContext) : ApprovalPolicyEvaluationResult :=
  ApprovalPolicyEvaluator.evaluate context (createAdmissionApprovalPolicyChain P)

theorem createAdmissionApprovalPolicyChain_eq (P : Platform) : createAdmissionApprovalPolicyChain P =
      [validApprovalRequestPolicy, recognizedApproverPolicy, approverAuthorityPolicy,
        approvalScopePolicy, approvalEvidencePolicy, segregationOfDutiesPolicy, expirationPolicy P,
        revocationPolicy, duplicateApprovalPolicy] := by
  rfl

/-- What the admission chain asks of an approving attempt under a requirement that names an
authority capability and segregation of duties. -/
theorem admit_approved {P : Platform} {context : ApprovalPolicyContext} {request : ApprovalRequest}
    {check : ApprovalAuthorityCheckResult} {capability expiresAt : String}
    (hrequest : context.request = some request) (htype : context.attempt.type = .approved)
    (hcapability : request.requirement.requiredAuthorityCapability = some capability)
    (hcheck : context.authorityCheck = some check)
    (hduties : request.requirement.requiresSegregationOfDuties = true)
    (hexpires : request.expiresAt = some expiresAt) (hstated : expiresAt ≠ "") :
    (admitApproval P context).passed = true ↔
      request.status = .pending ∧ context.approverRecognition.recognized = true ∧
      check.valid = true ∧ check.type ≠ "scope_expansion_detected" ∧ check.type ≠ "ancestor_revoked" ∧
      missingEvidence request.requirement context.attempt.evidenceReviewed = [] ∧
      context.attempt.approverActorId ≠ request.requestedByActorId ∧
      context.attempt.approverActorId ≠ request.targetActorId ∧
      earlier P context.now expiresAt = true ∧ ∀ decision ∈ context.priorDecisions,
        decision.type = .approved → decision.approverActorId ≠ context.attempt.approverActorId := by
  have hrequested : (validApprovalRequestPolicy.evaluate context).passed = true ↔
      request.status = .pending := by
    by_cases hstatus : request.status = .pending <;>
      simp [validApprovalRequestPolicy,hrequest,hstatus,pass,refuse]
  have hrecognized : (recognizedApproverPolicy.evaluate context).passed = true ↔
      context.approverRecognition.recognized = true := by
    cases hknown : context.approverRecognition.recognized <;>
      simp [recognizedApproverPolicy,hknown,pass,refuse]
  have hauthority : (approverAuthorityPolicy.evaluate context).passed = true ↔
      check.type = "scope_expansion_detected" ∨ check.valid = true := by
    by_cases hscope : check.type = "scope_expansion_detected" <;> cases hvalid : check.valid <;>
      simp [approverAuthorityPolicy,hrequest,hcapability,hcheck,hscope,hvalid,pass,refuse]
  have hscope : (approvalScopePolicy.evaluate context).passed = true ↔
      check.type ≠ "scope_expansion_detected" := by
    by_cases hscope : check.type = "scope_expansion_detected" <;>
      simp [approvalScopePolicy,hcheck,hscope,pass,refuse]
  have hevidence : (approvalEvidencePolicy.evaluate context).passed = true ↔
      missingEvidence request.requirement context.attempt.evidenceReviewed = [] := by
    by_cases hmissing : missingEvidence request.requirement context.attempt.evidenceReviewed = [] <;>
      simp [approvalEvidencePolicy,hrequest,htype,hmissing,pass,refuse]
  have hindependent : (segregationOfDutiesPolicy.evaluate context).passed = true ↔
      context.attempt.approverActorId ≠ request.requestedByActorId ∧
      context.attempt.approverActorId ≠ request.targetActorId := by
    by_cases hrequester : context.attempt.approverActorId = request.requestedByActorId <;>
      by_cases htarget : context.attempt.approverActorId = request.targetActorId <;>
      simp [segregationOfDutiesPolicy,hrequest,htype,hduties,hrequester,htarget,pass,refuse]
  have htime : ((expirationPolicy P).evaluate context).passed = true ↔
      earlier P context.now expiresAt = true := by
    cases hearly : earlier P context.now expiresAt <;>
      simp [expirationPolicy,hrequest,hexpires,hstated,hearly,pass,refuse]
  have hrevoked : (revocationPolicy.evaluate context).passed = true ↔
      request.status ≠ .revoked ∧ check.type ≠ "ancestor_revoked" := by
    by_cases hstatus : request.status = .revoked <;>
      by_cases hancestor : check.type = "ancestor_revoked" <;>
      simp [revocationPolicy,hrequest,hcheck,hstatus,hancestor,pass,refuse]
  have hduplicate : (duplicateApprovalPolicy.evaluate context).passed = true ↔
      ∀ decision ∈ context.priorDecisions,
        decision.type = .approved → decision.approverActorId ≠ context.attempt.approverActorId := by
    cases hany : context.priorDecisions.any fun decision =>
        decision.approverActorId = context.attempt.approverActorId ∧ decision.type = .approved with
    | true =>
      obtain ⟨decision,hmem,hdecision⟩ := List.any_eq_true.1 hany
      have hsame := of_decide_eq_true hdecision
      simp only [duplicateApprovalPolicy,htype,hany,refuse]
      simp only [ne_eq,not_true,if_false,if_true,Bool.false_eq_true,false_iff,not_forall]
      exact ⟨decision,hmem,hsame.2,fun hne => hne hsame.1⟩
    | false =>
      simp only [duplicateApprovalPolicy,htype,hany,pass]
      simp only [ne_eq,not_true,if_false,Bool.false_eq_true,true_iff]
      intro decision hmem happroved hsame
      have hnone := List.any_eq_false.1 hany decision hmem
      simp [hsame,happroved] at hnone
  rw [admitApproval,ApprovalPolicyEvaluator.evaluate_passed,createAdmissionApprovalPolicyChain_eq]
  simp only [List.forall_mem_cons,hrequested,hrecognized,hauthority,hscope,hevidence,
    hindependent,htime,hrevoked,hduplicate]
  constructor
  · rintro ⟨hpending,hknown,hvalid,hin,hreviewed,⟨hrequester,htarget⟩,hearly,⟨-,hancestor⟩, hnew,-⟩
    exact ⟨hpending,hknown,hvalid.resolve_left hin,hin,hancestor,hreviewed,hrequester,htarget, hearly,hnew⟩
  · rintro ⟨hpending,hknown,hvalid,hin,hancestor,hreviewed,hrequester,htarget,hearly,hnew⟩
    refine ⟨hpending,hknown,Or.inr hvalid,hin,hreviewed,⟨hrequester,htarget⟩,hearly,
      ⟨?_,hancestor⟩,hnew,by simp⟩
    rw [hpending]
    decide

end Frontera.Approval
