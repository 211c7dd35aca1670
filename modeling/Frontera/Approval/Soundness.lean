import Frontera.Approval.Replay
import Frontera.Context.Growth

/-! An evaluation that answers `approved` names the rows it rests on: enough distinct actors, none
of them the requester, each with an approving row of exactly this subject that its author's standing
still bears out. -/

namespace Frontera.Approval

open Frontera.Context Frontera.Data Frontera.Text List Option
open scoped List

variable {P : Platform} {H : Host P} {input : EvaluateApprovalInput}

theorem plusSeconds_eq_some {instant later : String} {seconds : Int}
    (h : plusSeconds H instant seconds = some later) :
    ∃ ms, P.dateParse instant = some ms ∧ P.dateParse later = some (ms + seconds * 1000) := by
  unfold plusSeconds at h
  obtain ⟨ms,hms,hclip⟩ := bind_eq_some_iff.1 h
  split_ifs at hclip with hrange
  cases hclip
  exact ⟨ms,hms,H.dateParse_toISOString _ hrange⟩

theorem earlier_eq_true {left right : String} (h : earlier P left right = true) :
    ∃ l r, P.dateParse left = some l ∧ P.dateParse right = some r ∧ l < r := by
  unfold earlier at h
  split at h
  · next l r hl hr => exact ⟨l,r,hl,hr,of_decide_eq_true h⟩
  · cases h

/-- An approving row of this subject that its author's standing bears out now. -/
structure CountedApproval (H : Host P) (input : EvaluateApprovalInput) (row : StoredApprovalRecord)
    (actorId : String) : Prop where
  kind : row.kind = .approved
  organization : row.organizationId = input.subject.organizationId
  request : row.requestId = input.subject.requestId
  decision : row.decisionId = input.subject.decisionId
  subject : row.subjectDigest = input.subjectDigest
  actor : row.actorId = some actorId
  independent : actorId ≠ input.subject.actorId
  timely : ∃ recorded evaluated, P.dateParse row.recordedAt = some recorded ∧
    P.dateParse input.subject.decision.evaluatedAt = some evaluated ∧
    recorded < evaluated + input.subject.requirement.requestTtlSeconds * 1000
  evidence : ∀ type ∈ input.subject.requirement.requiredEvidence.getD [],
    ∃ artifact ∈ evidenceArtifacts H row actorId, artifact.type = type
  recognized : ∃ recognition, input.authority.recognition actorId = some recognition ∧
    recognition.recognized = true
  authorized : ∃ check, input.authority.authority ⟨actorId,input.subject.requirement.approverAction,
    input.subject.resourceScope,input.now⟩ = some check ∧ check.valid = true ∧
    check.type ≠ "scope_expansion_detected" ∧ check.type ≠ "ancestor_revoked"

variable {row : StoredApprovalRecord} {actorId : String} {rows : List StoredApprovalRecord}
  {accepted : List AcceptedVerdict} {a b : ApprovalProof}

theorem belongs_iff : belongs input row = true ↔
      row.requestId = input.subject.requestId ∧ row.decisionId = input.subject.decisionId ∧
      row.subjectDigest = input.subjectDigest ∧ row.organizationId = input.subject.organizationId := by
  simp [belongs,and_assoc]

theorem CountedApproval.of_approverOf (h : approverOf H input row = some actorId) :
    CountedApproval H input row actorId := by
  unfold approverOf at h
  split_ifs at h with hours
  rw [Bool.and_eq_true,decide_eq_true_eq] at hours
  obtain ⟨hrequest,hdecision,hsubject,horganization⟩ := belongs_iff.1 hours.2
  obtain ⟨hactor,heligible⟩ := filter_eq_some_iff.1 h
  simp only [eligible,Bool.and_eq_true,List.isEmpty_iff,bne_iff_ne,ne_eq, Option.any_eq_true] at heligible
  obtain ⟨⟨⟨hstanding,hevidence⟩,hindependent⟩,expiresAt,hexpires,hearly⟩ := heligible
  obtain ⟨recorded,expiry,hrecorded,hexpiry,hbefore⟩ := earlier_eq_true hearly
  obtain ⟨evaluated,hevaluated,hlapse⟩ := plusSeconds_eq_some hexpires
  have hreviewed := missingEvidence_runtime.1 hevidence
  cases hread : standingOf input.authority actorId input.subject.requirement.approverAction
      input.subject.resourceScope input.now with
  | none => simp [hread] at hstanding
  | some standing =>
    obtain ⟨recognition,check⟩ := standing
    unfold standingOf at hread
    obtain ⟨known,hknown,hread⟩ := bind_eq_some_iff.1 hread
    obtain ⟨held,hheld,hread⟩ := bind_eq_some_iff.1 hread
    cases hread
    simp only [standingOf,hknown,hheld,Bool.and_eq_true,bne_iff_ne,ne_eq,bind_eq_bind,
      bind_some] at hstanding
    refine ⟨hours.1,horganization,hrequest,hdecision,hsubject,hactor,hindependent,?_,?_,
      ⟨recognition,hknown,hstanding.1.1.1⟩, ⟨check,hheld,hstanding.1.1.2,hstanding.1.2,hstanding.2⟩⟩
    · refine ⟨recorded,evaluated,hrecorded,hevaluated,?_⟩
      rw [hexpiry,some.injEq] at hlapse
      omega
    · intro type htype
      obtain ⟨artifact,hartifact,hsame⟩ := mem_map.1 (hreviewed type htype)
      exact ⟨artifact,hartifact,hsame⟩

theorem CountedApproval.approverOf_eq {expiresAt : String}
    (h : CountedApproval H input row actorId)
    (hexpires : plusSeconds H input.subject.decision.evaluatedAt input.subject.requirement.requestTtlSeconds = some expiresAt) :
    approverOf H input row = some actorId := by
  have hbelongs : belongs input row = true :=
    belongs_iff.2 ⟨h.request,h.decision,h.subject,h.organization⟩
  obtain ⟨recorded,evaluated,hrecorded,hevaluated,hbefore⟩ := h.timely
  obtain ⟨recognition,hknown,hrecognized⟩ := h.recognized
  obtain ⟨check,hheld,hvalid,hscope,hancestor⟩ := h.authorized
  obtain ⟨ms,hms,hexpiry⟩ := plusSeconds_eq_some hexpires
  have hearly : earlier P row.recordedAt expiresAt = true := by
    rw [hevaluated,some.injEq] at hms
    rw [earlier,hrecorded,hexpiry,← hms]
    exact decide_eq_true hbefore
  have hevidence : missingEvidence (runtimeRequirementOf input.subject)
      (evidenceArtifacts H row actorId) = [] := by
    apply missingEvidence_runtime.2
    intro type htype
    obtain ⟨artifact,hartifact,rfl⟩ := h.evidence type htype
    exact mem_map_of_mem hartifact
  have heligible : eligible H input row actorId = true := by
    simp [eligible,standingOf,hknown,hheld,hrecognized,hvalid,hscope,hancestor,hevidence,
      h.independent,hexpires,hearly]
  rw [approverOf_approved h.kind hbelongs h.actor,heligible]
  rfl

theorem filterMap_counted
    (h : List.Forall₂ (fun row verdict => approverOf H input row = some verdict.decision.approverActorId ∧ verdict.rowDigest = row.digest) rows accepted) :
    rows.filterMap (approverOf H input) = accepted.map (·.decision.approverActorId) := by
  induction h with
  | nil => rfl
  | cons hrow _ ih => rw [filterMap_cons_some hrow.1,ih,map_cons]

theorem Accepts.completed {front : List StoredApprovalRecord} {last : StoredApprovalRecord}
    (h : Accepts H input (front ++ [last]) accepted) (hshort : quorate H input front = false)
    (hquorum : quorate H input (front ++ [last]) = true) :
    ∃ counted, counted <+ front ∧ List.Forall₂ (fun row verdict =>
        approverOf H input row = some verdict.decision.approverActorId ∧
        verdict.rowDigest = row.digest) (counted ++ [last]) accepted := by
  obtain ⟨rows,hsublist,hcounted⟩ := h.counted
  obtain ⟨counted,rest,rfl,hfront,hrest⟩ := sublist_append_iff.1 hsublist
  rcases sublist_cons_iff.1 hrest with hnil | ⟨tail,rfl,htail⟩
  · rw [sublist_nil.1 hnil,append_nil] at hcounted
    exfalso
    -- every counted row stands in front, so the last one adds no approver
    have hknown : ∀ actorId ∈ eligibleApprovers H input (front ++ [last]),
        actorId ∈ eligibleApprovers H input front := by
      rw [← h.approvers,← filterMap_counted hcounted]
      intro actorId hactor
      obtain ⟨row,hrow,happrover⟩ := mem_filterMap.1 hactor
      exact OrderedSet.mem_ofList.2 (mem_filterMap.2 ⟨row,hfront.subset hrow,happrover⟩)
    have hsame : eligibleApprovers H input (front ++ [last]) = eligibleApprovers H input front := by
      rw [eligibleApprovers_concat]
      cases hlast : approverOf H input last with
      | none => rfl
      | some actorId =>
        apply if_pos
        apply hknown
        rw [eligibleApprovers_concat,hlast]
        simp
    rw [quorate,hsame] at hquorum
    rw [quorate,hquorum] at hshort
    cases hshort
  · rw [sublist_nil.1 htail] at hcounted
    exact ⟨counted,hfront,hcounted⟩

theorem evaluateApproval_approved {evaluation : ApprovalEvaluation}
    (h : evaluateApproval H input = some evaluation) (happroved : evaluation.status = .approved) :
    ∃ replay approvedAt notAfter, input.rows.foldlM (replayRow H input) Replay.start = some replay ∧
      replay.status = .approved ∧ replay.approvedAt = some approvedAt ∧
      plusSeconds H approvedAt input.subject.requirement.approvalValiditySeconds = some notAfter ∧
      notEarlier P input.now notAfter = false ∧
      evaluation.approvers = replay.approvers ∧ evaluation.approvedAt = some approvedAt ∧
      evaluation.notAfter = some notAfter ∧ evaluation.approvalDigest =
        some (approvalProofDigest P (proofOf input replay approvedAt notAfter)) := by
  unfold evaluateApproval at h
  obtain ⟨requestExpiresAt,-,h⟩ := bind_eq_some_iff.1 h
  obtain ⟨replay,hreplay,h⟩ := bind_eq_some_iff.1 h
  dsimp only at h
  split at h
  · cases h
    cases happroved
  · cases h
    cases happroved
  · next approvedAt hstatus hat =>
    obtain ⟨notAfter,hnotAfter,h⟩ := bind_eq_some_iff.1 h
    split_ifs at h with hlapsed
    · cases h
      cases happroved
    · cases h
      exact ⟨replay,approvedAt,notAfter,hreplay,hstatus,hat,hnotAfter,by simpa using hlapsed,
        rfl,rfl,rfl,rfl⟩
  · split_ifs at h
    · cases h
      cases happroved
    · cases h
      cases happroved

theorem stringified_append_inj {xs ys : List String} {r s : String} :
    join "," (xs.map stringify) ++ ("]" ++ r) = join "," (ys.map stringify) ++ ("]" ++ s) ↔
      xs = ys ∧ r = s := by
  constructor
  · exact join_append_inj stringify_prefixFree (by decide)
      fun _ _ _ => stringify_ne_unquoted (by decide) _ _
  · rintro ⟨rfl,rfl⟩
    rfl

theorem approvalProofText_inj (h : approvalProofText a = approvalProofText b) : a = b := by
  obtain ⟨aOrganization,aApproval,aRequest,aDecision,aSubject,aRequirement,aMinimum,
    aApprovers,aRows,aApproved,aNotAfter⟩ := a
  obtain ⟨bOrganization,bApproval,bRequest,bDecision,bSubject,bRequirement,bMinimum,
    bApprovers,bRows,bApproved,bNotAfter⟩ := b
  simp only [approvalProofText,join_cons_cons,join_singleton,String.append_assoc,
    String.append_right_inj,stringify_append_inj,integer_comma_inj,stringified_append_inj, and_true] at h
  obtain ⟨rfl,rfl,rfl,rfl,rfl,rfl,rfl,rfl,rfl,rfl,rfl⟩ := h
  rfl

theorem approvalProofDigest_inj (hsha : Function.Injective P.sha256)
    (h : approvalProofDigest P a = approvalProofDigest P b) : a = b :=
  approvalProofText_inj (Platform.digestOf_injective hsha h)

/-- The rows an approval rests on, from the first one counted to the one that completed the
quorum. -/
structure Grounds (H : Host P) (input : EvaluateApprovalInput) (evaluation : ApprovalEvaluation)
    (front : List StoredApprovalRecord) (completing : StoredApprovalRecord)
    (back counted : List StoredApprovalRecord) : Prop where
  rows : input.rows = front ++ completing :: back
  within : counted <+ front
  approvals : List.Forall₂ (CountedApproval H input) (counted ++ [completing]) evaluation.approvers
  distinct : evaluation.approvers.Nodup
  enough : input.subject.requirement.minimumApprovals ≤ evaluation.approvers.length
  exact : ∀ actorId, actorId ∈ evaluation.approvers ↔
    ∃ row ∈ front ++ [completing], CountedApproval H input row actorId
  unrevoked : ∀ row ∈ input.rows, given input .revoked row = false
  unrejected : ∀ row ∈ front, given input .rejected row = false
  approvedAt : evaluation.approvedAt = some completing.recordedAt
  current : ∃ approved, P.dateParse completing.recordedAt = some approved ∧
    ∀ now, P.dateParse input.now = some now →
      now < approved + input.subject.requirement.approvalValiditySeconds * 1000
  bound : ∃ digest, evaluation.approvalDigest = some digest ∧
    (Function.Injective P.sha256 → ∀ proof, approvalProofDigest P proof = digest →
      proof.organizationId = input.subject.organizationId ∧
      proof.approvalRequestId = input.approvalRequestId ∧
      proof.requestId = input.subject.requestId ∧ proof.decisionId = input.subject.decisionId ∧
      proof.subjectDigest = input.subjectDigest ∧
      proof.requirementDigest = input.subject.requirementDigest ∧
      proof.minimumApprovals = input.subject.requirement.minimumApprovals ∧
      proof.approvers = evaluation.approvers ∧ proof.rowDigests = (counted ++ [completing]).map (·.digest) ∧
      proof.approvedAt = completing.recordedAt ∧ some proof.notAfter = evaluation.notAfter)

section

variable
  (h : List.Forall₂ (fun row verdict => approverOf H input row = some verdict.decision.approverActorId ∧ verdict.rowDigest = row.digest) rows accepted)
include h

theorem forall₂_digests : accepted.map (·.rowDigest) = rows.map (·.digest) := by
  induction h with
  | nil => rfl
  | cons hrow _ ih => rw [map_cons,map_cons,hrow.2,ih]

theorem forall₂_countedApproval :
    List.Forall₂ (CountedApproval H input) rows (accepted.map (·.decision.approverActorId)) := by
  rw [forall₂_map_right_iff]
  exact h.imp fun _ _ hrow => CountedApproval.of_approverOf hrow.1

end

/-- An evaluation that answers `approved` has grounds in the rows it read. -/
theorem approved_evaluation_has_grounds {evaluation : ApprovalEvaluation}
    (h : evaluateApproval H input = some evaluation) (happroved : evaluation.status = .approved) :
    ∃ front completing back counted, Grounds H input evaluation front completing back counted := by
  have hexpires : ∃ expiresAt, plusSeconds H input.subject.decision.evaluatedAt
      input.subject.requirement.requestTtlSeconds = some expiresAt := by
    obtain ⟨expiresAt,hexpires,-⟩ := Option.bind_eq_some_iff.1 h
    exact ⟨expiresAt,hexpires⟩
  obtain ⟨expiresAt,hexpires⟩ := hexpires
  obtain ⟨replay,approvedAt,notAfter,hreplay,hstatus,hat,hnotAfter,hcurrent,happrovers,
    hevaluatedAt,hlapse,hdigest⟩ := evaluateApproval_approved h happroved
  have hreplayed := foldlM_replayed hreplay
  rw [hstatus,hat] at hreplayed
  cases hreplayed with
  | approved front completing back hrows hopen hkind hquorum hback haccepts =>
    obtain ⟨counted,hwithin,hcounted⟩ := haccepts.completed hopen.short hquorum
    have hnames : evaluation.approvers = eligibleApprovers H input (front ++ [completing]) := by
      rw [happrovers]
      exact haccepts.approvers
    obtain ⟨approved,hparsed,hend⟩ := plusSeconds_eq_some hnotAfter
    refine ⟨front,completing,back,counted,hrows,hwithin,?_,?_,?_,?_,?_,hopen.unrejected,
      hevaluatedAt,⟨approved,hparsed,?_⟩,⟨_,hdigest,?_⟩⟩
    · rw [happrovers]
      exact forall₂_countedApproval hcounted
    · rw [hnames]
      exact OrderedSet.nodup_ofList _
    · rw [hnames]
      exact (of_decide_eq_true hquorum).2
    · intro actorId
      rw [hnames,eligibleApprovers,OrderedSet.mem_ofList,mem_filterMap]
      constructor
      · rintro ⟨row,hrow,happrover⟩
        exact ⟨row,hrow,.of_approverOf happrover⟩
      · rintro ⟨row,hrow,hcountedRow⟩
        exact ⟨row,hrow,hcountedRow.approverOf_eq hexpires⟩
    · rw [hrows]
      intro row hrow
      rcases List.mem_append.1 hrow with hrow | hrow
      · exact hopen.unrevoked row hrow
      · rcases List.mem_cons.1 hrow with rfl | hrow
        · exact given_of_ne (by rw [hkind]; decide)
        · exact hback row hrow
    · intro now hnow
      simp only [notEarlier,hnow,hend,decide_eq_false_iff_not] at hcurrent
      omega
    · intro hsha proof hproof
      rw [approvalProofDigest_inj hsha hproof]
      refine ⟨rfl,rfl,rfl,rfl,rfl,rfl,rfl,happrovers.symm,?_,rfl,hlapse.symm⟩
      exact forall₂_digests hcounted

def approvalHost : Host contextPlatform :=
  { contextDates with
    toISOString_ne_empty := by
      intro n
      change contextToISOString n ≠ ""
      unfold contextToISOString
      cases hfind : contextInstants.find? fun entry => entry.2 == n with
      | none =>
        intro hempty
        simpa [unaryInstant] using congrArg String.toList hempty
      | some entry =>
        have htable : ∀ entry ∈ contextInstants, entry.1 ≠ "" := by decide
        exact htable entry (mem_of_find?_eq_some hfind)
    parseJson := Json.parse }

/-- An agent's payment, which one holder of `approve.payment` must approve within the hour. -/
def paymentSubject (minimumApprovals : Int) : ApprovalSubject where
  organizationId := "acme"
  requestId := "request-1"
  decisionId := "decision-1"
  evaluationId := "evaluation-1"
  decisionDigest := ⟨"sha256:request","sha256:evaluation"⟩
  actorId := "agent"
  action := "payment.execute"
  resourceScope := "payments:acme"
  governanceProfile := "payments@1#sha256:profile"
  actionClass := "payment"
  resourceClass := "account"
  decision := ⟨"approval_required",["APPROVAL_REQUIRED"],"2025-12-31T23:00:00.000Z"⟩
  requirement := {
    approverAction := "approve.payment"
    minimumApprovals
    requestTtlSeconds := 3600
    approvalValiditySeconds := 3541 }
  requirementDigest := "sha256:requirement"

def portKnowing (approvers : List String) : ApprovalAuthorityPort where
  recognition actorId := some ⟨decide (actorId ∈ approvers),"ACTOR","by name"⟩
  authority query :=
    some ⟨decide (query.actorId ∈ approvers),"authority_valid","AUTHORITY","by name"⟩

def paymentRow (sequence : Int) (kind : ApprovalRecordKind) (actorId : Option String) :
    StoredApprovalRecord where
  organizationId := "acme"
  requestId := "request-1"
  decisionId := "decision-1"
  subjectDigest := "sha256:subject"
  kind
  actorId
  recordedBy := "console"
  recordedAt := "2025-12-31T23:01:00.000Z"
  sequence
  digest := "sha256:row-" ++ toString sequence

def paymentInput (rows : List StoredApprovalRecord) : EvaluateApprovalInput where
  subject := paymentSubject 1
  subjectDigest := "sha256:subject"
  approvalRequestId := "approval-request:1"
  rows
  now := sampleInstant
  authority := portKnowing ["alice"]

/-- The evaluation of one approval by an approver of this standing. -/
theorem approved_by_alice_has_grounds : ∃ evaluation, evaluateApproval approvalHost
        (paymentInput [paymentRow 1 .approved (some "alice")]) = some evaluation ∧
      evaluation.status = .approved ∧ evaluation.approvers = ["alice"] ∧ ∃ front completing back counted,
        Grounds approvalHost (paymentInput [paymentRow 1 .approved (some "alice")]) evaluation front
          completing back counted := by
  obtain ⟨evaluation,heval,hstatus,happrovers⟩ : ∃ evaluation, evaluateApproval approvalHost
      (paymentInput [paymentRow 1 .approved (some "alice")]) = some evaluation ∧
      evaluation.status = .approved ∧ evaluation.approvers = ["alice"] :=
    ⟨_,rfl,rfl,rfl⟩
  exact ⟨evaluation,heval,hstatus,happrovers,approved_evaluation_has_grounds heval hstatus⟩

/-- A revocation that names no actor is passed over. -/
theorem approved_past_anonymous_revocation : ∃ evaluation, evaluateApproval approvalHost
        (paymentInput [paymentRow 1 .approved (some "alice"), paymentRow 2 .revoked none]) =
          some evaluation ∧
      evaluation.status = .approved ∧ ∃ row ∈ (paymentInput [paymentRow 1 .approved (some "alice"),
          paymentRow 2 .revoked none]).rows,
        row.kind = .revoked ∧ belongs (paymentInput [paymentRow 1 .approved (some "alice"),
          paymentRow 2 .revoked none]) row = true := by
  refine ⟨_,rfl,rfl,paymentRow 2 .revoked none,?_,rfl,?_⟩
  · simp [paymentInput]
  · decide

end Frontera.Approval
