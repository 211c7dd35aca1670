import Frontera.Approval.Evaluation

/-! An approving row counts for its author when the policies that do not look at the state of the
replay admit it. The replay stands open while no row has closed the request and the authors of the
counting rows are no quorum; the row that changes this decides. -/

namespace Frontera.Approval

open Frontera.Context Frontera.Data List Option OrderedSet
open scoped List

variable {P : Platform} (H : Host P) (input : EvaluateApprovalInput)

/-- The policies that judge an approving row whatever the replay has reached. -/
def eligible (row : StoredApprovalRecord) (actorId : String) : Bool :=
  (match standingOf input.authority actorId input.subject.requirement.approverAction
      input.subject.resourceScope input.now with
    | some (recognition, check) =>
        recognition.recognized && check.valid && check.type != "scope_expansion_detected" &&
          check.type != "ancestor_revoked"
    | none => false) &&
  (missingEvidence (runtimeRequirementOf input.subject) (evidenceArtifacts H row actorId)).isEmpty &&
  actorId != input.subject.actorId &&
  (plusSeconds H input.subject.decision.evaluatedAt
      input.subject.requirement.requestTtlSeconds).any (earlier P row.recordedAt)

/-- The actor an approving row of this subject counts for. -/
def approverOf (row : StoredApprovalRecord) : Option String :=
  if row.kind = .approved && belongs input row then row.actorId.filter (eligible H input row)
  else none

/-- The distinct actors the rows count for, in the order of the rows. -/
def eligibleApprovers (rows : List StoredApprovalRecord) : List String :=
  ofList (rows.filterMap (approverOf H input))

/-- The rows count for enough actors, and for one at least. -/
def quorate (rows : List StoredApprovalRecord) : Bool :=
  decide (eligibleApprovers H input rows ≠ [] ∧
    input.subject.requirement.minimumApprovals ≤ (eligibleApprovers H input rows).length)

/-- A row of this kind on this subject, by an actor. -/
def given (kind : ApprovalRecordKind) (row : StoredApprovalRecord) : Bool :=
  decide (row.kind = kind) && belongs input row && row.actorId.isSome

theorem eligibleApprovers_concat (rows : List StoredApprovalRecord) (row : StoredApprovalRecord) :
    eligibleApprovers H input (rows ++ [row]) = match approverOf H input row with
      | none => eligibleApprovers H input rows
      | some actorId => add (eligibleApprovers H input rows) actorId := by
  unfold eligibleApprovers
  rw [filterMap_append]
  cases h : approverOf H input row with
  | none => simp [h]
  | some actorId => simp [h,ofList_concat]

variable {rows : List StoredApprovalRecord} {request : ApprovalRequest}
  {status : ApprovalRequestStatus} {kind : ApprovalRecordKind} {row : StoredApprovalRecord}
  {actorId : String} {replay replay' : Replay}

theorem quorate_mono {more : List StoredApprovalRecord} (h : quorate H input rows = true) :
    quorate H input (rows ++ more) = true := by
  have hfront : eligibleApprovers H input rows <+: eligibleApprovers H input (rows ++ more) := by
    unfold eligibleApprovers
    rw [filterMap_append]
    exact ofList_prefix _ _
  unfold quorate at h ⊢
  obtain ⟨hsome,hminimum⟩ := of_decide_eq_true h
  refine decide_eq_true ⟨?_,?_⟩
  · intro hnil
    rw [hnil] at hfront
    exact hsome (prefix_nil.1 hfront)
  · have hlength := hfront.length_le
    omega

variable {H input}

theorem missingEvidence_runtime {subject : ApprovalSubject}
    {reviewed : List ApprovalEvidenceArtifact} :
    missingEvidence (runtimeRequirementOf subject) reviewed = [] ↔
      ∀ type ∈ subject.requirement.requiredEvidence.getD [], type ∈ reviewed.map (·.type) := by
  have hrequired : ((runtimeRequirementOf subject).evidenceRequirements.filter (·.required)).map
      (·.type) = subject.requirement.requiredEvidence.getD [] := by
    unfold runtimeRequirementOf
    generalize subject.requirement.requiredEvidence.getD [] = types
    induction types with
    | nil => rfl
    | cons type types ih => simpa using ih
  rw [missingEvidence,hrequired,filter_eq_nil_iff]
  simp only [Bool.not_eq_true',decide_eq_false_iff_not,not_not]

theorem runtimeRequestOf_fields
    (h : runtimeRequestOf H input.subject input.approvalRequestId status = some request) :
    request.status = status ∧ request.requirement = runtimeRequirementOf input.subject ∧
    request.requestedByActorId = input.subject.actorId ∧ request.targetActorId = input.subject.actorId ∧
    request.resourceScope = input.subject.resourceScope ∧
    ∃ expiresAt, expiresAt ≠ "" ∧ request.expiresAt = some expiresAt ∧
      plusSeconds H input.subject.decision.evaluatedAt
        input.subject.requirement.requestTtlSeconds = some expiresAt := by
  unfold runtimeRequestOf at h
  obtain ⟨expiresAt,hexpires,hbuilt⟩ := bind_eq_some_iff.1 h
  have hstated : expiresAt ≠ "" := by
    unfold plusSeconds at hexpires
    obtain ⟨ms,-,hclip⟩ := bind_eq_some_iff.1 hexpires
    split_ifs at hclip
    cases hclip
    exact H.toISOString_ne_empty _
  cases hbuilt
  exact ⟨rfl,rfl,rfl,rfl,rfl,expiresAt,hstated,rfl,hexpires⟩

theorem admit_replayed
    (hrequest : runtimeRequestOf H input.subject input.approvalRequestId status = some request)
    (row : StoredApprovalRecord) (actorId : String) (prior : List ApprovalDecision) :
    (admitApproval P (policyContextFor request actorId .approved (evidenceArtifacts H row actorId)
        row.recordedAt input.now prior input.authority)).passed = true ↔
      status = .pending ∧ eligible H input row actorId = true ∧
      ∀ decision ∈ prior, decision.type = .approved → decision.approverActorId ≠ actorId := by
  obtain ⟨hstatus,hrequirement,hrequester,htarget,hscope,expiresAt,hstated,hexpiry,
    hexpires⟩ := runtimeRequestOf_fields hrequest
  have hcapability : request.requirement.requiredAuthorityCapability =
      some input.subject.requirement.approverAction := by
    rw [hrequirement]
    rfl
  have hduties : request.requirement.requiresSegregationOfDuties = true := by
    rw [hrequirement]
    rfl
  rw [admit_approved rfl rfl hcapability rfl hduties hexpiry hstated]
  unfold eligible
  rw [hexpires]
  rw [hrequirement] at hcapability
  simp only [policyContextFor,hstatus,hrequirement,hrequester,htarget,hscope,hcapability,
    getD_some,any_some]
  cases hstanding : standingOf input.authority actorId input.subject.requirement.approverAction
      input.subject.resourceScope input.now with
  | none => simp [unreadableStanding]
  | some standing =>
    obtain ⟨recognition,check⟩ := standing
    simp only [getD_some,Bool.and_eq_true,List.isEmpty_iff,bne_iff_ne,ne_eq]
    tauto

variable (H input)

/-- The rows have closed nothing, and count for no quorum. -/
structure StandsOpen (rows : List StoredApprovalRecord) : Prop where
  unrejected : ∀ row ∈ rows, given input .rejected row = false
  unrevoked : ∀ row ∈ rows, given input .revoked row = false
  short : quorate H input rows = false

/-- What was accepted comes from the rows, in their order. -/
structure Accepts (rows : List StoredApprovalRecord) (accepted : List AcceptedVerdict) : Prop where
  approvers : accepted.map (·.decision.approverActorId) = eligibleApprovers H input rows
  approving : ∀ verdict ∈ accepted, verdict.decision.type = .approved
  counted : ∃ counted, counted <+ rows ∧
    List.Forall₂ (fun row verdict => approverOf H input row = some verdict.decision.approverActorId ∧
      verdict.rowDigest = row.digest) counted accepted

/-- How the replay has judged the rows: by the row that decided, where one did. -/
inductive Replayed (rows : List StoredApprovalRecord) : ApprovalRequestStatus → Option String →
    List AcceptedVerdict → Prop
  | pending {accepted} (hopen : StandsOpen H input rows) (haccepts : Accepts H input rows accepted) :
      Replayed rows .pending none accepted
  | approved {accepted} (front : List StoredApprovalRecord) (last : StoredApprovalRecord)
      (back : List StoredApprovalRecord) (hrows : rows = front ++ last :: back)
      (hopen : StandsOpen H input front) (hkind : last.kind = .approved)
      (hquorum : quorate H input (front ++ [last]) = true)
      (hback : ∀ row ∈ back, given input .revoked row = false)
      (haccepts : Accepts H input (front ++ [last]) accepted) :
      Replayed rows .approved (some last.recordedAt) accepted
  | rejected {approvedAt accepted} (front : List StoredApprovalRecord)
      (last : StoredApprovalRecord) (back : List StoredApprovalRecord)
      (hrows : rows = front ++ last :: back) (hopen : StandsOpen H input front)
      (hgiven : given input .rejected last = true) :
      Replayed rows .rejected approvedAt accepted
  | revoked {approvedAt accepted} (row : StoredApprovalRecord) (hmem : row ∈ rows)
      (hgiven : given input .revoked row = true) : Replayed rows .revoked approvedAt accepted

variable {H input}

theorem given_kind (h : given input kind row = true) : row.kind = kind := by
  unfold given at h
  rw [Bool.and_eq_true,Bool.and_eq_true] at h
  exact of_decide_eq_true h.1.1

theorem given_of_ne (h : row.kind ≠ kind) : given input kind row = false := by
  simp [given,h]

theorem approverOf_of_ne (h : row.kind ≠ .approved) : approverOf H input row = none := by
  simp [approverOf,h]

theorem standsOpen_nil : StandsOpen H input [] := by
  refine ⟨by simp,by simp,?_⟩
  simp [quorate,eligibleApprovers]

theorem accepts_nil : Accepts H input [] [] :=
  ⟨rfl,by simp,[],List.Sublist.slnil,List.Forall₂.nil⟩

theorem StandsOpen.concat (h : StandsOpen H input rows)
    (hrejected : given input .rejected row = false) (hrevoked : given input .revoked row = false)
    (hshort : quorate H input (rows ++ [row]) = false) : StandsOpen H input (rows ++ [row]) := by
  refine ⟨?_,?_,hshort⟩
  · intro r hr
    rcases mem_append.1 hr with hr | hr
    · exact h.unrejected r hr
    · rw [mem_singleton.1 hr]
      exact hrejected
  · intro r hr
    rcases mem_append.1 hr with hr | hr
    · exact h.unrevoked r hr
    · rw [mem_singleton.1 hr]
      exact hrevoked

theorem Accepts.concat {accepted : List AcceptedVerdict} (h : Accepts H input rows accepted)
    (hsame : eligibleApprovers H input (rows ++ [row]) = eligibleApprovers H input rows) :
    Accepts H input (rows ++ [row]) accepted := by
  obtain ⟨counted,hsublist,hcounted⟩ := h.counted
  exact ⟨h.approvers.trans hsame.symm,h.approving,counted,
    hsublist.trans (sublist_append_left rows [row]),hcounted⟩

theorem Replayed.pass {approvedAt : Option String} {accepted : List AcceptedVerdict}
    (h : Replayed H input rows status approvedAt accepted)
    (hrejected : status = .pending → given input .rejected row = false)
    (hrevoked : status = .pending ∨ status = .approved → given input .revoked row = false)
    (hsame : status = .pending → eligibleApprovers H input (rows ++ [row]) = eligibleApprovers H input rows) :
    Replayed H input (rows ++ [row]) status approvedAt accepted := by
  cases h with
  | pending hopen haccepts =>
    have hshort : quorate H input (rows ++ [row]) = false := by
      rw [quorate,hsame rfl]
      exact hopen.short
    exact .pending (hopen.concat (hrejected rfl) (hrevoked (.inl rfl)) hshort)
      (haccepts.concat (hsame rfl))
  | approved front last back hrows hopen hkind hquorum hback haccepts =>
    refine .approved front last (back ++ [row]) (by rw [hrows]; simp) hopen hkind hquorum ?_ haccepts
    intro r hr
    rcases mem_append.1 hr with hr | hr
    · exact hback r hr
    · rw [mem_singleton.1 hr]
      exact hrevoked (.inr rfl)
  | rejected front last back hrows hopen hgiven =>
    exact .rejected front last (back ++ [row]) (by rw [hrows]; simp) hopen hgiven
  | revoked r hmem hgiven => exact .revoked r (mem_append_left [row] hmem) hgiven

theorem eligibleApprovers_of_none (h : approverOf H input row = none)
    (rows : List StoredApprovalRecord) :
    eligibleApprovers H input (rows ++ [row]) = eligibleApprovers H input rows := by
  rw [eligibleApprovers_concat,h]

theorem approverOf_approved (hkind : row.kind = .approved) (hbelongs : belongs input row = true)
    (hactor : row.actorId = some actorId) :
    approverOf H input row = if eligible H input row actorId then some actorId else none := by
  simp [approverOf,hkind,hbelongs,hactor,Option.filter]

theorem eligibleApprovers_of_refused {accepted : List AcceptedVerdict}
    (haccepts : Accepts H input rows accepted)
    (happrover : approverOf H input row = if eligible H input row actorId then some actorId else none)
    (hrefused : ¬(eligible H input row actorId = true ∧ ∀ decision ∈ accepted.map (·.decision), decision.type = .approved → decision.approverActorId ≠ actorId)) :
    eligibleApprovers H input (rows ++ [row]) = eligibleApprovers H input rows := by
  rw [eligibleApprovers_concat,happrover]
  cases heligible : eligible H input row actorId with
  | false => rfl
  | true =>
    have hcounted : actorId ∈ eligibleApprovers H input rows := by
      by_contra hnew
      apply hrefused
      refine ⟨heligible,?_⟩
      intro decision hdecision _ hsame
      obtain ⟨verdict,hverdict,rfl⟩ := mem_map.1 hdecision
      apply hnew
      rw [← haccepts.approvers,← hsame]
      exact mem_map_of_mem hverdict
    simp only [if_true]
    rw [add,if_pos hcounted]

theorem eligibleApprovers_of_admitted {accepted : List AcceptedVerdict}
    (haccepts : Accepts H input rows accepted) (happrover : approverOf H input row = some actorId)
    (hnew : ∀ decision ∈ accepted.map (·.decision), decision.type = .approved → decision.approverActorId ≠ actorId) :
    eligibleApprovers H input (rows ++ [row]) = eligibleApprovers H input rows ++ [actorId] := by
  have hout : actorId ∉ eligibleApprovers H input rows := by
    intro hmem
    rw [← haccepts.approvers] at hmem
    obtain ⟨verdict,hverdict,hsame⟩ := mem_map.1 hmem
    exact hnew verdict.decision (mem_map_of_mem hverdict) (haccepts.approving verdict hverdict)
      hsame
  rw [eligibleApprovers_concat,happrover]
  exact if_neg hout

theorem Accepts.admitted {accepted : List AcceptedVerdict} {verdict : AcceptedVerdict}
    (h : Accepts H input rows accepted)
    (happrover : approverOf H input row = some verdict.decision.approverActorId)
    (hdigest : verdict.rowDigest = row.digest) (htype : verdict.decision.type = .approved)
    (hmore : eligibleApprovers H input (rows ++ [row]) = eligibleApprovers H input rows ++ [verdict.decision.approverActorId]) :
    Accepts H input (rows ++ [row]) (accepted ++ [verdict]) := by
  obtain ⟨counted,hsublist,hcounted⟩ := h.counted
  refine ⟨?_,?_,counted ++ [row],hsublist.append (List.Sublist.refl [row]),?_⟩
  · rw [map_append,h.approvers,hmore]
    rfl
  · intro v hv
    rcases mem_append.1 hv with hv | hv
    · exact h.approving v hv
    · rw [mem_singleton.1 hv]
      exact htype
  · exact rel_append hcounted (List.Forall₂.cons ⟨happrover,hdigest⟩ List.Forall₂.nil)

theorem quorumPolicy_replayed
    (hrequest : runtimeRequestOf H input.subject input.approvalRequestId status = some request)
    {accepted : List AcceptedVerdict} (haccepts : Accepts H input rows accepted)
    (hmore : eligibleApprovers H input (rows ++ [row]) = eligibleApprovers H input rows ++ [actorId]) :
    (quorumPolicy.evaluate (policyContextFor request actorId .approved
      (evidenceArtifacts H row actorId) row.recordedAt input.now (accepted.map (·.decision))
      input.authority)).passed = quorate H input (rows ++ [row]) := by
  have hprior : ((accepted.map (·.decision)).filter fun decision => decision.type = .approved) =
      accepted.map (·.decision) := by
    rw [filter_eq_self]
    intro decision hdecision
    obtain ⟨verdict,hverdict,rfl⟩ := mem_map.1 hdecision
    exact decide_eq_true (haccepts.approving verdict hverdict)
  have hnames : (accepted.map (·.decision)).map (·.approverActorId) = eligibleApprovers H input rows := by
    rw [List.map_map]
    exact haccepts.approvers
  have hdistinct : distinctApprovers (policyContextFor request actorId .approved
      (evidenceArtifacts H row actorId) row.recordedAt input.now (accepted.map (·.decision))
      input.authority) = eligibleApprovers H input (rows ++ [row]) := by
    have hnodup : (eligibleApprovers H input (rows ++ [row])).Nodup := nodup_ofList _
    have hkept : ofList (eligibleApprovers H input rows) = eligibleApprovers H input rows :=
      ofList_eq_of_nodup (nodup_ofList _)
    unfold distinctApprovers
    simp only [policyContextFor,hprior,hnames,if_true,hkept]
    rw [add,if_neg,hmore]
    intro hmem
    rw [hmore,nodup_append] at hnodup
    exact hnodup.2.2 actorId hmem actorId (by simp) rfl
  have hminimum : request.requirement.minimumApprovals = input.subject.requirement.minimumApprovals := by
    rw [(runtimeRequestOf_fields hrequest).2.1]
    rfl
  have hsome : eligibleApprovers H input (rows ++ [row]) ≠ [] := by
    rw [hmore]
    simp
  unfold quorumPolicy
  simp only [hdistinct]
  simp only [policyContextFor,map_some,getD_some,hminimum,quorate]
  split_ifs with hfew
  · simp [refuse,hsome]
    omega
  · simp [pass,hsome]
    omega

theorem Replay.approve_replayed
    (h : Replayed H input rows replay.status replay.approvedAt replay.accepted)
    (hkind : row.kind = .approved) (hbelongs : belongs input row = true)
    (hactor : row.actorId = some actorId)
    (hstep : replay.approve H input row actorId = some replay') :
    Replayed H input (rows ++ [row]) replay'.status replay'.approvedAt replay'.accepted := by
  have hrejected : given input .rejected row = false := given_of_ne (by rw [hkind]; decide)
  have hrevoked : given input .revoked row = false := given_of_ne (by rw [hkind]; decide)
  have happrover := approverOf_approved (H := H) hkind hbelongs hactor
  unfold Replay.approve at hstep
  obtain ⟨request,hrequest,hstep⟩ := bind_eq_some_iff.1 hstep
  have hadmitted := admit_replayed hrequest row actorId (replay.accepted.map (·.decision))
  dsimp only at hstep
  by_cases hpassed : (admitApproval P (policyContextFor request actorId .approved
      (evidenceArtifacts H row actorId) row.recordedAt input.now
      (replay.accepted.map (·.decision)) input.authority)).passed = true
  · obtain ⟨hpending,heligible,hnew⟩ := hadmitted.1 hpassed
    rw [heligible,if_pos rfl] at happrover
    obtain ⟨status,approvedAt,closedBy,accepted,verdicts⟩ := replay
    cases hpending
    cases h with
    | pending hopen haccepts =>
      have hmore := eligibleApprovers_of_admitted haccepts happrover hnew
      have hreached := quorumPolicy_replayed hrequest haccepts hmore
      dsimp only at hpassed hstep
      rw [hpassed] at hstep
      simp only [hreached] at hstep
      cases hquorum : quorate H input (rows ++ [row]) with
      | false =>
        rw [hquorum] at hstep
        cases hstep
        exact .pending (hopen.concat hrejected hrevoked hquorum)
          (haccepts.admitted happrover rfl rfl hmore)
      | true =>
        rw [hquorum] at hstep
        cases hstep
        exact .approved rows row [] rfl hopen hkind hquorum (by simp)
          (haccepts.admitted happrover rfl rfl hmore)
  · have hrefused := fun hgood => hpassed (hadmitted.2 hgood)
    rw [Bool.not_eq_true] at hpassed
    rw [hpassed] at hstep
    cases hstep
    refine h.pass (fun _ => hrejected) (fun _ => hrevoked) ?_
    intro hpending
    obtain ⟨status,approvedAt,closedBy,accepted,verdicts⟩ := replay
    cases hpending
    cases h with
    | pending hopen haccepts =>
      exact eligibleApprovers_of_refused haccepts happrover fun hgood => hrefused ⟨rfl,hgood⟩

theorem Replay.close_replayed (actorId : String)
    (h : Replayed H input rows replay.status replay.approvedAt replay.accepted)
    (hgiven : given input .rejected row = true) :
    let closed := replay.close H [.pending] .rejected "APPROVAL_REJECTED" row actorId
    Replayed H input (rows ++ [row]) closed.status closed.approvedAt closed.accepted := by
  have hkind := given_kind hgiven
  unfold Replay.close
  split_ifs with hopen
  · rw [mem_singleton] at hopen
    obtain ⟨status,approvedAt,closedBy,accepted,verdicts⟩ := replay
    cases hopen
    cases h with
    | pending hopen haccepts => exact .rejected rows row [] rfl hopen hgiven
  · refine h.pass ?_ ?_ ?_
    · intro hpending
      exact absurd (mem_singleton.2 hpending) hopen
    · intro _
      exact given_of_ne (by rw [hkind]; decide)
    · intro hpending
      exact absurd (mem_singleton.2 hpending) hopen

theorem Replay.revoke_replayed (actorId : String)
    (h : Replayed H input rows replay.status replay.approvedAt replay.accepted)
    (hgiven : given input .revoked row = true) :
    let closed := replay.close H [.pending, .approved] .revoked "APPROVAL_REVOKED" row actorId
    Replayed H input (rows ++ [row]) closed.status closed.approvedAt closed.accepted := by
  unfold Replay.close
  split_ifs with hopen
  · exact .revoked row (by simp) hgiven
  · have hclosed : replay.status ≠ .pending ∧ replay.status ≠ .approved := by simpa using hopen
    refine h.pass ?_ ?_ ?_
    · intro hpending
      exact absurd hpending hclosed.1
    · rintro (hpending | happroved)
      · exact absurd hpending hclosed.1
      · exact absurd happroved hclosed.2
    · intro hpending
      exact absurd hpending hclosed.1

theorem replayRow_replayed
    (h : Replayed H input rows replay.status replay.approvedAt replay.accepted)
    (hstep : replayRow H input replay row = some replay') :
    Replayed H input (rows ++ [row]) replay'.status replay'.approvedAt replay'.accepted := by
  have hpass : (∀ kind, given input kind row = true → kind ≠ .rejected ∧ kind ≠ .revoked) →
      approverOf H input row = none →
      Replayed H input (rows ++ [row]) replay.status replay.approvedAt replay.accepted := by
    intro hgiven hnone
    refine h.pass ?_ ?_ (fun _ => eligibleApprovers_of_none hnone rows)
    · intro _
      by_contra hrejected
      exact (hgiven .rejected (by simpa using hrejected)).1 rfl
    · intro _
      by_contra hrevoked
      exact (hgiven .revoked (by simpa using hrevoked)).2 rfl
  unfold replayRow at hstep
  split_ifs at hstep with hskip
  · cases hstep
    rw [Bool.or_eq_true,decide_eq_true_eq,Bool.not_eq_true'] at hskip
    apply hpass
    · intro kind hgiven
      have hkind := given_kind hgiven
      rcases hskip with hrequested | hother
      · rw [← hkind,hrequested]
        decide
      · simp [given,hother] at hgiven
    · rcases hskip with hrequested | hother
      · exact approverOf_of_ne (by rw [hrequested]; decide)
      · simp [approverOf,hother]
  · have hbelongs : belongs input row = true := by
      cases hb : belongs input row with
      | true => rfl
      | false => simp [hb] at hskip
    cases hactor : row.actorId with
    | none =>
      rw [hactor] at hstep
      cases hstep
      apply hpass
      · intro kind hgiven
        simp [given,hactor] at hgiven
      · simp [approverOf,hactor]
    | some actorId =>
      rw [hactor] at hstep
      have hgiven : given input row.kind row = true := by simp [given,hbelongs,hactor]
      cases hkind : row.kind with
      | requested => simp [hkind] at hskip
      | approved =>
        simp only [hkind] at hstep
        exact Replay.approve_replayed h hkind hbelongs hactor hstep
      | rejected =>
        simp only [hkind,some.injEq] at hstep hgiven
        subst hstep
        exact Replay.close_replayed actorId h hgiven
      | revoked =>
        simp only [hkind,some.injEq] at hstep hgiven
        subst hstep
        exact Replay.revoke_replayed actorId h hgiven
      | requestedChanges =>
        simp only [hkind,some.injEq] at hstep
        subst hstep
        apply hpass
        · intro kind hother
          rw [← given_kind hother,hkind]
          decide
        · exact approverOf_of_ne (by rw [hkind]; decide)
      | escalated =>
        simp only [hkind,some.injEq] at hstep
        subst hstep
        apply hpass
        · intro kind hother
          rw [← given_kind hother,hkind]
          decide
        · exact approverOf_of_ne (by rw [hkind]; decide)

theorem foldlM_replayed (h : rows.foldlM (replayRow H input) Replay.start = some replay) :
    Replayed H input rows replay.status replay.approvedAt replay.accepted := by
  induction rows using List.reverseRecOn generalizing replay with
  | nil =>
    cases h
    exact .pending standsOpen_nil accepts_nil
  | append_singleton rows row ih =>
    rw [foldlM_append] at h
    obtain ⟨before,hbefore,hstep⟩ := bind_eq_some_iff.1 h
    rw [foldlM_cons] at hstep
    obtain ⟨after,hafter,hdone⟩ := bind_eq_some_iff.1 hstep
    cases hdone
    exact replayRow_replayed (ih hbefore) hafter

end Frontera.Approval
