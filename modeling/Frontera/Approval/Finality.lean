import Frontera.Approval.Service
import Frontera.Approval.Soundness

/-! A rejection is admitted against the state that today's authority gives the log, and read back
against the authority of every later instant. Exactly the reads under which the approvals before it
are short of the quorum still see it. -/

namespace Frontera.Approval

open Frontera.Context Frontera.Data Frontera.Text List Option

variable {P : Platform} {H : Host P}

/-! ## One read -/

/-- A revocation of the subject is in the rows, or the approvals before its first rejection that
count now are no quorum. -/
def verdictStands (H : Host P) (input : EvaluateApprovalInput) : Bool :=
  input.rows.any (given input .revoked) ||
    !quorate H input (input.rows.takeWhile fun row => !given input .rejected row)

variable {input : EvaluateApprovalInput} {evaluation : ApprovalEvaluation}
  {rows : List StoredApprovalRecord} {approvers : List String} {state : ApprovalEvaluation}
  {kind : ApprovalCommandKind} {actorId : String}

theorem evaluateApproval_closed (h : evaluateApproval H input = some evaluation) :
    ∃ replay, input.rows.foldlM (replayRow H input) Replay.start = some replay ∧
      ((evaluation.status = .rejected ∨ evaluation.status = .revoked) ↔
        (replay.status = .rejected ∨ replay.status = .revoked)) := by
  unfold evaluateApproval at h
  obtain ⟨requestExpiresAt,-,h⟩ := bind_eq_some_iff.1 h
  obtain ⟨replay,hreplay,h⟩ := bind_eq_some_iff.1 h
  refine ⟨replay,hreplay,?_⟩
  dsimp only at h
  split at h
  · next hstatus =>
    cases h
    simp [hstatus]
  · next hstatus =>
    cases h
    simp [hstatus]
  · next hstatus _ =>
    obtain ⟨notAfter,-,h⟩ := bind_eq_some_iff.1 h
    split_ifs at h <;> cases h <;> simp [hstatus]
  · next hrejected hrevoked _ =>
    have hopen : ¬(replay.status = .rejected ∨ replay.status = .revoked) := by
      rintro (hstatus | hstatus)
      · exact hrejected hstatus
      · exact hrevoked hstatus
    split_ifs at h <;> cases h <;> simp [hopen]

theorem evaluateApproval_closed_iff (h : evaluateApproval H input = some evaluation)
    (hclosing : ∃ row ∈ input.rows, given input .rejected row = true ∨ given input .revoked row = true) :
    (evaluation.status = .rejected ∨ evaluation.status = .revoked) ↔ verdictStands H input = true := by
  obtain ⟨replay,hreplay,hstatus⟩ := evaluateApproval_closed h
  have hreplayed := foldlM_replayed hreplay
  rw [hstatus]
  obtain ⟨status,approvedAt,closedBy,accepted,verdicts⟩ := replay
  cases hreplayed with
  | pending hopen haccepts =>
    obtain ⟨row,hrow,hrejected | hrevoked⟩ := hclosing
    · rw [hopen.unrejected row hrow] at hrejected
      cases hrejected
    · rw [hopen.unrevoked row hrow] at hrevoked
      cases hrevoked
  | approved front last back hrows hopen hkind hquorum hback haccepts =>
    have hnone : input.rows.any (given input .revoked) = false := by
      rw [List.any_eq_false,hrows]
      intro row hrow
      rw [Bool.not_eq_true]
      rcases mem_append.1 hrow with hrow | hrow
      · exact hopen.unrevoked row hrow
      · rcases mem_cons.1 hrow with rfl | hrow
        · exact given_of_ne (by rw [hkind]; decide)
        · exact hback row hrow
    have hpassed : ∀ row ∈ front ++ [last], (!given input .rejected row) = true := by
      intro row hrow
      rcases mem_append.1 hrow with hrow | hrow
      · rw [hopen.unrejected row hrow]
        rfl
      · rw [mem_singleton.1 hrow,given_of_ne (by rw [hkind]; decide)]
        rfl
    have htaken : quorate H input (input.rows.takeWhile fun row => !given input .rejected row) = true := by
      rw [hrows,append_cons,takeWhile_append_of_pos hpassed]
      exact quorate_mono H input hquorum
    simp [verdictStands,hnone,htaken]
  | rejected front last back hrows hopen hgiven =>
    have hpassed : ∀ row ∈ front, (!given input .rejected row) = true := by
      intro row hrow
      rw [hopen.unrejected row hrow]
      rfl
    have htaken : (input.rows.takeWhile fun row => !given input .rejected row) = front := by
      rw [hrows,takeWhile_append_of_pos hpassed,takeWhile_cons_of_neg (by simp [hgiven]), append_nil]
    simp [verdictStands,htaken,hopen.short]
  | revoked row hmem hgiven =>
    have hany : input.rows.any (given input .revoked) = true :=
      any_eq_true.2 ⟨row,hmem,hgiven⟩
    simp [verdictStands,hany]

/-! ## Runs of the service -/

/-- A call of the service, with what its reads of the clock, the authority world and trusted
configuration answer. -/
inductive Step where
  | command (kind : ApprovalCommandKind) (context : ApprovalCommandContext)
      (command : ApprovalCommand) (moment after : Moment)
  | assess (subject : Option ApprovalSubject) (moment after : Moment)
  | pending (moment : Moment)
  | list (moment : Moment)
  | describe (requestId : String) (moment : Moment)

/-- What the views of a call are evaluated under. -/
def Step.evaluated : Step → Moment
  | .command _ _ _ _ after => after
  | .assess _ _ after => after
  | .pending moment => moment
  | .list moment => moment
  | .describe _ moment => moment

namespace ApprovalAuthority

variable (service : ApprovalAuthority P)

/-- The log after a call. -/
def next (rows : List StoredApprovalRecord) : Step → List StoredApprovalRecord
  | .command kind context command moment after =>
      (service.commandOnce kind context command moment after rows).1
  | .assess subject moment after => (service.assess subject moment after rows).1
  | .pending _ | .list _ | .describe _ _ => rows

/-- The views a call answers, or answers from. -/
def views (rows : List StoredApprovalRecord) : Step → List ApprovalRequestView
  | .command kind context command moment after =>
      ((service.commandOnce kind context command moment after rows).2.toOption).toList
  | .assess subject moment after => (service.assess subject moment after rows).2.2.toList
  | .pending moment => ((service.pending moment rows).toOption).getD []
  | .list moment => ((service.list moment rows).toOption).getD []
  | .describe requestId moment =>
      (((service.describe requestId moment rows).toOption).bind id).toList

/-- What an assessment answers. -/
def assessment (rows : List StoredApprovalRecord) : Step → Option ApprovalAssessment
  | .assess subject moment after => some (service.assess subject moment after rows).2.1
  | _ => none

/-- The log after a run of calls over an empty one. -/
def run (steps : List Step) : List StoredApprovalRecord := steps.foldl service.next []

/-- What an evaluation of the request of a view is asked about. -/
def readOf (rows : List StoredApprovalRecord) (moment : Moment) (view : ApprovalRequestView) :
    EvaluateApprovalInput where
  subject := view.subject
  subjectDigest := view.subjectDigest
  approvalRequestId := view.approvalRequestId
  rows := rowsForRequest rows view.requestId
  now := moment.now
  authority := moment.authority

/-- The view is the evaluation of its request over these rows at this moment. -/
structure Evaluates (rows : List StoredApprovalRecord) (moment : Moment)
    (view : ApprovalRequestView) : Prop where
  state : evaluateApproval service.host (readOf rows moment view) = some view.state
  organization : view.subject.organizationId = service.organizationId
  request : view.subject.requestId = view.requestId
  decision : view.subject.decisionId = view.decisionId

variable {service}

variable {row : StoredApprovalRecord} {subject : ApprovalSubject} {rows : List StoredApprovalRecord}
  {requested : StoredApprovalRecord} {moment : Moment} {view : ApprovalRequestView}
  {rows' : List StoredApprovalRecord} {step : Step} {kind : ApprovalCommandKind}
  {context : ApprovalCommandContext} {command : ApprovalCommand}

theorem subjectOf_ok (h : service.subjectOf row = .ok subject) :
    subject.organizationId = service.organizationId ∧ subject.requestId = row.requestId ∧
      subject.decisionId = row.decisionId := by
  unfold subjectOf at h
  split at h
  · cases h
  · split at h
    · cases h
    · split at h
      · cases h
      · split at h
        · cases h
        · next hnames =>
          cases h
          simpa only [not_or,not_not,ne_eq] using hnames

theorem viewOf_ok
    (h : service.viewOf (rowsForRequest rows requested.requestId) requested moment = .ok view) :
    service.Evaluates rows moment view ∧ view.requestId = requested.requestId ∧
      view.decisionId = requested.decisionId ∧ view.subjectDigest = requested.subjectDigest := by
  unfold viewOf at h
  obtain ⟨subject,hsubject,h⟩ := bind_eq_ok.1 h
  obtain ⟨horganization,hrequest,hdecision⟩ := subjectOf_ok hsubject
  dsimp only at h
  split at h
  · cases h
  · next state hstate =>
    cases h
    exact ⟨⟨hstate,horganization,hrequest,hdecision⟩,rfl,rfl,rfl⟩

theorem evaluates_of_mapM {requests : List StoredApprovalRecord}
    {views : List ApprovalRequestView}
    (h : (requests.mapM fun requested => service.viewOf (rowsForRequest rows requested.requestId) requested moment) = .ok views)
    (hview : view ∈ views) : service.Evaluates rows moment view := by
  induction requests generalizing views with
  | nil =>
    cases h
    cases hview
  | cons requested requests ih =>
    rw [mapM_cons] at h
    obtain ⟨first,hfirst,h⟩ := bind_eq_ok.1 h
    obtain ⟨rest,hrest,h⟩ := bind_eq_ok.1 h
    cases h
    rcases mem_cons.1 hview with rfl | hview
    · exact (viewOf_ok hfirst).1
    · exact ih hrest hview

theorem find?_requestId {requestId : String}
    (h : (rows.find? fun row => row.requestId = requestId) = some row) :
    row.requestId = requestId := by
  simpa using List.find?_some h

theorem requestsIn_subset (rows : List StoredApprovalRecord) : requestsIn rows ⊆ rows := by
  unfold requestsIn
  induction rows using List.reverseRecOn with
  | nil => simp
  | append_singleton rows row ih =>
    rw [foldl_append,foldl_cons,foldl_nil]
    dsimp only
    split_ifs with hskip
    · intro found hfound
      exact mem_append_left [row] (ih hfound)
    · intro found hfound
      rcases mem_append.1 hfound with hfound | hfound
      · exact mem_append_left [row] (ih hfound)
      · exact mem_append_right rows hfound

theorem append_ok {content : ApprovalRowContent} (h : service.append rows content = .ok row) :
    row.toApprovalRowContent = content := by
  unfold append at h
  obtain ⟨digest,-,h⟩ := bind_eq_ok.1 h
  cases h
  rfl

theorem openRequest_ok (h : service.openRequest subject moment rows = .ok (rows', some requested)) :
    requested.requestId = subject.requestId := by
  unfold openRequest at h
  split at h
  · next existing hfound =>
    split at h
    · cases h
      exact find?_requestId hfound
    · cases h
  · obtain ⟨row,hrow,h⟩ := bind_eq_ok.1 h
    cases h
    rw [append_ok hrow]
    rfl

theorem evaluates_of_mem_views (h : view ∈ service.views rows step) :
    service.Evaluates (service.next rows step) step.evaluated view := by
  cases step with
  | command kind context command moment after =>
    simp only [views,next,commandOnce,mem_toList] at h ⊢
    split at h
    · cases h
    · next requested row hadmitted =>
      cases hview : service.viewOf (rowsForRequest (rows ++ [row]) requested.requestId) requested
          after with
      | error failure =>
        rw [hview] at h
        cases h
      | ok answered =>
        rw [hview] at h
        cases h
        exact (viewOf_ok hview).1
  | assess subject moment after =>
    simp only [views,next,mem_toList] at h ⊢
    cases subject with
    | none => cases h
    | some subject =>
      simp only [assess] at h ⊢
      split at h
      · cases h
      · cases h
      · next rows' requested hopened =>
        rw [← openRequest_ok hopened] at h ⊢
        split at h
        · cases h
        · next answered hview =>
          cases h
          exact (viewOf_ok hview).1
  | pending moment =>
    simp only [views,next] at h ⊢
    cases hpending : service.pending moment rows with
    | error failure =>
      rw [hpending] at h
      cases h
    | ok answered =>
      rw [hpending] at h
      obtain ⟨evaluated,hevaluated,hsorted⟩ := bind_eq_ok.1 hpending
      cases hsorted
      have hmem := (perm_insertionSort _ _).mem_iff.1 h
      exact evaluates_of_mapM hevaluated (mem_of_mem_filter hmem)
  | list moment =>
    simp only [views,next] at h ⊢
    cases hlist : service.list moment rows with
    | error failure =>
      rw [hlist] at h
      cases h
    | ok answered =>
      rw [hlist] at h
      obtain ⟨evaluated,hevaluated,hsorted⟩ := bind_eq_ok.1 hlist
      cases hsorted
      have hmem := (perm_insertionSort _ _).mem_iff.1 h
      exact evaluates_of_mapM hevaluated hmem
  | describe requestId moment =>
    simp only [views,next,mem_toList] at h ⊢
    unfold describe at h
    split at h
    · cases h
    · split at h
      · cases h
      · next requested hlast =>
        have hrequest : requested.requestId = requestId := by
          have hmem := requestsIn_subset _ (mem_of_getLast? hlast)
          simpa [rowsForRequest] using (mem_filter.1 hmem).2
        rw [← hrequest] at h
        cases hview : service.viewOf (rowsForRequest rows requested.requestId) requested moment with
        | error failure =>
          rw [hview] at h
          cases h
        | ok answered =>
          rw [hview] at h
          cases h
          exact (viewOf_ok hview).1

/-! ## The log grows -/

theorem admitCommand_ok
    (h : service.admitCommand kind context command moment rows = .ok (requested, row)) :
    row.toApprovalRowContent = service.verdictRow kind context command requested moment := by
  unfold admitCommand at h
  obtain ⟨-,-,h⟩ := bind_eq_ok.1 h
  obtain ⟨-,-,h⟩ := bind_eq_ok.1 h
  split at h
  · cases h
  · split at h
    · cases h
    · obtain ⟨view,-,h⟩ := bind_eq_ok.1 h
      split at h
      · cases h
      · obtain ⟨-,-,h⟩ := bind_eq_ok.1 h
        obtain ⟨appended,happended,h⟩ := bind_eq_ok.1 h
        cases h
        exact append_ok happended

theorem openRequest_prefix {requested : Option StoredApprovalRecord}
    (h : service.openRequest subject moment rows = .ok (rows', requested)) : rows <+: rows' := by
  unfold openRequest at h
  split at h
  · split at h <;> cases h <;> exact prefix_rfl
  · obtain ⟨row,-,h⟩ := bind_eq_ok.1 h
    cases h
    exact prefix_append rows [row]

theorem assess_rows (h : service.openRequest subject moment rows = .ok (rows', some requested))
    (after : Moment) : (service.assess (some subject) moment after rows).1 = rows' := by
  simp only [assess,h]
  split <;> rfl

theorem prefix_next (rows : List StoredApprovalRecord) (step : Step) : rows <+: service.next rows step := by
  cases step with
  | command kind context command moment after =>
    simp only [next,commandOnce]
    split
    · exact prefix_rfl
    · exact prefix_append rows _
  | assess subject moment after =>
    simp only [next]
    cases subject with
    | none => exact prefix_rfl
    | some subject =>
      simp only [assess]
      split
      · exact prefix_rfl
      · next rows' hopened => exact openRequest_prefix hopened
      · next rows' requested hopened =>
        split <;> exact openRequest_prefix hopened
  | pending moment => exact prefix_rfl
  | list moment => exact prefix_rfl
  | describe requestId moment => exact prefix_rfl

theorem prefix_foldl (rows : List StoredApprovalRecord) (steps : List Step) :
    rows <+: steps.foldl service.next rows := by
  induction steps generalizing rows with
  | nil => exact prefix_rfl
  | cons step steps ih => exact (prefix_next rows step).trans (ih _)

theorem commandOnce_ok {after : Moment}
    (h : (service.commandOnce kind context command moment after rows).2 = .ok view) :
    ∃ row ∈ (service.commandOnce kind context command moment after rows).1,
      row.kind = kind.recordKind ∧ row.organizationId = service.organizationId ∧
      row.requestId = view.requestId ∧ row.decisionId = view.decisionId ∧
      row.subjectDigest = view.subjectDigest ∧ row.actorId.isSome = true := by
  unfold commandOnce at h ⊢
  split at h
  · cases h
  · next requested row hadmitted =>
    obtain ⟨-,hrequest,hdecision,hsubject⟩ := viewOf_ok h
    have hcontent := admitCommand_ok hadmitted
    refine ⟨row,by simp,?_⟩
    rw [hcontent,hrequest,hdecision,hsubject]
    exact ⟨rfl,rfl,rfl,rfl,rfl,rfl⟩

/-! ## Later reads -/

theorem given_of_row (h : service.Evaluates rows moment view) (kind : ApprovalRecordKind)
    (row : StoredApprovalRecord) (hkind : row.kind = kind)
    (horganization : row.organizationId = service.organizationId)
    (hrequest : row.requestId = view.requestId) (hdecision : row.decisionId = view.decisionId)
    (hsubject : row.subjectDigest = view.subjectDigest) (hactor : row.actorId.isSome = true) :
    given (readOf rows moment view) kind row = true := by
  have hbelongs : belongs (readOf rows moment view) row = true :=
    belongs_iff.2 ⟨hrequest.trans h.request.symm,hdecision.trans h.decision.symm,hsubject,
      horganization.trans h.organization.symm⟩
  simp [given,hkind,hbelongs,hactor]

theorem assessment_approved {approvalDigest notAfter : String}
    (h : service.assessment rows step = some (.approved approvalDigest notAfter)) :
    ∃ view ∈ service.views rows step, view.state.status = .approved := by
  cases step with
  | assess subject moment after =>
    simp only [assessment,views,some.injEq] at h ⊢
    cases subject with
    | none => cases h
    | some subject =>
      simp only [assess] at h ⊢
      split at h
      · cases h
      · cases h
      · split at h
        · cases h
        · next answered hview =>
          refine ⟨answered,by simp,?_⟩
          simp only [assessmentOf] at h
          split at h
          · next hstatus _ _ => exact hstatus
          · cases h
          · cases h
  | _ => cases h

/-- The request of a view was closed by a command of the run. -/
def Closed (service : ApprovalAuthority P) (front : List Step) (closing : Step)
    (view : ApprovalRequestView) : Prop :=
  ∃ kind context command moment after, closing = .command kind context command moment after ∧
    (kind = .reject ∨ kind = .revoke) ∧
    (service.commandOnce kind context command moment after (service.run front)).2 = .ok view

/-- After a rejection or a revocation, a later call reads the request as closed if and only if
the verdict stands under what that call is told. -/
theorem closed_request_reads_closed_iff {front back : List Step} {closing later : Step}
    {seen : ApprovalRequestView} (hclosed : Closed service front closing view)
    (hseen : seen ∈ service.views (service.run (front ++ closing :: back)) later)
    (hrequest : seen.requestId = view.requestId) (hdecision : seen.decisionId = view.decisionId)
    (hsubject : seen.subjectDigest = view.subjectDigest) :
    (seen.state.status = .rejected ∨ seen.state.status = .revoked) ↔ verdictStands service.host
        (readOf (service.next (service.run (front ++ closing :: back)) later) later.evaluated
          seen) = true := by
  obtain ⟨kind,context,command,moment,after,rfl,hkind,hanswer⟩ := hclosed
  obtain ⟨row,hrow,hrecord,horganization,hrowRequest,hrowDecision,hrowSubject,hactor⟩ :=
    commandOnce_ok hanswer
  have hevaluates := evaluates_of_mem_views hseen
  have hkept : row ∈ service.next (service.run (front ++
      .command kind context command moment after :: back)) later := by
    apply (prefix_next _ later).subset
    rw [run,foldl_append,foldl_cons]
    exact (prefix_foldl _ back).subset hrow
  have hread : row ∈ (readOf (service.next (service.run (front ++
      .command kind context command moment after :: back)) later) later.evaluated seen).rows := by
    refine mem_filter.2 ⟨hkept,?_⟩
    simp [hrowRequest,hrequest]
  have hgiven := fun kind hkind => given_of_row hevaluates kind row hkind
    horganization (hrowRequest.trans hrequest.symm) (hrowDecision.trans hdecision.symm)
    (hrowSubject.trans hsubject.symm) hactor
  apply evaluateApproval_closed_iff hevaluates.state
  refine ⟨row,hread,?_⟩
  rcases hkind with rfl | rfl
  · exact Or.inl (hgiven .rejected hrecord)
  · exact Or.inr (hgiven .revoked hrecord)

/-- After a rejection or a revocation has answered, every later evaluation of the request answers
`rejected` or `revoked` if and only if the verdict stands under what that evaluation is told; and
where it stands, an assessment of the request does not answer `approved`. -/
theorem closed_request_stays_closed_iff {front back : List Step} {closing later : Step}
    {view seen : ApprovalRequestView} (hclosed : Closed service front closing view)
    (hseen : seen ∈ service.views (service.run (front ++ closing :: back)) later)
    (hrequest : seen.requestId = view.requestId) (hdecision : seen.decisionId = view.decisionId)
    (hsubject : seen.subjectDigest = view.subjectDigest) :
    ((seen.state.status = .rejected ∨ seen.state.status = .revoked) ↔ verdictStands service.host
        (readOf (service.next (service.run (front ++ closing :: back)) later) later.evaluated
          seen) = true) ∧
    (verdictStands service.host
        (readOf (service.next (service.run (front ++ closing :: back)) later) later.evaluated
          seen) = true →
      ∀ approvalDigest notAfter, service.assessment (service.run (front ++ closing :: back)) later ≠
          some (.approved approvalDigest notAfter)) := by
  have hiff := closed_request_reads_closed_iff hclosed hseen hrequest hdecision hsubject
  refine ⟨hiff,?_⟩
  intro hstands approvalDigest notAfter happroved
  obtain ⟨answered,hanswered,hstatus⟩ := assessment_approved happroved
  have hsame : answered = seen := by
    cases later with
    | assess subject moment after =>
      simp only [views,mem_toList] at hseen hanswered
      rw [hseen,Option.some.injEq] at hanswered
      exact hanswered.symm
    | _ => cases happroved
  rw [hsame] at hstatus
  rcases hiff.2 hstands with hrejected | hrevoked
  · rw [hstatus] at hrejected
    cases hrejected
  · rw [hstatus] at hrevoked
    cases hrevoked

end ApprovalAuthority

/-! ## A sample run -/

def sharedPayment : ApprovalSubject :=
  { paymentSubject 2 with
    requirementDigest := "sha256:cb6eb888c5141805c9dac491caed8227511f1dd338efb76ea8cd31ed0adf05e8" }

/-- The digests of the requirement, the request and the subject of the sample, whose texts are told
apart by the tags they open with. -/
def sharedHash (text : String) : String :=
  if text.toList.take 33 = "frontera.approval-requirement.v1\n".toList then
    "cb6eb888c5141805c9dac491caed8227511f1dd338efb76ea8cd31ed0adf05e8"
  else if text.toList.take 29 = "frontera.approval-request.v1\n".toList then
    "b894c75665f64215db07fafcd60e28abfb55121e1789a6ddc804df5c0dcf8349"
  else "3d7b8e20618860f0b1e1b13ca4173c0d5d78cc765c34efa3dee854e03049136c"

def sharedPlatform : Platform := { contextPlatform with sha256 := sharedHash }

def sharedHost : Host sharedPlatform where
  toISOString := contextToISOString
  dateParse_toISOString := contextDates.dateParse_toISOString
  dateParse_range := contextDates.dateParse_range
  toISOString_ne_empty := approvalHost.toISOString_ne_empty
  parseJson := Json.parse

def sharedService : ApprovalAuthority sharedPlatform where
  host := sharedHost
  parseSubject text :=
    if text = canonicalApprovalSubject sharedPayment then some sharedPayment else none
  organizationId := "acme"
  storeId := "approval-store:1"

def sharedCommand : ApprovalCommand where
  approvalRequestId :=
    "approval-request:b894c75665f64215db07fafcd60e28abfb55121e1789a6ddc804df5c0dcf8349"
  subjectDigest := "sha256:3d7b8e20618860f0b1e1b13ca4173c0d5d78cc765c34efa3dee854e03049136c"

theorem sharedPlatform_sha256 : sharedPlatform.sha256 = sharedHash := rfl

theorem sharedHash_subject : sharedHash (canonicalApprovalSubject sharedPayment) =
      "3d7b8e20618860f0b1e1b13ca4173c0d5d78cc765c34efa3dee854e03049136c" := by
  have hopens : ∃ rest, (canonicalApprovalSubject sharedPayment).toList = '{' :: rest := by
    rw [canonicalApprovalSubject,stableStringify,Json.canonicalSerialize,Json.stringify,
      String.toList_ofList,ApprovalSubject.toJson,Json.canonical,Json.write]
    exact ⟨_,rfl⟩
  obtain ⟨rest,hopens⟩ := hopens
  have hrequirement : ∃ tag, "frontera.approval-requirement.v1\n".toList = 'f' :: tag :=
    ⟨_,toList_literal rfl⟩
  have hrequest : ∃ tag, "frontera.approval-request.v1\n".toList = 'f' :: tag :=
    ⟨_,toList_literal rfl⟩
  obtain ⟨requirementTag,hrequirement⟩ := hrequirement
  obtain ⟨requestTag,hrequest⟩ := hrequest
  simp only [sharedHash,hopens,take_succ_cons,hrequirement,hrequest,List.cons.injEq,
    Char.reduceEq,false_and,if_false]

theorem sharedHash_requirement : approvalRequirementDigest sharedPlatform sharedPayment.requirement =
      sharedPayment.requirementDigest := by
  have htag : sharedHash (approvalRequirementFormat ++ "\n" ++
      stableStringify sharedPayment.requirement.toJson) =
      "cb6eb888c5141805c9dac491caed8227511f1dd338efb76ea8cd31ed0adf05e8" := by
    have hformat : approvalRequirementFormat ++ "\n" = "frontera.approval-requirement.v1\n" :=
      append_eq_literal rfl rfl rfl rfl
    have htag := toList_literal (s := "frontera.approval-requirement.v1\n") rfl
    rw [sharedHash,hformat,String.toList_append,htag]
    exact if_pos rfl
  have hfront : "sha256:" ++ "cb6eb888c5141805c9dac491caed8227511f1dd338efb76ea8cd31ed0adf05e8" =
      sharedPayment.requirementDigest := append_eq_literal rfl rfl rfl rfl
  simp only [approvalRequirementDigest,Platform.digestOf,sharedPlatform_sha256,htag,hfront]

theorem approvalRequestIdFor_opens (P : Platform)
    (organizationId requestId decisionId subjectDigest : String) :
    ∃ rest, approvalRequestIdFor P organizationId requestId decisionId subjectDigest =
      "approval-request:" ++ P.sha256 ("frontera.approval-request.v1\n\x7b\"decisionId\":" ++ rest) := by
  refine ⟨stringify decisionId ++ (",\"organizationId\":" ++ (stringify organizationId ++
    (",\"requestId\":" ++ (stringify requestId ++ (",\"subjectDigest\":" ++
    (stringify subjectDigest ++ "\x7d")))))),?_⟩
  delta approvalRequestIdFor
  simp only [String.append_assoc]

theorem sharedHash_request : approvalRequestIdFor sharedPlatform "acme" "request-1" "decision-1"
      sharedCommand.subjectDigest = sharedCommand.approvalRequestId := by
  have htag : ∀ rest, sharedHash (
      "frontera.approval-request.v1\n\x7b\"decisionId\":" ++ rest) =
      "b894c75665f64215db07fafcd60e28abfb55121e1789a6ddc804df5c0dcf8349" := by
    intro rest
    have htext := toList_literal (s := "frontera.approval-request.v1\n\x7b\"decisionId\":") rfl
    have hrequirement := toList_literal (s := "frontera.approval-requirement.v1\n") rfl
    have hrequest := toList_literal (s := "frontera.approval-request.v1\n") rfl
    rw [sharedHash,String.toList_append,htext,hrequirement,hrequest]
    exact (if_neg (by simp)).trans (if_pos rfl)
  have hfront : "approval-request:" ++
      "b894c75665f64215db07fafcd60e28abfb55121e1789a6ddc804df5c0dcf8349" =
        sharedCommand.approvalRequestId := append_eq_literal rfl rfl rfl rfl
  obtain ⟨rest,hrest⟩ := approvalRequestIdFor_opens sharedPlatform "acme" "request-1" "decision-1"
    sharedCommand.subjectDigest
  simp only [hrest,sharedPlatform_sha256,htag,hfront]

/-- The row an append writes, on a log short of the safe integers. -/
def ApprovalAuthority.appended {P : Platform} (service : ApprovalAuthority P)
    (rows : List StoredApprovalRecord) (content : ApprovalRowContent) : StoredApprovalRecord :=
  { content with
    sequence := rows.length + 1
    digest := P.digestOf ("\x7b" ++ join "," (approvalRowFields service.storeId (rows.length + 1)
      content) ++ "\x7d") }

theorem ApprovalAuthority.append_eq (service : ApprovalAuthority P)
    (hlength : rows.length < 9007199254740991) (content : ApprovalRowContent) :
    service.append rows content = .ok (service.appended rows content) := by
  have hsafe : isSafeInteger ((rows.length : Int) + 1) = true := isSafeInteger_iff.2 (by omega)
  have hpositive : ¬((rows.length : Int) + 1 < 1) := by omega
  have hdigest : approvalRowDigest P service.storeId (rows.length + 1) content =
      some (P.digestOf ("\x7b" ++ join "," (approvalRowFields service.storeId (rows.length + 1)
        content) ++ "\x7d")) := by
    simp [approvalRowDigest,serializeApprovalRow,hsafe,hpositive]
  simp only [append,hdigest,elim_some,appended]
  rfl

def momentOf (now : String) (approvers : List String) : Moment where
  now := now
  authority := portKnowing approvers
  governance := [("payments@1#sha256:profile", some sharedPayment.requirement)]

def sharedMoment (approvers : List String) : Moment :=
  momentOf "2025-12-31T23:01:00.000Z" approvers

def sharedRequested : StoredApprovalRecord where
  organizationId := "acme"
  requestId := "request-1"
  decisionId := "decision-1"
  subjectDigest := sharedCommand.subjectDigest
  kind := .requested
  subject := some (canonicalApprovalSubject sharedPayment)
  recordedBy := ApprovalAuthority.approvalRequestedBy
  recordedAt := "2025-12-31T23:01:00.000Z"
  sequence := 1
  digest := (sharedService.appended []
    (sharedService.requestedRow sharedPayment (sharedMoment []))).digest

def sharedContext (actorId : String) : ApprovalCommandContext := ⟨true,actorId,"console"⟩

def withVerdict (rows : List StoredApprovalRecord) (kind : ApprovalCommandKind) (actorId : String)
    (approvers : List String) : List StoredApprovalRecord :=
  rows ++ [sharedService.appended rows (sharedService.verdictRow kind (sharedContext actorId)
    sharedCommand sharedRequested (sharedMoment approvers))]

theorem sharedSubject_digest :
    approvalSubjectDigest sharedPlatform (canonicalApprovalSubject sharedPayment) =
      sharedCommand.subjectDigest := by
  have hfront : "sha256:" ++ "3d7b8e20618860f0b1e1b13ca4173c0d5d78cc765c34efa3dee854e03049136c" =
      sharedCommand.subjectDigest := append_eq_literal rfl rfl rfl rfl
  simp only [approvalSubjectDigest,Platform.digestOf,sharedPlatform_sha256,sharedHash_subject, hfront]

theorem openRequest_shared : sharedService.openRequest sharedPayment (sharedMoment []) [] =
      .ok ([sharedRequested], some sharedRequested) := by
  have hrow : sharedService.appended []
      (sharedService.requestedRow sharedPayment (sharedMoment [])) = sharedRequested := by
    simp only [ApprovalAuthority.appended,ApprovalAuthority.requestedRow,sharedSubject_digest,
      sharedRequested]
    rfl
  have hnone : (requestsIn (rowsForRequest [] sharedPayment.requestId)).find?
      (fun row => row.requestId = sharedPayment.requestId) = none := rfl
  simp only [ApprovalAuthority.openRequest,hnone,
    sharedService.append_eq (by decide : ([] : List StoredApprovalRecord).length < _),hrow]
  rfl

theorem sharedService_subjectOf : sharedService.subjectOf sharedRequested = .ok sharedPayment := by
  have hdigest : sharedRequested.subjectDigest =
      approvalSubjectDigest sharedPlatform (canonicalApprovalSubject sharedPayment) :=
    sharedSubject_digest.symm
  have htext : sharedRequested.subject = some (canonicalApprovalSubject sharedPayment) := rfl
  have hparsed : sharedService.parseSubject (canonicalApprovalSubject sharedPayment) =
      some sharedPayment := by
    simp only [sharedService,if_true]
  have hnames : ¬(sharedPayment.organizationId ≠ sharedService.organizationId ∨
      sharedPayment.requestId ≠ sharedRequested.requestId ∨
      sharedPayment.decisionId ≠ sharedRequested.decisionId) := by
    rintro (h | h | h) <;> exact h rfl
  rw [ApprovalAuthority.subjectOf,htext]
  dsimp only
  rw [if_neg (not_not.2 hdigest.symm),hparsed]
  exact if_neg hnames

def sharedView (state : ApprovalEvaluation) : ApprovalRequestView where
  approvalRequestId := approvalRequestIdFor sharedPlatform "acme" "request-1" "decision-1"
    sharedCommand.subjectDigest
  requestId := "request-1"
  decisionId := "decision-1"
  subjectDigest := sharedCommand.subjectDigest
  subject := sharedPayment
  requestedAt := "2025-12-31T23:01:00.000Z"
  superseded := false
  state := state

theorem stillConfigured_shared (now : String) (approvers : List String) :
    ApprovalAuthority.stillConfigured (P := sharedPlatform) (momentOf now approvers)
      sharedPayment = true := by
  have hprofile : sharedPayment.governanceProfile = "payments@1#sha256:profile" := rfl
  have hfound : (momentOf now approvers).governance.find?
      (fun profile => profile.1 = sharedPayment.governanceProfile) =
        some ("payments@1#sha256:profile", some sharedPayment.requirement) :=
    List.find?_cons_of_pos (decide_eq_true hprofile.symm)
  rw [ApprovalAuthority.stillConfigured,hfound,bind_some,any_some,decide_eq_true_eq]
  exact sharedHash_requirement

theorem viewOf_shared {now : String}
    (h : evaluateApproval sharedHost (sharedService.inputOf rows sharedRequested sharedPayment (momentOf now approvers)) = some state) :
    sharedService.viewOf rows sharedRequested (momentOf now approvers) = .ok (sharedView state) := by
  have hhost : sharedService.host = sharedHost := rfl
  simp only [ApprovalAuthority.viewOf,sharedService_subjectOf,ok_bind,hhost,h, stillConfigured_shared]
  rfl

theorem validCommand_shared : validCommand sharedCommand = .ok () := by
  have hnamed : isText sharedCommand.approvalRequestId = true :=
    isText_literal rfl rfl (by decide)
  have hdigest : Payment.isWellFormedDigest sharedCommand.subjectDigest = true :=
    Payment.isWellFormedDigest_literal rfl rfl rfl
  rw [validCommand,hnamed,hdigest]
  rfl

theorem admitCommand_shared (hactor : isText actorId = true)
    (hlength : rows.length < 9007199254740991) (hrequests : requestsIn rows = [sharedRequested])
    (hstate : evaluateApproval sharedHost (sharedService.inputOf (rowsForRequest rows "request-1") sharedRequested sharedPayment (sharedMoment approvers)) = some state)
    (hadmitted : sharedService.admitKind kind (sharedContext actorId) sharedCommand (sharedView state) (sharedMoment approvers) = .ok ()) :
    sharedService.admitCommand kind (sharedContext actorId) sharedCommand (sharedMoment approvers)
      rows = .ok (sharedRequested, sharedService.appended rows (sharedService.verdictRow kind
        (sharedContext actorId) sharedCommand sharedRequested (sharedMoment approvers))) := by
  have hcontext : validContext (sharedContext actorId) = .ok () := by
    have hchannel : isText "console" = true := isText_literal rfl rfl (by decide)
    simp [validContext,sharedContext,hactor,hchannel]
  have hcommand : validCommand sharedCommand = .ok () := validCommand_shared
  have hnamed : ∀ organizationId, organizationId = "acme" →
      approvalRequestIdFor sharedPlatform organizationId sharedRequested.requestId
        sharedRequested.decisionId sharedRequested.subjectDigest = sharedCommand.approvalRequestId := by
    rintro organizationId rfl
    exact sharedHash_request
  have hfound : ([sharedRequested].find? fun row =>
      approvalRequestIdFor sharedPlatform sharedService.organizationId row.requestId
        row.decisionId row.subjectDigest = sharedCommand.approvalRequestId) =
      some sharedRequested := by
    simp [hnamed sharedService.organizationId rfl]
  have hview : sharedService.viewOf (rowsForRequest rows sharedRequested.requestId) sharedRequested
      (sharedMoment approvers) = .ok (sharedView state) := viewOf_shared hstate
  have hsuperseded : (sharedView state).superseded = false := rfl
  have hdigest : sharedRequested.subjectDigest = sharedCommand.subjectDigest := rfl
  simp only [ApprovalAuthority.admitCommand,hcontext,hcommand,ok_bind,hrequests,hfound,
    hdigest,ne_eq,not_true,if_false,hview,hsuperseded,hadmitted,
    sharedService.append_eq hlength,Bool.false_eq_true]
  rfl

/-- The approvals of Alice, and of Bob once Alice's authority has lapsed. -/
def lapsedRows : List StoredApprovalRecord :=
  withVerdict (withVerdict [sharedRequested] .approve "alice" ["alice", "bob", "carol"]) .approve
    "bob" ["bob", "carol"]

def rejectedRows : List StoredApprovalRecord :=
  withVerdict lapsedRows .reject "carol" ["bob", "carol"]

def verdictStep (kind : ApprovalCommandKind) (actorId : String) (approvers : List String) : Step :=
  .command kind (sharedContext actorId) sharedCommand (sharedMoment approvers)
    (sharedMoment approvers)

/-- Two approvals, the first of them by an approver whose authority has lapsed when the second is
given. -/
def lapsedApproval : List Step :=
  [.assess (some sharedPayment) (sharedMoment []) (sharedMoment []),
    verdictStep .approve "alice" ["alice", "bob", "carol"], verdictStep .approve "bob" ["bob", "carol"]]

/-- Carol's rejection, given while Alice's authority is lapsed. -/
def rejection : Step := verdictStep .reject "carol" ["bob", "carol"]

/-- How the sample request is read from a log under these approvers of authority. -/
def sharedRead (rows : List StoredApprovalRecord) (now : String) (approvers : List String) :
    Option ApprovalEvaluation :=
  evaluateApproval sharedHost (sharedService.inputOf (rowsForRequest rows "request-1")
    sharedRequested sharedPayment (momentOf now approvers))

def letsThrough (rows : List StoredApprovalRecord) (kind : ApprovalCommandKind) (actorId : String)
    (approvers : List String) : Bool :=
  (sharedRead rows "2025-12-31T23:01:00.000Z" approvers).any fun state =>
    (sharedService.admitKind kind (sharedContext actorId) sharedCommand (sharedView state)
      (sharedMoment approvers)).isOk

theorem admitCommand_of_letsThrough (hactor : isText actorId = true)
    (hlength : rows.length < 9007199254740991) (hrequests : requestsIn rows = [sharedRequested])
    (h : letsThrough rows kind actorId approvers = true) :
    sharedService.admitCommand kind (sharedContext actorId) sharedCommand (sharedMoment approvers)
      rows = .ok (sharedRequested, sharedService.appended rows (sharedService.verdictRow kind
        (sharedContext actorId) sharedCommand sharedRequested (sharedMoment approvers))) := by
  obtain ⟨state,hstate,hadmitted⟩ := (any_eq_true _ _).1 h
  cases hkind : sharedService.admitKind kind (sharedContext actorId) sharedCommand
      (sharedView state) (sharedMoment approvers) with
  | error failure =>
    rw [hkind] at hadmitted
    cases hadmitted
  | ok => exact admitCommand_shared hactor hlength hrequests hstate hkind

namespace ApprovalAuthority

variable {P : Platform} {service : ApprovalAuthority P}

variable {subject : ApprovalSubject} {moment : Moment} {rows rows' : List StoredApprovalRecord}
  {requested : StoredApprovalRecord} {kind : ApprovalCommandKind} {context : ApprovalCommandContext}
  {command : ApprovalCommand} {row : StoredApprovalRecord} {after : Moment}
  {view : ApprovalRequestView}

theorem next_assess (h : service.openRequest subject moment rows = .ok (rows', some requested))
    (after : Moment) : service.next rows (.assess (some subject) moment after) = rows' :=
  assess_rows h after

section

variable (h : service.admitCommand kind context command moment rows = .ok (requested, row))
include h

theorem next_command (after : Moment) :
    service.next rows (.command kind context command moment after) = rows ++ [row] := by
  simp only [next,commandOnce,h]

theorem commandOnce_answers
    (hview : service.viewOf (rowsForRequest (rows ++ [row]) requested.requestId) requested after = .ok view) :
    (service.commandOnce kind context command moment after rows).2 = .ok view := by
  simp only [commandOnce,h,hview]

end

theorem mem_views_describe {requestId : String} (htext : isText requestId = true)
    (hlast : (requestsIn (rowsForRequest rows requestId)).getLast? = some requested)
    (hview : service.viewOf (rowsForRequest rows requestId) requested moment = .ok view) :
    view ∈ service.views rows (.describe requestId moment) := by
  simp only [views,describe,htext,hlast,hview,ok_bind,Bool.not_true,Bool.false_eq_true, if_false]
  exact mem_singleton_self _

theorem assess_answers (h : service.openRequest subject moment rows = .ok (rows', some requested))
    (hview : service.viewOf (rowsForRequest rows' subject.requestId) requested after = .ok view) :
    view ∈ service.views rows (.assess (some subject) moment after) ∧
      service.assessment rows (.assess (some subject) moment after) = some (assessmentOf view.state) := by
  simp only [views,assessment,assess,h,hview]
  exact ⟨mem_singleton_self _,trivial⟩

theorem assessmentOf_approved {state : ApprovalEvaluation} {approvalDigest notAfter : String}
    (hstatus : state.status = .approved) (hdigest : state.approvalDigest = some approvalDigest)
    (hnotAfter : state.notAfter = some notAfter) :
    assessmentOf state = .approved approvalDigest notAfter := by
  simp only [assessmentOf,hstatus,hdigest,hnotAfter]

end ApprovalAuthority

theorem next_opening : sharedService.next []
    (.assess (some sharedPayment) (sharedMoment []) (sharedMoment [])) = [sharedRequested] :=
  ApprovalAuthority.next_assess openRequest_shared _

theorem next_verdictStep (kind : ApprovalCommandKind) (hactor : isText actorId = true)
    (hlength : rows.length < 9007199254740991) (hrequests : requestsIn rows = [sharedRequested])
    (h : letsThrough rows kind actorId approvers = true) :
    sharedService.next rows (verdictStep kind actorId approvers) =
      withVerdict rows kind actorId approvers :=
  ApprovalAuthority.next_command (admitCommand_of_letsThrough hactor hlength hrequests h) _

theorem letsThrough_alice :
    letsThrough [sharedRequested] .approve "alice" ["alice", "bob", "carol"] = true := by
  decide

theorem letsThrough_bob :
    letsThrough (withVerdict [sharedRequested] .approve "alice" ["alice", "bob", "carol"]) .approve
      "bob" ["bob", "carol"] = true := by
  decide

theorem next_alice : sharedService.next [sharedRequested]
    (verdictStep .approve "alice" ["alice", "bob", "carol"]) =
      withVerdict [sharedRequested] .approve "alice" ["alice", "bob", "carol"] :=
  next_verdictStep .approve (isText_literal rfl rfl (by decide)) (by decide) rfl letsThrough_alice

theorem next_bob : sharedService.next
    (withVerdict [sharedRequested] .approve "alice" ["alice", "bob", "carol"])
    (verdictStep .approve "bob" ["bob", "carol"]) = lapsedRows :=
  next_verdictStep .approve (isText_literal rfl rfl (by decide)) (by simp [withVerdict]) rfl letsThrough_bob

theorem run_lapsedApproval : sharedService.run lapsedApproval = lapsedRows := by
  rw [ApprovalAuthority.run,lapsedApproval,foldl_cons,next_opening,foldl_cons,
    next_alice,foldl_cons,next_bob,foldl_nil]

theorem lapsedRows_length : lapsedRows.length < 9007199254740991 := by
  simp [lapsedRows,withVerdict]

theorem letsThrough_rejection : letsThrough lapsedRows .reject "carol" ["bob", "carol"] = true := by
  decide

theorem run_rejection : sharedService.run (lapsedApproval ++ [rejection]) = rejectedRows := by
  have hnext := next_verdictStep .reject (isText_literal rfl rfl (by decide)) lapsedRows_length rfl
    letsThrough_rejection
  rw [ApprovalAuthority.run,foldl_append,← ApprovalAuthority.run,run_lapsedApproval, foldl_cons,foldl_nil]
  exact hnext

theorem rejection_closes : ∃ state, ApprovalAuthority.Closed sharedService lapsedApproval rejection
    (sharedView state) := by
  have hread : (sharedRead rejectedRows "2025-12-31T23:01:00.000Z" ["bob", "carol"]).isSome = true := by
    decide
  obtain ⟨state,hstate⟩ := isSome_iff_exists.1 hread
  refine ⟨state,.reject,sharedContext "carol",sharedCommand,sharedMoment ["bob", "carol"],
    sharedMoment ["bob", "carol"],rfl,Or.inl rfl,?_⟩
  rw [run_lapsedApproval]
  exact ApprovalAuthority.commandOnce_answers (admitCommand_of_letsThrough (isText_literal rfl rfl (by decide))
    lapsedRows_length rfl letsThrough_rejection) (viewOf_shared hstate)

/-- While Alice's authority stays lapsed, the rejection is read. -/
theorem rejected_payment_stays_rejected :
    ∃ view seen, ApprovalAuthority.Closed sharedService lapsedApproval rejection view ∧
      seen ∈ sharedService.views (sharedService.run (lapsedApproval ++ rejection :: []))
        (.describe "request-1" (momentOf sampleInstant ["bob", "carol"])) ∧
      (seen.state.status = .rejected ∨ seen.state.status = .revoked) ∧
      verdictStands sharedService.host (ApprovalAuthority.readOf
        (sharedService.next (sharedService.run (lapsedApproval ++ rejection :: []))
          (.describe "request-1" (momentOf sampleInstant ["bob", "carol"])))
        (momentOf sampleInstant ["bob", "carol"]) seen) = true := by
  have hread : (sharedRead rejectedRows sampleInstant ["bob", "carol"]).map (·.status) =
      some .rejected := by decide
  obtain ⟨state,hstate,hstatus⟩ := Option.map_eq_some_iff.1 hread
  obtain ⟨first,hclosed⟩ := rejection_closes
  have hseen : sharedView state ∈ sharedService.views
      (sharedService.run (lapsedApproval ++ rejection :: []))
      (.describe "request-1" (momentOf sampleInstant ["bob", "carol"])) := by
    rw [run_rejection]
    exact ApprovalAuthority.mem_views_describe (isText_literal rfl rfl (by decide)) rfl (viewOf_shared hstate)
  have hiff := ApprovalAuthority.closed_request_stays_closed_iff hclosed hseen rfl rfl rfl
  exact ⟨sharedView first,sharedView state,hclosed,hseen,Or.inl hstatus, hiff.1.1 (Or.inl hstatus)⟩

theorem openRequest_rejected (now : String) (approvers : List String) :
    sharedService.openRequest sharedPayment (momentOf now approvers) rejectedRows =
      .ok (rejectedRows, some sharedRequested) := by
  have hfound : (requestsIn (rowsForRequest rejectedRows sharedPayment.requestId)).find?
      (fun row => row.requestId = sharedPayment.requestId) = some sharedRequested := rfl
  have hsame : sharedRequested.decisionId = sharedPayment.decisionId ∧ sharedRequested.subjectDigest =
        approvalSubjectDigest sharedPlatform (canonicalApprovalSubject sharedPayment) :=
    ⟨rfl,sharedSubject_digest.symm⟩
  simp only [ApprovalAuthority.openRequest,hfound]
  exact if_pos hsame

/-- Once it is restored, the two approvals before the rejection are read as a quorum, and the
withheld decision is released. -/
theorem rejected_payment_approved_once_restored : ∃ view seen approvalDigest notAfter,
      ApprovalAuthority.Closed sharedService lapsedApproval rejection view ∧
      seen ∈ sharedService.views (sharedService.run (lapsedApproval ++ [rejection]))
        (.assess (some sharedPayment) (momentOf sampleInstant ["alice", "bob", "carol"])
          (momentOf sampleInstant ["alice", "bob", "carol"])) ∧
      seen.approvalRequestId = view.approvalRequestId ∧ seen.requestId = view.requestId ∧
      seen.decisionId = view.decisionId ∧ seen.subjectDigest = view.subjectDigest ∧
      seen.state.status = .approved ∧
      sharedService.assessment (sharedService.run (lapsedApproval ++ [rejection]))
        (.assess (some sharedPayment) (momentOf sampleInstant ["alice", "bob", "carol"])
          (momentOf sampleInstant ["alice", "bob", "carol"])) =
        some (.approved approvalDigest notAfter) := by
  have hread : (sharedRead rejectedRows sampleInstant ["alice", "bob", "carol"]).map
      (fun state => (state.status, state.approvalDigest.isSome, state.notAfter.isSome)) =
      some (.approved, true, true) := by decide
  obtain ⟨state,hstate,hparts⟩ := Option.map_eq_some_iff.1 hread
  simp only [Prod.mk.injEq,isSome_iff_exists] at hparts
  obtain ⟨hstatus,⟨approvalDigest,hdigest⟩,notAfter,hnotAfter⟩ := hparts
  obtain ⟨first,hclosed⟩ := rejection_closes
  have hanswers := ApprovalAuthority.assess_answers
    (openRequest_rejected sampleInstant ["alice", "bob", "carol"])
    (viewOf_shared hstate)
  rw [show ApprovalAuthority.assessmentOf (sharedView state).state = .approved approvalDigest
    notAfter from ApprovalAuthority.assessmentOf_approved hstatus hdigest hnotAfter] at hanswers
  refine ⟨sharedView first,sharedView state,approvalDigest,notAfter,hclosed,?_,rfl,rfl,rfl, rfl,hstatus,?_⟩
  · rw [run_rejection]
    exact hanswers.1
  · rw [run_rejection]
    exact hanswers.2

end Frontera.Approval
