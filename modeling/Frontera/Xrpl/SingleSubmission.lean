import Frontera.Xrpl.Quarantine
import Frontera.Xrpl.SubmissionSafety

/-! Over any number of processes, crashes and lost answers: a transaction is submitted once, after
its reservation is durable; a completed answer is a delivered payment; and two submitted
transactions of one account and sequence can never both still be included. -/

namespace Frontera.Xrpl

open Frontera.Data Frontera.Text List Option

/-- The ledger can still include the transaction: it is not final, and its account's sequence
is unused. -/
def CanBeIncluded (D : Deployment) (ledger : Ledger) (signed : Signed) : Prop :=
  ¬ Final D ledger signed.hash signed.prepared.lastLedgerSequence ∧ ∀ i ∈ ledger.inclusions,
      ¬ (i.account = signed.prepared.account ∧ i.sequence = signed.prepared.sequence)

variable {D : Deployment} {ledger : Ledger} {system : System} {c : Nat} {raw : Json String}

theorem canBeIncluded_of_includes {ledger' : Ledger} {submission : Submission}
    {details : Option (Json String)} (h : ledger.includes D submission details = some ledger')
    (hdecoded : D.sdk.decodeSigned submission.signed.signedTransaction = some submission.signed.prepared)
    (hhashed : D.sdk.blobHash submission.signed.signedTransaction = submission.signed.hash) :
    CanBeIncluded D ledger submission.signed := by
  simp only [Ledger.includes,hdecoded,hhashed] at h
  split_ifs at h with hguard
  simp only [Bool.and_eq_true,Bool.not_eq_true',decide_eq_true_eq,List.any_eq_false] at hguard
  obtain ⟨⟨⟨⟨-,happlies⟩,hlast⟩,hhash⟩,hunused⟩ := hguard
  refine ⟨?_,hunused⟩
  rintro (⟨i,hi,heq⟩ | hnever | hexpired)
  · exact hhash i hi heq
  · rw [happlies] at hnever
    cases hnever
  · omega

/-- The amount a request is granted, on the ledger. -/
def grantedAmount (options : RailOptions) (request : PaymentExecutionRequest) : IssuedAmount :=
  ⟨options.configuration.asset.currency,options.configuration.asset.issuer,request.amount.value⟩

structure SafeSubmissions (D : Deployment) (system : System) : Prop where
  /-- `client.submit` is called at most once for an execution. -/
  once : (system.submissions.map fun submission => submission.executionId).Nodup
  /-- It is called only when the reservation of its transaction is durable. -/
  durable : ∀ event, ∀ submission ∈ (next D system event).submissions, ∃ row ∈ system.store.rows,
      row.toXrplSubmissionRecordInput = submission.signed.record submission.executionId
  /-- A completed payment is in a ledger, and delivered exactly the granted amount. -/
  completed : ∀ call ∈ system.calls, ∀ reference, call.phase = .answered (.completed reference) →
    ∃ submission ∈ system.submissions, submission.executionId = call.request.executionId ∧
      submission.signed.hash = reference ∧
      DeliveredIn system.ledger reference (grantedAmount (D.options call.process) call.request)
  /-- When a second transaction of a sequence is reserved, the first is closed. -/
  exclusive : ∀ event, Truthful D system event → ∀ row ∈ (next D system event).store.rows,
    (∀ old ∈ system.store.rows, old.executionId ≠ row.executionId) →
    ∀ earlier ∈ system.store.rows, earlier.account = row.account →
      earlier.sequence = row.sequence → Closed D system earlier.toXrplSubmissionRecordInput
  /-- What the ledger includes next is a transaction that could still be included. -/
  able : ∀ submission ∈ system.submissions, ∀ details,
    (system.ledger.includes D submission details).isSome → CanBeIncluded D system.ledger submission.signed
  /-- Of two sent transactions of one sequence, one cannot be included any more. -/
  apart : ∀ first ∈ system.submissions, ∀ second ∈ system.submissions, first.attempted = true →
    second.attempted = true → first.executionId ≠ second.executionId →
    first.signed.prepared.account = second.signed.prepared.account →
    first.signed.prepared.sequence = second.signed.prepared.sequence →
    ¬ (CanBeIncluded D system.ledger first.signed ∧ CanBeIncluded D system.ledger second.signed)

variable {D : Deployment} {system system' : System}

theorem SubmissionsSound.executions_nodup (h : SubmissionsSound D system) :
    (system.submissions.map fun submission => submission.executionId).Nodup := by
  apply List.Nodup.map_on _ (List.Nodup.of_map _ h.once)
  intro submission hmem other hother heq
  obtain ⟨call,hcall,hid,hreservation,-⟩ := h.submitted submission hmem
  obtain ⟨call',hcall',hid',hreservation',-⟩ := h.submitted other hother
  have hsame : submission.call = other.call :=
    h.apart _ _ call call' hcall hcall' (by simp [hreservation]) (by simp [hreservation'])
      (by rw [hid,hid',heq])
  exact inj_on_of_nodup_map h.once hmem hother hsame

theorem step_submissions {event : Event} (hstep : step D system event = some system') :
    ∀ submission ∈ system'.submissions, submission ∈ system.submissions ∨
      ∃ call, system.calls[submission.call]? = some call ∧ call.phase = .submitting submission.signed ∧
        submission.executionId = call.request.executionId := by
  intro submission hmem
  cases step_cases hstep with
  | resume c resumption hcall =>
    simp only [System.apply] at hmem
    split at hmem
    · rename_i signed attempted hsubmission hphase
      rcases mem_append.1 hmem with hold | hnew
      · exact .inl hold
      · obtain rfl := mem_singleton.1 hnew
        exact .inr ⟨_,hcall,hphase,rfl⟩
    · exact .inl hmem
  | call | readiness | crash | resolve | includes | validates => exact .inl hmem

section

variable (h : SubmissionsSound D system)
include h

theorem SubmissionsSound.durable (event : Event) :
    ∀ submission ∈ (next D system event).submissions, ∃ row ∈ system.store.rows,
      row.toXrplSubmissionRecordInput = submission.signed.record submission.executionId := by
  intro submission hmem
  cases hstep : step D system event with
  | none =>
    simp only [next,hstep,getD_none] at hmem
    exact h.recorded hmem
  | some system' =>
    simp only [next,hstep,getD_some] at hmem
    rcases step_submissions hstep submission hmem with hold | ⟨call,hcall,hphase,hid⟩
    · exact h.recorded hold
    · have hsound := h.calls _ call hcall
      simp only [PhaseSound,hphase] at hsound
      rw [hid]
      exact h.reserved _ call _ hcall hsound.2.1

theorem SubmissionsSound.completed :
    ∀ call ∈ system.calls, ∀ reference, call.phase = .answered (.completed reference) →
      ∃ submission ∈ system.submissions, submission.executionId = call.request.executionId ∧
        submission.signed.hash = reference ∧ DeliveredIn system.ledger reference
          (grantedAmount (D.options call.process) call.request) := by
  intro call hmem reference hphase
  obtain ⟨c,hcall⟩ := List.getElem?_of_mem hmem
  have hsound := h.calls c call hcall
  simp only [PhaseSound,hphase] at hsound
  obtain ⟨signed,hsent,rfl,hdelivered⟩ := hsound
  refine ⟨_,hsent.submitted,rfl,rfl,?_⟩
  have hamount : signed.prepared.amount = grantedAmount (D.options call.process) call.request :=
    buildXrplPayment_amount hsent.sound.built
  rw [← hamount]
  exact hdelivered

theorem step_rows {event : Event} (htruthful : Truthful D system event)
    (hstep : step D system event = some system') :
    ∀ row ∈ system'.store.rows, (∃ old ∈ system.store.rows, old.executionId = row.executionId) ∨
      ∃ validated, validated ≤ system.ledger.validatedIndex ∧ ∀ earlier ∈ system.store.rows,
        InterlockStore.Releases row.toXrplSubmissionRecordInput validated earlier := by
  have htransition : ∀ {store : InterlockStore} {executionId hash updatedAt : String}
      {target : XrplSubmissionState},
      system.store.transition executionId hash target updatedAt = some store →
      ∀ row ∈ store.rows, ∃ old ∈ system.store.rows, old.executionId = row.executionId := by
    intro store executionId hash updatedAt target htransition row hrow
    rw [(InterlockStore.transition_rows htransition).2] at hrow
    obtain ⟨old,hold,rfl⟩ := mem_map.1 hrow
    refine ⟨old,hold,?_⟩
    split_ifs
    · exact (congrArg XrplSubmissionRecordInput.executionId
        (InterlockStore.moveRow_input old target updatedAt)).symm
    · rfl
  intro row hrow
  cases step_cases hstep with
  | @resume c resumption call effect hcall heffect =>
    simp only [System.apply] at hrow
    cases resume_outcome (h.calls c _ hcall) (htruthful _ hcall) heffect with
    | «local» hstore =>
      rw [hstore] at hrow
      exact .inl ⟨row,hrow,rfl⟩
    | reserves signed reservedAt answered hsigned hstore hfree =>
      rw [(InterlockStore.insertReservation_rows hstore).2] at hrow
      rcases mem_append.1 hrow with hold | hnew
      · exact .inl ⟨row,hold,rfl⟩
      · obtain rfl := mem_singleton.1 hnew
        exact .inr ⟨signed.validated,hsigned.validated,hfree⟩
    | submits signed attempted hbefore hstore =>
      rw [hstore] at hrow
      exact .inl ⟨row,hrow,rfl⟩
    | settles signed attempted target written result hsent hclosed hstore =>
      rw [hstore] at hrow
      unfold settleQuietly at hrow
      split at hrow
      · exact .inl ⟨row,hrow,rfl⟩
      · rename_i updatedAt
        cases hmoved : system.store.transition call.request.executionId signed.hash target
            updatedAt with
        | none =>
          rw [hmoved] at hrow
          exact .inl ⟨row,hrow,rfl⟩
        | some store =>
          rw [hmoved] at hrow
          exact .inl (htransition hmoved row hrow)
  | resolve executionId settlement updatedAt hmoved => exact .inl (htransition hmoved row hrow)
  | call | readiness | crash | includes | validates => exact .inl ⟨row,hrow,rfl⟩

theorem SubmissionsSound.exclusive {event : Event} (htruthful : Truthful D system event) :
    ∀ row ∈ (next D system event).store.rows,
    (∀ old ∈ system.store.rows, old.executionId ≠ row.executionId) →
    ∀ earlier ∈ system.store.rows, earlier.account = row.account →
      earlier.sequence = row.sequence → Closed D system earlier.toXrplSubmissionRecordInput := by
  intro row hrow hnew earlier hearlier haccount hsequence
  cases hstep : step D system event with
  | none =>
    simp only [next,hstep,getD_none] at hrow
    exact absurd rfl (hnew row hrow)
  | some system' =>
    simp only [next,hstep,getD_some] at hrow
    rcases step_rows h htruthful hstep row hrow with ⟨old,hold,hid⟩ | ⟨validated,hle,hfree⟩
    · exact absurd hid (hnew old hold)
    · rcases hfree earlier hearlier haccount (le_of_eq hsequence.symm) with hclosed | hlast
      · exact h.closed earlier hearlier hclosed
      · exact .inl (.inr (.inr (hlast.trans hle)))

theorem SubmissionsSound.final_of_closed {submission : Submission}
    (hmem : submission ∈ system.submissions) (hattempted : submission.attempted = true)
    (hclosed : Closed D system (submission.signed.record submission.executionId)) :
    Final D system.ledger submission.signed.hash submission.signed.prepared.lastLedgerSequence := by
  rcases hclosed with hfinal | ⟨other,hother,hid,hnot⟩
  · exact hfinal
  · have hsame : other = submission :=
      inj_on_of_nodup_map h.executions_nodup hother hmem hid
    rw [hsame,hattempted] at hnot
    cases hnot

theorem SubmissionsSound.not_both {first second : Submission}
    (hfirst : first ∈ system.submissions) (hsecond : second ∈ system.submissions)
    (hattempted : first.attempted = true) (hattempted' : second.attempted = true)
    (hne : first.executionId ≠ second.executionId)
    (haccount : first.signed.prepared.account = second.signed.prepared.account)
    (hsequence : first.signed.prepared.sequence = second.signed.prepared.sequence) :
    ¬ (CanBeIncluded D system.ledger first.signed ∧ CanBeIncluded D system.ledger second.signed) := by
  obtain ⟨row,hrow,heq⟩ := h.recorded hfirst
  obtain ⟨row',hrow',heq'⟩ := h.recorded hsecond
  rintro ⟨hcan,hcan'⟩
  have hrows : row ≠ row' := by
    rintro rfl
    exact hne (congrArg XrplSubmissionRecordInput.executionId (heq.symm.trans heq'))
  -- One of the two was reserved first, and was closed when the other was.
  have hordered : Closed D system row.toXrplSubmissionRecordInput ∨
      Closed D system row'.toXrplSubmissionRecordInput := by
    obtain ⟨i,hi,rfl⟩ := getElem_of_mem hrow
    obtain ⟨j,hj,rfl⟩ := getElem_of_mem hrow'
    have hpair := pairwise_iff_getElem.1 h.ordered
    have haccounts := congrArg XrplSubmissionRecordInput.account heq
    have haccounts' := congrArg XrplSubmissionRecordInput.account heq'
    have hsequences := congrArg XrplSubmissionRecordInput.sequence heq
    have hsequences' := congrArg XrplSubmissionRecordInput.sequence heq'
    rcases lt_trichotomy i j with hlt | rfl | hlt
    · exact .inl (hpair i j hi hj hlt (haccounts.trans (haccount.trans haccounts'.symm))
        (hsequences.trans (hsequence.trans hsequences'.symm)))
    · exact absurd rfl hrows
    · exact .inr (hpair j i hj hi hlt (haccounts'.trans (haccount.symm.trans haccounts.symm))
        (hsequences'.trans (hsequence.symm.trans hsequences.symm)))
  rw [heq,heq'] at hordered
  rcases hordered with hclosed | hclosed
  · exact hcan.1 (h.final_of_closed hfirst hattempted hclosed)
  · exact hcan'.1 (h.final_of_closed hsecond hattempted' hclosed)

end

/-- In every state of a run over a truthful ledger. -/
theorem submissions_safe {D : Deployment} {index : Int} {events : List Event}
    (h : StepsMeet (next D) (Truthful D) (System.initial index) events) :
    SafeSubmissions D (run D (System.initial index) events) := by
  have hsound := run_sound h
  exact
    { once := hsound.executions_nodup
      durable := hsound.durable
      completed := hsound.completed
      exclusive := fun _ htruthful => hsound.exclusive htruthful
      able := fun submission hmem details hincludes => by
        obtain ⟨call,-,-,-,hsigned⟩ := hsound.submitted submission hmem
        obtain ⟨ledger,hledger⟩ := Option.isSome_iff_exists.1 hincludes
        exact canBeIncluded_of_includes hledger hsigned.decoded hsigned.hashed
      apart := fun _ hfirst _ hsecond hattempted hattempted' hne haccount hsequence =>
        hsound.not_both hfirst hsecond hattempted hattempted' hne haccount hsequence }

def sampleAutofill : Json String :=
  .obj [("TransactionType", .str "Payment"), ("Account", .str samplePrepared.account),
    ("Destination", .str samplePrepared.destination),
    ("Amount", .obj [("currency", .str "USD"), ("issuer", .str sampleIssuer), ("value", .str "12.5")]),
    ("Flags", .num 0), ("LastLedgerSequence", .num 1320), ("Sequence", .num 7), ("Fee", .str "12")]

/-- The metadata of the payment: the ledger writes the value in its own way. -/
def sampleDetails : Json String :=
  .obj [("TransactionResult", .str "tesSUCCESS"),
    ("delivered_amount", .obj [("currency", .str "USD"), ("issuer", .str sampleIssuer),
      ("value", .str "125e-1")])]

def sampleLookup : Json String :=
  .obj [("hash", .str sampleHash), ("validated", .bool true), ("meta", sampleDetails)]

def reservedEvents : List Event :=
  restartEvents ++ [Event.resume 0 (.autofilled (some sampleAutofill)), .resume 0 (.blocking false),
      .resume 0 (.signed (some (sampleBlob, sampleHash))), .resume 0 (.reserve sampleInstant true)]

def submittedEvents : List Event := reservedEvents ++ [.resume 0 (.submit true)]

def validatedEvents : List Event :=
  submittedEvents ++ [.resume 0 (.submitAnswer (some (.obj [("engine_result", .str "tesSUCCESS")]))),
      .includes 0 (some sampleDetails), .validates]

def completedEvents : List Event :=
  validatedEvents ++
    [.resume 0 (.pollIndex (some (.num 1301))), .resume 0 (.pollLookup (some sampleLookup)),
      .resume 0 (.settled (some sampleLaterInstant))]

def sampleSigned : Signed := ⟨samplePrepared,sampleBlob,sampleHash,1300⟩

def sampleRow : XrplSubmissionRecord where
  executionId := "execution-1"
  account := samplePrepared.account
  sequence := 7
  lastLedgerSequence := 1320
  minLedger := 1301
  transactionHash := sampleHash
  amount := samplePrepared.amount
  state := .submitting
  reservedAt := sampleInstant
  updatedAt := sampleInstant

def reservedSystem : System where
  rails := (run sampleDeployment (System.initial 1300) reservedEvents).rails
  crashed := fun _ => false
  calls := [⟨0,sampleRequest,.submitting sampleSigned,some sampleSigned⟩]
  store := ⟨[sampleRow],by simp⟩
  submissions := []
  ledger := ⟨1300,[]⟩

set_option maxRecDepth 4000 in
theorem reservedEvents_run :
    run sampleDeployment (System.initial 1300) reservedEvents = reservedSystem := by
  rfl

theorem run_reservedEvents (events : List Event) :
    run sampleDeployment (System.initial 1300) (reservedEvents ++ events) =
      run sampleDeployment reservedSystem events := by
  rw [← reservedEvents_run,run,run,run,foldl_append]

/-- The answer says nothing about the ledger. -/
def Resumption.silent : Resumption → Bool
  | .index _ | .pollIndex _ | .submitAnswer _ | .pollLookup _ => false
  | _ => true

theorem silent_truthful {resumption : Resumption} (h : resumption.silent = true) :
    Truthful D system (.resume c resumption) := by
  intro call _
  unfold ResumptionTruthful
  split
  · cases h
  · cases h
  · cases h
  · cases h
  · trivial

theorem indexed_truthful (h : IndexTruthful system.ledger raw) :
    Truthful D system (.resume c (.index (some raw))) := by
  intro call _
  unfold ResumptionTruthful
  split <;> simp_all

theorem polled_truthful (h : IndexTruthful system.ledger raw) :
    Truthful D system (.resume c (.pollIndex (some raw))) := by
  intro call _
  unfold ResumptionTruthful
  split <;> simp_all

theorem answered_truthful
    (h : ∀ hash engineResult, readSubmission raw hash ≠ .malformed engineResult) :
    Truthful D system (.resume c (.submitAnswer (some raw))) := by
  intro call _
  unfold ResumptionTruthful
  split <;> simp_all

theorem lookedUp_truthful (h : ∀ signed, LookupTruthful system.ledger signed raw) :
    Truthful D system (.resume c (.pollLookup (some raw))) := by
  intro call _
  unfold ResumptionTruthful
  split <;> simp_all

theorem index_truthful {index : Int} (hle : index ≤ ledger.validatedIndex) :
    IndexTruthful ledger (.num index) := by
  intro found hread
  unfold readLedgerIndex at hread
  simp only at hread
  split_ifs at hread
  rw [← some.inj hread]
  exact hle

theorem next_resume_ledger (D : Deployment) (system : System) (c : Nat) (resumption : Resumption) :
    (next D system (.resume c resumption)).ledger = system.ledger := by
  have hstep : ∀ system', step D system (.resume c resumption) = some system' →
      system'.ledger = system.ledger := by
    intro system' hstep
    simp only [step] at hstep
    split at hstep
    · cases hstep
    · split_ifs at hstep
      obtain ⟨effect,-,rfl⟩ := map_eq_some_iff.1 hstep
      rfl
  unfold next
  cases h : step D system (.resume c resumption) with
  | none => rfl
  | some system' => exact hstep system' h

theorem validatedEvents_ledger : (run sampleDeployment (System.initial 1300) validatedEvents).ledger =
      ⟨1301,[⟨sampleHash,samplePrepared.account,7,1301,some sampleDetails⟩]⟩ := by
  rw [validatedEvents,submittedEvents,append_assoc,run_reservedEvents]
  rfl

theorem sampleLookup_truthful
    (h : ledger = ⟨1301,[⟨sampleHash,samplePrepared.account,7,1301,some sampleDetails⟩]⟩)
    (signed : Signed) : LookupTruthful ledger signed sampleLookup := by
  subst h
  refine ⟨?_,?_⟩
  · rintro details ⟨-,hhash,-,hdetails⟩
    have hsame : sampleHash = signed.hash := Json.str.inj (some.inj hhash)
    exact ⟨_,mem_singleton.2 rfl,hsame,hdetails,le_refl _⟩
  · rintro ⟨herror,-⟩
    cases herror

theorem submittedEvents_truthful :
    StepsMeet (next sampleDeployment) (Truthful sampleDeployment) (System.initial 1300)
      submittedEvents :=
  ⟨index_truthful (by decide),trivial,silent_truthful rfl,silent_truthful rfl,
    silent_truthful rfl,indexed_truthful (index_truthful (by decide)),
    silent_truthful rfl,silent_truthful rfl,silent_truthful rfl,silent_truthful rfl,
    silent_truthful rfl,silent_truthful rfl,trivial⟩

theorem completedEvents_truthful :
    StepsMeet (next sampleDeployment) (Truthful sampleDeployment) (System.initial 1300)
      completedEvents := by
  have hledger : (validatedEvents.foldl (next sampleDeployment) (System.initial 1300)).ledger =
      _ := validatedEvents_ledger
  refine stepsMeet_append.2 ⟨stepsMeet_append.2 ⟨submittedEvents_truthful,?_⟩,?_⟩
  · refine ⟨answered_truthful ?_,trivial,trivial,trivial⟩
    intro hash engineResult hread
    cases hread
  · refine ⟨polled_truthful (index_truthful ?_),lookedUp_truthful (sampleLookup_truthful ?_),
      silent_truthful rfl,trivial⟩
    · rw [hledger]
    · rw [next_resume_ledger]
      exact hledger

/-- The execution was answered with this result. -/
def RailPhase.hasAnswered (phase : RailPhase) (result : PaymentRailResult) : Bool :=
  match phase with
  | .answered found => decide (found = result)
  | _ => false

theorem RailPhase.hasAnswered_iff {phase : RailPhase} {result : PaymentRailResult} :
    phase.hasAnswered result = true ↔ phase = .answered result := by
  cases phase <;> simp [RailPhase.hasAnswered]

/-- The payment is completed, and the ledger has delivered it. -/
theorem submissions_safe_completed : SafeSubmissions sampleDeployment
        (run sampleDeployment (System.initial 1300) completedEvents) ∧
      ∃ call ∈ (run sampleDeployment (System.initial 1300) completedEvents).calls,
        call.phase = .answered (.completed sampleHash) := by
  refine ⟨submissions_safe completedEvents_truthful,?_⟩
  have hanswered : (run sampleDeployment (System.initial 1300) completedEvents).calls.any
      (fun call => call.phase.hasAnswered (.completed sampleHash)) = true := by
    rw [completedEvents,validatedEvents,submittedEvents,append_assoc,append_assoc, run_reservedEvents]
    decide
  obtain ⟨call,hcall,hphase⟩ := List.any_eq_true.1 hanswered
  exact ⟨call,hcall,RailPhase.hasAnswered_iff.1 hphase⟩

end Frontera.Xrpl
