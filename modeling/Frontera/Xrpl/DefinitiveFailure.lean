import Frontera.Xrpl.SingleSubmission

/-! When an execution is answered as not completed, what was sent for it has not succeeded and never
can, provided an execution is repeated only once its first call has reserved, the repeated call's
first read of the interlock answers, and no transaction is sent that another execution has sent
already. A repeated call that cannot read the interlock answers a failure for a payment that may
succeed. -/

namespace Frontera.Xrpl

open Frontera.Data Frontera.Text List Option InterlockStore

/-- The transaction succeeded. -/
def Succeeded (i : Inclusion) : Prop :=
  fieldOf i.details "TransactionResult" = some (.str "tesSUCCESS")

/-- The transaction has not succeeded and never can. -/
def Fails (D : Deployment) (ledger : Ledger) (signed : Signed) : Prop :=
  (∀ i ∈ ledger.inclusions, i.hash = signed.hash → ¬ Succeeded i) ∧
    Final D ledger signed.hash signed.prepared.lastLedgerSequence

/-- Whoever is told that an execution was not completed is told the truth of everything sent
for it. -/
def FailuresDefinitive (D : Deployment) (system : System) : Prop :=
  ∀ call ∈ system.calls, ∀ reason reference detail,
    call.phase = .answered (.notCompleted reason reference detail) →
    ∀ submission ∈ system.submissions, submission.executionId = call.request.executionId →
      submission.attempted = true →
      (∀ i ∈ system.ledger.inclusions, i.hash = submission.signed.hash → ¬ Succeeded i) ∧
        ¬ CanBeIncluded D system.ledger submission.signed

/-- An earlier call is of the same execution. -/
def Repeats (system : System) (c : Nat) (call : RailCall) : Prop :=
  ∃ c' call', c' < c ∧ system.calls[c']? = some call' ∧ call'.request.executionId = call.request.executionId

/-- An execution is repeated only once it has a record, and is then read; a transaction is sent
only if none with its hash has been. -/
def Repeatable (D : Deployment) (system : System) : Event → Prop
  | .call process request =>
      (∀ call ∈ system.calls, call.request.executionId ≠ request.executionId) ∨
        (∃ row ∈ system.store.rows, row.executionId = request.executionId) ∧
          (buildXrplPayment D.sdk (D.options process).configuration request).isOk
  | .resume c (.recorded fails) => ∀ call, system.calls[c]? = some call → Repeats system c call →
      fails = false ∧ isExecutionId call.request.executionId = true
  | .resume c (.submit true) => ∀ call signed, system.calls[c]? = some call →
      call.phase = .submitting signed → ∀ submission ∈ system.submissions, submission.attempted = true →
        submission.signed.hash ≠ signed.hash
  | _ => True

/-- The phases of a repeated call. -/
def RailPhase.waits : RailPhase → Bool
  | .queued _ | .recalling _ | .answered (.unconfirmed _ _) => true
  | _ => false

/-- The submission has been made. -/
def RailPhase.sent : RailPhase → Bool
  | .submitted _ | .closing _ | .polling _ | .looking _ _ | .settling _ _ | .answered _ => true
  | _ => false

/-- What is kept besides the facts of submissions. -/
structure FailuresSound (D : Deployment) (system : System) : Prop where
  sound : SubmissionsSound D system
  /-- Sent transactions have hashes of their own. -/
  hashes : ∀ submission ∈ system.submissions, ∀ other ∈ system.submissions,
    submission.attempted = true → other.attempted = true →
    submission.signed.hash = other.signed.hash → submission = other
  /-- What is included was sent, and is included inside its window. -/
  origin : ∀ i ∈ system.ledger.inclusions, D.neverApplies i.hash = false ∧
    ∃ submission ∈ system.submissions, submission.attempted = true ∧
      submission.signed.hash = i.hash ∧ submission.signed.minLedger ≤ i.index ∧
      i.index ≤ submission.signed.prepared.lastLedgerSequence
  included : (system.ledger.inclusions.map fun i => i.hash).Nodup
  sent : ∀ (c : Nat) (call : RailCall), system.calls[c]? = some call →
    ∀ submission ∈ system.submissions, submission.call = c → call.phase.sent = true
  /-- A failed outcome rests on a fact. -/
  failed : ∀ (c : Nat) (call : RailCall), system.calls[c]? = some call → ∀ signed reason reference detail,
      call.phase = .settling signed (.notCompleted reason reference detail) → Fails D system.ledger signed
  answered : ∀ (c : Nat) (call : RailCall), system.calls[c]? = some call →
    ∀ reason reference detail, call.phase = .answered (.notCompleted reason reference detail) →
    ∀ submission ∈ system.submissions, submission.call = c → submission.attempted = true →
      Fails D system.ledger submission.signed
  /-- A call with an earlier one reserves nothing: there is a record. -/
  repeated : ∀ (c : Nat) (call : RailCall), system.calls[c]? = some call → Repeats system c call →
    (∃ row ∈ system.store.rows, row.executionId = call.request.executionId) ∧
      call.reservation = none ∧ call.phase.waits = true

variable {D : Deployment} {system system' : System}

theorem FailuresSound.own (h : FailuresSound D system) {c : Nat} {call : RailCall}
    (hcall : system.calls[c]? = some call) (hfirst : ¬ Repeats system c call)
    {submission : Submission} (hmem : submission ∈ system.submissions)
    (hid : submission.executionId = call.request.executionId) : submission.call = c := by
  obtain ⟨other,hother,hotherId,hreservation,-⟩ := h.sound.submitted submission hmem
  rcases lt_trichotomy submission.call c with hlt | heq | hlt
  · exact absurd ⟨submission.call,other,hlt,hother,hotherId.trans hid⟩ hfirst
  · exact heq
  · have hrepeated := h.repeated _ other hother
      ⟨c,call,hlt,hcall,(hotherId.trans hid).symm⟩
    rw [hrepeated.2.1] at hreservation
    cases hreservation

theorem FailuresSound.definitive (h : FailuresSound D system) : FailuresDefinitive D system := by
  intro call hmem reason reference detail hphase submission hsubmission hid hattempted
  obtain ⟨c,hcall⟩ := List.getElem?_of_mem hmem
  have hfirst : ¬ Repeats system c call := by
    intro hrepeats
    have hwaits := (h.repeated c call hcall hrepeats).2.2
    rw [hphase] at hwaits
    cases hwaits
  have hfails := h.answered c call hcall reason reference detail hphase submission hsubmission
    (h.own hcall hfirst hsubmission hid) hattempted
  exact ⟨hfails.1,fun hcan => hcan.1 hfails.2⟩

/-! ## Where a resumed execution goes -/

variable {options : RailOptions} {rail : RailState} {store : InterlockStore}
  {executionId : String} {reservation : Option Signed} {phase : RailPhase}
  {resumption : Resumption} {effect : Effect}

theorem concludes_phase (rail : RailState) (signed : Signed) (outcome : PaymentRailResult) :
    (concludes rail signed outcome).2 = .settling signed outcome := by
  unfold concludes
  split <;> rfl

/-- A failed outcome of a submission is a malformed answer, a validated failure or an expired
window. -/
inductive Failing (signed : Signed) : RailPhase → Resumption → Prop
  | malformed (raw : Json String) (engineResult : String)
      (h : readSubmission raw signed.hash = .malformed engineResult) :
      Failing signed (.submitted signed) (.submitAnswer (some raw))
  | validated (index : Option Int) (raw : Json String) (engineResult : String)
      (h : readLookup raw signed.expected = .validatedFailure engineResult) :
      Failing signed (.looking signed index) (.pollLookup (some raw))
  | expired (index : Int) (raw : Json String)
      (h : readLookup raw signed.expected = .notFoundComplete)
      (hlast : signed.prepared.lastLedgerSequence ≤ index) :
      Failing signed (.looking signed (some index)) (.pollLookup (some raw))

variable {signed signed' : Signed} {raw : Option (Json String)} {reason : ExecutionFailureReason}
  {reference : Option String} {detail : ResultDetail} {store' : InterlockStore}

theorem afterSubmit_failing
    (h : (afterSubmit rail signed' raw).2 = .settling signed (.notCompleted reason reference detail)) :
    Failing signed (.submitted signed') (.submitAnswer raw) := by
  unfold afterSubmit at h
  split at h
  · rw [concludes_phase] at h
    cases h
  · split at h
    · rw [concludes_phase] at h
      cases h
    · rename_i engineResult hread
      rw [concludes_phase] at h
      obtain ⟨rfl,-⟩ := RailPhase.settling.inj h
      exact .malformed _ engineResult hread
    · cases h

theorem afterLookup_failing {index : Option Int}
    (h : (afterLookup rail signed' index raw).2 = .settling signed (.notCompleted reason reference detail)) :
    Failing signed (.looking signed' index) (.pollLookup raw) := by
  unfold afterLookup at h
  split at h
  · cases h
  · split at h
    · rw [concludes_phase] at h
      cases h
    · rename_i engineResult hread
      rw [concludes_phase] at h
      obtain ⟨rfl,-⟩ := RailPhase.settling.inj h
      exact .validated index _ engineResult hread
    · rw [concludes_phase] at h
      cases h
    · rw [concludes_phase] at h
      cases h
    · rename_i hread
      split_ifs at h with hlast
      rw [concludes_phase] at h
      obtain ⟨rfl,-⟩ := RailPhase.settling.inj h
      cases index with
      | none => simp at hlast
      | some validated => exact .expired validated _ hread (by simpa using hlast)
    · cases h
    · cases h

/-- What a resumed execution can become. -/
structure Moved (phase : RailPhase) (resumption : Resumption) (effect : Effect) : Prop where
  sent : phase.sent = true → effect.phase.sent = true
  settling : ∀ signed reason reference detail,
    effect.phase = .settling signed (.notCompleted reason reference detail) →
      Failing signed phase resumption
  answered : ∀ reason reference detail, effect.phase = .answered (.notCompleted reason reference detail) →
      phase.sent = false ∨ (∃ signed, phase = .closing signed) ∨
        ∃ signed, phase = .settling signed (.notCompleted reason reference detail)

theorem moved_answered {result : PaymentRailResult} (hphase : phase.sent = false) :
    Moved phase resumption ⟨rail,.answered result,store',reservation,none⟩ :=
  ⟨fun _ => rfl,fun _ _ _ _ h => (by cases h),fun _ _ _ _ => .inl hphase⟩

theorem moved_early {phase' : RailPhase} {submission : Option Bool} (hphase : phase.sent = false)
    (hsettling : ∀ signed outcome, phase' ≠ .settling signed outcome) :
    Moved phase resumption ⟨rail,phase',store',reservation,submission⟩ :=
  ⟨fun h => absurd h (by simp [hphase]),fun _ _ _ _ h => absurd h (hsettling _ _),
    fun _ _ _ _ => .inl hphase⟩

theorem moved_unconfirmed {hash : String} {detail : XrplRailDetail} : Moved phase resumption
      (.local store reservation (concludes rail signed (.unconfirmed hash detail))) :=
  ⟨fun _ => rfl,fun _ _ _ _ h => (by cases h),fun _ _ _ h => (by cases h)⟩

theorem afterSubmit_sent (signed : Signed) (raw : Option (Json String)) :
    (afterSubmit rail signed raw).2.sent = true ∧
      ∀ result, (afterSubmit rail signed raw).2 ≠ .answered result := by
  unfold afterSubmit
  split
  · simp [concludes_phase,RailPhase.sent]
  · split
    · simp [concludes_phase,RailPhase.sent]
    · simp [concludes_phase,RailPhase.sent]
    · simp [RailPhase.sent]

theorem afterLookup_sent (signed : Signed) (index : Option Int) (raw : Option (Json String)) :
    (afterLookup rail signed index raw).2.sent = true ∧
      ∀ result, (afterLookup rail signed index raw).2 ≠ .answered result := by
  unfold afterLookup
  split
  · simp [RailPhase.sent]
  · split
    · simp [concludes_phase,RailPhase.sent]
    · simp [concludes_phase,RailPhase.sent]
    · simp [concludes_phase,RailPhase.sent]
    · simp [concludes_phase,RailPhase.sent]
    · split_ifs
      · simp [concludes_phase,RailPhase.sent]
      · simp [RailPhase.sent]
    · simp [RailPhase.sent]
    · simp [RailPhase.sent]

theorem afterIndex_early (transaction : XrplPaymentTransaction) (raw : Option (Json String)) :
    ∀ signed outcome, (afterIndex rail transaction raw).2 ≠ .settling signed outcome := by
  intro signed outcome
  unfold afterIndex
  split
  · simp [refuse]
  · split
    · simp [refuse]
    · simp only
      split <;> simp [refuse]

theorem afterAutofill_early (transaction : XrplPaymentTransaction) (validated : Int)
    (raw : Option (Json String)) : ∀ signed outcome,
      (afterAutofill options rail transaction validated raw).2 ≠ .settling signed outcome := by
  intro signed outcome
  fun_cases afterAutofill options rail transaction validated raw <;> simp [refuse]

section

variable (h : resume D options rail store executionId reservation phase resumption = some effect)
include h

theorem resume_moved : Moved phase resumption effect := by
  unfold resume at h
  split at h
  · obtain rfl := some.inj h
    exact moved_early rfl (by simp)
  · obtain rfl := some.inj h
    refine moved_early rfl ?_
    unfold afterRecorded
    split <;> simp [refuse,previouslySubmitted]
  · obtain rfl := some.inj h
    refine moved_early rfl ?_
    simp only [afterConnect]
    split
    · simp [refuse]
    · split <;> simp [refuse]
  · obtain rfl := some.inj h
    exact moved_early rfl (afterIndex_early _ _)
  · obtain rfl := some.inj h
    refine moved_early rfl ?_
    simp only [afterHeader]
    split <;> simp [refuse]
  · obtain rfl := some.inj h
    exact moved_early rfl (afterAutofill_early _ _ _)
  · obtain rfl := some.inj h
    refine moved_early rfl ?_
    unfold afterBlocking
    split <;> simp [refuse]
  · obtain rfl := some.inj h
    refine moved_early rfl ?_
    simp only [afterSign]
    split
    · simp [refuse]
    · split_ifs <;> simp [refuse]
  · split_ifs at h
    · obtain rfl := some.inj h
      exact moved_answered rfl
    · split at h
      · obtain rfl := some.inj h
        refine moved_early rfl ?_
        unfold afterReservation
        split_ifs <;> simp [refuse]
      · split at h <;> (obtain rfl := some.inj h; exact moved_answered rfl)
  · split_ifs at h
    · obtain rfl := some.inj h
      exact moved_answered rfl
    · obtain rfl := some.inj h
      refine moved_early rfl ?_
      unfold afterDecision
      split <;> simp [refuse,previouslySubmitted]
  · split at h
    · obtain rfl := some.inj h
      refine moved_early rfl ?_
      unfold afterReservation
      split_ifs <;> simp [refuse]
    · obtain rfl := some.inj h
      exact moved_answered rfl
  · obtain rfl := some.inj h
    exact moved_answered rfl
  · obtain rfl := some.inj h
    exact moved_answered rfl
  · rename_i signed attempted
    obtain rfl := some.inj h
    refine moved_early rfl ?_
    cases attempted <;> simp
  · obtain rfl := some.inj h
    exact ⟨fun _ => (afterSubmit_sent _ _).1,fun _ _ _ _ hphase => afterSubmit_failing hphase,
      fun _ _ _ hphase => absurd hphase ((afterSubmit_sent _ _).2 _)⟩
  · rename_i signed written
    obtain rfl := some.inj h
    exact ⟨fun _ => rfl,fun _ _ _ _ hphase => (by cases hphase), fun _ _ _ _ => .inr (.inl ⟨signed,rfl⟩)⟩
  · obtain rfl := some.inj h
    exact ⟨fun _ => rfl,fun _ _ _ _ hphase => (by cases hphase), fun _ _ _ hphase => (by cases hphase)⟩
  · obtain rfl := some.inj h
    exact ⟨fun _ => rfl,fun _ _ _ _ hphase => (by cases hphase), fun _ _ _ hphase => (by cases hphase)⟩
  · obtain rfl := some.inj h
    exact ⟨fun _ => (afterLookup_sent _ _ _).1,fun _ _ _ _ hphase => afterLookup_failing hphase,
      fun _ _ _ hphase => absurd hphase ((afterLookup_sent _ _ _).2 _)⟩
  · obtain rfl := some.inj h
    exact moved_unconfirmed
  · obtain rfl := some.inj h
    exact moved_unconfirmed
  · obtain rfl := some.inj h
    exact moved_unconfirmed
  · obtain rfl := some.inj h
    exact moved_unconfirmed
  · rename_i signed outcome written
    obtain rfl := some.inj h
    refine ⟨fun _ => rfl,fun _ _ _ _ hphase => (by cases hphase),?_⟩
    intro reason reference detail hphase
    obtain rfl := RailPhase.answered.inj hphase
    exact .inr (.inr ⟨signed,rfl⟩)
  · cases h

theorem resume_submission {attempted : Bool} (hsubmission : effect.submission = some attempted) :
    resumption = .submit attempted := by
  unfold resume at h
  split at h
  case h_14 =>
    obtain rfl := some.inj h
    rw [some.inj hsubmission]
  case h_9 =>
    split_ifs at h
    · obtain rfl := some.inj h
      cases hsubmission
    · split at h
      · obtain rfl := some.inj h
        cases hsubmission
      · split at h <;> (obtain rfl := some.inj h; cases hsubmission)
  case h_10 =>
    split_ifs at h <;> (obtain rfl := some.inj h; cases hsubmission)
  case h_11 =>
    split at h <;> (obtain rfl := some.inj h; cases hsubmission)
  all_goals first
    | (obtain rfl := some.inj h; cases hsubmission)
    | cases h

end

theorem resume_waits (hwaits : phase.waits = true)
    (hread : ∀ fails, resumption = .recorded fails → fails = false ∧ isExecutionId executionId = true)
    (hrow : ∃ row ∈ store.rows, row.executionId = executionId)
    (h : resume D options rail store executionId reservation phase resumption = some effect) :
    effect.phase.waits = true ∧ effect.reservation = reservation ∧ effect.store = store ∧
      effect.submission = none := by
  unfold resume at h
  split at h
  · obtain rfl := some.inj h
    exact ⟨rfl,rfl,rfl,rfl⟩
  · rename_i transaction fails
    obtain ⟨rfl,hid⟩ := hread fails rfl
    obtain rfl := some.inj h
    have hrecorded : ∃ hash, store.recorded executionId = some hash := by
      obtain ⟨row,hmem,rfl⟩ := hrow
      exact ⟨row.transactionHash,by simp [recorded,find_of_mem hmem]⟩
    obtain ⟨hash,hhash⟩ := hrecorded
    refine ⟨?_,rfl,rfl,rfl⟩
    simp only [Effect.local,hid,hhash,readUnless]
    rfl
  all_goals first
    | cases hwaits
    | cases h

/-! ## What a step keeps -/

section

variable (h : FailuresSound D system) (hsound : SubmissionsSound D system')
  (hcalls : system'.calls = system.calls) (hsubmissions : system'.submissions = system.submissions)
  (hrows : ∀ row ∈ system.store.rows, ∃ row' ∈ system'.store.rows, row'.executionId = row.executionId)
include h hsound hcalls hsubmissions hrows

theorem FailuresSound.frame
    (hfails : ∀ submission ∈ system.submissions, submission.attempted = true → Fails D system.ledger submission.signed → Fails D system'.ledger submission.signed)
    (horigin : ∀ i ∈ system'.ledger.inclusions, D.neverApplies i.hash = false ∧ ∃ submission ∈ system.submissions, submission.attempted = true ∧ submission.signed.hash = i.hash ∧ submission.signed.minLedger ≤ i.index ∧ i.index ≤ submission.signed.prepared.lastLedgerSequence)
    (hincluded : (system'.ledger.inclusions.map fun i => i.hash).Nodup) :
    FailuresSound D system' := by
  refine ⟨hsound,?_,?_,hincluded,?_,?_,?_,?_⟩
  · rw [hsubmissions]
    exact h.hashes
  · rw [hsubmissions]
    exact horigin
  · rw [hcalls,hsubmissions]
    exact h.sent
  · intro c call hcall signed reason reference detail hphase
    rw [hcalls] at hcall
    have hsettling := h.sound.calls c call hcall
    simp only [PhaseSound,hphase] at hsettling
    exact hfails _ hsettling.1.submitted rfl
      (h.failed c call hcall signed reason reference detail hphase)
  · intro c call hcall reason reference detail hphase submission hmem hc hattempted
    rw [hcalls] at hcall
    rw [hsubmissions] at hmem
    exact hfails submission hmem hattempted
      (h.answered c call hcall reason reference detail hphase submission hmem hc hattempted)
  · intro c call hcall hrepeats
    unfold Repeats at hrepeats
    rw [hcalls] at hcall hrepeats
    obtain ⟨⟨row,hrow,hid⟩,hreservation,hwaits⟩ := h.repeated c call hcall hrepeats
    obtain ⟨row',hrow',hid'⟩ := hrows row hrow
    exact ⟨⟨row',hrow',hid'.trans hid⟩,hreservation,hwaits⟩

theorem FailuresSound.unchanged (hledger : system'.ledger = system.ledger) : FailuresSound D system' := by
  refine h.frame hsound hcalls hsubmissions hrows ?_ ?_ ?_
  · intro submission _ _ hfails
    rw [hledger]
    exact hfails
  · rw [hledger]
    exact h.origin
  · rw [hledger]
    exact h.included

end

theorem FailuresSound.includes (h : FailuresSound D system) {sent : Submission}
    (hmem : sent ∈ system.submissions) {details : Option (Json String)} {ledger : Ledger}
    (hledger : system.ledger.includes D sent details = some ledger)
    (hsound : SubmissionsSound D { system with ledger := ledger }) :
    FailuresSound D { system with ledger := ledger } := by
  obtain ⟨call,-,-,-,hsigned⟩ := h.sound.submitted sent hmem
  have hcan := canBeIncluded_of_includes hledger hsigned.decoded hsigned.hashed
  simp only [Ledger.includes,hsigned.decoded,hsigned.hashed] at hledger
  split_ifs at hledger with hguard
  obtain rfl := some.inj hledger
  simp only [Bool.and_eq_true,Bool.not_eq_true',decide_eq_true_eq,List.any_eq_false] at hguard
  obtain ⟨⟨⟨⟨hattempted,happlies⟩,hlast⟩,hhash⟩,-⟩ := hguard
  refine h.frame hsound rfl rfl (fun row hrow => ⟨row,hrow,rfl⟩) ?_ ?_ ?_
  · -- A transaction that has failed is final, so it is not the one included.
    intro submission hsubmission hsent hfails
    refine ⟨?_,?_⟩
    · intro i hi heq
      rcases mem_append.1 hi with hold | hnew
      · exact hfails.1 i hold heq
      · obtain rfl := mem_singleton.1 hnew
        have hsame := h.hashes submission hsubmission sent hmem hsent hattempted heq.symm
        exact absurd (hsame ▸ hfails.2) hcan.1
    · rcases hfails.2 with ⟨i,hi,heq⟩ | hnever | hexpired
      · exact .inl ⟨i,mem_append_left _ hi,heq⟩
      · exact .inr (.inl hnever)
      · exact .inr (.inr hexpired)
  · intro i hi
    rcases mem_append.1 hi with hold | hnew
    · exact h.origin i hold
    · obtain rfl := mem_singleton.1 hnew
      have hvalidated := hsigned.validated
      refine ⟨happlies,sent,hmem,hattempted,rfl,?_,hlast⟩
      simp only [Signed.minLedger]
      omega
  · rw [map_append,map_singleton,nodup_append]
    refine ⟨h.included,by simp,?_⟩
    intro found hfound other hother heq
    obtain ⟨i,hi,rfl⟩ := mem_map.1 hfound
    exact hhash i hi (heq.trans (List.mem_singleton.1 hother))

variable {c : Nat} {call : RailCall} {resumption : Resumption} {effect : Effect}

theorem FailuresSound.failing (h : FailuresSound D system) (hcall : system.calls[c]? = some call)
    {signed : Signed} (htruthful : ResumptionTruthful D system.ledger call.phase resumption)
    (hfailing : Failing signed call.phase resumption) : Fails D system.ledger signed := by
  have hphase := h.sound.calls c call hcall
  obtain ⟨process,request,phase,reservation⟩ := call
  simp only at hfailing htruthful
  cases hfailing with
  | malformed raw engineResult hread =>
    have hnever := htruthful engineResult hread
    refine ⟨?_,.inr (.inl hnever)⟩
    intro i hi heq
    have happlies := (h.origin i hi).1
    rw [heq,hnever] at happlies
    cases happlies
  | validated index raw engineResult hread =>
    obtain ⟨details, hsays,hdetails⟩ := (readLookup_cases raw signed.expected).2 _ hread
      (by simp) (by simp) (by simp)
    obtain ⟨i,hi,hhash,rfl,-⟩ := htruthful.1 details hsays
    refine ⟨?_,.inl ⟨i,hi,hhash⟩⟩
    intro other hother heq
    rw [inj_on_of_nodup_map h.included hother hi (heq.trans hhash.symm)]
    exact readValidated_failure hdetails
  | expired index raw hread hlast =>
    have hnotFound := htruthful.2 ((readLookup_cases raw signed.expected).1 hread)
    have hsent := hphase.1
    have hindex := hphase.2 index rfl
    refine ⟨?_,.inr (.inr (hlast.trans hindex))⟩
    intro i hi heq
    obtain ⟨-,submission,hsubmission,hattempted,hhash,hmin,hmax⟩ := h.origin i hi
    have hsame := h.hashes submission hsubmission _ hsent.submitted hattempted rfl
      (hhash.trans heq)
    rw [hsame] at hmin hmax
    have hlater := hnotFound i hi heq hmin hmax
    simp only at hmax
    omega

theorem transition_ids {store store' : InterlockStore} {executionId hash updatedAt : String}
    {target : XrplSubmissionState}
    (h : store.transition executionId hash target updatedAt = some store') :
    ∀ row ∈ store.rows, ∃ row' ∈ store'.rows, row'.executionId = row.executionId := by
  intro row hrow
  rw [(transition_rows h).2]
  refine ⟨_,mem_map_of_mem hrow,?_⟩
  split_ifs
  · exact congrArg XrplSubmissionRecordInput.executionId
      (moveRow_input row target updatedAt)
  · rfl

theorem Outcome.ids (h : Outcome D system c call effect) : ∀ row ∈ system.store.rows,
      ∃ row' ∈ effect.store.rows, row'.executionId = row.executionId := by
  intro row hrow
  cases h with
  | «local» hstore =>
    rw [hstore]
    exact ⟨row,hrow,rfl⟩
  | reserves signed reservedAt answered hsigned hstore =>
    rw [(insertReservation_rows hstore).2]
    exact ⟨row,mem_append_left _ hrow,rfl⟩
  | submits signed attempted hbefore hstore =>
    rw [hstore]
    exact ⟨row,hrow,rfl⟩
  | settles signed attempted target written result hsent hclosed hstore =>
    rw [hstore]
    unfold settleQuietly
    split
    · exact ⟨row,hrow,rfl⟩
    · rename_i updatedAt
      cases hmoved : system.store.transition call.request.executionId signed.hash target
          updatedAt with
      | none => exact ⟨row,hrow,rfl⟩
      | some store => exact transition_ids hmoved row hrow

theorem Outcome.submissions (h : Outcome D system c call effect) :
    (system.apply c call effect).submissions = system.submissions ∨
      ∃ signed attempted, call.phase = .submitting signed ∧
        effect.phase = (if attempted then .submitted signed else .closing signed) ∧
        effect.submission = some attempted ∧ (system.apply c call effect).submissions =
          system.submissions ++ [⟨c,call.request.executionId,signed,attempted⟩] := by
  cases h with
  | «local» hstore hreservation hsubmission => exact .inl (by simp [System.apply,hsubmission])
  | reserves signed reservedAt answered hsigned hstore hfree hreservation hsubmission =>
    exact .inl (by simp [System.apply,hsubmission])
  | submits signed attempted hbefore hstore hreservation hsubmission hphase =>
    exact .inr ⟨signed,attempted,hbefore,hphase,hsubmission, by simp [System.apply,hsubmission,hbefore]⟩
  | settles signed attempted target written result hsent hclosed hstore hreservation hsubmission =>
    exact .inl (by simp [System.apply,hsubmission])

theorem FailuresSound.resumes (h : FailuresSound D system) (hcall : system.calls[c]? = some call)
    (htruthful : ResumptionTruthful D system.ledger call.phase resumption)
    (hrepeatable : Repeatable D system (.resume c resumption))
    (heffect : resume D (D.options call.process) (system.rails call.process) system.store call.request.executionId call.reservation call.phase resumption = some effect) :
    FailuresSound D (system.apply c call effect) := by
  have houtcome := resume_outcome (h.sound.calls c call hcall) htruthful heffect
  have hmoved := resume_moved heffect
  have hlength : c < system.calls.length := (List.getElem?_eq_some_iff.1 hcall).1
  have hold : ∀ (k : Nat) (other : RailCall), (system.apply c call effect).calls[k]? = some other →
      k = c ∧ other = { call with phase := effect.phase, reservation := effect.reservation } ∨
        k ≠ c ∧ system.calls[k]? = some other := fun k other hother => getElem?_set_cases hother
  have hgrown : ∀ submission ∈ system.submissions,
      submission ∈ (system.apply c call effect).submissions := by
    intro submission hmem
    rcases houtcome.submissions with hsame | ⟨signed,attempted,-,-,-,hadded⟩
    · rwa [hsame]
    · rw [hadded]
      exact mem_append_left _ hmem
  -- A submission of the new state is an old one, or the one made by this step.
  have hadded : ∀ submission ∈ (system.apply c call effect).submissions,
      submission ∈ system.submissions ∨ ∃ signed attempted, call.phase = .submitting signed ∧
        effect.phase = (if attempted then .submitted signed else .closing signed) ∧
        effect.submission = some attempted ∧
        submission = ⟨c,call.request.executionId,signed,attempted⟩ := by
    intro submission hmem
    rcases houtcome.submissions with hsame | ⟨signed,attempted,hbefore,hphase,hsome,hall⟩
    · rw [hsame] at hmem
      exact .inl hmem
    · rw [hall] at hmem
      rcases mem_append.1 hmem with hmem | hmem
      · exact .inl hmem
      · exact .inr ⟨signed,attempted,hbefore,hphase,hsome,mem_singleton.1 hmem⟩
  refine ⟨apply_sound h.sound hcall houtcome,?_,?_,h.included,?_,?_,?_,?_⟩
  · -- A transaction sent by this step has a hash of its own.
    have hnew : ∀ signed attempted, call.phase = .submitting signed → attempted = true →
        effect.submission = some attempted → ∀ submission ∈ system.submissions,
        submission.attempted = true → submission.signed.hash ≠ signed.hash := by
      intro signed attempted hphase hattempted hsome
      subst hattempted
      rw [resume_submission heffect hsome] at hrepeatable
      exact hrepeatable call signed hcall hphase
    intro submission hmem other hother hattempted hattempted' hhash
    rcases hadded submission hmem with hmem | ⟨signed,attempted,hphase,-,hsome,rfl⟩
    · rcases hadded other hother with hother | ⟨signed,attempted,hphase,-,hsome,rfl⟩
      · exact h.hashes submission hmem other hother hattempted hattempted' hhash
      · exact absurd hhash (hnew signed attempted hphase hattempted' hsome submission hmem hattempted)
    · rcases hadded other hother with hother | ⟨signed',attempted',hphase',-,hsome',rfl⟩
      · exact absurd hhash.symm
          (hnew signed attempted hphase hattempted hsome other hother hattempted')
      · rw [hphase] at hphase'
        rw [hsome] at hsome'
        obtain rfl := RailPhase.submitting.inj hphase'
        obtain rfl := some.inj hsome'
        rfl
  · intro i hi
    obtain ⟨happlies,submission,hmem,hfacts⟩ := h.origin i hi
    exact ⟨happlies,submission,hgrown submission hmem,hfacts⟩
  · intro k other hother submission hmem hk
    rcases hold k other hother with ⟨rfl,rfl⟩ | ⟨hne,hsame⟩
    · rcases hadded submission hmem with hmem | ⟨signed,attempted,-,hphase,-,-⟩
      · exact hmoved.sent (h.sent k call hcall submission hmem hk)
      · simp only [hphase]
        cases attempted <;> rfl
    · rcases hadded submission hmem with hmem | ⟨signed,attempted,-,-,-,rfl⟩
      · exact h.sent k other hsame submission hmem hk
      · exact absurd hk.symm hne
  · intro k other hother signed reason reference detail hphase
    rcases hold k other hother with ⟨rfl,rfl⟩ | ⟨-,hsame⟩
    · exact h.failing hcall htruthful (hmoved.settling signed reason reference detail hphase)
    · exact h.failed k other hsame signed reason reference detail hphase
  · intro k other hother reason reference detail hphase submission hmem hk hattempted
    rcases hold k other hother with ⟨rfl,rfl⟩ | ⟨hne,hsame⟩
    · have hmem : submission ∈ system.submissions := by
        rcases hadded submission hmem with hmem | ⟨signed,attempted,-,hsubmitted,-,-⟩
        · exact hmem
        · simp only [hsubmitted] at hphase
          cases attempted <;> cases hphase
      have hsent := h.sent k call hcall submission hmem hk
      rcases hmoved.answered reason reference detail hphase with
        hunsent | ⟨signed,hclosing⟩ | ⟨signed,hsettling⟩
      · rw [hunsent] at hsent
        cases hsent
      · -- The one submission of this call sent nothing.
        have hsound := h.sound.calls k call hcall
        simp only [PhaseSound,hclosing] at hsound
        have hsame := inj_on_of_nodup_map h.sound.once hmem hsound.submitted hk
        rw [hsame] at hattempted
        cases hattempted
      · have hsound := h.sound.calls k call hcall
        simp only [PhaseSound,hsettling] at hsound
        have hsame := inj_on_of_nodup_map h.sound.once hmem hsound.1.submitted hk
        rw [hsame]
        exact h.failed k call hcall signed reason reference detail hsettling
    · rcases hadded submission hmem with hmem | ⟨signed,attempted,-,-,-,rfl⟩
      · exact h.answered k other hsame reason reference detail hphase submission hmem hk hattempted
      · exact absurd hk.symm hne
  · intro k other hother hrepeats
    have hbefore : ∀ before, system.calls[k]? = some before →
        before.request = other.request → Repeats system k before := by
      intro before hk hrequest
      obtain ⟨j,earlier,hlt,hearlier,hid⟩ := hrepeats
      rcases hold j earlier hearlier with ⟨rfl,rfl⟩ | ⟨-,hsame⟩
      · exact ⟨j,call,hlt,hcall,hrequest ▸ hid⟩
      · exact ⟨j,earlier,hlt,hsame,hrequest ▸ hid⟩
    rcases hold k other hother with ⟨rfl,rfl⟩ | ⟨-,hsame⟩
    · obtain ⟨hrow,hreservation,hwaits⟩ := h.repeated k call hcall (hbefore call hcall rfl)
      have hread : ∀ fails, resumption = .recorded fails →
          fails = false ∧ isExecutionId call.request.executionId = true := by
        rintro fails rfl
        exact hrepeatable call hcall (hbefore call hcall rfl)
      obtain ⟨hwaits',hreservation',hstore,-⟩ := resume_waits hwaits hread hrow heffect
      refine ⟨?_,hreservation'.trans hreservation,hwaits'⟩
      simp only [System.apply,hstore]
      exact hrow
    · obtain ⟨⟨row,hrow,hid⟩,hreservation,hwaits⟩ :=
        h.repeated k other hsame (hbefore other hsame rfl)
      obtain ⟨row',hrow',hid'⟩ := houtcome.ids row hrow
      exact ⟨⟨row',hrow',hid'.trans hid⟩,hreservation,hwaits⟩

theorem FailuresSound.starts (h : FailuresSound D system) {process : Nat}
    {request : PaymentExecutionRequest}
    (hrepeatable : Repeatable D system (.call process request)) :
    FailuresSound D { system with calls := system.calls ++
      [⟨process,request,startExecution D.sdk (D.options process) request,none⟩] } := by
  have hcases : ∀ (k : Nat) (other : RailCall),
      (system.calls ++ [(⟨process,request,startExecution D.sdk (D.options process) request,
        none⟩ : RailCall)])[k]? = some other →
      system.calls[k]? = some other ∨ k = system.calls.length ∧
        other = ⟨process,request,startExecution D.sdk (D.options process) request,none⟩ := by
    intro k other hother
    have hlength := (List.getElem?_eq_some_iff.1 hother).1
    rw [length_append,length_singleton] at hlength
    rw [List.getElem?_append] at hother
    split_ifs at hother with hk
    · exact .inl hother
    · exact .inr ⟨by omega,mem_singleton.1 (mem_of_getElem? hother)⟩
  have hsubmitted : ∀ submission ∈ system.submissions, submission.call < system.calls.length := by
    intro submission hmem
    obtain ⟨call,hcall,-⟩ := h.sound.submitted submission hmem
    exact (List.getElem?_eq_some_iff.1 hcall).1
  refine ⟨h.sound.starts process request,h.hashes,h.origin,h.included,?_,?_,?_,?_⟩
  · intro k other hother submission hmem hk
    rcases hcases k other hother with hold | ⟨rfl,-⟩
    · exact h.sent k other hold submission hmem hk
    · exact absurd hk (Nat.ne_of_lt (hsubmitted submission hmem))
  · intro k other hother signed reason reference detail hphase
    rcases hcases k other hother with hold | ⟨-,rfl⟩
    · exact h.failed k other hold signed reason reference detail hphase
    · simp only [startExecution] at hphase
      split at hphase <;> cases hphase
  · intro k other hother reason reference detail hphase submission hmem hk
    rcases hcases k other hother with hold | ⟨rfl,-⟩
    · exact h.answered k other hold reason reference detail hphase submission hmem hk
    · exact absurd hk (Nat.ne_of_lt (hsubmitted submission hmem))
  · rintro k other hother ⟨j,earlier,hlt,hearlier,hid⟩
    have hlength := (List.getElem?_eq_some_iff.1 hother).1
    rw [length_append,length_singleton] at hlength
    have hbefore : system.calls[j]? = some earlier := by
      rcases hcases j earlier hearlier with hold | ⟨rfl,-⟩
      · exact hold
      · omega
    rcases hcases k other hother with hold | ⟨-,rfl⟩
    · exact h.repeated k other hold ⟨j,earlier,hlt,hbefore,hid⟩
    · rcases hrepeatable with hfresh | ⟨hrow,hbuilt⟩
      · exact absurd hid (hfresh earlier (mem_of_getElem? hbefore))
      · refine ⟨hrow,rfl,?_⟩
        simp only [startExecution]
        split
        · rename_i detail hbuild
          rw [hbuild] at hbuilt
          cases hbuilt
        · rfl

theorem step_failures (h : FailuresSound D system) {event : Event}
    (htruthful : Truthful D system event) (hrepeatable : Repeatable D system event)
    (hstep : step D system event = some system') : FailuresSound D system' := by
  have hsound := step_sound h.sound htruthful hstep
  cases step_cases hstep with
  | call process request => exact h.starts hrepeatable
  | readiness | crash => exact h.unchanged hsound rfl rfl (fun row hrow => ⟨row,hrow,rfl⟩) rfl
  | resume c resumption hcall heffect =>
    exact h.resumes hcall (htruthful _ hcall) hrepeatable heffect
  | resolve executionId settlement updatedAt htransition =>
    exact h.unchanged hsound rfl rfl (transition_ids htransition) rfl
  | includes index details hsent hledger =>
    exact h.includes (mem_of_getElem? hsent) hledger hsound
  | validates =>
    refine h.frame hsound rfl rfl (fun row hrow => ⟨row,hrow,rfl⟩) ?_ h.origin h.included
    rintro submission - - ⟨hnone,hfinal⟩
    refine ⟨hnone,?_⟩
    rcases hfinal with hincluded | hnever | hlast
    · exact .inl hincluded
    · exact .inr (.inl hnever)
    · exact .inr (.inr (hlast.trans (by simp)))

theorem initial_failures (index : Int) : FailuresSound D (System.initial index) where
  sound := initial_sound index
  hashes := fun _ hmem => absurd hmem not_mem_nil
  origin := fun _ hmem => absurd hmem not_mem_nil
  included := nodup_nil
  sent := fun _ _ hcall => by simp [System.initial] at hcall
  failed := fun _ _ hcall => by simp [System.initial] at hcall
  answered := fun _ _ hcall => by simp [System.initial] at hcall
  repeated := fun _ _ hcall => by simp [System.initial] at hcall

def waitedEvents : List Event :=
  submittedEvents ++ (Event.resume 0 (.submitAnswer (some (.obj [("engine_result", .str "terQUEUED")]))) ::
      List.replicate 20 .validates)

def sampleNotFound : Json String :=
  .obj [("error", .str "txnNotFound"), ("searched_all", .bool true)]

def expiredEvents : List Event :=
  waitedEvents ++ [.resume 0 (.pollIndex (some (.num 1320))), .resume 0 (.pollLookup (some sampleNotFound)),
      .resume 0 (.settled (some sampleLaterInstant))]

theorem waitedEvents_ledger :
    (run sampleDeployment (System.initial 1300) waitedEvents).ledger = ⟨1320,[]⟩ := by
  rw [waitedEvents,submittedEvents,append_assoc,run_reservedEvents]
  rfl

theorem sampleNotFound_truthful {ledger : Ledger} (h : ledger = ⟨1320,[]⟩) (signed : Signed) :
    LookupTruthful ledger signed sampleNotFound := by
  subst h
  refine ⟨?_,fun _ i hi => absurd hi not_mem_nil⟩
  rintro details ⟨herror,-⟩
  cases herror

theorem expiredEvents_truthful :
    StepsMeet (next sampleDeployment) (Truthful sampleDeployment) (System.initial 1300)
      expiredEvents := by
  have hledger : (waitedEvents.foldl (next sampleDeployment) (System.initial 1300)).ledger =
      _ := waitedEvents_ledger
  refine stepsMeet_append.2 ⟨stepsMeet_append.2 ⟨submittedEvents_truthful,?_⟩,?_⟩
  · refine ⟨answered_truthful ?_,?_⟩
    · intro hash engineResult hread
      cases hread
    · apply stepsMeet_of_forall
      intro event hevent system
      rw [eq_of_mem_replicate hevent]
      trivial
  · refine ⟨polled_truthful (index_truthful ?_),lookedUp_truthful (sampleNotFound_truthful ?_),
      silent_truthful rfl,trivial⟩
    · rw [hledger]
    · rw [next_resume_ledger]
      exact hledger

theorem reservedEvents_submissions :
    (reservedEvents.foldl (next sampleDeployment) (System.initial 1300)).submissions = [] :=
  congrArg System.submissions reservedEvents_run

theorem expiredEvents_repeatable :
    StepsMeet (next sampleDeployment) (Repeatable sampleDeployment) (System.initial 1300)
      expiredEvents := by
  refine stepsMeet_append.2 ⟨stepsMeet_append.2 ⟨stepsMeet_append.2 ⟨?_,?_⟩,?_⟩,?_⟩
  · refine ⟨trivial,.inl ?_,trivial,?_,trivial,trivial,trivial,trivial,trivial,trivial, trivial,trivial⟩
    · intro call hcall
      exact absurd hcall not_mem_nil
    · rintro call - ⟨j,-,hlt,-⟩
      omega
  · refine ⟨?_,trivial⟩
    intro call signed _ _ submission hmem
    rw [reservedEvents_submissions] at hmem
    exact absurd hmem not_mem_nil
  · refine ⟨trivial,?_⟩
    apply stepsMeet_of_forall
    intro event hevent system
    rw [eq_of_mem_replicate hevent]
    trivial
  · exact ⟨trivial,trivial,trivial,trivial⟩

/-- A second process executes the same request while the first one's transaction is on its way,
and cannot read the interlock. The transaction then succeeds. -/
def repeatedEvents : List Event :=
  submittedEvents ++ [Event.call 1 sampleRequest, .resume 1 .turn, .resume 1 (.recorded true),
      .includes 0 (some sampleDetails), .validates]

theorem repeatedEvents_truthful :
    StepsMeet (next sampleDeployment) (Truthful sampleDeployment) (System.initial 1300)
      repeatedEvents :=
  stepsMeet_append.2 ⟨submittedEvents_truthful,trivial,silent_truthful rfl,silent_truthful rfl,
    trivial,trivial,trivial⟩

theorem repeatedEvents_ledger : (run sampleDeployment (System.initial 1300) repeatedEvents).ledger =
      ⟨1301,[⟨sampleHash,samplePrepared.account,7,1301,some sampleDetails⟩]⟩ := by
  rw [repeatedEvents,submittedEvents,append_assoc,run_reservedEvents]
  rfl

end Frontera.Xrpl
