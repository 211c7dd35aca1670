import Frontera.ExerciseControl.TamperEvidence

/-! A reserve appends rows of its own and verifies every bucket it names, so a database that counts
all the usage of a ledger counts it after any further reserves. Together with the evidence of a
tampered row this bounds what tampering can win. -/

namespace Frontera.ExerciseControl

open Frontera.Data Frontera.Text List Database InMemoryLedger

variable {P : Platform}

variable {db db' : Database}

variable {reservedAtMs : Int} {record : ExerciseReservationRecord}
  {outcome : ExerciseReservationOutcome} {plan : QueryPlan} {request : ExerciseReservationRequest}
  {now : String} {m : InMemoryLedger}

theorem insertRules_effect {reservationId : String} {rules : List ExerciseControlRuleUsage}
    {ordinal : Int}
    (h : insertRules P reservationId reservedAtMs ordinal rules db = .ok db') :
    db'.reservations = db.reservations ∧
      db'.rules = db.rules ++ ruleRowsFrom P reservationId reservedAtMs ordinal rules ∧
      db'.terminals = db.terminals ∧ db'.resolutions = db.resolutions ∧ ∀ limitId scopeKey, (∀ rule ∈ rules,
          ¬ (rule.limit.limitId = limitId ∧ rule.limit.scopeKey = scopeKey)) →
        db'.selectHead limitId scopeKey = db.selectHead limitId scopeKey := by
  induction rules generalizing ordinal db with
  | nil =>
    obtain rfl : db = db' := by simpa [insertRules] using h
    simp [ruleRowsFrom]
  | cons rule rules ih =>
    simp only [insertRules,bind_eq_ok] at h
    obtain ⟨inserted,hinsert,count,-,hrest⟩ := h
    have hinserted : inserted = { db with
        rules := db.rules ++ [ruleRow P reservationId ordinal rule reservedAtMs] } := by
      unfold insertRule at hinsert
      split_ifs at hinsert
      simpa [eq_comm] using hinsert
    have hkept : ∀ row : HeadRow, (inserted.upsertHead row).reservations = db.reservations ∧
        (inserted.upsertHead row).rules = inserted.rules ∧
        (inserted.upsertHead row).terminals = db.terminals ∧
        (inserted.upsertHead row).resolutions = db.resolutions := by
      intro row
      unfold upsertHead
      split_ifs <;> simp [hinserted]
    obtain ⟨hreservations,hrules,hterminals,hresolutions,hheads⟩ := ih hrest
    obtain ⟨kreservations,krules,kterminals,kresolutions⟩ := hkept _
    refine ⟨hreservations.trans kreservations,?_,hterminals.trans kterminals,
      hresolutions.trans kresolutions,?_⟩
    · rw [hrules,krules,hinserted]
      simp [ruleRowsFrom]
    · intro limitId scopeKey hnot
      rw [hheads limitId scopeKey fun r hr => hnot r (by simp [hr]),selectHead_upsertHead]
      refine (if_neg (hnot rule (by simp))).trans ?_
      rw [hinserted]
      rfl

theorem recordReservation_effect
    (h : db.recordReservation P record reservedAtMs = .ok (outcome, db')) :
    db'.reservations = db.reservations ++ [reservationRow P record reservedAtMs] ∧
      db'.rules = db.rules ++ ruleRowsFrom P record.reservationId reservedAtMs 0 record.rules ∧
      db'.terminals = db.terminals ∧ db'.resolutions = db.resolutions ∧
      ∀ limitId scopeKey, (∀ rule ∈ record.rules,
          ¬ (rule.limit.limitId = limitId ∧ rule.limit.scopeKey = scopeKey)) →
        db'.selectHead limitId scopeKey = db.selectHead limitId scopeKey := by
  simp only [recordReservation,bind_eq_ok] at h
  obtain ⟨based,hbase,ruled,hrules,loaded,-,hanswer⟩ := h
  have hbased : based = { db with
      reservations := db.reservations ++ [reservationRow P record reservedAtMs] } := by
    unfold insertReservation at hbase
    split_ifs at hbase
    simpa [eq_comm] using hbase
  obtain rfl : ruled = db' := by
    cases loaded with
    | none => simp at hanswer
    | some written =>
      simp only [pure_eq_ok,Prod.mk.injEq] at hanswer
      exact hanswer.2
  rw [hbased] at hrules
  exact insertRules_effect hrules

theorem loadVerified_append
    (hreservations : db'.reservations = db.reservations ++ [reservationRow P record reservedAtMs])
    (hrules : db'.rules = db.rules ++ ruleRowsFrom P record.reservationId reservedAtMs 0 record.rules)
    (hterminals : db'.terminals = db.terminals) (hresolutions : db'.resolutions = db.resolutions)
    {id : String} (hid : id ≠ record.reservationId) :
    db'.loadVerified P id = db.loadVerified P id := by
  have hbase : db'.selectReservation id = db.selectReservation id := by
    have hne : (reservationRow P record reservedAtMs).reservationId ≠ id := fun h => hid h.symm
    simp [selectReservation,hreservations,hne]
  have hrule : db'.selectRules id = db.selectRules id := by
    have hnone : (ruleRowsFrom P record.reservationId reservedAtMs 0 record.rules).filter
        (fun row => row.reservationId == id) = [] := by
      rw [filter_eq_nil_iff]
      intro row hrow
      simp [(ruleRowsFrom_reservationId hrow).1,hid.symm]
    rw [selectRules,selectRules,hrules,filter_append,hnone,append_nil]
  have hterminal : db'.selectTerminal id = db.selectTerminal id := by
    rw [selectTerminal,selectTerminal,hterminals]
  have hresolution : db'.selectResolution id = db.selectResolution id := by
    rw [selectResolution,selectResolution,hresolutions]
  rw [loadVerified,loadVerified,hbase,hrule,hterminal,hresolution]

theorem reserve_eq_ok (h : db.reserve P plan request now = .ok (outcome, db')) :
    (db' = db ∧ ((∃ record, outcome = .alreadyReserved record) ∨ outcome = .conflict)) ∨
      (db.loadVerified P request.reservationId = .ok none ∧
        (∀ rule ∈ request.rules, ∃ usages, db.activeUsageFor P plan rule = .ok usages) ∧
        ((db' = db ∧ ∃ reasons buckets, outcome = .refused reasons buckets) ∨
          db.recordReservation P ⟨request,now⟩ ((P.dateParse now).getD 0) = .ok (outcome, db'))) := by
  unfold Database.reserve at h
  split_ifs at h
  simp only [runReserve,bind_eq_ok] at h
  obtain ⟨-,-,loaded,hload,h⟩ := h
  cases loaded with
  | some existing =>
    left
    by_cases hsame : exerciseReservationsDescribeSameAttempt
        existing.record.toExerciseReservationRequest request = true
    · simp only [hsame,if_true,pure_eq_ok,Prod.mk.injEq] at h
      exact ⟨h.2.symm,.inl ⟨_,h.1.symm⟩⟩
    · simp only [hsame,Bool.false_eq_true,if_false,pure_eq_ok,Prod.mk.injEq] at h
      exact ⟨h.2.symm,.inr h.1.symm⟩
  | none =>
    by_cases hexecution : (db.selectReservationIdByExecution request.executionId).isSome = true
    · simp only [hexecution,if_true,pure_eq_ok,Prod.mk.injEq] at h
      exact .inl ⟨h.2.symm,.inr h.1.symm⟩
    · simp only [hexecution,Bool.false_eq_true,if_false,bind_eq_ok] at h
      obtain ⟨admission,hassess,h⟩ := h
      refine .inr ⟨hload,assess_reads hassess,?_⟩
      cases admission with
      | refused reasons buckets =>
        simp only [pure_eq_ok,Prod.mk.injEq] at h
        exact .inl ⟨h.2.symm,_,_,h.1.symm⟩
      | admitted => exact .inr h

theorem reserve_usage (h : db.reserve P plan request now = .ok (outcome, db'))
    {rule : ExerciseControlRuleUsage} {usages' : List ExerciseControlActiveUsage}
    (husage : db'.activeUsageFor P plan rule = .ok usages') :
    ∃ usages, db.activeUsageFor P plan rule = .ok usages ∧ usages.Subperm usages' := by
  rcases reserve_eq_ok h with ⟨rfl,-⟩ | ⟨hfresh,hread,⟨rfl,-⟩ | hrecorded⟩
  · exact ⟨usages',husage,List.Subperm.refl _⟩
  · exact ⟨usages',husage,List.Subperm.refl _⟩
  obtain ⟨hreservations,hrules,hterminals,hresolutions,hheads⟩ :=
    recordReservation_effect hrecorded
  obtain ⟨⟨n,hcount⟩,hcandidates⟩ := activeUsageFor_eq_ok.1 husage
  obtain ⟨entry,hentry,rfl⟩ := candidatesUsage_eq_ok.1 hcandidates
  have hsubset : ∀ id ∈ db.selectBucket plan rule.limit.limitId rule.limit.scopeKey,
      id ∈ db'.selectBucket plan rule.limit.limitId rule.limit.scopeKey := by
    intro id hid
    rw [selectBucket,(plan.perm _ _).mem_iff,mem_dedup] at hid ⊢
    refine map_subset _ ?_ hid
    rw [bucketRows,bucketRows,hrules,filter_append]
    exact subset_append_left _ _
  -- the new reservation had no rule row, so no candidate of before loads differently
  have hsame : ∀ id ∈ db.selectBucket plan rule.limit.limitId rule.limit.scopeKey,
      db.candidateUsage P (exerciseControlBucketKey rule.limit) id = .ok (entry id) := by
    intro id hid
    rw [← hentry id (hsubset id hid)]
    have hne : id ≠ request.reservationId := by
      rintro rfl
      rw [selectBucket,(plan.perm _ _).mem_iff,mem_dedup] at hid
      obtain ⟨row,hrow,hrowId⟩ := mem_map.1 hid
      have hempty := (loadVerified_eq_none.1 hfresh).2.2.2
      have hmem : row ∈ db.selectRules request.reservationId := by
        rw [selectRules,mem_insertionSort]
        exact mem_filter.2 ⟨(mem_filter.1 hrow).1,by simp [hrowId]⟩
      rw [hempty] at hmem
      cases hmem
    rw [candidateUsage,candidateUsage, loadVerified_append hreservations hrules hterminals hresolutions hne]
  have hok : db.activeUsageFor P plan rule = .ok
      ((db.selectBucket plan rule.limit.limitId rule.limit.scopeKey).filterMap entry) := by
    have hlist := candidatesUsage_eq_ok.2 ⟨entry,hsame,rfl⟩
    refine activeUsageFor_eq_ok.2 ⟨?_,hlist⟩
    by_cases hnamed : ∃ r ∈ request.rules, r.limit.limitId = rule.limit.limitId ∧
        r.limit.scopeKey = rule.limit.scopeKey
    · -- the admission itself verified this bucket's head
      obtain ⟨r,hr,hid,hscope⟩ := hnamed
      obtain ⟨usages,husages⟩ := hread r hr
      rw [← hid,← hscope]
      exact (activeUsageFor_eq_ok.1 husages).1
    · have hnot : ∀ r ∈ request.rules,
          ¬ (r.limit.limitId = rule.limit.limitId ∧ r.limit.scopeKey = rule.limit.scopeKey) :=
        fun r hr hboth => hnamed ⟨r,hr,hboth⟩
      have hrows : db'.bucketRows rule.limit.limitId rule.limit.scopeKey =
          db.bucketRows rule.limit.limitId rule.limit.scopeKey := by
        rw [bucketRows,bucketRows,hrules,filter_append]
        refine (congrArg _ (filter_eq_nil_iff.2 ?_)).trans (append_nil _)
        intro row hrow hbucket
        obtain ⟨-,-,r,hr,hid,hscope⟩ := ruleRowsFrom_reservationId hrow
        simp only [Bool.and_eq_true,beq_iff_eq] at hbucket
        exact hnot r hr ⟨hid.symm.trans hbucket.1,hscope.symm.trans hbucket.2⟩
      refine ⟨n,?_⟩
      rw [verifiedBucketRowCount,countBucket,hrows,hheads _ _ hnot] at hcount
      exact hcount
  refine ⟨_,hok,?_⟩
  have hnodup : (db.selectBucket plan rule.limit.limitId rule.limit.scopeKey).Nodup :=
    (plan.perm _ _).nodup_iff.2 (nodup_dedup _)
  obtain ⟨ids,hperm,hsub⟩ := hnodup.subperm hsubset
  exact ⟨ids.filterMap entry,hperm.filterMap _,hsub.filterMap _⟩

theorem Covers.reserve (hcovers : Covers P plan m db) (request : ExerciseReservationRequest)
    (now : String) : Covers P plan m (db.after P plan (.reserve request now)) := by
  unfold Database.after
  cases hcall : db.call P plan (.reserve request now) with
  | error e => exact hcovers
  | ok answered =>
    simp only [Database.call] at hcall
    obtain ⟨⟨outcome,db'⟩,hreserve,rfl⟩ := map_eq_ok.1 hcall
    intro rule usages' husage
    obtain ⟨usages,husages,hsub⟩ := reserve_usage hreserve husage
    exact (hcovers rule usages husages).trans hsub

theorem Covers.reserves (hcovers : Covers P plan m db)
    (later : List (ExerciseReservationRequest × String)) :
    Covers P plan m (db.run P plan (later.map fun r => .reserve r.1 r.2)) := by
  induction later generalizing db with
  | nil => exact hcovers
  | cons r later ih => exact ih (hcovers.reserve r.1 r.2)

variable {m m' : InMemoryLedger} {db : Database}

theorem reserve_of_simulates {plan : QueryPlan} {request : ExerciseReservationRequest}
    {now : String} {outcome : ExerciseReservationOutcome}
    (hreserve : m.reserve P request now = .ok (outcome, m'))
    (h : Simulates P (m.call P (.reserve request now)) (db.call P plan (.reserve request now))) :
    ∃ db', db.reserve P plan request now = .ok (outcome, db') := by
  obtain ⟨halike,-⟩ := h
  simp only [InMemoryLedger.call,Database.call,hreserve,Except.map] at halike
  cases hdb : db.reserve P plan request now with
  | error e => simp [hdb,AnswersAlike] at halike
  | ok answered =>
    obtain ⟨answer,db'⟩ := answered
    simp only [hdb,AnswersAlike,LedgerAnswer.reservation.injEq] at halike
    exact ⟨db',by rw [halike]⟩

/-- The outcome of a reserve that applied its admission rule. -/
def AdmissionApplied : ExerciseReservationOutcome → Prop
  | .reserved _ => True
  | .refused _ _ => True
  | _ => False

/-- An admission that was decided counted, in every bucket the request names, all the
usage the undisturbed database would have counted. -/
def CountsAll (P : Platform) (plan : QueryPlan) (undisturbed db : Database)
    (request : ExerciseReservationRequest) : Prop :=
  ∀ rule ∈ request.rules, ∃ usages counted, db.activeUsageFor P plan rule = .ok usages ∧
    undisturbed.activeUsageFor P plan rule = .ok counted ∧ counted.Subperm usages

/-- The database that lists the rows of a query as they were written. -/
def insertionOrder : QueryPlan := ⟨fun _ ids => ids,fun _ ids => List.Perm.refl ids⟩

def sampleExecuted : List LedgerCall :=
  [.reserve sampleRequest sampleInstant, .settle ⟨sampleRequest.reservationId,.executed,sampleLaterInstant⟩]

def sampleUnsettled : Database :=
  { Database.empty.run samplePlatform insertionOrder sampleExecuted with terminals := [] }

theorem Encodes.without_terminals (h : Encodes P m db)
    (hreservations : m.reservations.values = m'.reservations.values)
    (hterminals : m'.terminals.values = [])
    (hresolutions : m.resolutions.values = m'.resolutions.values) :
    Encodes P m' { db with terminals := [] } where
  reservations := hreservations ▸ h.reservations
  rules := hreservations ▸ h.rules
  terminals := by rw [hterminals]; rfl
  resolutions := hresolutions ▸ h.resolutions
  heads := h.heads

theorem sampleExecuted_ledger :
    (InMemoryLedger.empty.run samplePlatform sampleExecuted).reservations.values =
        sampleReserved.reservations.values ∧
      (InMemoryLedger.empty.run samplePlatform sampleExecuted).terminals.values.length = 1 ∧
      (InMemoryLedger.empty.run samplePlatform sampleExecuted).resolutions.values = [] := by
  rw [sampleExecuted,run_cons,sampleReserved_eq]
  decide

theorem sampleReserved_sound : LedgerSound samplePlatform sampleReserved := by
  rw [← sampleReserved_eq]
  exact ledgerSound_effect ledgerSound_empty
    (effect_after .empty (.reserve sampleRequest sampleInstant))

theorem sampleUnsettled_encodes : Encodes samplePlatform sampleReserved sampleUnsettled := by
  obtain ⟨hreservations,-,hresolutions⟩ := sampleExecuted_ledger
  exact (encodes_run insertionOrder encodes_empty ledgerSound_empty
    sampleExecuted).without_terminals hreservations rfl hresolutions

theorem sampleReserved_refuses :
    sampleReserved.reserve samplePlatform sampleSecondRequest sampleLaterInstant =
      .ok (.refused [.limitExceeded] [⟨"daily-usd","treasury"⟩], sampleReserved) := by
  have hinstant : isExerciseReservationInstant samplePlatform sampleLaterInstant = true := by
    decide
  have hrefused : assessExerciseReservationAdmission samplePlatform sampleSecondRequest
      sampleLaterInstant (fun rule =>
        .ok (sampleReserved.activeUsageFor samplePlatform rule)) =
      .ok (.refused [.limitExceeded] [⟨"daily-usd","treasury"⟩]) := by
    decide
  have hget : sampleReserved.reservations.get
      sampleSecondRequest.reservationId = none := by decide
  have hany : (sampleReserved.reservations.values.any fun other =>
      other.executionId == sampleSecondRequest.executionId) = false := by decide
  unfold InMemoryLedger.reserve
  simp only [sampleSecondRequest_wellFormed,hinstant,hget,hany,hrefused,Bool.not_true,
    Bool.false_eq_true,if_false]

def sampleRecord : ExerciseReservationRecord := ⟨sampleRequest,sampleInstant⟩

def sampleCompleted : ExerciseReservationResolutionInput :=
  ⟨sampleRequest.reservationId,"exec-1",
    "sha256:cfc87cd97046f3646d8c8509659fdddc398915574969dc01e90041cb2c635965",
    .confirmedCompleted,.noInitialObservation,sampleInstant⟩

def sampleRelease : TerminalInput :=
  ⟨sampleRequest.reservationId,.executionFailed,sampleLaterInstant⟩

def sampleContradiction : List LedgerCall :=
  [.reserve sampleRequest sampleInstant, .reconcileResolution sampleCompleted, .release sampleRelease]

theorem sampleContradiction_ledger :
    (InMemoryLedger.empty.run samplePlatform sampleContradiction).reservations.entries =
        [(sampleRequest.reservationId, sampleRecord)] ∧
      (InMemoryLedger.empty.run samplePlatform sampleContradiction).terminals.entries =
        [(sampleRequest.reservationId, sampleRelease.event .released)] ∧
      (InMemoryLedger.empty.run samplePlatform sampleContradiction).resolutions.entries =
        [(sampleRequest.reservationId, sampleCompleted.event)] := by
  rw [sampleContradiction,run_cons,sampleReserved_eq]
  decide

/-- The rows of the history, but for the bucket heads. -/
structure SampleRows (db : Database) : Prop where
  reservations : db.reservations =
    [reservationRow samplePlatform sampleRecord (instantOf samplePlatform sampleRecord)]
  rules : db.rules = ruleRowsOf samplePlatform sampleRecord
  terminals : db.terminals = [terminalRow samplePlatform (sampleRelease.event .released)]
  heads : HeadsSealed samplePlatform db

theorem SampleRows.withResolutions (h : SampleRows db) (rows : List ResolutionRow) :
    SampleRows { db with resolutions := rows } :=
  ⟨h.reservations,h.rules,h.terminals,h.heads⟩

theorem sampleContradiction_rows (plan : QueryPlan) :
    SampleRows (Database.empty.run samplePlatform plan sampleContradiction) ∧
      (Database.empty.run samplePlatform plan sampleContradiction).resolutions =
        [resolutionRow samplePlatform sampleCompleted.event] := by
  have hencodes := encodes_run (P := samplePlatform) plan encodes_empty ledgerSound_empty
    sampleContradiction
  obtain ⟨hreservations,hterminals,hresolutions⟩ := sampleContradiction_ledger
  refine ⟨⟨?_,?_,?_,hencodes.heads⟩,?_⟩
  · rw [hencodes.reservations,OrderedMap.values,hreservations]
    rfl
  · rw [hencodes.rules,OrderedMap.values,hreservations]
    simp
  · rw [hencodes.terminals,OrderedMap.values,hterminals]
    rfl
  · rw [hencodes.resolutions,OrderedMap.values,hresolutions]
    rfl

theorem sampleRecord_wellFormed : isWellFormedExerciseReservation samplePlatform sampleRecord = true := by
  have hinstant : isExerciseReservationInstant samplePlatform sampleInstant = true := by decide
  simp only [isWellFormedExerciseReservation,Bool.and_eq_true]
  exact ⟨hinstant,sampleRequest_wellFormed⟩

theorem sampleRule_eq : sampleRecord.rules = [⟨sampleLimit,"60.5"⟩] := rfl

theorem SampleRows.loadVerified (h : SampleRows db)
    (hresolution : db.selectResolution sampleRequest.reservationId = none) :
    db.loadVerified samplePlatform sampleRequest.reservationId =
      .ok (some ⟨sampleRecord,some (sampleRelease.event .released),none⟩) := by
  have hrules : (ruleRowsOf samplePlatform sampleRecord).filter
      (fun row => row.reservationId == sampleRecord.reservationId) =
        ruleRowsOf samplePlatform sampleRecord := by
    rw [filter_eq_self]
    intro row hrow
    simp [(ruleRowsFrom_reservationId hrow).1]
  refine loadVerified_of_rows sampleRecord_wellFormed ?_ ?_ ?_ hresolution ?_ (by simp)
  · simp [selectReservation,h.reservations,reservationRow]
  · rw [selectRules,h.rules,hrules]
    exact (ruleRowsFrom_sorted _ _ _ _).insertionSort_eq
  · have hid : (sampleRelease.event .released).reservationId = sampleRecord.reservationId := rfl
    simp [selectTerminal,h.terminals,terminalRow,hid]
  · rintro event ⟨⟩
    exact ⟨rfl,rfl⟩

theorem SampleRows.fresh (h : SampleRows db)
    (hresolution : db.selectResolution sampleSecondRequest.reservationId = none) :
    db.loadVerified samplePlatform sampleSecondRequest.reservationId = .ok none := by
  have hne : sampleRequest.reservationId ≠ sampleSecondRequest.reservationId := by decide
  refine loadVerified_eq_none.2 ⟨?_,?_,hresolution,?_⟩
  · have hid : sampleRecord.reservationId ≠ sampleSecondRequest.reservationId := hne
    simp [selectReservation,h.reservations,reservationRow,hid]
  · have hid : (sampleRelease.event .released).reservationId ≠ sampleSecondRequest.reservationId := hne
    simp [selectTerminal,h.terminals,terminalRow,hid]
  · have hnone : (ruleRowsOf samplePlatform sampleRecord).filter
        (fun row => row.reservationId == sampleSecondRequest.reservationId) = [] := by
      rw [filter_eq_nil_iff]
      intro row hrow hid
      exact hne ((ruleRowsFrom_reservationId hrow).1.symm.trans (by simpa using hid))
    rw [selectRules,h.rules,hnone]
    rfl

theorem SampleRows.activeUsageFor (h : SampleRows db)
    (hresolution : db.selectResolution sampleRequest.reservationId = none) :
    db.activeUsageFor samplePlatform insertionOrder ⟨sampleLimit,"60.5"⟩ = .ok [] := by
  have hbucket : db.selectBucket insertionOrder sampleLimit.limitId sampleLimit.scopeKey =
      [sampleRequest.reservationId] := by
    rw [selectBucket,bucketRows,h.rules]
    simp [insertionOrder,ruleRowsOf,ruleRowsFrom,sampleRule_eq,ruleRow]
    rfl
  have husage : db.candidateUsage samplePlatform (exerciseControlBucketKey sampleLimit)
      sampleRequest.reservationId = .ok none :=
    candidateUsage_eq_ok.2 ⟨_,h.loadVerified hresolution,.inl ⟨rfl,rfl⟩⟩
  refine activeUsageFor_eq_ok.2
    ⟨⟨db.countBucket sampleLimit.limitId sampleLimit.scopeKey,?_⟩,?_⟩
  · refine verifiedBucketRowCount_eq_ok.2 ⟨rfl,?_⟩
    have hhead := h.heads sampleLimit.limitId sampleLimit.scopeKey
    by_cases hzero : db.countBucket sampleLimit.limitId sampleLimit.scopeKey = 0
    · exact .inl ⟨hhead.trans (if_pos hzero),hzero⟩
    · exact .inr ⟨_,hhead.trans (if_neg hzero),rfl,rfl,rfl⟩
  · rw [hbucket]
    refine candidatesUsage_eq_ok.2 ⟨fun _ => none,?_,rfl⟩
    intro id hid
    rw [mem_singleton.1 hid]
    exact husage

theorem SampleRows.reserve (h : SampleRows db)
    (hfirst : db.selectResolution sampleRequest.reservationId = none)
    (hsecond : db.selectResolution sampleSecondRequest.reservationId = none) :
    ∃ db', db.reserve samplePlatform insertionOrder sampleSecondRequest sampleLaterInstant =
      .ok (.reserved ⟨sampleSecondRequest,sampleLaterInstant⟩, db') := by
  have hinstant : isExerciseReservationInstant samplePlatform sampleLaterInstant = true := by
    decide
  have hexecution : ∀ row ∈ db.reservations, row.executionId ≠ "exec-2" := by
    intro row hrow
    rw [h.reservations] at hrow
    rw [mem_singleton.1 hrow]
    decide
  have hnone : db.selectReservationIdByExecution sampleSecondRequest.executionId = none := by
    rw [selectReservationIdByExecution,Option.map_eq_none_iff,List.find?_eq_none]
    intro row hrow hsame
    exact hexecution row hrow (beq_iff_eq.1 hsame)
  have hassess : assessExerciseReservationAdmission samplePlatform sampleSecondRequest
      sampleLaterInstant (db.activeUsageFor samplePlatform insertionOrder) = .ok .admitted := by
    have hverdict : exerciseControlRuleVerdict ⟨sampleLimit,"60.5"⟩ []
        (samplePlatform.dateParse sampleLaterInstant) = .ok .within := by decide
    have hrules : sampleSecondRequest.rules = [⟨sampleLimit,"60.5"⟩] := rfl
    rw [assessExerciseReservationAdmission,hrules]
    simp only [ruleVerdicts,h.activeUsageFor hfirst,hverdict,LedgerThrow.ofRange_ok]
    rfl
  have hwell : isWellFormedExerciseReservation samplePlatform
      ⟨sampleSecondRequest,sampleLaterInstant⟩ = true := by
    simp only [isWellFormedExerciseReservation,Bool.and_eq_true]
    exact ⟨hinstant,sampleSecondRequest_wellFormed⟩
  obtain ⟨heads,hrecord,-⟩ :=
    recordReservation_ok hwell h.heads (h.fresh hsecond) hexecution
  refine ⟨_,Eq.trans ?_ hrecord⟩
  rw [Database.reserve,sampleSecondRequest_wellFormed]
  simp only [runReserve,hinstant,h.fresh hsecond,hnone,hassess,ensure,Bool.not_true,
    Bool.false_eq_true,if_false,if_true,ok_bind,Option.isSome_none]
  rfl

/-- The history with its resolution row pointed at another reservation, the digest left
as it was. -/
def sampleRepointed : Database :=
  { Database.empty.run samplePlatform insertionOrder sampleContradiction with
    resolutions := [{ resolutionRow samplePlatform sampleCompleted.event with
      reservationId := "aoc.exercise-reservation:00000000000000000000000000000000" }] }

theorem sampleRepointed_rows : SampleRows sampleRepointed :=
  (sampleContradiction_rows insertionOrder).1.withResolutions _

end Frontera.ExerciseControl
