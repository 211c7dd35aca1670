import Frontera.Data.Throwing
import Frontera.ExerciseControl.SqliteLedger

/-! Each verifying read of the SQLite ledger as an equivalence: it succeeds exactly on rows of the
stated shape. Read one way these say that a healthy ledger never fails its own checks, read the
other way that nothing else passes them. -/

namespace Frontera.ExerciseControl.Database

open Frontera.Data Frontera.Text

variable {P : Platform}

variable {reservationId : String} {reservedAtMs ordinal : Int} {row : RuleRow}
  {rule : ExerciseControlRuleUsage} {rules : List ExerciseControlRuleUsage} {rows : List RuleRow}
  {db : Database} {bucket : String} {usages : List ExerciseControlActiveUsage}

theorem verifiedRule_eq_ok : verifiedRule P reservationId reservedAtMs ordinal row = .ok rule ↔
      row.schemaVersion = exerciseControlLedgerSchemaVersion ∧ row.ordinal = ordinal ∧
        row.reservedAtMs = reservedAtMs ∧ limitOf row = some rule.limit ∧ rule.usage = row.usage ∧
        storedRuleDigest P reservationId ordinal rule reservedAtMs = row.ruleDigest := by
  unfold verifiedRule
  cases hlimit : limitOf row with
  | none => simp [bind_eq_ok]
  | some limit =>
    simp only [bind_eq_ok,ensure_eq_ok,beq_iff_eq,exists_and_left,exists_const,pure_eq_ok,
      Option.some.injEq]
    constructor
    · rintro ⟨hschema,hordinal,hms,hdigest,rfl⟩
      exact ⟨hschema,hordinal,hms,rfl,rfl,hdigest⟩
    · rintro ⟨hschema,hordinal,hms,rfl,husage,hdigest⟩
      rw [← husage]
      exact ⟨hschema,hordinal,hms,hdigest,rfl⟩

theorem verifiedRules_nil :
    verifiedRules P reservationId reservedAtMs ordinal [] = .ok rules ↔ rules = [] := by
  simp [verifiedRules,eq_comm]

theorem verifiedRules_cons : verifiedRules P reservationId reservedAtMs ordinal (row :: rows) = .ok rules ↔
      ∃ rule tail, rules = rule :: tail ∧ verifiedRule P reservationId reservedAtMs ordinal row = .ok rule ∧
        verifiedRules P reservationId reservedAtMs (ordinal + 1) rows = .ok tail := by
  simp only [verifiedRules,bind_eq_ok,pure_eq_ok]
  constructor
  · rintro ⟨rule,hrule,tail,htail,rfl⟩
    exact ⟨rule,tail,rfl,hrule,htail⟩
  · rintro ⟨rule,tail,rfl,hrule,htail⟩
    exact ⟨rule,hrule,tail,htail,rfl⟩

theorem verifiedRules_length
    (h : verifiedRules P reservationId reservedAtMs ordinal rows = .ok rules) :
    rules.length = rows.length := by
  induction rows generalizing ordinal rules with
  | nil => simp [verifiedRules_nil.1 h]
  | cons row rows ih =>
    obtain ⟨rule,tail,rfl,-,htail⟩ := verifiedRules_cons.1 h
    simp [ih htail]

theorem verifiedRecord_eq_ok {row : ReservationRow} {ruleRows : List RuleRow}
    {record : ExerciseReservationRecord} :
    verifiedRecord P reservationId row ruleRows = .ok record ↔
      row.schemaVersion = exerciseControlLedgerSchemaVersion ∧
        P.dateParse row.reservedAt = some row.reservedAtMs ∧
        isSafeInteger row.ruleCount = true ∧ (ruleRows.length : Int) = row.ruleCount ∧
        verifiedRules P reservationId row.reservedAtMs 0 ruleRows = .ok record.rules ∧
        record = recordOf row record.rules ∧ storedReservationDigest P record = row.recordDigest ∧
        isWellFormedExerciseReservation P record = true := by
  unfold verifiedRecord
  cases hparse : P.dateParse row.reservedAt with
  | none => simp [bind_eq_ok]
  | some ms =>
    simp only [bind_eq_ok,ensure_eq_ok,beq_iff_eq,exists_and_left,exists_const,pure_eq_ok,
      Option.some.injEq,Bool.and_eq_true]
    constructor
    · rintro ⟨hschema,hms,⟨hsafe,hcount⟩,rules,hrules,hdigest,hwell,rfl⟩
      subst hms
      exact ⟨hschema,rfl,hsafe,hcount,hrules,rfl,hdigest,hwell⟩
    · rintro ⟨hschema,hms,hsafe,hcount,hrules,hrecord,hdigest,hwell⟩
      subst hms
      refine ⟨hschema,rfl,⟨hsafe,hcount⟩,record.rules,hrules,?_⟩
      rw [← hrecord]
      exact ⟨hdigest,hwell,rfl⟩

theorem verifiedResolution_eq_ok {executionId : String} {row : ResolutionRow}
    {event : ExerciseReservationResolutionEvent} :
    verifiedResolution P reservationId executionId row = .ok event ↔
      row.schemaVersion = exerciseControlLedgerSchemaVersion ∧
        ExerciseReservationResolution.ofText row.resolution = some event.resolution ∧
        isWellFormedExerciseDigest row.resolutionDigest = true ∧ row.executionId = executionId ∧
        event = ⟨reservationId,row.executionId,row.resolutionDigest,event.resolution, row.recordedAt⟩ ∧
        storedResolutionEventDigest P event = row.eventDigest := by
  unfold verifiedResolution
  cases htext : ExerciseReservationResolution.ofText row.resolution with
  | none => simp [bind_eq_ok]
  | some resolution =>
    simp only [bind_eq_ok,ensure_eq_ok,beq_iff_eq,exists_and_left,exists_const,pure_eq_ok,
      Option.some.injEq]
    constructor
    · rintro ⟨hschema,hwell,hexecution,hdigest,rfl⟩
      exact ⟨hschema,rfl,hwell,hexecution,rfl,hdigest⟩
    · rintro ⟨hschema,rfl,hwell,hexecution,hevent,hdigest⟩
      rw [← hevent]
      exact ⟨hschema,hwell,hexecution,hdigest,rfl⟩

theorem verifiedTerminal_eq_ok {row : TerminalRow} {event : ExerciseReservationTerminalEvent} :
    verifiedTerminal P reservationId row = .ok event ↔
      row.schemaVersion = exerciseControlLedgerSchemaVersion ∧
        ExerciseReservationTerminalKind.ofText row.terminalKind = some event.kind ∧
        ExerciseReservationTerminalReason.ofText row.reason = some event.reason ∧
        exerciseReservationTerminalReasonMatches event.kind event.reason = true ∧
        event = ⟨reservationId,event.kind,event.reason,row.recordedAt⟩ ∧
        storedTerminalEventDigest P event = row.eventDigest := by
  unfold verifiedTerminal
  cases hkind : ExerciseReservationTerminalKind.ofText row.terminalKind with
  | none => simp [bind_eq_ok]
  | some kind =>
    cases hreason : ExerciseReservationTerminalReason.ofText row.reason with
    | none => simp [bind_eq_ok]
    | some reason =>
      simp only [bind_eq_ok,ensure_eq_ok,beq_iff_eq,exists_and_left,exists_const,pure_eq_ok,
        Option.some.injEq]
      constructor
      · rintro ⟨hschema,hmatch,hdigest,rfl⟩
        exact ⟨hschema,rfl,rfl,hmatch,rfl,hdigest⟩
      · rintro ⟨hschema,rfl,rfl,hmatch,hevent,hdigest⟩
        rw [← hevent]
        exact ⟨hschema,hmatch,hdigest,rfl⟩

theorem verifiedOptional_eq_some {α β : Type} {verify : α → Except LedgerThrow β}
    {row : Option α} {b : β} :
    verifiedOptional verify row = .ok (some b) ↔ ∃ a, row = some a ∧ verify a = .ok b := by
  cases row with
  | none => simp [verifiedOptional]
  | some a => simp [verifiedOptional]

theorem loadVerified_eq_none : db.loadVerified P reservationId = .ok none ↔
      db.selectReservation reservationId = none ∧ db.selectTerminal reservationId = none ∧
        db.selectResolution reservationId = none ∧ db.selectRules reservationId = [] := by
  unfold loadVerified
  cases hrow : db.selectReservation reservationId with
  | none => simp [and_assoc]
  | some row => simp [bind_eq_ok]

theorem loadVerified_eq_some {v : VerifiedReservation} : db.loadVerified P reservationId = .ok (some v) ↔
      ∃ row, db.selectReservation reservationId = some row ∧
        verifiedRecord P reservationId row (db.selectRules reservationId) = .ok v.record ∧
        verifiedOptional (verifiedResolution P reservationId row.executionId)
          (db.selectResolution reservationId) = .ok v.resolution ∧
        verifiedOptional (verifiedTerminal P reservationId)
          (db.selectTerminal reservationId) = .ok v.terminal := by
  unfold loadVerified
  cases hrow : db.selectReservation reservationId with
  | none => simp
  | some row =>
    simp only [bind_eq_ok,pure_eq_ok,Option.some.injEq,exists_eq_left']
    constructor
    · rintro ⟨record,hrecord,resolution,hresolution,terminal,hterminal,rfl⟩
      exact ⟨hrecord,hresolution,hterminal⟩
    · rintro ⟨hrecord,hresolution,hterminal⟩
      exact ⟨_,hrecord,_,hresolution,_,hterminal,rfl⟩

theorem verifiedBucketRowCount_eq_ok {limitId scopeKey : String} {n : Int} :
    db.verifiedBucketRowCount P limitId scopeKey = .ok n ↔ n = db.countBucket limitId scopeKey ∧
        ((db.selectHead limitId scopeKey = none ∧ db.countBucket limitId scopeKey = 0) ∨
          ∃ head, db.selectHead limitId scopeKey = some head ∧
            head.schemaVersion = exerciseControlLedgerSchemaVersion ∧
            storedBucketHeadDigest P limitId scopeKey head.ruleRowCount = head.headDigest ∧
            head.ruleRowCount = db.countBucket limitId scopeKey) := by
  unfold verifiedBucketRowCount
  cases hhead : db.selectHead limitId scopeKey with
  | none =>
    simp only [bind_eq_ok,ensure_eq_ok,beq_iff_eq,exists_and_left,exists_const,pure_eq_ok,
      reduceCtorEq,false_and,exists_false,or_false,true_and]
    constructor
    · rintro ⟨hzero,rfl⟩
      exact ⟨hzero.symm,hzero⟩
    · rintro ⟨rfl,hzero⟩
      exact ⟨hzero,hzero.symm⟩
  | some head =>
    simp only [bind_eq_ok,ensure_eq_ok,beq_iff_eq,exists_and_left,exists_const,pure_eq_ok,
      reduceCtorEq,false_and,false_or,Option.some.injEq,exists_eq_left']
    constructor
    · rintro ⟨hschema,hdigest,hcount,rfl⟩
      exact ⟨rfl,hschema,hdigest,hcount⟩
    · rintro ⟨rfl,hschema,hdigest,hcount⟩
      exact ⟨hschema,hdigest,hcount,rfl⟩

theorem candidateUsage_eq_ok {usage : Option ExerciseControlActiveUsage} :
    db.candidateUsage P bucket reservationId = .ok usage ↔
      ∃ v, db.loadVerified P reservationId = .ok (some v) ∧
        ((exerciseReservationConsumes v.terminal v.resolution = false ∧ usage = none) ∨
          (exerciseReservationConsumes v.terminal v.resolution = true ∧
            ∃ recorded, v.record.rules.find? (fun candidate =>
                exerciseControlBucketKey candidate.limit == bucket) = some recorded ∧
              usage = some (activeUsageOf P recorded v.record.reservedAt))) := by
  unfold candidateUsage
  simp only [bind_eq_ok]
  constructor
  · rintro ⟨loaded,hload,h⟩
    cases loaded with
    | none => simp at h
    | some v =>
      refine ⟨v,hload,?_⟩
      cases hconsumes : exerciseReservationConsumes v.terminal v.resolution with
      | false => simpa [hconsumes,eq_comm] using h
      | true =>
        cases hfind : v.record.rules.find? (fun candidate =>
            exerciseControlBucketKey candidate.limit == bucket) with
        | none => simp [hconsumes,hfind] at h
        | some recorded =>
          simp only [hconsumes,hfind,Bool.not_true,Bool.false_eq_true,if_false,pure_eq_ok] at h
          exact .inr ⟨rfl,recorded,rfl,h.symm⟩
  · rintro ⟨v,hload,⟨hconsumes,rfl⟩ | ⟨hconsumes,recorded,hfind,rfl⟩⟩
    · exact ⟨some v,hload,by simp [hconsumes]⟩
    · exact ⟨some v,hload,by simp [hconsumes,hfind]⟩

theorem candidatesUsage_eq_ok {ids : List String} : db.candidatesUsage P bucket ids = .ok usages ↔
      ∃ entry : String → Option ExerciseControlActiveUsage,
        (∀ id ∈ ids, db.candidateUsage P bucket id = .ok (entry id)) ∧ usages = ids.filterMap entry := by
  induction ids generalizing usages with
  | nil => simp [candidatesUsage,eq_comm]
  | cons id ids ih =>
    simp only [candidatesUsage,bind_eq_ok,pure_eq_ok]
    constructor
    · rintro ⟨usage,husage,tail,htail,rfl⟩
      obtain ⟨entry,hentry,rfl⟩ := ih.1 htail
      refine ⟨fun i => if i = id then usage else entry i,?_,?_⟩
      · intro i hi
        by_cases hid : i = id
        · simp [hid,husage]
        · simp only [hid,if_false]
          exact hentry i ((List.mem_cons.1 hi).resolve_left hid)
      · have htail' : ids.filterMap (fun i => if i = id then usage else entry i) = ids.filterMap entry := by
          refine List.filterMap_congr fun i hi => ?_
          by_cases hid : i = id
          · have hboth := hentry i hi
            rw [hid,husage] at hboth
            simpa [hid] using hboth
          · simp [hid]
        cases usage <;> simp [htail']
    · rintro ⟨entry,hentry,rfl⟩
      refine ⟨entry id,hentry id (by simp),ids.filterMap entry,
        ih.2 ⟨entry,fun i hi => hentry i (by simp [hi]),rfl⟩,?_⟩
      cases hid : entry id <;> simp [hid]

theorem activeUsageFor_eq_ok {plan : QueryPlan} : db.activeUsageFor P plan rule = .ok usages ↔
      (∃ n, db.verifiedBucketRowCount P rule.limit.limitId rule.limit.scopeKey = .ok n) ∧
        db.candidatesUsage P (exerciseControlBucketKey rule.limit)
          (db.selectBucket plan rule.limit.limitId rule.limit.scopeKey) = .ok usages := by
  simp only [activeUsageFor,bind_eq_ok,exists_and_right]

end Frontera.ExerciseControl.Database
