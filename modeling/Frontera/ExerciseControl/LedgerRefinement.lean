import Frontera.ExerciseControl.LedgerEncoding

/-! The relation "the database holds exactly the rows of the ledger" is a simulation: a call on
related states is answered alike and leaves related states. So a database that only the ledger has
written answers as the in-memory ledger does, and never reports its own history as corrupt. -/

namespace Frontera.ExerciseControl

open Frontera.Data Frontera.Text List Option OrderedMap

variable {P : Platform} {m : InMemoryLedger} {db : Database}

theorem ledgerSound_empty : LedgerSound P .empty where
  keyed := by simp [InMemoryLedger.empty,OrderedMap.empty]
  wellFormed := by simp [InMemoryLedger.empty,OrderedMap.empty]
  terminals := by simp [InMemoryLedger.empty,OrderedMap.empty]
  resolutions := by simp [InMemoryLedger.empty,OrderedMap.empty]

variable {request : ExerciseReservationRequest} {now : String} {input : TerminalInput}
  {reservation : ExerciseReservationRecord}

theorem wellFormed_of_reserves (h : InMemoryLedger.Reserves (P := P) m request now) :
    isWellFormedExerciseReservation P ⟨request,now⟩ = true := by
  simp [isWellFormedExerciseReservation,h.wellFormed,h.instant]

theorem LedgerSound.reserved (hsound : LedgerSound P m)
    (h : InMemoryLedger.Reserves (P := P) m request now) :
    LedgerSound P
      { m with reservations := m.reservations.set request.reservationId ⟨request,now⟩ } := by
  have hentries := entries_set_of_get_none h.fresh
    (⟨request,now⟩ : ExerciseReservationRecord)
  have hget := get_set_of_get_none h.fresh
    (⟨request,now⟩ : ExerciseReservationRecord)
  refine ⟨?_,?_,?_,?_⟩
  · simp only [hentries,mem_append,mem_singleton]
    rintro e (he | rfl)
    · exact hsound.keyed e he
    · rfl
  · simp only [hentries,mem_append,mem_singleton]
    rintro e (he | rfl)
    · exact hsound.wellFormed e he
    · exact wellFormed_of_reserves h
  · intro e he
    obtain ⟨hid,hmatches,hsome⟩ := hsound.terminals e he
    refine ⟨hid,hmatches,?_⟩
    rw [hget]
    split_ifs
    · rfl
    · exact hsome
  · intro e he
    obtain ⟨hid,hdigest,record,hrecord,hexecution⟩ := hsound.resolutions e he
    refine ⟨hid,hdigest,record,?_,hexecution⟩
    rw [hget]
    have hne : e.1 ≠ request.reservationId := by
      rintro heq
      simp [heq,h.fresh] at hrecord
    rw [if_neg hne,hrecord]

theorem LedgerSound.terminal (hsound : LedgerSound P m) {kind : ExerciseReservationTerminalKind}
    (hreason : exerciseReservationTerminalReasonMatches kind input.reason = true)
    (hreservation : m.reservations.get input.reservationId = some reservation)
    (hnone : m.terminals.get input.reservationId = none) :
    LedgerSound P
      { m with terminals := m.terminals.set input.reservationId (input.event kind) } where
  keyed := hsound.keyed
  wellFormed := hsound.wellFormed
  terminals := by
    simp only [entries_set_of_get_none hnone,mem_append,mem_singleton]
    rintro e (he | rfl)
    · exact hsound.terminals e he
    · exact ⟨rfl,hreason,by simp [hreservation]⟩
  resolutions := hsound.resolutions

theorem LedgerSound.resolved (hsound : LedgerSound P m)
    {input : ExerciseReservationResolutionInput}
    (hinput : isWellFormedExerciseReservationResolutionInput P input = true)
    (hreservation : m.reservations.get input.reservationId = some reservation)
    (hexecution : reservation.executionId = input.executionId)
    (hnone : m.resolutions.get input.reservationId = none) :
    LedgerSound P
      { m with resolutions := m.resolutions.set input.reservationId input.event } where
  keyed := hsound.keyed
  wellFormed := hsound.wellFormed
  terminals := hsound.terminals
  resolutions := by
    simp only [entries_set_of_get_none hnone,mem_append,mem_singleton]
    rintro e (he | rfl)
    · exact hsound.resolutions e he
    · refine ⟨rfl,?_,reservation,hreservation,hexecution⟩
      simp only [isWellFormedExerciseReservationResolutionInput,Bool.and_eq_true] at hinput
      exact hinput.1.2

theorem ledgerSound_effect {c : LedgerCall} {m' : InMemoryLedger} (hsound : LedgerSound P m)
    (h : InMemoryLedger.Effect P m c m') : LedgerSound P m' := by
  cases h with
  | none => exact hsound
  | reserved request now hreserves => exact hsound.reserved hreserves
  | settled input reservation hreason hat hreservation hnone =>
    exact hsound.terminal hreason hreservation hnone
  | released input reservation hreason hat hreservation hnone =>
    exact hsound.terminal hreason hreservation hnone
  | resolved input reservation hinput hreservation hexecution hnone hconsistent =>
    exact hsound.resolved hinput hreservation hexecution hnone

theorem encodes_empty : Encodes P .empty .empty where
  reservations := rfl
  rules := rfl
  terminals := rfl
  resolutions := rfl
  heads := by
    intro limitId scopeKey
    rfl

namespace Database

theorem selectHead_upsertHead (db : Database) (row : HeadRow) (limitId scopeKey : String) :
    (db.upsertHead row).selectHead limitId scopeKey =
      if row.limitId = limitId ∧ row.scopeKey = scopeKey then some row
      else db.selectHead limitId scopeKey := by
  unfold upsertHead
  by_cases hsome : (db.selectHead row.limitId row.scopeKey).isSome = true
  · rw [if_pos hsome]
    simp only [selectHead] at hsome ⊢
    revert hsome
    induction db.heads with
    | nil => intro hsome; simp at hsome
    | cons h heads ih =>
      intro hsome
      by_cases hrow : (h.limitId == row.limitId && h.scopeKey == row.scopeKey) = true
      · simp only [Bool.and_eq_true,beq_iff_eq] at hrow
        by_cases hkey : row.limitId = limitId ∧ row.scopeKey = scopeKey
        · simp [hrow,hkey]
        · have hne : (row.limitId == limitId && row.scopeKey == scopeKey) = false := by
            simpa using hkey
          rw [map_cons,List.find?_cons_of_neg (by simp [hrow,hne]),
            List.find?_cons_of_neg (by simp [hrow,hne]),if_neg hkey]
          clear ih hsome
          induction heads with
          | nil => rfl
          | cons g heads ih =>
            by_cases hg : (g.limitId == row.limitId && g.scopeKey == row.scopeKey) = true
            · have hg' := hg
              simp only [Bool.and_eq_true,beq_iff_eq] at hg'
              rw [map_cons,if_pos hg,List.find?_cons_of_neg (by simp [hne]),
                List.find?_cons_of_neg (by simp [hg',hne]),ih]
            · rw [map_cons,if_neg hg,List.find?_cons,List.find?_cons,ih]
      · have htail := ih (by simpa [List.find?_cons,hrow] using hsome)
        rw [map_cons,if_neg hrow,List.find?_cons,List.find?_cons,htail]
        by_cases hkey : row.limitId = limitId ∧ row.scopeKey = scopeKey
        · have hrow' : (h.limitId == limitId && h.scopeKey == scopeKey) = false := by
            rw [← hkey.1,← hkey.2]
            simpa using hrow
          simp [hkey,hrow']
        · simp only [if_neg hkey]
  · rw [if_neg hsome]
    simp only [selectHead,List.find?_append] at hsome ⊢
    by_cases hkey : row.limitId = limitId ∧ row.scopeKey = scopeKey
    · have hnone : db.heads.find? (fun h => h.limitId == limitId && h.scopeKey == scopeKey) = none := by
        rw [← hkey.1,← hkey.2]
        simpa using hsome
      simp [hnone,hkey]
    · have hne : (row.limitId == limitId && row.scopeKey == scopeKey) = false := by
        simpa using hkey
      simp [hne,hkey]

@[simp] theorem upsertHead_reservations (db : Database) (row : HeadRow) :
    (db.upsertHead row).reservations = db.reservations := by
  unfold upsertHead
  split_ifs <;> rfl

@[simp] theorem upsertHead_rules (db : Database) (row : HeadRow) :
    (db.upsertHead row).rules = db.rules := by
  unfold upsertHead
  split_ifs <;> rfl

@[simp] theorem upsertHead_terminals (db : Database) (row : HeadRow) :
    (db.upsertHead row).terminals = db.terminals := by
  unfold upsertHead
  split_ifs <;> rfl

@[simp] theorem upsertHead_resolutions (db : Database) (row : HeadRow) :
    (db.upsertHead row).resolutions = db.resolutions := by
  unfold upsertHead
  split_ifs <;> rfl

theorem countBucket_append (db : Database) (row : RuleRow) (limitId scopeKey : String) :
    countBucket { db with rules := db.rules ++ [row] } limitId scopeKey = db.countBucket limitId scopeKey +
        if row.limitId = limitId ∧ row.scopeKey = scopeKey then 1 else 0 := by
  simp only [countBucket,bucketRows,filter_append,length_append]
  by_cases hkey : row.limitId = limitId ∧ row.scopeKey = scopeKey
  · simp [hkey]
  · have hne : (row.limitId == limitId && row.scopeKey == scopeKey) = false := by
      simpa using hkey
    simp [hne,hkey]

theorem headsSealed_insert {db : Database} (h : HeadsSealed P db) (row : RuleRow) :
    (({ db with rules := db.rules ++ [row] } : Database).verifiedBucketRowCountAfterInsert
        row.limitId row.scopeKey = .ok (db.countBucket row.limitId row.scopeKey + 1)) ∧
      HeadsSealed P (({ db with rules := db.rules ++ [row] } : Database).upsertHead
        (headRow P row.limitId row.scopeKey (db.countBucket row.limitId row.scopeKey + 1))) := by
  have hnonneg : ∀ limitId scopeKey, 0 ≤ db.countBucket limitId scopeKey := by
    intro limitId scopeKey
    simp [countBucket]
  constructor
  · have hprevious : ((db.selectHead row.limitId row.scopeKey).map (·.ruleRowCount)).getD 0 =
        db.countBucket row.limitId row.scopeKey := by
      rw [h row.limitId row.scopeKey]
      split_ifs with hzero
      · simp [hzero]
      · rfl
    have hcount := countBucket_append db row row.limitId row.scopeKey
    simp only [and_self,if_true] at hcount
    have hselect : (({ db with rules := db.rules ++ [row] } : Database).selectHead row.limitId
        row.scopeKey) = db.selectHead row.limitId row.scopeKey := rfl
    unfold verifiedBucketRowCountAfterInsert
    simp only [hcount,hselect,hprevious]
    simp [ensure,pure,Except.pure]
  · intro limitId scopeKey
    rw [selectHead_upsertHead]
    have hcount : (({ db with rules := db.rules ++ [row] } : Database).upsertHead
        (headRow P row.limitId row.scopeKey (db.countBucket row.limitId row.scopeKey + 1))
        ).countBucket limitId scopeKey =
        countBucket { db with rules := db.rules ++ [row] } limitId scopeKey := by
      simp only [countBucket,bucketRows,upsertHead_rules]
    rw [hcount,countBucket_append]
    by_cases hkey : row.limitId = limitId ∧ row.scopeKey = scopeKey
    · obtain ⟨rfl,rfl⟩ := hkey
      have hpos := hnonneg row.limitId row.scopeKey
      simp only [headRow,and_self,if_true]
      rw [if_neg (by omega)]
    · have hselect : (({ db with rules := db.rules ++ [row] } : Database).selectHead limitId
          scopeKey) = db.selectHead limitId scopeKey := rfl
      rw [if_neg (by simpa [headRow] using hkey),if_neg hkey,hselect,h limitId scopeKey, add_zero]

theorem insertRules_spec (reservationId : String) (reservedAtMs : Int)
    (rules : List ExerciseControlRuleUsage) (ordinal : Int) (db : Database)
    (hheads : HeadsSealed P db) (hrow : (db.selectReservation reservationId).isSome = true)
    (hnodup : (rules.map fun rule => exerciseControlBucketKey rule.limit).Nodup)
    (hfresh : ∀ row ∈ db.rules, row.reservationId = reservationId → row.ordinal < ordinal ∧
      ∀ rule ∈ rules, ¬ (row.limitId = rule.limit.limitId ∧ row.scopeKey = rule.limit.scopeKey)) :
    ∃ heads, insertRules P reservationId reservedAtMs ordinal rules db = .ok { db with
          rules := db.rules ++ ruleRowsFrom P reservationId reservedAtMs ordinal rules
          heads := heads } ∧
      HeadsSealed P { db with
        rules := db.rules ++ ruleRowsFrom P reservationId reservedAtMs ordinal rules
        heads := heads } := by
  induction rules generalizing ordinal db with
  | nil => exact ⟨db.heads,by simp [insertRules,ruleRowsFrom,pure,Except.pure],by
      simpa [ruleRowsFrom] using hheads⟩
  | cons rule rules ih =>
    simp only [map_cons,nodup_cons] at hnodup
    set row := ruleRow P reservationId ordinal rule reservedAtMs with hrowdef
    have hinsert : db.insertRule row = .ok { db with rules := db.rules ++ [row] } := by
      have hany : (db.rules.any fun r => r.reservationId == row.reservationId &&
          (r.ordinal == row.ordinal || (r.limitId == row.limitId && r.scopeKey == row.scopeKey))) =
          false := by
        rw [List.any_eq_false]
        intro r hr hclash
        simp only [Bool.and_eq_true,Bool.or_eq_true,beq_iff_eq] at hclash
        obtain ⟨hlt,hbucket⟩ := hfresh r hr hclash.1
        rcases hclash.2 with hordinal | hsame
        · exact absurd hordinal (ne_of_lt hlt)
        · exact hbucket rule (by simp) hsame
      have hsome : (db.selectReservation row.reservationId).isNone = false := by
        rw [isNone_eq_false_iff]
        exact hrow
      rw [insertRule,hany,hsome]
      rfl
    obtain ⟨hcount,hsealed⟩ := headsSealed_insert hheads row
    set db' := ({ db with rules := db.rules ++ [row] } : Database).upsertHead
      (headRow P row.limitId row.scopeKey (db.countBucket row.limitId row.scopeKey + 1)) with hdb'
    have hrow' : (db'.selectReservation reservationId).isSome = true := by
      simpa [selectReservation,hdb'] using hrow
    have hfresh' : ∀ r ∈ db'.rules, r.reservationId = reservationId → r.ordinal < ordinal + 1 ∧
        ∀ rule' ∈ rules, ¬ (r.limitId = rule'.limit.limitId ∧ r.scopeKey = rule'.limit.scopeKey) := by
      intro r hr hid
      rw [hdb',upsertHead_rules] at hr
      rcases mem_append.1 hr with hold | hnew
      · obtain ⟨hlt,hbucket⟩ := hfresh r hold hid
        exact ⟨by omega,fun rule' hrule' => hbucket rule' (by simp [hrule'])⟩
      · obtain rfl : r = row := by simpa using hnew
        refine ⟨?_,fun rule' hrule' hsame => ?_⟩
        · change ordinal < ordinal + 1
          omega
        · refine hnodup.1 (mem_map.2 ⟨rule',hrule',?_⟩)
          exact (bucketKey_inj.2 hsame).symm
    obtain ⟨heads,hrest,hrestSealed⟩ := ih (ordinal + 1) db' hsealed hrow' hnodup.2 hfresh'
    have hshape : ({ db' with
        rules := db'.rules ++ ruleRowsFrom P reservationId reservedAtMs (ordinal + 1) rules
        heads := heads } : Database) =
        { db with
          rules := db.rules ++ ruleRowsFrom P reservationId reservedAtMs ordinal (rule :: rules)
          heads := heads } := by
      simp [hdb',ruleRowsFrom,hrowdef]
    refine ⟨heads,?_,?_⟩
    · rw [← hshape,← hrest,insertRules,← hrowdef,hinsert]
      simp only [ok_bind]
      have hcount' := hcount
      simp only [hrowdef] at hcount'
      change (verifiedBucketRowCountAfterInsert _ rule.limit.limitId rule.limit.scopeKey >>= _) = _
      rw [show verifiedBucketRowCountAfterInsert { db with rules := db.rules ++ [row] }
        rule.limit.limitId rule.limit.scopeKey = _ from hcount,ok_bind]
      rfl
    · rw [← hshape]
      exact hrestSealed

end Database

theorem recordReservation_ok {record : ExerciseReservationRecord}
    (hwell : isWellFormedExerciseReservation P record = true) (hheads : HeadsSealed P db)
    (hfresh : db.loadVerified P record.reservationId = .ok none)
    (hexecution : ∀ row ∈ db.reservations, row.executionId ≠ record.executionId) :
    ∃ heads, db.recordReservation P record (instantOf P record) = .ok (.reserved record, { db with
          reservations := db.reservations ++ [reservationRow P record (instantOf P record)]
          rules := db.rules ++ ruleRowsOf P record
          heads := heads }) ∧
      HeadsSealed P { db with
        reservations := db.reservations ++ [reservationRow P record (instantOf P record)]
        rules := db.rules ++ ruleRowsOf P record
        heads := heads } := by
  obtain ⟨hbase,hterminal,hresolution,hrules⟩ := Database.loadVerified_eq_none.1 hfresh
  set row := reservationRow P record (instantOf P record) with hrow
  have hinsert : db.insertReservation row = .ok { db with reservations := db.reservations ++ [row] } := by
    have hany : (db.reservations.any fun r => r.reservationId == row.reservationId ||
        r.executionId == row.executionId) = false := by
      rw [List.any_eq_false]
      intro r hr hclash
      simp only [Bool.or_eq_true,beq_iff_eq] at hclash
      rcases hclash with hid | hexec
      · exact List.find?_eq_none.1 hbase r hr (beq_iff_eq.2 hid)
      · exact hexecution r hr hexec
    rw [Database.insertReservation,hany]
    rfl
  have hselect : ({ db with reservations := db.reservations ++ [row] } :
      Database).selectReservation record.reservationId = some row := by
    have hnone : (db.reservations.find? fun r => r.reservationId == record.reservationId) = none :=
      hbase
    simp [Database.selectReservation,hnone,hrow,reservationRow]
  have hempty : db.rules.filter (fun r => r.reservationId == record.reservationId) = [] := by
    have hlength := congrArg List.length hrules
    rw [Database.selectRules,length_insertionSort] at hlength
    exact length_eq_zero_iff.1 hlength
  obtain ⟨heads,hwrite,hsealed⟩ := Database.insertRules_spec (P := P)
    record.reservationId (instantOf P record) record.rules 0
    { db with reservations := db.reservations ++ [row] } hheads (by simp [hselect])
    (rules_of_wellFormed hwell).1.buckets (by
      intro r hr hid
      have hmem : r ∈ db.rules.filter fun r => r.reservationId == record.reservationId :=
        mem_filter.2 ⟨hr,by simpa using hid⟩
      rw [hempty] at hmem
      cases hmem)
  refine ⟨heads,?_,hsealed⟩
  have hown : Database.selectRules { db with
      reservations := db.reservations ++ [row]
      rules := db.rules ++ ruleRowsOf P record
      heads := heads } record.reservationId = ruleRowsOf P record := by
    have hall : (ruleRowsOf P record).filter (fun r => r.reservationId == record.reservationId) =
        ruleRowsOf P record := by
      rw [filter_eq_self]
      intro r hr
      simp [(ruleRowsFrom_reservationId hr).1]
    rw [Database.selectRules,filter_append,hempty,hall,nil_append]
    exact (ruleRowsFrom_sorted _ _ _ _).insertionSort_eq
  have hload : Database.loadVerified P { db with
      reservations := db.reservations ++ [row]
      rules := db.rules ++ ruleRowsOf P record
      heads := heads } record.reservationId = .ok (some ⟨record,none,none⟩) :=
    loadVerified_of_rows hwell hselect hown hterminal hresolution (by simp) (by simp)
  unfold Database.recordReservation
  rw [← hrow,hinsert,ok_bind,hwrite,ok_bind]
  exact (congrArg (· >>= _) hload).trans rfl

theorem Encodes.recordReservation (h : Encodes P m db) (hsound : LedgerSound P m)
    (hreserves : InMemoryLedger.Reserves (P := P) m request now) :
    ∃ db', db.recordReservation P ⟨request,now⟩ ((P.dateParse now).getD 0) =
        .ok (.reserved ⟨request,now⟩, db') ∧
      Encodes P
        { m with reservations := m.reservations.set request.reservationId ⟨request,now⟩ } db' := by
  have hvalues := values_set_of_get_none hreserves.fresh
    (⟨request,now⟩ : ExerciseReservationRecord)
  have hload := h.loadVerified hsound request.reservationId
  rw [verifiedOf,hreserves.fresh] at hload
  obtain ⟨heads,hwrite,hsealed⟩ := recordReservation_ok (wellFormed_of_reserves hreserves)
    h.heads hload (by
      intro row hrow hexecution
      rw [h.reservations] at hrow
      obtain ⟨other,hother,rfl⟩ := mem_map.1 hrow
      exact hreserves.freshExecution other hother hexecution)
  refine ⟨_,hwrite,?_,?_,h.terminals,h.resolutions,hsealed⟩
  · simp only [h.reservations,hvalues,map_append,map_singleton]
  · simp only [h.rules,hvalues,flatMap_append,flatMap_singleton]

/-- Two answers that a caller cannot tell apart: the same answer, or a refusal of the
input or the clock by both. -/
def AnswersAlike : Except LedgerThrow LedgerAnswer → Except LedgerThrow LedgerAnswer → Prop
  | .ok a, .ok b => a = b
  | .error (.typeError _), .error (.ledgerError code _) => code ≠ .stateCorrupt
  | _, _ => False

/-- Answered alike, and the states after the call are again related. -/
def Simulates (P : Platform) (x : Except LedgerThrow (LedgerAnswer × InMemoryLedger))
    (y : Except LedgerThrow (LedgerAnswer × Database)) : Prop :=
  AnswersAlike (x.map Prod.fst) (y.map Prod.fst) ∧
    ∀ a m' b db', x = .ok (a, m') → y = .ok (b, db') → Encodes P m' db'

theorem simulates_ok {a : LedgerAnswer} (h : Encodes P m db) : Simulates P (.ok (a, m)) (.ok (a, db)) := by
  refine ⟨rfl,?_⟩
  rintro _ _ _ _ ⟨⟩ ⟨⟩
  exact h

theorem simulates_error {message message' : String} {code : ExerciseControlLedgerErrorCode}
    (h : code ≠ .stateCorrupt) :
    Simulates P (.error (.typeError message)) (.error (.ledgerError code message')) :=
  ⟨h,by rintro _ _ _ _ ⟨⟩⟩

theorem Encodes.selectReservationIdByExecution (h : Encodes P m db) (executionId : String) :
    (db.selectReservationIdByExecution executionId).isSome =
      m.reservations.values.any fun other => other.executionId == executionId := by
  rw [Database.selectReservationIdByExecution,h.reservations,isSome_map,
    List.find?_map,isSome_map,Bool.eq_iff_iff,List.find?_isSome,List.any_eq_true]
  rfl

theorem reserve_simulates (plan : QueryPlan) (h : Encodes P m db) (hsound : LedgerSound P m)
    (request : ExerciseReservationRequest) (now : String) :
    Simulates P (m.call P (.reserve request now)) (db.call P plan (.reserve request now)) := by
  simp only [InMemoryLedger.call,Database.call]
  by_cases hwell : isWellFormedExerciseReservationRequest P request = true
  · by_cases hinstant : isExerciseReservationInstant P now = true
    · have hload := h.loadVerified hsound request.reservationId
      cases hget : m.reservations.get request.reservationId with
      | some existing =>
        rw [verifiedOf,hget] at hload
        simp only [InMemoryLedger.reserve,Database.reserve,Database.runReserve,hwell,hinstant,
          hget,hload,ensure,Bool.not_true,Bool.false_eq_true,if_false,if_true, map_some,ok_bind]
        split_ifs
        · exact simulates_ok h
        · exact simulates_ok h
      | none =>
        rw [verifiedOf,hget] at hload
        have hexecution := h.selectReservationIdByExecution request.executionId
        by_cases hany : (m.reservations.values.any fun other =>
            other.executionId == request.executionId) = true
        · rw [hany] at hexecution
          simp only [InMemoryLedger.reserve,Database.reserve,Database.runReserve,hwell,
            hinstant,hget,hload,hany,hexecution,ensure,Bool.not_true,Bool.false_eq_true,
            if_false,if_true,map_none,ok_bind]
          exact simulates_ok h
        · rw [Bool.not_eq_true] at hany
          rw [hany] at hexecution
          have hrules := requestRules_of_wellFormed hwell
          choose usages husages hperm using h.activeUsageFor hsound plan
          have hassess : assessExerciseReservationAdmission P request now
              (fun rule => .ok (m.activeUsageFor P rule)) =
              assessExerciseReservationAdmission P request now (db.activeUsageFor P plan) :=
            assess_perm hrules (fun rule _ => rfl) (fun rule _ => husages rule)
              fun rule _ => (hperm rule).symm
          have hlocal := InMemoryLedger.reserve_cases (P := P) m request now
          obtain ⟨admission,hadmission⟩ := assess_ok P now hrules
            fun rule _ => husages rule
          cases admission with
          | refused codes buckets =>
            simp only [InMemoryLedger.reserve,Database.reserve,Database.runReserve,hwell,
              hinstant,hget,hload,hany,hexecution,hassess,hadmission,ensure,Bool.not_true,
              Bool.false_eq_true,if_false,if_true,map_none,ok_bind]
            exact simulates_ok h
          | admitted =>
            have hreserve : m.reserve P request now = .ok (.reserved ⟨request,now⟩,
                { m with reservations :=
                    m.reservations.set request.reservationId ⟨request,now⟩ }) := by
              simp only [InMemoryLedger.reserve,hwell,hinstant,hget,hany,hassess,hadmission,
                Bool.not_true,Bool.false_eq_true,if_false]
            rcases hlocal with ⟨e,herror⟩ | ⟨o,hanswer,hnot⟩ | ⟨hreserves,-⟩
            · simp [hreserve] at herror
            · rw [hreserve] at hanswer
              simp only [Except.ok.injEq,Prod.mk.injEq] at hanswer
              exact absurd hanswer.1.symm (hnot _)
            · obtain ⟨db',hwrite,hencodes⟩ := h.recordReservation hsound hreserves
              simp only [hreserve,Database.reserve,Database.runReserve,hwell,hinstant,hload,
                hexecution,hadmission,hwrite,ensure,Bool.not_true,Bool.false_eq_true,
                if_false,if_true,map_none,ok_bind]
              exact simulates_ok hencodes
    · simp only [InMemoryLedger.reserve,Database.reserve,Database.runReserve,hwell,hinstant,
        ensure,Bool.not_true,Bool.false_eq_true,if_false,Bool.not_false,if_true]
      exact simulates_error (by simp)
  · simp only [InMemoryLedger.reserve,Database.reserve,hwell,Bool.not_false,if_true]
    exact simulates_error (by simp)

theorem Encodes.insertTerminal (h : Encodes P m db) (hsound : LedgerSound P m)
    (kind : ExerciseReservationTerminalKind)
    (hreservation : m.reservations.get input.reservationId = some reservation)
    (hnone : m.terminals.get input.reservationId = none) :
    ∃ db', db.insertTerminal (terminalRow P (input.event kind)) = .ok db' ∧
      Encodes P { m with terminals := m.terminals.set input.reservationId (input.event kind) }
        db' := by
  refine ⟨{ db with terminals := db.terminals ++ [terminalRow P (input.event kind)] },?_,?_⟩
  · have hterminal : db.selectTerminal (terminalRow P (input.event kind)).reservationId = none := by
      rw [show (terminalRow P (input.event kind)).reservationId = input.reservationId from rfl,
        h.selectTerminal hsound,hnone]
      rfl
    have hrow : (db.selectReservation (terminalRow P (input.event kind)).reservationId).isNone = false := by
      rw [show (terminalRow P (input.event kind)).reservationId = input.reservationId from rfl,
        h.selectReservation hsound,hreservation]
      rfl
    rw [Database.insertTerminal,hterminal,hrow]
    rfl
  · refine ⟨h.reservations,h.rules,?_,h.resolutions,h.heads⟩
    simp [values_set_of_get_none hnone,h.terminals]

theorem Encodes.insertResolution (h : Encodes P m db) (hsound : LedgerSound P m)
    {input : ExerciseReservationResolutionInput}
    (hreservation : m.reservations.get input.reservationId = some reservation)
    (hnone : m.resolutions.get input.reservationId = none) :
    ∃ db', db.insertResolution (resolutionRow P input.event) = .ok db' ∧
      Encodes P { m with resolutions := m.resolutions.set input.reservationId input.event }
        db' := by
  refine ⟨{ db with resolutions := db.resolutions ++ [resolutionRow P input.event] },?_,?_⟩
  · have hresolution : db.selectResolution (resolutionRow P input.event).reservationId = none := by
      rw [show (resolutionRow P input.event).reservationId = input.reservationId from rfl,
        h.selectResolution hsound,hnone]
      rfl
    have hrow : (db.selectReservation (resolutionRow P input.event).reservationId).isNone = false := by
      rw [show (resolutionRow P input.event).reservationId = input.reservationId from rfl,
        h.selectReservation hsound,hreservation]
      rfl
    rw [Database.insertResolution,hresolution,hrow]
    rfl
  · refine ⟨h.reservations,h.rules,h.terminals,?_,h.heads⟩
    simp [values_set_of_get_none hnone,h.resolutions]

theorem terminal_simulates (h : Encodes P m db) (hsound : LedgerSound P m)
    (kind : ExerciseReservationTerminalKind) (input : TerminalInput) :
    Simulates P ((m.terminal P kind input).map fun r => (.terminal r.1, r.2))
      ((db.terminal P kind input).map fun r => (.terminal r.1, r.2)) := by
  unfold InMemoryLedger.terminal Database.terminal
  by_cases hinput : (!exerciseReservationTerminalReasonMatches kind input.reason ||
      (P.dateParse input.recordedAt).isNone) = true
  · rw [if_pos hinput,if_pos hinput]
    exact simulates_error (by simp)
  · rw [if_neg hinput,if_neg hinput,Database.runTerminal]
    have hload := h.loadVerified hsound input.reservationId
    cases hreservation : m.reservations.get input.reservationId with
    | none =>
      rw [verifiedOf,hreservation] at hload
      rw [hload]
      exact simulates_ok h
    | some reservation =>
      rw [verifiedOf,hreservation] at hload
      rw [hload]
      cases hterminal : m.terminals.get input.reservationId with
      | some existing => exact simulates_ok h
      | none =>
        have hmatches : exerciseReservationTerminalReasonMatches kind input.reason = true := by
          simp only [Bool.or_eq_true,not_or,Bool.not_eq_true,Bool.not_eq_false'] at hinput
          exact hinput.1
        obtain ⟨db',hinsert,hencodes⟩ := h.insertTerminal hsound kind hreservation hterminal
        have hsound' := hsound.terminal hmatches hreservation hterminal
        have hback := hencodes.loadVerified hsound' input.reservationId
        simp only [verifiedOf,hreservation,get_set_of_get_none hterminal,if_true, map_some] at hback
        simp only [map_some,ok_bind,hinsert,hback]
        exact simulates_ok hencodes

theorem resolution_simulates (h : Encodes P m db) (hsound : LedgerSound P m)
    (input : ExerciseReservationResolutionInput) :
    Simulates P ((m.reconcileResolution P input).map fun r => (.resolution r.1, r.2))
      ((db.reconcileResolution P input).map fun r => (.resolution r.1, r.2)) := by
  unfold InMemoryLedger.reconcileResolution Database.reconcileResolution
  by_cases hinput : isWellFormedExerciseReservationResolutionInput P input = true
  · simp only [hinput,Bool.not_true,Bool.false_eq_true,if_false]
    rw [Database.runResolution]
    have hload := h.loadVerified hsound input.reservationId
    cases hreservation : m.reservations.get input.reservationId with
    | none =>
      rw [verifiedOf,hreservation] at hload
      rw [hload]
      exact simulates_ok h
    | some reservation =>
      rw [verifiedOf,hreservation] at hload
      rw [hload]
      simp only [map_some,ok_bind]
      by_cases hexecution : reservation.executionId = input.executionId
      · simp only [hexecution,ne_eq,not_true_eq_false,if_false]
        cases hresolution : m.resolutions.get input.reservationId with
        | some existing => exact simulates_ok h
        | none =>
          simp only
          split_ifs with hconsistent
          · exact simulates_ok h
          · obtain ⟨db',hinsert,hencodes⟩ := h.insertResolution hsound hreservation hresolution
            have hsound' := hsound.resolved hinput hreservation hexecution hresolution
            have hback := hencodes.loadVerified hsound' input.reservationId
            simp only [verifiedOf,hreservation,get_set_of_get_none hresolution, if_true,map_some] at hback
            simp only [ok_bind,hinsert,hback]
            exact simulates_ok hencodes
      · rw [if_pos hexecution,if_pos hexecution]
        exact simulates_ok h
  · simp only [hinput,Bool.not_false,if_true]
    exact simulates_error (by simp)

theorem call_simulates (plan : QueryPlan) (h : Encodes P m db) (hsound : LedgerSound P m)
    (c : LedgerCall) : Simulates P (m.call P c) (db.call P plan c) := by
  cases c with
  | reserve request now => exact reserve_simulates plan h hsound request now
  | settle input => exact terminal_simulates h hsound .settled input
  | release input => exact terminal_simulates h hsound .released input
  | read reservationId =>
    simp only [InMemoryLedger.call,Database.call,Database.runRead,
      h.loadVerified hsound reservationId,ok_bind]
    have hview : (verifiedOf m reservationId).map (fun v => viewOf v.record v.terminal
        v.resolution) = m.read reservationId := by
      simp [verifiedOf,InMemoryLedger.read,Function.comp_def]
    rw [hview]
    exact simulates_ok h
  | reconcileResolution input => exact resolution_simulates h hsound input

theorem encodes_after (plan : QueryPlan) (h : Encodes P m db) (hsound : LedgerSound P m)
    (c : LedgerCall) : Encodes P (m.after P c) (db.after P plan c) := by
  obtain ⟨halike,hnext⟩ := call_simulates plan h hsound c
  unfold InMemoryLedger.after Database.after
  cases hx : m.call P c with
  | error e =>
    cases hy : db.call P plan c with
    | error e' => exact h
    | ok y => cases e <;> simp [hx,hy,Except.map,AnswersAlike] at halike
  | ok x =>
    cases hy : db.call P plan c with
    | error e' => simp [hx,hy,Except.map,AnswersAlike] at halike
    | ok y => exact hnext x.1 x.2 y.1 y.2 hx hy

theorem ledgerSound_run (calls : List LedgerCall) (hsound : LedgerSound P m) :
    LedgerSound P (m.run P calls) :=
  InMemoryLedger.run_induction hsound (fun _ _ _ => ledgerSound_effect) calls

theorem encodes_run (plan : QueryPlan) (h : Encodes P m db) (hsound : LedgerSound P m)
    (calls : List LedgerCall) : Encodes P (m.run P calls) (db.run P plan calls) := by
  induction calls generalizing m db with
  | nil => exact h
  | cons c calls ih =>
    exact ih (encodes_after plan h hsound c)
      (ledgerSound_effect hsound (InMemoryLedger.effect_after m c))

/-- The answers of a sequence of calls. -/
def InMemoryLedger.answers (P : Platform) (m : InMemoryLedger) :
    List LedgerCall → List (Except LedgerThrow LedgerAnswer)
  | [] => []
  | c :: calls => (m.call P c).map Prod.fst :: (m.after P c).answers P calls

def Database.answers (P : Platform) (plan : QueryPlan) (db : Database) :
    List LedgerCall → List (Except LedgerThrow LedgerAnswer)
  | [] => []
  | c :: calls => (db.call P plan c).map Prod.fst :: (db.after P plan c).answers P plan calls

theorem answers_alike (plan : QueryPlan) (h : Encodes P m db) (hsound : LedgerSound P m)
    (calls : List LedgerCall) :
    List.Forall₂ AnswersAlike (m.answers P calls) (db.answers P plan calls) := by
  induction calls generalizing m db with
  | nil => exact List.Forall₂.nil
  | cons c calls ih =>
    refine List.Forall₂.cons (call_simulates plan h hsound c).1 ?_
    exact ih (encodes_after plan h hsound c)
      (ledgerSound_effect hsound (InMemoryLedger.effect_after m c))

private theorem alike_not_corrupt {xs ys : List (Except LedgerThrow LedgerAnswer)}
    (h : List.Forall₂ AnswersAlike xs ys) (message : String) :
    .error (.ledgerError .stateCorrupt message) ∉ ys := by
  induction h with
  | nil => simp
  | @cons x y xs ys hxy _ ih =>
    rw [mem_cons,not_or]
    refine ⟨?_,ih⟩
    rintro rfl
    cases x with
    | ok a => exact hxy
    | error e => cases e <;> simp [AnswersAlike] at hxy

/-- Refinement: on an empty database the SQLite ledger answers every sequence of calls
as the in-memory ledger does, and never finds its own history corrupt. -/
theorem sqlite_refines_inMemory (P : Platform) (plan : QueryPlan) (calls : List LedgerCall) :
    List.Forall₂ AnswersAlike (InMemoryLedger.empty.answers P calls)
        (Database.empty.answers P plan calls) ∧
      ∀ message, .error (.ledgerError .stateCorrupt message) ∉
        Database.empty.answers P plan calls := by
  have halike := answers_alike (P := P) plan encodes_empty ledgerSound_empty calls
  exact ⟨halike,alike_not_corrupt halike⟩

/-- What one ledger has on record comes first in the other, as it was recorded. -/
structure InMemoryLedger.Extends (m m' : InMemoryLedger) : Prop where
  reservations : m.reservations.values <+: m'.reservations.values
  terminals : m.terminals.values <+: m'.terminals.values
  resolutions : m.resolutions.values <+: m'.resolutions.values

theorem extends_effect {c : LedgerCall} {m' : InMemoryLedger} (h : InMemoryLedger.Effect P m c m') :
    m.Extends m' := by
  have happend {V : Type} {map : OrderedMap String V} {k : String} (v : V) (hnone : map.get k = none) :
      map.values <+: (map.set k v).values := by
    rw [values_set_of_get_none hnone]
    exact prefix_append _ _
  cases h with
  | none => exact ⟨prefix_rfl,prefix_rfl,prefix_rfl⟩
  | reserved request now h => exact ⟨happend _ h.fresh,prefix_rfl,prefix_rfl⟩
  | settled _ _ _ _ _ hnone => exact ⟨prefix_rfl,happend _ hnone,prefix_rfl⟩
  | released _ _ _ _ _ hnone => exact ⟨prefix_rfl,happend _ hnone,prefix_rfl⟩
  | resolved _ _ _ _ _ hnone => exact ⟨prefix_rfl,prefix_rfl,happend _ hnone⟩

/-- No call rewrites or removes a row: the rows of the database at one time are the first ones it
has at any later time. -/
theorem sqlite_rows_only_appended (P : Platform) (plan : QueryPlan) (front back : List LedgerCall) :
    (Database.empty.run P plan front).reservations <+:
        (Database.empty.run P plan (front ++ back)).reservations ∧
      (Database.empty.run P plan front).rules <+: (Database.empty.run P plan (front ++ back)).rules ∧
      (Database.empty.run P plan front).terminals <+:
        (Database.empty.run P plan (front ++ back)).terminals ∧
      (Database.empty.run P plan front).resolutions <+:
        (Database.empty.run P plan (front ++ back)).resolutions := by
  have hencodes (calls : List LedgerCall) := encodes_run (P := P) plan encodes_empty ledgerSound_empty calls
  have hextends : (InMemoryLedger.empty.run P front).Extends (InMemoryLedger.empty.run P (front ++ back)) := by
    rw [InMemoryLedger.run,InMemoryLedger.run,foldl_append]
    exact InMemoryLedger.run_induction (P := P) ⟨prefix_rfl,prefix_rfl,prefix_rfl⟩ (fun s c s' hs heffect =>
      ⟨hs.reservations.trans (extends_effect heffect).reservations,
        hs.terminals.trans (extends_effect heffect).terminals,
        hs.resolutions.trans (extends_effect heffect).resolutions⟩) back
  have h := hencodes front
  have h' := hencodes (front ++ back)
  rw [h.reservations,h.rules,h.terminals,h.resolutions,h'.reservations,h'.rules,h'.terminals, h'.resolutions]
  refine ⟨hextends.reservations.map _,?_,hextends.terminals.map _,hextends.resolutions.map _⟩
  obtain ⟨later,hlater⟩ := hextends.reservations
  rw [← hlater,flatMap_append]
  exact prefix_append _ _

end Frontera.ExerciseControl
