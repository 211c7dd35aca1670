import Frontera.ExerciseControl.Verification

/-! How an in-memory ledger is spelled by the tables of the SQLite ledger, and that a database
holding exactly these rows passes every check: each reservation loads as what was recorded, and each
bucket yields the usage the in-memory ledger counts. -/

namespace Frontera.ExerciseControl

open Frontera.Data Frontera.Text List

variable (P : Platform)

/-- The instant of a reservation in epoch milliseconds. -/
def instantOf (record : ExerciseReservationRecord) : Int :=
  (P.dateParse record.reservedAt).getD 0

def ruleRowsFrom (reservationId : String) (reservedAtMs : Int) :
    Int → List ExerciseControlRuleUsage → List RuleRow
  | _, [] => []
  | ordinal, rule :: rules =>
      ruleRow P reservationId ordinal rule reservedAtMs ::
        ruleRowsFrom reservationId reservedAtMs (ordinal + 1) rules

def ruleRowsOf (record : ExerciseReservationRecord) : List RuleRow :=
  ruleRowsFrom P record.reservationId (instantOf P record) 0 record.rules

/-- Every bucket has the sealed head of its rows, and an empty bucket has none. -/
def HeadsSealed (db : Database) : Prop :=
  ∀ limitId scopeKey, db.selectHead limitId scopeKey = if db.countBucket limitId scopeKey = 0 then none
    else some (headRow P limitId scopeKey (db.countBucket limitId scopeKey))

/-- What every run of the in-memory ledger keeps. -/
structure LedgerSound (m : InMemoryLedger) : Prop where
  keyed : ∀ e ∈ m.reservations.entries, e.2.reservationId = e.1
  wellFormed : ∀ e ∈ m.reservations.entries, isWellFormedExerciseReservation P e.2 = true
  terminals : ∀ e ∈ m.terminals.entries, e.2.reservationId = e.1 ∧
    exerciseReservationTerminalReasonMatches e.2.kind e.2.reason = true ∧
    (m.reservations.get e.1).isSome = true
  resolutions : ∀ e ∈ m.resolutions.entries, e.2.reservationId = e.1 ∧
    isWellFormedExerciseDigest e.2.resolutionDigest = true ∧
    ∃ record, m.reservations.get e.1 = some record ∧ record.executionId = e.2.executionId

/-- The database holds exactly the rows of the ledger. -/
structure Encodes (m : InMemoryLedger) (db : Database) : Prop where
  reservations : db.reservations =
    m.reservations.values.map fun record => reservationRow P record (instantOf P record)
  rules : db.rules = m.reservations.values.flatMap (ruleRowsOf P)
  terminals : db.terminals = m.terminals.values.map (terminalRow P)
  resolutions : db.resolutions = m.resolutions.values.map (resolutionRow P)
  heads : HeadsSealed P db

variable {P}

variable {n : Int} {rules : List ExerciseControlRuleUsage} {record : ExerciseReservationRecord}

theorem integerValue_toString (hn : 0 ≤ n) : integerValue (toString n).toList = n := by
  obtain ⟨k,rfl⟩ := Int.eq_ofNat_of_zero_le hn
  have htext : (toString (k : Int)).toList = Nat.toDigits 10 k := by
    change (toString k).toList = _
    rw [Nat.toString_eq_repr,Nat.toList_repr]
  rw [htext]
  unfold integerValue
  split
  · rename_i digits hdigits
    have hminus : ('-' : Char).isDigit = true :=
      Nat.isDigit_of_mem_toDigits (b := 10) (n := k) (by decide) (by decide)
        (by rw [hdigits]; simp)
    exact absurd hminus (by decide)
  · rw [Nat.ofDigitChars_ten_toDigits]

theorem safeIntegerOf_toString (hn : 0 ≤ n) (hsafe : isSafeInteger n = true) :
    safeIntegerOf (toString n) = some n := by
  simp only [safeIntegerOf,integerValue_toString hn,hsafe,and_self,if_true]

theorem windowOf_ruleRow (reservationId : String) (ordinal : Int)
    (rule : ExerciseControlRuleUsage) (reservedAtMs : Int) :
    windowOf (ruleRow P reservationId ordinal rule reservedAtMs) = some rule.limit.window := by
  unfold windowOf ruleRow
  cases rule.limit.window <;>
    simp [ExerciseControlWindow.kindText,ExerciseControlWindow.seconds?]

theorem limitOf_ruleRow {rule : ExerciseControlRuleUsage} (h : LimitWellFormed rule.limit)
    (reservationId : String) (ordinal reservedAtMs : Int) :
    limitOf (ruleRow P reservationId ordinal rule reservedAtMs) = some rule.limit := by
  unfold limitOf
  rw [windowOf_ruleRow]
  obtain ⟨⟨limitId,scopeKey,measure,window⟩,usage⟩ := rule
  cases measure with
  | count maximum =>
    have hpos := h.count_pos maximum rfl
    have hsafe := h.count_safe maximum rfl
    have hnumber := safeIntegerOf_toString (by omega) hsafe
    simp only [ruleRow,ExerciseControlLimit.metric,ExerciseControlMetric.text,
      ExerciseControlLimit.unit,ExerciseControlLimit.maximumText,hnumber]
    simp
  | amount maximum unit =>
    simp [ruleRow,ExerciseControlLimit.metric,ExerciseControlMetric.text,
      ExerciseControlLimit.unit,ExerciseControlLimit.maximumText]

theorem verifiedRules_ruleRowsFrom (h : ∀ rule ∈ rules, LimitWellFormed rule.limit)
    (reservationId : String) (reservedAtMs ordinal : Int) :
    Database.verifiedRules P reservationId reservedAtMs ordinal
      (ruleRowsFrom P reservationId reservedAtMs ordinal rules) = .ok rules := by
  induction rules generalizing ordinal with
  | nil => rfl
  | cons rule rules ih =>
    refine Database.verifiedRules_cons.2 ⟨rule,rules,rfl,?_,?_⟩
    · refine Database.verifiedRule_eq_ok.2 ⟨rfl,rfl,rfl,?_,rfl,rfl⟩
      exact limitOf_ruleRow (h rule (by simp)) _ _ _
    · exact ih (fun r hr => h r (by simp [hr])) _

theorem ruleRowsFrom_length (reservationId : String) (reservedAtMs ordinal : Int)
    (rules : List ExerciseControlRuleUsage) :
    (ruleRowsFrom P reservationId reservedAtMs ordinal rules).length = rules.length := by
  induction rules generalizing ordinal with
  | nil => rfl
  | cons rule rules ih => simp [ruleRowsFrom,ih]

theorem ruleRowsFrom_reservationId {reservationId : String} {reservedAtMs ordinal : Int}
    {row : RuleRow} (h : row ∈ ruleRowsFrom P reservationId reservedAtMs ordinal rules) :
    row.reservationId = reservationId ∧ ordinal ≤ row.ordinal ∧
      ∃ rule ∈ rules, row.limitId = rule.limit.limitId ∧ row.scopeKey = rule.limit.scopeKey := by
  induction rules generalizing ordinal with
  | nil => simp [ruleRowsFrom] at h
  | cons rule rules ih =>
    rcases mem_cons.1 h with rfl | htail
    · exact ⟨rfl,le_refl _,rule,by simp,rfl,rfl⟩
    · obtain ⟨hid,hordinal,r,hr,hbucket⟩ := ih htail
      exact ⟨hid,by omega,r,by simp [hr],hbucket⟩

theorem ruleRowsFrom_sorted (reservationId : String) (reservedAtMs ordinal : Int)
    (rules : List ExerciseControlRuleUsage) :
    (ruleRowsFrom P reservationId reservedAtMs ordinal rules).Pairwise
      fun a b => a.ordinal ≤ b.ordinal := by
  induction rules generalizing ordinal with
  | nil => exact List.Pairwise.nil
  | cons rule rules ih =>
    refine List.Pairwise.cons ?_ (ih _)
    intro row hrow
    have hordinal := (ruleRowsFrom_reservationId hrow).2.1
    change ordinal ≤ row.ordinal
    omega

theorem rules_of_wellFormed (h : isWellFormedExerciseReservation P record = true) :
    RequestRules record.toExerciseReservationRequest ∧
      P.dateParse record.reservedAt = some (instantOf P record) := by
  simp only [isWellFormedExerciseReservation,isExerciseReservationInstant,Bool.and_eq_true] at h
  refine ⟨requestRules_of_wellFormed h.2,?_⟩
  obtain ⟨ms,hms⟩ := Option.isSome_iff_exists.1 h.1.2
  simp [instantOf,hms]

theorem verifiedRecord_rows (h : isWellFormedExerciseReservation P record = true) :
    Database.verifiedRecord P record.reservationId
      (reservationRow P record (instantOf P record)) (ruleRowsOf P record) = .ok record := by
  obtain ⟨hrules,hinstant⟩ := rules_of_wellFormed h
  have hbounded := hrules.bounded
  refine Database.verifiedRecord_eq_ok.2 ⟨rfl,hinstant,?_,?_,?_,rfl,rfl,h⟩
  · rw [isSafeInteger_iff]
    simp only [exerciseControlMaximumLimits] at hbounded
    simp only [reservationRow]
    omega
  · simp [ruleRowsOf,ruleRowsFrom_length,reservationRow]
  · exact verifiedRules_ruleRowsFrom hrules.limits _ _ _

theorem verifiedTerminal_row {event : ExerciseReservationTerminalEvent}
    (h : exerciseReservationTerminalReasonMatches event.kind event.reason = true) :
    Database.verifiedTerminal P event.reservationId (terminalRow P event) = .ok event :=
  Database.verifiedTerminal_eq_ok.2
    ⟨rfl,by simp [terminalRow],by simp [terminalRow],h,rfl,rfl⟩

theorem verifiedResolution_row {event : ExerciseReservationResolutionEvent}
    (h : isWellFormedExerciseDigest event.resolutionDigest = true) :
    Database.verifiedResolution P event.reservationId event.executionId (resolutionRow P event) =
      .ok event :=
  Database.verifiedResolution_eq_ok.2 ⟨rfl,by simp [resolutionRow],h,rfl,rfl,rfl⟩

theorem loadVerified_of_rows {db : Database} {terminal : Option ExerciseReservationTerminalEvent}
    {resolution : Option ExerciseReservationResolutionEvent}
    (hwell : isWellFormedExerciseReservation P record = true)
    (hrow : db.selectReservation record.reservationId = some (reservationRow P record (instantOf P record)))
    (hrules : db.selectRules record.reservationId = ruleRowsOf P record)
    (hterminal : db.selectTerminal record.reservationId = terminal.map (terminalRow P))
    (hresolution : db.selectResolution record.reservationId = resolution.map (resolutionRow P))
    (hterminalOk : ∀ event, terminal = some event → event.reservationId = record.reservationId ∧ exerciseReservationTerminalReasonMatches event.kind event.reason = true)
    (hresolutionOk : ∀ event, resolution = some event → event.reservationId = record.reservationId ∧ event.executionId = record.executionId ∧ isWellFormedExerciseDigest event.resolutionDigest = true) :
    db.loadVerified P record.reservationId = .ok (some ⟨record,terminal,resolution⟩) := by
  refine Database.loadVerified_eq_some.2 ⟨_,hrow,?_,?_,?_⟩
  · rw [hrules]
    exact verifiedRecord_rows hwell
  · rw [hresolution]
    cases resolution with
    | none => rfl
    | some event =>
      obtain ⟨hid,hexecution,hdigest⟩ := hresolutionOk event rfl
      refine Database.verifiedOptional_eq_some.2 ⟨_,rfl,?_⟩
      rw [← hid]
      have hverified := verifiedResolution_row (P := P) hdigest
      rw [hexecution] at hverified
      exact hverified
  · rw [hterminal]
    cases terminal with
    | none => rfl
    | some event =>
      obtain ⟨hid,hmatches⟩ := hterminalOk event rfl
      refine Database.verifiedOptional_eq_some.2 ⟨_,rfl,?_⟩
      rw [← hid]
      exact verifiedTerminal_row hmatches

variable {m : InMemoryLedger} {db : Database}

section

variable (h : Encodes P m db) (hsound : LedgerSound P m)
include h hsound

theorem Encodes.selectReservation (id : String) : db.selectReservation id =
      (m.reservations.get id).map fun record => reservationRow P record (instantOf P record) := by
  rw [Database.selectReservation,h.reservations]
  exact OrderedMap.find?_map_values (g := ReservationRow.reservationId)
    (f := fun record => reservationRow P record (instantOf P record)) hsound.keyed id

theorem Encodes.selectRules (id : String) :
    db.selectRules id = ((m.reservations.get id).map (ruleRowsOf P)).getD [] := by
  have hfilter := OrderedMap.filter_flatMap_values (f := ruleRowsOf P)
    (g := RuleRow.reservationId) (m := m.reservations) (fun e he row hrow =>
      (ruleRowsFrom_reservationId hrow).1.trans (hsound.keyed e he)) id
  rw [Database.selectRules,h.rules,hfilter]
  apply List.Pairwise.insertionSort_eq
  cases m.reservations.get id with
  | none => exact List.Pairwise.nil
  | some record => exact ruleRowsFrom_sorted _ _ _ _

theorem Encodes.selectTerminal (id : String) :
    db.selectTerminal id = (m.terminals.get id).map (terminalRow P) := by
  rw [Database.selectTerminal,h.terminals]
  exact OrderedMap.find?_map_values (f := terminalRow P) (g := TerminalRow.reservationId)
    (fun e he => (hsound.terminals e he).1) id

theorem Encodes.selectResolution (id : String) :
    db.selectResolution id = (m.resolutions.get id).map (resolutionRow P) := by
  rw [Database.selectResolution,h.resolutions]
  exact OrderedMap.find?_map_values (f := resolutionRow P) (g := ResolutionRow.reservationId)
    (fun e he => (hsound.resolutions e he).1) id

end

variable {id : String} {record : ExerciseReservationRecord} {bucket : String}

section

variable (hsound : LedgerSound P m)
include hsound

theorem LedgerSound.get_reservationId (h : m.reservations.get id = some record) :
    record.reservationId = id :=
  hsound.keyed _ (OrderedMap.get_eq_some_iff.1 h)

theorem LedgerSound.get_wellFormed (h : m.reservations.get id = some record) :
    isWellFormedExerciseReservation P record = true :=
  hsound.wellFormed _ (OrderedMap.get_eq_some_iff.1 h)

theorem LedgerSound.get_terminal {event : ExerciseReservationTerminalEvent}
    (h : m.terminals.get id = some event) :
    event.reservationId = id ∧ exerciseReservationTerminalReasonMatches event.kind event.reason = true ∧
      (m.reservations.get id).isSome = true :=
  hsound.terminals _ (OrderedMap.get_eq_some_iff.1 h)

theorem LedgerSound.get_resolution {event : ExerciseReservationResolutionEvent}
    (h : m.resolutions.get id = some event) :
    event.reservationId = id ∧ isWellFormedExerciseDigest event.resolutionDigest = true ∧
      ∃ record, m.reservations.get id = some record ∧ record.executionId = event.executionId :=
  hsound.resolutions _ (OrderedMap.get_eq_some_iff.1 h)

end

/-- What the ledger holds for an id, as verification answers it. -/
def verifiedOf (m : InMemoryLedger) (id : String) : Option VerifiedReservation :=
  (m.reservations.get id).map fun record =>
    ⟨record,m.terminals.get id,m.resolutions.get id⟩

theorem Encodes.loadVerified (h : Encodes P m db) (hsound : LedgerSound P m) (id : String) :
    db.loadVerified P id = .ok (verifiedOf m id) := by
  cases hget : m.reservations.get id with
  | none =>
    have hterminal : m.terminals.get id = none := by
      by_contra hsome
      obtain ⟨event,hevent⟩ := Option.ne_none_iff_exists'.1 hsome
      simpa [hget] using (hsound.get_terminal hevent).2.2
    have hresolution : m.resolutions.get id = none := by
      by_contra hsome
      obtain ⟨event,hevent⟩ := Option.ne_none_iff_exists'.1 hsome
      obtain ⟨record,hrecord,-⟩ := (hsound.get_resolution hevent).2.2
      simp [hget] at hrecord
    rw [verifiedOf,hget]
    refine Database.loadVerified_eq_none.2 ⟨?_,?_,?_,?_⟩
    · rw [h.selectReservation hsound,hget]; rfl
    · rw [h.selectTerminal hsound,hterminal]; rfl
    · rw [h.selectResolution hsound,hresolution]; rfl
    · rw [h.selectRules hsound,hget]; rfl
  | some record =>
    obtain rfl := hsound.get_reservationId hget
    rw [verifiedOf,hget]
    refine loadVerified_of_rows (hsound.get_wellFormed hget) ?_ ?_ (h.selectTerminal hsound _)
      (h.selectResolution hsound _) ?_ ?_
    · rw [h.selectReservation hsound,hget]; rfl
    · rw [h.selectRules hsound,hget]; rfl
    · intro event hevent
      obtain ⟨hid,hmatches,-⟩ := hsound.get_terminal hevent
      exact ⟨hid,hmatches⟩
    · intro event hevent
      obtain ⟨hid,hdigest,record',hrecord',hexecution⟩ := hsound.get_resolution hevent
      obtain rfl : record = record' := by simpa [hget] using hrecord'
      exact ⟨hid,hexecution.symm,hdigest⟩

/-- The reservation names the bucket. -/
def namesBucket (bucket : String) (record : ExerciseReservationRecord) : Bool :=
  record.rules.any fun rule => exerciseControlBucketKey rule.limit == bucket

theorem ruleRowsFrom_bucket {rules : List ExerciseControlRuleUsage}
    (hnodup : (rules.map fun rule => exerciseControlBucketKey rule.limit).Nodup)
    (reservationId : String) (reservedAtMs ordinal : Int) (limitId scopeKey : String) :
    ((ruleRowsFrom P reservationId reservedAtMs ordinal rules).filter fun row =>
        row.limitId == limitId && row.scopeKey == scopeKey).map (·.reservationId) =
      if rules.any fun rule => exerciseControlBucketKey rule.limit == bucketKey limitId scopeKey
      then [reservationId] else [] := by
  induction rules generalizing ordinal with
  | nil => rfl
  | cons rule rules ih =>
    simp only [map_cons,nodup_cons] at hnodup
    have hrest := ih hnodup.2 (ordinal + 1)
    simp only [ruleRowsFrom,any_cons]
    by_cases hbucket : exerciseControlBucketKey rule.limit = bucketKey limitId scopeKey
    · obtain ⟨hlimit,hscope⟩ := bucketKey_inj.1 hbucket
      have hnone : (rules.any fun r =>
          exerciseControlBucketKey r.limit == bucketKey limitId scopeKey) = false := by
        rw [any_eq_false]
        intro r hr hkey
        refine hnodup.1 (mem_map.2 ⟨r,hr,?_⟩)
        rw [hbucket]
        simpa using hkey
      rw [hnone] at hrest
      rw [filter_cons_of_pos (by simp [ruleRow,hlimit,hscope]),map_cons,hrest]
      simp [hbucket,ruleRow]
    · have hout : ¬ (rule.limit.limitId = limitId ∧ rule.limit.scopeKey = scopeKey) :=
        fun hboth => hbucket (bucketKey_inj.2 hboth)
      rw [filter_cons_of_neg (by simpa [ruleRow] using hout),hrest]
      simp [hbucket]

theorem Encodes.bucketIds (h : Encodes P m db) (hsound : LedgerSound P m)
    (limitId scopeKey : String) :
    (db.bucketRows limitId scopeKey).map (·.reservationId) =
      (m.reservations.values.filter (namesBucket (bucketKey limitId scopeKey))).map
        (·.reservationId) := by
  have hwell : ∀ record ∈ m.reservations.values, RequestRules record.toExerciseReservationRequest := by
    intro record hrecord
    obtain ⟨id,hget⟩ := OrderedMap.mem_values_iff.1 hrecord
    exact (rules_of_wellFormed (hsound.get_wellFormed hget)).1
  rw [Database.bucketRows,h.rules]
  revert hwell
  induction m.reservations.values with
  | nil => intro _; rfl
  | cons record records ih =>
    intro hwell
    have hhead := ruleRowsFrom_bucket (P := P) (hwell record (by simp)).buckets
      record.reservationId (instantOf P record) 0 limitId scopeKey
    rw [flatMap_cons,filter_append,map_append,ruleRowsOf,hhead, ih fun r hr => hwell r (by simp [hr])]
    by_cases hnames : namesBucket (bucketKey limitId scopeKey) record = true
    · rw [filter_cons_of_pos hnames,map_cons]
      rw [namesBucket] at hnames
      rw [if_pos hnames,singleton_append]
    · rw [filter_cons_of_neg hnames]
      rw [namesBucket] at hnames
      rw [if_neg hnames,nil_append]

theorem LedgerSound.reservationIds (hsound : LedgerSound P m) :
    m.reservations.values.map (·.reservationId) = m.reservations.keys := by
  rw [OrderedMap.values,OrderedMap.keys,map_map]
  exact map_congr_left fun e he => hsound.keyed e he

theorem LedgerSound.bucketIds_nodup (hsound : LedgerSound P m) (bucket : String) :
    ((m.reservations.values.filter (namesBucket bucket)).map (·.reservationId)).Nodup := by
  have hall : (m.reservations.values.map (·.reservationId)).Nodup := by
    rw [hsound.reservationIds]
    exact m.reservations.nodup
  exact hall.sublist (filter_sublist.map _)

theorem LedgerSound.get_of_mem (hsound : LedgerSound P m) (h : record ∈ m.reservations.values) :
    m.reservations.get record.reservationId = some record := by
  obtain ⟨id,hget⟩ := OrderedMap.mem_values_iff.1 h
  rw [hsound.get_reservationId hget,hget]

theorem candidateUsage_of_load (hnames : namesBucket bucket record = true)
    (hload : db.loadVerified P record.reservationId = .ok (some ⟨record,m.terminals.get record.reservationId,m.resolutions.get record.reservationId⟩)) :
    db.candidateUsage P bucket record.reservationId = .ok (m.usageEntry P bucket record) := by
  refine Database.candidateUsage_eq_ok.2 ⟨_,hload,?_⟩
  unfold InMemoryLedger.usageEntry InMemoryLedger.consumes
  cases hconsumes : exerciseReservationConsumes (m.terminals.get record.reservationId)
      (m.resolutions.get record.reservationId) with
  | false => exact .inl ⟨rfl,rfl⟩
  | true =>
    have hsome : (record.rules.find? fun candidate =>
        exerciseControlBucketKey candidate.limit == bucket).isSome = true := by
      rw [List.find?_isSome]
      simpa [namesBucket] using hnames
    obtain ⟨recorded,hrecorded⟩ := Option.isSome_iff_exists.1 hsome
    exact .inr ⟨rfl,recorded,hrecorded,by simp [hrecorded]⟩

theorem usageEntry_of_not_names (h : namesBucket bucket record = false) :
    m.usageEntry P bucket record = none := by
  unfold InMemoryLedger.usageEntry
  have hnone : (record.rules.find? fun entry =>
      exerciseControlBucketKey entry.limit == bucket) = none := by
    rw [List.find?_eq_none]
    simpa [namesBucket] using h
  simp [hnone]

theorem Encodes.verifiedBucketRowCount (h : Encodes P m db) (limitId scopeKey : String) :
    db.verifiedBucketRowCount P limitId scopeKey = .ok (db.countBucket limitId scopeKey) := by
  refine Database.verifiedBucketRowCount_eq_ok.2 ⟨rfl,?_⟩
  have hhead := h.heads limitId scopeKey
  by_cases hzero : db.countBucket limitId scopeKey = 0
  · exact .inl ⟨by rw [hhead,if_pos hzero],hzero⟩
  · exact .inr ⟨_,by rw [hhead,if_neg hzero],rfl,rfl,rfl⟩

theorem Encodes.activeUsageFor (h : Encodes P m db) (hsound : LedgerSound P m)
    (plan : QueryPlan) (rule : ExerciseControlRuleUsage) :
    ∃ usages, db.activeUsageFor P plan rule = .ok usages ∧ usages.Perm (m.activeUsageFor P rule) := by
  set bucket := exerciseControlBucketKey rule.limit with hbucket
  set ids := (m.reservations.values.filter (namesBucket bucket)).map (·.reservationId) with hids
  have hselect : db.selectBucket plan rule.limit.limitId rule.limit.scopeKey = plan.arrange db ids := by
    rw [Database.selectBucket,h.bucketIds hsound]
    exact congrArg _ (hsound.bucketIds_nodup bucket).dedup
  set entry : String → Option ExerciseControlActiveUsage := fun id =>
    (m.reservations.get id).bind (m.usageEntry P bucket) with hentry
  have hcandidates : ∀ id ∈ plan.arrange db ids, db.candidateUsage P bucket id = .ok (entry id) := by
    intro id hid
    obtain ⟨record,hrecord,rfl⟩ := mem_map.1 ((plan.perm db ids).mem_iff.1 hid)
    obtain ⟨hmem,hnames⟩ := mem_filter.1 hrecord
    have hget := hsound.get_of_mem hmem
    have hload := h.loadVerified hsound record.reservationId
    rw [verifiedOf,hget] at hload
    rw [candidateUsage_of_load hnames hload,hentry]
    simp only [hget,Option.bind_some]
  refine ⟨(plan.arrange db ids).filterMap entry,?_,?_⟩
  · refine Database.activeUsageFor_eq_ok.2 ⟨⟨_,h.verifiedBucketRowCount _ _⟩,?_⟩
    rw [hselect]
    exact Database.candidatesUsage_eq_ok.2 ⟨entry,hcandidates,rfl⟩
  · refine ((plan.perm db ids).filterMap entry).trans (List.Perm.of_eq ?_)
    rw [hids,filterMap_map,InMemoryLedger.activeUsageFor,← hbucket,filterMap_filter]
    refine filterMap_congr fun record hrecord => ?_
    by_cases hnames : namesBucket bucket record = true
    · simp [hnames,hentry,hsound.get_of_mem hrecord]
    · rw [if_neg hnames,usageEntry_of_not_names (by simpa using hnames)]

end Frontera.ExerciseControl
