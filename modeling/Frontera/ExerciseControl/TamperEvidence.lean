import Frontera.Data.AdmittedSequence
import Frontera.ExerciseControl.LedgerRefinement
import Mathlib.Data.List.Perm.Subperm

/-! A row of the durable ledger is deleted, or edited without recomputing its digest. Whatever still
verifies is what was written, so a bucket that still answers counts all the usage it counted before.
The one exception is a reservation that consumes because its terminal event and its resolution
contradict each other: once one of the two rows is gone the other is believed. -/

namespace Frontera.ExerciseControl

open Frontera.Data Frontera.Text List Database Option

/-- One row of a table is deleted, or edited to a row that `kept` allows. -/
inductive RowChange {α : Type} (kept : α → α → Prop) : List α → List α → Prop
  | delete (before : List α) (row : α) (after : List α) :
      RowChange kept (before ++ row :: after) (before ++ after)
  | edit (before : List α) (row row' : α) (after : List α) (h : kept row row') :
      RowChange kept (before ++ row :: after) (before ++ row' :: after)

theorem RowChange.mem {α : Type} {kept : α → α → Prop} (hrefl : ∀ row, kept row row)
    {rows rows' : List α} (h : RowChange kept rows rows') {row' : α} (hmem : row' ∈ rows') :
    ∃ row ∈ rows, kept row row' := by
  cases h with
  | delete before row after =>
    refine ⟨row',?_,hrefl row'⟩
    rw [mem_append] at hmem
    simp only [mem_append,mem_cons]
    tauto
  | edit before row edited after hkept =>
    simp only [mem_append,mem_cons] at hmem
    rcases hmem with hbefore | rfl | hafter
    · exact ⟨row',by simp [hbefore],hrefl row'⟩
    · exact ⟨row,by simp,hkept⟩
    · exact ⟨row',by simp [hafter],hrefl row'⟩

variable (P : Platform)

def ReservationRow.resealed (row : ReservationRow) : String :=
  P.digestOf (serializeStoredReservation (recordOf row []) row.ruleCount)

def RuleRow.resealed (row : RuleRow) : Option String :=
  (limitOf row).map fun limit =>
    storedRuleDigest P row.reservationId row.ordinal ⟨limit,row.usage⟩ row.reservedAtMs

def TerminalRow.resealed (row : TerminalRow) : Option String :=
  (ExerciseReservationTerminalKind.ofText row.terminalKind).bind fun kind =>
    (ExerciseReservationTerminalReason.ofText row.reason).map fun reason =>
      storedTerminalEventDigest P ⟨row.reservationId,kind,reason,row.recordedAt⟩

def ResolutionRow.resealed (row : ResolutionRow) : Option String :=
  (ExerciseReservationResolution.ofText row.resolution).map fun resolution =>
    storedResolutionEventDigest P ⟨row.reservationId,row.executionId,row.resolutionDigest,
      resolution,row.recordedAt⟩

def HeadRow.resealed (row : HeadRow) : String :=
  storedBucketHeadDigest P row.limitId row.scopeKey row.ruleRowCount

/-- The digest column is as it was, or it is not the digest of the row's columns. -/
def ReservationRow.Kept (row row' : ReservationRow) : Prop :=
  row'.recordDigest = row.recordDigest ∨ row'.recordDigest ≠ row'.resealed P

def RuleRow.Kept (row row' : RuleRow) : Prop :=
  row'.ruleDigest = row.ruleDigest ∨ some row'.ruleDigest ≠ row'.resealed P

def TerminalRow.Kept (row row' : TerminalRow) : Prop :=
  row'.eventDigest = row.eventDigest ∨ some row'.eventDigest ≠ row'.resealed P

def ResolutionRow.Kept (row row' : ResolutionRow) : Prop :=
  row'.eventDigest = row.eventDigest ∨ some row'.eventDigest ≠ row'.resealed P

def HeadRow.Kept (row row' : HeadRow) : Prop :=
  row'.headDigest = row.headDigest ∨ row'.headDigest ≠ row'.resealed P

/-- One row of one table was deleted, or edited without recomputing its digest. -/
inductive Tampered (db : Database) : Database → Prop
  | reservations (rows : List ReservationRow)
      (h : RowChange (ReservationRow.Kept P) db.reservations rows) :
      Tampered db { db with reservations := rows }
  | rules (rows : List RuleRow) (h : RowChange (RuleRow.Kept P) db.rules rows) :
      Tampered db { db with rules := rows }
  | terminals (rows : List TerminalRow)
      (h : RowChange (TerminalRow.Kept P) db.terminals rows) :
      Tampered db { db with terminals := rows }
  | resolutions (rows : List ResolutionRow)
      (h : RowChange (ResolutionRow.Kept P) db.resolutions rows) :
      Tampered db { db with resolutions := rows }
  | heads (rows : List HeadRow) (h : RowChange (HeadRow.Kept P) db.heads rows) :
      Tampered db { db with heads := rows }

/-- The change takes one of two contradicting rows from its reservation: the terminal
row of one settled `executed` beside a not-completed resolution, or the resolution row
of one released beside a completed resolution. -/
def HidesContradiction (db db' : Database) : Prop :=
  (∃ t ∈ db.terminals, ∃ r ∈ db.resolutions, t.reservationId = r.reservationId ∧
    t.terminalKind = "settled" ∧ t.reason = "executed" ∧
    r.resolution = "confirmed-not-completed" ∧ db'.selectTerminal t.reservationId = none) ∨
  (∃ t ∈ db.terminals, ∃ r ∈ db.resolutions, t.reservationId = r.reservationId ∧
    t.terminalKind = "released" ∧ r.resolution = "confirmed-completed" ∧
    db'.selectResolution r.reservationId = none)

variable {P}

section Sealed

variable (hsha : Function.Injective P.sha256)
include hsha

theorem digestOf_eq {a b : String} (h : P.digestOf a = P.digestOf b) : a = b :=
  Platform.digestOf_injective hsha h

theorem verifiedTerminal_kept {event event' : ExerciseReservationTerminalEvent}
    {row : TerminalRow} (hkept : TerminalRow.Kept P (terminalRow P event) row)
    (h : verifiedTerminal P row.reservationId row = .ok event') : event' = event := by
  obtain ⟨-,hkind,hreason,-,hevent,hdigest⟩ := verifiedTerminal_eq_ok.1 h
  have hsealed : row.resealed P = some row.eventDigest := by
    rw [TerminalRow.resealed,hkind,hreason,← hdigest]
    simp only [bind_some,map_some]
    rw [← hevent]
  rcases hkept with hsame | hdiffer
  · apply serializeStoredTerminalEvent_inj
    apply digestOf_eq hsha
    exact hdigest.trans hsame
  · exact absurd hsealed.symm hdiffer

theorem verifiedResolution_kept {event event' : ExerciseReservationResolutionEvent}
    {executionId : String} {row : ResolutionRow}
    (hkept : ResolutionRow.Kept P (resolutionRow P event) row)
    (h : verifiedResolution P row.reservationId executionId row = .ok event') :
    event' = event := by
  obtain ⟨-,hresolution,-,-,hevent,hdigest⟩ := verifiedResolution_eq_ok.1 h
  have hsealed : row.resealed P = some row.eventDigest := by
    rw [ResolutionRow.resealed,hresolution,← hdigest]
    simp only [map_some]
    rw [← hevent]
  rcases hkept with hsame | hdiffer
  · apply serializeStoredResolutionEvent_inj
    apply digestOf_eq hsha
    exact hdigest.trans hsame
  · exact absurd hsealed.symm hdiffer

theorem verifiedRecord_kept {record record' : ExerciseReservationRecord} {ms : Int}
    {row : ReservationRow} {ruleRows : List RuleRow}
    (hkept : ReservationRow.Kept P (reservationRow P record ms) row)
    (h : verifiedRecord P row.reservationId row ruleRows = .ok record') :
    record' = { record with rules := record'.rules } := by
  obtain ⟨-,-,-,hcount,hrules,hrecord,hdigest,-⟩ := verifiedRecord_eq_ok.1 h
  have hlength := verifiedRules_length hrules
  have hsealed : row.resealed P = row.recordDigest := by
    rw [← hdigest,ReservationRow.resealed,storedReservationDigest,hlength,hcount]
    conv_rhs => rw [hrecord]
    rfl
  rcases hkept with hsame | hdiffer
  · have hserial := digestOf_eq hsha (hdigest.trans hsame)
    obtain ⟨hauthority,hgrant,hexecution,hpolicy,hrequest,hid,hat,-⟩ :=
      serializeStoredReservation_inj hserial
    obtain ⟨⟨id,execution,grant,request,policy,authority,rules⟩,reservedAt⟩ := record'
    simp only at hauthority hgrant hexecution hpolicy hrequest hid hat
    subst hauthority hgrant hexecution hpolicy hrequest hid hat
    rfl
  · exact absurd hsealed.symm hdiffer

end Sealed

variable {row : RuleRow} {reservationId : String} {ordinal ms ms' : Int}

theorem limitOf_columns {limit : ExerciseControlLimit} (h : limitOf row = some limit) :
    row.limitId = limit.limitId ∧ row.scopeKey = limit.scopeKey ∧
      row.metric = limit.metric.text ∧ row.maximum = limit.maximumText ∧ row.unit = limit.unit ∧
      row.windowKind = limit.window.kindText ∧ row.windowSeconds = limit.window.seconds? := by
  have hwindow : ∀ window, windowOf row = some window → row.windowKind = window.kindText ∧
      row.windowSeconds = window.seconds? := by
    intro window hw
    unfold windowOf at hw
    split_ifs at hw with hlifetime hrolling
    · obtain rfl : window = .lifetime := by simpa using hw.symm
      exact hlifetime
    · obtain ⟨seconds,hseconds,rfl⟩ := map_eq_some_iff.1 hw
      exact ⟨hrolling,hseconds⟩
  unfold limitOf at h
  cases hw : windowOf row with
  | none => simp [hw] at h
  | some window =>
    obtain ⟨hkind,hseconds⟩ := hwindow window hw
    simp only [hw] at h
    split_ifs at h with hcount hunit hamount
    · obtain ⟨maximum,hmaximum,rfl⟩ := map_eq_some_iff.1 h
      have htext : row.maximum = toString maximum := by
        simp only [safeIntegerOf] at hmaximum
        split_ifs at hmaximum with hsafe
        rw [← some.inj hmaximum]
        exact hsafe.1.symm
      refine ⟨rfl,rfl,hcount,htext,?_,hkind,hseconds⟩
      change row.unit = none
      simpa using hunit
    · obtain ⟨unit,hunit',rfl⟩ := map_eq_some_iff.1 h
      exact ⟨rfl,rfl,hamount,rfl,hunit',hkind,hseconds⟩

theorem verifiedRule_kept (hsha : Function.Injective P.sha256)
    {rule rule' : ExerciseControlRuleUsage} {ordinal' : Int}
    (hkept : RuleRow.Kept P (ruleRow P reservationId ordinal rule ms) row)
    (h : verifiedRule P row.reservationId ms' ordinal' row = .ok rule') :
    row = ruleRow P reservationId ordinal rule ms := by
  obtain ⟨hschema,rfl,rfl,hlimit,husage,hdigest⟩ := verifiedRule_eq_ok.1 h
  have hsealed : row.resealed P = some row.ruleDigest := by
    rw [RuleRow.resealed,hlimit,← hdigest,← husage]
    rfl
  rcases hkept with hsame | hdiffer
  · obtain ⟨rfl,hordinal,hid,hms⟩ :=
      serializeStoredRule_inj (digestOf_eq hsha (hdigest.trans hsame))
    obtain ⟨hlimitId,hscope,hmetric,hmaximum,hunit,hkind,hseconds⟩ := limitOf_columns hlimit
    rw [ruleRow,RuleRow.mk.injEq]
    exact ⟨hid,hordinal,hlimitId,hscope,hmetric,hmaximum,hunit,hkind,hseconds,
      husage.symm,hms,hsame,hschema⟩
  · exact absurd hsealed.symm hdiffer

theorem verifiedRules_rows {rules rules' : List ExerciseControlRuleUsage}
    (hlimits : ∀ rule ∈ rules, LimitWellFormed rule.limit)
    (h : verifiedRules P reservationId ms' ordinal (ruleRowsFrom P reservationId ms ordinal rules) = .ok rules') :
    rules' = rules := by
  induction rules generalizing ordinal rules' with
  | nil => exact verifiedRules_nil.1 h
  | cons rule rules ih =>
    obtain ⟨rule',tail,rfl,hrule,htail⟩ := verifiedRules_cons.1 h
    obtain ⟨-,-,-,hlimit,husage,-⟩ := verifiedRule_eq_ok.1 hrule
    rw [limitOf_ruleRow (hlimits rule (by simp))] at hlimit
    rw [ih (fun r hr => hlimits r (by simp [hr])) htail]
    obtain ⟨limit,usage⟩ := rule
    obtain ⟨limit',usage'⟩ := rule'
    obtain rfl : limit = limit' := by simpa using hlimit
    obtain rfl : usage' = usage := husage
    rfl

variable {m : InMemoryLedger} {db db' : Database}

/-- Every reservation that still loads is the recorded one, and consumes if it did. -/
def LoadsFaithfully (P : Platform) (m : InMemoryLedger) (db : Database) : Prop :=
  ∀ record ∈ m.reservations.values, ∀ v, db.loadVerified P record.reservationId = .ok (some v) →
    v.record = record ∧
      (m.consumes record = true → exerciseReservationConsumes v.terminal v.resolution = true)

variable {record record' : ExerciseReservationRecord} {row : ReservationRow}
  {v : VerifiedReservation} {reservationId : String} {reservedAtMs ordinal : Int}
  {rules : List ExerciseControlRuleUsage} {rows : List RuleRow} {rule : ExerciseControlRuleUsage}
  {plan : QueryPlan}

theorem LedgerSound.record_wellFormed (hsound : LedgerSound P m)
    (hrecord : record ∈ m.reservations.values) : isWellFormedExerciseReservation P record = true :=
  hsound.get_wellFormed (hsound.get_of_mem hrecord)

theorem Encodes.load_parts (h : Encodes P m db) (hsound : LedgerSound P m)
    (hrecord : record ∈ m.reservations.values) :
    db.selectReservation record.reservationId = some (reservationRow P record (instantOf P record)) ∧
      db.selectRules record.reservationId = ruleRowsOf P record ∧ verifiedOptional
        (verifiedResolution P record.reservationId record.executionId)
        (db.selectResolution record.reservationId) = .ok (m.resolutions.get record.reservationId) ∧
      verifiedOptional (verifiedTerminal P record.reservationId)
        (db.selectTerminal record.reservationId) = .ok (m.terminals.get record.reservationId) := by
  have hget := hsound.get_of_mem hrecord
  have hload := h.loadVerified hsound record.reservationId
  rw [verifiedOf,hget] at hload
  obtain ⟨row,hrow,-,hresolution,hterminal⟩ := loadVerified_eq_some.1 hload
  have hselect : db.selectReservation record.reservationId =
      some (reservationRow P record (instantOf P record)) := by
    rw [h.selectReservation hsound,hget]
    rfl
  obtain rfl : row = reservationRow P record (instantOf P record) := by
    simpa [hselect,eq_comm] using hrow
  refine ⟨hselect,?_,hresolution,hterminal⟩
  rw [h.selectRules hsound,hget]
  rfl

theorem verifiedRecord_rules (hwell : isWellFormedExerciseReservation P record = true)
    (h : verifiedRecord P record.reservationId row (ruleRowsOf P record) = .ok record') :
    record'.rules = record.rules := by
  obtain ⟨-,-,-,-,hrules,-⟩ := verifiedRecord_eq_ok.1 h
  exact verifiedRules_rows (rules_of_wellFormed hwell).1.limits hrules

section

variable (h : Encodes P m db) (hsound : LedgerSound P m)
include h hsound

theorem Encodes.load_record (hrecord : record ∈ m.reservations.values)
    (hrow : db.selectReservation record.reservationId = some row)
    (hverified : verifiedRecord P record.reservationId row (db.selectRules record.reservationId) = .ok record') :
    row = reservationRow P record (instantOf P record) ∧ record' = record := by
  obtain ⟨hrow',hrules,-,-⟩ := h.load_parts hsound hrecord
  obtain rfl : row = reservationRow P record (instantOf P record) := by
    simpa using hrow.symm.trans hrow'
  refine ⟨rfl,?_⟩
  have hrows := verifiedRecord_rows (P := P) (hsound.record_wellFormed hrecord)
  rw [← hrules] at hrows
  simpa using hverified.symm.trans hrows

theorem load_faithful (hrecord : record ∈ m.reservations.values)
    (hload : db.loadVerified P record.reservationId = .ok (some v)) :
    v = ⟨record,m.terminals.get record.reservationId,m.resolutions.get record.reservationId⟩ := by
  rw [h.loadVerified hsound,verifiedOf,hsound.get_of_mem hrecord] at hload
  simpa [eq_comm] using hload

theorem loadsFaithfully_heads (rows : List HeadRow) : LoadsFaithfully P m { db with heads := rows } := by
  intro record hrecord v hload
  have hv : v = _ := load_faithful h hsound hrecord hload
  rw [hv]
  exact ⟨rfl,id⟩

end

theorem loadsFaithfully_reservations (hsha : Function.Injective P.sha256) (h : Encodes P m db)
    (hsound : LedgerSound P m) {rows : List ReservationRow}
    (hchange : RowChange (ReservationRow.Kept P) db.reservations rows) :
    LoadsFaithfully P m { db with reservations := rows } := by
  intro record hrecord v hload
  obtain ⟨row,hrow,hverified,hresolution,hterminal⟩ := loadVerified_eq_some.1 hload
  obtain ⟨-,hrules,hresolution',hterminal'⟩ := h.load_parts hsound hrecord
  have hid : row.reservationId = record.reservationId := by
    simpa using List.find?_some hrow
  -- the row found is a written row, or an edit of one that kept its digest
  obtain ⟨written,hwritten,hkept⟩ :=
    hchange.mem (fun _ => .inl rfl) (mem_of_find?_eq_some hrow)
  rw [h.reservations] at hwritten
  obtain ⟨other,hother,rfl⟩ := mem_map.1 hwritten
  rw [← hid] at hverified
  have hcolumns := verifiedRecord_kept hsha hkept hverified
  have hrow' := (verifiedRecord_eq_ok.1 hverified).2.2.2.2.2.1
  have hotherId : other.reservationId = record.reservationId := by
    have hvid : v.record.reservationId = other.reservationId := by rw [hcolumns]
    rw [← hvid,hrow']
    exact hid
  obtain rfl : other = record := by
    have hget := hsound.get_of_mem hother
    rw [hotherId,hsound.get_of_mem hrecord] at hget
    exact (some.inj hget).symm
  have hverified' : verifiedRecord P other.reservationId row (ruleRowsOf P other) = .ok v.record := by
    rw [← hrules,← hid]
    exact hverified
  have hv : v.record = other := by
    rw [hcolumns,verifiedRecord_rules (hsound.record_wellFormed hrecord) hverified']
  refine ⟨hv,fun hconsumes => ?_⟩
  have hexecution : row.executionId = other.executionId := by
    rw [← hv,hrow']
    rfl
  rw [hexecution] at hresolution
  have hres : v.resolution = m.resolutions.get other.reservationId := by
    simpa using hresolution.symm.trans hresolution'
  have hterm : v.terminal = m.terminals.get other.reservationId := by
    simpa using hterminal.symm.trans hterminal'
  rw [hres,hterm]
  exact hconsumes

/-- A consuming reservation consumes without its terminal event, unless it was settled
`executed` beside a not-completed resolution. -/
theorem consumes_without_terminal {t : ExerciseReservationTerminalEvent}
    {resolution : Option ExerciseReservationResolutionEvent}
    (hmatches : exerciseReservationTerminalReasonMatches t.kind t.reason = true)
    (h : exerciseReservationConsumes (some t) resolution = true) :
    exerciseReservationConsumes none resolution = true ∨ (t.kind = .settled ∧ t.reason = .executed ∧
        ∃ r, resolution = some r ∧ r.resolution = .confirmedNotCompleted) := by
  obtain ⟨id,kind,reason,recordedAt⟩ := t
  cases resolution with
  | none => exact .inl rfl
  | some r =>
    obtain ⟨rid,execution,digest,answer,at'⟩ := r
    cases answer with
    | confirmedCompleted => exact .inl rfl
    | confirmedNotCompleted =>
      cases kind with
      | released => simp [exerciseReservationConsumes,exerciseReservationResolutionConsistent] at h
      | settled =>
        cases reason <;> simp_all [exerciseReservationConsumes,
          exerciseReservationResolutionConsistent,exerciseReservationTerminalReasonMatches,
          isExerciseReservationSettleReason]

/-- A consuming reservation consumes without its resolution, unless it was released
beside a completed one. -/
theorem consumes_without_resolution {terminal : Option ExerciseReservationTerminalEvent}
    {r : ExerciseReservationResolutionEvent}
    (h : exerciseReservationConsumes terminal (some r) = true) :
    exerciseReservationConsumes terminal none = true ∨
      ((∃ t, terminal = some t ∧ t.kind = .released) ∧ r.resolution = .confirmedCompleted) := by
  obtain ⟨rid,execution,digest,answer,at'⟩ := r
  cases terminal with
  | none => exact .inl rfl
  | some t =>
    obtain ⟨id,kind,reason,recordedAt⟩ := t
    cases kind with
    | settled => exact .inl rfl
    | released =>
      cases answer with
      | confirmedCompleted => exact .inr ⟨⟨_,rfl,rfl⟩,rfl⟩
      | confirmedNotCompleted =>
        simp [exerciseReservationConsumes,exerciseReservationResolutionConsistent] at h

section

variable (hsha : Function.Injective P.sha256) (h : Encodes P m db) (hsound : LedgerSound P m)
include hsha h hsound

theorem loadsFaithfully_terminals {rows : List TerminalRow}
    (hchange : RowChange (TerminalRow.Kept P) db.terminals rows)
    (hhides : ¬ HidesContradiction db { db with terminals := rows }) :
    LoadsFaithfully P m { db with terminals := rows } := by
  intro record hrecord v hload
  obtain ⟨row,hrow,hverified,hresolution,hterminal⟩ := loadVerified_eq_some.1 hload
  obtain ⟨-,-,hresolution',-⟩ := h.load_parts hsound hrecord
  obtain ⟨rfl,hv⟩ := h.load_record hsound hrecord hrow hverified
  have hres : v.resolution = m.resolutions.get record.reservationId := by
    simpa using hresolution.symm.trans hresolution'
  refine ⟨hv,fun hconsumes => ?_⟩
  rw [hres]
  rw [InMemoryLedger.consumes] at hconsumes
  cases hfound : rows.find? fun row => row.reservationId == record.reservationId with
  | none =>
    have hnone : v.terminal = none := by
      have hselect : selectTerminal { db with terminals := rows } record.reservationId = none := hfound
      simpa [hselect,verifiedOptional] using hterminal.symm
    rw [hnone]
    cases hevent : m.terminals.get record.reservationId with
    | none => rwa [hevent] at hconsumes
    | some t =>
      obtain ⟨hid,hmatches,-⟩ := hsound.get_terminal hevent
      rw [hevent] at hconsumes
      refine (consumes_without_terminal hmatches hconsumes).resolve_right ?_
      rintro ⟨hkind,hreason,r,hr,hanswer⟩
      refine hhides (.inl ⟨terminalRow P t,?_,resolutionRow P r,?_,?_,?_,?_,?_,?_⟩)
      · rw [h.terminals]
        exact mem_map_of_mem (OrderedMap.mem_values_iff.2 ⟨_,hevent⟩)
      · rw [h.resolutions]
        exact mem_map_of_mem (OrderedMap.mem_values_iff.2 ⟨_,hr⟩)
      · exact hid.trans (hsound.get_resolution hr).1.symm
      · simp [terminalRow,hkind,ExerciseReservationTerminalKind.text]
      · simp [terminalRow,hreason,ExerciseReservationTerminalReason.text]
      · simp [resolutionRow,hanswer,ExerciseReservationResolution.text]
      · change (rows.find? fun row => row.reservationId == t.reservationId) = none
        rw [hid]
        exact hfound
  | some found =>
    -- a row that still verifies spells the event that was recorded under this id
    have hselect : selectTerminal { db with terminals := rows } record.reservationId = some found := hfound
    rw [hselect] at hterminal
    obtain ⟨event,hevent,hverify⟩ := by
      simpa [verifiedOptional,bind_eq_ok] using hterminal
    obtain ⟨written,hwritten,hkept⟩ :=
      hchange.mem (fun _ => .inl rfl) (mem_of_find?_eq_some hfound)
    rw [h.terminals] at hwritten
    obtain ⟨other,hother,rfl⟩ := mem_map.1 hwritten
    have hid : found.reservationId = record.reservationId := by
      simpa using List.find?_some hfound
    rw [← hid] at hevent
    have hsame := verifiedTerminal_kept hsha hkept hevent
    subst hsame
    obtain ⟨key,hget⟩ := OrderedMap.mem_values_iff.1 hother
    have heventId := (verifiedTerminal_eq_ok.1 hevent).2.2.2.2.1
    have hkey : key = record.reservationId := by
      rw [← (hsound.get_terminal hget).1,heventId]
      exact hid
    rw [← hverify,← hget,hkey]
    exact hconsumes

theorem loadsFaithfully_resolutions {rows : List ResolutionRow}
    (hchange : RowChange (ResolutionRow.Kept P) db.resolutions rows)
    (hhides : ¬ HidesContradiction db { db with resolutions := rows }) :
    LoadsFaithfully P m { db with resolutions := rows } := by
  intro record hrecord v hload
  obtain ⟨row,hrow,hverified,hresolution,hterminal⟩ := loadVerified_eq_some.1 hload
  obtain ⟨-,-,-,hterminal'⟩ := h.load_parts hsound hrecord
  obtain ⟨rfl,hv⟩ := h.load_record hsound hrecord hrow hverified
  have hterm : v.terminal = m.terminals.get record.reservationId := by
    simpa using hterminal.symm.trans hterminal'
  refine ⟨hv,fun hconsumes => ?_⟩
  rw [hterm]
  rw [InMemoryLedger.consumes] at hconsumes
  cases hfound : rows.find? fun row => row.reservationId == record.reservationId with
  | none =>
    have hnone : v.resolution = none := by
      have hselect : selectResolution { db with resolutions := rows }
        record.reservationId = none := hfound
      simpa [hselect,verifiedOptional] using hresolution.symm
    rw [hnone]
    cases hevent : m.resolutions.get record.reservationId with
    | none => rwa [hevent] at hconsumes
    | some r =>
      rw [hevent] at hconsumes
      refine (consumes_without_resolution hconsumes).resolve_right ?_
      rintro ⟨⟨t,ht,hkind⟩,hanswer⟩
      have hrid := (hsound.get_resolution hevent).1
      refine hhides (.inr ⟨terminalRow P t,?_,resolutionRow P r,?_,?_,?_,?_,?_⟩)
      · rw [h.terminals]
        exact mem_map_of_mem (OrderedMap.mem_values_iff.2 ⟨_,ht⟩)
      · rw [h.resolutions]
        exact mem_map_of_mem (OrderedMap.mem_values_iff.2 ⟨_,hevent⟩)
      · exact (hsound.get_terminal ht).1.trans hrid.symm
      · simp [terminalRow,hkind,ExerciseReservationTerminalKind.text]
      · simp [resolutionRow,hanswer,ExerciseReservationResolution.text]
      · change (rows.find? fun row => row.reservationId == r.reservationId) = none
        rw [hrid]
        exact hfound
  | some found =>
    have hselect : selectResolution { db with resolutions := rows }
      record.reservationId = some found := hfound
    rw [hselect] at hresolution
    obtain ⟨event,hevent,hverify⟩ := by
      simpa [verifiedOptional,bind_eq_ok] using hresolution
    obtain ⟨written,hwritten,hkept⟩ :=
      hchange.mem (fun _ => .inl rfl) (mem_of_find?_eq_some hfound)
    rw [h.resolutions] at hwritten
    obtain ⟨other,hother,rfl⟩ := mem_map.1 hwritten
    have hid : found.reservationId = record.reservationId := by
      simpa using List.find?_some hfound
    rw [← hid] at hevent
    have hsame := verifiedResolution_kept hsha hkept hevent
    subst hsame
    obtain ⟨key,hget⟩ := OrderedMap.mem_values_iff.1 hother
    have heventId := (verifiedResolution_eq_ok.1 hevent).2.2.2.2.1
    have hkey : key = record.reservationId := by
      rw [← (hsound.get_resolution hget).1,heventId]
      exact hid
    rw [← hverify,← hget,hkey]
    exact hconsumes

end

theorem mem_ruleRowsFrom {row : RuleRow}
    (h : row ∈ ruleRowsFrom P reservationId reservedAtMs ordinal rules) :
    ∃ n rule, row = ruleRow P reservationId n rule reservedAtMs := by
  induction rules generalizing ordinal with
  | nil => simp [ruleRowsFrom] at h
  | cons rule rules ih =>
    rcases mem_cons.1 h with rfl | htail
    · exact ⟨ordinal,rule,rfl⟩
    · exact ih htail

theorem verifiedRules_mem
    (h : verifiedRules P reservationId reservedAtMs ordinal rows = .ok rules)
    {row : RuleRow} (hrow : row ∈ rows) :
    ∃ n rule, verifiedRule P reservationId reservedAtMs n row = .ok rule := by
  induction rows generalizing ordinal rules with
  | nil => simp at hrow
  | cons first rows ih =>
    obtain ⟨rule,tail,rfl,hfirst,htail⟩ := verifiedRules_cons.1 h
    rcases mem_cons.1 hrow with rfl | hmem
    · exact ⟨ordinal,rule,hfirst⟩
    · exact ih htail hmem

theorem selectRules_length (db : Database) (id : String) :
    (db.selectRules id).length = (db.rules.filter fun row => row.reservationId == id).length := by
  rw [selectRules,length_insertionSort]

section

variable (hsha : Function.Injective P.sha256) (h : Encodes P m db)
include hsha h

theorem Encodes.eq_of_kept {old new : RuleRow} (hold : old ∈ db.rules)
    (hkept : RuleRow.Kept P old new)
    (hrule : verifiedRule P new.reservationId reservedAtMs ordinal new = .ok rule) :
    new = old := by
  rw [h.rules] at hold
  obtain ⟨other,-,hother⟩ := mem_flatMap.1 hold
  obtain ⟨k,usage,rfl⟩ := mem_ruleRowsFrom hother
  exact verifiedRule_kept hsha hkept hrule

theorem selectRules_of_load (hsound : LedgerSound P m)
    (hchange : RowChange (RuleRow.Kept P) db.rules rows)
    (hrecord : record ∈ m.reservations.values)
    (hload : loadVerified P { db with rules := rows } record.reservationId = .ok (some v)) :
    rows.filter (fun row => row.reservationId == record.reservationId) =
      db.rules.filter fun row => row.reservationId == record.reservationId := by
  obtain ⟨row,hrow,hverified,-,-⟩ := loadVerified_eq_some.1 hload
  obtain ⟨hrow',hrules,-,-⟩ := h.load_parts hsound hrecord
  obtain rfl : row = reservationRow P record (instantOf P record) := by
    simpa using hrow.symm.trans hrow'
  obtain ⟨-,-,-,hcount,hverifiedRules,-⟩ := verifiedRecord_eq_ok.1 hverified
  have hlength : (rows.filter fun row => row.reservationId == record.reservationId).length =
      (db.rules.filter fun row => row.reservationId == record.reservationId).length := by
    rw [selectRules_length] at hcount
    rw [← selectRules_length db,hrules,ruleRowsOf,ruleRowsFrom_length]
    exact Int.ofNat_inj.1 hcount
  generalize hbefore : db.rules = written at hchange hlength ⊢
  cases hchange with
  | delete before lost after =>
    by_cases hlost : lost.reservationId = record.reservationId
    · simp [hlost] at hlength
    · simp [hlost]
  | edit before old new after hkept =>
    by_cases hnew : new.reservationId = record.reservationId
    · -- the edited row is among those that verified, so it is the row that was written
      have hmem : new ∈ selectRules { db with rules := before ++ new :: after }
          record.reservationId := by
        rw [selectRules,mem_insertionSort]
        simp [hnew]
      obtain ⟨n,rule,hrule⟩ := verifiedRules_mem hverifiedRules hmem
      rw [← hnew] at hrule
      rw [h.eq_of_kept hsha (by simp [hbefore]) hkept hrule]
    · by_cases hold : old.reservationId = record.reservationId
      · simp [hold,hnew] at hlength
      · simp [hold,hnew]

theorem loadsFaithfully_rules (hsound : LedgerSound P m)
    (hchange : RowChange (RuleRow.Kept P) db.rules rows) :
    LoadsFaithfully P m { db with rules := rows } := by
  intro record hrecord v hload
  have hfilter := selectRules_of_load hsha h hsound hchange hrecord hload
  have hselect : selectRules { db with rules := rows } record.reservationId =
      db.selectRules record.reservationId := by
    rw [selectRules,selectRules,hfilter]
  have hload' : db.loadVerified P record.reservationId = .ok (some v) := by
    rw [loadVerified_eq_some] at hload ⊢
    rw [← hselect]
    exact hload
  have hv := load_faithful h hsound hrecord hload'
  rw [hv]
  exact ⟨rfl,id⟩

/-- A bucket that still answers after a change of one rule row has its recorded rows:
the head counts them, and an edited row does not load. -/
theorem bucketRows_of_usage (hchange : RowChange (RuleRow.Kept P) db.rules rows)
    {usages : List ExerciseControlActiveUsage}
    (husage : activeUsageFor P plan { db with rules := rows } rule = .ok usages) :
    bucketRows { db with rules := rows } rule.limit.limitId rule.limit.scopeKey =
      db.bucketRows rule.limit.limitId rule.limit.scopeKey := by
  obtain ⟨⟨n,hcount⟩,hcandidates⟩ := activeUsageFor_eq_ok.1 husage
  obtain ⟨entry,hentry,-⟩ := candidatesUsage_eq_ok.1 hcandidates
  have hlength : (bucketRows { db with rules := rows } rule.limit.limitId rule.limit.scopeKey).length =
        (db.bucketRows rule.limit.limitId rule.limit.scopeKey).length := by
    obtain ⟨-,hhead⟩ := verifiedBucketRowCount_eq_ok.1 hcount
    have hsealed := h.heads rule.limit.limitId rule.limit.scopeKey
    have hselect : selectHead { db with rules := rows } rule.limit.limitId
      rule.limit.scopeKey = db.selectHead rule.limit.limitId rule.limit.scopeKey := rfl
    rw [hselect,hsealed] at hhead
    apply Int.ofNat_inj.1
    change countBucket { db with rules := rows } _ _ = db.countBucket _ _
    rcases hhead with ⟨hnone,hzero⟩ | ⟨head,hsome,-,-,hcounted⟩
    · by_cases hempty : db.countBucket rule.limit.limitId rule.limit.scopeKey = 0
      · rw [hzero,hempty]
      · simp [hempty] at hnone
    · by_cases hempty : db.countBucket rule.limit.limitId rule.limit.scopeKey = 0
      · simp [hempty] at hsome
      · rw [if_neg hempty] at hsome
        rw [← hcounted,← some.inj hsome]
        rfl
  have hloads : ∀ row ∈ bucketRows { db with rules := rows } rule.limit.limitId
      rule.limit.scopeKey, ∃ v, loadVerified P { db with rules := rows }
        row.reservationId = .ok (some v) := by
    intro row hrow
    have hid : row.reservationId ∈ selectBucket { db with rules := rows } plan
        rule.limit.limitId rule.limit.scopeKey := by
      rw [selectBucket,(plan.perm _ _).mem_iff,mem_dedup]
      exact mem_map_of_mem hrow
    obtain ⟨v,hv,-⟩ := candidateUsage_eq_ok.1 (hentry _ hid)
    exact ⟨v,hv⟩
  simp only [bucketRows] at hlength hloads ⊢
  generalize hbefore : db.rules = written at hchange hlength ⊢
  cases hchange with
  | delete before lost after =>
    by_cases hlost : lost.limitId = rule.limit.limitId ∧ lost.scopeKey = rule.limit.scopeKey
    · simp [hlost] at hlength
    · simp [hlost]
  | edit before old new after hkept =>
    by_cases hnew : new.limitId = rule.limit.limitId ∧ new.scopeKey = rule.limit.scopeKey
    · obtain ⟨v,hv⟩ := hloads new (by simp [hnew])
      obtain ⟨base,-,hverified,-,-⟩ := loadVerified_eq_some.1 hv
      obtain ⟨-,-,-,-,hrules,-⟩ := verifiedRecord_eq_ok.1 hverified
      have hmem : new ∈ selectRules { db with rules := before ++ new :: after }
          new.reservationId := by
        rw [selectRules,mem_insertionSort]
        simp
      obtain ⟨k,usage,hrule⟩ := verifiedRules_mem hrules hmem
      rw [h.eq_of_kept hsha (by simp [hbefore]) hkept hrule]
    · by_cases hold : old.limitId = rule.limit.limitId ∧ old.scopeKey = rule.limit.scopeKey
      · simp [hold,hnew] at hlength
      · simp [hold,hnew]

end

/-- A bucket that answers counts at least what the ledger counts. -/
def Covers (P : Platform) (plan : QueryPlan) (m : InMemoryLedger) (db : Database) : Prop :=
  ∀ rule usages, db.activeUsageFor P plan rule = .ok usages → (m.activeUsageFor P rule).Subperm usages

theorem covers_of_loads (hsound : LedgerSound P m) (hloads : LoadsFaithfully P m db)
    (hids : ∀ rule usages, db.activeUsageFor P plan rule = .ok usages → (db.bucketRows rule.limit.limitId rule.limit.scopeKey).map (·.reservationId) = (m.reservations.values.filter (namesBucket (exerciseControlBucketKey rule.limit))).map (·.reservationId)) :
    Covers P plan m db := by
  intro rule usages husage
  have hbucket := hids rule usages husage
  obtain ⟨-,hcandidates⟩ := activeUsageFor_eq_ok.1 husage
  obtain ⟨entry,hentry,rfl⟩ := candidatesUsage_eq_ok.1 hcandidates
  rw [selectBucket,hbucket,(hsound.bucketIds_nodup _).dedup] at hentry ⊢
  set bucket := exerciseControlBucketKey rule.limit
  set named := m.reservations.values.filter (namesBucket bucket) with hnamed
  refine List.Subperm.trans ?_ ((plan.perm db (named.map (·.reservationId))).symm.filterMap _).subperm
  apply List.Sublist.subperm
  have hlist : m.activeUsageFor P rule = named.filterMap (m.usageEntry P bucket) := by
    rw [InMemoryLedger.activeUsageFor,hnamed,filterMap_filter]
    refine filterMap_congr fun record _ => ?_
    by_cases hnames : namesBucket bucket record = true
    · simp only [hnames,if_true]
      rfl
    · rw [if_neg hnames]
      exact usageEntry_of_not_names (by simpa using hnames)
  rw [hlist,filterMap_map]
  apply filterMap_sublist
  intro record hrecord
  have hmem := (mem_filter.1 hrecord).1
  have hid : record.reservationId ∈ plan.arrange db (named.map (·.reservationId)) :=
    (plan.perm db _).mem_iff.2 (mem_map_of_mem hrecord)
  obtain ⟨v,hload,hcases⟩ := candidateUsage_eq_ok.1 (hentry _ hid)
  obtain ⟨hrecord',hconsumes'⟩ := hloads record hmem v hload
  rw [hrecord'] at hcases
  unfold InMemoryLedger.usageEntry
  by_cases hconsumes : m.consumes record = true
  · right
    rcases hcases with ⟨hnot,-⟩ | ⟨-,recorded,hfind,hsome⟩
    · rw [hconsumes' hconsumes] at hnot
      cases hnot
    · rw [if_pos hconsumes,hfind,Function.comp_apply,hsome]
      rfl
  · exact .inl (if_neg hconsumes)

/-- No bucket of a tampered database frees capacity, unless the change hides one of two
contradicting rows. -/
theorem covers_of_tampered (hsha : Function.Injective P.sha256) (plan : QueryPlan)
    (h : Encodes P m db) (hsound : LedgerSound P m) (htampered : Tampered P db db')
    (hhides : ¬ HidesContradiction db db') : Covers P plan m db' := by
  cases htampered with
  | reservations rows hchange =>
    exact covers_of_loads hsound (loadsFaithfully_reservations hsha h hsound hchange)
      fun rule _ _ => h.bucketIds hsound _ _
  | rules rows hchange =>
    refine covers_of_loads hsound (loadsFaithfully_rules hsha h hsound hchange) ?_
    intro rule usages husage
    rw [bucketRows_of_usage hsha h hchange husage]
    exact h.bucketIds hsound _ _
  | terminals rows hchange =>
    exact covers_of_loads hsound (loadsFaithfully_terminals hsha h hsound hchange hhides)
      fun rule _ _ => h.bucketIds hsound _ _
  | resolutions rows hchange =>
    exact covers_of_loads hsound (loadsFaithfully_resolutions hsha h hsound hchange hhides)
      fun rule _ _ => h.bucketIds hsound _ _
  | heads rows hchange =>
    exact covers_of_loads hsound (loadsFaithfully_heads h hsound rows)
      fun rule _ _ => h.bucketIds hsound _ _

end Frontera.ExerciseControl
