import Frontera.ExerciseControl.Reservation

/-! The canonical bytes of every row of the durable ledger and the digests taken over them
(`exercise-control-record.ts`). Each serialization determines the fields it is made of, so under an
injective hash a digest that recomputes seals them all. -/

namespace Frontera.ExerciseControl

open Frontera.Text

variable (P : Platform)

def exerciseControlLedgerSchemaVersion : String := "aoc.exercise-control-ledger.schema.v1"

def exerciseControlLedgerRecordFormat : String := "aoc.exercise-control-ledger.record.v1"

def serializeStoredReservation (reservation : ExerciseReservationRecord) (ruleCount : Int) : String :=
  "\x7b" ++ join "," [
    "\"authorityBindingDigest\":" ++ stringify reservation.authorityBindingDigest,
    "\"boundedGrantId\":" ++ stringify reservation.boundedGrantId,
    "\"executionId\":" ++ stringify reservation.executionId,
    "\"format\":" ++ stringify exerciseControlLedgerRecordFormat,
    "\"kind\":\"reservation\"",
    "\"policyDigest\":" ++ stringify reservation.policyDigest,
    "\"requestDigest\":" ++ stringify reservation.requestDigest,
    "\"reservationId\":" ++ stringify reservation.reservationId,
    "\"reservedAt\":" ++ stringify reservation.reservedAt,
    "\"ruleCount\":" ++ toString ruleCount,
    "\"schemaVersion\":" ++ stringify exerciseControlLedgerSchemaVersion] ++ "\x7d"

/-- The rule count of the source is the number of the record's own rules. -/
def storedReservationDigest (reservation : ExerciseReservationRecord) : String :=
  P.digestOf (serializeStoredReservation reservation reservation.rules.length)

def serializeStoredRule (reservationId : String) (ordinal : Int)
    (rule : ExerciseControlRuleUsage) (reservedAtMs : Int) : String :=
  "\x7b" ++ join "," [
    "\"format\":" ++ stringify exerciseControlLedgerRecordFormat,
    "\"kind\":\"rule\"",
    "\"limit\":" ++ serializeExerciseControlLimit rule.limit,
    "\"ordinal\":" ++ toString ordinal,
    "\"reservationId\":" ++ stringify reservationId,
    "\"reservedAtMs\":" ++ toString reservedAtMs,
    "\"schemaVersion\":" ++ stringify exerciseControlLedgerSchemaVersion,
    "\"usage\":" ++ stringify rule.usage] ++ "\x7d"

def storedRuleDigest (reservationId : String) (ordinal : Int) (rule : ExerciseControlRuleUsage)
    (reservedAtMs : Int) : String :=
  P.digestOf (serializeStoredRule reservationId ordinal rule reservedAtMs)

def serializeStoredTerminalEvent (event : ExerciseReservationTerminalEvent) : String :=
  "\x7b" ++ join "," [
    "\"format\":" ++ stringify exerciseControlLedgerRecordFormat,
    "\"kind\":\"terminal\"",
    "\"reason\":" ++ stringify event.reason.text,
    "\"recordedAt\":" ++ stringify event.recordedAt,
    "\"reservationId\":" ++ stringify event.reservationId,
    "\"schemaVersion\":" ++ stringify exerciseControlLedgerSchemaVersion,
    "\"terminal\":" ++ stringify event.kind.text] ++ "\x7d"

def storedTerminalEventDigest (event : ExerciseReservationTerminalEvent) : String :=
  P.digestOf (serializeStoredTerminalEvent event)

def serializeStoredResolutionEvent (event : ExerciseReservationResolutionEvent) : String :=
  "\x7b" ++ join "," [
    "\"executionId\":" ++ stringify event.executionId,
    "\"format\":" ++ stringify exerciseControlLedgerRecordFormat,
    "\"kind\":\"resolution\"",
    "\"recordedAt\":" ++ stringify event.recordedAt,
    "\"reservationId\":" ++ stringify event.reservationId,
    "\"resolution\":" ++ stringify event.resolution.text,
    "\"resolutionDigest\":" ++ stringify event.resolutionDigest,
    "\"schemaVersion\":" ++ stringify exerciseControlLedgerSchemaVersion] ++ "\x7d"

def storedResolutionEventDigest (event : ExerciseReservationResolutionEvent) : String :=
  P.digestOf (serializeStoredResolutionEvent event)

def serializeStoredBucketHead (limitId scopeKey : String) (ruleRowCount : Int) : String :=
  "\x7b" ++ join "," [
    "\"format\":" ++ stringify exerciseControlLedgerRecordFormat,
    "\"kind\":\"bucket-head\"",
    "\"limitId\":" ++ stringify limitId,
    "\"ruleRowCount\":" ++ toString ruleRowCount,
    "\"schemaVersion\":" ++ stringify exerciseControlLedgerSchemaVersion,
    "\"scopeKey\":" ++ stringify scopeKey] ++ "\x7d"

def storedBucketHeadDigest (limitId scopeKey : String) (ruleRowCount : Int) : String :=
  P.digestOf (serializeStoredBucketHead limitId scopeKey ruleRowCount)

def ExerciseReservationTerminalKind.ofText : String → Option ExerciseReservationTerminalKind
  | "settled" => some .settled
  | "released" => some .released
  | _ => none

def ExerciseReservationTerminalReason.ofText : String → Option ExerciseReservationTerminalReason
  | "executed" => some .executed
  | "execution-unconfirmed" => some .executionUnconfirmed
  | "execution-failed" => some .executionFailed
  | "emergency-control" => some .emergencyControl
  | "exercise-control" => some .exerciseControl
  | "grant-exercise" => some .grantExercise
  | _ => none

def ExerciseReservationResolution.ofText : String → Option ExerciseReservationResolution
  | "confirmed-completed" => some .confirmedCompleted
  | "confirmed-not-completed" => some .confirmedNotCompleted
  | _ => none

@[simp] theorem ExerciseReservationTerminalKind.ofText_text
    (kind : ExerciseReservationTerminalKind) : ofText kind.text = some kind := by
  cases kind <;> rfl

@[simp] theorem ExerciseReservationTerminalReason.ofText_text
    (reason : ExerciseReservationTerminalReason) : ofText reason.text = some reason := by
  cases reason <;> rfl

@[simp] theorem ExerciseReservationResolution.ofText_text
    (resolution : ExerciseReservationResolution) : ofText resolution.text = some resolution := by
  cases resolution <;> rfl

theorem ExerciseReservationTerminalKind.text_inj {a b : ExerciseReservationTerminalKind} :
    a.text = b.text ↔ a = b :=
  ⟨fun h => by simpa using congrArg ofText h,fun h => by rw [h]⟩

theorem ExerciseReservationTerminalReason.text_inj {a b : ExerciseReservationTerminalReason} :
    a.text = b.text ↔ a = b :=
  ⟨fun h => by simpa using congrArg ofText h,fun h => by rw [h]⟩

theorem ExerciseReservationResolution.text_inj {a b : ExerciseReservationResolution} :
    a.text = b.text ↔ a = b :=
  ⟨fun h => by simpa using congrArg ofText h,fun h => by rw [h]⟩

theorem serializeWindow_append_inj {v w : ExerciseControlWindow} {r s : String} :
    serializeWindow v ++ ("\x7d" ++ r) = serializeWindow w ++ ("\x7d" ++ s) ↔ v = w ∧ r = s := by
  have hdiffer : ∀ (seconds : Int) (t u : String),
      serializeWindow .lifetime ++ t ≠ serializeWindow (.rolling seconds) ++ u := by
    intro seconds t u
    simp only [serializeWindow_lifetime,serializeWindow_rolling,String.append_assoc]
    exact append_ne_append (by decide) _ _
  cases v with
  | lifetime =>
    cases w with
    | lifetime =>
      rw [String.append_right_inj,String.append_right_inj]
      simp only [true_and]
    | rolling b => simp only [hdiffer,reduceCtorEq,false_and]
  | rolling a =>
    cases w with
    | lifetime => simp only [(hdiffer a _ _).symm,reduceCtorEq,false_and]
    | rolling b =>
      simp only [serializeWindow_rolling,String.append_assoc,String.append_right_inj,
        integer_brace_inj,ExerciseControlWindow.rolling.injEq]

theorem serializeExerciseControlLimit_append_inj {l m : ExerciseControlLimit} {r s : String} :
    serializeExerciseControlLimit l ++ r = serializeExerciseControlLimit m ++ s ↔ l = m ∧ r = s := by
  obtain ⟨lId,lScope,lMeasure,lWindow⟩ := l
  obtain ⟨mId,mScope,mMeasure,mWindow⟩ := m
  cases lMeasure with
  | count a =>
    cases mMeasure with
    | count b =>
      simp only [serializeExerciseControlLimit,join_cons_cons,join_singleton,
        String.append_assoc,String.append_right_inj,stringify_append_inj,integer_comma_inj,
        serializeWindow_append_inj,ExerciseControlLimit.mk.injEq, ExerciseControlMeasure.count.injEq]
      tauto
    | amount b u =>
      simp only [serializeExerciseControlLimit,join_cons_cons,join_singleton,
        String.append_assoc,String.append_right_inj,stringify_append_inj,
        ExerciseControlLimit.mk.injEq,reduceCtorEq,false_and,and_false,iff_false,not_and]
      intro _ h
      exact integer_ne_stringify _ _ _ _ h
  | amount a u =>
    cases mMeasure with
    | count b =>
      simp only [serializeExerciseControlLimit,join_cons_cons,join_singleton,
        String.append_assoc,String.append_right_inj,stringify_append_inj,
        ExerciseControlLimit.mk.injEq,reduceCtorEq,false_and,and_false,iff_false,not_and]
      intro _ h
      exact integer_ne_stringify _ _ _ _ h.symm
    | amount b v =>
      simp only [serializeExerciseControlLimit,join_cons_cons,join_singleton,
        String.append_assoc,String.append_right_inj,stringify_append_inj,
        serializeWindow_append_inj,ExerciseControlLimit.mk.injEq, ExerciseControlMeasure.amount.injEq]
      tauto

theorem serializeStoredReservation_inj {a b : ExerciseReservationRecord} {m n : Int}
    (h : serializeStoredReservation a m = serializeStoredReservation b n) :
    a.authorityBindingDigest = b.authorityBindingDigest ∧ a.boundedGrantId = b.boundedGrantId ∧
      a.executionId = b.executionId ∧ a.policyDigest = b.policyDigest ∧
      a.requestDigest = b.requestDigest ∧ a.reservationId = b.reservationId ∧
      a.reservedAt = b.reservedAt ∧ m = n := by
  simpa only [serializeStoredReservation,join_cons_cons,join_singleton,String.append_assoc,
    String.append_right_inj,stringify_append_inj,integer_comma_inj,and_true,true_and] using h

theorem serializeStoredRule_inj {i j : String} {m n : Int} {q r : ExerciseControlRuleUsage}
    {t u : Int} (h : serializeStoredRule i m q t = serializeStoredRule j n r u) :
    q = r ∧ m = n ∧ i = j ∧ t = u := by
  obtain ⟨qLimit,qUsage⟩ := q
  obtain ⟨rLimit,rUsage⟩ := r
  simp only [serializeStoredRule,join_cons_cons,join_singleton,String.append_assoc,
    String.append_right_inj,stringify_append_inj,serializeExerciseControlLimit_append_inj,
    integer_comma_inj,and_true] at h
  obtain ⟨rfl,rfl,rfl,rfl,rfl⟩ := h
  exact ⟨rfl,rfl,rfl,rfl⟩

theorem serializeStoredTerminalEvent_inj {a b : ExerciseReservationTerminalEvent}
    (h : serializeStoredTerminalEvent a = serializeStoredTerminalEvent b) : a = b := by
  obtain ⟨aId,aKind,aReason,aAt⟩ := a
  obtain ⟨bId,bKind,bReason,bAt⟩ := b
  simp only [serializeStoredTerminalEvent,join_cons_cons,join_singleton,String.append_assoc,
    String.append_right_inj,stringify_append_inj,and_true,
    ExerciseReservationTerminalKind.text_inj,ExerciseReservationTerminalReason.text_inj] at h
  obtain ⟨rfl,rfl,rfl,rfl⟩ := h
  rfl

theorem serializeStoredResolutionEvent_inj {a b : ExerciseReservationResolutionEvent}
    (h : serializeStoredResolutionEvent a = serializeStoredResolutionEvent b) : a = b := by
  obtain ⟨aId,aExecution,aDigest,aResolution,aAt⟩ := a
  obtain ⟨bId,bExecution,bDigest,bResolution,bAt⟩ := b
  simp only [serializeStoredResolutionEvent,join_cons_cons,join_singleton,String.append_assoc,
    String.append_right_inj,stringify_append_inj,and_true, ExerciseReservationResolution.text_inj] at h
  obtain ⟨rfl,rfl,rfl,rfl,rfl⟩ := h
  rfl

end Frontera.ExerciseControl
