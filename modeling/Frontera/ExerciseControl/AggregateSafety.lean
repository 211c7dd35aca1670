import Frontera.Data.AdmittedSequence
import Frontera.ExerciseControl.InMemoryLedger

/-! The consuming usage of a bucket is an admitted sequence: every entry fitted the entries its own
admission could see. No call breaks that, except settling as `executed` a reservation already
resolved as not completed, which makes it consume again without an admission. -/

namespace Frontera.ExerciseControl.InMemoryLedger

open Frontera.Data Frontera.Monetary List

variable {P : Platform}

/-- A reservation is settled `executed` although it had been resolved as not
completed before any terminal event. -/
def SettlesResolvedNotCompleted (P : Platform) (s : InMemoryLedger) (c : LedgerCall) : Prop :=
  ∃ input s', c = .settle input ∧
    s.call P c = .ok (.terminal (.recorded .settled (input.event .settled)), s') ∧
    input.reason = .executed ∧ ∃ event, s.resolutions.get input.reservationId = some event ∧
      event.resolution = .confirmedNotCompleted

/-- What a reservation states it consumes of a bucket. -/
def usageIn (limitId scopeKey : String) (reservation : ExerciseReservationRecord) : Option String :=
  (reservation.rules.find? fun rule =>
    rule.limit.limitId == limitId && rule.limit.scopeKey == scopeKey).map (·.usage)

/-- The usages in a bucket of the consuming reservations that `p` selects. -/
def consumingUsages (s : InMemoryLedger) (limitId scopeKey : String)
    (p : ExerciseReservationRecord → Bool) : List String :=
  ((s.reservations.values.filter s.consumes).filter p).filterMap (usageIn limitId scopeKey)

/-- The number of usages, or their exact sum, is at most the limit's maximum. -/
def WithinMaximum (limit : ExerciseControlLimit) (usages : List String) : Prop :=
  match limit.measure with
  | .count maximum => (usages.length : Int) ≤ maximum
  | .amount maximum _ => (usages.map decimalValue).sum ≤ decimalValue maximum

/-- `reservedAt` lies in `(t - seconds, t]`. -/
def reservedWithin (P : Platform) (seconds t : Int) (reservation : ExerciseReservationRecord) : Bool :=
  match P.dateParse reservation.reservedAt with
  | none => false
  | some ms => decide (t - seconds * 1000 < ms ∧ ms ≤ t)

/-- The active usage of the limit's bucket. -/
def bucketUsage (P : Platform) (s : InMemoryLedger) (limit : ExerciseControlLimit) :
    List ExerciseControlActiveUsage :=
  s.reservations.values.filterMap (s.usageEntry P (exerciseControlBucketKey limit))

/-- The entry fits the limit beside the earlier entries in its own window. -/
def FitsEntry (limit : ExerciseControlLimit) (before : List ExerciseControlActiveUsage)
    (e : ExerciseControlActiveUsage) : Prop :=
  Fits ⟨limit,e.usage⟩ (before.filter (inWindow limit.window e.reservedAtMs))

theorem fits_sublist {rule : ExerciseControlRuleUsage}
    {windowed windowed' : List ExerciseControlActiveUsage} (hsub : windowed'.Sublist windowed)
    (h : Fits rule windowed) : Fits rule windowed' := by
  unfold Fits at h ⊢
  cases hmeasure : rule.limit.measure with
  | count maximum =>
    simp only [hmeasure] at h ⊢
    have := hsub.length_le
    omega
  | amount maximum unit =>
    simp only [hmeasure] at h ⊢
    refine ⟨fun e he => h.1 e (hsub.subset he),le_trans ?_ h.2⟩
    refine add_le_add_right ((hsub.map usageValue).sum_le_sum ?_) _
    intro v hv
    obtain ⟨e,-,rfl⟩ := mem_map.1 hv
    exact decimalValue_nonneg _

variable {limit : ExerciseControlLimit} {s : InMemoryLedger} {id : String}
  {q : ExerciseControlActiveUsage → Bool}

theorem fitsEntry_sublist {before before' : List ExerciseControlActiveUsage}
    {e : ExerciseControlActiveUsage} (hsub : before'.Sublist before)
    (h : FitsEntry limit before e) : FitsEntry limit before' e :=
  fits_sublist (hsub.filter _) h

/-- What holds of a ledger whose requests all state the limit for its bucket. -/
structure BucketSound (P : Platform) (limit : ExerciseControlLimit) (s : InMemoryLedger) : Prop where
  stated : ∀ record ∈ s.reservations.values, ∀ rule ∈ record.rules,
    exerciseControlBucketKey rule.limit = exerciseControlBucketKey limit → rule.limit = limit
  instants : ∀ record ∈ s.reservations.values, (P.dateParse record.reservedAt).isSome = true
  admitted : Admitted (FitsEntry limit) (s.bucketUsage P limit)

theorem bucketSound_empty (limit : ExerciseControlLimit) : BucketSound P limit .empty where
  stated := by simp [empty]
  instants := by simp [empty]
  admitted := Admitted.nil

theorem BucketSound.of_consumes_le {s' : InMemoryLedger} (h : BucketSound P limit s)
    (hreservations : s'.reservations = s.reservations)
    (hle : ∀ record ∈ s.reservations.values, s'.consumes record = true → s.consumes record = true) :
    BucketSound P limit s' where
  stated := by rw [hreservations]; exact h.stated
  instants := by rw [hreservations]; exact h.instants
  admitted := by
    refine h.admitted.sublist fitsEntry_sublist ?_
    unfold bucketUsage
    rw [hreservations]
    refine filterMap_sublist fun record hrecord => ?_
    unfold usageEntry
    by_cases hc : s'.consumes record = true
    · exact .inr (by rw [if_pos hc,if_pos (hle record hrecord hc)])
    · exact .inl (by rw [if_neg hc])

theorem BucketSound.reserved (h : BucketSound P limit s) {request : ExerciseReservationRequest}
    {now : String} (hreserves : Reserves (P := P) s request now)
    (hstated : ∀ rule ∈ request.rules, exerciseControlBucketKey rule.limit = exerciseControlBucketKey limit → rule.limit = limit) :
    BucketSound P limit
      { s with reservations := s.reservations.set request.reservationId ⟨request,now⟩ } := by
  have hvalues := OrderedMap.values_set_of_get_none hreserves.fresh
    (⟨request,now⟩ : ExerciseReservationRecord)
  have hinstant : (P.dateParse now).isSome = true := by
    have := hreserves.instant
    simp only [isExerciseReservationInstant,Bool.and_eq_true] at this
    exact this.2
  refine ⟨?_,?_,?_⟩
  · simp only [hvalues,mem_append,mem_singleton]
    rintro record (hold | rfl)
    · exact h.stated record hold
    · exact hstated
  · simp only [hvalues,mem_append,mem_singleton]
    rintro record (hold | rfl)
    · exact h.instants record hold
    · exact hinstant
  · have hsplit : bucketUsage P
        { s with reservations := s.reservations.set request.reservationId ⟨request,now⟩ } limit =
        s.bucketUsage P limit ++
          (s.usageEntry P (exerciseControlBucketKey limit) ⟨request,now⟩).toList := by
      rw [bucketUsage,hvalues,filterMap_append]
      cases hentry : s.usageEntry P (exerciseControlBucketKey limit) ⟨request,now⟩ with
      | none => rw [filterMap_cons_none (by exact hentry)]; rfl
      | some e => rw [filterMap_cons_some (by exact hentry)]; rfl
    rw [hsplit]
    cases hentry : s.usageEntry P (exerciseControlBucketKey limit) ⟨request,now⟩ with
    | none => simpa using h.admitted
    | some e =>
      refine h.admitted.concat ?_
      unfold usageEntry at hentry
      split_ifs at hentry
      obtain ⟨rule,hfind,rfl⟩ := Option.map_eq_some_iff.1 hentry
      have hmem : rule ∈ request.rules := mem_of_find?_eq_some hfind
      have hkey : exerciseControlBucketKey rule.limit = exerciseControlBucketKey limit := by
        simpa using List.find?_some hfind
      have hlimit := hstated rule hmem hkey
      have hfits := hreserves.fits rule hmem
      have husage : s.activeUsageFor P rule = s.bucketUsage P limit := by
        rw [activeUsageFor,bucketUsage,hkey]
      rw [husage,hlimit] at hfits
      obtain ⟨ruleLimit,usage⟩ := rule
      obtain rfl : ruleLimit = limit := hlimit
      exact hfits

theorem consumes_released (event : ExerciseReservationTerminalEvent)
    (hkind : event.kind = .released) (resolution : Option ExerciseReservationResolutionEvent)
    (h : exerciseReservationConsumes (some event) resolution = true) :
    exerciseReservationConsumes none resolution = true := by
  cases resolution with
  | none => rfl
  | some r =>
    cases hr : r.resolution <;>
      simp_all [exerciseReservationConsumes,exerciseReservationResolutionConsistent]

theorem consumes_settled (event : ExerciseReservationTerminalEvent)
    (hkind : event.kind = .settled) (resolution : Option ExerciseReservationResolutionEvent)
    (hnot : ∀ r, resolution = some r → r.resolution = .confirmedNotCompleted →
      event.reason = .executionUnconfirmed)
    (h : exerciseReservationConsumes (some event) resolution = true) :
    exerciseReservationConsumes none resolution = true := by
  cases resolution with
  | none => rfl
  | some r =>
    cases hr : r.resolution <;>
      simp_all [exerciseReservationConsumes,exerciseReservationResolutionConsistent]

theorem consumes_resolved (terminal : Option ExerciseReservationTerminalEvent)
    (event : ExerciseReservationResolutionEvent) (basis : ExerciseReservationResolutionBasis)
    (hconsistent : exerciseReservationResolutionConsistent terminal event.resolution basis = true)
    (h : exerciseReservationConsumes terminal (some event) = true) :
    exerciseReservationConsumes terminal none = true := by
  cases terminal with
  | none => rfl
  | some t =>
    cases hkind : t.kind <;> cases hr : event.resolution <;> cases basis <;>
      simp_all [exerciseReservationConsumes,exerciseReservationResolutionConsistent]

theorem consumes_terminals_le {event : ExerciseReservationTerminalEvent}
    (hnone : s.terminals.get id = none)
    (hle : exerciseReservationConsumes (some event) (s.resolutions.get id) = true → exerciseReservationConsumes none (s.resolutions.get id) = true)
    (record : ExerciseReservationRecord)
    (h : consumes { s with terminals := s.terminals.set id event } record = true) :
    s.consumes record = true := by
  simp only [consumes,OrderedMap.get_set_of_get_none hnone] at h ⊢
  split_ifs at h with hid
  · rw [hid,hnone]
    rw [hid] at h
    exact hle h
  · exact h

theorem consumes_resolutions_le {event : ExerciseReservationResolutionEvent}
    (hnone : s.resolutions.get id = none)
    (hle : exerciseReservationConsumes (s.terminals.get id) (some event) = true → exerciseReservationConsumes (s.terminals.get id) none = true)
    (record : ExerciseReservationRecord)
    (h : consumes { s with resolutions := s.resolutions.set id event } record = true) :
    s.consumes record = true := by
  simp only [consumes,OrderedMap.get_set_of_get_none hnone] at h ⊢
  split_ifs at h with hid
  · rw [hid,hnone]
    rw [hid] at h
    exact hle h
  · exact h

/-- The calls keep the invariant when they state the limit and do not settle what
was resolved as not completed. -/
theorem bucketSound_after {c : LedgerCall} (h : BucketSound P limit s)
    (hstated : ∀ request now, c = .reserve request now → ∀ rule ∈ request.rules, exerciseControlBucketKey rule.limit = exerciseControlBucketKey limit → rule.limit = limit)
    (hsettle : ¬ SettlesResolvedNotCompleted P s c) : BucketSound P limit (s.after P c) := by
  have heffect := effect_after (P := P) s c
  generalize s.after P c = s' at heffect
  cases heffect with
  | none => exact h
  | reserved request now hreserves => exact h.reserved hreserves (hstated request now rfl)
  | settled input reservation hreason hat hreservation hnone =>
    refine h.of_consumes_le rfl fun record _ => consumes_terminals_le hnone ?_ record
    refine consumes_settled _ rfl _ fun r hr hnot => ?_
    by_contra hreason'
    refine hsettle ⟨input,
      { s with terminals := s.terminals.set input.reservationId (input.event .settled) },
      rfl,?_,?_,r,hr,hnot⟩
    · simp only [call,terminal,exerciseReservationTerminalReasonMatches,hreason,hreservation,
        hnone,Option.isNone_eq_false_iff.2 hat]
      rfl
    · simp only [TerminalInput.event] at hreason'
      cases hcase : input.reason <;> simp_all [isExerciseReservationSettleReason]
  | released input reservation hreason hat hreservation hnone =>
    refine h.of_consumes_le rfl fun record _ => consumes_terminals_le hnone ?_ record
    exact consumes_released _ rfl _
  | resolved input reservation hinput hreservation hexecution hnone hconsistent =>
    refine h.of_consumes_le rfl fun record _ => consumes_resolutions_le hnone ?_ record
    exact consumes_resolved _ _ input.basis hconsistent

theorem bucketSound_run {calls : List LedgerCall} (h : BucketSound P limit s)
    (hstated : ∀ request now, .reserve request now ∈ calls → ∀ rule ∈ request.rules, exerciseControlBucketKey rule.limit = exerciseControlBucketKey limit → rule.limit = limit)
    (hsettle : ∀ before c after, calls = before ++ c :: after → ¬ SettlesResolvedNotCompleted P (s.run P before) c) :
    BucketSound P limit (s.run P calls) := by
  induction calls generalizing s with
  | nil => exact h
  | cons c calls ih =>
    have hstep : BucketSound P limit (s.after P c) := by
      refine bucketSound_after h (fun request now hc => ?_) (hsettle [] c calls rfl)
      exact hstated request now (by simp [hc])
    refine ih hstep (fun request now hc => hstated request now (by simp [hc])) ?_
    intro before d after hsplit
    exact hsettle (c :: before) d after (by rw [hsplit]; rfl)

private theorem usageIn_eq_find (limit : ExerciseControlLimit)
    (reservation : ExerciseReservationRecord) :
    usageIn limit.limitId limit.scopeKey reservation = (reservation.rules.find? fun entry =>
        exerciseControlBucketKey entry.limit == exerciseControlBucketKey limit).map (·.usage) := by
  have hkey : (fun rule : ExerciseControlRuleUsage =>
      rule.limit.limitId == limit.limitId && rule.limit.scopeKey == limit.scopeKey) =
      fun rule => exerciseControlBucketKey rule.limit == exerciseControlBucketKey limit := by
    funext rule
    rw [Bool.eq_iff_iff]
    simp only [exerciseControlBucketKey,Bool.and_eq_true,beq_iff_eq,bucketKey_inj]
  rw [usageIn,hkey]

theorem consumingUsages_eq {p : ExerciseReservationRecord → Bool}
    (hpq : ∀ record rule, p record = q (activeUsageOf P rule record.reservedAt)) :
    s.consumingUsages limit.limitId limit.scopeKey p =
      ((s.bucketUsage P limit).filter q).map (·.usage) := by
  unfold consumingUsages bucketUsage
  induction s.reservations.values with
  | nil => rfl
  | cons record records ih =>
    simp only [filterMap_cons,usageEntry]
    by_cases hc : s.consumes record = true
    · rw [if_pos hc,filter_cons_of_pos hc]
      cases hfind : record.rules.find? fun entry =>
          exerciseControlBucketKey entry.limit == exerciseControlBucketKey limit with
      | none =>
        by_cases hp : p record = true
        · rw [filter_cons_of_pos hp,filterMap_cons_none
            (by rw [usageIn_eq_find,hfind]; rfl)]
          simpa using ih
        · rw [filter_cons_of_neg hp]
          simpa using ih
      | some rule =>
        by_cases hp : p record = true
        · rw [filter_cons_of_pos hp,filterMap_cons_some
            (by rw [usageIn_eq_find,hfind]; rfl)]
          simp only [Option.map_some]
          rw [filter_cons_of_pos (by rw [← hpq]; exact hp),map_cons,ih]
          rfl
        · rw [filter_cons_of_neg hp]
          simp only [Option.map_some]
          rw [filter_cons_of_neg (by rw [← hpq]; exact hp)]
          exact ih
    · rw [if_neg hc,filter_cons_of_neg hc]
      exact ih

theorem BucketSound.within (h : BucketSound P limit s) (hlimit : LimitWellFormed limit)
    (hq : ∀ e f, q e = true → q f = true → inWindow limit.window e.reservedAtMs f = true) :
    WithinMaximum limit (((s.bucketUsage P limit).filter q).map (·.usage)) := by
  have hadmitted := h.admitted
  unfold WithinMaximum
  cases hmeasure : limit.measure with
  | count maximum =>
    have hone : Admitted (fun before (e : ExerciseControlActiveUsage) =>
        (1 : Int) + ((before.filter (inWindow limit.window e.reservedAtMs)).map
          fun _ => (1 : Int)).sum ≤ maximum) (s.bucketUsage P limit) := by
      intro before e after hsplit
      have hfits := hadmitted before e after hsplit
      simp only [FitsEntry,Fits,hmeasure] at hfits
      simp only [map_const',sum_replicate,nsmul_eq_mul,mul_one]
      omega
    have hmaximum : (0 : Int) ≤ maximum := le_trans (by decide) (hlimit.count_pos maximum hmeasure)
    have hsum := hone.sum_le (w := fun _ => (1 : Int))
      (v := fun e => inWindow limit.window e.reservedAtMs)
      (fun _ => by decide) hmaximum (p := q) fun e _ f _ he hf => hq e f he hf
    simpa using hsum
  | amount maximum unit =>
    have hvalue : Admitted (fun before (e : ExerciseControlActiveUsage) =>
        usageValue e + ((before.filter (inWindow limit.window e.reservedAtMs)).map
          usageValue).sum ≤ decimalValue maximum) (s.bucketUsage P limit) := by
      intro before e after hsplit
      have hfits := hadmitted before e after hsplit
      simp only [FitsEntry,Fits,hmeasure] at hfits
      exact hfits.2
    have hsum := hvalue.sum_le (v := fun e => inWindow limit.window e.reservedAtMs)
      (fun _ => decimalValue_nonneg _) (decimalValue_nonneg _) (p := q)
      fun e _ f _ he hf => hq e f he hf
    simpa [map_map,Function.comp_def,usageValue] using hsum

/-- The limit's maximum bounds the consuming usage of its bucket: all of it under a
lifetime window, that of every span of the window's length under a rolling one. -/
def LimitHolds (P : Platform) (limit : ExerciseControlLimit) (s : InMemoryLedger) : Prop :=
  match limit.window with
  | .lifetime =>
      WithinMaximum limit (s.consumingUsages limit.limitId limit.scopeKey fun _ => true)
  | .rolling seconds =>
      ∀ t, WithinMaximum limit
        (s.consumingUsages limit.limitId limit.scopeKey (reservedWithin P seconds t))

theorem BucketSound.limitHolds (h : BucketSound P limit s) (hlimit : LimitWellFormed limit) :
    LimitHolds P limit s := by
  unfold LimitHolds
  cases hwindow : limit.window with
  | lifetime =>
    simp only
    rw [consumingUsages_eq (P := P) (q := fun _ => true) fun _ _ => rfl]
    exact h.within hlimit fun e f _ _ => by simp [inWindow,hwindow]
  | rolling seconds =>
    intro t
    rw [consumingUsages_eq (P := P) (q := fun e => match e.reservedAtMs with
      | none => false
      | some ms => decide (t - seconds * 1000 < ms ∧ ms ≤ t)) fun _ _ => rfl]
    refine h.within hlimit fun e f he hf => ?_
    -- both instants lie in the span, so the later-admitted one sees the other
    cases hte : e.reservedAtMs with
    | none => simp [hte] at he
    | some te =>
      cases htf : f.reservedAtMs with
      | none => simp [htf] at hf
      | some tf =>
        simp only [hte,htf,decide_eq_true_eq] at he hf
        simp only [inWindow,hwindow,htf,decide_eq_true_eq,gt_iff_lt]
        omega

/-- Aggregate-limit safety: after any calls in any order and under any clock, the
consuming usage of a bucket stays within the limit that every request states for it. -/
theorem aggregateLimit_safe (P : Platform) (limit : ExerciseControlLimit)
    (hlimit : snapshotLimit limit = some limit) (calls : List LedgerCall)
    (hstated : ∀ request now, .reserve request now ∈ calls → ∀ rule ∈ request.rules,
      rule.limit.limitId = limit.limitId → rule.limit.scopeKey = limit.scopeKey → rule.limit = limit)
    (hsettle : ∀ before c after, calls = before ++ c :: after →
      ¬ SettlesResolvedNotCompleted P (empty.run P before) c) :
    LimitHolds P limit (empty.run P calls) := by
  refine (bucketSound_run (bucketSound_empty limit) ?_ hsettle).limitHolds
    (snapshotLimit_wellFormed hlimit)
  intro request now hcall rule hrule hkey
  obtain ⟨hid,hscope⟩ := exerciseControlBucketKey_inj.1 hkey
  exact hstated request now hcall rule hrule hid hscope

def sampleCalls : List LedgerCall :=
  [.reserve sampleRequest sampleInstant, .settle ⟨sampleRequest.reservationId,.executed,sampleLaterInstant⟩]

theorem aggregateLimit_safe_sample :
    (empty.run samplePlatform sampleCalls).consumingUsages "daily-usd" "treasury"
        (fun _ => true) = ["60.5"] ∧
      LimitHolds samplePlatform sampleLimit (empty.run samplePlatform sampleCalls) := by
  refine ⟨?_,aggregateLimit_safe samplePlatform sampleLimit (by decide)
    sampleCalls ?_ ?_⟩
  · rw [sampleCalls,run_cons,sampleReserved_eq]
    decide
  · intro request now hcall rule hrule _ _
    obtain ⟨rfl,rfl⟩ : request = sampleRequest ∧ now = sampleInstant := by
      simpa [sampleCalls] using hcall
    have hrule' : rule = ⟨sampleLimit,"60.5"⟩ := by simpa [sampleRequest] using hrule
    rw [hrule']
  · rintro before c after hsplit ⟨input,s',rfl,-,-,event,hget,-⟩
    have hshape : before = [.reserve sampleRequest sampleInstant] ∧
        input.reservationId = sampleRequest.reservationId := by
      cases before with
      | nil => simp [sampleCalls] at hsplit
      | cons first rest =>
        cases rest with
        | nil =>
          simp only [sampleCalls,cons_append,nil_append,List.cons.injEq, LedgerCall.settle.injEq] at hsplit
          exact ⟨by rw [hsplit.1],by rw [← hsplit.2.1]⟩
        | cons second rest => simp [sampleCalls] at hsplit
    rw [hshape.1,hshape.2] at hget
    rw [run_cons,sampleReserved_eq] at hget
    simp [sampleReserved,run,empty,OrderedMap.empty,OrderedMap.get] at hget

end Frontera.ExerciseControl.InMemoryLedger
