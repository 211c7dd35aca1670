import Frontera.Data.OrderedMap
import Frontera.ExerciseControl.Admission

/-! `createInMemoryExerciseControlLedger`: three maps and five calls, each one synchronous section.
A call either answers and leaves a ledger behind, or raises and leaves the ledger as it was. -/

namespace Frontera.ExerciseControl

open Frontera.Data Frontera.Text

inductive ExerciseReservationTerminalOutcome where
  /-- `settled` or `released`, by the kind of the event. -/
  | recorded (kind : ExerciseReservationTerminalKind) (terminal : ExerciseReservationTerminalEvent)
  /-- `already-settled` or `already-released`. -/
  | already (kind : ExerciseReservationTerminalKind) (terminal : ExerciseReservationTerminalEvent)
  | conflict (terminal : ExerciseReservationTerminalEvent)
  | notFound

inductive ExerciseReservationResolutionOutcome where
  | applied (event : ExerciseReservationResolutionEvent)
  | alreadyApplied (event : ExerciseReservationResolutionEvent)
  | conflict (event : ExerciseReservationResolutionEvent)
  | inconsistent | notFound

/-- `ExerciseReservationSettlement` and `ExerciseReservationRelease`. -/
structure TerminalInput where
  reservationId : String
  reason : ExerciseReservationTerminalReason
  recordedAt : String

inductive ExerciseReservationState where
  | reserved
  | terminal (kind : ExerciseReservationTerminalKind)

structure ExerciseReservationView where
  reservation : ExerciseReservationRecord
  state : ExerciseReservationState
  terminal : Option ExerciseReservationTerminalEvent
  resolution : Option ExerciseReservationResolutionEvent

/-- The view of a reservation, with the state its terminal event gives it. -/
def viewOf (reservation : ExerciseReservationRecord)
    (terminal : Option ExerciseReservationTerminalEvent)
    (resolution : Option ExerciseReservationResolutionEvent) : ExerciseReservationView where
  reservation := reservation
  state := match terminal with
    | none => .reserved
    | some event => .terminal event.kind
  terminal := terminal
  resolution := resolution

/-- One call on a ledger. `reserve` carries the reading of the clock its section samples. -/
inductive LedgerCall where
  | reserve (request : ExerciseReservationRequest) (now : String)
  | settle (input : TerminalInput)
  | release (input : TerminalInput)
  | read (reservationId : String)
  | reconcileResolution (input : ExerciseReservationResolutionInput)

inductive LedgerAnswer where
  | reservation (outcome : ExerciseReservationOutcome)
  | terminal (outcome : ExerciseReservationTerminalOutcome)
  | view (view : Option ExerciseReservationView)
  | resolution (outcome : ExerciseReservationResolutionOutcome)

/-- The outcome of a terminal transition beside an event that already stands. -/
def terminalBeside (kind : ExerciseReservationTerminalKind) (input : TerminalInput)
    (existing : ExerciseReservationTerminalEvent) : ExerciseReservationTerminalOutcome :=
  if existing.kind = kind ∧ existing.reason = input.reason then .already kind existing
  else .conflict existing

/-- The outcome of a resolution beside one that already stands. -/
def resolutionBeside (input : ExerciseReservationResolutionInput)
    (existing : ExerciseReservationResolutionEvent) : ExerciseReservationResolutionOutcome :=
  if exerciseReservationResolutionMatches existing input then .alreadyApplied existing
  else .conflict existing

def TerminalInput.event (input : TerminalInput) (kind : ExerciseReservationTerminalKind) :
    ExerciseReservationTerminalEvent :=
  ⟨input.reservationId,kind,input.reason,input.recordedAt⟩

def ExerciseReservationResolutionInput.event (input : ExerciseReservationResolutionInput) :
    ExerciseReservationResolutionEvent :=
  ⟨input.reservationId,input.executionId,input.resolutionDigest,input.resolution, input.recordedAt⟩

structure InMemoryLedger where
  reservations : OrderedMap String ExerciseReservationRecord
  terminals : OrderedMap String ExerciseReservationTerminalEvent
  resolutions : OrderedMap String ExerciseReservationResolutionEvent

namespace InMemoryLedger

variable (P : Platform)

def empty : InMemoryLedger := ⟨.empty,.empty,.empty⟩

/-- Whether a reservation of this ledger consumes. -/
def consumes (s : InMemoryLedger) (reservation : ExerciseReservationRecord) : Bool :=
  exerciseReservationConsumes (s.terminals.get reservation.reservationId)
    (s.resolutions.get reservation.reservationId)

/-- What one reservation contributes to the active usage of a bucket. -/
def usageEntry (s : InMemoryLedger) (bucket : String) (reservation : ExerciseReservationRecord) :
    Option ExerciseControlActiveUsage :=
  if s.consumes reservation then
    (reservation.rules.find? fun entry => exerciseControlBucketKey entry.limit == bucket).map
      fun recorded => activeUsageOf P recorded reservation.reservedAt
  else none

def activeUsageFor (s : InMemoryLedger) (rule : ExerciseControlRuleUsage) :
    List ExerciseControlActiveUsage :=
  s.reservations.values.filterMap (s.usageEntry P (exerciseControlBucketKey rule.limit))

def reserve (s : InMemoryLedger) (request : ExerciseReservationRequest) (now : String) :
    Except LedgerThrow (ExerciseReservationOutcome × InMemoryLedger) :=
  if !isWellFormedExerciseReservationRequest P request then
    .error (.typeError "The reservation request is outside the closed contract.")
  else if !isExerciseReservationInstant P now then
    .error (.typeError "The ledger clock did not answer an instant.")
  else
    match s.reservations.get request.reservationId with
    | some existing =>
        if exerciseReservationsDescribeSameAttempt existing.toExerciseReservationRequest request
        then .ok (.alreadyReserved existing, s)
        else .ok (.conflict, s)
    | none =>
        if s.reservations.values.any fun other => other.executionId == request.executionId then
          .ok (.conflict, s)
        else
          match assessExerciseReservationAdmission P request now
              (fun rule => .ok (s.activeUsageFor P rule)) with
          | .error e => .error e
          | .ok (.refused reasonCodes refusedBuckets) =>
              .ok (.refused reasonCodes refusedBuckets, s)
          | .ok .admitted =>
              let record : ExerciseReservationRecord := ⟨request,now⟩
              .ok (.reserved record,
                { s with reservations := s.reservations.set record.reservationId record })

def terminal (s : InMemoryLedger) (kind : ExerciseReservationTerminalKind)
    (input : TerminalInput) :
    Except LedgerThrow (ExerciseReservationTerminalOutcome × InMemoryLedger) :=
  if !exerciseReservationTerminalReasonMatches kind input.reason ||
      (P.dateParse input.recordedAt).isNone then
    .error (.typeError "The terminal transition is outside the closed contract.")
  else
    match s.reservations.get input.reservationId with
    | none => .ok (.notFound, s)
    | some _ =>
        match s.terminals.get input.reservationId with
        | some existing => .ok (terminalBeside kind input existing, s)
        | none =>
            .ok (.recorded kind (input.event kind),
              { s with terminals := s.terminals.set input.reservationId (input.event kind) })

def read (s : InMemoryLedger) (reservationId : String) : Option ExerciseReservationView :=
  (s.reservations.get reservationId).map fun reservation =>
    viewOf reservation (s.terminals.get reservationId) (s.resolutions.get reservationId)

def reconcileResolution (s : InMemoryLedger) (input : ExerciseReservationResolutionInput) :
    Except LedgerThrow (ExerciseReservationResolutionOutcome × InMemoryLedger) :=
  if !isWellFormedExerciseReservationResolutionInput P input then
    .error (.typeError "The reservation resolution is outside the closed contract.")
  else
    match s.reservations.get input.reservationId with
    | none => .ok (.notFound, s)
    | some reservation =>
        if reservation.executionId ≠ input.executionId then .ok (.notFound, s)
        else
          match s.resolutions.get input.reservationId with
          | some existing => .ok (resolutionBeside input existing, s)
          | none =>
              if !exerciseReservationResolutionConsistent (s.terminals.get input.reservationId)
                  input.resolution input.basis then .ok (.inconsistent, s)
              else
                .ok (.applied input.event,
                  { s with resolutions := s.resolutions.set input.reservationId input.event })

/-- The answer of a call and the ledger after it. -/
def call (s : InMemoryLedger) : LedgerCall → Except LedgerThrow (LedgerAnswer × InMemoryLedger)
  | .reserve request now => (s.reserve P request now).map fun r => (.reservation r.1, r.2)
  | .settle input => (s.terminal P .settled input).map fun r => (.terminal r.1, r.2)
  | .release input => (s.terminal P .released input).map fun r => (.terminal r.1, r.2)
  | .read reservationId => .ok (.view (s.read reservationId), s)
  | .reconcileResolution input =>
      (s.reconcileResolution P input).map fun r => (.resolution r.1, r.2)

/-- The ledger after a call; a raised error leaves it as it was. -/
def after (s : InMemoryLedger) (c : LedgerCall) : InMemoryLedger :=
  match s.call P c with
  | .ok (_, s') => s'
  | .error _ => s

def run (s : InMemoryLedger) (calls : List LedgerCall) : InMemoryLedger :=
  calls.foldl (after P) s

variable {P}

/-- A reservation that was recorded, with what its section had established. -/
structure Reserves (s : InMemoryLedger) (request : ExerciseReservationRequest) (now : String) : Prop where
  wellFormed : isWellFormedExerciseReservationRequest P request = true
  instant : isExerciseReservationInstant P now = true
  fresh : s.reservations.get request.reservationId = none
  freshExecution : ∀ other ∈ s.reservations.values, other.executionId ≠ request.executionId
  fits : ∀ rule ∈ request.rules, Fits rule ((s.activeUsageFor P rule).filter
    (inWindow rule.limit.window (P.dateParse now)))

/-- A call leaves the ledger alone or adds one record to one map. -/
inductive Effect (P : Platform) (s : InMemoryLedger) : LedgerCall → InMemoryLedger → Prop
  | none (c : LedgerCall) : Effect P s c s
  | reserved (request : ExerciseReservationRequest) (now : String)
      (h : Reserves (P := P) s request now) :
      Effect P s (.reserve request now)
        { s with reservations := s.reservations.set request.reservationId ⟨request,now⟩ }
  | settled (input : TerminalInput) (reservation : ExerciseReservationRecord)
      (hreason : isExerciseReservationSettleReason input.reason = true)
      (hrecordedAt : (P.dateParse input.recordedAt).isSome = true)
      (hreservation : s.reservations.get input.reservationId = some reservation)
      (hnone : s.terminals.get input.reservationId = Option.none) :
      Effect P s (.settle input)
        { s with terminals := s.terminals.set input.reservationId (input.event .settled) }
  | released (input : TerminalInput) (reservation : ExerciseReservationRecord)
      (hreason : isExerciseReservationReleaseReason input.reason = true)
      (hrecordedAt : (P.dateParse input.recordedAt).isSome = true)
      (hreservation : s.reservations.get input.reservationId = some reservation)
      (hnone : s.terminals.get input.reservationId = Option.none) :
      Effect P s (.release input)
        { s with terminals := s.terminals.set input.reservationId (input.event .released) }
  | resolved (input : ExerciseReservationResolutionInput)
      (reservation : ExerciseReservationRecord)
      (hinput : isWellFormedExerciseReservationResolutionInput P input = true)
      (hreservation : s.reservations.get input.reservationId = some reservation)
      (hexecution : reservation.executionId = input.executionId)
      (hnone : s.resolutions.get input.reservationId = Option.none)
      (hconsistent : exerciseReservationResolutionConsistent
        (s.terminals.get input.reservationId) input.resolution input.basis = true) :
      Effect P s (.reconcileResolution input)
        { s with resolutions := s.resolutions.set input.reservationId input.event }

theorem reserve_cases (s : InMemoryLedger) (request : ExerciseReservationRequest)
    (now : String) :
    (∃ e, s.reserve P request now = .error e) ∨
    (∃ outcome, s.reserve P request now = .ok (outcome, s) ∧ ∀ record, outcome ≠ .reserved record) ∨
    (Reserves (P := P) s request now ∧ s.reserve P request now = .ok (.reserved ⟨request,now⟩,
      { s with reservations := s.reservations.set request.reservationId ⟨request,now⟩ })) := by
  unfold reserve
  by_cases hwell : isWellFormedExerciseReservationRequest P request = true
  · by_cases hinstant : isExerciseReservationInstant P now = true
    · rw [if_neg (by simp [hwell]),if_neg (by simp [hinstant])]
      cases hget : s.reservations.get request.reservationId with
      | some existing =>
        simp only
        split_ifs
        · exact .inr (.inl ⟨_,rfl,by simp⟩)
        · exact .inr (.inl ⟨_,rfl,by simp⟩)
      | none =>
        simp only
        split_ifs with hexecution
        · exact .inr (.inl ⟨_,rfl,by simp⟩)
        · have hrules := requestRules_of_wellFormed hwell
          have hactive : ∀ rule ∈ request.rules,
              (fun rule => (.ok (s.activeUsageFor P rule) : Except LedgerThrow _)) rule =
                .ok (s.activeUsageFor P rule) := fun _ _ => rfl
          cases hassess : assessExerciseReservationAdmission P request now
              (fun rule => .ok (s.activeUsageFor P rule)) with
          | error e => exact .inl ⟨e,rfl⟩
          | ok admission =>
            cases admission with
            | refused codes buckets => exact .inr (.inl ⟨_,rfl,by simp⟩)
            | admitted =>
              refine .inr (.inr ⟨⟨hwell,hinstant,hget,?_,?_⟩,rfl⟩)
              · simpa using hexecution
              · exact (assess_admitted_iff hrules hactive).1 hassess
    · exact .inl ⟨_,by rw [if_neg (by simp [hwell]),if_pos (by simpa using hinstant)]⟩
  · exact .inl ⟨_,if_pos (by simpa using hwell)⟩

theorem terminal_cases (s : InMemoryLedger) (kind : ExerciseReservationTerminalKind)
    (input : TerminalInput) :
    (∃ e, s.terminal P kind input = .error e) ∨ (∃ outcome, s.terminal P kind input = .ok (outcome, s)) ∨
    (∃ reservation, exerciseReservationTerminalReasonMatches kind input.reason = true ∧
      (P.dateParse input.recordedAt).isSome = true ∧
      s.reservations.get input.reservationId = some reservation ∧
      s.terminals.get input.reservationId = none ∧
      s.terminal P kind input = .ok (.recorded kind (input.event kind),
        { s with terminals := s.terminals.set input.reservationId (input.event kind) })) := by
  unfold terminal
  split_ifs with hinput
  · exact .inl ⟨_,rfl⟩
  · simp only [Bool.or_eq_true,Bool.not_eq_true',Option.isNone_iff_eq_none,not_or,
      Bool.not_eq_false,← Option.isSome_iff_ne_none] at hinput
    cases hreservation : s.reservations.get input.reservationId with
    | none => exact .inr (.inl ⟨_,rfl⟩)
    | some reservation =>
      cases hterminal : s.terminals.get input.reservationId with
      | some existing => exact .inr (.inl ⟨_,rfl⟩)
      | none => exact .inr (.inr ⟨reservation,hinput.1,hinput.2,rfl,rfl,rfl⟩)

theorem reconcileResolution_cases (s : InMemoryLedger)
    (input : ExerciseReservationResolutionInput) :
    (∃ e, s.reconcileResolution P input = .error e) ∨
    (∃ outcome, s.reconcileResolution P input = .ok (outcome, s)) ∨
    (∃ reservation, isWellFormedExerciseReservationResolutionInput P input = true ∧
      s.reservations.get input.reservationId = some reservation ∧
      reservation.executionId = input.executionId ∧ s.resolutions.get input.reservationId = none ∧
      exerciseReservationResolutionConsistent (s.terminals.get input.reservationId)
        input.resolution input.basis = true ∧
      s.reconcileResolution P input = .ok (.applied input.event,
        { s with resolutions := s.resolutions.set input.reservationId input.event })) := by
  unfold reconcileResolution
  by_cases hinput : isWellFormedExerciseReservationResolutionInput P input = true
  · rw [if_neg (by simp [hinput])]
    cases hreservation : s.reservations.get input.reservationId with
    | none => exact .inr (.inl ⟨_,rfl⟩)
    | some reservation =>
      by_cases hexecution : reservation.executionId = input.executionId
      · simp only [hexecution,ne_eq,not_true_eq_false,if_false]
        cases hresolution : s.resolutions.get input.reservationId with
        | some existing => exact .inr (.inl ⟨_,rfl⟩)
        | none =>
          simp only
          split_ifs with hconsistent
          · exact .inr (.inl ⟨_,rfl⟩)
          · refine .inr (.inr ⟨reservation,hinput,rfl,hexecution,trivial,?_,rfl⟩)
            simpa using hconsistent
      · exact .inr (.inl ⟨_,if_pos hexecution⟩)
  · exact .inl ⟨_,if_pos (by simpa using hinput)⟩

theorem effect_after (s : InMemoryLedger) (c : LedgerCall) : Effect P s c (s.after P c) := by
  unfold after call
  cases c with
  | reserve request now =>
    rcases reserve_cases (P := P) s request now with ⟨e,h⟩ | ⟨o,h,-⟩ | ⟨hreserves,h⟩
    · simpa [h,Except.map] using Effect.none _
    · simpa [h,Except.map] using Effect.none _
    · simpa [h,Except.map] using Effect.reserved request now hreserves
  | settle input =>
    rcases terminal_cases (P := P) s .settled input with
      ⟨e,h⟩ | ⟨o,h⟩ | ⟨reservation,hreason,hat,hreservation,hnone,h⟩
    · simpa [h,Except.map] using Effect.none _
    · simpa [h,Except.map] using Effect.none _
    · simpa [h,Except.map] using Effect.settled input reservation hreason hat hreservation hnone
  | release input =>
    rcases terminal_cases (P := P) s .released input with
      ⟨e,h⟩ | ⟨o,h⟩ | ⟨reservation,hreason,hat,hreservation,hnone,h⟩
    · simpa [h,Except.map] using Effect.none _
    · simpa [h,Except.map] using Effect.none _
    · simpa [h,Except.map] using Effect.released input reservation hreason hat hreservation hnone
  | read reservationId => exact Effect.none _
  | reconcileResolution input =>
    rcases reconcileResolution_cases (P := P) s input with
      ⟨e,h⟩ | ⟨o,h⟩ | ⟨reservation,hinput,hreservation,hexecution,hnone,hconsistent,h⟩
    · simpa [h,Except.map] using Effect.none _
    · simpa [h,Except.map] using Effect.none _
    · simpa [h,Except.map] using
        Effect.resolved input reservation hinput hreservation hexecution hnone hconsistent

variable {s : InMemoryLedger} {request : ExerciseReservationRequest} {now : String}

theorem run_induction {motive : InMemoryLedger → Prop} (hs : motive s)
    (hstep : ∀ s c s', motive s → Effect P s c s' → motive s') (calls : List LedgerCall) :
    motive (s.run P calls) := by
  induction calls generalizing s with
  | nil => exact hs
  | cons c calls ih => exact ih (hstep s c _ hs (effect_after s c))

theorem run_cons (s : InMemoryLedger) (c : LedgerCall) (calls : List LedgerCall) :
    s.run P (c :: calls) = (s.after P c).run P calls := rfl

theorem reserve_of_admitted (hwell : isWellFormedExerciseReservationRequest P request = true)
    (hinstant : isExerciseReservationInstant P now = true)
    (hget : s.reservations.get request.reservationId = none)
    (hany : (s.reservations.values.any fun other => other.executionId == request.executionId) = false)
    (hadmitted : assessExerciseReservationAdmission P request now (fun rule => .ok (s.activeUsageFor P rule)) = .ok .admitted) :
    s.reserve P request now = .ok (.reserved ⟨request,now⟩, { s with
      reservations := s.reservations.set request.reservationId ⟨request,now⟩ }) := by
  unfold reserve
  simp only [hwell,hinstant,hget,hany,hadmitted,Bool.not_true,Bool.false_eq_true,if_false]

theorem after_reserve {s' : InMemoryLedger} {outcome : ExerciseReservationOutcome}
    (h : s.reserve P request now = .ok (outcome, s')) : s.after P (.reserve request now) = s' := by
  simp only [after,call,h,Except.map]

/-- The ledger that holds the sample reservation and nothing else. -/
def sampleReserved : InMemoryLedger :=
  { empty with reservations :=
      OrderedMap.empty.set sampleRequest.reservationId ⟨sampleRequest,sampleInstant⟩ }

theorem sampleReserved_eq :
    empty.after samplePlatform (.reserve sampleRequest sampleInstant) = sampleReserved :=
  after_reserve (reserve_of_admitted sampleRequest_wellFormed (by decide) rfl rfl
    (by decide))

end InMemoryLedger

end Frontera.ExerciseControl
