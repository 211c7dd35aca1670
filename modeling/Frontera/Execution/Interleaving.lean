import Frontera.Execution.Service

/-! Every step leaves the system alone, starts a call, moves one call without the ledger, lets the
ledger act on one reservation, invokes the adapter, or lets the ledger act on one finalization.
Invariants of a run are proved over these six. -/

namespace Frontera.Execution

open Frontera.Data Frontera.ExerciseControl Frontera.Grant ExerciseSystem ExecutionEvent

variable {P : Platform}

/-- The reservation a call holds, from the ledger's answer on. -/
def CallStage.reservation? : CallStage → Option ExerciseReservationHandle
  | .reserveAnswered request (some (.reserved _)) _ _ =>
      some ⟨request.reservationId,request.authorityBindingDigest⟩
  | .secondRead reservation => some reservation
  | .executing reservation _ _ => some reservation
  | .finalizing reservation _ => some reservation
  | .done reservation _ => reservation
  | _ => none

/-- The adapter has not been invoked, and may yet be. -/
def CallStage.beforeCrossing : CallStage → Bool
  | .firstRead | .reserving _ _ _ | .reserveAnswered _ _ _ _ | .secondRead _ => true
  | _ => false

def CallStage.isDone : CallStage → Bool
  | .done _ _ => true
  | _ => false

/-- The reservation a call has asked for, or is being answered about. -/
def CallStage.asked? : CallStage → Option ExerciseReservationRequest
  | .reserving request _ _ | .reserveAnswered request _ _ _ => some request
  | _ => none

/-- The outcome a call has come to. -/
def CallStage.outcome? : CallStage → Option ExecutionOutcome
  | .finalizing _ outcome | .done _ outcome => some outcome
  | _ => none

/-- The call has come to an outcome under which the attempt may have taken effect. -/
def CallStage.spends (stage : CallStage) : Bool :=
  stage.outcome?.any fun outcome =>
    outcome.status == .executed || outcome.status == .executionUnconfirmed

/-- An event that neither changes the ledger nor crosses to the provider. -/
def ExecutionEvent.isQuiet : ExecutionEvent → Bool
  | .secondRead _ _ | .clock _ _ | .revalidated _ _ | .emergencyRead _ _ => true
  | _ => false

/-- A move of one call that leaves the ledger alone and does not cross. -/
structure QuietMove (P : Platform) (label : ExerciseStep) (request : GrantExerciseRequest)
    (stage stage' : CallStage) (events : List ExecutionEvent) : Prop where
  quiet : ∀ event ∈ events, event.isQuiet = true
  kept : stage'.reservation? = stage.reservation? ∨
    (stage'.reservation? = none ∧ stage.beforeCrossing = true)
  before : stage'.beforeCrossing = true → stage.beforeCrossing = true
  open' : stage.isDone = false
  asked : ∀ asked, stage'.asked? = some asked → ∃ call reading clock host grant at',
    label = .firstRead call reading clock host ∧
    AdmitsRequest P host.toExerciseControlHost (exerciseControlInputFor request grant at') asked
  done : stage'.isDone = true → stage'.reservation? = none
  spends : stage'.spends = true → stage'.reservation?.isSome = true

/-- What a reservation asked of the ledger comes to. -/
inductive ReserveResult (P : Platform) (ledger : InMemoryLedger)
    (request : ExerciseReservationRequest) (now : String) :
    Option ExerciseReservationOutcome → InMemoryLedger → Prop
  | unrecorded (answer : Option ExerciseReservationOutcome)
      (h : ∀ record, answer ≠ some (.reserved record)) :
      ReserveResult P ledger request now answer ledger
  | recorded (answer : Option ExerciseReservationOutcome)
      (h : InMemoryLedger.Reserves (P := P) ledger request now)
      (hanswer : ∀ record, answer = some (.reserved record) → record = ⟨request,now⟩) :
      ReserveResult P ledger request now answer
        { ledger with reservations :=
            ledger.reservations.set request.reservationId ⟨request,now⟩ }

/-- What a finalization asked of the ledger comes to. -/
inductive FinalizeResult (P : Platform) (ledger : InMemoryLedger) (reservationId : String)
    (kind : ExerciseReservationTerminalKind) : InMemoryLedger → Prop
  | retained : FinalizeResult P ledger reservationId kind ledger
  | recorded (call : LedgerCall) (terminal : ExerciseReservationTerminalEvent)
      (hid : terminal.reservationId = reservationId) (hkind : terminal.kind = kind)
      (hnone : ledger.terminals.get reservationId = none)
      (heffect : ledger.after P call =
        { ledger with terminals := ledger.terminals.set reservationId terminal })
      (hcall : ∀ request now, call ≠ .reserve request now) :
      FinalizeResult P ledger reservationId kind
        { ledger with terminals := ledger.terminals.set reservationId terminal }

theorem reserveWith_result (ledger : InMemoryLedger) (request : ExerciseReservationRequest)
    (now : String) (fault : LedgerFault) :
    ReserveResult P ledger request now (reserveWith P ledger request now fault).1
      (reserveWith P ledger request now fault).2 := by
  have hcases := InMemoryLedger.reserve_cases (P := P) ledger request now
  cases fault with
  | before => exact .unrecorded none (by simp)
  | none =>
    delta reserveWith
    simp only
    rcases hcases with ⟨e,h⟩ | ⟨outcome,h,hnot⟩ | ⟨hreserves,h⟩
    · rw [h]
      exact .unrecorded none (by simp)
    · rw [h]
      refine .unrecorded (some outcome) fun record heq => hnot record ?_
      exact Option.some.inj heq
    · rw [h]
      exact .recorded _ hreserves fun record heq => by cases heq; rfl
  | after =>
    delta reserveWith
    simp only [InMemoryLedger.after,InMemoryLedger.call]
    rcases hcases with ⟨e,h⟩ | ⟨outcome,h,-⟩ | ⟨hreserves,h⟩
    · rw [h]
      exact .unrecorded none (by simp)
    · rw [h]
      exact .unrecorded none (by simp)
    · rw [h]
      exact .recorded none hreserves (by simp)

theorem finalizeWith_result (ledger : InMemoryLedger) (reservation : ExerciseReservationHandle)
    (outcome : ExecutionOutcome) (recordedAt : Option String) (fault : LedgerFault) :
    FinalizeResult P ledger reservation.reservationId (reservationDispositionFor outcome).kind
      (finalizeWith P ledger reservation outcome recordedAt fault) := by
  have hcall : ∀ at', FinalizeResult P ledger reservation.reservationId
      (reservationDispositionFor outcome).kind
      (ledger.after P (finalizeCall reservation (reservationDispositionFor outcome) at')) := by
    intro at'
    have heffect := InMemoryLedger.effect_after (P := P) ledger
      (finalizeCall reservation (reservationDispositionFor outcome) at')
    generalize hafter : ledger.after P
      (finalizeCall reservation (reservationDispositionFor outcome) at') = ledger' at heffect
    unfold finalizeCall at heffect hafter
    cases hkind : (reservationDispositionFor outcome).kind with
    | settled =>
      simp only [hkind] at heffect hafter
      cases heffect with
      | none => exact .retained
      | settled input record hreason hrecordedAt hrecord hnone =>
        exact .recorded _ _ rfl rfl hnone hafter (by simp)
    | released =>
      simp only [hkind] at heffect hafter
      cases heffect with
      | none => exact .retained
      | released input record hreason hrecordedAt hrecord hnone =>
        exact .recorded _ _ rfl rfl hnone hafter (by simp)
  cases fault with
  | before => exact .retained
  | none =>
    cases recordedAt with
    | none => exact .retained
    | some at' => exact hcall at'
  | after =>
    cases recordedAt with
    | none => exact .retained
    | some at' => exact hcall at'

theorem afterFirstRead_cases (request : GrantExerciseRequest) (reading : StoreReading)
    (clock : Option String) (host : ExecutionHost) :
    afterFirstRead P request reading clock host = .rejected ∨
    (∃ outcome, afterFirstRead P request reading clock host = .done none outcome ∧
      ¬ (CallStage.done none outcome).spends = true) ∨
    ∃ asked assessment at' grant,
      afterFirstRead P request reading clock host = .reserving asked assessment at' ∧
      AdmitsRequest P host.toExerciseControlHost (exerciseControlInputFor request grant at')
        asked := by
  unfold afterFirstRead
  cases clock with
  | none => exact .inl rfl
  | some at' =>
    simp only
    cases hgrant : (assessReading P request reading at').2 with
    | none => exact .inr (.inl ⟨_,rfl,by simp [CallStage.spends,CallStage.outcome?]⟩)
    | some grant =>
      simp only
      cases readEmergencyControl host.emergencyControl (emergencyQueryFor request grant) with
      | clear =>
        simp only
        cases hadmitted : admitExercise P host.toExerciseControlHost
            (exerciseControlInputFor request grant at') with
        | raised => exact .inl rfl
        | withheld reasonCodes =>
          exact .inr (.inl ⟨_,rfl,by simp [CallStage.spends,CallStage.outcome?]⟩)
        | reserve asked =>
          exact .inr (.inr ⟨asked,_,at',grant,rfl,admit_reserve P hadmitted⟩)
      | blocked matchedScopes =>
        exact .inr (.inl ⟨_,rfl,by simp [CallStage.spends,CallStage.outcome?]⟩)
      | unavailable => exact .inr (.inl ⟨_,rfl,by simp [CallStage.spends,CallStage.outcome?]⟩)

theorem afterFirstRead_quiet (call : Nat) (request : GrantExerciseRequest)
    (reading : StoreReading) (clock : Option String) (host : ExecutionHost) :
    QuietMove P (.firstRead call reading clock host) request .firstRead
      (afterFirstRead P request reading clock host) [] := by
  rcases afterFirstRead_cases (P := P) request reading clock host with
    h | ⟨outcome,h,hstatus⟩ | ⟨asked,assessment,at',grant,h,hadmits⟩
  · rw [h]
    exact ⟨by simp,.inl rfl,fun _ => rfl,rfl,by simp [CallStage.asked?],fun h => (by cases h),
      fun h => by cases h⟩
  · rw [h]
    exact ⟨by simp,.inl rfl,fun _ => rfl,rfl,by simp [CallStage.asked?],fun _ => rfl,
      fun hspends => absurd hspends hstatus⟩
  · rw [h]
    refine ⟨by simp,.inl rfl,fun _ => rfl,rfl,?_,fun h => (by cases h),fun h => by cases h⟩
    rintro _ ⟨⟩
    exact ⟨call,reading,clock,host,grant,at',rfl,hadmits⟩

theorem afterReserve_quiet (label : ExerciseStep) (request : GrantExerciseRequest)
    (asked : ExerciseReservationRequest) (answer : Option ExerciseReservationOutcome)
    (assessment : BoundedGrantExerciseAssessment) (exercisedAt : String) :
    QuietMove P label request (.reserveAnswered asked answer assessment exercisedAt)
      (afterReserve request asked answer assessment exercisedAt) [] := by
  unfold afterReserve
  cases hadmission : admissionFrom asked answer with
  | withheld reasonCodes =>
    exact ⟨by simp,.inr ⟨rfl,rfl⟩,fun _ => rfl,rfl,by simp [CallStage.asked?],fun _ => rfl,
      by simp [CallStage.spends,CallStage.outcome?]⟩
  | admitted reservation =>
    obtain ⟨⟨record,rfl⟩,rfl⟩ := admissionFrom_admitted hadmission
    exact ⟨by simp,.inl rfl,fun _ => rfl,rfl,by simp [CallStage.asked?],fun h => (by cases h),
      fun h => by cases h⟩

theorem assessReading_some {request : GrantExerciseRequest} {reading : StoreReading}
    {at' : String} {grant : BoundedGrant} (h : (assessReading P request reading at').2 = some grant) :
    ∃ revocation, reading = .answered (some grant) revocation ∧
      (assessBoundedGrantExercise P grant revocation request at').usable = true := by
  cases reading with
  | raised => cases h
  | answered read revocation =>
    cases read with
    | none => cases h
    | some read =>
      simp only [assessReading] at h
      split_ifs at h with husable
      cases h
      exact ⟨revocation,rfl,husable⟩

/-- The events of the segment that invokes the adapter. -/
def crossingEvents (call : Nat) (request : GrantExerciseRequest)
    (reservation : ExerciseReservationHandle) (grant : BoundedGrant)
    (revocation : Option GrantRevocation) (at' : String) : List ExecutionEvent :=
  [.secondRead call (.answered (some grant) revocation), .clock call at',
    .revalidated call (some reservation.authorityBindingDigest), .emergencyRead call .clear,
    .execute call (actionFor request grant)]

theorem afterSecondRead_cases (label : ExerciseStep) (call : Nat) (request : GrantExerciseRequest)
    (reservation : ExerciseReservationHandle) (reading : StoreReading) (clock : Option String)
    (host : ExecutionHost) :
    (∃ stage events, afterSecondRead P call request reservation reading clock host =
        (stage, events) ∧ QuietMove P label request (.secondRead reservation) stage events) ∨
      ∃ grant revocation assessment at',
        (assessBoundedGrantExercise P grant revocation request at').usable = true ∧
        afterSecondRead P call request reservation reading clock host =
          (.executing reservation assessment at',
            crossingEvents call request reservation grant revocation at') := by
  have hfinish : ∀ outcome events, (∀ event ∈ events, event.isQuiet = true) →
      QuietMove P label request (.secondRead reservation) (.finalizing reservation outcome)
        events := by
    intro outcome events hquiet
    exact ⟨hquiet,.inl rfl,fun _ => rfl,rfl,by simp [CallStage.asked?],fun h => (by cases h), fun _ => rfl⟩
  have hreject : ∀ events, (∀ event ∈ events, event.isQuiet = true) →
      QuietMove P label request (.secondRead reservation) .rejected events := by
    intro events hquiet
    exact ⟨hquiet,.inr ⟨rfl,rfl⟩,fun _ => rfl,rfl,by simp [CallStage.asked?],
      fun h => (by cases h),fun h => by cases h⟩
  unfold afterSecondRead
  cases clock with
  | none => exact .inl ⟨_,_,rfl,hreject _ (by simp [isQuiet])⟩
  | some at' =>
    simp only
    cases hgrant : (assessReading P request reading at').2 with
    | none => exact .inl ⟨_,_,rfl,hfinish _ _ (by simp [isQuiet])⟩
    | some grant =>
      simp only
      cases hvalid : revalidate P host.toExerciseControlHost reservation
          (exerciseControlInputFor request grant at') with
      | raised => exact .inl ⟨_,_,rfl,hreject _ (by simp [isQuiet])⟩
      | withheld reasonCodes =>
        exact .inl ⟨_,_,rfl,hfinish _ _ (by simp [isQuiet])⟩
      | verified =>
        simp only
        cases readEmergencyControl host.emergencyControl (emergencyQueryFor request grant) with
        | clear =>
          obtain ⟨revocation,rfl,husable⟩ := assessReading_some hgrant
          refine .inr ⟨grant,revocation,
            (assessReading P request (.answered (some grant) revocation) at').1,at',husable,?_⟩
          rw [revalidate_verified P hvalid]
          rfl
        | blocked matchedScopes =>
          exact .inl ⟨_,_,rfl,hfinish _ _ (by simp [isQuiet])⟩
        | unavailable =>
          exact .inl ⟨_,_,rfl,hfinish _ _ (by simp [isQuiet])⟩

theorem adapterAnswer_quiet (label : ExerciseStep) (request : GrantExerciseRequest)
    (reservation : ExerciseReservationHandle) (assessment : BoundedGrantExerciseAssessment)
    (exercisedAt : String) (outcome : ExecutionOutcome) :
    QuietMove P label request (.executing reservation assessment exercisedAt)
      (.finalizing reservation outcome) [] :=
  ⟨by simp,.inl rfl,fun h => (by cases h),rfl,by simp [CallStage.asked?],
    fun h => (by cases h),fun _ => rfl⟩

/-- The six things a step does. -/
inductive StepEffect (P : Platform) (s : ExerciseSystem) (label : ExerciseStep) : ExerciseSystem → Prop
  | stay : StepEffect P s label s
  | start (request : GrantExerciseRequest) :
      StepEffect P s label ⟨s.ledger,s.calls ++ [⟨request,.firstRead⟩],
        s.history ++ [started s.calls.length request]⟩
  | quiet (call : Nat) (request : GrantExerciseRequest) (stage stage' : CallStage)
      (events : List ExecutionEvent) (hcall : s.calls[call]? = some ⟨request,stage⟩)
      (h : QuietMove P label request stage stage' events) :
      StepEffect P s label (s.move call request stage' events)
  | reserve (call : Nat) (request : GrantExerciseRequest) (asked : ExerciseReservationRequest)
      (assessment : BoundedGrantExerciseAssessment) (exercisedAt now : String)
      (answer : Option ExerciseReservationOutcome) (ledger : InMemoryLedger)
      (hcall : s.calls[call]? = some ⟨request,.reserving asked assessment exercisedAt⟩)
      (h : ReserveResult P s.ledger asked now answer ledger) :
      StepEffect P s label { s.move call request
        (.reserveAnswered asked answer assessment exercisedAt)
        (reservedEvents call answer) with ledger := ledger }
  | cross (call : Nat) (request : GrantExerciseRequest) (reservation : ExerciseReservationHandle)
      (grant : BoundedGrant) (revocation : Option GrantRevocation)
      (assessment : BoundedGrantExerciseAssessment) (at' : String)
      (hcall : s.calls[call]? = some ⟨request,.secondRead reservation⟩)
      (husable : (assessBoundedGrantExercise P grant revocation request at').usable = true) :
      StepEffect P s label (s.move call request (.executing reservation assessment at')
        (crossingEvents call request reservation grant revocation at'))
  | finalize (call : Nat) (request : GrantExerciseRequest)
      (reservation : ExerciseReservationHandle) (outcome : ExecutionOutcome)
      (ledger : InMemoryLedger)
      (hcall : s.calls[call]? = some ⟨request,.finalizing reservation outcome⟩)
      (h : FinalizeResult P s.ledger reservation.reservationId
        (reservationDispositionFor outcome).kind ledger) :
      StepEffect P s label { s.move call request (.done (some reservation) outcome)
        (finalizedEvents call reservation.reservationId s.ledger ledger) with
          ledger := ledger }

theorem stepEffect (trusted : Bool) (s : ExerciseSystem) (label : ExerciseStep) :
    StepEffect P s label (s.step P trusted label) := by
  cases label with
  | start request => exact .start request
  | firstRead call reading clock host =>
    simp only [step]
    split
    · next request hcall =>
      exact .quiet call request _ _ _ hcall (afterFirstRead_quiet call request reading clock host)
    · exact .stay
  | reserve call now fault =>
    simp only [step]
    split
    · next request asked assessment exercisedAt hcall =>
      exact .reserve call request asked assessment exercisedAt now _ _ hcall
        (reserveWith_result s.ledger asked now fault)
    · exact .stay
  | reserveAnswer call =>
    simp only [step]
    split
    · next request asked answer assessment exercisedAt hcall =>
      exact .quiet call request _ _ _ hcall (afterReserve_quiet _ request asked answer _ _)
    · exact .stay
  | secondRead call reading clock host =>
    simp only [step]
    split
    · next request reservation hcall =>
      rcases afterSecondRead_cases (P := P) (.secondRead call reading clock host) call request
        reservation reading clock host with
        ⟨stage,events,heq,hquiet⟩ | ⟨grant,revocation,assessment,at',husable,heq⟩
      · rw [heq]
        exact .quiet call request _ _ _ hcall hquiet
      · rw [heq]
        exact .cross call request reservation grant revocation assessment at' hcall husable
    · exact .stay
  | adapterAnswer call answer =>
    simp only [step]
    split
    · next request reservation assessment exercisedAt hcall =>
      exact .quiet call request _ _ _ hcall (adapterAnswer_quiet _ request reservation _ _ _)
    · exact .stay
  | finalize call recordedAt fault =>
    simp only [step]
    split
    · next request reservation outcome hcall =>
      exact .finalize call request reservation outcome _ hcall
        (finalizeWith_result s.ledger reservation outcome recordedAt fault)
    · exact .stay

theorem ExerciseSystem.run_induction {motive : ExerciseSystem → Prop} (trusted : Bool)
    (steps : List ExerciseStep) (hempty : motive .empty)
    (hstep : ∀ s, ∀ label ∈ steps, ∀ s', motive s → StepEffect P s label s' → motive s') :
    motive (run P trusted steps) := by
  have hfold : ∀ (rest : List ExerciseStep) (s : ExerciseSystem),
      (∀ label ∈ rest, label ∈ steps) → motive s → motive (rest.foldl (step P trusted) s) := by
    intro rest
    induction rest with
    | nil => exact fun s _ hs => hs
    | cons label rest ih =>
      intro s hmem hs
      exact ih _ (fun other hother => hmem other (List.mem_cons_of_mem label hother))
        (hstep s label (hmem label List.mem_cons_self) _ hs (stepEffect trusted s label))
  exact hfold steps .empty (fun _ h => h) hempty

end Frontera.Execution
