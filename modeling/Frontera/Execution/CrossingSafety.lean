import Frontera.Data.History
import Frontera.Execution.Holdings

/-! Over every interleaving of any calls, with any answers from every port, the adapter is invoked
at most once for an execution identity, and each time behind a reservation of that call's own, a
second read that is usable at an instant sampled after it, the binding the reservation was made
under, and a clear emergency control. -/

namespace Frontera.Execution

open Frontera.Data Frontera.ExerciseControl Frontera.Grant List ExerciseSystem

variable {P : Platform} {Q : GrantExerciseRequest → ExerciseReservationRequest → Prop}

/-- What stands in the history before the adapter is invoked. -/
def Authorized (P : Platform) (before : List ExecutionEvent) (call : Nat)
    (action : ValidatedExecutionAction) : Prop :=
  ∃ request record earlier grant revocation at',
    before = earlier ++ [.secondRead call (.answered (some grant) revocation), .clock call at',
      .revalidated call (some record.authorityBindingDigest), .emergencyRead call .clear] ∧
    .started call request ∈ earlier ∧ action = actionFor request grant ∧
    .reserved call record ∈ earlier ∧ record.executionId = request.executionId ∧
    (∀ other terminal, .finalized other terminal ∈ before → terminal.reservationId ≠ record.reservationId) ∧
    (assessBoundedGrantExercise P grant revocation request at').usable = true

/-- The call that an event crosses in. -/
def ExecutionEvent.crossing? : ExecutionEvent → Option Nat
  | .execute call _ => some call
  | _ => none

/-- The event crosses under this execution identity. -/
def ExecutionEvent.crossesFor (executionId : String) : ExecutionEvent → Bool
  | .execute _ action => action.correlation.executionId == executionId
  | _ => false

/-- What holds of the history in every reachable system. -/
structure CrossedOnce (P : Platform) (s : ExerciseSystem) : Prop where
  finalized : ∀ call terminal, .finalized call terminal ∈ s.history →
    (s.ledger.terminals.get terminal.reservationId).isSome = true
  crossed : ∀ call action, .execute call action ∈ s.history → ∃ c reservation,
    s.calls[call]? = some c ∧ c.stage.beforeCrossing = false ∧
    c.stage.reservation? = some reservation ∧ action.correlation.executionId = c.request.executionId
  once : (s.history.filterMap ExecutionEvent.crossing?).Nodup
  guarded : ∀ before call action later, s.history = before ++ .execute call action :: later →
    Authorized P before call action

theorem crossedOnce_empty : CrossedOnce P .empty where
  finalized call terminal h := by cases h
  crossed call action h := by cases h
  once := nodup_nil
  guarded before call action later h := by
    have hlength := congrArg List.length h
    simp [empty] at hlength

variable {call : Nat} {request : GrantExerciseRequest} {reservation : ExerciseReservationHandle}
  {grant : BoundedGrant} {revocation : Option GrantRevocation} {at' : String}
  {action : ValidatedExecutionAction} {s : ExerciseSystem} {events : List ExecutionEvent}
  {stage stage' : CallStage} {assessment : BoundedGrantExerciseAssessment} {ledger : InMemoryLedger}

theorem crossingEvents_split {j : Nat} {middle later : List ExecutionEvent}
    (h : crossingEvents call request reservation grant revocation at' = middle ++ .execute j action :: later) :
    middle = [.secondRead call (.answered (some grant) revocation), .clock call at',
      .revalidated call (some reservation.authorityBindingDigest), .emergencyRead call .clear] ∧
    call = j ∧ actionFor request grant = action := by
  -- the events before a crossing hold no other, so the two splits are at the same place
  obtain ⟨quiet,hquiet,hevents⟩ : ∃ quiet : List ExecutionEvent,
      quiet = [.secondRead call (.answered (some grant) revocation), .clock call at',
        .revalidated call (some reservation.authorityBindingDigest), .emergencyRead call .clear] ∧
      crossingEvents call request reservation grant revocation at' =
        quiet ++ [.execute call (actionFor request grant)] := ⟨_,rfl,rfl⟩
  rw [hevents] at h
  rcases append_eq_append_cons h with ⟨rest,hold⟩ | ⟨between,hmiddle,hnew⟩
  · have hmem : ExecutionEvent.execute j action ∈ quiet := by
      rw [hold]
      exact mem_append_right _ mem_cons_self
    rw [hquiet] at hmem
    simp only [mem_cons,reduceCtorEq,not_mem_nil,or_false] at hmem
  · cases between with
    | nil =>
      rw [nil_append,List.cons.injEq] at hnew
      rw [append_nil] at hmiddle
      cases hnew.1
      exact ⟨hmiddle.trans hquiet,rfl,rfl⟩
    | cons event between =>
      have hlength := congrArg List.length hnew
      simp at hlength

theorem CrossedOnce.extend {s' : ExerciseSystem} (h : CrossedOnce P s)
    (hhistory : s'.history = s.history ++ events)
    (hevents : ∀ event ∈ events, event.crossing? = none)
    (hterminals : ∀ id, (s.ledger.terminals.get id).isSome = true → (s'.ledger.terminals.get id).isSome = true)
    (hfinalized : ∀ call terminal, .finalized call terminal ∈ events → (s'.ledger.terminals.get terminal.reservationId).isSome = true)
    (hcrossed : ∀ (call : Nat) (c : ExerciseCall) (reservation : ExerciseReservationHandle), s.calls[call]? = some c → c.stage.beforeCrossing = false → c.stage.reservation? = some reservation → ∃ c' : ExerciseCall, s'.calls[call]? = some c' ∧ c'.stage.beforeCrossing = false ∧ c'.stage.reservation? = some reservation ∧ c'.request = c.request) :
    CrossedOnce P s' := by
  have hnone : ∀ call action, .execute call action ∉ events := by
    intro call action hmem
    cases hevents _ hmem
  refine ⟨fun call terminal hmem => ?_,fun call action hmem => ?_,?_,
    fun before call action later hsplit => ?_⟩
  · rw [hhistory,mem_append] at hmem
    rcases hmem with hold | hnew
    · exact hterminals _ (h.finalized call terminal hold)
    · exact hfinalized call terminal hnew
  · rw [hhistory,mem_append] at hmem
    rcases hmem with hold | hnew
    · obtain ⟨c,reservation,hc,hstage,hreservation,hexecution⟩ := h.crossed call action hold
      obtain ⟨c',hc',hstage',hreservation',hrequest⟩ :=
        hcrossed call c reservation hc hstage hreservation
      exact ⟨c',reservation,hc',hstage',hreservation',by rw [hrequest,hexecution]⟩
    · exact absurd hnew (hnone call action)
  · rw [hhistory,filterMap_append,filterMap_eq_nil_iff.2 hevents,append_nil]
    exact h.once
  · rw [hhistory] at hsplit
    rcases append_eq_append_cons hsplit with ⟨rest,hold⟩ | ⟨middle,-,hnew⟩
    · exact h.guarded before call action rest hold
    · exact absurd (hnew ▸ mem_append_right _ mem_cons_self) (hnone call action)

theorem crossed_move (hcall : s.calls[call]? = some ⟨request,stage⟩)
    (hstage : stage.beforeCrossing = false → stage'.beforeCrossing = false ∧ stage'.reservation? = stage.reservation?)
    (j : Nat) (c : ExerciseCall) (reservation : ExerciseReservationHandle)
    (hj : s.calls[j]? = some c) (hbefore : c.stage.beforeCrossing = false)
    (hreservation : c.stage.reservation? = some reservation) :
    ∃ c' : ExerciseCall, (s.calls.set call ⟨request,stage'⟩)[j]? = some c' ∧
      c'.stage.beforeCrossing = false ∧ c'.stage.reservation? = some reservation ∧
      c'.request = c.request := by
  by_cases hne : j = call
  · subst hne
    rw [hcall,Option.some.injEq] at hj
    subst hj
    obtain ⟨hbefore',hreservation'⟩ := hstage hbefore
    exact ⟨_,@ExerciseSystem.calls_move_self s j request stage stage' [] hcall,hbefore',
      hreservation'.trans hreservation,rfl⟩
  · refine ⟨c,?_,hbefore,hreservation,rfl⟩
    rw [List.getElem?_set_ne (Ne.symm hne)]
    exact hj

section

variable (h : CrossedOnce P s)
include h

theorem CrossedOnce.quiet {label : ExerciseStep} (hcall : s.calls[call]? = some ⟨request,stage⟩)
    (hquiet : QuietMove P label request stage stage' events) :
    CrossedOnce P (s.move call request stage' events) := by
  refine h.extend rfl (fun event hevent => ?_) (fun _ h => h) (fun j terminal hmem => ?_)
    (crossed_move hcall fun hbefore => ?_)
  · have hq := hquiet.quiet event hevent
    cases event with
    | execute => cases hq
    | _ => rfl
  · cases hquiet.quiet _ hmem
  · refine ⟨?_,?_⟩
    · by_contra hnot
      rw [hquiet.before (by simpa using hnot)] at hbefore
      cases hbefore
    · rcases hquiet.kept with heq | ⟨-,htrue⟩
      · exact heq
      · rw [htrue] at hbefore
        cases hbefore

theorem CrossedOnce.reserve {asked : ExerciseReservationRequest} {exercisedAt now : String}
    {answer : Option ExerciseReservationOutcome}
    (hcall : s.calls[call]? = some ⟨request,.reserving asked assessment exercisedAt⟩)
    (hresult : ReserveResult P s.ledger asked now answer ledger) :
    CrossedOnce P { s.move call request (.reserveAnswered asked answer assessment exercisedAt)
      (reservedEvents call answer) with ledger := ledger } := by
  have hterminals : ledger.terminals = s.ledger.terminals := by cases hresult <;> rfl
  have hevents : ∀ event ∈ reservedEvents call answer, ∃ record, event = .reserved call record := by
    intro event hevent
    unfold reservedEvents at hevent
    split at hevent
    · exact ⟨_,mem_singleton.1 hevent⟩
    · cases hevent
  refine h.extend rfl (fun event hevent => ?_) (fun id hid => by rwa [hterminals])
    (fun j terminal hmem => ?_) (crossed_move hcall fun hbefore => by cases hbefore)
  · obtain ⟨record,rfl⟩ := hevents event hevent
    rfl
  · obtain ⟨record,heq⟩ := hevents _ hmem
    cases heq

theorem CrossedOnce.finalize {outcome : ExecutionOutcome} {kind : ExerciseReservationTerminalKind}
    (hkeys : LedgerSound ledger)
    (hcall : s.calls[call]? = some ⟨request,.finalizing reservation outcome⟩)
    (hresult : FinalizeResult P s.ledger reservation.reservationId kind ledger) :
    CrossedOnce P { s.move call request (.done (some reservation) outcome)
      (finalizedEvents call reservation.reservationId s.ledger ledger) with
        ledger := ledger } := by
  have hevents : ∀ event ∈ finalizedEvents call reservation.reservationId s.ledger
      ledger, ∃ terminal, event = .finalized call terminal ∧
        ledger.terminals.get reservation.reservationId = some terminal := by
    intro event hevent
    unfold finalizedEvents at hevent
    split at hevent
    · next terminal _ hterminal => exact ⟨terminal,mem_singleton.1 hevent,hterminal⟩
    · cases hevent
  refine h.extend rfl (fun event hevent => ?_) (fun id hid => ?_) (fun j terminal hmem => ?_)
    (crossed_move hcall fun _ => ⟨rfl,rfl⟩)
  · obtain ⟨terminal,rfl,-⟩ := hevents event hevent
    rfl
  · cases hresult with
    | retained => exact hid
    | recorded _ terminal _ _ hnone _ _ =>
      rw [OrderedMap.get_set_of_get_none hnone]
      split_ifs
      · rfl
      · exact hid
  · obtain ⟨terminal',heq,hterminal⟩ := hevents _ hmem
    cases heq
    rw [hkeys.terminalKeys _ _ hterminal,hterminal]
    rfl

theorem CrossedOnce.cross (hheld : Held Q s)
    (hcall : s.calls[call]? = some ⟨request,.secondRead reservation⟩)
    (husable : (assessBoundedGrantExercise P grant revocation request at').usable = true) :
    CrossedOnce P (s.move call request (.executing reservation assessment at')
      (crossingEvents call request reservation grant revocation at')) := by
  have hself := @ExerciseSystem.calls_move_self s call request _
    (.executing reservation assessment at')
    (crossingEvents call request reservation grant revocation at') hcall
  refine ⟨fun j terminal hmem => ?_,fun j action hmem => ?_,?_, fun before j action later hsplit => ?_⟩
  · rcases mem_append.1 hmem with hold | hnew
    · exact h.finalized j terminal hold
    · simp [crossingEvents] at hnew
  · rcases mem_append.1 hmem with hold | hnew
    · obtain ⟨c,own,hc,hstage,hown,hexecution⟩ := h.crossed j action hold
      obtain ⟨c',hc',hstage',hown',hrequest⟩ := crossed_move hcall
        (fun hbefore => by cases hbefore) j c own hc hstage hown
      exact ⟨c',own,hc',hstage',hown',by rw [hrequest,hexecution]⟩
    · simp only [crossingEvents,mem_cons,reduceCtorEq,ExecutionEvent.execute.injEq,
        not_mem_nil,or_false,false_or] at hnew
      obtain ⟨rfl,rfl⟩ := hnew
      exact ⟨_,reservation,hself,rfl,rfl,rfl⟩
  · -- the call has not crossed before: it stood at its second read
    have hfresh : call ∉ s.history.filterMap ExecutionEvent.crossing? := by
      intro hmem
      obtain ⟨event,hevent,hcrossing⟩ := mem_filterMap.1 hmem
      cases event with
      | execute j action =>
        cases hcrossing
        obtain ⟨c,own,hc,hstage,-⟩ := h.crossed _ action hevent
        rw [hcall,Option.some.injEq] at hc
        rw [← hc] at hstage
        cases hstage
      | _ => cases hcrossing
    rw [move,filterMap_append]
    have hnew : (crossingEvents call request reservation grant revocation at').filterMap
        ExecutionEvent.crossing? = [call] := rfl
    rw [hnew]
    refine nodup_append.2 ⟨h.once,nodup_singleton _,?_⟩
    rintro j hj _ hcall' rfl
    rw [mem_singleton.1 hcall'] at hj
    exact hfresh hj
  · rcases append_eq_append_cons hsplit with ⟨rest,hold⟩ | ⟨middle,rfl,hnew⟩
    · exact h.guarded before j action rest hold
    · obtain ⟨record,hholding⟩ := hheld.holds call _ reservation hcall rfl
      obtain ⟨rfl,rfl,rfl⟩ := crossingEvents_split hnew
      refine ⟨request,record,s.history,grant,revocation,at',by rw [hholding.digest],
        hheld.started _ _ hcall,rfl,hholding.reserved,hholding.executionId,?_,husable⟩
      intro other terminal hmem heq
      have hid := hheld.ledger.keys _ _ hholding.recorded
      have hold : .finalized other terminal ∈ s.history := by simpa using hmem
      have hsettled := h.finalized other terminal hold
      rw [heq,hid,hheld.unsettled call _ reservation hcall rfl rfl] at hsettled
      cases hsettled

theorem CrossedOnce.start (request : GrantExerciseRequest) :
    CrossedOnce P ⟨s.ledger,s.calls ++ [⟨request,.firstRead⟩],
      s.history ++ [ExecutionEvent.started s.calls.length request]⟩ := by
  refine h.extend rfl (by simp [ExecutionEvent.crossing?]) (fun _ h => h) (by simp) ?_
  intro j c reservation hj hbefore hreservation
  refine ⟨c,?_,hbefore,hreservation,rfl⟩
  have hlength : j < s.calls.length := (List.getElem?_eq_some_iff.1 hj).1
  rw [List.getElem?_append_left hlength]
  exact hj

theorem CrossedOnce.call_eq (hheld : Held Q s) {call' : Nat} {action' : ValidatedExecutionAction}
    (hmem : .execute call action ∈ s.history) (hmem' : .execute call' action' ∈ s.history)
    (heq : action.correlation.executionId = action'.correlation.executionId) : call = call' := by
  obtain ⟨c,reservation,hc,-,hreservation,hexecution⟩ := h.crossed call action hmem
  obtain ⟨c',reservation',hc',-,hreservation',hexecution'⟩ := h.crossed call' action' hmem'
  obtain ⟨record,hholding⟩ := hheld.holds call c reservation hc hreservation
  obtain ⟨record',hholding'⟩ := hheld.holds call' c' reservation' hc' hreservation'
  refine hheld.unique call call' c c' reservation reservation' hc hc' hreservation hreservation' ?_
  refine hheld.ledger.executions _ _ record record' hholding.recorded hholding'.recorded ?_
  calc record.executionId = c.request.executionId := hholding.executionId
    _ = action.correlation.executionId := hexecution.symm
    _ = action'.correlation.executionId := heq
    _ = c'.request.executionId := hexecution'
    _ = record'.executionId := hholding'.executionId.symm

theorem CrossedOnce.length_le (hheld : Held Q s) (executionId : String) :
    (s.history.filter (ExecutionEvent.crossesFor executionId)).length ≤ 1 := by
  have hcrosses : ∀ event ∈ s.history.filter (ExecutionEvent.crossesFor executionId),
      ∃ call action, event = .execute call action ∧
        action.correlation.executionId = executionId ∧ .execute call action ∈ s.history := by
    intro event hevent
    obtain ⟨hhistory,hcrosses⟩ := mem_filter.1 hevent
    cases event with
    | execute call action => exact ⟨call,action,rfl,beq_iff_eq.1 hcrosses,hhistory⟩
    | _ => cases hcrosses
  have hnodup : ((s.history.filter (ExecutionEvent.crossesFor executionId)).filterMap
      ExecutionEvent.crossing?).Nodup := by
    refine List.Sublist.nodup ?_ h.once
    exact filter_sublist.filterMap _
  -- two of them would be two crossings of one call
  match hfilter : s.history.filter (ExecutionEvent.crossesFor executionId) with
  | [] => exact Nat.zero_le 1
  | [_] => exact Nat.le_refl 1
  | first :: second :: rest =>
    rw [hfilter] at hcrosses hnodup
    obtain ⟨call,action,rfl,hexecution,hmem⟩ := hcrosses first mem_cons_self
    obtain ⟨call',action',rfl,hexecution',hmem'⟩ :=
      hcrosses second (mem_cons_of_mem _ mem_cons_self)
    obtain rfl := h.call_eq hheld hmem hmem' (hexecution.trans hexecution'.symm)
    simp [ExecutionEvent.crossing?] at hnodup

end

theorem held_crossedOnce_run (adapterIsTrustedRegistry : Bool) (steps : List ExerciseStep) :
    Held (fun _ _ => True) (run P adapterIsTrustedRegistry steps) ∧
      CrossedOnce P (run P adapterIsTrustedRegistry steps) := by
  refine @ExerciseSystem.run_induction P (fun s => Held (fun _ _ => True) s ∧ CrossedOnce P s)
    adapterIsTrustedRegistry steps ⟨held_empty,crossedOnce_empty⟩ ?_
  rintro s label - s' ⟨hheld,hcrossed⟩ heffect
  have hheld' : Held (fun _ _ => True) s' :=
    hheld.step (fun _ _ _ _ _ _ _ _ _ _ => trivial) heffect
  refine ⟨hheld',?_⟩
  cases heffect with
  | stay => exact hcrossed
  | start request => exact hcrossed.start request
  | quiet call request stage stage' events hcall hquiet => exact hcrossed.quiet hcall hquiet
  | reserve call request asked assessment exercisedAt now answer ledger hcall hresult =>
    exact hcrossed.reserve hcall hresult
  | cross call request reservation grant revocation assessment at' hcall husable =>
    exact hcrossed.cross hheld hcall husable
  | finalize call request reservation outcome ledger hcall hresult =>
    exact hcrossed.finalize hheld'.ledger hcall hresult

/-- One execution identity crosses the provider boundary at most once, and only under
authority, in every interleaving of any calls and with any answers of the ports. -/
theorem execution_crosses_once (P : Platform) (adapterIsTrustedRegistry : Bool)
    (steps : List ExerciseStep) :
    (∀ executionId, ((run P adapterIsTrustedRegistry steps).history.filter
      (ExecutionEvent.crossesFor executionId)).length ≤ 1) ∧
    ∀ before call action later, (run P adapterIsTrustedRegistry steps).history =
        before ++ .execute call action :: later → Authorized P before call action := by
  obtain ⟨hheld,hcrossed⟩ := @held_crossedOnce_run P adapterIsTrustedRegistry steps
  exact ⟨hcrossed.length_le hheld,hcrossed.guarded⟩

end Frontera.Execution
