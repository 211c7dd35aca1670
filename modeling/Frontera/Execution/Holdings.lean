import Frontera.Execution.Interleaving

/-! The ledger admits one reservation for an execution identity, so from the ledger's answer on
every call that goes further holds a reservation of its own, recorded for its own request, and no
terminal event stands against it until the call itself is done. -/

namespace Frontera.Execution

open Frontera.Data Frontera.ExerciseControl Frontera.Grant List

variable {P : Platform}

namespace ExerciseSystem

theorem calls_move {calls : List ExerciseCall} {call j : Nat} {c c' : ExerciseCall}
    (h : (calls.set call c')[j]? = some c) :
    (j = call ∧ c = c') ∨ (j ≠ call ∧ calls[j]? = some c) := by
  rw [List.getElem?_set] at h
  split_ifs at h with hij hlength
  · cases h
    exact .inl ⟨hij.symm,rfl⟩
  · exact .inr ⟨fun heq => hij heq.symm,h⟩

theorem calls_move_self {s : ExerciseSystem} {call : Nat} {request : GrantExerciseRequest}
    {stage stage' : CallStage} {events : List ExecutionEvent}
    (h : s.calls[call]? = some ⟨request,stage⟩) :
    (s.move call request stage' events).calls[call]? = some ⟨request,stage'⟩ := by
  have hlength : call < s.calls.length := (List.getElem?_eq_some_iff.1 h).1
  simp [move,hlength]

theorem calls_start {calls : List ExerciseCall} {started c : ExerciseCall} {j : Nat}
    (h : (calls ++ [started])[j]? = some c) :
    calls[j]? = some c ∨ (j = calls.length ∧ c = started) := by
  rw [List.getElem?_append] at h
  split_ifs at h with hlt
  · exact .inl h
  · obtain ⟨hindex,hc⟩ := List.getElem?_eq_some_iff.1 h
    simp only [length_singleton] at hindex
    refine .inr ⟨by omega,?_⟩
    rw [← hc]
    exact getElem_singleton hindex

end ExerciseSystem

/-- What every ledger the calls share satisfies. -/
structure LedgerSound (ledger : InMemoryLedger) : Prop where
  keys : ∀ id record, ledger.reservations.get id = some record → record.reservationId = id
  executions : ∀ id id' record record', ledger.reservations.get id = some record →
    ledger.reservations.get id' = some record' → record.executionId = record'.executionId → id = id'
  terminals : ∀ id, (ledger.terminals.get id).isSome = true → (ledger.reservations.get id).isSome = true
  terminalKeys : ∀ id terminal, ledger.terminals.get id = some terminal → terminal.reservationId = id

theorem ledgerSound_empty : LedgerSound .empty where
  keys id record h := by cases h
  executions id id' record record' h := by cases h
  terminals id h := by cases h
  terminalKeys id terminal h := by cases h

variable {ledger ledger' : InMemoryLedger}

variable {asked : ExerciseReservationRequest} {now : String} {call : Nat}
  {request : GrantExerciseRequest} {reservation : ExerciseReservationHandle} {s : ExerciseSystem}
  {stage stage' : CallStage} {events : List ExecutionEvent} {label : ExerciseStep}
  {assessment : BoundedGrantExerciseAssessment}

theorem LedgerSound.reserved (h : LedgerSound ledger)
    (hreserves : InMemoryLedger.Reserves (P := P) ledger asked now) :
    LedgerSound ⟨ledger.reservations.set asked.reservationId ⟨asked,now⟩,ledger.terminals,
      ledger.resolutions⟩ := by
  have hget := OrderedMap.get_set_of_get_none hreserves.fresh
    (⟨asked,now⟩ : ExerciseReservationRecord)
  have hother : ∀ id record, ledger.reservations.get id = some record →
      record.executionId ≠ asked.executionId := by
    intro id record hrecord
    exact hreserves.freshExecution record (OrderedMap.mem_values_iff.2 ⟨id,hrecord⟩)
  refine ⟨fun id record hrecord => ?_,fun id id' record record' hrecord hrecord' heq => ?_,
    fun id hterminal => ?_,h.terminalKeys⟩
  · rw [hget] at hrecord
    split_ifs at hrecord with hid
    · cases hrecord
      exact hid.symm
    · exact h.keys id record hrecord
  · rw [hget] at hrecord hrecord'
    split_ifs at hrecord hrecord' with hid hid'
    · rw [hid,hid']
    · cases hrecord
      exact absurd heq.symm (hother id' record' hrecord')
    · cases hrecord'
      exact absurd heq (hother id record hrecord)
    · exact h.executions id id' record record' hrecord hrecord' heq
  · rw [hget]
    split_ifs
    · rfl
    · exact h.terminals id hterminal

theorem LedgerSound.finalized (h : LedgerSound ledger) {id : String}
    {terminal : ExerciseReservationTerminalEvent} (hid : terminal.reservationId = id)
    (hnone : ledger.terminals.get id = none)
    (hheld : (ledger.reservations.get id).isSome = true) :
    LedgerSound { ledger with terminals := ledger.terminals.set id terminal } := by
  have hget := OrderedMap.get_set_of_get_none hnone terminal
  refine ⟨h.keys,h.executions,fun id' hterminal => ?_,fun id' terminal' hterminal => ?_⟩
  · rw [hget] at hterminal
    split_ifs at hterminal with heq
    · rw [heq]
      exact hheld
    · exact h.terminals id' hterminal
  · rw [hget] at hterminal
    split_ifs at hterminal with heq
    · cases hterminal
      rw [hid,heq]
    · exact h.terminalKeys id' terminal' hterminal

/-- The reservation recorded for a call, in the ledger and in the history. -/
structure Holding (Q : GrantExerciseRequest → ExerciseReservationRequest → Prop)
    (ledger : InMemoryLedger) (history : List ExecutionEvent) (call : Nat)
    (request : GrantExerciseRequest) (reservation : ExerciseReservationHandle)
    (record : ExerciseReservationRecord) : Prop where
  recorded : ledger.reservations.get reservation.reservationId = some record
  executionId : record.executionId = request.executionId
  digest : record.authorityBindingDigest = reservation.authorityBindingDigest
  asked : Q request record.toExerciseReservationRequest
  reserved : .reserved call record ∈ history

/-- What holds of the calls in every reachable system. `Q` relates a request to the
reservations asked for on its behalf. -/
structure Held (Q : GrantExerciseRequest → ExerciseReservationRequest → Prop)
    (s : ExerciseSystem) : Prop where
  ledger : LedgerSound s.ledger
  started : ∀ (call : Nat) (c : ExerciseCall), s.calls[call]? = some c → .started call c.request ∈ s.history
  asked : ∀ (call : Nat) (c : ExerciseCall) (asked : ExerciseReservationRequest),
    s.calls[call]? = some c → c.stage.asked? = some asked →
    asked.executionId = c.request.executionId ∧ Q c.request asked
  holds : ∀ (call : Nat) (c : ExerciseCall) (reservation : ExerciseReservationHandle),
    s.calls[call]? = some c → c.stage.reservation? = some reservation →
    ∃ record, Holding Q s.ledger s.history call c.request reservation record
  unique : ∀ (call call' : Nat) (c c' : ExerciseCall)
    (reservation reservation' : ExerciseReservationHandle), s.calls[call]? = some c →
    s.calls[call']? = some c' → c.stage.reservation? = some reservation →
    c'.stage.reservation? = some reservation' →
    reservation.reservationId = reservation'.reservationId → call = call'
  unsettled : ∀ (call : Nat) (c : ExerciseCall) (reservation : ExerciseReservationHandle),
    s.calls[call]? = some c → c.stage.reservation? = some reservation → c.stage.isDone = false →
    s.ledger.terminals.get reservation.reservationId = none

variable {Q : GrantExerciseRequest → ExerciseReservationRequest → Prop}

theorem Holding.mono {history history' : List ExecutionEvent} {record : ExerciseReservationRecord}
    (h : Holding Q ledger history call request reservation record)
    (hledger : ∀ id record, ledger.reservations.get id = some record → ledger'.reservations.get id = some record)
    (hhistory : history ⊆ history') : Holding Q ledger' history' call request reservation record :=
  ⟨hledger _ _ h.recorded,h.executionId,h.digest,h.asked,hhistory h.reserved⟩

theorem Held.moved (h : Held Q s) (hcall : s.calls[call]? = some ⟨request,stage⟩)
    (hledger : LedgerSound ledger')
    (hrecords : ∀ id record, s.ledger.reservations.get id = some record → ledger'.reservations.get id = some record)
    (hterminals : ∀ id, (∀ reservation, stage.reservation? = some reservation → id ≠ reservation.reservationId) → s.ledger.terminals.get id = none → ledger'.terminals.get id = none)
    (hasked : ∀ asked, stage'.asked? = some asked → asked.executionId = request.executionId ∧ Q request asked)
    (hholds : ∀ reservation, stage'.reservation? = some reservation → ∃ record, Holding Q ledger' (s.history ++ events) call request reservation record)
    (hunique : ∀ reservation, stage'.reservation? = some reservation → stage.reservation? = some reservation ∨ s.ledger.reservations.get reservation.reservationId = none)
    (hunsettled : ∀ reservation, stage'.reservation? = some reservation → stage'.isDone = false → ledger'.terminals.get reservation.reservationId = none) :
    Held Q { s.move call request stage' events with ledger := ledger' } := by
  have hhistory : s.history ⊆ s.history ++ events := subset_append_left _ _
  -- another call's reservation is not the one this call now holds
  have hother : ∀ (j : Nat) (c : ExerciseCall)
      (reservation reservation' : ExerciseReservationHandle), j ≠ call → s.calls[j]? = some c →
      c.stage.reservation? = some reservation → stage'.reservation? = some reservation' →
      reservation.reservationId ≠ reservation'.reservationId := by
    intro j c reservation reservation' hne hj hreservation hreservation' heq
    rcases hunique reservation' hreservation' with hold | hfresh
    · exact hne (h.unique j call c _ reservation reservation' hj hcall hreservation hold heq)
    · obtain ⟨record,hholding⟩ := h.holds j c reservation hj hreservation
      rw [← heq,hholding.recorded] at hfresh
      cases hfresh
  refine ⟨hledger,fun j c hj => ?_,fun j c asked hj hstage => ?_, fun j c reservation hj hreservation => ?_,
    fun j j' c c' reservation reservation' hj hj' hreservation hreservation' heq => ?_,
    fun j c reservation hj hreservation hdone => ?_⟩
  · rcases ExerciseSystem.calls_move hj with ⟨rfl,rfl⟩ | ⟨-,hold⟩
    · exact hhistory (h.started _ ⟨request,stage⟩ hcall)
    · exact hhistory (h.started j c hold)
  · rcases ExerciseSystem.calls_move hj with ⟨rfl,rfl⟩ | ⟨-,hold⟩
    · exact hasked asked hstage
    · exact h.asked j c asked hold hstage
  · rcases ExerciseSystem.calls_move hj with ⟨rfl,rfl⟩ | ⟨-,hold⟩
    · exact hholds reservation hreservation
    · obtain ⟨record,hholding⟩ := h.holds j c reservation hold hreservation
      exact ⟨record,hholding.mono hrecords hhistory⟩
  · rcases ExerciseSystem.calls_move hj with ⟨hsame,hc⟩ | ⟨hne,hold⟩
    · rcases ExerciseSystem.calls_move hj' with ⟨hsame',-⟩ | ⟨hne',hold'⟩
      · rw [hsame,hsame']
      · rw [hc] at hreservation
        exact absurd heq.symm
          (hother j' c' reservation' reservation hne' hold' hreservation' hreservation)
    · rcases ExerciseSystem.calls_move hj' with ⟨-,hc'⟩ | ⟨hne',hold'⟩
      · rw [hc'] at hreservation'
        exact absurd heq (hother j c reservation reservation' hne hold hreservation hreservation')
      · exact h.unique j j' c c' reservation reservation' hold hold' hreservation hreservation' heq
  · rcases ExerciseSystem.calls_move hj with ⟨rfl,rfl⟩ | ⟨hne,hold⟩
    · exact hunsettled reservation hreservation hdone
    · refine hterminals _ (fun own hown heq => hne ?_) (h.unsettled j c reservation hold
        hreservation hdone)
      exact h.unique j call c _ reservation own hold hcall hreservation hown heq

theorem held_empty : Held Q .empty where
  ledger := ledgerSound_empty
  started call c h := by cases h
  asked call c asked h := by cases h
  holds call c reservation h := by cases h
  unique call call' c c' reservation reservation' h := by cases h
  unsettled call c reservation h := by cases h

/-- A step's host answers so that `Q` holds of what is asked of the ledger. -/
def StepMeets (P : Platform) (Q : GrantExerciseRequest → ExerciseReservationRequest → Prop)
    (label : ExerciseStep) : Prop :=
  ∀ call reading clock host request grant at' asked, label = .firstRead call reading clock host →
    AdmitsRequest P host.toExerciseControlHost (exerciseControlInputFor request grant at') asked →
    Q request asked

section

variable (h : Held Q s)
include h

theorem Held.started' (request : GrantExerciseRequest) : Held Q ⟨s.ledger,s.calls ++ [⟨request,.firstRead⟩],
      s.history ++ [ExecutionEvent.started s.calls.length request]⟩ := by
  have hhistory : s.history ⊆ s.history ++ [ExecutionEvent.started s.calls.length request] :=
    subset_append_left _ _
  have hholding : ∀ (j : Nat) (c : ExerciseCall) (reservation : ExerciseReservationHandle),
      (s.calls ++ [⟨request,.firstRead⟩])[j]? = some c →
      c.stage.reservation? = some reservation → s.calls[j]? = some c := by
    intro j c reservation hj hreservation
    rcases ExerciseSystem.calls_start hj with hold | ⟨-,rfl⟩
    · exact hold
    · cases hreservation
  refine ⟨h.ledger,fun j c hj => ?_,fun j c asked hj hasked => ?_,
    fun j c reservation hj hreservation => ?_,
    fun j j' c c' reservation reservation' hj hj' hreservation hreservation' => ?_,
    fun j c reservation hj hreservation => ?_⟩
  · rcases ExerciseSystem.calls_start hj with hold | ⟨rfl,rfl⟩
    · exact hhistory (h.started j c hold)
    · exact mem_append_right _ (mem_singleton.2 rfl)
  · rcases ExerciseSystem.calls_start hj with hold | ⟨-,rfl⟩
    · exact h.asked j c asked hold hasked
    · cases hasked
  · obtain ⟨record,hrecord⟩ := h.holds j c reservation (hholding j c reservation hj hreservation)
      hreservation
    exact ⟨record,hrecord.mono (fun _ _ h => h) hhistory⟩
  · exact h.unique j j' c c' reservation reservation' (hholding j c reservation hj hreservation)
      (hholding j' c' reservation' hj' hreservation') hreservation hreservation'
  · exact h.unsettled j c reservation (hholding j c reservation hj hreservation) hreservation

theorem Held.quiet (hmeets : StepMeets P Q label) (hcall : s.calls[call]? = some ⟨request,stage⟩)
    (hquiet : QuietMove P label request stage stage' events) :
    Held Q (s.move call request stage' events) := by
  have hkept : ∀ reservation, stage'.reservation? = some reservation →
      stage.reservation? = some reservation := by
    intro reservation hreservation
    rcases hquiet.kept with heq | ⟨hnone,-⟩
    · rwa [heq] at hreservation
    · rw [hnone] at hreservation
      cases hreservation
  refine h.moved hcall h.ledger (fun _ _ h => h) (fun _ _ h => h) (fun asked hasked => ?_)
    (fun reservation hreservation => ?_) (fun reservation hreservation => .inl (hkept _ hreservation))
    (fun reservation hreservation _ => ?_)
  · obtain ⟨j,reading,clock,host,grant,at',hlabel,hadmits⟩ := hquiet.asked asked hasked
    exact ⟨hadmits.executionId,hmeets j reading clock host request grant at' asked hlabel hadmits⟩
  · obtain ⟨record,hholding⟩ := h.holds call _ reservation hcall (hkept _ hreservation)
    exact ⟨record,hholding.mono (fun _ _ h => h) (subset_append_left _ _)⟩
  · exact h.unsettled call _ reservation hcall (hkept _ hreservation) hquiet.open'

theorem Held.reserve {exercisedAt : String} {answer : Option ExerciseReservationOutcome}
    (hcall : s.calls[call]? = some ⟨request,.reserving asked assessment exercisedAt⟩)
    (hresult : ReserveResult P s.ledger asked now answer ledger') :
    Held Q { s.move call request (.reserveAnswered asked answer assessment exercisedAt)
      (ExerciseSystem.reservedEvents call answer) with ledger := ledger' } := by
  obtain ⟨hexecution,hQ⟩ := h.asked call _ asked hcall rfl
  have hasked : ∀ other, (CallStage.reserveAnswered asked answer assessment exercisedAt).asked? =
      some other → other.executionId = request.executionId ∧ Q request other := by
    rintro _ ⟨⟩
    exact ⟨hexecution,hQ⟩
  cases hresult with
  | unrecorded hnot =>
    have hnone : (CallStage.reserveAnswered asked answer assessment exercisedAt).reservation? = none := by
      cases answer with
      | none => rfl
      | some outcome =>
        cases outcome with
        | reserved record => exact absurd rfl (hnot record)
        | _ => rfl
    refine h.moved hcall h.ledger (fun _ _ h => h) (fun _ _ h => h) hasked ?_ ?_ ?_
    all_goals
      intro reservation hreservation
      rw [hnone] at hreservation
      cases hreservation
  | recorded hreserves hanswer =>
    have hget := OrderedMap.get_set_of_get_none hreserves.fresh
      (⟨asked,now⟩ : ExerciseReservationRecord)
    have hreserved : ∀ reservation,
        (CallStage.reserveAnswered asked answer assessment exercisedAt).reservation? = some reservation →
        reservation = ⟨asked.reservationId,asked.authorityBindingDigest⟩ ∧
          ExerciseSystem.reservedEvents call answer = [.reserved call ⟨asked,now⟩] := by
      intro reservation hreservation
      cases answer with
      | none => cases hreservation
      | some outcome =>
        cases outcome with
        | reserved record =>
          cases hreservation
          rw [hanswer record rfl]
          exact ⟨rfl,rfl⟩
        | _ => cases hreservation
    refine h.moved hcall (h.ledger.reserved hreserves) (fun id record hrecord => ?_)
      (fun _ _ h => h) hasked (fun reservation hreservation => ?_)
      (fun reservation hreservation => ?_) (fun reservation hreservation _ => ?_)
    · rw [hget,if_neg,hrecord]
      rintro rfl
      rw [hreserves.fresh] at hrecord
      cases hrecord
    · obtain ⟨rfl,hevents⟩ := hreserved reservation hreservation
      rw [hevents]
      exact ⟨⟨asked,now⟩,by rw [hget,if_pos rfl],hexecution,rfl,hQ,
        mem_append_right _ (mem_singleton.2 rfl)⟩
    · obtain ⟨rfl,-⟩ := hreserved reservation hreservation
      exact .inr hreserves.fresh
    · obtain ⟨rfl,-⟩ := hreserved reservation hreservation
      -- a terminal event would stand against a reservation the ledger did not hold
      by_contra hterminal
      have hheld := h.ledger.terminals _ (Option.isSome_iff_ne_none.2 hterminal)
      rw [hreserves.fresh] at hheld
      cases hheld

theorem Held.cross {at' : String}
    (hcall : s.calls[call]? = some ⟨request,.secondRead reservation⟩) :
    Held Q (s.move call request (.executing reservation assessment at') events) := by
  refine h.moved hcall h.ledger (fun _ _ h => h) (fun _ _ h => h) (fun _ h => by cases h)
    ?_ ?_ ?_
  · rintro _ ⟨⟩
    obtain ⟨record,hholding⟩ := h.holds call _ reservation hcall rfl
    exact ⟨record,hholding.mono (fun _ _ h => h) (subset_append_left _ _)⟩
  · rintro _ ⟨⟩
    exact .inl rfl
  · rintro _ ⟨⟩ -
    exact h.unsettled call _ reservation hcall rfl rfl

theorem Held.finalize {outcome : ExecutionOutcome} {kind : ExerciseReservationTerminalKind}
    (hcall : s.calls[call]? = some ⟨request,.finalizing reservation outcome⟩)
    (hresult : FinalizeResult P s.ledger reservation.reservationId kind ledger') :
    Held Q { s.move call request (.done (some reservation) outcome) events with
      ledger := ledger' } := by
  obtain ⟨record,hholding⟩ := h.holds call _ reservation hcall rfl
  have hsame : ledger'.reservations = s.ledger.reservations := by cases hresult <;> rfl
  refine h.moved hcall ?_ (fun _ _ h => by rwa [hsame]) (fun id hother hnone => ?_)
    (fun _ h => by cases h) ?_ ?_ (fun _ _ hdone => by cases hdone)
  · cases hresult with
    | retained => exact h.ledger
    | recorded call terminal hid hkind hnone heffect hnot =>
      exact h.ledger.finalized hid hnone (by rw [hholding.recorded]; rfl)
  · cases hresult with
    | retained => exact hnone
    | recorded call terminal hid hkind hnone' heffect hnot =>
      rw [OrderedMap.get_set_of_get_none hnone',if_neg (hother reservation rfl)]
      exact hnone
  · rintro _ ⟨⟩
    exact ⟨record,hholding.mono (fun _ _ h => by rwa [hsame]) (subset_append_left _ _)⟩
  · rintro _ ⟨⟩
    exact .inl rfl

theorem Held.step {s' : ExerciseSystem} (hmeets : StepMeets P Q label)
    (heffect : StepEffect P s label s') : Held Q s' := by
  cases heffect with
  | stay => exact h
  | start request => exact h.started' request
  | quiet call request stage stage' events hcall hquiet => exact h.quiet hmeets hcall hquiet
  | reserve call request asked assessment exercisedAt now answer ledger hcall hresult =>
    exact h.reserve hcall hresult
  | cross call request reservation grant revocation assessment at' hcall husable =>
    exact h.cross hcall
  | finalize call request reservation outcome ledger hcall hresult => exact h.finalize hcall hresult

end

end Frontera.Execution
