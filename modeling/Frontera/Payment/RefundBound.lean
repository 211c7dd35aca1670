import Frontera.Payment.RefundSafety

/-! The refunds of one original that may have moved money are within it when every reconciliation
that reads a resolution still holds the outcome on record. The condition is needed: a reservation
released on a stale reading lets the whole original be refunded again. -/

namespace Frontera.Payment

open Frontera.Monetary Frontera.Data Frontera.Text List

variable {P : Platform} {options : PaymentRefundServiceOptions}

/-- A refund that was handed to the governed path and may have moved money stands on an
outstanding reservation of its original. -/
theorem handed_outstanding {s : RefundSystem} (haccounted : Accounted P options s)
    (hformed : AllFormed options s) {p : GovernedRefund} (hp : p ∈ s.handed)
    (hmoved : ¬ NoMoney P s.world p.input.refundRequestId) :
    ∃ r ∈ outstandingReserves s.ledger.entries options.organizationId p.original.settlementId,
      r.content.refundRequestId = p.input.refundRequestId ∧
        r.content.originalAmount = p.original.payment.amount ∧ r.content.amount = p.intent.amount := by
  have hp' := hformed.handed p hp
  obtain ⟨r,hr,horganization,hsettlement,horiginal,hamount,hrequest,htaken⟩ :=
    haccounted.handed p hp
  rw [hp'.organization] at horganization htaken
  refine ⟨r,mem_filter.2 ⟨hr,decide_eq_true ⟨horganization,?_,?_⟩⟩,hrequest,?_,?_⟩
  · rw [hsettlement,hp'.settlement]
  · exact fun hback => hmoved (htaken hback)
  · rw [horiginal,hp'.original]
  · rw [hamount,hp'.amount]

/-- What stands on outstanding reservations of an original, one for each request identity,
is within the original. -/
theorem sum_outstanding_le {entries : List PaymentRefundEntry} (hsound : LedgerSound entries)
    {organizationId : String} {original : PaymentSettlementRecord}
    {payments : List GovernedRefund} (honce : (payments.map (·.input.refundRequestId)).Nodup)
    (hfound : ∀ p ∈ payments, ∃ r ∈ outstandingReserves entries organizationId
      original.settlementId, r.content.refundRequestId = p.input.refundRequestId ∧
        r.content.originalAmount = original.payment.amount ∧ r.content.amount = p.intent.amount) :
    (payments.map fun p => decimalValue p.intent.amount.value).sum ≤
      decimalValue original.payment.amount.value := by
  have hsum : (payments.map fun p => decimalValue p.intent.amount.value).sum ≤
      held entries organizationId original.settlementId := by
    have hnonneg : ∀ r : Recorded PaymentRefundReserveContent,
        0 ≤ decimalValue r.content.amount.value := fun r => decimalValue_nonneg _
    unfold held
    have hweigh : ∀ p ∈ payments, ∃ r ∈ outstandingReserves entries organizationId
        original.settlementId, r.content.refundRequestId = p.input.refundRequestId ∧
          decimalValue r.content.amount.value = decimalValue p.intent.amount.value := by
      intro p hp
      obtain ⟨r,hr,hrequest,-,hamount⟩ := hfound p hp
      exact ⟨r,hr,hrequest,by rw [hamount]⟩
    exact sum_le_of_found (M := ℚ) hnonneg honce hweigh
  cases payments with
  | nil => exact decimalValue_nonneg _
  | cons p payments =>
    obtain ⟨r,hr,-,horiginal,-⟩ := hfound p mem_cons_self
    obtain ⟨hmem,hout⟩ := mem_filter.1 hr
    obtain ⟨horganization,hsettlement,-⟩ := of_decide_eq_true hout
    have hwithin := hsound.within r hmem
    rw [horganization,hsettlement,horiginal] at hwithin
    exact le_trans hsum hwithin

/-- The refunds of one original that were handed to the governed path and may have moved money,
one for each request identity, are within the original and in its asset. -/
theorem refunds_within_original {W : RefundWorld} {steps : List RefundStep}
    (hrun : StepsMeet (RefundSystem.step P options)
      (fun s step => KeepsPromises s step ∧ ReadsBound s step) (RefundSystem.open P W) steps)
    {original : PaymentSettlementRecord} {payments : List GovernedRefund}
    (hhanded : ∀ p ∈ payments,
      p ∈ ((RefundSystem.open P W).run P options steps).handed ∧ p.original = original)
    (honce : (payments.map (·.input.refundRequestId)).Nodup)
    (hmoved : ∀ p ∈ payments,
      ¬ NoMoney P ((RefundSystem.open P W).run P options steps).world p.input.refundRequestId) :
    (payments.map fun p => decimalValue p.intent.amount.value).sum ≤
        decimalValue original.payment.amount.value ∧
      ∀ p ∈ payments, p.intent.amount.unit = original.payment.amount.unit := by
  have haccounted := accounted_run hrun
  have hformed : AllFormed options ((RefundSystem.open P W).run P options steps) :=
    allFormed_run W steps
  generalize (RefundSystem.open P W).run P options steps = s at hhanded hmoved haccounted hformed
  have hfound : ∀ p ∈ payments, ∃ r ∈ outstandingReserves s.ledger.entries options.organizationId
      original.settlementId, r.content.refundRequestId = p.input.refundRequestId ∧
        r.content.originalAmount = original.payment.amount ∧ r.content.amount = p.intent.amount := by
    intro p hp
    obtain ⟨hmem,rfl⟩ := hhanded p hp
    exact handed_outstanding haccounted hformed hmem (hmoved p hp)
  refine ⟨sum_outstanding_le haccounted.ledger honce hfound,?_⟩
  intro p hp
  obtain ⟨r,hr,-,horiginal,hamount⟩ := hfound p hp
  have hunit := (haccounted.ledger.amounts r (List.mem_filter.1 hr).1).2
  rw [hamount,horiginal] at hunit
  exact hunit

/-! ## Decisions, from what the log says -/

variable {input : ReservePaymentRefundInput} {entries : List PaymentRefundEntry}
  {reservations : List PaymentRefundReservation} {balance : PaymentRefundBalance}

section

variable (hread : paymentRefundReservations P entries = .ok reservations)
  (hbalance : paymentRefundBalance input.originalSettlementId reservations input.originalAmount = .ok balance)
include hread hbalance

theorem planReservation_of_new
    (hnew : ∀ r ∈ reservations, r.refundOperationId ≠ input.refundOperationId P)
    (hfits : paymentRefundRefusal input.originalAmount balance.counted.value input.amount = none) :
    planPaymentRefundReservation P input entries = .ok (.append (input.content P)) := by
  have hfind : reservations.find? (fun r => r.refundOperationId = input.refundOperationId P) = none := by
    rw [List.find?_eq_none]
    intro r hr heq
    exact hnew r hr (of_decide_eq_true heq)
  rw [planPaymentRefundReservation,hread]
  simp only [bind,Except.bind,hbalance,hfind,hfits]
  rfl

theorem planReservation_of_standing {existing : PaymentRefundReservation}
    (hfind : reservations.find? (fun r => r.refundOperationId = input.refundOperationId P) = some existing)
    (hsame : sameRefund existing.reserve.content input = true)
    (hstands : existing.release.isSome = false) :
    planPaymentRefundReservation P input entries = .ok (.answer (.existing existing balance)) := by
  rw [planPaymentRefundReservation,hread]
  simp [bind,Except.bind,hbalance,hfind,hsame,hstands,pure,Except.pure]

end

theorem sameRefund_content : sameRefund (input.content P) input = true := by
  simp [sameRefund,ReservePaymentRefundInput.content]

/-! ## An original refunded whole, twice -/

/-- A refund of the whole of an original of 100 USD. -/
structure WholeRefund (P : Platform) (input : ReservePaymentRefundInput) : Prop where
  accepted : requireRefundReserveInput P input = .ok ()
  original : input.originalAmount = ⟨"100","USD"⟩
  amount : input.amount = ⟨"100","USD"⟩

/-- Two refunds of one original under two operations. -/
structure TwoRefunds (P : Platform) (one two : ReservePaymentRefundInput) : Prop where
  first : WholeRefund P one
  second : WholeRefund P two
  organization : two.organizationId = one.organizationId
  settlement : two.originalSettlementId = one.originalSettlementId
  operations : one.refundOperationId P ≠ two.refundOperationId P

variable {one two : ReservePaymentRefundInput} {e l e' : PaymentRefundEntry} {reference : String}

def releaseOfFirst (P : Platform) (one : ReservePaymentRefundInput) (reference : String) :
    ReleasePaymentRefundInput :=
  ⟨one.organizationId,one.refundOperationId P,.resolutionConfirmedNotCompleted,reference⟩

section

attribute [local simp] ReservePaymentRefundInput.content ReleasePaymentRefundInput.content
  PaymentRefundEntryContent.organizationId PaymentRefundEntryContent.originalSettlementId
  PaymentRefundEntryContent.refundOperationId Recorded.mapContent releaseOfFirst reservedOperations
  releasedOperations reservesOf releasesOf reserveOf releaseOf releaseIn reservationsOf statesOriginal
  ofOriginal ofOperation entriesWhere operationsOfOriginal

theorem balance_whole (originalSettlementId : String) (reservations : List PaymentRefundReservation)
    {standing : List String} {counted remaining : String}
    (hstates : reservations.all (statesOriginal originalSettlementId ⟨"100","USD"⟩) = true)
    (hstanding : (reservations.filter fun r => r.release.isNone).map
      (·.reserve.content.amount.value) = standing)
    (hcounted : paymentRefundCounted standing = .ok counted)
    (hremaining : paymentRefundRemaining ⟨"100","USD"⟩ counted = .ok ⟨remaining,"USD"⟩) :
    paymentRefundBalance originalSettlementId reservations ⟨"100","USD"⟩ =
      .ok ⟨originalSettlementId,⟨"100","USD"⟩,⟨counted,"USD"⟩,⟨remaining,"USD"⟩, reservations⟩ := by
  simp [paymentRefundBalance,hstates,hstanding,hcounted,hremaining]

theorem counted_nil : paymentRefundCounted [] = .ok "0" := rfl

theorem counted_whole : paymentRefundCounted ["100"] = .ok "100" := by decide

theorem remaining_whole : paymentRefundRemaining ⟨"100","USD"⟩ "0" = .ok ⟨"100","USD"⟩ := by
  decide

theorem remaining_nothing : paymentRefundRemaining ⟨"100","USD"⟩ "100" = .ok ⟨"0","USD"⟩ := by
  decide

theorem fits_whole : paymentRefundRefusal ⟨"100","USD"⟩ "0" ⟨"100","USD"⟩ = none := by
  decide

/-- The first refund's reservation, as `e` recorded it. -/
def firstReservation (P : Platform) (one : ReservePaymentRefundInput) (e : PaymentRefundEntry)
    (release : Option (Recorded PaymentRefundReleaseContent)) : PaymentRefundReservation :=
  ⟨one.refundOperationId P,e.mapContent fun _ => one.content P,release⟩

section

variable (he : e.content = .reserve (one.content P))
include he

theorem readable_reserved : Readable P [e] := by
  refine ⟨orderly_concat.2 ⟨Admitted.nil,by simp [Follows,he]⟩,?_⟩
  intro r hr
  simp only [reservesOf,reserveOf,he,filterMap_cons,filterMap_nil,mem_singleton] at hr
  rw [hr]
  rfl

theorem ofOriginal_reserved : ofOriginal [e] one.organizationId one.originalSettlementId = [e] := by
  simp [he]

theorem ofOperation_reserved : ofOperation [e] one.organizationId (one.refundOperationId P) = [e] := by
  simp [he]

theorem reservations_reserved :
    paymentRefundReservations P [e] = .ok [firstReservation P one e none] := by
  refine paymentRefundReservations_eq_ok.2 ⟨readable_reserved he,?_⟩
  simp [firstReservation,he]

theorem plan_first_again (h : WholeRefund P one) :
    ∃ reservation balance, planPaymentRefundReservation P one [e] =
      .ok (.answer (.existing reservation balance)) := by
  have hbalance := balance_whole one.originalSettlementId
    [firstReservation P one e none]
    (by simp [firstReservation,h.original])
    (by simp [firstReservation,h.amount]) counted_whole remaining_nothing
  rw [← h.original] at hbalance
  exact ⟨_,_,planReservation_of_standing (reservations_reserved he) hbalance
    (List.find?_cons_of_pos (by simp [firstReservation])) sameRefund_content rfl⟩

variable (hl : l.content = .release (releaseOfFirst P one reference).content)
include hl

theorem readable_released : Readable P [e, l] := by
  refine ⟨orderly_concat.2 ⟨(readable_reserved he).orderly,by simp [Follows,he,hl]⟩,?_⟩
  intro r hr
  rw [show [e, l] = [e] ++ [l] from rfl,reservesOf_release hl] at hr
  exact (readable_reserved he).derived r hr

theorem ofOperation_released : ofOperation [e, l] one.organizationId (one.refundOperationId P) = [e, l] := by
  simp [he,hl]

theorem reservations_released : paymentRefundReservations P [e, l] = .ok [firstReservation P one e
    (some (l.mapContent fun _ => (releaseOfFirst P one reference).content))] := by
  refine paymentRefundReservations_eq_ok.2 ⟨readable_released he hl,?_⟩
  simp [firstReservation,he,hl]

variable (h : TwoRefunds P one two)
include h

theorem ofOriginal_released : ofOriginal [e, l] two.organizationId two.originalSettlementId = [e, l] := by
  simp [he,hl,h.organization,h.settlement]

theorem plan_second : planPaymentRefundReservation P two [e, l] = .ok (.append (two.content P)) := by
  have hbalance := balance_whole two.originalSettlementId
    [firstReservation P one e (some (l.mapContent fun _ => (releaseOfFirst P one reference).content))]
    (by simp [firstReservation,h.first.original,h.settlement]) rfl counted_nil remaining_whole
  rw [← h.second.original] at hbalance
  refine planReservation_of_new (reservations_released he hl) hbalance ?_ ?_
  · intro r hr
    rw [mem_singleton.1 hr]
    exact h.operations
  · rw [h.second.original,h.second.amount]
    exact fits_whole

variable (he' : e'.content = .reserve (two.content P))
include he'

theorem ofOriginal_again :
    ofOriginal [e, l, e'] two.organizationId two.originalSettlementId = [e, l, e'] := by
  simp [he,hl,he',h.organization,h.settlement]

theorem reservations_again : paymentRefundReservations P [e, l, e'] = .ok [firstReservation P one e
    (some (l.mapContent fun _ => (releaseOfFirst P one reference).content)),
      firstReservation P two e' none] := by
  refine paymentRefundReservations_eq_ok.2 ⟨⟨orderly_concat.2 ⟨(readable_released he hl).orderly,?_⟩,?_⟩,?_⟩
  · simp [Follows,he',he,hl,Ne.symm h.operations]
  · intro r hr
    rw [show [e, l, e'] = [e, l] ++ [e'] from rfl,reservesOf_reserve he',mem_append] at hr
    rcases hr with hr | hr
    · exact (readable_released he hl).derived r hr
    · rw [mem_singleton.1 hr]
      rfl
  · simp [firstReservation,he,hl,he',h.operations]

theorem plan_second_again : ∃ reservation balance, planPaymentRefundReservation P two [e, l, e'] =
      .ok (.answer (.existing reservation balance)) := by
  have hbalance := balance_whole two.originalSettlementId
    [firstReservation P one e (some (l.mapContent fun _ => (releaseOfFirst P one reference).content)),
      firstReservation P two e' none]
    (by simp [firstReservation,h.first.original,h.second.original,h.settlement])
    (by simp [firstReservation,h.second.amount]) counted_whole remaining_nothing
  rw [← h.second.original] at hbalance
  exact ⟨_,_,planReservation_of_standing (reservations_again he hl h he') hbalance
    ((List.find?_cons_of_neg (by simp [firstReservation,h.operations])).trans
      (List.find?_cons_of_pos (by simp [firstReservation]))) sameRefund_content rfl⟩

end

theorem plan_first (h : WholeRefund P one) :
    planPaymentRefundReservation P one [] = .ok (.append (one.content P)) := by
  have hbalance := balance_whole one.originalSettlementId [] rfl rfl counted_nil remaining_whole
  rw [← h.original] at hbalance
  refine planReservation_of_new (paymentRefundReservations_eq_ok.2
    ⟨⟨Admitted.nil,fun r hr => by cases hr⟩,rfl⟩) hbalance ?_ ?_
  · intro r hr
    cases hr
  · rw [h.original,h.amount]
    exact fits_whole

theorem append_entries (ledger : InMemoryRefundLedger) (now : String)
    (content : PaymentRefundEntryContent) :
    ∃ e, (ledger.append P now content).entries = ledger.entries ++ [e] ∧ e.content = content :=
  ⟨_,rfl,rfl⟩

def reservedLedger (P : Platform) (now : String) (one : ReservePaymentRefundInput) : InMemoryRefundLedger :=
  (InMemoryRefundLedger.open P).append P now (.reserve (one.content P))

def releasedLedger (P : Platform) (now reference : String) (one : ReservePaymentRefundInput) :
    InMemoryRefundLedger :=
  (reservedLedger P now one).append P now (.release (releaseOfFirst P one reference).content)

theorem reserve_first (h : WholeRefund P one) (now : String) : ∃ reservation balance,
    (InMemoryRefundLedger.open P).reserve P now one =
      (reservedLedger P now one, .ok (.reserved reservation balance)) := by
  obtain ⟨e,hentries,he⟩ :=
    append_entries (P := P) (InMemoryRefundLedger.open P) now (.reserve (one.content P))
  obtain ⟨reservation,balance,hagain⟩ := plan_first_again he h
  refine ⟨reservation,balance,?_⟩
  have hplan : planPaymentRefundReservation P one (ofOriginal (InMemoryRefundLedger.open P).entries
      one.organizationId one.originalSettlementId) = .ok (.append (one.content P)) := plan_first h
  rw [← ofOriginal_reserved he] at hagain
  unfold InMemoryRefundLedger.reserve
  rw [h.accepted]
  simp only [bind,Except.bind,hplan,hentries]
  rw [show (InMemoryRefundLedger.open P).entries ++ [e] = [e] from rfl,hagain]
  rfl

theorem read_first (P : Platform) (now : String) (one : ReservePaymentRefundInput) :
    ∃ reservation, (reservedLedger P now one).readOperation P one.organizationId (one.refundOperationId P) =
      .ok (some reservation) ∧ reservation.release.isSome = false ∧
        reservation.reserve.content.refundRequestId = one.refundRequestId := by
  obtain ⟨e,hentries,he⟩ :=
    append_entries (P := P) (InMemoryRefundLedger.open P) now (.reserve (one.content P))
  refine ⟨firstReservation P one e none,?_,rfl,rfl⟩
  rw [InMemoryRefundLedger.readOperation,reservedLedger,hentries,
    show (InMemoryRefundLedger.open P).entries ++ [e] = [e] from rfl,ofOperation_reserved he,
    reservations_reserved he]
  rfl

theorem release_first
    (haccepted : requireRefundReleaseInput (releaseOfFirst P one reference) = .ok ())
    (now : String) :
    ∃ reservation, (reservedLedger P now one).release P now (releaseOfFirst P one reference) =
      (releasedLedger P now reference one, .ok (.released reservation)) := by
  obtain ⟨e,hreserved,he⟩ :=
    append_entries (P := P) (InMemoryRefundLedger.open P) now (.reserve (one.content P))
  obtain ⟨l,hreleased,hl⟩ := append_entries (P := P) (reservedLedger P now one) now
    (.release (releaseOfFirst P one reference).content)
  rw [show (InMemoryRefundLedger.open P).entries ++ [e] = [e] from rfl] at hreserved
  rw [reservedLedger,hreserved] at hreleased
  have hplan : planPaymentRefundRelease P (releaseOfFirst P one reference)
      (ofOperation (reservedLedger P now one).entries one.organizationId
        (one.refundOperationId P)) =
      .ok (.append (releaseOfFirst P one reference).content) := by
    rw [reservedLedger,hreserved,ofOperation_reserved he,planPaymentRefundRelease,
      reservations_reserved he]
    simp [bind,Except.bind,firstReservation,pure,Except.pure]
  have hafter := reservations_released he hl
  rw [← ofOperation_released he hl,show [e, l] = [e] ++ [l] from rfl,← hreleased] at hafter
  refine ⟨firstReservation P one e
    (some (l.mapContent fun _ => (releaseOfFirst P one reference).content)),?_⟩
  unfold InMemoryRefundLedger.release
  rw [haccepted]
  simp only [bind,Except.bind]
  rw [show (releaseOfFirst P one reference).organizationId = one.organizationId from rfl,
    show (releaseOfFirst P one reference).refundOperationId = one.refundOperationId P from rfl, hplan]
  simp only
  rw [reservedLedger,hafter]
  rfl

theorem reserve_second (h : TwoRefunds P one two) (now reference : String) : ∃ reservation balance,
    ((releasedLedger P now reference one).reserve P now two).2 = .ok (.reserved reservation balance) := by
  obtain ⟨e,hreserved,he⟩ :=
    append_entries (P := P) (InMemoryRefundLedger.open P) now (.reserve (one.content P))
  obtain ⟨l,hreleased,hl⟩ := append_entries (P := P) (reservedLedger P now one) now
    (.release (releaseOfFirst P one reference).content)
  obtain ⟨e',hagain,he'⟩ := append_entries (P := P) (releasedLedger P now reference one) now
    (.reserve (two.content P))
  have hentries : (releasedLedger P now reference one).entries = [e, l] := by
    rw [releasedLedger,hreleased,reservedLedger,hreserved]
    rfl
  have hplan : planPaymentRefundReservation P two
      (ofOriginal (releasedLedger P now reference one).entries two.organizationId
        two.originalSettlementId) = .ok (.append (two.content P)) := by
    rw [hentries,ofOriginal_released he hl h]
    exact plan_second he hl h
  obtain ⟨reservation,balance,hafter⟩ := plan_second_again he hl h he'
  rw [← ofOriginal_again he hl h he',show [e, l, e'] = [e, l] ++ [e'] from rfl,← hentries,
    ← hagain] at hafter
  refine ⟨reservation,balance,?_⟩
  unfold InMemoryRefundLedger.reserve
  rw [h.second.accepted]
  simp only [bind,Except.bind,hplan,hafter]

end

variable {callOne callTwo : RefundCall} {now : String}
  {refundOne refundTwo : GovernedRefund} {opened started completed : RefundWorld}

def singleSteps (now : String) (call : RefundCall) : List RefundStep :=
  [.request call, .advance 0 .none now, .advance 0 .none now]

section

variable (hone : prepareRefund P options callOne = .ok refundOne)
  (h : WholeRefund P refundOne.input)
include hone h

theorem singleSteps_handed : ((RefundSystem.open P opened).run P options (singleSteps now callOne)).handed =
      [refundOne] := by
  obtain ⟨reservation,balance,hreserve⟩ := reserve_first h now
  simp [RefundSystem.run,singleSteps,RefundSystem.step,RefundSystem.open,hone,
    RefundSystem.advance,faulty,hreserve,afterReserve,Except.toOption]

theorem singleSteps_meet :
    StepsMeet (RefundSystem.step P options) (fun s step => KeepsPromises s step ∧ ReadsBound s step)
      (RefundSystem.open P opened) (singleSteps now callOne) := by
  obtain ⟨reservation,balance,hreserve⟩ := reserve_first h now
  simp [singleSteps,StepsMeet,KeepsPromises,ReadsBound,RefundSystem.step,RefundSystem.open,hone,
    RefundSystem.advance,faulty,hreserve,afterReserve,Except.toOption,HoldsRecorded]

end

/-- The reconciliation of the first refund reads P11 while `started` is on record and P12 while
`completed` is. -/
def staleSteps (operation now : String) (callOne callTwo : RefundCall)
    (started completed : RefundWorld) : List RefundStep :=
  [ .request callOne, .advance 0 .none now, .advance 0 .none now, .world started,
    .reconcile operation, .advance 1 .none now, .advance 1 .none now,
    .advance 1 .none now, .world completed, .advance 1 .none now, .advance 1 .none now,
    .request callTwo, .advance 2 .none now, .advance 2 .none now ]

theorem step_world (s : RefundSystem) (step : RefundStep) : (s.step P options step).world = match step with
      | .world next => next
      | _ => s.world := by
  cases step with
  | request call =>
    simp only [RefundSystem.step]
    split <;> rfl
  | advance i fault now =>
    simp only [RefundSystem.step]
    split <;> rfl
  | reconcile operation => rfl
  | crash i => rfl
  | world next => rfl

theorem singleSteps_world :
    ((RefundSystem.open P opened).run P options (singleSteps now callOne)).world = opened := by
  simp only [RefundSystem.run,singleSteps,foldl_cons,foldl_nil,step_world,RefundSystem.open]

variable {operation key requestId : String} {chars : List Char} {text : String}
  {written rest : List Char} {hash : String} {digits short : List Char}

theorem staleSteps_world : ((RefundSystem.open P opened).run P options
      (staleSteps operation now callOne callTwo started completed)).world = completed := by
  simp only [RefundSystem.run,staleSteps,foldl_cons,foldl_nil,step_world]

theorem staleSteps_promises (hstarted : Permanent opened started)
    (hcompleted : Permanent started completed) :
    StepsMeet (RefundSystem.step P options) KeepsPromises (RefundSystem.open P opened)
      (staleSteps operation now callOne callTwo started completed) := by
  simp only [staleSteps,StepsMeet,KeepsPromises,step_world,true_and,and_true]
  exact ⟨hstarted,hcompleted⟩

theorem staleSteps_handed (hone : prepareRefund P options callOne = .ok refundOne)
    (htwo : prepareRefund P options callTwo = .ok refundTwo)
    (h : TwoRefunds P refundOne.input refundTwo.input)
    {record : GovernanceRecord} {executionId : String} {outcome : ExecutionOutcomeRecord}
    (hrecord : resolveGovernedRecord started refundOne.input.refundRequestId = .governed record)
    (hallowed : record.status = .allowed)
    (hexecution : deriveGovernedActionExecutionId P refundOne.input.refundRequestId
      record.decisionId = executionId)
    (houtcome : started.outcomes executionId = some outcome) (hterminal : outcome.terminal = none)
    (hresolution : canonicalPaymentResolution outcome (completed.resolutions executionId) =
      .notCompleted reference)
    (haccepted : requireRefundReleaseInput (releaseOfFirst P refundOne.input reference) = .ok ()) :
    ((RefundSystem.open P opened).run P options
      (staleSteps (refundOne.input.refundOperationId P) now callOne callTwo started completed)).handed =
        [refundOne, refundTwo] := by
  obtain ⟨r₁,b₁,hreserve⟩ := reserve_first h.first now
  obtain ⟨r₂,hread,hstands,hrequest⟩ := read_first P now refundOne.input
  obtain ⟨r₃,hrelease⟩ := release_first haccepted now
  obtain ⟨r₄,b₄,hagain⟩ := reserve_second h now reference
  have horganization : options.organizationId = refundOne.input.organizationId :=
    (prepareRefund_formed hone).organization.symm
  have hinput : (⟨refundOne.input.organizationId,refundOne.input.refundOperationId P,
      .resolutionConfirmedNotCompleted,reference⟩ : ReleasePaymentRefundInput) =
      releaseOfFirst P refundOne.input reference := rfl
  simp [RefundSystem.run,staleSteps,RefundSystem.step,RefundSystem.open,hone,htwo,
    RefundSystem.advance,faulty,hreserve,afterReserve,Except.toOption,afterLooking,
    horganization,hread,hstands,hrequest,afterDecision,hrecord,hallowed,hexecution,
    afterOutcome,houtcome,hterminal,afterResolution,hresolution,afterRelease,hinput, hrelease,hagain]

def sampleTerms : PaymentSettlementTerms where
  source := ⟨"treasury-1"⟩
  destination := ⟨"vendor","vendor-1"⟩
  amount := ⟨"100","USD"⟩
  purpose := "vendor-payment"
  reference := none
  rail := none

def sampleSettlement : PaymentSettlementRecord where
  organizationId := "org-1"
  executionId := "exec-0"
  requestId := "request-0"
  decisionId := "decision-0"
  evaluationId := "evaluation-0"
  boundedGrantId := "grant-0"
  action := "payment.execute"
  railId := none
  basis :=
    { kind := .providerConfirmedCompleted
      attemptDigest := "sha256:16a5398b1ebee06816edf8b91903719eec48f3657d1af511a69dd92442e95fc0"
      observationDigest :=
        some "sha256:d98bcf61675e53c41bcba0052c0c3566cb6ccc6b17656fd64b39dc507cae7673"
      resolutionDigest := none }
  payment := sampleTerms
  finality :=
    { authorityId := "authority-1"
      method := "bank-statement"
      providerRef := "ref-0"
      finalizedAt := none
      facts := []
      proofDigest := "sha256:c94fa1a196feb24635b300da7521f83f8b20571dbc698d0726c4f19e34ba7e01" }
  verifiedAt := sampleInstant
  schemaVersion := "aoc.payment-settlement-store.schema.v1"
  settlementId :=
    "payment-settlement:6f157373e4813157730b7716cb3239df13a9db54d5dcbe33629cbf1fe76a7afc"
  contentDigest := "sha256:cd2f33679882578765b4133edbefe60cfd8d5557179b6f89bae4d8d833a74e7a"
  recordedAt := sampleInstant
  settlementDigest := "sha256:8d5c352272dbd1c9d167b27ea7a6c0616aa99152d1f7f1301291dbfd7dc6a16f"

def sampleReceipt : PaymentReceipt where
  format := "frontera.payment-receipt.v1"
  receiptId := "payment-receipt:e86552919c241e020e1e4a98942dd1ca06c6d19d1b2ced16549391a1816ab08b"
  status := "settled"
  settlementId := sampleSettlement.settlementId
  settlementContentDigest := sampleSettlement.contentDigest
  organizationId := "org-1"
  executionId := "exec-0"
  requestId := "request-0"
  decisionId := "decision-0"
  railId := none
  payment := sampleTerms
  finality := ⟨"authority-1","bank-statement","ref-0",none,sampleSettlement.finality.proofDigest⟩
  receiptDigest := "sha256:61ac5b522937456852ef6491770b4023eb344142b0000c2cae3400a6f6ba5a84"

def sampleRefundOptions : PaymentRefundServiceOptions where
  organizationId := "org-1"
  settlements executionId :=
    if executionId = "exec-0" then some (sampleSettlement, sampleReceipt) else none
  binding := ⟨"payment.refund"⟩
  assets := ⟨fun unit => if unit = "USD" then some ⟨"USD",2⟩ else none⟩

def wholeRefund (refundKey : String) : RefundCall where
  identity := ⟨"customer","principal-1","org-1","actor-1"⟩
  request :=
    { originalExecutionId := "exec-0"
      refundKey := refundKey
      amount := ⟨"100","USD"⟩
      rail := none
      correlationId := none
      envelope := ⟨none,none⟩ }
  settlement := .asRecorded
  counterparty := .resolved ⟨"treasury-1"⟩ ⟨"vendor","vendor-1"⟩

def firstOperation : String :=
  "payment-refund:bf734a5268be32dd0e3004f770235bcec894d8e78489128411d7028115dc3220"

def secondOperation : String :=
  "payment-refund:d686edffb61170b726d0d74c6be8726980cabdb3e9293a5fe285b964c08001a6"

def firstRequest : String := "aoc.gar:255b056127d5a3e686f2df65d1ec343c"

def secondRequest : String := "aoc.gar:e2b8b9dacb06c32639a56d027b0f4190"

def firstExecution : String := "aoc.exec:c0f8f09886bfb60d71aec9b999c0b235"

def firstDecision : GovernanceRecord where
  requestId := firstRequest
  organizationId := some "org-1"
  resourceScope := "treasury-1"
  requestPayload := .null
  evaluationId := "evaluation-1"
  evaluationRequestId := firstRequest
  decisionId := "decision-1"
  status := .allowed

/-- The attempt of the first refund, with what P11 has observed of it. -/
def firstOutcome (terminal : Option ExecutionTerminalRecord) : ExecutionOutcomeRecord where
  attempt :=
    { organizationId := "org-1"
      executionId := firstExecution
      evaluationId := "evaluation-1"
      requestId := firstRequest
      decisionId := "decision-1"
      boundedGrantId := "grant-1"
      action := "payment.refund"
      amount := some ⟨"100","USD"⟩
      parameters := none
      attemptDigest := "sha256:b16dffffbd7fa32a2dde5d722d63054201afb2a33031ee19cab4b02978de8620" }
  terminal := terminal

def firstBinding : ExecutionResolutionBinding where
  attemptDigest := "sha256:b16dffffbd7fa32a2dde5d722d63054201afb2a33031ee19cab4b02978de8620"
  authorityId := "authority-1"
  bindingDigest := "sha256:a5a586467a0aeb2a2b99d351ca70ef95db1363d96b1a06b6dd68fd15a46dd928"

/-- An answer of the authority from before the provider answered: its basis is no observation. -/
def firstResolution : ExecutionResolutionRecord where
  attemptDigest := firstBinding.attemptDigest
  bindingDigest := firstBinding.bindingDigest
  basisObservationDigest := none
  authorityId := "authority-1"
  certainty := .confirmedNotCompleted
  providerRef := none
  resolutionDigest := "sha256:5f7487dae8c178569f79dfdcb92b9dc5d39b1c17b2de98cdbc2622577f95893a"

def quietWorld : RefundWorld := ⟨fun _ => none,fun _ _ => [],fun _ => none,fun _ => none⟩

/-- The first refund is allowed and attempted, with this observation and this resolution. -/
def attemptedWorld (terminal : Option ExecutionTerminalRecord)
    (resolution : Option ExecutionResolutionRecord) : RefundWorld where
  getByRequestId requestId := if requestId = firstRequest then some firstDecision else none
  governedHits _ requestId :=
    if requestId = firstRequest then [⟨"evaluation-1",firstRequest,some "org-1"⟩] else []
  outcomes executionId :=
    if executionId = firstExecution then some (firstOutcome terminal) else none
  resolutions executionId :=
    if executionId = firstExecution then some ⟨some firstBinding,resolution⟩ else none

def completedTerminal : ExecutionTerminalRecord where
  observation := .provider .confirmedCompleted "adapter-1" (some "ref-1")
  observationDigest := "sha256:6710b368fe82c1313d114a18794230bdc942b1ba393001b97007b905ba903030"

def startedWorld : RefundWorld := attemptedWorld none none

def completedWorld : RefundWorld := attemptedWorld (some completedTerminal) (some firstResolution)

def refundDigests : List (String × String) :=
  [ ("\x7b\"domain\":\"aoc.payment-refund.operation.v1\",\"organizationId\":\"org-1\"," ++
      "\"originalSettlementId\":\"payment-settlement:6f157373e4813157730b7716cb3239df13" ++
      "a9db54d5dcbe33629cbf1fe76a7afc\",\"principalId\":\"principal-1\",\"refundKey\":" ++
      "\"key-1\"\x7d",
      "bf734a5268be32dd0e3004f770235bcec894d8e78489128411d7028115dc3220"),
    ("\x7b\"domain\":\"aoc.payment-refund.operation.v1\",\"organizationId\":\"org-1\"," ++
      "\"originalSettlementId\":\"payment-settlement:6f157373e4813157730b7716cb3239df13" ++
      "a9db54d5dcbe33629cbf1fe76a7afc\",\"principalId\":\"principal-1\",\"refundKey\":" ++
      "\"key-2\"\x7d",
      "d686edffb61170b726d0d74c6be8726980cabdb3e9293a5fe285b964c08001a6"),
    ("[\"aoc.governed-action.request.v1\",\"org-1\",\"principal-1\",\"refund-bf734a526" ++
      "8be32dd0e3004f770235bcec894d8e78489128411d7028115dc3220\"]",
      "255b056127d5a3e686f2df65d1ec343c7fa0555d39140e5552e47ade5f420ba7"),
    ("[\"aoc.governed-action.request.v1\",\"org-1\",\"principal-1\",\"refund-d686edffb" ++
      "61170b726d0d74c6be8726980cabdb3e9293a5fe285b964c08001a6\"]",
      "e2b8b9dacb06c32639a56d027b0f4190b5fed83bdb2e89ed12f83e19856f144f"),
    ("[\"aoc.governed-action.execution.v1\",\"aoc.gar:255b056127d5a3e686f2df65d1ec343c" ++
      "\",\"decision-1\"]",
      "c0f8f09886bfb60d71aec9b999c0b235f5e54719727634d5dd7f38c90fa49366"),
    ("\x7b\"domain\":\"aoc.payment-refund.chain.v1\",\"organizationId\":\"memory\",\"s" ++
      "equence\":0,\"storeId\":\"memory\"\x7d",
      "10a17a7c26df478cc1ff6d42c35615c07451feb67a5113ddf7a4f9cc4868dc8e"),
    ("\x7b\"amount\":\x7b\"unit\":\"USD\",\"value\":\"100\"\x7d,\"domain\":\"aoc.payme" ++
      "nt-refund.entry.v1\",\"kind\":\"reserve\",\"organizationId\":\"org-1\",\"origina" ++
      "lAmount\":\x7b\"unit\":\"USD\",\"value\":\"100\"\x7d,\"originalExecutionId\":\"e" ++
      "xec-0\",\"originalReceiptId\":\"payment-receipt:e86552919c241e020e1e4a98942dd1ca" ++
      "06c6d19d1b2ced16549391a1816ab08b\",\"originalSettlementId\":\"payment-settlement" ++
      ":6f157373e4813157730b7716cb3239df13a9db54d5dcbe33629cbf1fe76a7afc\",\"principalI" ++
      "d\":\"principal-1\",\"recordedAt\":\"2026-01-01T00:00:00.000Z\",\"refundKey\":\"" ++
      "key-1\",\"refundOperationId\":\"payment-refund:bf734a5268be32dd0e3004f770235bcec" ++
      "894d8e78489128411d7028115dc3220\",\"refundRequestId\":\"aoc.gar:255b056127d5a3e6" ++
      "86f2df65d1ec343c\",\"schemaVersion\":\"aoc.payment-refund-ledger.schema.v1\",\"s" ++
      "equence\":1\x7d",
      "8fc8331f0f54c6caa3bcf43d07a0eb65e932f0b28c0abd248ab543391d1e856f"),
    ("\x7b\"domain\":\"aoc.payment-refund.chain.v1\",\"entryDigest\":\"sha256:8fc8331f" ++
      "0f54c6caa3bcf43d07a0eb65e932f0b28c0abd248ab543391d1e856f\",\"previous\":\"sha256" ++
      ":10a17a7c26df478cc1ff6d42c35615c07451feb67a5113ddf7a4f9cc4868dc8e\"\x7d",
      "bb3fc4dde4b98141b4a2683af4b8d0ce5437f489cde3e9d15603736912711bc0"),
    ("\x7b\"basis\":\"resolution-confirmed-not-completed\",\"basisReference\":\"sha256" ++
      ":5f7487dae8c178569f79dfdcb92b9dc5d39b1c17b2de98cdbc2622577f95893a\",\"domain\":" ++
      "\"aoc.payment-refund.entry.v1\",\"kind\":\"release\",\"organizationId\":\"org-1" ++
      "\",\"recordedAt\":\"2026-01-01T00:00:00.000Z\",\"refundOperationId\":\"payment-r" ++
      "efund:bf734a5268be32dd0e3004f770235bcec894d8e78489128411d7028115dc3220\",\"schem" ++
      "aVersion\":\"aoc.payment-refund-ledger.schema.v1\",\"sequence\":2\x7d",
      "1d2a599f68283c7e4a0402d3534995fe88c3c0cb1083dcf17013b3710783e7be"),
    ("\x7b\"domain\":\"aoc.payment-refund.chain.v1\",\"entryDigest\":\"sha256:1d2a599f" ++
      "68283c7e4a0402d3534995fe88c3c0cb1083dcf17013b3710783e7be\",\"previous\":\"sha256" ++
      ":bb3fc4dde4b98141b4a2683af4b8d0ce5437f489cde3e9d15603736912711bc0\"\x7d",
      "2eac3877e56a5b584ea19f8d930238896cea9972a5c69748a61005ffda4efe6a"),
    ("\x7b\"amount\":\x7b\"unit\":\"USD\",\"value\":\"100\"\x7d,\"domain\":\"aoc.payme" ++
      "nt-refund.entry.v1\",\"kind\":\"reserve\",\"organizationId\":\"org-1\",\"origina" ++
      "lAmount\":\x7b\"unit\":\"USD\",\"value\":\"100\"\x7d,\"originalExecutionId\":\"e" ++
      "xec-0\",\"originalReceiptId\":\"payment-receipt:e86552919c241e020e1e4a98942dd1ca" ++
      "06c6d19d1b2ced16549391a1816ab08b\",\"originalSettlementId\":\"payment-settlement" ++
      ":6f157373e4813157730b7716cb3239df13a9db54d5dcbe33629cbf1fe76a7afc\",\"principalI" ++
      "d\":\"principal-1\",\"recordedAt\":\"2026-01-01T00:00:00.000Z\",\"refundKey\":\"" ++
      "key-2\",\"refundOperationId\":\"payment-refund:d686edffb61170b726d0d74c6be872698" ++
      "0cabdb3e9293a5fe285b964c08001a6\",\"refundRequestId\":\"aoc.gar:e2b8b9dacb06c326" ++
      "39a56d027b0f4190\",\"schemaVersion\":\"aoc.payment-refund-ledger.schema.v1\",\"s" ++
      "equence\":3\x7d",
      "e62fc4c9faed8a8234df7b7712b9005fb5fd2720e782f91a0f7becd083139e7b"),
    ("\x7b\"domain\":\"aoc.payment-refund.chain.v1\",\"entryDigest\":\"sha256:e62fc4c9" ++
      "faed8a8234df7b7712b9005fb5fd2720e782f91a0f7becd083139e7b\",\"previous\":\"sha256" ++
      ":2eac3877e56a5b584ea19f8d930238896cea9972a5c69748a61005ffda4efe6a\"\x7d",
      "fee8e22f9359d5bb1a18a033955f446a3919f385db9b901feadaaae6b6a9366d") ]

def refundPlatform : Platform := tabulatedPlatform refundDigests

def wholeReserve (refundKey requestId : String) : ReservePaymentRefundInput where
  organizationId := "org-1"
  principalId := "principal-1"
  refundKey := refundKey
  originalSettlementId := sampleSettlement.settlementId
  originalExecutionId := "exec-0"
  originalReceiptId := sampleReceipt.receiptId
  originalAmount := ⟨"100","USD"⟩
  amount := ⟨"100","USD"⟩
  refundRequestId := requestId

def wholeIntent (governedKey : String) : PaymentIntent where
  source := ⟨"treasury-1"⟩
  destination := ⟨"vendor","vendor-1"⟩
  amount := ⟨"100","USD"⟩
  purpose := "refund"
  reference := some governedKey
  rail := none
  idempotencyKey := governedKey
  correlationId := none

theorem wholeRefund_scope :
    boundScopeOf ⟨"customer","principal-1","org-1","actor-1"⟩ "org-1" = some "principal-1" := by
  decide

theorem vendor_kind : isPaymentDestinationKind "vendor" = true := by decide

theorem vendor_reference : isPaymentReference "vendor-1" = true :=
  isPaymentReference_of_plain rfl rfl (by decide) rfl

theorem wholeIntent_valid (hreference : isPaymentBusinessReference key = true)
    (hidentifier : isPaymentEnvelopeIdentifier key = true) :
    validatePaymentIntent (wholeIntent key) sampleRefundOptions.assets = .ok (wholeIntent key) ∧
      isWellFormedPaymentIntent (wholeIntent key) = true := by
  have hsource : isPaymentReference "treasury-1" = true :=
    isPaymentReference_of_plain rfl rfl (by decide) rfl
  have hkind := vendor_kind
  have hdestination := vendor_reference
  have hpurpose : isPaymentPurpose "refund" = true := by decide
  have hamount : validateAmount ⟨"100","USD"⟩ sampleRefundOptions.assets = .ok ⟨"100","USD"⟩ := by decide
  have hpositive : isPositiveMonetaryAmount ⟨"100","USD"⟩ = true := by decide
  constructor
  · simp [validatePaymentIntent,wholeIntent,hamount,validateSource,hsource,validateDestination,
      hkind,hdestination,trailingViolations,hpurpose,optionalViolation,hreference,hidentifier]
  · simp [isWellFormedPaymentIntent,wholeIntent,hsource,hkind,hdestination,hpositive,hpurpose,
      hreference,hidentifier]

theorem prepare_whole (hkey : isOpaqueExecutionIdentifier key = true)
    (hoperation : paymentRefundOperationId P "org-1" "principal-1" sampleSettlement.settlementId key = operation)
    (hreference : isPaymentBusinessReference (paymentRefundGovernedKey operation) = true)
    (hidentifier : isPaymentEnvelopeIdentifier (paymentRefundGovernedKey operation) = true)
    (hrequest : deriveGovernedActionRequestId P "org-1" "principal-1" (paymentRefundGovernedKey operation) = requestId) :
    ∃ refund, prepareRefund P sampleRefundOptions (wholeRefund key) = .ok refund ∧
      refund.original = sampleSettlement ∧ refund.input = wholeReserve key requestId ∧
        refund.intent.amount = ⟨"100","USD"⟩ := by
  obtain ⟨hvalid,hwell⟩ := wholeIntent_valid hreference hidentifier
  have hexecution : isOpaqueExecutionIdentifier "exec-0" = true :=
    isOpaqueExecutionIdentifier_literal rfl rfl (by decide) rfl
  have hbinding : isPaymentEnvelopeIdentifier "payment.refund" = true := by decide
  have hkind := vendor_kind
  have hdestination := vendor_reference
  have hintent : wholeIntent (paymentRefundGovernedKey operation) =
    { source := ⟨"treasury-1"⟩
      destination := ⟨"vendor","vendor-1"⟩
      amount := ⟨"100","USD"⟩
      purpose := "refund"
      reference := some (paymentRefundGovernedKey operation)
      rail := none
      idempotencyKey := paymentRefundGovernedKey operation
      correlationId := none } := rfl
  have hpurpose : ¬ sampleSettlement.payment.purpose = "refund" := by decide
  have hcompile : ∃ governed, compilePaymentIntent (wholeIntent (paymentRefundGovernedKey operation))
      sampleRefundOptions.binding ⟨none,none⟩ = .ok governed ∧ governed.amount = ⟨"100","USD"⟩ ∧
        governed.idempotencyKey = paymentRefundGovernedKey operation := by
    rw [hintent] at hwell
    simp [compilePaymentIntent,hwell,sampleRefundOptions,hbinding,snapshotAssertedContext,
      paymentCounterpartyOf,wholeIntent,hkind,hdestination,bind,Except.bind,pure,Except.pure]
  obtain ⟨governed,hcompile,hamount,hidempotency⟩ := hcompile
  have hsettled : settledOriginal sampleRefundOptions "exec-0" .asRecorded =
      .ok (sampleSettlement, sampleReceipt) := by
    simp [settledOriginal,hexecution,sampleRefundOptions]
  have hfits : paymentRefundRefusal sampleSettlement.payment.amount "0"
      (wholeIntent (paymentRefundGovernedKey operation)).amount = none := fits_whole
  refine ⟨⟨sampleSettlement,wholeReserve key requestId,governed⟩,?_,rfl,rfl,hamount⟩
  unfold prepareRefund
  rw [show (wholeRefund key).identity = ⟨"customer","principal-1","org-1","actor-1"⟩ from rfl,
    show sampleRefundOptions.organizationId = "org-1" from rfl,wholeRefund_scope]
  simp only [wholeRefund,hsettled,hpurpose,if_false,hkey,Bool.not_true,Bool.false_eq_true,
    hoperation,← hintent,hvalid,hfits,hcompile,hidempotency,hrequest]
  rfl

theorem keyLe_literal {a b : String} {others : List Char} (h : a = String.ofList chars)
    (h' : b = String.ofList others) :
    keyLe a b = !codeUnitsLt (others.flatMap charCodeUnits) (chars.flatMap charCodeUnits) := by
  rw [keyLe,stringLt_literal h' h]

theorem operation_text (key : String) : Json.canonicalSerialize keyLe (.obj
      [("domain", .str "aoc.payment-refund.operation.v1"), ("organizationId", .str "org-1"),
        ("principalId", .str "principal-1"),
        ("originalSettlementId", .str sampleSettlement.settlementId), ("refundKey", .str key)]) =
      String.ofList (Json.write (.obj
        [("domain", .str "aoc.payment-refund.operation.v1"), ("organizationId", .str "org-1"),
          ("originalSettlementId", .str sampleSettlement.settlementId),
          ("principalId", .str "principal-1"), ("refundKey", .str key)])) := by
  have hsettlement : keyLe "originalSettlementId" "refundKey" = true :=
    (keyLe_literal rfl rfl).trans rfl
  have hbefore : keyLe "principalId" "originalSettlementId" = false :=
    (keyLe_literal rfl rfl).trans rfl
  have hprincipal : keyLe "principalId" "refundKey" = true := (keyLe_literal rfl rfl).trans rfl
  have horganization : keyLe "organizationId" "originalSettlementId" = true :=
    (keyLe_literal rfl rfl).trans rfl
  have hdomain : keyLe "domain" "organizationId" = true := (keyLe_literal rfl rfl).trans rfl
  rw [Json.canonicalSerialize,Json.stringify]
  simp [Json.canonical,Json.canonicalFields,List.orderedInsert,hsettlement,hbefore,hprincipal,
    horganization,hdomain]

def operationOpens : String :=
  "\x7b\"domain\":\"aoc.payment-refund.operation.v1\",\"organizationId\":\"org-1\"," ++
    "\"originalSettlementId\":\"payment-settlement:6f157373e4813157730b7716cb3239df13" ++
    "a9db54d5dcbe33629cbf1fe76a7afc\",\"principalId\":\"principal-1\",\"refundKey\":"

theorem operation_written (h : key = String.ofList chars) : Json.write (.obj
        [("domain", .str "aoc.payment-refund.operation.v1"), ("organizationId", .str "org-1"),
          ("originalSettlementId", .str sampleSettlement.settlementId),
          ("principalId", .str "principal-1"), ("refundKey", .str key)]) =
      operationOpens.toList ++ ('"' :: (chars.flatMap escapeChar ++ ['"'])) ++ ['\x7d'] := by
  have hopens : operationOpens = String.ofList _ :=
    append_literal (append_literal rfl rfl) rfl
  simp only [Json.write,Json.writeFields,write_literal (s := "domain") rfl,
    write_literal (s := "aoc.payment-refund.operation.v1") rfl,
    write_literal (s := "organizationId") rfl,write_literal (s := "org-1") rfl,
    write_literal (s := "originalSettlementId") rfl, write_literal (s := sampleSettlement.settlementId) rfl,
    write_literal (s := "principalId") rfl,write_literal (s := "principal-1") rfl,
    write_literal (s := "refundKey") rfl,write_literal h,toList_literal hopens]
  rfl

theorem hexOf_digest (hash : String) : hexOf ("sha256:" ++ hash) = hash := by
  have hdrop : ("sha256:" ++ hash).toList.drop 7 = hash.toList := by
    rw [String.toList_append,toList_literal (s := "sha256:") rfl]
    rfl
  rw [hexOf,hdrop,String.ofList_toList]

theorem operationId_of_hash {digest : String}
    (hhash : refundPlatform.sha256 (operationOpens ++ text) = digest)
    (h : key = String.ofList chars) (htext : text = String.ofList written)
    (hwritten : '"' :: (chars.flatMap escapeChar ++ ['"']) ++ ['\x7d'] = written) :
    paymentRefundOperationId refundPlatform "org-1" "principal-1" sampleSettlement.settlementId key =
      "payment-refund:" ++ digest := by
  have hspelled : String.ofList (operationOpens.toList ++
      ('"' :: (chars.flatMap escapeChar ++ ['"'])) ++ ['\x7d']) = operationOpens ++ text := by
    rw [htext,← hwritten,append_assoc,String.ofList_append,String.ofList_toList]
  have hoperation := (operation_text key).trans
    ((congrArg String.ofList (operation_written h)).trans hspelled)
  unfold paymentRefundOperationId computeDigest Platform.digestOf
  rw [hoperation,hhash,hexOf_digest]

theorem refundPlatform_sha256 (text : String) :
    refundPlatform.sha256 text = tabulatedHash refundDigests text := rfl

theorem refundPlatform_firstOperation : paymentRefundOperationId refundPlatform "org-1" "principal-1"
    sampleSettlement.settlementId "key-1" = firstOperation := by
  have hhash : refundPlatform.sha256 (operationOpens ++ "\"key-1\"\x7d") =
      "bf734a5268be32dd0e3004f770235bcec894d8e78489128411d7028115dc3220" :=
    (refundPlatform_sha256 _).trans (tabulatedHash_head (operationOpens ++ "\"key-1\"\x7d") _ _)
  exact (operationId_of_hash hhash rfl rfl rfl).trans (append_eq_literal rfl rfl rfl rfl)

theorem refundPlatform_secondOperation : paymentRefundOperationId refundPlatform "org-1" "principal-1"
    sampleSettlement.settlementId "key-2" = secondOperation := by
  have hother : operationOpens ++ "\"key-1\"\x7d" ≠ operationOpens ++ "\"key-2\"\x7d" := by
    intro h
    rw [String.append_right_inj] at h
    exact ne_of_literals rfl rfl (by decide) h
  have hhash : refundPlatform.sha256 (operationOpens ++ "\"key-2\"\x7d") =
      "d686edffb61170b726d0d74c6be8726980cabdb3e9293a5fe285b964c08001a6" :=
    (refundPlatform_sha256 _).trans ((tabulatedHash_tail hother).trans
      (tabulatedHash_head (operationOpens ++ "\"key-2\"\x7d") _ _))
  exact (operationId_of_hash hhash rfl rfl rfl).trans (append_eq_literal rfl rfl rfl rfl)

/-! The governed key of an operation is a plain reference. -/

theorem governedKey_spelled (h : operation = String.ofList chars) (hrest : chars.drop 15 = rest) :
    paymentRefundGovernedKey operation =
      String.ofList ('r' :: 'e' :: 'f' :: 'u' :: 'n' :: 'd' :: '-' :: rest) := by
  rw [paymentRefundGovernedKey,toList_literal h,hrest]
  exact append_literal rfl rfl

theorem governedKey_accepted (h : operation = String.ofList chars) (hrest : chars.drop 15 = rest)
    (hlength : rest.length ≤ 100) (hplain : rest.all isPlainReferenceChar = true) :
    isPaymentBusinessReference (paymentRefundGovernedKey operation) = true ∧
      isPaymentEnvelopeIdentifier (paymentRefundGovernedKey operation) = true := by
  have hkey := governedKey_spelled h hrest
  refine ⟨isPaymentBusinessReference_of_plain hkey rfl ?_ ?_,
    isPaymentEnvelopeIdentifier_of_plain hkey (cons_ne_nil _ _) ?_ ?_⟩
  · simp only [length_cons]
    omega
  · exact hplain
  · simp only [length_cons]
    omega
  · exact hplain

theorem operationOpens_spelled : ∃ rest, operationOpens = String.ofList ('\x7b' :: rest) :=
  ⟨_,append_literal (append_literal rfl rfl) rfl⟩

theorem operationOpens_ne {tail s : String} {rest : List Char}
    (h : s = String.ofList ('[' :: rest)) : operationOpens ++ tail ≠ s := by
  intro heq
  obtain ⟨opens,hopens⟩ := operationOpens_spelled
  have hchars := congrArg String.toList heq
  rw [String.toList_append,toList_literal hopens,toList_literal h] at hchars
  exact absurd (List.cons.inj hchars).1 (by decide)

theorem refundPlatform_parts {s : String} {rest : List Char} (h : s = String.ofList ('[' :: rest)) :
    refundPlatform.sha256 s = tabulatedHash (refundDigests.drop 2) s :=
  (refundPlatform_sha256 s).trans ((tabulatedHash_tail (operationOpens_ne h)).trans
    (tabulatedHash_tail (operationOpens_ne h)))

theorem partsDigest_of_hash {parts : List String} (hhash : refundPlatform.sha256 text = hash)
    (htext : text = String.ofList written) (hdigits : hash = String.ofList digits)
    (hshort : digits.take 32 = short) (hwritten : Json.write (.arr (parts.map .str)) = written) :
    partsDigest refundPlatform parts = String.ofList short := by
  rw [partsDigest,Json.stringify,hwritten,← htext,hhash,toList_literal hdigits,hshort]

def requestOpens : String := "[\"aoc.governed-action.request.v1\",\"org-1\",\"principal-1\","

theorem request_written (h : key = String.ofList chars) :
    Json.write (.arr (["aoc.governed-action.request.v1", "org-1", "principal-1", key].map .str)) =
      requestOpens.toList ++ ('"' :: (chars.flatMap escapeChar ++ ['"'])) ++ [']'] := by
  simp only [map_cons,map_nil,Json.write,Json.writeItems,write_literal h,
    write_literal (s := "aoc.governed-action.request.v1") rfl,write_literal (s := "org-1") rfl,
    write_literal (s := "principal-1") rfl,toList_literal (s := requestOpens) rfl]
  rfl

theorem requestId_of_hash {opens whole : List Char} (hhash : refundPlatform.sha256 text = hash)
    (htext : text = String.ofList written) (hoperation : operation = String.ofList chars)
    (hrest : chars.drop 15 = rest) (hopens : requestOpens = String.ofList opens)
    (hwritten : opens ++ ('"' :: (('r' :: 'e' :: 'f' :: 'u' :: 'n' :: 'd' :: '-' :: rest).flatMap escapeChar ++ ['"'])) ++ [']'] = written)
    (hdigits : hash = String.ofList digits) (hshort : digits.take 32 = short)
    (hrequest : requestId = String.ofList whole)
    (hwhole : ['a', 'o', 'c', '.', 'g', 'a', 'r', ':'] ++ short = whole) :
    deriveGovernedActionRequestId refundPlatform "org-1" "principal-1"
      (paymentRefundGovernedKey operation) = requestId := by
  have hparts : partsDigest refundPlatform ["aoc.governed-action.request.v1", "org-1",
      "principal-1", paymentRefundGovernedKey operation] = String.ofList short :=
    partsDigest_of_hash hhash htext hdigits hshort
      (by rw [request_written (governedKey_spelled hoperation hrest),toList_literal hopens,hwritten])
  exact (congrArg ("aoc.gar:" ++ ·) hparts).trans (append_eq_literal rfl rfl hrequest hwhole)

def firstRequestText : String :=
  "[\"aoc.governed-action.request.v1\",\"org-1\",\"principal-1\",\"refund-bf734a526" ++
    "8be32dd0e3004f770235bcec894d8e78489128411d7028115dc3220\"]"

def secondRequestText : String :=
  "[\"aoc.governed-action.request.v1\",\"org-1\",\"principal-1\",\"refund-d686edffb" ++
    "61170b726d0d74c6be8726980cabdb3e9293a5fe285b964c08001a6\"]"

theorem firstRequest_eq : deriveGovernedActionRequestId refundPlatform "org-1" "principal-1"
    (paymentRefundGovernedKey firstOperation) = firstRequest := by
  have hspelled : firstRequestText = String.ofList ('[' :: _) := append_literal rfl rfl
  have hhash : refundPlatform.sha256 firstRequestText =
      "255b056127d5a3e686f2df65d1ec343c7fa0555d39140e5552e47ade5f420ba7" :=
    (refundPlatform_parts hspelled).trans (tabulatedHash_head firstRequestText _ _)
  exact requestId_of_hash hhash hspelled rfl rfl rfl rfl rfl rfl rfl rfl

theorem secondRequest_eq : deriveGovernedActionRequestId refundPlatform "org-1" "principal-1"
    (paymentRefundGovernedKey secondOperation) = secondRequest := by
  have hfirst : firstRequestText = String.ofList ('[' :: _) := append_literal rfl rfl
  have hspelled : secondRequestText = String.ofList ('[' :: _) := append_literal rfl rfl
  have hother : firstRequestText ≠ secondRequestText :=
    ne_of_literals hfirst hspelled (by decide)
  have hhash : refundPlatform.sha256 secondRequestText =
      "e2b8b9dacb06c32639a56d027b0f4190b5fed83bdb2e89ed12f83e19856f144f" :=
    (refundPlatform_parts hspelled).trans ((tabulatedHash_tail hother).trans
      (tabulatedHash_head secondRequestText _ _))
  exact requestId_of_hash hhash hspelled rfl rfl rfl rfl rfl rfl rfl rfl

theorem governed_first : isPaymentBusinessReference (paymentRefundGovernedKey firstOperation) = true ∧
      isPaymentEnvelopeIdentifier (paymentRefundGovernedKey firstOperation) = true :=
  governedKey_accepted (rfl : firstOperation = String.ofList _) rfl (by decide) (by decide)

theorem governed_second : isPaymentBusinessReference (paymentRefundGovernedKey secondOperation) = true ∧
      isPaymentEnvelopeIdentifier (paymentRefundGovernedKey secondOperation) = true :=
  governedKey_accepted (rfl : secondOperation = String.ofList _) rfl (by decide) (by decide)

def firstExecutionText : String :=
  "[\"aoc.governed-action.execution.v1\",\"aoc.gar:255b056127d5a3e686f2df65d1ec343c" ++
    "\",\"decision-1\"]"

theorem firstExecution_eq : deriveGovernedActionExecutionId refundPlatform firstRequest
    firstDecision.decisionId = firstExecution := by
  have hspelled : firstExecutionText = String.ofList ('[' :: _) := append_literal rfl rfl
  have hfirst : firstRequestText ≠ firstExecutionText :=
    ne_of_literals (append_literal rfl rfl) hspelled (by decide)
  have hsecond : secondRequestText ≠ firstExecutionText :=
    ne_of_literals (append_literal rfl rfl) hspelled (by decide)
  have hhash : refundPlatform.sha256 firstExecutionText =
      "c0f8f09886bfb60d71aec9b999c0b235f5e54719727634d5dd7f38c90fa49366" :=
    (refundPlatform_parts hspelled).trans ((tabulatedHash_tail hfirst).trans
      ((tabulatedHash_tail hsecond).trans (tabulatedHash_head firstExecutionText _ _)))
  have hparts : partsDigest refundPlatform ["aoc.governed-action.execution.v1", firstRequest,
      "decision-1"] = _ :=
    partsDigest_of_hash hhash hspelled rfl rfl (by
      simp only [map_cons,map_nil,Json.write,Json.writeItems, write_literal (s := firstRequest) rfl,
        write_literal (s := "aoc.governed-action.execution.v1") rfl, write_literal (s := "decision-1") rfl]
      rfl)
  exact (congrArg ("aoc.exec:" ++ ·) hparts).trans (append_eq_literal rfl rfl rfl rfl)

theorem prepare_first : ∃ refund,
    prepareRefund refundPlatform sampleRefundOptions (wholeRefund "key-1") = .ok refund ∧
      refund.original = sampleSettlement ∧ refund.input = wholeReserve "key-1" firstRequest ∧
        refund.intent.amount = ⟨"100","USD"⟩ :=
  prepare_whole (by decide) refundPlatform_firstOperation governed_first.1 governed_first.2
    firstRequest_eq

theorem prepare_second : ∃ refund,
    prepareRefund refundPlatform sampleRefundOptions (wholeRefund "key-2") = .ok refund ∧
      refund.original = sampleSettlement ∧ refund.input = wholeReserve "key-2" secondRequest ∧
        refund.intent.amount = ⟨"100","USD"⟩ :=
  prepare_whole (by decide) refundPlatform_secondOperation governed_second.1 governed_second.2
    secondRequest_eq

theorem wholeReserve_accepted (hkey : isOpaqueExecutionIdentifier key = true)
    (hrequest : isOpaqueExecutionIdentifier requestId = true) :
    WholeRefund P (wholeReserve key requestId) := by
  have horganization : isOpaqueExecutionIdentifier "org-1" = true := by decide
  have hprobe : isOpaqueExecutionIdentifier "payment-refund:probe" = true :=
    isOpaqueExecutionIdentifier_literal rfl rfl (by decide) rfl
  have hprincipal : isOpaqueExecutionIdentifier "principal-1" = true :=
    isOpaqueExecutionIdentifier_literal rfl rfl (by decide) rfl
  have hsettlement : isOpaqueExecutionIdentifier sampleSettlement.settlementId = true :=
    isOpaqueExecutionIdentifier_literal rfl rfl (by decide) rfl
  have hexecution : isOpaqueExecutionIdentifier "exec-0" = true := by decide
  have hreceipt : isOpaqueExecutionIdentifier sampleReceipt.receiptId = true :=
    isOpaqueExecutionIdentifier_literal rfl rfl (by decide) rfl
  have hamount : isWellFormedMonetaryAmount ⟨"100","USD"⟩ = true := by decide
  refine ⟨?_,rfl,rfl⟩
  simp [requireRefundReserveInput,paymentRefundContentViolation,
    ReservePaymentRefundInput.content,PaymentRefundEntryContent.organizationId,
    PaymentRefundEntryContent.refundOperationId,wholeReserve,malformedIdentifier,hkey,hrequest,
    horganization,hprobe,hprincipal,hsettlement,hexecution,hreceipt,hamount]

theorem twoRefunds : TwoRefunds refundPlatform (wholeReserve "key-1" firstRequest)
    (wholeReserve "key-2" secondRequest) where
  first := wholeReserve_accepted (by decide)
    (isOpaqueExecutionIdentifier_literal rfl rfl (by decide) rfl)
  second := wholeReserve_accepted (by decide)
    (isOpaqueExecutionIdentifier_literal rfl rfl (by decide) rfl)
  organization := rfl
  settlement := rfl
  operations := by
    rw [ReservePaymentRefundInput.refundOperationId,ReservePaymentRefundInput.refundOperationId]
    simp only [wholeReserve,refundPlatform_firstOperation,refundPlatform_secondOperation]
    decide

theorem attemptedWorld_governed (terminal : Option ExecutionTerminalRecord)
    (resolution : Option ExecutionResolutionRecord) :
    resolveGovernedRecord (attemptedWorld terminal resolution) firstRequest = .governed firstDecision := by
  simp [resolveGovernedRecord,attemptedWorld,firstDecision,hasGovernedActionProvenance]

theorem quiet_permanent {W : RefundWorld} : Permanent quietWorld W where
  decision requestId record h := by cases h
  observation executionId h := by
    obtain ⟨outcome,houtcome,-⟩ := h
    cases houtcome
  resolution executionId h := by
    obtain ⟨outcome,digest,houtcome,-⟩ := h
    cases houtcome

theorem started_permanent : Permanent startedWorld completedWorld where
  decision requestId record h := h
  observation executionId h := by
    obtain ⟨outcome,houtcome,hnothing⟩ := h
    simp only [startedWorld,attemptedWorld,Option.ite_none_right_eq_some, Option.some.injEq] at houtcome
    rw [← houtcome.2] at hnothing
    cases hnothing
  resolution executionId h := by
    obtain ⟨outcome,digest,houtcome,-,hresolution⟩ := h
    simp only [startedWorld,attemptedWorld,Option.ite_none_right_eq_some] at houtcome
    simp [startedWorld,attemptedWorld,houtcome.1,canonicalPaymentResolution] at hresolution

theorem first_moved : ¬ NoMoney refundPlatform completedWorld firstRequest := by
  rintro ⟨record,hrecord,hmoved⟩
  rw [completedWorld,attemptedWorld_governed] at hrecord
  obtain rfl : firstDecision = record := by simpa using hrecord
  rw [firstExecution_eq] at hmoved
  rcases hmoved with hdenied | ⟨-,⟨outcome,houtcome,hnothing⟩ | ⟨outcome,_,houtcome,hopen,-⟩⟩
  · cases hdenied
  · obtain rfl : firstOutcome (some completedTerminal) = outcome := by
      simpa [completedWorld,attemptedWorld] using houtcome
    cases hnothing
  · obtain rfl : firstOutcome (some completedTerminal) = outcome := by
      simpa [completedWorld,attemptedWorld] using houtcome
    cases hopen

theorem second_open : ¬ NoMoney refundPlatform completedWorld secondRequest := by
  rintro ⟨record,hrecord,-⟩
  have hother : ¬ secondRequest = firstRequest := by decide
  simp [resolveGovernedRecord,completedWorld,attemptedWorld,hother] at hrecord

/-- The run of two refunds of the whole original, the first released on a stale reading. -/
def twoRefundSteps : List RefundStep :=
  staleSteps firstOperation sampleInstant (wholeRefund "key-1") (wholeRefund "key-2") startedWorld
    completedWorld

theorem twoRefunds_handed : ∃ one two : GovernedRefund,
    ((RefundSystem.open refundPlatform quietWorld).run refundPlatform sampleRefundOptions
      twoRefundSteps).handed = [one, two] ∧
    (one.original = sampleSettlement ∧ one.input = wholeReserve "key-1" firstRequest ∧
      one.intent.amount = ⟨"100","USD"⟩) ∧
    two.original = sampleSettlement ∧ two.input = wholeReserve "key-2" secondRequest ∧
      two.intent.amount = ⟨"100","USD"⟩ := by
  obtain ⟨one,hone,horiginal,hinput,hamount⟩ := prepare_first
  obtain ⟨two,htwo,horiginal',hinput',hamount'⟩ := prepare_second
  refine ⟨one,two,?_,⟨horiginal,hinput,hamount⟩,horiginal',hinput',hamount'⟩
  have hoperation : one.input.refundOperationId refundPlatform = firstOperation := by
    rw [hinput]
    exact refundPlatform_firstOperation
  rw [twoRefundSteps,← hoperation]
  have hgoverned : resolveGovernedRecord startedWorld one.input.refundRequestId =
      .governed firstDecision := by
    rw [hinput]
    exact attemptedWorld_governed none none
  have hexecution : deriveGovernedActionExecutionId refundPlatform one.input.refundRequestId
      firstDecision.decisionId = firstExecution := by
    rw [hinput]
    exact firstExecution_eq
  have houtcome : startedWorld.outcomes firstExecution = some (firstOutcome none) := by
    simp [startedWorld,attemptedWorld]
  have hstate : completedWorld.resolutions firstExecution =
      some ⟨some firstBinding,some firstResolution⟩ := by
    simp [completedWorld,attemptedWorld]
  have hresolution : canonicalPaymentResolution (firstOutcome none)
      (completedWorld.resolutions firstExecution) =
      .notCompleted firstResolution.resolutionDigest := by
    rw [hstate]
    simp [canonicalPaymentResolution,firstOutcome,firstResolution,firstBinding,boundBy,
      handlesDiffer,observedProviderRef]
  have haccepted : requireRefundReleaseInput (releaseOfFirst refundPlatform one.input
      firstResolution.resolutionDigest) = .ok () := by
    have horganization : isOpaqueExecutionIdentifier "org-1" = true := by decide
    have hopaque : isOpaqueExecutionIdentifier firstOperation = true :=
      isOpaqueExecutionIdentifier_literal rfl rfl (by decide) rfl
    have hdigest : isWellFormedDigest firstResolution.resolutionDigest = true :=
      isWellFormedDigest_literal rfl rfl rfl
    rw [releaseOfFirst,hoperation,hinput]
    exact requireRefundReleaseInput_ok horganization hopaque hdigest
  have htwoRefunds : TwoRefunds refundPlatform one.input two.input := by
    rw [hinput,hinput']
    exact twoRefunds
  exact staleSteps_handed hone htwo htwoRefunds hgoverned rfl hexecution houtcome rfl hresolution
    haccepted

theorem refunds_within_original_single : ∃ payment : GovernedRefund,
    payment ∈ ((RefundSystem.open refundPlatform completedWorld).run refundPlatform
      sampleRefundOptions (singleSteps sampleInstant (wholeRefund "key-1"))).handed ∧
    ([payment].map fun p => decimalValue p.intent.amount.value).sum ≤
      decimalValue sampleSettlement.payment.amount.value ∧
    ∀ p ∈ [payment], p.intent.amount.unit = sampleSettlement.payment.amount.unit := by
  obtain ⟨one,hone,horiginal,hinput,-⟩ := prepare_first
  have hwhole : WholeRefund refundPlatform one.input := by
    rw [hinput]
    exact twoRefunds.first
  have hhanded : one ∈ ((RefundSystem.open refundPlatform completedWorld).run refundPlatform
      sampleRefundOptions (singleSteps sampleInstant (wholeRefund "key-1"))).handed := by
    rw [singleSteps_handed hone hwhole]
    exact List.mem_singleton.2 rfl
  have hmeet : StepsMeet (RefundSystem.step refundPlatform sampleRefundOptions)
      (fun s step => KeepsPromises s step ∧ ReadsBound s step)
      (RefundSystem.open refundPlatform completedWorld)
      (singleSteps sampleInstant (wholeRefund "key-1")) := singleSteps_meet hone hwhole
  refine ⟨one,hhanded,refunds_within_original hmeet ?_ ?_ ?_⟩
  · intro p hp
    rw [List.mem_singleton.1 hp]
    exact ⟨hhanded,horiginal⟩
  · exact nodup_singleton _
  · intro p hp
    rw [List.mem_singleton.1 hp,hinput,singleSteps_world]
    exact first_moved

/-- Both refunds were handed over under identities of their own and both may have moved money:
together they are twice the original. -/
theorem refunds_exceed_original : ∃ payments : List GovernedRefund,
    StepsMeet (RefundSystem.step refundPlatform sampleRefundOptions) KeepsPromises
      (RefundSystem.open refundPlatform quietWorld) twoRefundSteps ∧
    (∀ p ∈ payments, p ∈ ((RefundSystem.open refundPlatform quietWorld).run refundPlatform
      sampleRefundOptions twoRefundSteps).handed ∧ p.original = sampleSettlement) ∧
    (payments.map (·.input.refundRequestId)).Nodup ∧
    (∀ p ∈ payments, ¬ NoMoney refundPlatform ((RefundSystem.open refundPlatform quietWorld).run
      refundPlatform sampleRefundOptions twoRefundSteps).world p.input.refundRequestId) ∧
    decimalValue sampleSettlement.payment.amount.value <
      (payments.map fun p => decimalValue p.intent.amount.value).sum := by
  obtain ⟨one,two,hhanded,⟨horiginal,hinput,hamount⟩,horiginal',hinput',hamount'⟩ :=
    twoRefunds_handed
  have hdistinct : ¬ firstRequest = secondRequest := by decide
  refine ⟨[one, two],(staleSteps_promises quiet_permanent started_permanent),?_,?_,?_,?_⟩
  · rw [hhanded]
    simp [horiginal,horiginal']
  · simp [hinput,hinput',wholeReserve,hdistinct]
  · rw [show twoRefundSteps = staleSteps firstOperation sampleInstant (wholeRefund "key-1")
      (wholeRefund "key-2") startedWorld completedWorld from rfl,staleSteps_world]
    intro p hp
    rcases List.mem_pair.1 hp with rfl | rfl
    · rw [hinput]
      exact first_moved
    · rw [hinput']
      exact second_open
  · have hvalue : decimalValue "100" = 100 := by
      have hparse : parse "100" = ⟨100,0⟩ := by decide
      simp [decimalValue,hparse,ExactDecimal.value]
    simp [hamount,hamount',sampleSettlement,sampleTerms,hvalue]

end Frontera.Payment
