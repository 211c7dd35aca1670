import Frontera.Data.Runs
import Frontera.Payment.RefundBalance
import Frontera.Payment.RefundService

/-! Every refund handed to the governed path stands on a reservation of its original, and a
reservation is released only for a request that moved no money. So the refunds that may have moved
money are within the original, in every run in which a reconciliation reads the resolution of an
execution while the outcome it holds is still the one on record. -/

namespace Frontera.Payment

open Frontera.Monetary Frontera.Data List

variable {P : Platform} {options : PaymentRefundServiceOptions}

/-- P11 observed that the execution moved nothing. -/
def observedNothing (outcome : ExecutionOutcomeRecord) : Bool :=
  match outcome.terminal with
  | some ⟨.withheld,_⟩ => true
  | some ⟨.provider .confirmedNotCompleted _ _,_⟩ => true
  | _ => false

/-- P11 does not say whether the execution completed. -/
def uncertain (outcome : ExecutionOutcomeRecord) : Bool :=
  match outcome.terminal with
  | none => true
  | some ⟨.provider .unconfirmed _ _,_⟩ => true
  | _ => false

/-- P12 resolves the uncertainty on record, bound to it, as not completed. -/
def ResolvedNothing (W : RefundWorld) (executionId : String) : Prop :=
  ∃ outcome digest, W.outcomes executionId = some outcome ∧ uncertain outcome = true ∧
    canonicalPaymentResolution outcome (W.resolutions executionId) = .notCompleted digest

def ObservedNothing (W : RefundWorld) (executionId : String) : Prop :=
  ∃ outcome, W.outcomes executionId = some outcome ∧ observedNothing outcome = true

/-- The committed decision of the request is a denial, or its one execution moved nothing. -/
def NoMoney (P : Platform) (W : RefundWorld) (requestId : String) : Prop :=
  ∃ record, resolveGovernedRecord W requestId = .governed record ∧
    (record.status = .denied ∨ record.status = .allowed ∧
      (ObservedNothing W (deriveGovernedActionExecutionId P requestId record.decisionId) ∨
        ResolvedNothing W (deriveGovernedActionExecutionId P requestId record.decisionId)))

/-- What the other stores promise: the decision committed for a request identity is the one it
has, and a proof that an execution moved nothing stays one. -/
structure Permanent (W W' : RefundWorld) : Prop where
  decision : ∀ requestId record, resolveGovernedRecord W requestId = .governed record →
    resolveGovernedRecord W' requestId = .governed record
  observation : ∀ executionId, ObservedNothing W executionId → ObservedNothing W' executionId
  resolution : ∀ executionId, ResolvedNothing W executionId → ResolvedNothing W' executionId

variable {W : RefundWorld} {requestId : String} {entries : List PaymentRefundEntry}
  {ledger : InMemoryRefundLedger} {now : String} {refund : GovernedRefund} {fault : CallFault}
  {organizationId operation executionId : String} {s : RefundSystem} {task : RefundTask}

theorem NoMoney.mono {W' : RefundWorld} (h : Permanent W W') (hno : NoMoney P W requestId) :
    NoMoney P W' requestId := by
  obtain ⟨record,hrecord,hdenied | ⟨hallowed,hobserved | hresolved⟩⟩ := hno
  · exact ⟨record,h.decision _ _ hrecord,.inl hdenied⟩
  · exact ⟨record,h.decision _ _ hrecord,.inr ⟨hallowed,.inl (h.observation _ hobserved)⟩⟩
  · exact ⟨record,h.decision _ _ hrecord,.inr ⟨hallowed,.inr (h.resolution _ hresolved)⟩⟩

/-- The refund stands on a reservation that is taken back only if no money moved. -/
def Counted (P : Platform) (entries : List PaymentRefundEntry) (W : RefundWorld)
    (input : ReservePaymentRefundInput) : Prop :=
  ∃ r ∈ reservesOf entries, r.content.organizationId = input.organizationId ∧
    r.content.originalSettlementId = input.originalSettlementId ∧
    r.content.originalAmount = input.originalAmount ∧ r.content.amount = input.amount ∧
    r.content.refundRequestId = input.refundRequestId ∧
    (TakenBack entries input.organizationId r.content.refundOperationId → NoMoney P W input.refundRequestId)

/-- The operation is reserved for the request. -/
def ReservedFor (entries : List PaymentRefundEntry) (organizationId operation requestId : String) : Prop :=
  ∃ r ∈ reservesOf entries, r.content.organizationId = organizationId ∧
    r.content.refundOperationId = operation ∧ r.content.refundRequestId = requestId

/-- What a task has learned. -/
def TaskSound (P : Platform) (organizationId : String) (entries : List PaymentRefundEntry)
    (W : RefundWorld) : RefundTask → Prop
  | .governing refund => Counted P entries W refund.input
  | .deciding operation requestId => ReservedFor entries organizationId operation requestId
  | .observing operation executionId =>
      ∃ requestId record, ReservedFor entries organizationId operation requestId ∧
        resolveGovernedRecord W requestId = .governed record ∧ record.status = .allowed ∧
        executionId = deriveGovernedActionExecutionId P requestId record.decisionId
  | .resolving operation executionId outcome =>
      (∃ requestId record, ReservedFor entries organizationId operation requestId ∧
        resolveGovernedRecord W requestId = .governed record ∧ record.status = .allowed ∧
        executionId = deriveGovernedActionExecutionId P requestId record.decisionId) ∧
      uncertain outcome = true
  | .releasing operation _ _ =>
      ∃ requestId, ReservedFor entries organizationId operation requestId ∧ NoMoney P W requestId
  | _ => True

structure Accounted (P : Platform) (options : PaymentRefundServiceOptions) (s : RefundSystem) : Prop where
  ledger : LedgerSound s.ledger.entries
  handed : ∀ refund ∈ s.handed, Counted P s.ledger.entries s.world refund.input
  tasks : ∀ task ∈ s.tasks, TaskSound P options.organizationId s.ledger.entries s.world task

/-- The log has grown, and an operation it takes back now moved no money. -/
structure Grown (P : Platform) (entries entries' : List PaymentRefundEntry) (W W' : RefundWorld) :
    Prop where
  reserves : ∀ r ∈ reservesOf entries, r ∈ reservesOf entries'
  world : Permanent W W'
  taken : ∀ r ∈ reservesOf entries,
    TakenBack entries' r.content.organizationId r.content.refundOperationId →
    TakenBack entries r.content.organizationId r.content.refundOperationId ∨
      NoMoney P W' r.content.refundRequestId

theorem Permanent.refl (W : RefundWorld) : Permanent W W :=
  ⟨fun _ _ h => h,fun _ h => h,fun _ h => h⟩

variable {entries entries' : List PaymentRefundEntry} {W W' : RefundWorld}

section

variable (h : Grown P entries entries' W W')
include h

theorem Counted.grow {input : ReservePaymentRefundInput} (hc : Counted P entries W input) :
    Counted P entries' W' input := by
  obtain ⟨r,hr,horganization,hsettlement,horiginal,hamount,hrequest,htaken⟩ := hc
  refine ⟨r,h.reserves r hr,horganization,hsettlement,horiginal,hamount,hrequest,?_⟩
  intro hnow
  rw [← horganization] at hnow htaken
  rcases h.taken r hr hnow with hbefore | hno
  · exact (htaken hbefore).mono h.world
  · rw [← hrequest]
    exact hno

theorem ReservedFor.grow {organizationId operation requestId : String}
    (hr : ReservedFor entries organizationId operation requestId) :
    ReservedFor entries' organizationId operation requestId := by
  obtain ⟨r,hmem,hfields⟩ := hr
  exact ⟨r,h.reserves r hmem,hfields⟩

theorem TaskSound.grow {organizationId : String} {task : RefundTask}
    (ht : TaskSound P organizationId entries W task) :
    TaskSound P organizationId entries' W' task := by
  cases task with
  | governing refund => exact Counted.grow h ht
  | deciding operation requestId => exact ReservedFor.grow h ht
  | observing operation executionId =>
    obtain ⟨requestId,record,hreserved,hrecord,hallowed,rfl⟩ := ht
    exact ⟨requestId,record,hreserved.grow h,h.world.decision _ _ hrecord,hallowed,rfl⟩
  | resolving operation executionId outcome =>
    obtain ⟨⟨requestId,record,hreserved,hrecord,hallowed,rfl⟩,huncertain⟩ := ht
    exact ⟨⟨requestId,record,hreserved.grow h,h.world.decision _ _ hrecord,hallowed,rfl⟩, huncertain⟩
  | releasing operation basis reference =>
    obtain ⟨requestId,hreserved,hno⟩ := ht
    exact ⟨requestId,hreserved.grow h,hno.mono h.world⟩
  | reserving refund => trivial
  | looking operation => trivial
  | requested result => trivial
  | reconciled result => trivial

end

theorem Grown.refl : Grown P entries entries W W :=
  ⟨fun _ h => h,Permanent.refl W,fun _ _ h => .inl h⟩

theorem Grown.later (h : Permanent W W') : Grown P entries entries W W' :=
  ⟨fun _ h => h,h,fun _ _ h => .inl h⟩

theorem Grown.reserve {entry : PaymentRefundEntry} {content : PaymentRefundReserveContent}
    (h : entry.content = .reserve content) : Grown P entries (entries ++ [entry]) W W := by
  refine ⟨?_,Permanent.refl W,?_⟩
  · intro r hr
    rw [reservesOf_reserve h]
    exact mem_append_left _ hr
  · intro r _ htaken
    exact .inl ((takenBack_reserve h).1 htaken)

theorem Grown.release {entry : PaymentRefundEntry} {content : PaymentRefundReleaseContent}
    (h : entry.content = .release content)
    (hno : ∀ r ∈ reservesOf entries, r.content.organizationId = content.organizationId →
      r.content.refundOperationId = content.refundOperationId → NoMoney P W r.content.refundRequestId) :
    Grown P entries (entries ++ [entry]) W W := by
  refine ⟨?_,Permanent.refl W,?_⟩
  · intro r hr
    rw [reservesOf_release h]
    exact hr
  · intro r hr htaken
    rcases (takenBack_release h).1 htaken with hbefore | ⟨horganization,hoperation⟩
    · exact .inl hbefore
    · exact .inr (hno r hr horganization.symm hoperation.symm)

variable {ledger : InMemoryRefundLedger} {now : String}

theorem reserve_entries (ledger : InMemoryRefundLedger) (now : String)
    (input : ReservePaymentRefundInput) :
    (ledger.reserve P now input).1.entries = ledger.entries ∨
      ∃ content entry, planPaymentRefundReservation P input
          (ofOriginal ledger.entries input.organizationId input.originalSettlementId) =
            .ok (.append content) ∧
        entry.content = .reserve content ∧
        (ledger.reserve P now input).1.entries = ledger.entries ++ [entry] := by
  unfold InMemoryRefundLedger.reserve
  split
  · exact .inl rfl
  · exact .inl rfl
  · rename_i content hplan
    rw [bind_eq_ok] at hplan
    obtain ⟨_,-,hplan⟩ := hplan
    exact .inr ⟨content,_,hplan,rfl,rfl⟩

theorem reserve_answer {input : ReservePaymentRefundInput}
    {reservation : PaymentRefundReservation} {balance : PaymentRefundBalance}
    (h : (ledger.reserve P now input).2 = .ok (.reserved reservation balance) ∨
      (ledger.reserve P now input).2 = .ok (.existing reservation balance)) :
    planPaymentRefundReservation P input
      (ofOriginal (ledger.reserve P now input).1.entries input.organizationId
        input.originalSettlementId) = .ok (.answer (.existing reservation balance)) := by
  unfold InMemoryRefundLedger.reserve at h ⊢
  cases hcall : requireRefundReserveInput P input >>= fun _ =>
      planPaymentRefundReservation P input
        (ofOriginal ledger.entries input.organizationId input.originalSettlementId) with
  | error e => simp [hcall] at h
  | ok plan =>
    have hplan := hcall
    rw [bind_eq_ok] at hplan
    obtain ⟨_,-,hplan⟩ := hplan
    cases plan with
    | answer result =>
      simp only [hcall,Except.ok.injEq] at h ⊢
      rcases h with rfl | rfl
      · exact absurd hplan planReservation_ne_reserved
      · exact hplan
    | append content =>
      simp only [hcall] at h ⊢
      cases hafter : planPaymentRefundReservation P input
          (ofOriginal (ledger.append P now (.reserve content)).entries input.organizationId
            input.originalSettlementId) with
      | error e => simp [hafter] at h
      | ok after =>
        cases after with
        | append content => simp [hafter] at h
        | answer result =>
          cases result with
          | existing found balance' =>
            simp only [hafter,Except.ok.injEq,ReservePaymentRefundResult.reserved.injEq,
              reduceCtorEq,or_false] at h
            obtain ⟨rfl,rfl⟩ := h
            rfl
          | reserved _ _ => simp [hafter] at h
          | closed _ => simp [hafter] at h
          | conflict => simp [hafter] at h
          | refused _ _ => simp [hafter] at h

theorem release_entries (ledger : InMemoryRefundLedger) (now : String)
    (input : ReleasePaymentRefundInput) :
    (ledger.release P now input).1.entries = ledger.entries ∨
      ∃ entry, (∀ r ∈ reservesOf ledger.entries, ∀ r' ∈ reservesOf ledger.entries,
          r.content.organizationId = input.organizationId →
          r.content.refundOperationId = input.refundOperationId →
          r'.content.organizationId = input.organizationId →
          r'.content.refundOperationId = input.refundOperationId → r = r') ∧
        entry.content = .release input.content ∧
        (ledger.release P now input).1.entries = ledger.entries ++ [entry] := by
  unfold InMemoryRefundLedger.release
  split
  · exact .inl rfl
  · exact .inl rfl
  · rename_i content hplan
    rw [bind_eq_ok] at hplan
    obtain ⟨_,-,hplan⟩ := hplan
    obtain ⟨rfl,hunique⟩ := planRelease_append hplan
    exact .inr ⟨_,hunique,rfl,rfl⟩

theorem readOperation_found {organizationId operation : String}
    {reservation : PaymentRefundReservation}
    (h : ledger.readOperation P organizationId operation = .ok (some reservation)) :
    ReservedFor ledger.entries organizationId operation
      reservation.reserve.content.refundRequestId := by
  unfold InMemoryRefundLedger.readOperation at h
  rw [bind_eq_ok] at h
  obtain ⟨reservations,hread,h⟩ := h
  obtain ⟨-,rfl⟩ := paymentRefundReservations_eq_ok.1 hread
  rw [pure_eq_ok] at h
  obtain ⟨r,hr,rfl⟩ := mem_map.1 (mem_of_head? h)
  obtain ⟨hmem,horganization,hoperation⟩ := mem_reservesOf_ofOperation.1 hr
  exact ⟨r,hmem,horganization,hoperation,rfl⟩

theorem counted_of_answer {input : ReservePaymentRefundInput}
    {reservation : PaymentRefundReservation} {balance : PaymentRefundBalance}
    (h : planPaymentRefundReservation P input (ofOriginal entries input.organizationId input.originalSettlementId) = .ok (.answer (.existing reservation balance))) :
    Counted P entries W input := by
  obtain ⟨hmem,horganization,hsettlement,horiginal,hamount,hrequest,hout⟩ :=
    planReservation_existing h
  exact ⟨_,hmem,horganization,hsettlement,horiginal,hamount,hrequest, fun htaken => absurd htaken hout⟩

theorem afterReserve_sound : TaskSound P organizationId
      (faulty fault ledger (ledger.reserve P now refund.input)).1.entries W
      (afterReserve P refund (faulty fault ledger (ledger.reserve P now refund.input)).2) := by
  cases fault with
  | unwritten => trivial
  | written => trivial
  | none =>
    simp only [faulty]
    cases hanswer : (ledger.reserve P now refund.input).2 with
    | error e => trivial
    | ok result =>
      cases result with
      | reserved reservation balance => exact counted_of_answer (reserve_answer (.inl hanswer))
      | existing reservation balance => exact counted_of_answer (reserve_answer (.inr hanswer))
      | closed reservation => trivial
      | conflict => trivial
      | refused refusal balance => trivial

theorem afterLooking_sound : TaskSound P organizationId ledger.entries W
      (afterLooking operation
        (faulty fault ledger (ledger, ledger.readOperation P organizationId operation)).2) := by
  cases fault with
  | unwritten => trivial
  | written => trivial
  | none =>
    simp only [faulty]
    cases hread : ledger.readOperation P organizationId operation with
    | error e => trivial
    | ok found =>
      cases found with
      | none => trivial
      | some reservation =>
        have hfound := readOperation_found hread
        simp only [Except.toOption,afterLooking]
        split_ifs
        · trivial
        · exact hfound

theorem afterDecision_sound (h : ReservedFor entries organizationId operation requestId) :
    TaskSound P organizationId entries W (afterDecision P W operation requestId) := by
  unfold afterDecision
  cases hrecord : resolveGovernedRecord W requestId with
  | absent => trivial
  | notGoverned record => trivial
  | governed record =>
    cases hstatus : record.status with
    | denied =>
      simp only [hstatus]
      exact ⟨requestId,h,record,hrecord,.inl hstatus⟩
    | allowed =>
      simp only [hstatus]
      exact ⟨requestId,record,h,hrecord,hstatus,rfl⟩
    | other status =>
      simp only [hstatus]
      trivial

theorem afterOutcome_sound
    (h : TaskSound P organizationId entries W (.observing operation executionId)) :
    TaskSound P organizationId entries W (afterOutcome W operation executionId) := by
  obtain ⟨requestId,record,hreserved,hrecord,hallowed,rfl⟩ := h
  unfold afterOutcome
  cases houtcome : W.outcomes (deriveGovernedActionExecutionId P requestId record.decisionId) with
  | none => trivial
  | some outcome =>
    have hno : observedNothing outcome = true → NoMoney P W requestId := fun hnothing =>
      ⟨record,hrecord,.inr ⟨hallowed,.inl ⟨outcome,houtcome,hnothing⟩⟩⟩
    simp only
    split
    · rename_i digest hterminal
      exact ⟨requestId,hreserved,hno (by simp [observedNothing,hterminal])⟩
    · rename_i digest hterminal
      exact ⟨requestId,hreserved,hno (by simp [observedNothing,hterminal])⟩
    · trivial
    · rename_i hwithheld hnot hcompleted
      refine ⟨⟨requestId,record,hreserved,hrecord,hallowed,rfl⟩,?_⟩
      unfold uncertain
      split
      · rfl
      · rfl
      · rename_i hnone hunconfirmed
        cases hterminal : outcome.terminal with
        | none => exact absurd hterminal hnone
        | some terminal =>
          obtain ⟨observation,digest⟩ := terminal
          cases observation with
          | withheld => exact absurd hterminal (hwithheld digest)
          | provider certainty adapterId providerRef =>
            cases certainty with
            | confirmedNotCompleted => exact absurd hterminal (hnot adapterId providerRef digest)
            | confirmedCompleted => exact absurd hterminal (hcompleted adapterId providerRef digest)
            | unconfirmed => exact absurd hterminal (hunconfirmed adapterId providerRef digest)

theorem afterResolution_sound {outcome : ExecutionOutcomeRecord}
    (hcurrent : W.outcomes executionId = some outcome)
    (h : TaskSound P organizationId entries W (.resolving operation executionId outcome)) :
    TaskSound P organizationId entries W (afterResolution W operation executionId outcome) := by
  obtain ⟨⟨requestId,record,hreserved,hrecord,hallowed,rfl⟩,huncertain⟩ := h
  unfold afterResolution
  cases hresolution : canonicalPaymentResolution outcome
      (W.resolutions (deriveGovernedActionExecutionId P requestId record.decisionId)) with
  | none => trivial
  | inconsistent => trivial
  | completed digest providerRef => trivial
  | notCompleted digest =>
    exact ⟨requestId,hreserved,record,hrecord,
      .inr ⟨hallowed,.inr ⟨outcome,digest,hcurrent,huncertain,hresolution⟩⟩⟩

/-- What the call of a task leaves: a sound log that has grown, hand-overs that are counted,
and a task that is sound over them. -/
structure Advanced (P : Platform) (options : PaymentRefundServiceOptions) (s : RefundSystem)
    (advanced : InMemoryRefundLedger × List GovernedRefund × RefundTask) : Prop where
  ledger : LedgerSound advanced.1.entries
  grown : Grown P s.ledger.entries advanced.1.entries s.world s.world
  handed : ∀ refund ∈ advanced.2.1, Counted P advanced.1.entries s.world refund.input
  task : TaskSound P options.organizationId advanced.1.entries s.world advanced.2.2

theorem Advanced.unwritten (hs : LedgerSound s.ledger.entries)
    (htask : TaskSound P options.organizationId s.ledger.entries s.world task) :
    Advanced P options s (s.ledger, [], task) where
  ledger := hs
  grown := Grown.refl
  handed refund hmem := by cases hmem
  task := htask

theorem faulty_entries {R : Type} (fault : CallFault) (ledger : InMemoryRefundLedger)
    (call : InMemoryRefundLedger × Except RefundLedgerError R) :
    (faulty fault ledger call).1.entries = ledger.entries ∨
      (faulty fault ledger call).1.entries = call.1.entries := by
  cases fault with
  | none => exact .inr rfl
  | unwritten => exact .inl rfl
  | written => exact .inr rfl

theorem advanced_reserving (hs : LedgerSound s.ledger.entries) (refund : GovernedRefund)
    (fault : CallFault) (now : String) :
    Advanced P options s (s.advance P options (.reserving refund) fault now) := by
  have hgrown : LedgerSound (faulty fault s.ledger (s.ledger.reserve P now refund.input)).1.entries ∧
      Grown P s.ledger.entries
        (faulty fault s.ledger (s.ledger.reserve P now refund.input)).1.entries s.world s.world := by
    rcases faulty_entries fault s.ledger (s.ledger.reserve P now refund.input) with
      hsame | hwritten
    · rw [hsame]
      exact ⟨hs,Grown.refl⟩
    · rw [hwritten]
      rcases reserve_entries s.ledger now refund.input with
        hsame | ⟨content,entry,hplan,hentry,hentries⟩
      · rw [hsame]
        exact ⟨hs,Grown.refl⟩
      · rw [hentries]
        exact ⟨hs.reserve hplan hentry,Grown.reserve hentry⟩
  refine ⟨hgrown.1,hgrown.2,?_,afterReserve_sound⟩
  intro other hmem
  cases hmem

theorem advanced_releasing (hs : LedgerSound s.ledger.entries) {reference : String}
    {basis : PaymentRefundReleaseBasis}
    (htask : TaskSound P options.organizationId s.ledger.entries s.world (.releasing operation basis reference))
    (fault : CallFault) (now : String) :
    Advanced P options s (s.advance P options (.releasing operation basis reference) fault now) := by
  obtain ⟨requestId,⟨r,hr,horganization,hoperation,hrequest⟩,hno⟩ := htask
  have hgrown : LedgerSound (faulty fault s.ledger (s.ledger.release P now
        ⟨options.organizationId,operation,basis,reference⟩)).1.entries ∧
      Grown P s.ledger.entries (faulty fault s.ledger (s.ledger.release P now
        ⟨options.organizationId,operation,basis,reference⟩)).1.entries s.world s.world := by
    rcases faulty_entries fault s.ledger (s.ledger.release P now
      ⟨options.organizationId,operation,basis,reference⟩) with hsame | hwritten
    · rw [hsame]
      exact ⟨hs,Grown.refl⟩
    · rw [hwritten]
      rcases release_entries s.ledger now
        ⟨options.organizationId,operation,basis,reference⟩ with
        hsame | ⟨entry,hunique,hentry,hentries⟩
      · rw [hsame]
        exact ⟨hs,Grown.refl⟩
      · rw [hentries]
        refine ⟨hs.release hentry,Grown.release hentry ?_⟩
        intro r' hr' horganization' hoperation'
        rw [← hunique r hr r' hr' horganization hoperation horganization' hoperation',hrequest]
        exact hno
  refine ⟨hgrown.1,hgrown.2,?_,?_⟩
  · intro other hmem
    cases hmem
  · simp only [RefundSystem.advance]
    cases (faulty fault s.ledger (s.ledger.release P now
      ⟨options.organizationId,operation,basis,reference⟩)).2 with
    | none => trivial
    | some result => cases result <;> trivial

/-- A reconciliation that reads a resolution holds the outcome that is on record. -/
def HoldsRecorded (s : RefundSystem) : RefundTask → Prop
  | .resolving _ executionId outcome => s.world.outcomes executionId = some outcome
  | _ => True

theorem advanced_of_sound (hs : LedgerSound s.ledger.entries)
    (htask : TaskSound P options.organizationId s.ledger.entries s.world task)
    (hholds : HoldsRecorded s task) (fault : CallFault) (now : String) :
    Advanced P options s (s.advance P options task fault now) := by
  cases task with
  | reserving refund => exact advanced_reserving hs refund fault now
  | governing refund =>
    refine ⟨hs,Grown.refl,?_,trivial⟩
    intro other hmem
    rw [mem_singleton.1 hmem]
    exact htask
  | looking operation => exact Advanced.unwritten hs afterLooking_sound
  | deciding operation requestId =>
    refine Advanced.unwritten hs ?_
    split_ifs
    · exact afterDecision_sound htask
    · trivial
  | observing operation executionId =>
    refine Advanced.unwritten hs ?_
    split_ifs
    · exact afterOutcome_sound htask
    · trivial
  | resolving operation executionId outcome =>
    refine Advanced.unwritten hs ?_
    split_ifs
    · exact afterResolution_sound hholds htask
    · trivial
  | releasing operation basis reference => exact advanced_releasing hs htask fault now
  | requested result => exact Advanced.unwritten hs trivial
  | reconciled result => exact Advanced.unwritten hs trivial

/-- The stores a refund reads keep their promise. -/
def KeepsPromises (s : RefundSystem) : RefundStep → Prop
  | .world next => Permanent s.world next
  | _ => True

/-- The task that advances, if it is about to read a resolution, holds the outcome on record. -/
def ReadsBound (s : RefundSystem) : RefundStep → Prop
  | .advance i _ _ => ∀ task, s.tasks[i]? = some task → HoldsRecorded s task
  | _ => True

theorem Accounted.advance (h : Accounted P options s) {i : Nat} (htask : s.tasks[i]? = some task)
    (hholds : HoldsRecorded s task) (fault : CallFault) (now : String) :
    Accounted P options (s.step P options (.advance i fault now)) := by
  have hmem := mem_of_getElem? htask
  have hadvanced := advanced_of_sound h.ledger (h.tasks task hmem) hholds fault now
  simp only [RefundSystem.step,htask]
  refine ⟨hadvanced.ledger,?_,?_⟩
  · intro refund hrefund
    rcases mem_append.1 hrefund with hold | hnew
    · exact (h.handed refund hold).grow hadvanced.grown
    · exact hadvanced.handed refund hnew
  · intro other hother
    rcases mem_or_eq_of_mem_set hother with hold | rfl
    · exact (h.tasks other hold).grow hadvanced.grown
    · exact hadvanced.task

theorem Accounted.queued (h : Accounted P options s) {task : RefundTask}
    (htask : TaskSound P options.organizationId s.ledger.entries s.world task) :
    Accounted P options { s with tasks := s.tasks ++ [task] } := by
  refine ⟨h.ledger,h.handed,fun other hother => ?_⟩
  rcases mem_append.1 hother with hold | hnew
  · exact h.tasks other hold
  · rw [mem_singleton.1 hnew]
    exact htask

theorem Accounted.step (h : Accounted P options s) {step : RefundStep}
    (hstep : KeepsPromises s step ∧ ReadsBound s step) :
    Accounted P options (s.step P options step) := by
  cases step with
  | request call =>
    simp only [RefundSystem.step]
    cases prepareRefund P options call with
    | error result => exact h.queued trivial
    | ok refund => exact h.queued trivial
  | reconcile operation => exact h.queued trivial
  | advance i fault now =>
    cases htask : s.tasks[i]? with
    | none =>
      simp only [RefundSystem.step,htask]
      exact h
    | some task => exact h.advance htask (hstep.2 task htask) fault now
  | crash i =>
    exact ⟨h.ledger,h.handed,fun task htask => h.tasks task (mem_of_mem_eraseIdx htask)⟩
  | world next =>
    have hgrown : Grown P s.ledger.entries s.ledger.entries s.world next := Grown.later hstep.1
    exact ⟨h.ledger,fun refund hmem => (h.handed refund hmem).grow hgrown,
      fun task hmem => (h.tasks task hmem).grow hgrown⟩

theorem accounted_open (W : RefundWorld) : Accounted P options (RefundSystem.open P W) where
  ledger := LedgerSound.nil
  handed refund hmem := by cases hmem
  tasks task hmem := by cases hmem

theorem step_entries (h : LedgerSound s.ledger.entries) (step : RefundStep) :
    LedgerSound (s.step P options step).ledger.entries ∧
      s.ledger.entries <+: (s.step P options step).ledger.entries := by
  have hkept := And.intro h (prefix_refl s.ledger.entries)
  cases step with
  | advance i fault now =>
    cases htask : s.tasks[i]? with
    | none =>
      simp only [RefundSystem.step,htask]
      exact hkept
    | some task =>
      simp only [RefundSystem.step,htask]
      cases task with
      | reserving refund =>
        simp only [RefundSystem.advance]
        rcases faulty_entries fault s.ledger (s.ledger.reserve P now refund.input) with heq | heq
        · rw [heq]
          exact hkept
        rw [heq]
        rcases reserve_entries (P := P) s.ledger now refund.input with
          hsame | ⟨content,entry,hplan,hentry,hentries⟩
        · rw [hsame]
          exact hkept
        · rw [hentries]
          exact ⟨h.reserve hplan hentry,prefix_append _ _⟩
      | releasing operation basis reference =>
        simp only [RefundSystem.advance]
        rcases faulty_entries fault s.ledger (s.ledger.release P now
          ⟨options.organizationId,operation,basis,reference⟩) with heq | heq
        · rw [heq]
          exact hkept
        rw [heq]
        rcases release_entries (P := P) s.ledger now
          ⟨options.organizationId,operation,basis,reference⟩ with hsame | ⟨entry,-,hentry,hentries⟩
        · rw [hsame]
          exact hkept
        · rw [hentries]
          exact ⟨h.release hentry,prefix_append _ _⟩
      | _ => exact hkept
  | request call =>
    simp only [RefundSystem.step]
    split <;> exact hkept
  | _ => exact hkept

/-- Whatever the other stores say, and whatever fails: the log of reservations only grows, and what
it holds of an original is within it. -/
theorem refund_log_within_originals (P : Platform) (options : PaymentRefundServiceOptions)
    (W : RefundWorld) (front back : List RefundStep) :
    LedgerSound ((RefundSystem.open P W).run P options (front ++ back)).ledger.entries ∧
      ((RefundSystem.open P W).run P options front).ledger.entries <+:
        ((RefundSystem.open P W).run P options (front ++ back)).ledger.entries := by
  have hsound : ∀ steps, LedgerSound ((RefundSystem.open P W).run P options steps).ledger.entries := by
    intro steps
    exact List.foldlRecOn (motive := fun s : RefundSystem => LedgerSound s.ledger.entries) steps _
      LedgerSound.nil fun s hs step _ => (step_entries hs step).1
  refine ⟨hsound _,?_⟩
  induction back using List.reverseRecOn with
  | nil => rw [append_nil]
  | append_singleton back step ih =>
    have hrun : (RefundSystem.open P W).run P options (front ++ (back ++ [step])) =
        ((RefundSystem.open P W).run P options (front ++ back)).step P options step := by
      rw [← append_assoc]
      exact foldl_concat _ _ _ _
    rw [hrun]
    exact ih.trans (step_entries (hsound _) step).2

theorem accounted_run {steps : List RefundStep}
    (h : StepsMeet (RefundSystem.step P options) (fun s a => KeepsPromises s a ∧ ReadsBound s a) (RefundSystem.open P W) steps) :
    Accounted P options ((RefundSystem.open P W).run P options steps) :=
  h.invariant (fun _ _ hs ha => hs.step ha) (accounted_open W)

/-- What is reserved and what is governed is the refund of the original. -/
structure Formed (options : PaymentRefundServiceOptions) (refund : GovernedRefund) : Prop where
  organization : refund.input.organizationId = options.organizationId
  settlement : refund.input.originalSettlementId = refund.original.settlementId
  original : refund.input.originalAmount = refund.original.payment.amount
  amount : refund.intent.amount = refund.input.amount

theorem prepareRefund_formed {call : RefundCall} (h : prepareRefund P options call = .ok refund) :
    Formed options refund := by
  unfold prepareRefund at h
  split at h
  · cases h
  · split at h
    · cases h
    · split_ifs at h
      split at h
      · cases h
      · cases h
      · simp only at h
        split at h
        · cases h
        · split at h
          · cases h
          · split at h
            · cases h
            · rename_i governed hcompile
              cases h
              exact ⟨rfl,rfl,rfl,compilePaymentIntent_amount hcompile⟩

/-- The refund a task carries, if it is a request. -/
def RefundTask.refund? : RefundTask → Option GovernedRefund
  | .reserving refund => some refund
  | .governing refund => some refund
  | _ => none

structure AllFormed (options : PaymentRefundServiceOptions) (s : RefundSystem) : Prop where
  handed : ∀ refund ∈ s.handed, Formed options refund
  tasks : ∀ task ∈ s.tasks, ∀ refund, task.refund? = some refund → Formed options refund

theorem afterReserve_refund {other : GovernedRefund} {answer : Option ReservePaymentRefundResult}
    (h : (afterReserve P refund answer).refund? = some other) : other = refund := by
  cases answer with
  | none => cases h
  | some result =>
    cases result with
    | reserved _ _ => exact (Option.some.inj h).symm
    | existing _ _ => exact (Option.some.inj h).symm
    | closed _ => cases h
    | conflict => cases h
    | refused _ _ => cases h

theorem advance_refund
    (h : refund ∈ (s.advance P options task fault now).2.1 ∨ (s.advance P options task fault now).2.2.refund? = some refund) :
    task.refund? = some refund := by
  cases task with
  | reserving mine =>
    rcases h with h | h
    · cases h
    · rw [afterReserve_refund h]
      rfl
  | governing mine =>
    rcases h with h | h
    · rw [mem_singleton.1 h]
      rfl
    · cases h
  | looking operation =>
    rcases h with h | h
    · cases h
    · simp only [RefundSystem.advance,afterLooking] at h
      split at h
      · cases h
      · cases h
      · split_ifs at h <;> cases h
  | deciding operation requestId =>
    rcases h with h | h
    · cases h
    · simp only [RefundSystem.advance,afterDecision] at h
      split_ifs at h
      · split at h
        · cases h
        · cases h
        · split at h <;> cases h
      · cases h
  | observing operation executionId =>
    rcases h with h | h
    · cases h
    · simp only [RefundSystem.advance,afterOutcome] at h
      split_ifs at h
      · split at h
        · cases h
        · split at h <;> cases h
      · cases h
  | resolving operation executionId outcome =>
    rcases h with h | h
    · cases h
    · simp only [RefundSystem.advance,afterResolution] at h
      split_ifs at h
      · split at h <;> cases h
      · cases h
  | releasing operation basis reference =>
    rcases h with h | h
    · cases h
    · simp only [RefundSystem.advance,afterRelease] at h
      split at h <;> cases h
  | requested result => rcases h with h | h <;> cases h
  | reconciled result => rcases h with h | h <;> cases h

theorem AllFormed.queued (h : AllFormed options s) {task : RefundTask}
    (htask : ∀ refund, task.refund? = some refund → Formed options refund) :
    AllFormed options { s with tasks := s.tasks ++ [task] } := by
  refine ⟨h.handed,fun other hother => ?_⟩
  rcases mem_append.1 hother with hold | hnew
  · exact h.tasks other hold
  · rw [mem_singleton.1 hnew]
    exact htask

theorem AllFormed.step (h : AllFormed options s) (step : RefundStep) :
    AllFormed options (s.step P options step) := by
  cases step with
  | request call =>
    simp only [RefundSystem.step]
    cases hprepare : prepareRefund P options call with
    | error result => exact h.queued fun refund hrefund => by cases hrefund
    | ok prepared =>
      refine h.queued fun refund hrefund => ?_
      rw [← Option.some.inj hrefund]
      exact prepareRefund_formed hprepare
  | reconcile operation => exact h.queued fun refund hrefund => by cases hrefund
  | advance i fault now =>
    cases htask : s.tasks[i]? with
    | none =>
      simp only [RefundSystem.step,htask]
      exact h
    | some task =>
      have hmem := mem_of_getElem? htask
      simp only [RefundSystem.step,htask]
      refine ⟨fun refund hrefund => ?_,fun other hother refund hrefund => ?_⟩
      · rcases mem_append.1 hrefund with hold | hnew
        · exact h.handed refund hold
        · exact h.tasks task hmem refund (advance_refund (.inl hnew))
      · rcases mem_or_eq_of_mem_set hother with hold | rfl
        · exact h.tasks other hold refund hrefund
        · exact h.tasks task hmem refund (advance_refund (.inr hrefund))
  | crash i =>
    exact ⟨h.handed,fun task htask => h.tasks task (mem_of_mem_eraseIdx htask)⟩
  | world next => exact ⟨h.handed,h.tasks⟩

theorem allFormed_run (W : RefundWorld) (steps : List RefundStep) :
    AllFormed options ((RefundSystem.open P W).run P options steps) := by
  unfold RefundSystem.run
  refine List.foldlRecOn steps _ ⟨fun refund hmem => ?_,fun task hmem => ?_⟩
    fun s hs step _ => hs.step step
  · cases hmem
  · cases hmem

end Frontera.Payment
