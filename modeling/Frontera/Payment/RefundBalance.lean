import Frontera.Payment.Reservations

/-! The reservations of one settled original that no release has taken back, their sum, and what the
two decisions of the ledger say about it. The sum is a rational; that the texts of the source add up
to it is the exactness of their decimals. -/

namespace Frontera.Payment

open Frontera.Monetary Frontera.Data List

variable {P : Platform}

theorem matches_zero : matchesCanonicalDecimal "0" = true := by decide

variable {amounts : List String} {originalSettlementId : String} {balance : PaymentRefundBalance}
  {entries : List PaymentRefundEntry} {input : ReservePaymentRefundInput}
  {content : PaymentRefundReserveContent} {reservation : PaymentRefundReservation}
  {entry : PaymentRefundEntry}

private theorem foldlM_add (h : ∀ value ∈ amounts, matchesCanonicalDecimal value = true)
    {start : String} (hstart : matchesCanonicalDecimal start = true) :
    ∃ total, amounts.foldlM addCanonicalDecimals start = .ok total ∧ matchesCanonicalDecimal total = true ∧
      decimalValue total = decimalValue start + (amounts.map decimalValue).sum := by
  induction amounts generalizing start with
  | nil => exact ⟨start,rfl,hstart,by simp⟩
  | cons value amounts ih =>
    obtain ⟨sum,hadd,hsum,hvalue⟩ :=
      addCanonicalDecimals_spec hstart (h value mem_cons_self)
    obtain ⟨total,hfold,htotal,hrest⟩ :=
      ih (fun v hv => h v (mem_cons_of_mem value hv)) hsum
    refine ⟨total,?_,htotal,?_⟩
    · rw [foldlM_cons,hadd]
      exact hfold
    · rw [hrest,hvalue,map_cons,sum_cons,add_assoc]

theorem paymentRefundCounted_spec (h : ∀ value ∈ amounts, matchesCanonicalDecimal value = true) :
    ∃ counted, paymentRefundCounted amounts = .ok counted ∧ matchesCanonicalDecimal counted = true ∧
      decimalValue counted = (amounts.map decimalValue).sum := by
  obtain ⟨counted,hfold,hcanonical,hvalue⟩ := foldlM_add h matches_zero
  exact ⟨counted,hfold,hcanonical,by rw [hvalue,decimalValue_zero,zero_add]⟩

theorem paymentRefundRefusal_eq_none {original requested : MonetaryAmount} {counted : String}
    (h : paymentRefundRefusal original counted requested = none) :
    isWellFormedMonetaryAmount requested = true ∧ requested.unit = original.unit ∧
      isWellFormedMonetaryAmount original = true ∧
      decimalValue counted + decimalValue requested.value ≤ decimalValue original.value := by
  unfold paymentRefundRefusal at h
  split_ifs at h with hrequested hunit hcounted
  simp only [Bool.or_eq_true,Bool.not_eq_true',beq_iff_eq,not_or, Bool.not_eq_false] at hrequested hcounted
  have hmatches : matchesCanonicalDecimal counted = true := by
    have hcanonical := hcounted.1
    rw [isCanonicalDecimal,Bool.and_eq_true] at hcanonical
    exact hcanonical.1
  obtain ⟨sum,hadd,hsum,hvalue⟩ :=
    addCanonicalDecimals_spec hmatches (matches_of_wellFormed hrequested.1)
  obtain ⟨order,hcompare,hle⟩ :=
    compareCanonicalDecimals_spec hsum (matches_of_wellFormed hcounted.2)
  refine ⟨hrequested.1,not_not.1 hunit,hcounted.2,?_⟩
  rw [hadd,ok_bind,hcompare] at h
  rw [← hvalue,← hle]
  cases order with
  | lt => rfl
  | eq => rfl
  | gt => cases h

/-- A release of the organization takes the operation back. -/
def TakenBack (entries : List PaymentRefundEntry) (organizationId operation : String) : Prop :=
  ∃ l ∈ releasesOf entries, l.content.organizationId = organizationId ∧
    l.content.refundOperationId = operation

instance (entries : List PaymentRefundEntry) (organizationId operation : String) :
    Decidable (TakenBack entries organizationId operation) :=
  inferInstanceAs (Decidable (∃ l ∈ releasesOf entries, _ ∧ _))

/-- A reservation of the original that is not taken back. -/
def Outstanding (entries : List PaymentRefundEntry) (organizationId originalSettlementId : String)
    (reserve : Recorded PaymentRefundReserveContent) : Prop :=
  reserve.content.organizationId = organizationId ∧
    reserve.content.originalSettlementId = originalSettlementId ∧
    ¬ TakenBack entries organizationId reserve.content.refundOperationId

instance (entries : List PaymentRefundEntry) (organizationId originalSettlementId : String)
    (reserve : Recorded PaymentRefundReserveContent) :
    Decidable (Outstanding entries organizationId originalSettlementId reserve) :=
  inferInstanceAs (Decidable (_ ∧ _ ∧ ¬ _))

def outstandingReserves (entries : List PaymentRefundEntry)
    (organizationId originalSettlementId : String) : List (Recorded PaymentRefundReserveContent) :=
  (reservesOf entries).filter fun r =>
    decide (Outstanding entries organizationId originalSettlementId r)

/-- The money of an original that a log holds for refunds. -/
def held (entries : List PaymentRefundEntry) (organizationId originalSettlementId : String) : ℚ :=
  ((outstandingReserves entries organizationId originalSettlementId).map
    fun r => decimalValue r.content.amount.value).sum

variable {entries : List PaymentRefundEntry} {entry : PaymentRefundEntry}
  {organizationId originalSettlementId : String}

theorem takenBack_reserve {content : PaymentRefundReserveContent}
    (h : entry.content = .reserve content) {operation : String} :
    TakenBack (entries ++ [entry]) organizationId operation ↔
      TakenBack entries organizationId operation := by
  rw [TakenBack,releasesOf_reserve h,TakenBack]

theorem takenBack_release {content : PaymentRefundReleaseContent}
    (h : entry.content = .release content) {operation : String} :
    TakenBack (entries ++ [entry]) organizationId operation ↔ TakenBack entries organizationId operation ∨
        (content.organizationId = organizationId ∧ content.refundOperationId = operation) := by
  simp [TakenBack,releasesOf_release h,Recorded.mapContent,or_and_right,exists_or]

theorem held_reserve {content : PaymentRefundReserveContent}
    (h : entry.content = .reserve content) :
    held (entries ++ [entry]) organizationId originalSettlementId =
      held entries organizationId originalSettlementId +
        if Outstanding entries organizationId originalSettlementId (entry.mapContent fun _ => content)
        then decimalValue content.amount.value else 0 := by
  have hsame : ∀ r, decide (Outstanding (entries ++ [entry]) organizationId originalSettlementId r) =
      decide (Outstanding entries organizationId originalSettlementId r) := by
    intro r
    refine decide_eq_decide.2 ?_
    rw [Outstanding,takenBack_reserve h,Outstanding]
  simp only [held,outstandingReserves,reservesOf_reserve h,hsame,filter_append, map_append,sum_append]
  congr 1
  split_ifs with hout
  · rw [filter_cons_of_pos (by simpa using hout)]
    simp [Recorded.mapContent]
  · rw [filter_cons_of_neg (by simpa using hout)]
    rfl

theorem held_release {content : PaymentRefundReleaseContent}
    (h : entry.content = .release content) :
    held (entries ++ [entry]) organizationId originalSettlementId ≤
      held entries organizationId originalSettlementId := by
  have hsub : (outstandingReserves (entries ++ [entry]) organizationId originalSettlementId).Sublist
      (outstandingReserves entries organizationId originalSettlementId) := by
    rw [outstandingReserves,outstandingReserves,reservesOf_release h]
    refine monotone_filter_right _ fun r hr => ?_
    obtain ⟨horganization,hsettlement,hout⟩ := of_decide_eq_true hr
    refine decide_eq_true ⟨horganization,hsettlement,fun htaken => hout ?_⟩
    exact (takenBack_release h).2 (.inl htaken)
  refine (hsub.map _).sum_le_sum ?_
  intro x hx
  obtain ⟨r,-,rfl⟩ := mem_map.1 hx
  exact decimalValue_nonneg _

variable {entries : List PaymentRefundEntry}

theorem reservesOf_filter (p : String → String → Bool) :
    reservesOf (entries.filter fun e => p e.content.organizationId e.content.refundOperationId) =
      (reservesOf entries).filter fun r =>
        p r.content.organizationId r.content.refundOperationId := by
  rw [reservesOf,filterMap_filter,reservesOf,filter_filterMap]
  refine filterMap_congr fun e _ => ?_
  cases hcontent : e.content with
  | reserve content =>
    simp only [reserveOf,hcontent,PaymentRefundEntryContent.organizationId,
      PaymentRefundEntryContent.refundOperationId,Option.filter,Recorded.mapContent]
  | release content => simp [reserveOf,hcontent]

theorem releasesOf_filter (p : String → String → Bool) :
    releasesOf (entries.filter fun e => p e.content.organizationId e.content.refundOperationId) =
      (releasesOf entries).filter fun l =>
        p l.content.organizationId l.content.refundOperationId := by
  rw [releasesOf,filterMap_filter,releasesOf,filter_filterMap]
  refine filterMap_congr fun e _ => ?_
  cases hcontent : e.content with
  | reserve content => simp [releaseOf,hcontent]
  | release content =>
    simp only [releaseOf,hcontent,PaymentRefundEntryContent.organizationId,
      PaymentRefundEntryContent.refundOperationId,Option.filter,Recorded.mapContent]

variable {organizationId : String}

variable {operation : String} {r : Recorded PaymentRefundReserveContent}

theorem mem_reservesOf_ofOperation : r ∈ reservesOf (ofOperation entries organizationId operation) ↔
      r ∈ reservesOf entries ∧ r.content.organizationId = organizationId ∧
        r.content.refundOperationId = operation := by
  rw [ofOperation,entriesWhere,
    reservesOf_filter fun organization op => organization == organizationId && op == operation]
  simp

variable {originalSettlementId : String}

theorem mem_operationsOfOriginal :
    operation ∈ operationsOfOriginal entries organizationId originalSettlementId ↔
      ∃ r ∈ reservesOf entries, r.content.organizationId = organizationId ∧
        r.content.originalSettlementId = originalSettlementId ∧
        r.content.refundOperationId = operation := by
  simp only [operationsOfOriginal,entriesWhere,mem_map,mem_filter,Bool.and_eq_true,
    beq_iff_eq,reservesOf,mem_filterMap]
  constructor
  · rintro ⟨e,⟨he,horganization,hsettlement⟩,rfl⟩
    cases hcontent : e.content with
    | reserve content =>
      rw [hcontent] at horganization hsettlement
      exact ⟨e.mapContent fun _ => content,⟨e,he,by simp only [reserveOf,hcontent]⟩,
        horganization,Option.some.inj hsettlement,rfl⟩
    | release content =>
      rw [hcontent] at hsettlement
      cases hsettlement
  · rintro ⟨r,⟨e,he,hr⟩,horganization,hsettlement,rfl⟩
    unfold reserveOf at hr
    cases hcontent : e.content with
    | reserve content =>
      rw [hcontent] at hr
      cases hr
      refine ⟨e,⟨he,?_,?_⟩,?_⟩
      · rw [hcontent]
        exact horganization
      · rw [hcontent]
        exact congrArg some hsettlement
      · rw [hcontent]
        rfl
    | release content =>
      rw [hcontent] at hr
      cases hr

theorem reservesOf_ofOriginal : reservesOf (ofOriginal entries organizationId originalSettlementId) =
      (reservesOf entries).filter fun r => r.content.organizationId == organizationId &&
        (operationsOfOriginal entries organizationId originalSettlementId).contains
          r.content.refundOperationId :=
  reservesOf_filter fun organization operation => organization == organizationId &&
    (operationsOfOriginal entries organizationId originalSettlementId).contains operation

theorem releasesOf_ofOriginal : releasesOf (ofOriginal entries organizationId originalSettlementId) =
      (releasesOf entries).filter fun l => l.content.organizationId == organizationId &&
        (operationsOfOriginal entries organizationId originalSettlementId).contains
          l.content.refundOperationId :=
  releasesOf_filter fun organization operation => organization == organizationId &&
    (operationsOfOriginal entries organizationId originalSettlementId).contains operation

theorem mem_reservesOf_ofOriginal (hr : r ∈ reservesOf entries)
    (horganization : r.content.organizationId = organizationId)
    (hsettlement : r.content.originalSettlementId = originalSettlementId) :
    r ∈ reservesOf (ofOriginal entries organizationId originalSettlementId) := by
  rw [reservesOf_ofOriginal,mem_filter]
  refine ⟨hr,?_⟩
  rw [Bool.and_eq_true,beq_iff_eq,contains_iff_mem]
  exact ⟨horganization,mem_operationsOfOriginal.2 ⟨r,hr,horganization,hsettlement,rfl⟩⟩

theorem releasedOperations_ofOriginal
    (hoperation : operation ∈ operationsOfOriginal entries organizationId originalSettlementId) :
    operation ∈ releasedOperations (ofOriginal entries organizationId originalSettlementId) ↔
      TakenBack entries organizationId operation := by
  rw [releasedOperations,releasesOf_ofOriginal,mem_map,TakenBack]
  constructor
  · rintro ⟨l,hl,rfl⟩
    rw [mem_filter,Bool.and_eq_true,beq_iff_eq] at hl
    exact ⟨l,hl.1,hl.2.1,rfl⟩
  · rintro ⟨l,hl,horganization,rfl⟩
    refine ⟨l,mem_filter.2 ⟨hl,?_⟩,rfl⟩
    rw [Bool.and_eq_true,beq_iff_eq,contains_iff_mem]
    exact ⟨horganization,hoperation⟩

theorem paymentRefundBalance_eq_ok {reservations : List PaymentRefundReservation}
    {originalAmount : MonetaryAmount}
    (h : paymentRefundBalance originalSettlementId reservations originalAmount = .ok balance) :
    (∀ r ∈ reservations, r.reserve.content.originalSettlementId = originalSettlementId ∧
        r.reserve.content.originalAmount = originalAmount) ∧
      paymentRefundCounted ((reservations.filter fun r => r.release.isNone).map
        (·.reserve.content.amount.value)) = .ok balance.counted.value := by
  unfold paymentRefundBalance at h
  split_ifs at h with hstates
  refine ⟨?_,?_⟩
  · intro r hr
    simp only [Bool.not_eq_true',Bool.not_eq_false,all_eq_true] at hstates
    have hr' := hstates r hr
    rw [statesOriginal,Bool.and_eq_true,beq_iff_eq,beq_iff_eq] at hr'
    exact hr'
  · cases hcounted : paymentRefundCounted ((reservations.filter fun r => r.release.isNone).map
        (·.reserve.content.amount.value)) with
    | error e => simp [hcounted] at h
    | ok counted =>
      cases hremaining : paymentRefundRemaining originalAmount counted with
      | error e => simp [hcounted,hremaining] at h
      | ok remaining =>
        simp only [hcounted,hremaining,Except.ok.injEq] at h
        rw [← h]

theorem counted_ofOriginal {organizationId : String}
    (h : ∀ r ∈ reservesOf (ofOriginal entries organizationId originalSettlementId), r.content.originalSettlementId = originalSettlementId) :
    ((reservationsOf (ofOriginal entries organizationId originalSettlementId)).filter
        fun r => r.release.isNone).map (·.reserve.content.amount.value) =
      (outstandingReserves entries organizationId originalSettlementId).map
        (·.content.amount.value) := by
  rw [reservationsOf,filter_map,map_map,reservesOf_ofOriginal,filter_filter, outstandingReserves]
  have hfilter : (reservesOf entries).filter (fun r =>
      ((fun r : PaymentRefundReservation => r.release.isNone) ∘ fun r =>
        ⟨r.content.refundOperationId,r,releaseIn
          (ofOriginal entries organizationId originalSettlementId)
          r.content.refundOperationId⟩) r &&
        (r.content.organizationId == organizationId &&
          (operationsOfOriginal entries organizationId originalSettlementId).contains
            r.content.refundOperationId)) =
      (reservesOf entries).filter fun r =>
        decide (Outstanding entries organizationId originalSettlementId r) := by
    refine filter_congr fun r hr => ?_
    rw [Bool.eq_iff_iff]
    simp only [Function.comp_apply,Bool.and_eq_true,beq_iff_eq,contains_iff_mem,
      Option.isNone_iff_eq_none,decide_eq_true_eq]
    constructor
    · rintro ⟨hnone,horganization,hoperation⟩
      have hmem : r ∈ reservesOf (ofOriginal entries organizationId originalSettlementId) := by
        rw [reservesOf_ofOriginal,mem_filter,Bool.and_eq_true,beq_iff_eq,contains_iff_mem]
        exact ⟨hr,horganization,hoperation⟩
      refine ⟨horganization,h r hmem,fun htaken => releaseIn_eq_none.1 hnone ?_⟩
      exact (releasedOperations_ofOriginal hoperation).2 htaken
    · rintro ⟨horganization,hsettlement,hout⟩
      have hoperation := mem_operationsOfOriginal.2 ⟨r,hr,horganization,hsettlement,rfl⟩
      refine ⟨releaseIn_eq_none.2 fun hreleased => hout ?_,horganization,hoperation⟩
      exact (releasedOperations_ofOriginal hoperation).1 hreleased
  rw [hfilter]
  rfl

/-- Every reservation of the log is of a well-formed amount in the asset of its original,
those of one original agree about it, and what is outstanding is within it. -/
structure LedgerSound (entries : List PaymentRefundEntry) : Prop where
  amounts : ∀ r ∈ reservesOf entries, isWellFormedMonetaryAmount r.content.amount = true ∧
    r.content.amount.unit = r.content.originalAmount.unit
  agree : ∀ r ∈ reservesOf entries, ∀ r' ∈ reservesOf entries,
    r.content.organizationId = r'.content.organizationId →
    r.content.originalSettlementId = r'.content.originalSettlementId →
    r.content.originalAmount = r'.content.originalAmount
  within : ∀ r ∈ reservesOf entries, held entries r.content.organizationId r.content.originalSettlementId ≤
      decimalValue r.content.originalAmount.value

/-- A reservation is recorded only over a log whose reservations of the original state the
same original, and only when it fits what is not outstanding. -/
theorem planReservation_append (hsound : LedgerSound entries)
    (h : planPaymentRefundReservation P input (ofOriginal entries input.organizationId input.originalSettlementId) = .ok (.append content)) :
    content = input.content P ∧ (∀ r ∈ reservesOf entries, r.content.organizationId = input.organizationId →
        r.content.originalSettlementId = input.originalSettlementId →
        r.content.originalAmount = input.originalAmount) ∧
      isWellFormedMonetaryAmount input.amount = true ∧ input.amount.unit = input.originalAmount.unit ∧
      held entries input.organizationId input.originalSettlementId +
        decimalValue input.amount.value ≤ decimalValue input.originalAmount.value := by
  unfold planPaymentRefundReservation at h
  rw [bind_eq_ok] at h
  obtain ⟨reservations,hread,h⟩ := h
  obtain ⟨-,rfl⟩ := paymentRefundReservations_eq_ok.1 hread
  rw [bind_eq_ok] at h
  obtain ⟨balance,hbalance,h⟩ := h
  obtain ⟨hstates,hcounted⟩ := paymentRefundBalance_eq_ok hbalance
  have hstates' : ∀ r ∈ reservesOf
      (ofOriginal entries input.organizationId input.originalSettlementId),
      r.content.originalSettlementId = input.originalSettlementId ∧
        r.content.originalAmount = input.originalAmount := by
    intro r hr
    exact hstates _ (mem_map_of_mem hr)
  rw [counted_ofOriginal fun r hr => (hstates' r hr).1] at hcounted
  have hmatches : ∀ value ∈ (outstandingReserves entries input.organizationId
      input.originalSettlementId).map (·.content.amount.value),
      matchesCanonicalDecimal value = true := by
    intro value hmem
    obtain ⟨r,hr,rfl⟩ := mem_map.1 hmem
    exact matches_of_wellFormed (hsound.amounts r (mem_filter.1 hr).1).1
  obtain ⟨counted,hsum,-,hvalue⟩ := paymentRefundCounted_spec hmatches
  have heq : counted = balance.counted.value := by
    rw [hcounted] at hsum
    exact (Except.ok.inj hsum).symm
  split at h
  · split_ifs at h <;> cases h
  · split at h
    · cases h
    · rename_i hrefusal
      cases h
      obtain ⟨hamount,hunit,-,hle⟩ := paymentRefundRefusal_eq_none hrefusal
      refine ⟨rfl,?_,hamount,hunit,?_⟩
      · intro r hr horganization hsettlement
        exact (hstates' r (mem_reservesOf_ofOriginal hr horganization hsettlement)).2
      · rw [← heq,hvalue,map_map] at hle
        exact hle

/-- A reservation found is on record for what the input asks, is the only one of its operation,
and is not taken back. -/
theorem planReservation_existing
    (h : planPaymentRefundReservation P input (ofOriginal entries input.organizationId input.originalSettlementId) = .ok (.answer (.existing reservation balance))) :
    reservation.reserve ∈ reservesOf entries ∧
      reservation.reserve.content.organizationId = input.organizationId ∧
      reservation.reserve.content.originalSettlementId = input.originalSettlementId ∧
      reservation.reserve.content.originalAmount = input.originalAmount ∧
      reservation.reserve.content.amount = input.amount ∧
      reservation.reserve.content.refundRequestId = input.refundRequestId ∧
      ¬ TakenBack entries input.organizationId reservation.reserve.content.refundOperationId := by
  unfold planPaymentRefundReservation at h
  rw [bind_eq_ok] at h
  obtain ⟨reservations,hread,h⟩ := h
  obtain ⟨-,rfl⟩ := paymentRefundReservations_eq_ok.1 hread
  rw [bind_eq_ok] at h
  obtain ⟨balance',hbalance,h⟩ := h
  obtain ⟨hstates,-⟩ := paymentRefundBalance_eq_ok hbalance
  split at h
  · rename_i existing hfind
    split_ifs at h with hsame hreleased
    · cases h
    · cases h
    · cases h
      have hmem := mem_of_find?_eq_some hfind
      obtain ⟨hsettlement,hamount⟩ := hstates _ hmem
      obtain ⟨r,hr,rfl⟩ := mem_map.1 hmem
      have hr' := hr
      rw [reservesOf_ofOriginal,mem_filter,Bool.and_eq_true,beq_iff_eq,contains_iff_mem] at hr'
      simp only [sameRefund,Bool.not_eq_true',Bool.not_eq_false,Bool.and_eq_true, beq_iff_eq] at hsame
      refine ⟨hr'.1,hr'.2.1,hsettlement,hamount,hsame.1.1.1,hsame.2,fun htaken => hreleased ?_⟩
      exact releaseIn_isSome.2 ((releasedOperations_ofOriginal hr'.2.2).2 htaken)
  · split at h <;> cases h

theorem planReservation_ne_reserved :
    planPaymentRefundReservation P input entries ≠ .ok (.answer (.reserved reservation balance)) := by
  intro h
  unfold planPaymentRefundReservation at h
  rw [bind_eq_ok] at h
  obtain ⟨reservations,-,h⟩ := h
  rw [bind_eq_ok] at h
  obtain ⟨balance,-,h⟩ := h
  split at h
  · split_ifs at h <;> cases h
  · split at h <;> cases h

theorem planRelease_append {input : ReleasePaymentRefundInput}
    {content : PaymentRefundReleaseContent}
    (h : planPaymentRefundRelease P input (ofOperation entries input.organizationId input.refundOperationId) = .ok (.append content)) :
    content = input.content ∧ ∀ r ∈ reservesOf entries, ∀ r' ∈ reservesOf entries,
        r.content.organizationId = input.organizationId →
        r.content.refundOperationId = input.refundOperationId →
        r'.content.organizationId = input.organizationId →
        r'.content.refundOperationId = input.refundOperationId → r = r' := by
  unfold planPaymentRefundRelease at h
  rw [bind_eq_ok] at h
  obtain ⟨reservations,hread,h⟩ := h
  obtain ⟨hreadable,rfl⟩ := paymentRefundReservations_eq_ok.1 hread
  have hcontent : content = input.content := by
    split at h
    · cases h
    · split at h
      · split_ifs at h
        cases h
      · cases h
        rfl
  refine ⟨hcontent,fun r hr r' hr' horganization hoperation horganization' hoperation' => ?_⟩
  refine inj_on_of_nodup_map (reservedOperations_nodup hreadable.orderly)
    (mem_reservesOf_ofOperation.2 ⟨hr,horganization,hoperation⟩)
    (mem_reservesOf_ofOperation.2 ⟨hr',horganization',hoperation'⟩) ?_
  rw [hoperation,hoperation']

theorem LedgerSound.nil : LedgerSound [] where
  amounts r hr := by cases hr
  agree r hr := by cases hr
  within r hr := by cases hr

theorem LedgerSound.reserve (hsound : LedgerSound entries)
    (h : planPaymentRefundReservation P input (ofOriginal entries input.organizationId input.originalSettlementId) = .ok (.append content))
    (hentry : entry.content = .reserve content) : LedgerSound (entries ++ [entry]) := by
  obtain ⟨hcontent,hstates,hamount,hunit,hfits⟩ := planReservation_append hsound h
  have hmem : ∀ r, r ∈ reservesOf (entries ++ [entry]) ↔
      r ∈ reservesOf entries ∨ r = entry.mapContent fun _ => content := by
    intro r
    rw [reservesOf_reserve hentry,mem_append,mem_singleton]
  have hnew : (entry.mapContent fun _ => content).content = input.content P := hcontent
  refine ⟨?_,?_,?_⟩
  · intro r hr
    rcases (hmem r).1 hr with hr | rfl
    · exact hsound.amounts r hr
    · rw [hnew]
      exact ⟨hamount,hunit⟩
  · intro r hr r' hr'
    rcases (hmem r).1 hr with hr | rfl
    · rcases (hmem r').1 hr' with hr' | rfl
      · exact hsound.agree r hr r' hr'
      · rw [hnew]
        exact hstates r hr
    · rcases (hmem r').1 hr' with hr' | rfl
      · rw [hnew]
        intro horganization hsettlement
        exact (hstates r' hr' horganization.symm hsettlement.symm).symm
      · intro _ _
        rfl
  · intro r hr
    rw [held_reserve hentry]
    split_ifs with hout
    · obtain ⟨horganization,hsettlement,-⟩ := hout
      rw [hnew] at horganization hsettlement
      have horiginal : r.content.originalAmount = input.originalAmount := by
        rcases (hmem r).1 hr with hr | rfl
        · exact hstates r hr horganization.symm hsettlement.symm
        · rw [hnew]
          rfl
      rw [← horganization,← hsettlement,horiginal,hcontent]
      exact hfits
    · rw [add_zero]
      rcases (hmem r).1 hr with hr | rfl
      · exact hsound.within r hr
      · rw [hnew]
        exact le_trans (le_add_of_nonneg_right (decimalValue_nonneg _)) hfits

theorem LedgerSound.release (hsound : LedgerSound entries) {content : PaymentRefundReleaseContent}
    (hentry : entry.content = .release content) : LedgerSound (entries ++ [entry]) := by
  refine ⟨?_,?_,?_⟩
  all_goals rw [reservesOf_release hentry]
  · exact hsound.amounts
  · exact hsound.agree
  · intro r hr
    exact le_trans (held_release hentry) (hsound.within r hr)

end Frontera.Payment
