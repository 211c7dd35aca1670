import Frontera.ExerciseControl.InMemoryLedger
import Frontera.Grant.BoundedGrant

/-! `createExerciseControlGate`, as the execution service uses it for one attempt: what `admit`
works out before it asks the ledger and reads from the answer, the synchronous `revalidate`, and the
terminal transition that `finalize` asks for. The host's policy, binding resolver and classifier
answer as they do at the moment they are called. -/

namespace Frontera.ExerciseControl

open Frontera.Grant Frontera.Monetary Frontera.Text

inductive GovernedActionClass where
  | financial | nonFinancial
deriving DecidableEq

structure ExerciseControlQuery where
  (boundedGrantId subject action resource : String)
  (counterparty organization : Option String)
  amount : Option MonetaryAmount
  actionClass : GovernedActionClass
  correlation : GrantCorrelation
  (grantIssuedAt grantExpiresAt at' : String)

/-- What the gate is told of the grant. -/
structure AdmissionGrant where
  (id subject issuedAt expiresAt : String)
  correlation : GrantCorrelation
  authorityBindingDigest : Option String

/-- What the gate is told of the attempt. -/
structure AdmissionAttempt where
  (action resource : String)
  (counterparty organization : Option String)
  amount : Option MonetaryAmount

structure ExerciseControlAdmissionInput where
  grant : AdmissionGrant
  attempt : AdmissionAttempt
  (executionId at' : String)

/-- The trusted callbacks. `none` from the classifier or the policy is a raised error, or an
answer that is not one; from the resolver also `undefined`. -/
structure ExerciseControlHost where
  classify : String → Option GovernedActionClass
  authorityBinding : ExerciseControlQuery → Option String
  policy : ExerciseControlQuery → Option (List ExerciseControlLimit)

structure ExerciseReservationHandle where
  (reservationId authorityBindingDigest : String)

def queryFor (input : ExerciseControlAdmissionInput) (actionClass : GovernedActionClass) :
    ExerciseControlQuery where
  boundedGrantId := input.grant.id
  subject := input.grant.subject
  action := input.attempt.action
  resource := input.attempt.resource
  counterparty := input.attempt.counterparty
  organization := input.attempt.organization
  amount := input.attempt.amount
  actionClass := actionClass
  correlation := input.grant.correlation
  grantIssuedAt := input.grant.issuedAt
  grantExpiresAt := input.grant.expiresAt
  at' := input.at'

inductive ExerciseAuthorityBindingVerification where
  | verified
  | unverified (reasonCode : ExerciseControlReasonCode)

def verifyExerciseAuthorityBinding (recorded : Option String)
    (resolve : ExerciseControlQuery → Option String) (query : ExerciseControlQuery) :
    ExerciseAuthorityBindingVerification :=
  match recorded with
  | none => .unverified .authorityBindingUnverifiable
  | some recorded =>
      if !isWellFormedExerciseDigest recorded then .unverified .authorityBindingUnverifiable
      else
        match resolve query with
        | none => .unverified .authorityBindingUnverifiable
        | some current =>
            if !isWellFormedExerciseDigest current then .unverified .authorityBindingUnverifiable
            else if current = recorded then .verified
            else .unverified .authorityBindingChanged

theorem verifyExerciseAuthorityBinding_verified {recorded : Option String}
    {resolve : ExerciseControlQuery → Option String} {query : ExerciseControlQuery}
    (h : verifyExerciseAuthorityBinding recorded resolve query = .verified) :
    ∃ digest, recorded = some digest ∧ resolve query = some digest := by
  unfold verifyExerciseAuthorityBinding at h
  cases hrecorded : recorded with
  | none => simp [hrecorded] at h
  | some digest =>
    simp only [hrecorded] at h
    cases hresolve : resolve query with
    | none => simp [hresolve] at h
    | some current =>
      simp only [hresolve] at h
      split_ifs at h with hdigest hcurrent hsame
      exact ⟨digest,rfl,by rw [hsame]⟩

section Admit

variable (P : Platform)

def exerciseReservationRequestDigest (query : ExerciseControlQuery) (executionId : String) : String :=
  let amount := match query.amount with
    | none => []
    | some amount => ["\"amount\":\x7b\"unit\":" ++ stringify amount.unit ++ ",\"value\":" ++
        stringify amount.value ++ "\x7d"]
  P.digestOf ("\x7b" ++ join "," (amount ++ ["\"action\":" ++ stringify query.action,
      "\"boundedGrantId\":" ++ stringify query.boundedGrantId,
      "\"correlation\":\x7b" ++ serializeGrantCorrelation query.correlation ++ "\x7d"] ++
    optionalField "counterparty" query.counterparty ++ ["\"executionId\":" ++ stringify executionId] ++
    optionalField "organization" query.organization ++ ["\"resource\":" ++ stringify query.resource,
      "\"subject\":" ++ stringify query.subject]) ++ "\x7d")

/-- What an attempt consumes of one limit, or why that cannot be said. -/
inductive LimitReading where
  | rule (usage : ExerciseControlRuleUsage)
  | amountRequired | unitMismatch
deriving DecidableEq

def readLimit (amount : Option MonetaryAmount) (limit : ExerciseControlLimit) : LimitReading :=
  match limit.measure with
  | .count _ => .rule ⟨limit,"1"⟩
  | .amount _ unit =>
      match amount with
      | none => .amountRequired
      | some amount => if amount.unit ≠ unit then .unitMismatch else .rule ⟨limit,amount.value⟩

def LimitReading.usage? : LimitReading → Option ExerciseControlRuleUsage
  | .rule usage => some usage
  | _ => none

/-- `admit`, up to the ledger. -/
inductive AdmissionStep where
  | raised
  | withheld (reasonCodes : List ExerciseControlReasonCode)
  | reserve (request : ExerciseReservationRequest)

def admitExercise (host : ExerciseControlHost) (input : ExerciseControlAdmissionInput) : AdmissionStep :=
  match host.classify input.grant.correlation.action with
  | none => .raised
  | some actionClass =>
      let query := queryFor input actionClass
      let amount := input.attempt.amount
      if amount.any fun amount => !(isWellFormedMonetaryAmount amount &&
          isCanonicalExerciseDecimal amount.value exerciseDecimalUsageDigits) then
        .withheld [.amountRequired]
      else if (actionClass == .financial) != amount.isSome then .withheld [.actionClassMismatch]
      else
        match verifyExerciseAuthorityBinding input.grant.authorityBindingDigest
            host.authorityBinding query, input.grant.authorityBindingDigest with
        | .unverified reasonCode, _ => .withheld [reasonCode]
        -- a verified binding is recorded
        | .verified, none => .withheld [.authorityBindingUnverifiable]
        | .verified, some authorityBindingDigest =>
            match (host.policy query).bind snapshotExerciseControlLimits with
            | none => .withheld [.policyInvalid]
            | some limits =>
                let readings := limits.map (readLimit amount)
                if readings.contains .amountRequired || readings.contains .unitMismatch then
                  .withheld ((if readings.contains .amountRequired then [.amountRequired] else []) ++
                    if readings.contains .unitMismatch then [.unitMismatch] else [])
                else
                  .reserve {
                    reservationId := exerciseReservationId P input.grant.id input.executionId
                    executionId := input.executionId
                    boundedGrantId := input.grant.id
                    requestDigest := exerciseReservationRequestDigest P query input.executionId
                    policyDigest := exerciseControlPolicyDigest P limits
                    authorityBindingDigest := authorityBindingDigest
                    rules := readings.filterMap (·.usage?) }

inductive ExerciseControlAdmission where
  | admitted (reservation : ExerciseReservationHandle)
  | withheld (reasonCodes : List ExerciseControlReasonCode)

def isLedgerRefusalCode (code : ExerciseControlReasonCode) : Bool :=
  code == .limitExceeded || code == .unitMismatch

/-- The rest of `admit`, from what the ledger answered; `none` is a ledger that raised. -/
def admissionFrom (request : ExerciseReservationRequest)
    (answer : Option ExerciseReservationOutcome) : ExerciseControlAdmission :=
  match answer with
  | none => .withheld [.ledgerUnavailable]
  | some (.alreadyReserved _) => .withheld [.executionAlreadyReserved]
  | some .conflict => .withheld [.reservationConflict]
  | some (.refused reasonCodes _) =>
      if !reasonCodes.isEmpty && reasonCodes.all isLedgerRefusalCode then
        .withheld reasonCodes.eraseDups
      else .withheld [.ledgerUnavailable]
  | some (.reserved _) => .admitted ⟨request.reservationId,request.authorityBindingDigest⟩

variable {request : ExerciseReservationRequest} {reservation : ExerciseReservationHandle}
  {host : ExerciseControlHost} {input : ExerciseControlAdmissionInput}

theorem admissionFrom_admitted {answer : Option ExerciseReservationOutcome}
    (h : admissionFrom request answer = .admitted reservation) :
    (∃ record, answer = some (.reserved record)) ∧
      reservation = ⟨request.reservationId,request.authorityBindingDigest⟩ := by
  unfold admissionFrom at h
  split at h
  · cases h
  · cases h
  · cases h
  · split_ifs at h
  · cases h
    exact ⟨⟨_,rfl⟩,rfl⟩

/-- What `admit` has established of a request it hands to the ledger. -/
structure AdmitsRequest (P : Platform) (host : ExerciseControlHost)
    (input : ExerciseControlAdmissionInput) (request : ExerciseReservationRequest) : Prop where
  reservationId : request.reservationId = exerciseReservationId P input.grant.id input.executionId
  executionId : request.executionId = input.executionId
  rules : ∃ query raw limits, host.policy query = some raw ∧
    snapshotExerciseControlLimits raw = some limits ∧
    (∀ limit ∈ limits, ∃ rule ∈ request.rules, readLimit input.attempt.amount limit = .rule rule) ∧
    ∀ rule ∈ request.rules, ∃ limit ∈ limits, readLimit input.attempt.amount limit = .rule rule

theorem admit_reserve (h : admitExercise P host input = .reserve request) :
    AdmitsRequest P host input request := by
  unfold admitExercise at h
  cases hclass : host.classify input.grant.correlation.action with
  | none => simp [hclass] at h
  | some actionClass =>
    simp only [hclass] at h
    by_cases hamount : (input.attempt.amount.any fun amount =>
        !(isWellFormedMonetaryAmount amount &&
          isCanonicalExerciseDecimal amount.value exerciseDecimalUsageDigits)) = true
    · rw [if_pos hamount] at h
      cases h
    rw [if_neg hamount] at h
    by_cases hfinancial : ((actionClass == .financial) != input.attempt.amount.isSome) = true
    · rw [if_pos hfinancial] at h
      cases h
    rw [if_neg hfinancial] at h
    cases hbinding : verifyExerciseAuthorityBinding input.grant.authorityBindingDigest
        host.authorityBinding (queryFor input actionClass) with
    | unverified reasonCode => simp [hbinding] at h
    | verified =>
      obtain ⟨digest,hdigest,-⟩ := verifyExerciseAuthorityBinding_verified hbinding
      rw [hbinding,hdigest] at h
      simp only at h
      cases hpolicy : host.policy (queryFor input actionClass) with
      | none => simp [hpolicy] at h
      | some raw =>
        cases hsnapshot : snapshotExerciseControlLimits raw with
        | none => simp [hpolicy,hsnapshot] at h
        | some limits =>
          simp only [hpolicy,Option.bind_some,hsnapshot] at h
          by_cases hreadings : ((limits.map (readLimit input.attempt.amount)).contains
              .amountRequired || (limits.map (readLimit input.attempt.amount)).contains
              .unitMismatch) = true
          · rw [if_pos hreadings] at h
            cases h
          rw [if_neg hreadings] at h
          simp only [AdmissionStep.reserve.injEq] at h
          subst h
          simp only [Bool.or_eq_true,List.contains_iff_mem,not_or,List.mem_map,
            not_exists,not_and] at hreadings
          refine ⟨rfl,rfl,_,raw,limits,hpolicy,hsnapshot,fun limit hlimit => ?_, fun rule hrule => ?_⟩
          · cases hread : readLimit input.attempt.amount limit with
            | rule usage =>
              refine ⟨usage,?_,rfl⟩
              exact List.mem_filterMap.2 ⟨.rule usage,List.mem_map.2 ⟨limit,hlimit,hread⟩,rfl⟩
            | amountRequired => exact absurd hread (hreadings.1 limit hlimit)
            | unitMismatch => exact absurd hread (hreadings.2 limit hlimit)
          · obtain ⟨reading,hmem,husage⟩ := List.mem_filterMap.1 hrule
            obtain ⟨limit,hlimit,rfl⟩ := List.mem_map.1 hmem
            refine ⟨limit,hlimit,?_⟩
            cases hread : readLimit input.attempt.amount limit with
            | rule usage =>
              rw [hread] at husage
              cases husage
              rfl
            | amountRequired =>
              rw [hread] at husage
              cases husage
            | unitMismatch =>
              rw [hread] at husage
              cases husage

inductive ExerciseControlRevalidation where
  | raised | verified
  | withheld (reasonCodes : List ExerciseControlReasonCode)

def revalidate (host : ExerciseControlHost) (reservation : ExerciseReservationHandle)
    (input : ExerciseControlAdmissionInput) : ExerciseControlRevalidation :=
  if exerciseReservationId P input.grant.id input.executionId ≠ reservation.reservationId then
    .withheld [.reservationConflict]
  else
    match host.classify input.grant.correlation.action with
    | none => .raised
    | some actionClass =>
        match verifyExerciseAuthorityBinding input.grant.authorityBindingDigest
            host.authorityBinding (queryFor input actionClass) with
        | .unverified reasonCode => .withheld [reasonCode]
        | .verified =>
            if input.grant.authorityBindingDigest ≠ some reservation.authorityBindingDigest then
              .withheld [.authorityBindingChanged]
            else .verified

/-- What the resolver answers to the gate's query. -/
def resolvedBinding (host : ExerciseControlHost) (input : ExerciseControlAdmissionInput) : Option String :=
  (host.classify input.grant.correlation.action).bind fun actionClass =>
    host.authorityBinding (queryFor input actionClass)

theorem revalidate_verified (h : revalidate P host reservation input = .verified) :
    resolvedBinding host input = some reservation.authorityBindingDigest := by
  unfold revalidate at h
  by_cases hid : exerciseReservationId P input.grant.id input.executionId = reservation.reservationId
  swap
  · rw [if_pos hid] at h
    cases h
  rw [if_neg (not_not.2 hid)] at h
  cases hclass : host.classify input.grant.correlation.action with
  | none =>
    rw [hclass] at h
    cases h
  | some actionClass =>
    simp only [hclass] at h
    cases hbinding : verifyExerciseAuthorityBinding input.grant.authorityBindingDigest
        host.authorityBinding (queryFor input actionClass) with
    | unverified reasonCode =>
      rw [hbinding] at h
      cases h
    | verified =>
      simp only [hbinding] at h
      split_ifs at h with hdigest
      obtain ⟨digest,hrecorded,hresolved⟩ := verifyExerciseAuthorityBinding_verified hbinding
      rw [not_not,hrecorded,Option.some.injEq] at hdigest
      rw [resolvedBinding,hclass,Option.bind_some,hresolved,hdigest]

end Admit

structure ExerciseReservationDisposition where
  kind : ExerciseReservationTerminalKind
  reason : ExerciseReservationTerminalReason

/-- The ledger call of `finalize`. -/
def finalizeCall (reservation : ExerciseReservationHandle)
    (disposition : ExerciseReservationDisposition) (recordedAt : String) : LedgerCall :=
  match disposition.kind with
  | .settled => .settle ⟨reservation.reservationId,disposition.reason,recordedAt⟩
  | .released => .release ⟨reservation.reservationId,disposition.reason,recordedAt⟩

end Frontera.ExerciseControl
