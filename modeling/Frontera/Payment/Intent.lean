import Frontera.Payment.Grammar

/-! Validation of a payment intent and its compilation to the governed-action intent. The intent
here is a record of texts: what the source reads out of an untrusted object, after it has refused
undeclared and accessor properties, of which a record has none. -/

namespace Frontera.Payment

open Frontera.Monetary Frontera.Text

structure MonetaryAssetDefinition where
  assetId : String
  scale : Nat

/-- Host configuration: `resolve` of an asset identifier. -/
structure MonetaryAssetRegistry where
  resolve : String → Option MonetaryAssetDefinition

inductive MonetaryAmountViolation where
  | valueMalformed | unitUnknown | scaleExceeded

/-- `PLAIN_DECIMAL` -/
def isPlainDecimal (text : List Char) : Bool :=
  match splitPoint text with
  | (integer, none) => isCanonicalInteger integer
  | (integer, some fraction) =>
      isCanonicalInteger integer && !fraction.isEmpty && fraction.all Char.isDigit

def canonicalizeDecimalText (value : String) : Option String :=
  if value = "" || (codeUnits value).length > 256 then none
  else if !isPlainDecimal value.toList then none
  else
    let canonical :=
      match splitPoint value.toList with
      | (_, none) => value
      | (integer, some fraction) =>
          match (fraction.reverse.dropWhile (· == '0')).reverse with
          | [] => String.ofList integer
          | kept => String.ofList (integer ++ '.' :: kept)
    if isCanonicalDecimal canonical monetaryDecimalMaximumDigits then some canonical else none

def canonicalDecimalScale (canonical : String) : Nat :=
  match splitPoint canonical.toList with
  | (_, none) => 0
  | (_, some fraction) => fraction.length

def parseMonetaryAmount (input : MonetaryAmount) (assets : MonetaryAssetRegistry) :
    Except MonetaryAmountViolation MonetaryAmount :=
  match canonicalizeDecimalText input.value with
  | none => .error .valueMalformed
  | some value =>
      match assets.resolve input.unit with
      | none => .error .unitUnknown
      | some asset =>
          if canonicalDecimalScale value > asset.scale then .error .scaleExceeded
          else .ok ⟨value,asset.assetId⟩

def isPositiveMonetaryAmount (amount : MonetaryAmount) : Bool :=
  isWellFormedMonetaryAmount amount && amount.value != "0"

structure PaymentSourceRef where
  accountId : String

structure PaymentDestination where
  (kind reference : String)

/-- A purpose is kept as its text: settlement terms and decisions carry it so. -/
def paymentPurposes : List String :=
  ["vendor-payment", "treasury-transfer", "settlement", "reimbursement", "payroll", "purchase",
    "refund"]

def isPaymentPurpose (value : String) : Bool := paymentPurposes.contains value

structure PaymentIntent where
  source : PaymentSourceRef
  destination : PaymentDestination
  amount : MonetaryAmount
  purpose : String
  (reference rail : Option String)
  idempotencyKey : String
  correlationId : Option String

inductive PaymentIntentViolationCode where
  | sourceInvalid | destinationKindInvalid | destinationReferenceInvalid | amountMalformed
  | assetUnknown | amountScaleExceeded | amountNotPositive | purposeInvalid | referenceInvalid
  | railInvalid | idempotencyKeyInvalid | correlationIdInvalid
deriving DecidableEq

structure PaymentIntentViolation where
  code : PaymentIntentViolationCode
  field : String
deriving DecidableEq

def validateSource (source : PaymentSourceRef) : List PaymentIntentViolation :=
  if isPaymentReference source.accountId then [] else [⟨.sourceInvalid,"source.accountId"⟩]

def validateDestination (destination : PaymentDestination) : List PaymentIntentViolation :=
  (if isPaymentDestinationKind destination.kind then []
    else [⟨.destinationKindInvalid,"destination.kind"⟩]) ++
  (if isPaymentReference destination.reference then []
    else [⟨.destinationReferenceInvalid,"destination.reference"⟩])

def validateAmount (raw : MonetaryAmount) (assets : MonetaryAssetRegistry) :
    Except PaymentIntentViolation MonetaryAmount :=
  match parseMonetaryAmount raw assets with
  | .error .valueMalformed => .error ⟨.amountMalformed,"amount.value"⟩
  | .error .unitUnknown => .error ⟨.assetUnknown,"amount.unit"⟩
  | .error .scaleExceeded => .error ⟨.amountScaleExceeded,"amount.value"⟩
  | .ok amount =>
      if isPositiveMonetaryAmount amount then .ok amount
      else .error ⟨.amountNotPositive,"amount.value"⟩

/-- The check of an optional text. -/
def optionalViolation (value : Option String) (accepts : String → Bool)
    (violation : PaymentIntentViolation) : List PaymentIntentViolation :=
  match value with
  | none => []
  | some text => if accepts text then [] else [violation]

/-- The checks after the amount, in the order of the source. -/
def trailingViolations (raw : PaymentIntent) : List PaymentIntentViolation :=
  (if isPaymentPurpose raw.purpose then [] else [⟨.purposeInvalid,"purpose"⟩]) ++
  optionalViolation raw.reference isPaymentBusinessReference ⟨.referenceInvalid,"reference"⟩ ++
  optionalViolation raw.rail isPaymentRailId ⟨.railInvalid,"rail"⟩ ++
  (if isPaymentEnvelopeIdentifier raw.idempotencyKey then []
    else [⟨.idempotencyKeyInvalid,"idempotencyKey"⟩]) ++
  optionalViolation raw.correlationId isPaymentEnvelopeIdentifier
    ⟨.correlationIdInvalid,"correlationId"⟩

def validatePaymentIntent (raw : PaymentIntent) (assets : MonetaryAssetRegistry) :
    Except (List PaymentIntentViolation) PaymentIntent :=
  let before := validateSource raw.source ++ validateDestination raw.destination
  match validateAmount raw.amount assets with
  | .error violation => .error (before ++ [violation] ++ trailingViolations raw)
  | .ok amount =>
      match before ++ trailingViolations raw with
      | [] => .ok { raw with amount := amount }
      | violations => .error violations

def isWellFormedPaymentIntent (intent : PaymentIntent) : Bool :=
  isPaymentReference intent.source.accountId &&
    isPaymentDestinationKind intent.destination.kind &&
    isPaymentReference intent.destination.reference &&
    isPositiveMonetaryAmount intent.amount && isPaymentPurpose intent.purpose &&
    intent.reference.all isPaymentBusinessReference && intent.rail.all isPaymentRailId &&
    isPaymentEnvelopeIdentifier intent.idempotencyKey &&
    intent.correlationId.all isPaymentEnvelopeIdentifier

structure PaymentGovernanceBinding where
  action : String

structure GovernanceProfileExpectation where
  id : String
  version : Int

/-- Evidence passed through to the envelope, as plain JSON data. -/
structure PaymentEnvelopeOptions where
  assertedContext : Option (Json String)
  expectedGovernanceProfile : Option GovernanceProfileExpectation

structure PaymentGovernedActionIntent where
  (action resource counterparty : String)
  amount : MonetaryAmount
  parameters : List (String × String)
  idempotencyKey : String
  correlationId : Option String
  assertedContext : Option (Json String)
  expectedGovernanceProfile : Option GovernanceProfileExpectation

inductive PaymentCompilationError where
  | rangeError (message : String)
  | paymentConfigurationInvalid (message : String)

def paymentCounterpartyOf (destination : PaymentDestination) : Except PaymentCompilationError String :=
  if !isPaymentDestinationKind destination.kind || !isPaymentReference destination.reference then
    .error (.rangeError "The destination is not canonical.")
  else .ok (destination.kind ++ ":" ++ destination.reference)

mutual

/-- Why envelope data is not copied: nested beyond 8 levels, or wider than 64 entries. -/
def envelopeRefusal : Nat → Json String → Option String
  | depth, .arr items =>
      if depth > 8 then some "nested too deeply"
      else if items.length > 64 then some "at most 64 entries per level"
      else envelopeItemsRefusal (depth + 1) items
  | depth, .obj fields =>
      if depth > 8 then some "nested too deeply"
      else if fields.length > 64 then some "at most 64 entries per level"
      else envelopeFieldsRefusal (depth + 1) fields
  | depth, _ => if depth > 8 then some "nested too deeply" else none

def envelopeItemsRefusal : Nat → List (Json String) → Option String
  | _, [] => none
  | depth, item :: items =>
      (envelopeRefusal depth item).or (envelopeItemsRefusal depth items)

def envelopeFieldsRefusal : Nat → List (String × Json String) → Option String
  | _, [] => none
  | depth, (_, value) :: fields =>
      (envelopeRefusal depth value).or (envelopeFieldsRefusal depth fields)

end

/-- The asserted context is a plain object that can be copied. -/
def snapshotAssertedContext : Option (Json String) → Except PaymentCompilationError (Option (Json String))
  | none => .ok none
  | some context =>
      match envelopeRefusal 0 context with
      | some reason =>
          .error (.rangeError ("Envelope data must be plain JSON data: " ++ reason ++ "."))
      | none =>
          match context with
          | .obj fields => .ok (some (.obj fields))
          | _ => .error (.rangeError "assertedContext must be a plain object.")

def compilePaymentIntent (raw : PaymentIntent) (binding : PaymentGovernanceBinding)
    (envelope : PaymentEnvelopeOptions) :
    Except PaymentCompilationError PaymentGovernedActionIntent :=
  if !isWellFormedPaymentIntent raw then
    .error (.rangeError
      "compilePaymentIntent needs a payment intent validatePaymentIntent accepted.")
  else if !isPaymentEnvelopeIdentifier binding.action then
    .error (.paymentConfigurationInvalid "The payment governance binding is not canonical.")
  else do
    let assertedContext ← snapshotAssertedContext envelope.assertedContext
    let counterparty ← paymentCounterpartyOf raw.destination
    return {
      action := binding.action
      resource := raw.source.accountId
      counterparty := counterparty
      amount := raw.amount
      parameters := [("paymentPurpose", raw.purpose)] ++
        (raw.reference.map fun reference => ("paymentReference", reference)).toList ++
        (raw.rail.map fun rail => ("paymentRail", rail)).toList
      idempotencyKey := raw.idempotencyKey
      correlationId := raw.correlationId
      assertedContext := assertedContext
      expectedGovernanceProfile := envelope.expectedGovernanceProfile }

theorem compilePaymentIntent_amount {raw : PaymentIntent} {binding : PaymentGovernanceBinding}
    {envelope : PaymentEnvelopeOptions} {governed : PaymentGovernedActionIntent}
    (h : compilePaymentIntent raw binding envelope = .ok governed) :
    governed.amount = raw.amount := by
  unfold compilePaymentIntent at h
  split_ifs at h
  cases hcontext : snapshotAssertedContext envelope.assertedContext with
  | error e => simp [hcontext,bind,Except.bind] at h
  | ok context =>
    cases hcounterparty : paymentCounterpartyOf raw.destination with
    | error e => simp [hcontext,hcounterparty,bind,Except.bind] at h
    | ok counterparty =>
      simp only [hcontext,hcounterparty,bind,Except.bind,pure,Except.pure, Except.ok.injEq] at h
      rw [← h]

end Frontera.Payment
