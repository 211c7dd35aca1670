import Frontera.Data.OrderedMap
import Frontera.Data.Throwing
import Frontera.Payment.Grammar

/-! The money rules of `payment-refund.ts` and the reservation log of `refund-ledger.ts`: what an
entry holds and what its digests commit to, the reservations and the balance read out of a log, the
two decisions taken over them, and the volatile ledger. -/

namespace Frontera.Payment

open Frontera.Monetary Frontera.Text Frontera.Data

variable (P : Platform)

inductive PaymentRefundRefusal where
  | assetMismatch | amountInvalid | exceedsRefundable

def paymentRefundRefusal (original : MonetaryAmount) (counted : String)
    (requested : MonetaryAmount) : Option PaymentRefundRefusal :=
  if !isWellFormedMonetaryAmount requested || requested.value == "0" then some .amountInvalid
  else if requested.unit ≠ original.unit then some .assetMismatch
  else if !isCanonicalDecimal counted monetaryDecimalMaximumDigits ||
      !isWellFormedMonetaryAmount original then some .exceedsRefundable
  else
    match addCanonicalDecimals counted requested.value >>= (compareCanonicalDecimals · original.value)
      with
    | .ok .gt => some .exceedsRefundable
    | .ok _ => none
    -- all three operands are canonical here, so nothing is raised
    | .error _ => some .exceedsRefundable

def paymentRefundCounted (amounts : List String) : Except RangeError String :=
  amounts.foldlM addCanonicalDecimals "0"

def paymentRefundRemaining (original : MonetaryAmount) (counted : String) :
    Except RangeError MonetaryAmount := do
  let value ← subtractCanonicalDecimals original.value counted
  return ⟨value,original.unit⟩

inductive PaymentSettlementStoreErrorCode where
  | storeUnavailable | inputInvalid | tenantViolation | conflict | corrupt

structure PaymentSettlementStoreError where
  code : PaymentSettlementStoreErrorCode
  message : String

/-- What a call of the refund accounting throws. -/
inductive RefundLedgerError where
  | store (error : PaymentSettlementStoreError)
  | range (error : RangeError)

def corruptLedger (what : String) : RefundLedgerError :=
  .store ⟨.corrupt,"The refund accounting failed verification (" ++ what ++
    "). Refused, never repaired."⟩

inductive PaymentRefundReleaseBasis where
  | decisionDenied | executionWithheld | providerConfirmedNotCompleted
  | resolutionConfirmedNotCompleted
deriving DecidableEq

def PaymentRefundReleaseBasis.text : PaymentRefundReleaseBasis → String
  | .decisionDenied => "decision-denied"
  | .executionWithheld => "execution-withheld"
  | .providerConfirmedNotCompleted => "provider-confirmed-not-completed"
  | .resolutionConfirmedNotCompleted => "resolution-confirmed-not-completed"

structure PaymentRefundReserveContent where
  (organizationId refundOperationId principalId refundKey originalSettlementId : String)
  (originalExecutionId originalReceiptId : String)
  (originalAmount amount : MonetaryAmount)
  refundRequestId : String

structure PaymentRefundReleaseContent where
  (organizationId refundOperationId : String)
  basis : PaymentRefundReleaseBasis
  basisReference : String

inductive PaymentRefundEntryContent where
  | reserve (content : PaymentRefundReserveContent)
  | release (content : PaymentRefundReleaseContent)

namespace PaymentRefundEntryContent

def organizationId : PaymentRefundEntryContent → String
  | reserve content => content.organizationId
  | release content => content.organizationId

def refundOperationId : PaymentRefundEntryContent → String
  | reserve content => content.refundOperationId
  | release content => content.refundOperationId

def originalSettlementId : PaymentRefundEntryContent → Option String
  | reserve content => some content.originalSettlementId
  | release _ => none

end PaymentRefundEntryContent

/-- A content with its position in the log and its digests. -/
structure Recorded (Content : Type) where
  content : Content
  schemaVersion : String
  sequence : Int
  (recordedAt entryDigest chainDigest : String)

abbrev PaymentRefundEntry := Recorded PaymentRefundEntryContent

def Recorded.mapContent {A B : Type} (f : A → B) (entry : Recorded A) : Recorded B :=
  { entry with content := f entry.content }

def paymentRefundLedgerSchemaVersion : String := "aoc.payment-refund-ledger.schema.v1"

/-- Keys in the order of `<` on strings. -/
def keyLe (a b : String) : Bool := !stringLt b a

/-- `computeDigest` -/
def computeDigest (value : Json String) : String := P.digestOf (Json.canonicalSerialize keyLe value)

/-- `digest.slice('sha256:'.length)` -/
def hexOf (digest : String) : String := String.ofList (digest.toList.drop 7)

def amountJson (amount : MonetaryAmount) : Json String :=
  .obj [("value", .str amount.value), ("unit", .str amount.unit)]

/-- `copyContent`, as fields. -/
def contentFields : PaymentRefundEntryContent → List (String × Json String)
  | .release content =>
      [("kind", .str "release"), ("organizationId", .str content.organizationId),
        ("refundOperationId", .str content.refundOperationId),
        ("basis", .str content.basis.text), ("basisReference", .str content.basisReference)]
  | .reserve content =>
      [("kind", .str "reserve"), ("organizationId", .str content.organizationId),
        ("refundOperationId", .str content.refundOperationId),
        ("principalId", .str content.principalId), ("refundKey", .str content.refundKey),
        ("originalSettlementId", .str content.originalSettlementId),
        ("originalExecutionId", .str content.originalExecutionId),
        ("originalReceiptId", .str content.originalReceiptId),
        ("originalAmount", amountJson content.originalAmount),
        ("amount", amountJson content.amount), ("refundRequestId", .str content.refundRequestId)]

def paymentRefundOperationId (organizationId principalId originalSettlementId refundKey : String) :
    String :=
  "payment-refund:" ++ hexOf (computeDigest P (.obj
    [("domain", .str "aoc.payment-refund.operation.v1"), ("organizationId", .str organizationId),
      ("principalId", .str principalId), ("originalSettlementId", .str originalSettlementId),
      ("refundKey", .str refundKey)]))

/-- `refund-` and the hash of the operation id. -/
def paymentRefundGovernedKey (refundOperationId : String) : String :=
  "refund-" ++ String.ofList (refundOperationId.toList.drop 15)

def paymentRefundGenesisDigest (storeId organizationId : String) : String :=
  computeDigest P (.obj
    [("domain", .str "aoc.payment-refund.chain.v1"), ("storeId", .str storeId),
      ("organizationId", .str organizationId), ("sequence", .num 0)])

def paymentRefundEntryDigest (content : PaymentRefundEntryContent) (sequence : Int)
    (recordedAt : String) : String :=
  computeDigest P (.obj
    ([("domain", .str "aoc.payment-refund.entry.v1"),
      ("schemaVersion", .str paymentRefundLedgerSchemaVersion), ("sequence", .num sequence),
      ("recordedAt", .str recordedAt)] ++ contentFields content))

def nextPaymentRefundChainDigest (previous entryDigest : String) : String :=
  computeDigest P (.obj
    [("domain", .str "aoc.payment-refund.chain.v1"), ("previous", .str previous),
      ("entryDigest", .str entryDigest)])

def buildPaymentRefundEntry (content : PaymentRefundEntryContent) (sequence : Int)
    (recordedAt previousChain : String) : PaymentRefundEntry :=
  let entryDigest := paymentRefundEntryDigest P content sequence recordedAt
  { content := content
    schemaVersion := paymentRefundLedgerSchemaVersion
    sequence := sequence
    recordedAt := recordedAt
    entryDigest := entryDigest
    chainDigest := nextPaymentRefundChainDigest P previousChain entryDigest }

/-- The first of the named texts that is no opaque identifier. -/
def malformedIdentifier : List (String × String) → Option String
  | [] => none
  | (key, value) :: rest =>
      if !isOpaqueExecutionIdentifier value then some (key ++ " is malformed")
      else malformedIdentifier rest

/-- Why a content is outside the contract. A record has exactly its own keys, so the
closed-record refusals do not arise here. -/
def paymentRefundContentViolation (content : PaymentRefundEntryContent) : Option String :=
  if !isOpaqueExecutionIdentifier content.organizationId ||
      !isOpaqueExecutionIdentifier content.refundOperationId then some "an identifier is malformed"
  else
    match content with
    | .release content =>
        if !isOpaqueExecutionIdentifier content.basisReference &&
            !isWellFormedDigest content.basisReference then
          some "the release reference is malformed"
        else none
    | .reserve content =>
        match malformedIdentifier
            [("principalId", content.principalId), ("refundKey", content.refundKey),
              ("originalSettlementId", content.originalSettlementId),
              ("originalExecutionId", content.originalExecutionId),
              ("originalReceiptId", content.originalReceiptId),
              ("refundRequestId", content.refundRequestId)] with
        | some violation => some violation
        | none =>
            if !isWellFormedMonetaryAmount content.originalAmount ||
                !isWellFormedMonetaryAmount content.amount ||
                content.originalAmount.value == "0" || content.amount.value == "0" then
              some "an amount is not canonical and positive"
            else if content.amount.unit ≠ content.originalAmount.unit then
              some "the refund asset is not the original asset"
            else none

structure PaymentRefundReservation where
  refundOperationId : String
  reserve : Recorded PaymentRefundReserveContent
  release : Option (Recorded PaymentRefundReleaseContent)

structure PaymentRefundBalance where
  originalSettlementId : String
  (originalAmount counted remaining : MonetaryAmount)
  reservations : List PaymentRefundReservation

/-- What the log has said of one operation so far. -/
structure OperationSlot where
  reserve : Option (Recorded PaymentRefundReserveContent)
  release : Option (Recorded PaymentRefundReleaseContent)

/-- One turn of the loop of `paymentRefundReservations`. -/
def recordEntry (byOperation : OrderedMap String OperationSlot) (entry : PaymentRefundEntry) :
    Except RefundLedgerError (OrderedMap String OperationSlot) :=
  let operation := entry.content.refundOperationId
  let slot := (byOperation.get operation).getD ⟨none,none⟩
  match entry.content with
  | .reserve content =>
      if slot.reserve.isSome then .error (corruptLedger "an operation is reserved twice")
      else
        .ok (byOperation.set operation
          { slot with reserve := some (entry.mapContent fun _ => content) })
  | .release content =>
      if slot.release.isSome then .error (corruptLedger "an operation is released twice")
      else if slot.reserve.isNone then
        .error (corruptLedger "a release precedes its reservation")
      else
        .ok (byOperation.set operation
          { slot with release := some (entry.mapContent fun _ => content) })

/-- The reservation of one operation's slot. -/
def reservationOfSlot (operation : String) (slot : OperationSlot) :
    Except RefundLedgerError PaymentRefundReservation :=
  match slot.reserve with
  | none => .error (corruptLedger "a release names no reservation")
  | some reserve =>
      if reserve.content.refundOperationId ≠
          paymentRefundOperationId P reserve.content.organizationId reserve.content.principalId
            reserve.content.originalSettlementId reserve.content.refundKey then
        .error (corruptLedger "an operation id is not derived from its reservation")
      else .ok ⟨operation,reserve,slot.release⟩

def paymentRefundReservations (entries : List PaymentRefundEntry) :
    Except RefundLedgerError (List PaymentRefundReservation) := do
  let byOperation ← entries.foldlM recordEntry OrderedMap.empty
  byOperation.entries.mapM fun e => reservationOfSlot P e.1 e.2

/-- The reservation states this original. -/
def statesOriginal (originalSettlementId : String) (originalAmount : MonetaryAmount)
    (reservation : PaymentRefundReservation) : Bool :=
  reservation.reserve.content.originalSettlementId == originalSettlementId &&
    reservation.reserve.content.originalAmount == originalAmount

def paymentRefundBalance (originalSettlementId : String)
    (reservations : List PaymentRefundReservation) (originalAmount : MonetaryAmount) :
    Except RefundLedgerError PaymentRefundBalance :=
  if !reservations.all (statesOriginal originalSettlementId originalAmount) then
    .error (corruptLedger "reservations of one original disagree about it")
  else
    match paymentRefundCounted
        ((reservations.filter fun r => r.release.isNone).map (·.reserve.content.amount.value)) with
    | .error e => .error (.range e)
    | .ok counted =>
        match paymentRefundRemaining originalAmount counted with
        | .error _ => .error (corruptLedger "the reservations of an original exceed it")
        | .ok remaining =>
            .ok ⟨originalSettlementId,originalAmount,⟨counted,originalAmount.unit⟩,remaining, reservations⟩

structure ReservePaymentRefundInput where
  (organizationId principalId refundKey originalSettlementId originalExecutionId : String)
  originalReceiptId : String
  (originalAmount amount : MonetaryAmount)
  refundRequestId : String

def ReservePaymentRefundInput.refundOperationId (input : ReservePaymentRefundInput) : String :=
  paymentRefundOperationId P input.organizationId input.principalId input.originalSettlementId
    input.refundKey

inductive ReservePaymentRefundResult where
  | reserved (reservation : PaymentRefundReservation) (balance : PaymentRefundBalance)
  | existing (reservation : PaymentRefundReservation) (balance : PaymentRefundBalance)
  | closed (reservation : PaymentRefundReservation)
  | conflict
  | refused (refusal : PaymentRefundRefusal) (balance : PaymentRefundBalance)

inductive ReleasePaymentRefundResult where
  | released (reservation : PaymentRefundReservation)
  | existing (reservation : PaymentRefundReservation)
  | notFound

inductive RefundPlan (Content Result : Type) where
  | append (content : Content)
  | answer (result : Result)

/-- The reservation is the one the input asks for. -/
def sameRefund (reserve : PaymentRefundReserveContent) (input : ReservePaymentRefundInput) : Bool :=
  reserve.amount == input.amount && reserve.originalExecutionId == input.originalExecutionId &&
    reserve.originalReceiptId == input.originalReceiptId &&
    reserve.refundRequestId == input.refundRequestId

/-- The content a new reservation is recorded with. -/
def ReservePaymentRefundInput.content (input : ReservePaymentRefundInput) : PaymentRefundReserveContent :=
  { organizationId := input.organizationId
    refundOperationId := input.refundOperationId P
    principalId := input.principalId
    refundKey := input.refundKey
    originalSettlementId := input.originalSettlementId
    originalExecutionId := input.originalExecutionId
    originalReceiptId := input.originalReceiptId
    originalAmount := input.originalAmount
    amount := input.amount
    refundRequestId := input.refundRequestId }

def planPaymentRefundReservation (input : ReservePaymentRefundInput)
    (entriesOfOriginal : List PaymentRefundEntry) :
    Except RefundLedgerError
      (RefundPlan PaymentRefundReserveContent ReservePaymentRefundResult) := do
  let reservations ← paymentRefundReservations P entriesOfOriginal
  let balance ← paymentRefundBalance input.originalSettlementId reservations input.originalAmount
  match reservations.find? fun r => r.refundOperationId = input.refundOperationId P with
  | some existing =>
      if !sameRefund existing.reserve.content input then return .answer .conflict
      else if existing.release.isSome then return .answer (.closed existing)
      else return .answer (.existing existing balance)
  | none =>
      match paymentRefundRefusal input.originalAmount balance.counted.value input.amount with
      | some refusal => return .answer (.refused refusal balance)
      | none => return .append (input.content P)

structure ReleasePaymentRefundInput where
  (organizationId refundOperationId : String)
  basis : PaymentRefundReleaseBasis
  basisReference : String

def ReleasePaymentRefundInput.content (input : ReleasePaymentRefundInput) : PaymentRefundReleaseContent :=
  ⟨input.organizationId,input.refundOperationId,input.basis,input.basisReference⟩

def planPaymentRefundRelease (input : ReleasePaymentRefundInput)
    (entriesOfOperation : List PaymentRefundEntry) :
    Except RefundLedgerError
      (RefundPlan PaymentRefundReleaseContent ReleasePaymentRefundResult) := do
  let reservations ← paymentRefundReservations P entriesOfOperation
  match reservations.find? fun r => r.refundOperationId = input.refundOperationId with
  | none => return .answer .notFound
  | some reservation =>
      match reservation.release with
      | some release =>
          if release.content.basis ≠ input.basis ||
              release.content.basisReference ≠ input.basisReference then
            throw (corruptLedger "an operation was released on another basis")
          else return .answer (.existing reservation)
      | none => return .append input.content

def requireRefundReserveInput (input : ReservePaymentRefundInput) : Except RefundLedgerError Unit :=
  match paymentRefundContentViolation (.reserve
      { input.content P with refundOperationId := "payment-refund:probe" }) with
  | some violation =>
      .error (.store ⟨.inputInvalid,
        "The refund reservation is outside the closed contract: " ++ violation ++ "."⟩)
  | none => .ok ()

def requireRefundReleaseInput (input : ReleasePaymentRefundInput) : Except RefundLedgerError Unit :=
  match paymentRefundContentViolation (.release input.content) with
  | some violation =>
      .error (.store ⟨.inputInvalid,
        "The refund release is outside the closed contract: " ++ violation ++ "."⟩)
  | none => .ok ()

theorem requireRefundReleaseInput_ok {input : ReleasePaymentRefundInput}
    (horganization : isOpaqueExecutionIdentifier input.organizationId = true)
    (hoperation : isOpaqueExecutionIdentifier input.refundOperationId = true)
    (hbasis : isWellFormedDigest input.basisReference = true) :
    requireRefundReleaseInput input = .ok () := by
  simp [requireRefundReleaseInput,ReleasePaymentRefundInput.content,
    paymentRefundContentViolation,PaymentRefundEntryContent.organizationId,
    PaymentRefundEntryContent.refundOperationId,horganization,hoperation,hbasis]

structure InMemoryRefundLedger where
  entries : List PaymentRefundEntry
  chain : String

/-- Entries of `organizationId` that `selects` picks. -/
def entriesWhere (entries : List PaymentRefundEntry) (organizationId : String)
    (selects : PaymentRefundEntry → Bool) : List PaymentRefundEntry :=
  entries.filter fun entry => entry.content.organizationId == organizationId && selects entry

def operationsOfOriginal (entries : List PaymentRefundEntry)
    (organizationId originalSettlementId : String) : List String :=
  (entriesWhere entries organizationId fun entry =>
    entry.content.originalSettlementId == some originalSettlementId).map
      (·.content.refundOperationId)

def ofOriginal (entries : List PaymentRefundEntry) (organizationId originalSettlementId : String) :
    List PaymentRefundEntry :=
  entriesWhere entries organizationId fun entry =>
    (operationsOfOriginal entries organizationId originalSettlementId).contains
      entry.content.refundOperationId

def ofOperation (entries : List PaymentRefundEntry) (organizationId refundOperationId : String) :
    List PaymentRefundEntry :=
  entriesWhere entries organizationId fun entry =>
    entry.content.refundOperationId == refundOperationId

namespace InMemoryRefundLedger

def «open» : InMemoryRefundLedger := ⟨[],paymentRefundGenesisDigest P "memory" "memory"⟩

def append (ledger : InMemoryRefundLedger) (now : String) (content : PaymentRefundEntryContent) :
    InMemoryRefundLedger :=
  let entry := buildPaymentRefundEntry P content (ledger.entries.length + 1) now ledger.chain
  ⟨ledger.entries ++ [entry],entry.chainDigest⟩

/-- `reserve`, at a clock that reads `now`: the ledger it leaves, and what it answers. -/
def reserve (ledger : InMemoryRefundLedger) (now : String) (input : ReservePaymentRefundInput) :
    InMemoryRefundLedger × Except RefundLedgerError ReservePaymentRefundResult :=
  match requireRefundReserveInput P input >>= fun _ =>
      planPaymentRefundReservation P input
        (ofOriginal ledger.entries input.organizationId input.originalSettlementId) with
  | .error e => (ledger, .error e)
  | .ok (.answer result) => (ledger, .ok result)
  | .ok (.append content) =>
      let after := ledger.append P now (.reserve content)
      (after, match planPaymentRefundReservation P input
            (ofOriginal after.entries input.organizationId input.originalSettlementId) with
        | .error e => .error e
        | .ok (.answer (.existing reservation balance)) => .ok (.reserved reservation balance)
        | .ok _ => .error (corruptLedger "a reservation did not take effect"))

def release (ledger : InMemoryRefundLedger) (now : String) (input : ReleasePaymentRefundInput) :
    InMemoryRefundLedger × Except RefundLedgerError ReleasePaymentRefundResult :=
  match requireRefundReleaseInput input >>= fun _ =>
      planPaymentRefundRelease P input
        (ofOperation ledger.entries input.organizationId input.refundOperationId) with
  | .error e => (ledger, .error e)
  | .ok (.answer result) => (ledger, .ok result)
  | .ok (.append content) =>
      let after := ledger.append P now (.release content)
      (after, match paymentRefundReservations P
            (ofOperation after.entries input.organizationId input.refundOperationId) with
        | .error e => .error e
        | .ok [] => .error (corruptLedger "a release did not take effect")
        | .ok (reservation :: _) => .ok (.released reservation))

def readOperation (ledger : InMemoryRefundLedger) (organizationId refundOperationId : String) :
    Except RefundLedgerError (Option PaymentRefundReservation) := do
  let reservations ← paymentRefundReservations P
    (ofOperation ledger.entries organizationId refundOperationId)
  return reservations.head?

end InMemoryRefundLedger

end Frontera.Payment
