import Frontera.Payment.Intent

/-! The payment a granted execution becomes on the ledger: the configured asset and source accounts,
the destination a counterparty names, the amounts the ledger holds exactly, and the grammar of the
ledger's identifiers. The SDK of the ledger is a parameter. -/

namespace Frontera.Xrpl

open Frontera.Monetary Frontera.Payment Frontera.Text

structure IssuedAmount where
  (currency issuer value : String)
deriving DecidableEq

/-- A payment before the rail adds `LastLedgerSequence`, `Sequence` and `Fee`. The
constants `TransactionType` and `Flags` are left out. -/
structure XrplPaymentTransaction where
  (account destination : String)
  destinationTag : Option Nat
  amount : IssuedAmount
deriving DecidableEq

structure XrplPreparedPayment extends XrplPaymentTransaction where
  (lastLedgerSequence sequence : Int)
  fee : String
deriving DecidableEq

/-- What the rail uses of the ledger's SDK. -/
structure XrplSdk where
  isValidClassicAddress : String → Bool
  /-- The payment a blob signs: it decodes, holds the payment's fields, a signing key and a
  signature and nothing else, and its signing encoding is the payment's. -/
  decodeSigned : String → Option XrplPreparedPayment
  /-- `xrplSignedBlobHash` -/
  blobHash : String → String
  /-- The blob's signing key is the pinned one and its signature verifies under it. -/
  signedByPinnedKey : String → String → Bool

def isUppercaseHex (c : Char) : Bool := isAsciiDigit c || ('A' ≤ c && c ≤ 'F')

/-- `TRANSACTION_HASH` -/
def isXrplTransactionHash (value : String) : Bool :=
  decide (value.toList.length = 64) && value.toList.all isUppercaseHex

/-- The base58 alphabet of the ledger. -/
def isAddressChar (c : Char) : Bool :=
  isAsciiAlphanumeric c && !(['0', 'O', 'I', 'l'].contains c)

/-- `CLASSIC_ADDRESS_SHAPE` -/
def hasClassicAddressShape (value : String) : Bool :=
  match value.toList with
  | [] => false
  | first :: rest =>
      first == 'r' && decide (24 ≤ rest.length ∧ rest.length ≤ 34) && rest.all isAddressChar

def isXrplClassicAddress (sdk : XrplSdk) (value : String) : Bool :=
  hasClassicAddressShape value && sdk.isValidClassicAddress value

/-- `ENGINE_RESULT` -/
def isXrplEngineResult (value : String) : Bool :=
  ["tes", "tec", "tef", "tel", "tem", "ter"].any (fun family => value.toList.take 3 == family.toList) &&
    decide (1 ≤ (value.toList.drop 3).length ∧ (value.toList.drop 3).length ≤ 48) &&
    (value.toList.drop 3).all fun c => ('A' ≤ c && c ≤ 'Z') || c == '_'

/-- `value.startsWith(family)` -/
def startsWith (value family : String) : Bool := family.toList.isPrefixOf value.toList

def withoutLeadingZeros (digits : List Char) : List Char := digits.dropWhile (· == '0')

def withoutTrailingZeros (digits : List Char) : List Char :=
  (digits.reverse.dropWhile (· == '0')).reverse

/-- The text itself, when the ledger holds the quantity exactly: fifteen significant digits
and a bounded exponent. -/
def xrplIssuedValueOf (decimal : String) : Option String :=
  if !matchesCanonicalDecimal decimal then none
  else
    let parts := splitPoint decimal.toList
    let fraction := parts.2.getD []
    let digits := withoutLeadingZeros (parts.1 ++ fraction)
    let significant := withoutTrailingZeros digits
    let trailingZeros : Int := digits.length - significant.length
    let exponent : Int := trailingZeros - fraction.length - (16 - significant.length)
    if digits = [] then none
    else if 15 < significant.length then none
    else if exponent < -96 ∨ 80 < exponent then none
    else some decimal

/-- The parts of a ledger's text of an issued value. -/
structure LedgerValue where
  (integer fraction : List Char)
  exponent : Int

def readDigitsValue (digits : List Char) : Int := Nat.ofDigitChars 10 digits 0

/-- `(?:[eE]([+-]?[0-9]{1,3}))?$` -/
def readExponent : List Char → Option Int
  | [] => some 0
  | mark :: rest =>
      let digits := match rest with
        | '-' :: digits => digits
        | '+' :: digits => digits
        | digits => digits
      if (mark == 'e' || mark == 'E') && decide (1 ≤ digits.length ∧ digits.length ≤ 3) &&
          digits.all isAsciiDigit then
        some (if rest.head? = some '-' then -readDigitsValue digits else readDigitsValue digits)
      else none

/-- `LEDGER_VALUE`, without its sign: a signed value is answered `undefined` like text that
does not match. -/
def readLedgerValue (text : List Char) : Option LedgerValue :=
  let integer := text.takeWhile isAsciiDigit
  let rest := text.dropWhile isAsciiDigit
  if integer = [] then none
  else
    match rest with
    | '.' :: rest =>
        let fraction := rest.takeWhile isAsciiDigit
        if fraction = [] then none
        else (readExponent (rest.dropWhile isAsciiDigit)).map fun e => ⟨integer,fraction,e⟩
    | rest => (readExponent rest).map fun e => ⟨integer,[],e⟩

/-- Leading zeros go, up to a last digit: `replace(/^0+(?=[0-9])/, '')`. -/
def withoutRedundantZeros (digits : List Char) : List Char :=
  if withoutLeadingZeros digits = [] then digits.drop (digits.length - 1)
  else withoutLeadingZeros digits

/-- A ledger's issued value as canonical decimal text. -/
def canonicalDecimalOfLedgerValue (value : String) : Option String :=
  if 64 < (codeUnits value).length then none
  else
    (readLedgerValue value.toList).map fun parsed =>
      let shift : Int := parsed.exponent - parsed.fraction.length
      let digits := withoutLeadingZeros (parsed.integer ++ parsed.fraction)
      if digits = [] then "0"
      else if 0 ≤ shift then String.ofList (digits ++ List.replicate shift.toNat '0')
      else
        let places := (-shift).toNat
        let padded := List.replicate (places + 1 - digits.length) '0' ++ digits
        let whole := withoutRedundantZeros (padded.take (padded.length - places))
        let part := withoutTrailingZeros (padded.drop (padded.length - places))
        String.ofList (if part = [] then whole else whole ++ '.' :: part)

structure XrplAsset where
  (paymentAsset currency issuer : String)

structure XrplSourceAccount where
  (accountId address : String)

/-- The fields of the rail's configuration that its payments depend on. -/
structure XrplRlusdRailConfiguration where
  networkId : Int
  asset : XrplAsset
  sourceAccounts : List XrplSourceAccount
  lastLedgerOffset : Int
  maxFeeDrops : String

structure PaymentExecutionRequest where
  executionId : String
  source : PaymentSourceRef
  destination : PaymentDestination
  amount : MonetaryAmount

inductive XrplRailDetail where
  | assetNotConfigured | sourceNotMapped | destinationInvalid | destinationIsSource
  | destinationIsIssuer | amountNotRepresentable | networkUnavailable | networkMismatch
  | preparationFailed | preparationInvalid | feeCeilingExceeded | signingFailed | signatureMismatch
  | submissionNotAttempted | sequenceInFlight | railErrorBeforeSubmission | interlockUnavailable
  | restartQuarantine | signingKeyMismatch | transactionExpired | submissionOutcomeUnknown
  | submissionResponseUnreadable | finalityUnknown | deliveredAmountMismatch | resultUnrecognized
  | railErrorAfterSubmission | executionPreviouslySubmitted
deriving DecidableEq

structure XrplDestination where
  address : String
  tag : Option Nat

/-- `0|[1-9][0-9]{0,9}`, at most `4294967295`. -/
def destinationTagOf (text : List Char) : Option Nat :=
  if isCanonicalInteger text && decide (text.length ≤ 10) &&
      decide (Nat.ofDigitChars 10 text 0 ≤ 4294967295) then
    some (Nat.ofDigitChars 10 text 0)
  else none

/-- What stands before and after the one `:` of a reference. -/
def splitReference (reference : List Char) : Option (List Char × List Char) :=
  match reference.dropWhile (· != ':') with
  | [] => none
  | _ :: rest => if rest.contains ':' then none else some (reference.takeWhile (· != ':'), rest)

def parseXrplDestination (sdk : XrplSdk) (destination : PaymentDestination) : Option XrplDestination :=
  if destination.kind = "xrpl-account" then
    if isXrplClassicAddress sdk destination.reference then some ⟨destination.reference,none⟩
    else none
  else if destination.kind = "xrpl-tagged-account" then
    match splitReference destination.reference.toList with
    | none => none
    | some (address, tag) =>
        match destinationTagOf tag with
        | none => none
        | some tag =>
            if isXrplClassicAddress sdk (String.ofList address) then
              some ⟨String.ofList address,some tag⟩
            else none
  else none

def buildXrplPayment (sdk : XrplSdk) (configuration : XrplRlusdRailConfiguration)
    (request : PaymentExecutionRequest) : Except XrplRailDetail XrplPaymentTransaction :=
  if request.amount.unit ≠ configuration.asset.paymentAsset then .error .assetNotConfigured
  else
    match configuration.sourceAccounts.find? fun m => m.accountId = request.source.accountId with
    | none => .error .sourceNotMapped
    | some mapping =>
        match parseXrplDestination sdk request.destination with
        | none => .error .destinationInvalid
        | some destination =>
            if destination.address = mapping.address then .error .destinationIsSource
            else if destination.address = configuration.asset.issuer then .error .destinationIsIssuer
            else
              match xrplIssuedValueOf request.amount.value with
              | none => .error .amountNotRepresentable
              | some value => .ok
                  { account := mapping.address
                    destination := destination.address
                    destinationTag := destination.tag
                    amount := ⟨configuration.asset.currency,configuration.asset.issuer,value⟩ }

theorem xrplIssuedValueOf_eq {decimal value : String} (h : xrplIssuedValueOf decimal = some value) :
    value = decimal := by
  simp only [xrplIssuedValueOf] at h
  split_ifs at h
  exact (Option.some.inj h).symm

/-- The amount of a built payment is the granted value, in the configured currency and from
the configured issuer. -/
theorem buildXrplPayment_amount {sdk : XrplSdk} {configuration : XrplRlusdRailConfiguration}
    {request : PaymentExecutionRequest} {transaction : XrplPaymentTransaction}
    (h : buildXrplPayment sdk configuration request = .ok transaction) :
    transaction.amount =
      ⟨configuration.asset.currency,configuration.asset.issuer,request.amount.value⟩ := by
  unfold buildXrplPayment at h
  split at h
  · cases h
  · split at h
    · cases h
    · split at h
      · cases h
      · split_ifs at h
        split at h
        · cases h
        · rename_i value hvalue
          rw [← Except.ok.inj h,xrplIssuedValueOf_eq hvalue]

end Frontera.Xrpl
