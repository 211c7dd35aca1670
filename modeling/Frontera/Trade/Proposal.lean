import Mathlib.Data.List.Sort
import Frontera.Trade.OrderTerms

/-! `validateTradeProposal` of `trade-proposal.ts`: the closed record of a proposal, every violation
of it, the canonical proposal with the terms its amounts imply, and the digest of
`trade-canonical.ts`. -/

namespace Frontera.Trade

open Frontera.Data Frontera.Text
open Frontera.Grant (isGovernedParameterToken)
open Frontera.Monetary (RangeError)
open Frontera.Payment (isRecordableProviderRef)

inductive TradeNetwork where
  | xrpLedgerTestnet | xrpLedgerDevnet
deriving DecidableEq

def TradeNetwork.text : TradeNetwork → String
  | .xrpLedgerTestnet => "xrp-ledger-testnet"
  | .xrpLedgerDevnet => "xrp-ledger-devnet"

def parseTradeNetwork : RawValue → Option TradeNetwork
  | .str "xrp-ledger-testnet" => some .xrpLedgerTestnet
  | .str "xrp-ledger-devnet" => some .xrpLedgerDevnet
  | _ => none

def isTradeIdentifier : RawValue → Bool
  | .str value => isGovernedParameterToken value && isRecordableProviderRef value
  | _ => false

def isTradeReference (raw : RawValue) : Bool := isTradeIdentifier raw

/-- `SECRET_PROPERTY`, at any place and in any case. -/
def secretProperty : List Pattern :=
  [.literalFold "secret", .literalFold "password", .literalFold "passphrase",
    .concat [.literalFold "private", .option (.literal "_"), .literalFold "key"],
    .concat [.literalFold "signing", .option (.literal "_"), .literalFold "key"],
    .literalFold "mnemonic", .literalFold "seed", .literalFold "credential", .literalFold "bearer",
    .concat [.literalFold "api", .option (.literal "_"), .literalFold "key"]]

def isSecretShapedPropertyName (name : String) : Bool :=
  secretProperty.any fun pattern => pattern.anywhere.matchesText name

def tradeProposalSchema : String := "frontera.trade-proposal.v1"

def tradeRequiredPermission : String := "OfferCreate"

def tradeMaximumValiditySeconds : Int := 3600

def tradeMaximumExpiration : Int := 4294967295

def tradeProposalMaximumProperties : Nat := 32

inductive TradeOfferFlag where
  | passive | immediateOrCancel | fillOrKill | sell
deriving DecidableEq

def TradeOfferFlag.text : TradeOfferFlag → String
  | .passive => "passive"
  | .immediateOrCancel => "immediate-or-cancel"
  | .fillOrKill => "fill-or-kill"
  | .sell => "sell"

/-- The bit of the ledger, in `TRADE_OFFER_FLAGS`. -/
def TradeOfferFlag.bit : TradeOfferFlag → Nat
  | .passive => 0x00010000
  | .immediateOrCancel => 0x00020000
  | .fillOrKill => 0x00040000
  | .sell => 0x00080000

structure TradeProposal where
  (organizationId principalId requestId idempotencyKey : String)
  network : TradeNetwork
  (ownerAccount delegateAccount : String)
  (takerGets takerPays : TradeAmount)
  flags : List TradeOfferFlag
  expiration : Option Int
  requestedValiditySeconds : Int
  (referenceContextId policyContextRef : Option String)

structure TradeOrderTerms extends OrderLegs where
  flagsValue : Nat

structure AcceptedTradeProposal where
  proposal : TradeProposal
  terms : TradeOrderTerms
  digest : String

inductive TradeProposalViolationCode where
  | amount (violation : TradeAmountViolation)
  | notAnObject | tooManyProperties | symbolProperty | dangerousProperty | accessorProperty
  | undeclaredProperty | executionFieldRefused | trustedFactClaimRefused | secretPropertyRefused
  | missingField | schemaUnsupported | identifierMalformed | networkUnsupported | accountMalformed
  | accountReserved | ownerIsDelegate | permissionUnsupported | xrpForXrp | sameAsset
  | pairAssertionMalformed | pairContradictsAmounts | sideMalformed | sideContradictsAmounts
  | priceMalformed | priceContradictsAmounts | flagsMalformed | flagUnsupported | flagDuplicated
  | flagsConflict | expirationMalformed | validityOutOfRange | referenceMalformed

structure TradeProposalViolation where
  code : TradeProposalViolationCode
  field : String

def requiredFields : List String :=
  ["schema", "organizationId", "principalId", "requestId", "idempotencyKey", "network",
    "ownerAccount", "delegateAccount", "permission", "takerGets", "takerPays",
    "requestedValiditySeconds"]

/-- The fields that only assert what the amounts imply. -/
def assertionFields : List String := ["pair", "side", "limitPrice"]

def optionalFields : List String :=
  assertionFields ++ ["flags", "expiration", "referenceContextId", "policyContextRef"]

def isDeclared (name : String) : Bool := name ∈ requiredFields || name ∈ optionalFields

/-- `EXECUTION_FIELDS`, in lower case as the set holds them. -/
def executionFields : List String :=
  ["transactiontype", "account", "delegate", "fee", "sequence", "ticketsequence",
    "lastledgersequence", "signingpubkey", "txnsignature", "signers", "memos", "flags",
    "offersequence", "domainid", "networkid", "sourcetag", "accounttxnid", "expiration",
    "takergets", "takerpays", "tx_json", "tx_blob", "txjson", "txblob", "transaction",
    "rawtransaction", "signedtransaction", "signature", "hash"]

/-- `toLowerCase`, as far as its result is ASCII: the Kelvin sign is the one other character that
becomes an ASCII one. -/
def lowerCase (name : String) : List Char :=
  name.toList.map fun c => if c.toNat = 0x212A then 'k' else c.toLower

/-- `TRUSTED_FACT_CLAIM` -/
def trustedFactClaim : List String :=
  ["price", "exposure", "activeorders", "openorders", "delegation", "verified", "attest", "oracle",
    "approved", "approval", "decision", "grant", "trusted", "riskscore", "balance", "reserve",
    "ceiling", "limit"]

def classifyUndeclared (name : String) : TradeProposalViolationCode :=
  if isSecretShapedPropertyName name then .secretPropertyRefused
  else if lowerCase name ∈ executionFields.map String.toList then .executionFieldRefused
  else if trustedFactClaim.any fun word => (Pattern.literalFold word).anywhere.matchesText name then
    .trustedFactClaimRefused
  else .undeclaredProperty

def snapshotRefusal : TradeRecordRefusal → TradeProposalViolation
  | .notAnObject => ⟨.notAnObject,"<proposal>"⟩
  | .tooManyProperties => ⟨.tooManyProperties,"<proposal>"⟩
  | .symbolProperty => ⟨.symbolProperty,"<proposal>"⟩
  | .dangerousProperty property => ⟨.dangerousProperty,reportablePropertyName property⟩
  | .accessorProperty property => ⟨.accessorProperty,reportablePropertyName property⟩

/-- `entries.get(key)`, which is undefined where there is no such entry. -/
def RecordEntries.value (entries : RecordEntries) (key : String) : RawValue :=
  (entries.get key).getD .undefined

/-- The cast of a value that is text. -/
def RawValue.asText : RawValue → String
  | .str value => value
  | _ => ""

/-- The cast of a value that is an integer. -/
def RawValue.asInteger : RawValue → Int
  | .number value => value
  | _ => 0

def RawValue.isText (text : String) : RawValue → Bool
  | .str value => value == text
  | _ => false

def RawValue.isUndefined : RawValue → Bool
  | .undefined => true
  | _ => false

/-- `===`, but for objects, which are identical only to themselves. -/
def RawValue.strictEquals : RawValue → RawValue → Bool
  | .undefined, .undefined => true
  | .null, .null => true
  | .bool left, .bool right => left == right
  | .number left, .number right => left == right
  | .str left, .str right => left == right
  | _, _ => false

def isSafeIntegerIn (minimum maximum : Int) : RawValue → Bool
  | .number value => isSafeInteger value && decide (minimum ≤ value) && decide (value ≤ maximum)
  | _ => false

def parseTradeOfferFlag : RawValue → Option TradeOfferFlag
  | .str "passive" => some .passive
  | .str "immediate-or-cancel" => some .immediateOrCancel
  | .str "fill-or-kill" => some .fillOrKill
  | .str "sell" => some .sell
  | _ => none

/-- The loop over the elements, with the flags seen before this index. -/
def readFlags : Nat → List TradeOfferFlag → List (Option RawValue) →
    Except TradeProposalViolation (List TradeOfferFlag)
  | _, seen, [] => .ok seen
  | index, seen, element :: elements =>
      match element.bind parseTradeOfferFlag with
      | none => .error ⟨.flagUnsupported,"flags[" ++ toString index ++ "]"⟩
      | some flag =>
          if flag ∈ seen then .error ⟨.flagDuplicated,"flags[" ++ toString index ++ "]"⟩
          else readFlags (index + 1) (seen ++ [flag]) elements

def sortFlags (flags : List TradeOfferFlag) : List TradeOfferFlag :=
  flags.insertionSort fun left right => left.bit ≤ right.bit

def parseFlags : RawValue → Except TradeProposalViolation (List TradeOfferFlag)
  | .undefined => .ok []
  | .list elements others =>
      if elements.length > 4 || others then .error ⟨.flagsMalformed,"flags"⟩
      else do
        let seen ← readFlags 0 [] elements
        if .immediateOrCancel ∈ seen ∧ .fillOrKill ∈ seen then
          throw ⟨.flagsConflict,"flags"⟩
        return sortFlags seen
  | _ => .error ⟨.flagsMalformed,"flags"⟩

def flagsValue (flags : List TradeOfferFlag) : Nat :=
  flags.foldl (fun sum flag => sum + flag.bit) 0

def parseAssetAssertion (sha256 : List UInt8 → List UInt8) (raw : RawValue) : Option TradeAsset :=
  match snapshotTradeRecord raw 4 with
  | .error _ => none
  | .ok entries =>
      if (entries.value "currency").isText "XRP" then
        if entries.length = 1 then some .xrp else none
      else
        -- a nominal positive value makes the asset an amount to parse
        let amount := RawValue.record true
          [(.name "currency", some (entries.value "currency")),
            (.name "issuer", some (entries.value "issuer")), (.name "value", some (.str "1"))]
        match parseTradeAmount sha256 amount "pair" with
        | .error _ => none
        | .ok parsed => if entries.length ≠ 2 then none else some (tradeAssetOf parsed)

def parsePairAssertion (sha256 : List UInt8 → List UInt8) (raw : RawValue) : Option TradePair :=
  match snapshotTradeRecord raw 4 with
  | .error _ => none
  | .ok entries =>
      if entries.length ≠ 2 then none
      else do
        let base ← parseAssetAssertion sha256 (entries.value "base")
        let quote ← parseAssetAssertion sha256 (entries.value "quote")
        return ⟨base,quote⟩

def pairViolations (sha256 : List UInt8 → List UInt8) (legs : OrderLegs) (raw : RawValue) :
    List TradeProposalViolation :=
  if raw.isUndefined then []
  else
    match parsePairAssertion sha256 raw with
    | none => [⟨.pairAssertionMalformed,"pair"⟩]
    | some pair =>
        if !tradeAssetsEqual pair.base legs.base || !tradeAssetsEqual pair.quote legs.quote then
          [⟨.pairContradictsAmounts,"pair"⟩]
        else []

def TradeSide.text : TradeSide → String
  | .buy => "buy"
  | .sell => "sell"

def sideViolations (legs : OrderLegs) (raw : RawValue) : List TradeProposalViolation :=
  if raw.isUndefined then []
  else if !raw.isText "buy" && !raw.isText "sell" then [⟨.sideMalformed,"side"⟩]
  else if !raw.isText legs.side.text then [⟨.sideContradictsAmounts,"side"⟩]
  else []

def priceViolations (legs : OrderLegs) (raw : RawValue) : List TradeProposalViolation :=
  if raw.isUndefined then []
  else
    match parseTradePriceAssertion raw with
    | none => [⟨.priceMalformed,"limitPrice"⟩]
    | some price =>
        if compareTradePrices price legs.limitPrice ≠ .eq then
          [⟨.priceContradictsAmounts,"limitPrice"⟩]
        else []

def assertionViolations (sha256 : List UInt8 → List UInt8) (legs : OrderLegs)
    (entries : RecordEntries) : List TradeProposalViolation :=
  pairViolations sha256 legs (entries.value "pair") ++ sideViolations legs (entries.value "side") ++
    priceViolations legs (entries.value "limitPrice")

def TradeAmount.json : TradeAmount → Json String
  | .xrp drops => .obj [("currency", .str "XRP"), ("drops", .str drops)]
  | .issued currency issuer value =>
      .obj [("currency", .str currency), ("issuer", .str issuer), ("value", .str value)]

def optionalField (name : String) (value : Option (Json String)) : List (String × Json String) :=
  match value with
  | none => []
  | some value => [(name, value)]

def TradeProposal.fields (proposal : TradeProposal) : List (String × Json String) :=
  [("schema", .str tradeProposalSchema), ("organizationId", .str proposal.organizationId),
    ("principalId", .str proposal.principalId), ("requestId", .str proposal.requestId),
    ("idempotencyKey", .str proposal.idempotencyKey), ("network", .str proposal.network.text),
    ("ownerAccount", .str proposal.ownerAccount), ("delegateAccount", .str proposal.delegateAccount),
    ("permission", .str tradeRequiredPermission), ("takerGets", proposal.takerGets.json),
    ("takerPays", proposal.takerPays.json),
    ("flags", .arr (proposal.flags.map fun flag => .str flag.text))] ++
  optionalField "expiration" (proposal.expiration.map .num) ++
  [("requestedValiditySeconds", .num proposal.requestedValiditySeconds)] ++
  optionalField "referenceContextId" (proposal.referenceContextId.map .str) ++
  optionalField "policyContextRef" (proposal.policyContextRef.map .str)

def TradeProposal.json (proposal : TradeProposal) : Json String := .obj proposal.fields

mutual

/-- Plain data, as a value that is received. -/
def RawValue.ofJson : Json String → RawValue
  | .null => .null
  | .bool value => .bool value
  | .num value => .number value
  | .str value => .str value
  | .arr items => .list (ofItems items) false
  | .obj fields => .record true (ofFields fields)

def RawValue.ofItems : List (Json String) → List (Option RawValue)
  | [] => []
  | item :: items => some (ofJson item) :: ofItems items

def RawValue.ofFields : List (String × Json String) → List (PropertyKey × Option RawValue)
  | [] => []
  | (key, value) :: fields => (.name key, some (ofJson value)) :: ofFields fields

end

/-- Keys in code-unit order, no white space. -/
def canonicalTradeJson (value : Json String) : String :=
  Json.canonicalSerialize (fun a b => !stringLt b a) value

def serializeTradeProposal (proposal : TradeProposal) : String := canonicalTradeJson proposal.json

def tradeProposalDigestDomain : String := "frontera.trade-proposal-digest.v1"

def tradeProposalDigest (P : Platform) (proposal : TradeProposal) : String :=
  P.digestOf (tradeProposalDigestDomain ++ "\n" ++ serializeTradeProposal proposal)

/-- What a proposal is checked with: the digests of texts, and the hash of an address. -/
structure TradeHashes where
  platform : Platform
  sha256 : List UInt8 → List UInt8

def violationOf {α : Type} : Except TradeProposalViolation α → List TradeProposalViolation
  | .error violation => [violation]
  | .ok _ => []

def amountField (H : TradeHashes) (entries : RecordEntries) (field : String) :
    Except TradeProposalViolation TradeAmount :=
  match parseTradeAmount H.sha256 (entries.value field) field with
  | .error refusal => .error ⟨.amount refusal.violation,refusal.field⟩
  | .ok amount => .ok amount

def check (accepted : Bool) (code : TradeProposalViolationCode) (field : String) :
    List TradeProposalViolation :=
  if accepted then [] else [⟨code,field⟩]

def accountViolations (H : TradeHashes) (entries : RecordEntries) (field : String) :
    List TradeProposalViolation :=
  match checkAccount H.sha256 (entries.value field) with
  | .valid => []
  | .reserved => [⟨.accountReserved,field⟩]
  | .malformed => [⟨.accountMalformed,field⟩]

def referenceViolations (entries : RecordEntries) (field : String) : List TradeProposalViolation :=
  check ((entries.value field).isUndefined || isTradeReference (entries.value field))
    .referenceMalformed field

/-- Undeclared properties in the order of the record, then missing ones. -/
def propertyViolations (entries : RecordEntries) : List TradeProposalViolation :=
  (entries.filter fun entry => !isDeclared entry.1).map
      (fun entry => ⟨classifyUndeclared entry.1,reportablePropertyName entry.1⟩) ++
    (requiredFields.filter fun field => !entries.has field).map fun field => ⟨.missingField,field⟩

def identityFields : List String := ["organizationId", "principalId", "requestId", "idempotencyKey"]

def fieldViolations (H : TradeHashes) (entries : RecordEntries) : List TradeProposalViolation :=
  check ((entries.value "schema").isText tradeProposalSchema) .schemaUnsupported "schema" ++
  identityFields.flatMap (fun field =>
    check (isTradeIdentifier (entries.value field)) .identifierMalformed field) ++
  check (parseTradeNetwork (entries.value "network")).isSome .networkUnsupported "network" ++
  accountViolations H entries "ownerAccount" ++ accountViolations H entries "delegateAccount" ++
  check (!(entries.value "ownerAccount").strictEquals (entries.value "delegateAccount"))
    .ownerIsDelegate "delegateAccount" ++
  check ((entries.value "permission").isText tradeRequiredPermission) .permissionUnsupported
    "permission" ++
  violationOf (amountField H entries "takerGets") ++ violationOf (amountField H entries "takerPays") ++
  violationOf (parseFlags (entries.value "flags")) ++ check ((entries.value "expiration").isUndefined ||
    isSafeIntegerIn 1 tradeMaximumExpiration (entries.value "expiration"))
    .expirationMalformed "expiration" ++
  check (isSafeIntegerIn 1 tradeMaximumValiditySeconds (entries.value "requestedValiditySeconds"))
    .validityOutOfRange "requestedValiditySeconds" ++
  referenceViolations entries "referenceContextId" ++ referenceViolations entries "policyContextRef"

/-- Two different assets, at most one of them XRP. -/
def assetViolations (given received : TradeAsset) : List TradeProposalViolation :=
  if given = .xrp ∧ received = .xrp then [⟨.xrpForXrp,"takerPays"⟩]
  else if tradeAssetsEqual given received then [⟨.sameAsset,"takerPays"⟩]
  else []

/-- A value that is not undefined. -/
def RawValue.stated (raw : RawValue) : Option RawValue :=
  if raw.isUndefined then none else some raw

def proposalOf (entries : RecordEntries) (network : TradeNetwork) (gets pays : TradeAmount)
    (flags : List TradeOfferFlag) : TradeProposal where
  organizationId := (entries.value "organizationId").asText
  principalId := (entries.value "principalId").asText
  requestId := (entries.value "requestId").asText
  idempotencyKey := (entries.value "idempotencyKey").asText
  network := network
  ownerAccount := (entries.value "ownerAccount").asText
  delegateAccount := (entries.value "delegateAccount").asText
  takerGets := gets
  takerPays := pays
  flags := flags
  expiration := (entries.value "expiration").stated.map RawValue.asInteger
  requestedValiditySeconds := (entries.value "requestedValiditySeconds").asInteger
  referenceContextId := (entries.value "referenceContextId").stated.map RawValue.asText
  policyContextRef := (entries.value "policyContextRef").stated.map RawValue.asText

def acceptTradeProposal (P : Platform) (proposal : TradeProposal) (legs : OrderLegs) :
    AcceptedTradeProposal where
  proposal := proposal
  terms := { legs with flagsValue := flagsValue proposal.flags }
  digest := tradeProposalDigest P proposal

abbrev TradeProposalValidation := Except (List TradeProposalViolation) AcceptedTradeProposal

/-- The checks of a record whose properties are the declared ones. -/
def validateEntries (H : TradeHashes) (entries : RecordEntries) :
    Except RangeError TradeProposalValidation :=
  let violations := fieldViolations H entries
  match amountField H entries "takerGets", amountField H entries "takerPays" with
  | .ok gets, .ok pays =>
      let violations := violations ++ assetViolations (tradeAssetOf gets) (tradeAssetOf pays)
      match parseFlags (entries.value "flags"), parseTradeNetwork (entries.value "network") with
      | .ok flags, some network =>
          if violations ≠ [] then .ok (.error violations)
          else do
            let legs ← orderLegs gets pays
            let violations := assertionViolations H.sha256 legs entries
            if violations ≠ [] then return .error violations
            return .ok (acceptTradeProposal H.platform (proposalOf entries network gets pays flags)
              legs)
      -- a refused network or flag is already among the violations
      | _, _ => .ok (.error violations)
  | _, _ => .ok (.error violations)

def validateTradeProposal (H : TradeHashes) (raw : RawValue) : Except RangeError TradeProposalValidation :=
  match snapshotTradeRecord raw tradeProposalMaximumProperties with
  | .error refusal => .ok (.error [snapshotRefusal refusal])
  | .ok entries =>
      let violations := propertyViolations entries
      if violations ≠ [] then .ok (.error violations) else validateEntries H entries

end Frontera.Trade
