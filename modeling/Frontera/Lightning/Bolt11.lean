import Frontera.Data.Throwing
import Frontera.Lightning.Amount
import Frontera.Lightning.Bech32

/-! Everything the decoder does but the signature check: the currency and the amount, the timestamp,
the loop over the tagged fields, and the message that the signature is over. -/

namespace Frontera.Lightning

open Frontera.Data

inductive LightningNetwork where
  | mainnet | testnet | signet | regtest

inductive Bolt11Refusal where
  | oversized | encodingInvalid | networkUnknown | amountInvalid | structureInvalid
  | fieldLengthInvalid | fieldDuplicated | fieldNonMinimal | paymentHashMissing
  | paymentSecretMissing | descriptionInvalid | featureUnsupported | featureDependencyMissing
  | routeHintInvalid
deriving DecidableEq

def bolt11DefaultExpirySeconds : Nat := 3600
def bolt11DefaultMinFinalCltvExpiryDelta : Nat := 18
def bolt11SupportedRequiredFeatures : List Nat := [8, 14, 16, 48]

/-- `payment_secret` needs `var_onion_optin`, and `basic_mpp` needs `payment_secret`. -/
def bolt11FeatureDependencies : List (Nat × List Nat) := [(14, [8]), (16, [14])]

def maximumRouteHintFields : Nat := 8
def maximumFallbackFields : Nat := 4
def maximumUnknownFields : Nat := 8
def routeHintHopBytes : Nat := 51
def timestampWords : Nat := 7
def signatureWords : Nat := 104

structure Bolt11Invoice where
  canonical : List Char
  network : LightningNetwork
  amountMsat : Option Nat
  (timestamp expirySeconds : Nat)
  paymentHash : String
  descriptionHash : Option String
  minFinalCltvExpiryDelta : Nat
  requiredFeatures : List Nat
  (routeHintCount fallbackCount : Nat)

/-- What is read before the signature is checked. -/
structure Parsed where
  invoice : Bolt11Invoice
  (message signature : List UInt8)
  explicitPayee : Option (List UInt8)

/-- A value that is there, or a refusal. -/
def orRefuse {α : Type} (value : Option α) (refusal : Bolt11Refusal) : Except Bolt11Refusal α :=
  match value with
  | none => .error refusal
  | some value => .ok value

theorem orRefuse_eq_ok {α : Type} {value : Option α} {refusal : Bolt11Refusal} {a : α} :
    orRefuse value refusal = .ok a ↔ value = some a := by
  cases value with
  | none => simp [orRefuse]
  | some value => simp [orRefuse]

/-- The currency of each network as BOLT11 spells it behind `ln`, the longest first. -/
def currencies : List (LightningNetwork × List Char) :=
  [(.regtest, ['b', 'c', 'r', 't']), (.mainnet, ['b', 'c']), (.signet, ['t', 'b', 's']),
    (.testnet, ['t', 'b'])]

/-- `[0-9a-z]` -/
def isAmountChar (c : Char) : Bool := c.isDigit || isLower c

/-- What stands behind a beginning. -/
def behind : List Char → List Char → Option (List Char)
  | [], text => some text
  | _ :: _, [] => none
  | b :: beginning, c :: text => if b = c then behind beginning text else none

/-- The groups of `/^ln(bcrt|bc|tbs|tb)([0-9a-z]*)$/`. -/
def matchCurrency (hrp : List Char) : Option (LightningNetwork × List Char) :=
  currencies.findSome? fun currency =>
    match behind (['l', 'n'] ++ currency.2) hrp with
    | none => none
    | some amount => if amount.all isAmountChar then some (currency.1, amount) else none

def readPrefix (hrp : List Char) : Except Bolt11Refusal (LightningNetwork × Option Nat) := do
  let (network, amount) ← orRefuse (matchCurrency hrp) .networkUnknown
  if amount = [] then return (network, none)
  let amountMsat ← orRefuse (msatOfBolt11Amount amount) .amountInvalid
  return (network, some amountMsat)

/-- The bits set in one word. -/
def wordBits (word : Nat) : List Nat :=
  (List.range 5).filter fun bit => decide ((word >>> bit) &&& 1 = 1)

/-- The feature bits set, the least significant one first. -/
def featureBits (words : List Nat) : List Nat :=
  words.reverse.zipIdx.flatMap fun entry => (wordBits entry.1).map fun bit => entry.2 * 5 + bit

def featurePresent (bits : List Nat) (pair : Nat) : Bool :=
  bits.contains pair || bits.contains (pair + 1)

def featureDependenciesSet (bits : List Nat) : Bool :=
  bolt11FeatureDependencies.all fun entry =>
    !featurePresent bits entry.1 || entry.2.all (featurePresent bits)

inductive Tag where
  | p | r | nine | x | f | d | s | n | h | c | m
deriving DecidableEq

def Tag.number : Tag → Nat
  | .p => 1
  | .r => 3
  | .nine => 5
  | .x => 6
  | .f => 9
  | .d => 13
  | .s => 16
  | .n => 19
  | .h => 23
  | .c => 24
  | .m => 27

def Tag.all : List Tag := [.p, .r, .nine, .x, .f, .d, .s, .n, .h, .c, .m]

def tagOf (number : Nat) : Option Tag := Tag.all.find? fun tag => tag.number == number

def singleTags : List Tag := [.p, .s, .d, .h, .n, .x, .c, .nine, .m]

def fixedLength : Tag → Option Nat
  | .p | .s | .h => some 52
  | .n => some 53
  | _ => none

/-- The variables of the loop. -/
structure FieldState where
  seen : List Tag
  (paymentHash descriptionHash : Option String)
  paymentSecret : Bool
  description : Nat
  explicitPayee : Option (List UInt8)
  (expirySeconds minFinalCltvExpiryDelta : Nat)
  requiredFeatures : List Nat
  (routeHintCount routeHintFields fallbackCount unknownFields : Nat)
deriving DecidableEq

def FieldState.start : FieldState where
  seen := []
  paymentHash := none
  descriptionHash := none
  paymentSecret := false
  description := 0
  explicitPayee := none
  expirySeconds := bolt11DefaultExpirySeconds
  minFinalCltvExpiryDelta := bolt11DefaultMinFinalCltvExpiryDelta
  requiredFeatures := []
  routeHintCount := 0
  routeHintFields := 0
  fallbackCount := 0
  unknownFields := 0

def hex (bytes : List UInt8) : String :=
  String.ofList (bytes.flatMap fun byte =>
    [Nat.digitChar (byte.toNat / 16), Nat.digitChar (byte.toNat % 16)])

/-- Whether fatal UTF-8 decoding reads the bytes. -/
def isUtf8 (bytes : List UInt8) : Bool := ByteArray.validateUTF8 ⟨bytes.toArray⟩

/-- Whether the byte at an offset begins a compressed node key. -/
def keyAt (bytes : List UInt8) (offset : Nat) : Bool :=
  bytes[offset]? == some 2 || bytes[offset]? == some 3

/-- The thirty-two bytes of a hash or a secret. -/
def readHash (field : List Nat) : Except Bolt11Refusal (List UInt8) := do
  let bytes ← orRefuse (wordsToBytes field .allowed) .fieldLengthInvalid
  if bytes.length ≠ 32 then .error .fieldLengthInvalid else return bytes

def readNumber (field : List Nat) : Except Bolt11Refusal Nat :=
  if field = [] ∨ field.head? = some 0 then .error .fieldNonMinimal
  else orRefuse (wordsToSafeInteger field) .structureInvalid

def readPayee (field : List Nat) : Except Bolt11Refusal (List UInt8) := do
  let bytes ← orRefuse (wordsToBytes field .allowed) .fieldLengthInvalid
  if bytes.length ≠ 33 ∨ keyAt bytes 0 = false then .error .fieldLengthInvalid else return bytes

def readDescription (field : List Nat) : Except Bolt11Refusal Unit := do
  let bytes ← orRefuse (wordsToBytes field .allowed) .descriptionInvalid
  if isUtf8 bytes = false then .error .descriptionInvalid else return ()

/-- The required features of a `9` field. -/
def readFeatures (field : List Nat) : Except Bolt11Refusal (List Nat) :=
  if field = [] ∨ field.head? = some 0 then .error .fieldNonMinimal
  else
    let bits := featureBits field
    let required := bits.filter fun bit => bit % 2 == 0
    if required.any fun bit => !bolt11SupportedRequiredFeatures.contains bit then
      .error .featureUnsupported
    else if featureDependenciesSet bits = false then .error .featureDependencyMissing
    else .ok (required.mergeSort fun left right => decide (left ≤ right))

/-- How many hops a route hint has. -/
def readHops (field : List Nat) : Except Bolt11Refusal Nat := do
  let bytes ← orRefuse (wordsToBytes field .allowed) .routeHintInvalid
  if bytes.length = 0 ∨ bytes.length % routeHintHopBytes ≠ 0 then .error .routeHintInvalid
  else
    let hops := bytes.length / routeHintHopBytes
    if (List.range hops).all (fun hop => keyAt bytes (hop * routeHintHopBytes)) = false then
      .error .routeHintInvalid
    else return hops

/-- A single-occurrence tag seen for the first time. -/
def noteTag (state : FieldState) (tag : Tag) : Except Bolt11Refusal FieldState :=
  if tag ∈ singleTags then
    if tag ∈ state.seen then .error .fieldDuplicated
    else .ok { state with seen := state.seen ++ [tag] }
  else .ok state

def readTagged (state : FieldState) (field : List Nat) : Tag → Except Bolt11Refusal FieldState
  | .p => do
      let bytes ← readHash field
      return { state with paymentHash := some (hex bytes) }
  | .s => do
      let _ ← readHash field
      return { state with paymentSecret := true }
  | .d => do
      readDescription field
      return { state with description := state.description + 1 }
  | .h => do
      let bytes ← readHash field
      return { state with
        descriptionHash := some (hex bytes)
        description := state.description + 1 }
  | .n => do
      let bytes ← readPayee field
      return { state with explicitPayee := some bytes }
  | .x => do
      let value ← readNumber field
      return { state with expirySeconds := value }
  | .c => do
      let value ← readNumber field
      return { state with minFinalCltvExpiryDelta := value }
  | .nine => do
      let required ← readFeatures field
      return { state with requiredFeatures := required }
  | .r =>
      if maximumRouteHintFields < state.routeHintFields + 1 then .error .routeHintInvalid
      else do
        let hops ← readHops field
        return { state with
          routeHintFields := state.routeHintFields + 1
          routeHintCount := state.routeHintCount + hops }
  | .f =>
      if maximumFallbackFields < state.fallbackCount + 1 ∨ field = [] then
        .error .structureInvalid
      else .ok { state with fallbackCount := state.fallbackCount + 1 }
  | .m => if field = [] then .error .structureInvalid else .ok state

/-- One pass of the loop. -/
def readField (state : FieldState) (number : Nat) (field : List Nat) : Except Bolt11Refusal FieldState :=
  match tagOf number with
  | none =>
      if maximumUnknownFields < state.unknownFields + 1 then .error .structureInvalid
      else .ok { state with unknownFields := state.unknownFields + 1 }
  | some tag => do
      let noted ← noteTag state tag
      if (fixedLength tag).any (· ≠ field.length) then .error .fieldLengthInvalid
      else readTagged noted field tag

/-- The loop over what is left of the data; each pass takes three words or more. -/
def readFields : Nat → List Nat → FieldState → Except Bolt11Refusal FieldState
  | _, [], state => .ok state
  | fuel + 1, number :: high :: low :: rest, state =>
      let length := high * 32 + low
      if rest.length < length then .error .structureInvalid
      else do
        let next ← readField state number (rest.take length)
        readFields fuel (rest.drop length) next
  | _, _, _ => .error .structureInvalid

/-- The invoice of a loop that ended with all that must be there. -/
def finish (decoded : Bech32Decoding) (network : LightningNetwork) (amountMsat : Option Nat)
    (timestamp : Nat) (dataWords : List Nat) (signature : List UInt8) (state : FieldState) :
    Except Bolt11Refusal Parsed := do
  let paymentHash ← orRefuse state.paymentHash .paymentHashMissing
  if state.paymentSecret = false then .error .paymentSecretMissing
  else if state.description ≠ 1 then .error .descriptionInvalid
  else
    return {
      invoice := {
        canonical := decoded.canonical
        network
        amountMsat
        timestamp
        expirySeconds := state.expirySeconds
        paymentHash
        descriptionHash := state.descriptionHash
        minFinalCltvExpiryDelta := state.minFinalCltvExpiryDelta
        requiredFeatures := state.requiredFeatures
        routeHintCount := state.routeHintCount
        fallbackCount := state.fallbackCount }
      message := decoded.hrp.map (fun c => UInt8.ofNat c.toNat) ++ wordsToPaddedBytes dataWords
      signature
      explicitPayee := state.explicitPayee }

def parse (text : String) (maximumLength : Nat) : Except Bolt11Refusal Parsed :=
  if maximumLength < (codeUnits text).length then .error .oversized
  else do
    let decoded ← orRefuse (decodeBech32 text maximumLength) .encodingInvalid
    let (network, amountMsat) ← readPrefix decoded.hrp
    let words := decoded.words
    if words.length < timestampWords + signatureWords then .error .structureInvalid
    else
      let dataWords := words.take (words.length - signatureWords)
      let signature ← orRefuse (wordsToBytes (words.drop (words.length - signatureWords)) .allowed)
        .structureInvalid
      if signature.length ≠ 65 then .error .structureInvalid
      else
        let timestamp ← orRefuse (wordsToSafeInteger (dataWords.take timestampWords))
          .structureInvalid
        let state ← readFields dataWords.length (dataWords.drop timestampWords) FieldState.start
        finish decoded network amountMsat timestamp dataWords signature state

end Frontera.Lightning
