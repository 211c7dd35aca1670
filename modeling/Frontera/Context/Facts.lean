import Frontera.Platform
import Frontera.Data.Binary64
import Frontera.Text.JsonValue
import Frontera.Text.Pattern

/-! Trust classes, fact values, readings, and the sources and declarations a deployment configures.
-/

namespace Frontera.Context

open Frontera.Data Frontera.Text

inductive TerminalContextTrustClass where
  | asserted | authoritative | attested
deriving DecidableEq

/-- `TERMINAL_RANK` -/
def TerminalContextTrustClass.rank : TerminalContextTrustClass → Nat
  | .asserted => 0
  | .authoritative => 1
  | .attested => 2

inductive ContextTrustClass where
  | terminal (trustClass : TerminalContextTrustClass)
  | derived

def contextTrustClassSatisfies (effective minimum : TerminalContextTrustClass) : Bool :=
  decide (minimum.rank ≤ effective.rank)

def minimumContextTrustClass (classes : List TerminalContextTrustClass) : TerminalContextTrustClass :=
  if classes.isEmpty then .asserted
  else
    classes.foldl (fun lowest trustClass =>
      if trustClass.rank < lowest.rank then trustClass else lowest) .attested

/-- A finite double; its sign matters where it is zero. -/
structure Number where
  value : ℚ
  negative : Bool
  sign : value ≠ 0 → negative = decide (value < 0)
deriving DecidableEq

def Number.ofRat (value : ℚ) : Number := ⟨value,decide (value < 0),fun _ => rfl⟩

/-- A zero of the given sign, or this value. -/
def Number.signed (value : ℚ) (negative : Bool) : Number :=
  if h : value = 0 then ⟨value,negative,fun hne => absurd h hne⟩ else .ofRat value

/-- `Number.isSafeInteger(value) && !Object.is(value, -0)` -/
def Number.isPlainInteger (number : Number) : Bool :=
  decide (number.value.den = 1) && isSafeInteger number.value.num &&
    !(decide (number.value = 0) && number.negative)

inductive ContextFactValue where
  | text (value : String)
  | number (value : Number)
  | boolean (value : Bool)
deriving DecidableEq

def isAdmissibleContextFactValue : ContextFactValue → Bool
  | .boolean _ => true
  | .number value => value.isPlainInteger
  | .text value => value ≠ "" && decide ((codeUnits value).length ≤ 256)

/-- `typeof value` -/
def ContextFactValue.typeName : ContextFactValue → String
  | .text _ => "string"
  | .number _ => "number"
  | .boolean _ => "boolean"

/-- `String(value)`, of an admissible value. -/
def ContextFactValue.spelling : ContextFactValue → String
  | .text value => value
  | .number value => toString value.value.num
  | .boolean value => if value then "true" else "false"

/-- The last instant a `Date` holds, in milliseconds. -/
def maxTime : Int := 8640000000000000

/-- `toISOString`, and what `Date.parse` is promised to make of instants. -/
structure Dates (P : Platform) where
  toISOString : Int → String
  dateParse_toISOString : ∀ n, |n| ≤ maxTime → P.dateParse (toISOString n) = some n
  dateParse_range : ∀ text n, P.dateParse text = some n → |n| ≤ maxTime

/-- `maxAgeSeconds * 1000`; `none` is `Infinity`. -/
def milliseconds (maxAgeSeconds : ℚ) : Option ℚ :=
  if Binary64.overflows (maxAgeSeconds * 1000) then none
  else some (Binary64.round (maxAgeSeconds * 1000))

/-- An unreadable instant is not fresh; one exactly `maxAgeSeconds` old is not either. -/
def isFreshAt (P : Platform) (observedAt : String) (maxAgeSeconds : ℚ) (instant : String) : Bool :=
  match P.dateParse observedAt, P.dateParse instant with
  | some observed, some now =>
      (milliseconds maxAgeSeconds).all fun bound => Binary64.round (now - observed) < bound
  | _, _ => false

def isFutureDatedAt (P : Platform) (observedAt instant : String) (maxFutureSkewSeconds : Int) : Bool :=
  match P.dateParse observedAt, P.dateParse instant with
  | some observed, some now =>
      decide ((maxFutureSkewSeconds * 1000 : ℚ) < Binary64.round (observed - now))
  | _, _ => true

/-- `new Date(ms)`; `none` is an invalid date, on which `toISOString` throws. -/
def timeClip (ms : ℚ) : Option Int :=
  if |ms| ≤ maxTime then some (if 0 ≤ ms then ⌊ms⌋ else ⌈ms⌉) else none

/-- The instant `observedAt + maxAgeSeconds`. -/
def staleInstant (observed : Int) (maxAgeSeconds : ℚ) : Option Int := do
  let bound ← milliseconds maxAgeSeconds
  timeClip (Binary64.round (observed + bound))

/-- A reading as a resolver reports it. Its own freshness bound is finite here; the service
takes what is no finite number for `0`, as it takes what is not positive. -/
structure ContextFactObservation where
  key : String
  value : ContextFactValue
  (sourceId observedAt : String)
  maxAgeSeconds : Option ℚ := none
  attestationRef : Option String := none
  reference : Option String := none
  provenanceDigest : Option String := none
  organizationId : Option String := none

/-- The order in which `canonical` writes the keys of an object. -/
def keyLe (left right : String) : Bool := !stringLt right left

def textField (name : String) (value : Option String) : List (String × Json String) :=
  value.toList.map fun text => (name, .str text)

def numberField (name : String) (value : Option ℚ) : List (String × Json String) :=
  value.toList.map fun number => (name, .num number.num)

def ContextFactValue.json : ContextFactValue → Json String
  | .text value => .str value
  | .number value => .num value.value.num
  | .boolean value => .bool value

/-- `canonical` throws on a number that is no safe integer. -/
def isCanonicalNumber (value : ℚ) : Bool := decide (value.den = 1) && isSafeInteger value.num

def contextObservationProvenanceDigest (P : Platform) (observation : ContextFactObservation)
    (reference : String) : Option String :=
  if observation.maxAgeSeconds.all isCanonicalNumber then
    some (P.digestOf ("frontera:context-observation:v2\n" ++ Json.canonicalSerialize keyLe (.obj
      ([("key", .str observation.key), ("value", observation.value.json),
          ("sourceId", .str observation.sourceId), ("observedAt", .str observation.observedAt),
          ("reference", .str reference)] ++
        textField "organizationId" observation.organizationId ++
        numberField "maxAgeSeconds" observation.maxAgeSeconds ++
        textField "attestationRef" observation.attestationRef))))
  else none

def hasValidProvenance (P : Platform) (observation : ContextFactObservation) : Bool :=
  match observation.reference, observation.provenanceDigest with
  | some reference, some provenanceDigest =>
      reference ≠ "" && decide ((codeUnits reference).length ≤ 256) &&
        contextObservationProvenanceDigest P observation reference = some provenanceDigest
  | _, _ => false

inductive ContextSourceKind where
  | request | internalStore | erp | crm | externalApi | ledger | identityProvider | approvalSystem
  | riskEngine | signedAttestation
deriving DecidableEq

structure ContextSourceAttestation where
  factClass : String
  maxAgeSeconds : Option Int := none

inductive ContextSourceProvenanceRequirement where
  | none | referenceDigest
deriving DecidableEq

structure ContextSource where
  id : String
  kind : ContextSourceKind
  name : String
  trustClass : TerminalContextTrustClass
  attests : List ContextSourceAttestation
  organizationId : Option String := none
  provenance : Option ContextSourceProvenanceRequirement := none

def contextSourceAttestationFor (source : ContextSource) (factClass : String) :
    Option ContextSourceAttestation :=
  source.attests.find? fun attestation => attestation.factClass == factClass

def contextDerivedSourceId : String := "aoc.context.derived"

def contextDerivedSource : ContextSource where
  id := contextDerivedSourceId
  kind := .internalStore
  name := "Frontera derived context"
  trustClass := .authoritative
  attests := []

def isContextFactClass (value : String) : Bool :=
  value ≠ "" && decide ((codeUnits value).length ≤ 96) && identifierPattern.matchesText value

/-- No `validateContextSource` violation, and not the reserved id. -/
def isValidContextSource (source : ContextSource) : Bool :=
  trim source.id ≠ "" && trim source.name ≠ "" && source.id ≠ contextDerivedSourceId &&
    (source.kind ≠ .request || source.trustClass = .asserted) &&
    (source.trustClass ≠ .attested || source.kind = .signedAttestation) &&
    !source.attests.isEmpty &&
    source.attests.all (fun attestation => isContextFactClass attestation.factClass &&
      attestation.maxAgeSeconds.all fun bound => decide (1 ≤ bound ∧ bound ≤ 604800)) &&
    decide ((source.attests.map fun attestation =>
      lowerCaseIdentifier attestation.factClass).Nodup) &&
    source.organizationId.all fun organizationId => trim organizationId ≠ ""

inductive ContextAssertedFactPolicy where
  | permit | report | requireDeclaration
deriving DecidableEq

structure ContextRequirement where
  key : String
  minimumTrustClass : TerminalContextTrustClass
  maxAgeSeconds : Option ℚ := none
  required : Bool
  restrictive : Bool := false
deriving DecidableEq

inductive ContextDerivationOperator where
  | sum | difference | product | quotient | min | max | count
deriving DecidableEq

structure ContextDerivation where
  key : String
  operator : ContextDerivationOperator
  operandKeys : List String

structure ContextDeclaration where
  requirements : List ContextRequirement
  derivations : List ContextDerivation := []
  assertedFactPolicy : ContextAssertedFactPolicy := .permit
  assertableKeys : List String := []
  maxFutureSkewSeconds : Int := 0

def isValidContextRequirement (requirement : ContextRequirement) : Bool :=
  trim requirement.key ≠ "" && requirement.maxAgeSeconds.all (fun bound => decide (0 < bound)) &&
    !(requirement.restrictive && requirement.required)

def isValidContextDerivation (derivation : ContextDerivation) : Bool :=
  trim derivation.key ≠ "" && !derivation.operandKeys.isEmpty &&
    !derivation.operandKeys.contains derivation.key &&
    (!([ContextDerivationOperator.difference, .quotient].contains derivation.operator) ||
      derivation.operandKeys.length = 2)

/-- No `validateContextDeclaration` violation. -/
def isValidContextDeclaration (declaration : ContextDeclaration) : Bool :=
  let keys := declaration.requirements.map (·.key)
  declaration.requirements.all isValidContextRequirement && decide keys.Nodup &&
    declaration.derivations.all isValidContextDerivation &&
    decide ((declaration.derivations.map (·.key)).Nodup) &&
    declaration.derivations.all (fun derivation => derivation.operandKeys.all keys.contains) &&
    declaration.assertableKeys.all keys.contains &&
    decide (0 ≤ declaration.maxFutureSkewSeconds ∧ declaration.maxFutureSkewSeconds ≤ 300)

def Number.add (left right : Number) : Option Number :=
  if Binary64.overflows (left.value + right.value) then none
  else some (.signed (Binary64.round (left.value + right.value)) (left.negative && right.negative))

def Number.sub (left right : Number) : Option Number :=
  if Binary64.overflows (left.value - right.value) then none
  else some (.signed (Binary64.round (left.value - right.value)) (left.negative && !right.negative))

def Number.mul (left right : Number) : Option Number :=
  if Binary64.overflows (left.value * right.value) then none
  else
    some (.signed (Binary64.round (left.value * right.value)) (left.negative != right.negative))

def Number.div (left right : Number) : Option Number :=
  if Binary64.overflows (left.value / right.value) then none
  else
    some (.signed (Binary64.round (left.value / right.value)) (left.negative != right.negative))

def ContextFactValue.toNumber : ContextFactValue → Option Number
  | .number value => some value
  | _ => none

/-- `none`: a type mismatch, a wrong number of operands, a division by zero or an infinite
result, after which no operator is finite again. -/
def evaluateContextDerivation (operator : ContextDerivationOperator)
    (operands : List ContextFactValue) : Option Number :=
  if operator = .count then some (.ofRat operands.length)
  else do
    let numbers ← operands.mapM ContextFactValue.toNumber
    match operator, numbers with
    | .sum, first :: rest => (first :: rest).foldlM Number.add (.ofRat 0)
    | .product, first :: rest => (first :: rest).foldlM Number.mul (.ofRat 1)
    | .min, first :: rest =>
        some (rest.foldl (fun lowest value => if value.value < lowest.value then value else lowest)
          first)
    | .max, first :: rest =>
        some (rest.foldl (fun highest value =>
          if highest.value < value.value then value else highest) first)
    | .difference, [left, right] => left.sub right
    | .quotient, [left, right] => if right.value = 0 then none else left.div right
    | _, _ => none

end Frontera.Context
