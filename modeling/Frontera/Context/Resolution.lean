import Frontera.Context.Facts
import Mathlib.Data.List.Dedup
import Mathlib.Data.List.Sort

/-! The readings of a resolver cross the admission checks, agreeing readings of a key become one
fact, disagreeing ones stay apart, and derived facts are computed from resolved ones. -/

namespace Frontera.Context

open Frontera.Data

inductive ResolvedContextFactStatus where
  | resolved | stale | conflicted
deriving DecidableEq

/-- The stale instant is `none` where it is no date: `classify` throws on such a fact. -/
structure ContextFactFreshness where
  maxAgeSeconds : ℚ
  staleAt : Option String

structure ContextFact where
  key : String
  value : ContextFactValue
  sourceId : String
  sourceKind : ContextSourceKind
  observedAt : String
  trustClass : ContextTrustClass
  effectiveTrustClass : TerminalContextTrustClass
  resolution : ResolvedContextFactStatus
  freshness : Option ContextFactFreshness := none
  attestationRef : Option String := none
  derivation : Option (ContextDerivationOperator × List String) := none
  conflictingSourceIds : List String := []
  reference : Option String := none
  provenanceDigest : Option String := none

inductive ContextObservationRefusalReason where
  | sourceUntrusted | factClassNotAttested | organizationMismatch | futureDated
  | observationTimeInvalid | provenanceInvalid | attestationMissing | attestationInvalid
  | valueMalformed
deriving DecidableEq

def ContextObservationRefusalReason.text : ContextObservationRefusalReason → String
  | .sourceUntrusted => "source_untrusted"
  | .factClassNotAttested => "fact_class_not_attested"
  | .organizationMismatch => "organization_mismatch"
  | .futureDated => "future_dated"
  | .observationTimeInvalid => "observation_time_invalid"
  | .provenanceInvalid => "provenance_invalid"
  | .attestationMissing => "attestation_missing"
  | .attestationInvalid => "attestation_invalid"
  | .valueMalformed => "value_malformed"

structure RefusedContextObservation where
  (key sourceId : String)
  reason : ContextObservationRefusalReason

structure ContextResolution where
  resolved : Bool
  declaredKeys : List String
  facts : List ContextFact
  (unresolved stale conflicted : List String)
  refused : List RefusedContextObservation
  assertedFactPolicy : ContextAssertedFactPolicy
  assertableKeys : List String
  resolvedAt : String

/-- `[...keys].sort()` -/
def sortTexts (texts : List String) : List String :=
  texts.insertionSort fun left right => keyLe left right = true

/-- `[...new Set(texts)].sort()` -/
def sortedSet (texts : List String) : List String := sortTexts texts.dedup

def ContextFactObservation.identity (observation : ContextFactObservation) : String :=
  observation.sourceId ++ "\x00" ++ observation.value.typeName ++ "\x00" ++ observation.value.spelling

def laterReading (P : Platform) (candidate current : ContextFactObservation) : Bool :=
  let candidateAt := P.dateParse candidate.observedAt
  let currentAt := P.dateParse current.observedAt
  if candidateAt ≠ currentAt then
    match candidateAt, currentAt with
    | some candidateAt, some currentAt => decide (currentAt < candidateAt)
    | _, _ => false
  else stringLt (candidate.reference.getD "") (current.reference.getD "")

/-- One reading of a list by identity, the later of two; a `Map` keeps the place of the first. -/
def keepLater (P : Platform) (kept : List ContextFactObservation)
    (observation : ContextFactObservation) : List ContextFactObservation :=
  if kept.any fun current => current.identity == observation.identity then
    kept.map fun current =>
      if current.identity = observation.identity ∧ laterReading P observation current = true then
        observation
      else current
  else kept ++ [observation]

def deduplicated (P : Platform) (observations : List ContextFactObservation) :
    List ContextFactObservation :=
  (observations.foldl (keepLater P) []).insertionSort fun left right =>
    keyLe left.sourceId right.sourceId = true

/-- `new Set(values).size > 1` -/
def disagree (observations : List ContextFactObservation) : Bool :=
  decide (1 < (observations.map (·.value)).dedup.length)

/-- Readings, and the instant and the organization they are classified at. -/
structure Reading where
  observations : List ContextFactObservation
  instant : String
  organizationId : Option String

/-- A service is built only over a valid declaration and a valid registry. A verifier that
throws answers `false` here. -/
structure ContextResolutionService (P : Platform) where
  dates : Dates P
  sources : List ContextSource
  declaration : ContextDeclaration
  attestationVerifier : Option (ContextSource → ContextFactObservation → Bool) := none
  declaration_valid : isValidContextDeclaration declaration = true
  sources_valid : sources.all isValidContextSource = true
  sources_once : (sources.map (·.id)).Nodup

namespace ContextResolutionService

variable {P : Platform} (service : ContextResolutionService P)

/-- `registry.get(sourceId)` -/
def sourceOf (sourceId : String) : Option ContextSource :=
  if sourceId = contextDerivedSourceId then some contextDerivedSource
  else service.sources.find? fun source => source.id == sourceId

def requirementOf (key : String) : Option ContextRequirement :=
  service.declaration.requirements.find? fun requirement => requirement.key == key

def derivations : List ContextDerivation := service.declaration.derivations

def derivedKeys : List String := service.derivations.map (·.key)

def requestedKeys : List String :=
  sortTexts (((service.declaration.requirements.map (·.key)).dedup).filter fun key =>
    !service.derivedKeys.contains key)

def declaredKeys : List String :=
  sortedSet (service.declaration.requirements.map (·.key) ++ service.derivedKeys)

def assertableKeys : List String := sortTexts service.declaration.assertableKeys

def attestationVerified (source : ContextSource) (observation : ContextFactObservation) : Bool :=
  service.attestationVerifier.any fun verifier => verifier source observation

/-- The checks that do not read the clock, in two groups around the one that does. -/
def refusalBeforeTime (source : ContextSource) (observation : ContextFactObservation)
    (organizationId : Option String) : Option ContextObservationRefusalReason :=
  if source.id = contextDerivedSourceId then some .sourceUntrusted
  else if (contextSourceAttestationFor source observation.key).isNone then
    some .factClassNotAttested
  else if source.organizationId.isSome ∧ source.organizationId ≠ organizationId then
    some .organizationMismatch
  else if observation.organizationId.isSome ∧ observation.organizationId ≠ organizationId then
    some .organizationMismatch
  else if (P.dateParse observation.observedAt).isNone then some .observationTimeInvalid
  else none

def refusalAfterTime (source : ContextSource) (observation : ContextFactObservation) :
    Option ContextObservationRefusalReason :=
  if !isAdmissibleContextFactValue observation.value then some .valueMalformed
  else if source.trustClass = .attested ∧
      observation.attestationRef.all (fun reference => trim reference = "") = true then
    some .attestationMissing
  else if source.trustClass = .attested ∧ service.attestationVerified source observation = false then
    some .attestationInvalid
  else if source.provenance = some .referenceDigest ∧ hasValidProvenance P observation = false then
    some .provenanceInvalid
  else none

def refusalOf (observation : ContextFactObservation) (instant : String)
    (organizationId : Option String) : Option ContextObservationRefusalReason :=
  match service.sourceOf observation.sourceId with
  | none => some .sourceUntrusted
  | some source =>
      (refusalBeforeTime (P := P) source observation organizationId).or
        (if isFutureDatedAt P observation.observedAt instant
            service.declaration.maxFutureSkewSeconds then some .futureDated
          else service.refusalAfterTime source observation)

def trustClassOf (observation : ContextFactObservation) : TerminalContextTrustClass :=
  ((service.sourceOf observation.sourceId).map (·.trustClass)).getD .asserted

/-- The candidate has the stronger claim: trust class, then instant, then source. -/
def isPreferredTo (candidate best : ContextFactObservation) : Bool :=
  let candidateClass := service.trustClassOf candidate
  let bestClass := service.trustClassOf best
  if contextTrustClassSatisfies candidateClass bestClass &&
      !contextTrustClassSatisfies bestClass candidateClass then true
  else if contextTrustClassSatisfies bestClass candidateClass &&
      !contextTrustClassSatisfies candidateClass bestClass then false
  else
    match P.dateParse candidate.observedAt, P.dateParse best.observedAt with
    | some candidateAt, some bestAt => decide (bestAt < candidateAt) ||
        (candidateAt = bestAt && stringLt candidate.sourceId best.sourceId)
    | _, _ => false

def preferred (first : ContextFactObservation) (rest : List ContextFactObservation) :
    ContextFactObservation :=
  rest.foldl (fun best candidate => if service.isPreferredTo candidate best then candidate else best)
    first

/-- The strictest bound of the source, the requirement and the reading itself. -/
def maxAgeFor (key : String) (observation : ContextFactObservation) : Option ℚ :=
  let attested : Option ℚ := (service.sourceOf observation.sourceId).bind fun source =>
    (contextSourceAttestationFor source key).bind fun attestation =>
      attestation.maxAgeSeconds.map fun bound => (bound : ℚ)
  let declared := (service.requirementOf key).bind (·.maxAgeSeconds)
  let observed := observation.maxAgeSeconds.map fun bound => if 0 < bound then bound else 0
  (attested.toList ++ declared.toList ++ observed.toList).min?

def freshnessStatus (observation : ContextFactObservation) (instant : String) : ResolvedContextFactStatus :=
  match service.maxAgeFor observation.key observation with
  | none => .resolved
  | some maxAgeSeconds =>
      if isFreshAt P observation.observedAt maxAgeSeconds instant then .resolved else .stale

def toFreshness (observedAt : String) (maxAgeSeconds : Option ℚ) : Option ContextFactFreshness := do
  let maxAgeSeconds ← maxAgeSeconds
  let observed ← P.dateParse observedAt
  return ⟨maxAgeSeconds,(staleInstant observed maxAgeSeconds).map service.dates.toISOString⟩

/-- A fact of an admitted reading, whose source is registered. -/
def toFact (observation : ContextFactObservation) (status : ResolvedContextFactStatus)
    (conflictingSourceIds : List String) : ContextFact :=
  let source := (service.sourceOf observation.sourceId).getD contextDerivedSource
  { key := observation.key
    value := observation.value
    sourceId := observation.sourceId
    sourceKind := source.kind
    observedAt := observation.observedAt
    trustClass := .terminal source.trustClass
    effectiveTrustClass := source.trustClass
    resolution := status
    freshness := service.toFreshness observation.observedAt
      (service.maxAgeFor observation.key observation)
    attestationRef := if source.trustClass = .attested then observation.attestationRef else none
    conflictingSourceIds := sortedSet conflictingSourceIds
    reference := observation.reference
    provenanceDigest :=
      if source.provenance = some .referenceDigest then observation.provenanceDigest else none }

def admitted (reading : Reading) (key : String) : List ContextFactObservation :=
  reading.observations.filter fun observation => observation.key = key ∧
    service.refusalOf observation reading.instant reading.organizationId = none

def usable (reading : Reading) (key : String) : List ContextFactObservation :=
  deduplicated P (service.admitted reading key)

/-- The facts of a requested key; none where nothing answered it. -/
def readFacts (reading : Reading) (key : String) : List ContextFact :=
  match service.usable reading key with
  | [] => []
  | first :: rest =>
      if disagree (first :: rest) then
        (first :: rest).map fun observation =>
          service.toFact observation .conflicted
            (((first :: rest).filter fun other => other.value ≠ observation.value).map (·.sourceId))
      else
        let winner := service.preferred first rest
        [service.toFact winner (service.freshnessStatus winner reading.instant) []]

/-- The oldest of the operands' instants; of none, the instant of the resolution. -/
def oldestInstant (P : Platform) (instant : String) : List String → String
  | [] => instant
  | first :: rest => rest.foldl (fun oldest observedAt =>
      match P.dateParse observedAt, P.dateParse oldest with
      | some observed, some least => if observed < least then observedAt else oldest
      | _, _ => oldest) first

def resolvedFact (facts : List ContextFact) (key : String) : Option ContextFact :=
  facts.find? fun fact => fact.key == key && fact.resolution == .resolved

/-- The fact of a derivation: as old as its oldest operand, as trusted as the least one. -/
def derivedFact (derivation : ContextDerivation) (operands : List ContextFact) (number : Number)
    (instant : String) : ContextFact :=
  let observedAt := oldestInstant P instant (operands.map (·.observedAt))
  let maxAgeSeconds := (service.requirementOf derivation.key).bind (·.maxAgeSeconds)
  { key := derivation.key
    value := .number number
    sourceId := contextDerivedSourceId
    sourceKind := .internalStore
    observedAt := observedAt
    trustClass := .derived
    effectiveTrustClass := minimumContextTrustClass (operands.map (·.effectiveTrustClass))
    resolution :=
      if maxAgeSeconds.all fun bound => isFreshAt P observedAt bound instant then .resolved
      else .stale
    freshness := service.toFreshness observedAt maxAgeSeconds
    derivation := some (derivation.operator, derivation.operandKeys) }

/-- `none`: an operand is not resolved, or nothing admissible results. -/
def derive (derivation : ContextDerivation) (facts : List ContextFact) (instant : String) :
    Option ContextFact := do
  let operands ← derivation.operandKeys.mapM (resolvedFact facts)
  let number ← evaluateContextDerivation derivation.operator (operands.map (·.value))
  if isAdmissibleContextFactValue (.number number) then
    some (service.derivedFact derivation operands number instant)
  else none

def deriveNext (instant : String) (facts : List ContextFact) (derivation : ContextDerivation) :
    List ContextFact :=
  facts ++ (service.derive derivation facts instant).toList

/-- The facts before they are ordered: of the requested keys, then of the derivations. -/
def factsOf (reading : Reading) : List ContextFact :=
  service.derivations.foldl (service.deriveNext reading.instant)
    (service.requestedKeys.flatMap (service.readFacts reading))

def refusedOf (reading : Reading) : List RefusedContextObservation :=
  reading.observations.filterMap fun observation =>
    if service.requestedKeys.contains observation.key then
      (service.refusalOf observation reading.instant reading.organizationId).map fun reason =>
        ⟨observation.key,observation.sourceId,reason⟩
    else none

def factKeyLe (left right : ContextFact) : Bool :=
  if left.key ≠ right.key then keyLe left.key right.key else keyLe left.sourceId right.sourceId

def refusalLe (left right : RefusedContextObservation) : Bool :=
  if left.key ≠ right.key then keyLe left.key right.key
  else if left.sourceId ≠ right.sourceId then keyLe left.sourceId right.sourceId
  else keyLe left.reason.text right.reason.text

def uniqueSortedKeys (facts : List ContextFact) (status : ResolvedContextFactStatus) : List String :=
  sortedSet ((facts.filter fun fact => fact.resolution = status).map (·.key))

/-- Every stale instant is a date. -/
def isDated (fact : ContextFact) : Bool :=
  fact.freshness.all fun freshness => freshness.staleAt.isSome

/-- `none`: a stale instant is no date, and `toISOString` throws. -/
def classify (reading : Reading) : Option ContextResolution :=
  let facts := service.factsOf reading
  let ordered := facts.insertionSort fun left right => factKeyLe left right = true
  if facts.all isDated then
    some {
      resolved := true
      declaredKeys := service.declaredKeys
      facts := ordered
      unresolved := sortedSet ((service.requestedKeys ++ service.derivedKeys).filter fun key =>
        !facts.any fun fact => fact.key == key)
      stale := uniqueSortedKeys ordered .stale
      conflicted := uniqueSortedKeys ordered .conflicted
      refused := (service.refusedOf reading).insertionSort fun left right =>
        refusalLe left right = true
      assertedFactPolicy := service.declaration.assertedFactPolicy
      assertableKeys := service.assertableKeys
      resolvedAt := reading.instant }
  else none

end ContextResolutionService

inductive ContextFactReadStatus where
  | satisfied | contextNotResolved | undeclared | unresolved | stale | conflicted
  | insufficientTrust | assertedNotDeclared
deriving DecidableEq

structure ContextFactProvenance where
  trustClass : ContextTrustClass
  effectiveTrustClass : TerminalContextTrustClass
  (sourceId observedAt : String)

/-- The value is present only on a satisfied read. -/
structure ContextFactRead where
  key : String
  status : ContextFactReadStatus
  value : Option ContextFactValue := none
  provenance : Option ContextFactProvenance := none
  assertedFactReported : Bool := false

/-- A resolved fact against its requirement: the trust class, then the asserted-fact posture. -/
def readResolvedFact (resolution : ContextResolution) (requirement : ContextRequirement)
    (fact : ContextFact) : ContextFactRead :=
  let provenance := some
    ⟨fact.trustClass,fact.effectiveTrustClass,fact.sourceId,fact.observedAt⟩
  if !contextTrustClassSatisfies fact.effectiveTrustClass requirement.minimumTrustClass then
    { key := requirement.key, status := .insufficientTrust, provenance := provenance }
  else if fact.effectiveTrustClass = .asserted ∧ resolution.assertedFactPolicy = .requireDeclaration ∧
      resolution.assertableKeys.contains requirement.key = false then
    { key := requirement.key, status := .assertedNotDeclared, provenance := provenance }
  else
    { key := requirement.key, status := .satisfied, value := some fact.value,
      provenance := provenance, assertedFactReported := fact.effectiveTrustClass = .asserted &&
        resolution.assertedFactPolicy = .report }

def readContextFact (resolution : ContextResolution) (requirement : ContextRequirement) : ContextFactRead :=
  if !resolution.resolved then { key := requirement.key, status := .contextNotResolved }
  else if !resolution.declaredKeys.contains requirement.key then
    { key := requirement.key, status := .undeclared }
  else if resolution.conflicted.contains requirement.key then
    { key := requirement.key, status := .conflicted }
  else if resolution.stale.contains requirement.key then { key := requirement.key, status := .stale }
  else
    match ContextResolutionService.resolvedFact resolution.facts requirement.key with
    | none => { key := requirement.key, status := .unresolved }
    | some fact => readResolvedFact resolution requirement fact

def readContextFacts (resolution : ContextResolution) (requirements : List ContextRequirement) :
    List ContextFactRead :=
  requirements.map (readContextFact resolution)

end Frontera.Context
