import Frontera.Context.Resolution

/-! What the kernel makes of a resolution: the requirements that stop the request, the facts policy
may read, and the instant up to which a decision that relied on them stands. -/

namespace Frontera.Context

open Frontera.Data Frontera.Text

inductive AocKernelReasonCode where
  | contextRequiredFactUnresolved | contextRequiredFactStale | contextRequiredFactConflicted
  | contextRequiredFactUntrusted | contextRequiredFactSourceNotAuthorized
  | contextRequiredFactProvenanceInvalid | contextRequiredFactTimeInvalid
  | contextRequiredFactMalformed | contextRestrictiveFactAmbiguous
deriving DecidableEq

/-- `READ_STATUS_TO_REASON_CODE` -/
def ContextFactReadStatus.reasonCode : ContextFactReadStatus → AocKernelReasonCode
  | .stale => .contextRequiredFactStale
  | .conflicted => .contextRequiredFactConflicted
  | .insufficientTrust | .assertedNotDeclared => .contextRequiredFactUntrusted
  | .satisfied | .contextNotResolved | .undeclared | .unresolved => .contextRequiredFactUnresolved

def ContextFactReadStatus.text : ContextFactReadStatus → String
  | .satisfied => "satisfied"
  | .contextNotResolved => "context_not_resolved"
  | .undeclared => "undeclared"
  | .unresolved => "unresolved"
  | .stale => "stale"
  | .conflicted => "conflicted"
  | .insufficientTrust => "insufficient_trust"
  | .assertedNotDeclared => "asserted_not_declared"

/-- `REFUSAL_TO_REASON_CODE` -/
def ContextObservationRefusalReason.reasonCode : ContextObservationRefusalReason → AocKernelReasonCode
  | .sourceUntrusted | .factClassNotAttested | .organizationMismatch =>
      .contextRequiredFactSourceNotAuthorized
  | .provenanceInvalid | .attestationMissing | .attestationInvalid =>
      .contextRequiredFactProvenanceInvalid
  | .futureDated | .observationTimeInvalid => .contextRequiredFactTimeInvalid
  | .valueMalformed => .contextRequiredFactMalformed

/-- The declaration a request resolves against; a profile's carries the profile's key. -/
structure KernelContextSelection (P : Platform) where
  service : ContextResolutionService P
  profile : Option String := none

def KernelContextSelection.requirements {P : Platform} (selection : KernelContextSelection P) :
    List ContextRequirement :=
  selection.service.declaration.requirements

structure ContextRequirementEvaluation where
  key : String
  status : ContextFactReadStatus
  minimumTrustClass : TerminalContextTrustClass
  refusalReasons : List ContextObservationRefusalReason

structure ContextFactEvaluation where
  (key sourceId : String)
  sourceKind : ContextSourceKind
  trustClass : ContextTrustClass
  effectiveTrustClass : TerminalContextTrustClass
  resolution : ResolvedContextFactStatus
  observedAt : String
  staleAt : Option String
  conflictingSourceIds : List String
  (reference provenanceDigest : Option String)

def ContextFact.evaluation (fact : ContextFact) : ContextFactEvaluation :=
  ⟨fact.key,fact.sourceId,fact.sourceKind,fact.trustClass,fact.effectiveTrustClass,
    fact.resolution,fact.observedAt,fact.freshness.bind (·.staleAt),fact.conflictingSourceIds,
    fact.reference,fact.provenanceDigest⟩

structure ContextEvaluation where
  resolved : Bool
  declaredKeys : List String
  facts : List ContextFactEvaluation
  (unresolved stale conflicted : List String)
  assertedFactPolicy : ContextAssertedFactPolicy
  assertedFactReads : List String
  unsatisfiedRequirements : List ContextRequirementEvaluation
  refused : List RefusedContextObservation
  restrictiveKeys : List String
  (profile validUntil : Option String)

def restrictiveKeys (requirements : List ContextRequirement) : List String :=
  (requirements.filter (·.restrictive)).map (·.key)

def requiredKeys (requirements : List ContextRequirement) : List String :=
  (requirements.filter (·.required)).map (·.key)

/-- `Set<string>` of the reasons a key's readings were refused for, sorted by their texts. -/
def refusalReasonsOf (resolution : ContextResolution) (key : String) :
    List ContextObservationRefusalReason :=
  (((resolution.refused.filter fun refusal => refusal.key = key).map (·.reason)).dedup).insertionSort
    fun left right => keyLe left.text right.text = true

/-- A required key that is not satisfied, or a restrict-only key whose reading is ambiguous. -/
def isUnsatisfied (requirements : List ContextRequirement) (read : ContextFactRead) : Bool :=
  ((requiredKeys requirements).contains read.key && read.status != .satisfied) ||
    ((restrictiveKeys requirements).contains read.key &&
      (read.status == .conflicted || read.status == .contextNotResolved))

def unsatisfiedRequirementOf (resolution : ContextResolution) (requirements : List ContextRequirement)
    (read : ContextFactRead) : ContextRequirementEvaluation where
  key := read.key
  status := read.status
  minimumTrustClass := ((requirements.find? fun requirement => requirement.key == read.key).map
    (·.minimumTrustClass)).getD .asserted
  refusalReasons := if read.status = .unresolved then refusalReasonsOf resolution read.key else []

/-- The stale instant that a satisfied material read brings into the ceiling. -/
def ceilingOf (resolution : ContextResolution) (requirements : List ContextRequirement)
    (read : ContextFactRead) : Option String :=
  if read.status ≠ .satisfied ∨ (restrictiveKeys requirements).contains read.key = true then none
  else
    (ContextResolutionService.resolvedFact resolution.facts read.key).bind fun fact =>
      fact.freshness.bind (·.staleAt)

/-- `Date.parse(left) < Date.parse(right)` -/
def isBefore (P : Platform) (left right : String) : Bool :=
  match P.dateParse left, P.dateParse right with
  | some left, some right => decide (left < right)
  | _, _ => false

def lowerCeiling (P : Platform) (validUntil : Option String) (staleAt : Option String) : Option String :=
  match staleAt, validUntil with
  | none, validUntil => validUntil
  | some staleAt, none => some staleAt
  | some staleAt, some validUntil =>
      if isBefore P staleAt validUntil then some staleAt else some validUntil

/-- The earliest instant a satisfied material fact goes stale. -/
def validUntilOf (P : Platform) (resolution : ContextResolution)
    (requirements : List ContextRequirement) (reads : List ContextFactRead) : Option String :=
  (reads.map (ceilingOf resolution requirements)).foldl (lowerCeiling P) none

/-- The admitted-context digest is over safe integers: on another bound it throws. -/
def isDigestible (resolution : ContextResolution) : Bool :=
  resolution.facts.all fun fact =>
    fact.freshness.all fun freshness => isCanonicalNumber freshness.maxAgeSeconds

/-- `none`: the digest that a profile's evaluation carries throws. -/
def toContextEvaluation {P : Platform} (resolution : ContextResolution)
    (selection : KernelContextSelection P) (reads : List ContextFactRead) :
    Option ContextEvaluation :=
  if selection.profile.isSome ∧ isDigestible resolution = false then none
  else
    some {
      resolved := resolution.resolved
      declaredKeys := resolution.declaredKeys
      facts := resolution.facts.map (·.evaluation)
      unresolved := resolution.unresolved
      stale := resolution.stale
      conflicted := resolution.conflicted
      assertedFactPolicy := resolution.assertedFactPolicy
      assertedFactReads := (reads.filter (·.assertedFactReported)).map (·.key)
      unsatisfiedRequirements := (reads.filter (isUnsatisfied selection.requirements)).map
        (unsatisfiedRequirementOf resolution selection.requirements)
      refused := resolution.refused
      restrictiveKeys := sortedSet (restrictiveKeys selection.requirements)
      profile := selection.profile
      validUntil := if selection.profile.isSome then
        validUntilOf P resolution selection.requirements reads else none }

structure AdmittedPolicyFact where
  factClass : String
  value : ContextFactValue

structure AdmittedPolicyContext where
  (contextFacts restrictiveFacts : List AdmittedPolicyFact)

def admittedPolicyContext (requirements : List ContextRequirement) (reads : List ContextFactRead) :
    AdmittedPolicyContext :=
  let facts (restrictive : Bool) : List AdmittedPolicyFact :=
    (reads.filterMap fun read =>
      if read.status = .satisfied ∧ (restrictiveKeys requirements).contains read.key = restrictive then
        read.value.map (⟨read.key,·⟩)
      else none).insertionSort fun left right => keyLe left.factClass right.factClass = true
  ⟨facts false,facts true⟩

structure KernelContextFacts where
  evaluation : ContextEvaluation
  reasonCodes : List AocKernelReasonCode
  summary : String
  admitted : AdmittedPolicyContext

def reasonCodesOf (requirements : List ContextRequirement)
    (unsatisfied : List ContextRequirementEvaluation) : List AocKernelReasonCode :=
  (unsatisfied.flatMap fun entry =>
    if (restrictiveKeys requirements).contains entry.key then [.contextRestrictiveFactAmbiguous]
    else if entry.refusalReasons.isEmpty then [entry.status.reasonCode]
    else entry.refusalReasons.map (·.reasonCode)).foldl
      (fun codes code => if codes.contains code then codes else codes ++ [code]) []

def unsatisfiedSummary (unsatisfied : List ContextRequirementEvaluation) : String :=
  "This deployment declares context it will not evaluate this action without, and it did not resolve: " ++
    String.intercalate ", " (unsatisfied.map fun entry =>
      entry.key ++ " (" ++ entry.status.text ++ ")") ++ "."

/-- The facts of an established profile; codes that are not empty are the denial. -/
def resolveKernelContextFacts {P : Platform} (selection : KernelContextSelection P)
    (resolution : ContextResolution) : Option KernelContextFacts := do
  let reads := readContextFacts resolution selection.requirements
  let evaluation ← toContextEvaluation resolution selection reads
  let admitted := admittedPolicyContext selection.requirements reads
  if evaluation.unsatisfiedRequirements.isEmpty then return ⟨evaluation,[],"",admitted⟩
  else
    return ⟨evaluation,reasonCodesOf selection.requirements evaluation.unsatisfiedRequirements,
      unsatisfiedSummary evaluation.unsatisfiedRequirements,admitted⟩

/-- The request is denied, and the key is one of the reasons. -/
def KernelContextFacts.deniesBy (facts : KernelContextFacts) (key : String) : Bool :=
  !facts.reasonCodes.isEmpty &&
    facts.evaluation.unsatisfiedRequirements.any fun entry => entry.key == key

end Frontera.Context
