import Frontera.Grant.Attenuation

/-! The canonical texts a grant's identity, its digest and the digest of its source are taken over.
The identity is taken over the correlation, the subject, the bounds, the expiry, the authority
binding and the semantic marker; the digest of the source is carried beside it. -/

namespace Frontera.Grant

open Frontera.Text

structure GrantCorrelation where
  (requestId decisionId action resourceScope : String)

def grantCorrelationMatches (left right : GrantCorrelation) : Bool :=
  left.requestId == right.requestId && left.decisionId == right.decisionId &&
    left.action == right.action && left.resourceScope == right.resourceScope

theorem grantCorrelationMatches_iff {left right : GrantCorrelation} :
    grantCorrelationMatches left right = true ↔ left = right := by
  obtain ⟨a,b,c,d⟩ := left
  obtain ⟨a',b',c',d'⟩ := right
  simp [grantCorrelationMatches,and_assoc]

def isWellFormedGrantCorrelation (correlation : GrantCorrelation) : Bool :=
  correlation.requestId != "" && correlation.decisionId != "" && correlation.action != "" &&
    correlation.resourceScope != ""

def serializeGrantCorrelation (correlation : GrantCorrelation) : String :=
  join "," ["\"action\":" ++ stringify correlation.action,
    "\"decisionId\":" ++ stringify correlation.decisionId,
    "\"requestId\":" ++ stringify correlation.requestId,
    "\"resourceScope\":" ++ stringify correlation.resourceScope]

inductive GrantValidityCeilingSource where
  | decision | authority | deployment
deriving DecidableEq

def GrantValidityCeilingSource.text : GrantValidityCeilingSource → String
  | .decision => "decision"
  | .authority => "authority"
  | .deployment => "deployment"

structure GrantValidityCeiling where
  source : GrantValidityCeilingSource
  notAfter : String

structure GrantSourceAuthorization where
  correlation : GrantCorrelation
  subject : String
  scope : GrantScope
  (authorizationPermitsExercise allBlockingObligationsSatisfied : Bool)
  evaluatedAt : String
  validityCeilings : List GrantValidityCeiling
  (contextDigest approvalDigest : Option String)

structure BoundedGrant where
  id : String
  correlation : GrantCorrelation
  subject : String
  scope : GrantScope
  (issuedAt expiresAt sourceDigest : String)
  (authorityBindingDigest semanticsFormat : Option String)
  digest : String

def isWellFormedBoundedGrantSemantics (scope : GrantScope) (semanticsFormat : Option String) : Bool :=
  isConsistentGrantSemantics scope semanticsFormat

def mandatoryGrantBoundKeys : List GrantBoundKey := [.action, .resources]

def missingMandatoryGrantBounds (source : GrantSourceAuthorization) : List GrantBoundKey :=
  mandatoryGrantBoundKeys.filter fun key => !(statedGrantBoundKeys source.scope).contains key

section Digest

variable (P : Platform)

def isDerivableGrantSource (source : GrantSourceAuthorization) : Bool :=
  isWellFormedGrantCorrelation source.correlation && source.subject != "" &&
    (P.dateParse source.evaluatedAt).isSome && isWellFormedGrantScope P source.scope &&
    (missingMandatoryGrantBounds source).isEmpty

/-- Why a source is not eligible; empty when it is. -/
def grantEligibilityReasons (source : GrantSourceAuthorization) : List GrantReasonCode :=
  (if !source.authorizationPermitsExercise then [.authorizationNotPermitted] else []) ++
    (if !source.allBlockingObligationsSatisfied then [.obligationsUnsatisfied] else []) ++
    if !isDerivableGrantSource P source then [.sourceBoundsIncomplete] else []

/-- `"key":` and a value, when there is one. -/
def optionalField (key : String) (value : Option String) : List String :=
  match value with
  | none => []
  | some text => [stringify key ++ ":" ++ stringify text]

def booleanText (value : Bool) : String := if value then "true" else "false"

def orderedValidityCeilings (ceilings : List GrantValidityCeiling) : List GrantValidityCeiling :=
  ceilings.insertionSort fun left right =>
    (if left.source = right.source then P.localeCompare left.notAfter right.notAfter
      else P.localeCompare left.source.text right.source.text) ≠ .gt

def serializeGrantSourceAuthorization (source : GrantSourceAuthorization) : String :=
  join "," (["\"allBlockingObligationsSatisfied\":" ++
      booleanText source.allBlockingObligationsSatisfied] ++
    optionalField "approvalDigest" source.approvalDigest ++
    ["\"authorizationPermitsExercise\":" ++ booleanText source.authorizationPermitsExercise] ++
    optionalField "contextDigest" source.contextDigest ++
    ["\"correlation\":\x7b" ++ serializeGrantCorrelation source.correlation ++ "\x7d",
      "\"evaluatedAt\":" ++ stringify source.evaluatedAt,
      "\"scope\":" ++ serializeGrantScope source.scope,
      "\"validityCeilings\":[" ++ join "," ((orderedValidityCeilings P source.validityCeilings).map
        fun ceiling => "\x7b\"notAfter\":" ++ stringify ceiling.notAfter ++ ",\"source\":" ++
          stringify ceiling.source.text ++ "\x7d") ++ "]",
      "\"subject\":" ++ stringify source.subject])

def grantSourceDigest (source : GrantSourceAuthorization) : String :=
  P.digestOf ("\x7b" ++ serializeGrantSourceAuthorization P source ++ "\x7d")

/-- An optional field written with the comma that follows it. -/
def leadingField (key : String) (value : Option String) : String :=
  match value with
  | none => ""
  | some text => stringify key ++ ":" ++ stringify text ++ ","

def boundedGrantId (correlation : GrantCorrelation) (subject : String) (scope : GrantScope)
    (expiresAt : String) (authorityBindingDigest semanticsFormat : Option String) : String :=
  let canonical := "\x7b" ++ leadingField "authorityBindingDigest" authorityBindingDigest ++
    serializeGrantCorrelation correlation ++ ",\"expiresAt\":" ++ stringify expiresAt ++
    ",\"scope\":" ++ serializeGrantScope scope ++ "," ++
    leadingField "semanticsFormat" semanticsFormat ++ "\"subject\":" ++ stringify subject ++ "\x7d"
  "aoc.grant:" ++ String.ofList ((P.sha256 canonical).toList.take 32)

def serializeBoundedGrant (grant : BoundedGrant) : String :=
  "\x7b" ++ join "," (optionalField "authorityBindingDigest" grant.authorityBindingDigest ++
    ["\"correlation\":\x7b" ++ serializeGrantCorrelation grant.correlation ++ "\x7d",
      "\"digest\":" ++ stringify grant.digest,
      "\"expiresAt\":" ++ stringify grant.expiresAt,
      "\"id\":" ++ stringify grant.id,
      "\"issuedAt\":" ++ stringify grant.issuedAt,
      "\"scope\":" ++ serializeGrantScope grant.scope] ++
    optionalField "semanticsFormat" grant.semanticsFormat ++
    ["\"sourceDigest\":" ++ stringify grant.sourceDigest,
      "\"subject\":" ++ stringify grant.subject]) ++ "\x7d"

/-- The digest of a grant, with its own digest held empty. -/
def boundedGrantDigest (grant : BoundedGrant) : String :=
  P.digestOf (serializeBoundedGrant { grant with digest := "" })

def boundedGrantDigestMatches (grant : BoundedGrant) : Bool :=
  grant.digest == boundedGrantDigest P grant

end Digest

inductive GrantRevocationReason where
  | administratorRevoked | expired | manualRevocation | policyChanged | principalDisabled
  | resourceRemoved | securityIncident
deriving DecidableEq

def GrantRevocationReason.text : GrantRevocationReason → String
  | .administratorRevoked => "administrator-revoked"
  | .expired => "expired"
  | .manualRevocation => "manual-revocation"
  | .policyChanged => "policy-changed"
  | .principalDisabled => "principal-disabled"
  | .resourceRemoved => "resource-removed"
  | .securityIncident => "security-incident"

structure GrantRevocation where
  (grantId revokedAt : String)
  reason : GrantRevocationReason
  issuerRef : String

def sampleScope : GrantScope where
  action := some (.identity "payment.execute")
  amount := some (.ceiling "100" "USD")
  resources := some (.set ["invoice-2", "invoice-1"])

def sampleCorrelation : GrantCorrelation :=
  ⟨"request-1","decision-1","payment.execute","invoice-1"⟩

def sampleSource : GrantSourceAuthorization where
  correlation := sampleCorrelation
  subject := "agent-1"
  scope := sampleScope
  authorizationPermitsExercise := true
  allBlockingObligationsSatisfied := true
  evaluatedAt := sampleInstant
  validityCeilings := []
  contextDigest := none
  approvalDigest := none

end Frontera.Grant
