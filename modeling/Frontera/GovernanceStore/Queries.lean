import Frontera.GovernanceStore.References
import Frontera.Text.Base64

/-! What both stores share: the scope a caller reads in, the filters of a query, and the cursor that
names the chain position a page ended on. -/

namespace Frontera.GovernanceStore

open Frontera.Text

inductive GovernanceStoreErrorCode where
  | tenantScopeRequired | accessScopeViolation | storeValidationError | idempotencyConflict
  | storeTransactionFailed | recordNotFound | schemaVersionUnsupported

structure GovernanceStoreError where
  code : GovernanceStoreErrorCode
  message : String

structure GovernanceStoreAccessContext where
  organizationId : Option String
  system : Bool

/-- What queries read of an aggregate. -/
structure GovernanceRecord where
  (evaluationId decisionId requestId : String)
  (correlationId organizationId : Option String)
  (actorId actionType status : String)
  reasonCodes : List String
  (evaluatedAt persistedAt aggregateDigest payloadDigest : String)

structure GovernanceRecordSummary where
  (evaluationId decisionId requestId : String)
  (correlationId organizationId : Option String)
  (actorId actionType status : String)
  reasonCodes : List String
  (evaluatedAt persistedAt aggregateDigest : String)

def toGovernanceRecordSummary (record : GovernanceRecord) : GovernanceRecordSummary where
  evaluationId := record.evaluationId
  decisionId := record.decisionId
  requestId := record.requestId
  correlationId := record.correlationId
  organizationId := record.organizationId
  actorId := record.actorId
  actionType := record.actionType
  status := record.status
  reasonCodes := record.reasonCodes
  evaluatedAt := record.evaluatedAt
  persistedAt := record.persistedAt
  aggregateDigest := record.aggregateDigest

structure GovernanceIdempotencyRecord where
  (scope idempotencyKey requestDigest evaluationId createdAt : String)

inductive GovernanceGovernedPathFilter where
  | executionClaimed | executionOpen | issuanceWithheld | governedAction

structure GovernanceStoreQuery where
  (organizationId requestId evaluationId decisionId correlationId actorId : Option String)
  (actionType status reasonCode : Option String)
  governedPath : Option GovernanceGovernedPathFilter
  /-- `from` -/
  evaluatedFrom : Option String
  /-- `to` -/
  evaluatedTo : Option String
  limit : Option Int
  cursor : Option String

/-- The filter reads no reference. -/
def GovernanceStoreQuery.ReadsNoReference (query : GovernanceStoreQuery) : Prop :=
  query.governedPath = none ∨ query.governedPath = some .governedAction

/-- The grammars of the governed path: which recorded version of an execution is definitive, and
which claim is the path's own for an organization and a request. -/
structure GovernedPath where
  isDefinitiveExecutionEvidence : Option String → Bool
  isGovernedActionClaimFor : Option String → String → String → String → Bool

/-- Non-system callers must present an organization scope for every read. -/
def requireReadScope (context : GovernanceStoreAccessContext) : Except GovernanceStoreError Unit :=
  if !context.system && (context.organizationId = none || context.organizationId = some "") then
    .error ⟨.tenantScopeRequired,
      "A non-system caller must provide an organization scope for Governance Store reads."⟩
  else .ok ()

def canSeeRecord (context : GovernanceStoreAccessContext)
    (recordOrganizationId : Option String) : Bool :=
  context.system ||
    (recordOrganizationId.isSome && recordOrganizationId == context.organizationId)

def resolveQueryOrganization (context : GovernanceStoreAccessContext)
    (query : GovernanceStoreQuery) : Except GovernanceStoreError (Option String) := do
  requireReadScope context
  if context.system then return query.organizationId
  if query.organizationId.isSome && query.organizationId != context.organizationId then
    .error ⟨.accessScopeViolation,
      "An organization-scoped caller may only query its own organization."⟩
  return context.organizationId

def governanceQueryDefaultLimit : Nat := 50

def governanceQueryMaxLimit : Nat := 200

def normalizeQueryLimit : Option Int → Except GovernanceStoreError Nat
  | none => .ok governanceQueryDefaultLimit
  | some limit =>
      if limit ≤ 0 ∨ governanceQueryMaxLimit < limit then
        .error ⟨.storeValidationError,"Query limit must be an integer between 1 and " ++
          toString governanceQueryMaxLimit ++ "."⟩
      else .ok limit.toNat

section Matching

variable (G : GovernedPath)

def matchesGovernedPath (record : GovernanceRecord) (references : List GovernanceReferenceRecord)
    (claim : Option GovernanceIdempotencyRecord) : GovernanceGovernedPathFilter → Bool
  | .governedAction =>
      claim.any fun claim => G.isGovernedActionClaimFor record.organizationId record.requestId
        claim.scope claim.idempotencyKey
  | .issuanceWithheld => references.any fun r => r.referenceType == "issuance_record"
  | .executionClaimed =>
      references.any fun r =>
        r.referenceType == "execution_record" && r.externalVersion == some "attempt"
  | .executionOpen =>
      let executionRows := references.filter fun r => r.referenceType == "execution_record"
      (executionRows.filter fun r => r.externalVersion == some "attempt").any fun claim =>
        !executionRows.any fun r =>
          r.externalId == claim.externalId && G.isDefinitiveExecutionEvidence r.externalVersion

/-- `wanted === undefined || value === wanted` -/
def agrees (value : Option String) : Option String → Bool
  | none => true
  | some wanted => value == some wanted

def matchesQueryFilters (record : GovernanceRecord) (references : List GovernanceReferenceRecord)
    (query : GovernanceStoreQuery) (organizationId : Option String)
    (claim : Option GovernanceIdempotencyRecord) : Bool :=
  agrees record.organizationId organizationId &&
    agrees (some record.requestId) query.requestId &&
    agrees (some record.evaluationId) query.evaluationId &&
    agrees (some record.decisionId) query.decisionId &&
    agrees record.correlationId query.correlationId &&
    agrees (some record.actorId) query.actorId &&
    agrees (some record.actionType) query.actionType &&
    agrees (some record.status) query.status &&
    (query.reasonCode.all fun code => record.reasonCodes.contains code) &&
    (query.governedPath.all fun filter => matchesGovernedPath G record references claim filter) &&
    (query.evaluatedFrom.all fun start => !stringLt record.evaluatedAt start) &&
    (query.evaluatedTo.all fun stop => !stringLt stop record.evaluatedAt)

end Matching

/-- `Buffer.from(text, 'utf8').toString('base64url')` -/
def toBase64Url (text : String) : String :=
  String.ofList (Base64.urlSafe.encodeUnpadded text.toUTF8.data.toList)

/-- `Buffer.from(text, 'base64url').toString('utf8')`, of a text that was encoded so. -/
def fromBase64Url (text : String) : Option String :=
  String.fromUTF8? ⟨(Base64.urlSafe.decode text.toList).toArray⟩

/-- The chain position that the page before ended on, as an opaque text. -/
def encodeQueryCursor (chainPosition : Nat) : String :=
  toBase64Url (Json.stringify (.obj [("p", Json.num chainPosition)] : Json String))

/-- The position in a cursor that the store issued. -/
def decodeQueryCursor (cursor : String) : Except GovernanceStoreError Nat :=
  let parsed : Option (Json String) := (fromBase64Url cursor).bind Json.parse
  match parsed.bind fun value => value.get "p" with
  | some (.num p) => if 0 < p then .ok p.toNat else notIssued
  | _ => notIssued
where
  notIssued : Except GovernanceStoreError Nat :=
    .error ⟨.storeValidationError,"The query cursor is not a cursor this store issued."⟩

theorem fromBase64Url_toBase64Url (text : String) : fromBase64Url (toBase64Url text) = some text := by
  rw [fromBase64Url,toBase64Url,String.toList_ofList,Base64.decode_encodeUnpadded, Array.toArray_toList]
  exact dif_pos text.isValidUTF8

theorem decodeQueryCursor_encode {position : Nat} (h : 0 < position) :
    decodeQueryCursor (encodeQueryCursor position) = .ok position := by
  have hparsed : (fromBase64Url (encodeQueryCursor position)).bind Json.parse =
      some (.obj [("p", Json.num position)] : Json String) := by
    rw [encodeQueryCursor,fromBase64Url_toBase64Url,Option.bind_some,Json.parse_stringify]
  have hget : (Json.obj [("p", Json.num position)] : Json String).get "p" = some (.num position) := rfl
  rw [decodeQueryCursor,hparsed]
  simp only [Option.bind_some,hget]
  rw [if_pos (by exact_mod_cast h),Int.toNat_natCast]

end Frontera.GovernanceStore
