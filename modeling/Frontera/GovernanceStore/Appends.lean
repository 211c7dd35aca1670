import Frontera.GovernanceStore.Queries

/-! What both stores take and answer when an evaluation or a reference is appended. -/

namespace Frontera.GovernanceStore

open Frontera.Text

structure GovernanceIdempotencyContext where
  (scope idempotencyKey : String)

structure GovernanceIdempotencyProbe where
  (requestId payloadDigest : String)
  idempotency : Option GovernanceIdempotencyContext

inductive ConflictKind where
  | idempotencyKey | requestId

/-- A record and the references beside it. -/
structure StoredRecord where
  record : GovernanceRecord
  references : List GovernanceReferenceRecord

inductive GovernanceIdempotencyResolution where
  | new
  | replay (record : StoredRecord)
  | conflict (kind : ConflictKind)

/-- An evaluation to append. `build` is the aggregate made of it, for the digest of the aggregate
before and the chain position that the store gives it. -/
structure AppendGovernanceEvaluationInput where
  accessContext : GovernanceStoreAccessContext
  (requestId payloadDigest : String)
  idempotency : Option GovernanceIdempotencyContext
  build : Option String → Nat → Except GovernanceStoreError GovernanceRecord

def AppendGovernanceEvaluationInput.probe (input : AppendGovernanceEvaluationInput) :
    GovernanceIdempotencyProbe :=
  ⟨input.requestId,input.payloadDigest,input.idempotency⟩

structure AppendGovernanceEvaluationResult where
  (evaluationId decisionId requestId : String)
  (created idempotentReplay : Bool)
  (aggregateDigest persistedAt : String)
  existingRecord : Option StoredRecord

def createdResult (record : GovernanceRecord) : AppendGovernanceEvaluationResult where
  evaluationId := record.evaluationId
  decisionId := record.decisionId
  requestId := record.requestId
  created := true
  idempotentReplay := false
  aggregateDigest := record.aggregateDigest
  persistedAt := record.persistedAt
  existingRecord := none

def replayResult (stored : StoredRecord) : AppendGovernanceEvaluationResult where
  evaluationId := stored.record.evaluationId
  decisionId := stored.record.decisionId
  requestId := stored.record.requestId
  created := false
  idempotentReplay := true
  aggregateDigest := stored.record.aggregateDigest
  persistedAt := stored.record.persistedAt
  existingRecord := some stored

def conflictError (requestId : String) : ConflictKind → GovernanceStoreError
  | .idempotencyKey => ⟨.idempotencyConflict,
      "This idempotency key was already used with a different request payload."⟩
  | .requestId => ⟨.idempotencyConflict,
      "requestId '" ++ requestId ++ "' was already submitted with a different payload."⟩

/-- The claim that a newly recorded evaluation holds. -/
def claimOf (context : GovernanceIdempotencyContext) (payloadDigest : String)
    (record : GovernanceRecord) : GovernanceIdempotencyRecord where
  scope := context.scope
  idempotencyKey := context.idempotencyKey
  requestDigest := payloadDigest
  evaluationId := record.evaluationId
  createdAt := record.persistedAt

/-- Such a probe is answered by the path's own claim alone. -/
def probesGovernedActionClaim (G : GovernedPath) (context : GovernanceStoreAccessContext)
    (probe : GovernanceIdempotencyProbe) : Bool :=
  probe.idempotency.any fun idempotency =>
    G.isGovernedActionClaimFor context.organizationId probe.requestId idempotency.scope
      idempotency.idempotencyKey

def governanceReferenceTypes : List String :=
  ["passport_event", "evidence_bundle", "assurance_record", "execution_record",
    "external_artifact", "authorization_artifact", "reconsideration_link", "issuance_record"]

def assertCanonicalReferenceType (referenceType : String) : Except GovernanceStoreError Unit :=
  if referenceType ∈ governanceReferenceTypes then .ok ()
  else .error ⟨.storeValidationError,"referenceType '" ++ referenceType ++
    "' is not a canonical Governance Store reference type; expected one of " ++
    join ", " governanceReferenceTypes ++ "."⟩

def recordNotFound (evaluationId : String) : GovernanceStoreError :=
  ⟨.recordNotFound,"No governance record for evaluationId '" ++ evaluationId ++
    "' within this scope."⟩

def alreadyAppended (referenceId : String) : GovernanceStoreError :=
  ⟨.storeValidationError,"referenceId '" ++ referenceId ++
    "' was already appended; references are append-only and never overwritten."⟩

/-- What a caller appends. -/
inductive Append where
  | evaluation (input : AppendGovernanceEvaluationInput)
  | reference (context : GovernanceStoreAccessContext) (reference : GovernanceReferenceInput)

structure GovernanceStoreQueryResult where
  records : List GovernanceRecordSummary
  nextCursor : Option String

/-- The page of the hits, one more of which than the limit shows that there is a next one. -/
def pageOf (limit : Nat) (hits : List (Nat × GovernanceRecord)) : GovernanceStoreQueryResult :=
  let page := hits.take limit
  { records := page.map fun hit => toGovernanceRecordSummary hit.2
    nextCursor :=
      if limit < hits.length then page.getLast?.map fun hit => encodeQueryCursor hit.1 else none }

/-- The position a query stays below; none without a cursor. -/
def beforePosition (query : GovernanceStoreQuery) : Except GovernanceStoreError (Option Nat) :=
  match query.cursor with
  | none => .ok none
  | some cursor => (decodeQueryCursor cursor).map some

end Frontera.GovernanceStore
