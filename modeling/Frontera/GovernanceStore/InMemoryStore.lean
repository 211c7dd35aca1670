import Frontera.GovernanceStore.Appends

/-! The maps of the store, the synchronous commit of an evaluation and of a reference, and the scan
of the chain that answers a query. -/

namespace Frontera.GovernanceStore

open Frontera.Data Frontera.Text

/-- The state of the store. The evaluation at index `i` of the chain has position `i + 1`. -/
structure InMemoryState where
  aggregates : OrderedMap String GovernanceRecord
  (evaluationIdByRequestId evaluationIdByDecisionId : OrderedMap String String)
  chain : List String
  (idempotency idempotencyByEvaluationId : OrderedMap String GovernanceIdempotencyRecord)
  referencesByEvaluationId : OrderedMap String (List GovernanceReferenceRecord)
  referenceChainByEvaluationId : OrderedMap String GovernanceReferenceChainState
  recorded : ∀ id ∈ chain, aggregates.get id ≠ none

/-- An unambiguous tuple encoding. -/
def idempotencyMapKey (scope key : String) : String :=
  Json.stringify (.arr [.str scope, .str key] : Json String)

namespace InMemoryState

def initial : InMemoryState where
  aggregates := OrderedMap.empty
  evaluationIdByRequestId := OrderedMap.empty
  evaluationIdByDecisionId := OrderedMap.empty
  chain := []
  idempotency := OrderedMap.empty
  idempotencyByEvaluationId := OrderedMap.empty
  referencesByEvaluationId := OrderedMap.empty
  referenceChainByEvaluationId := OrderedMap.empty
  recorded := fun _ h => absurd h List.not_mem_nil

def references (state : InMemoryState) (evaluationId : String) : List GovernanceReferenceRecord :=
  (state.referencesByEvaluationId.get evaluationId).getD []

/-- The record of an evaluation with its references, when the caller may see it. -/
def loadVisibleRecord (state : InMemoryState) (context : GovernanceStoreAccessContext)
    (evaluationId : String) : Except GovernanceStoreError (Option StoredRecord) := do
  requireReadScope context
  match state.aggregates.get evaluationId with
  | none => return none
  | some record =>
      if !canSeeRecord context record.organizationId then return none
      return some ⟨record,state.references evaluationId⟩

section Evaluations

variable (G : GovernedPath)

/-- What stands at the request id, when the key has no claim. -/
def resolveRequestId (state : InMemoryState) (context : GovernanceStoreAccessContext)
    (probe : GovernanceIdempotencyProbe) :
    Except GovernanceStoreError GovernanceIdempotencyResolution :=
  match state.evaluationIdByRequestId.get probe.requestId with
  | none => .ok .new
  | some existingEvaluationId =>
      if probesGovernedActionClaim G context probe then .ok (.conflict .requestId)
      else
        match state.aggregates.get existingEvaluationId with
        | none => .ok (.conflict .requestId)
        | some stored =>
            if stored.payloadDigest ≠ probe.payloadDigest then .ok (.conflict .requestId)
            else do
              match ← state.loadVisibleRecord context existingEvaluationId with
              | none => return .conflict .requestId
              | some record => return .replay record

def resolveIdempotencySync (state : InMemoryState) (context : GovernanceStoreAccessContext)
    (probe : GovernanceIdempotencyProbe) :
    Except GovernanceStoreError GovernanceIdempotencyResolution :=
  let claim := probe.idempotency.bind fun idempotency =>
    state.idempotency.get (idempotencyMapKey idempotency.scope idempotency.idempotencyKey)
  match claim with
  | none => state.resolveRequestId G context probe
  | some claim =>
      if claim.requestDigest ≠ probe.payloadDigest then .ok (.conflict .idempotencyKey)
      else do
        match ← state.loadVisibleRecord context claim.evaluationId with
        | none => return .conflict .idempotencyKey
        | some record => return .replay record

def previousAggregateDigest (state : InMemoryState) : Option String :=
  state.chain.getLast?.bind fun id => (state.aggregates.get id).map (·.aggregateDigest)

/-- The synchronous commit section: the aggregate and every index. -/
def commit (state : InMemoryState) (input : AppendGovernanceEvaluationInput)
    (record : GovernanceRecord) (h : state.aggregates.get record.evaluationId = none) :
    InMemoryState where
  aggregates := state.aggregates.set record.evaluationId record
  evaluationIdByRequestId :=
    state.evaluationIdByRequestId.set record.requestId record.evaluationId
  evaluationIdByDecisionId :=
    state.evaluationIdByDecisionId.set record.decisionId record.evaluationId
  chain := state.chain ++ [record.evaluationId]
  idempotency :=
    match input.idempotency with
    | none => state.idempotency
    | some idempotency =>
        state.idempotency.set (idempotencyMapKey idempotency.scope idempotency.idempotencyKey)
          (claimOf idempotency input.payloadDigest record)
  idempotencyByEvaluationId :=
    match input.idempotency with
    | none => state.idempotencyByEvaluationId
    | some idempotency =>
        state.idempotencyByEvaluationId.set record.evaluationId
          (claimOf idempotency input.payloadDigest record)
  referencesByEvaluationId := state.referencesByEvaluationId
  referenceChainByEvaluationId := state.referenceChainByEvaluationId
  recorded := by
    intro id hid
    rw [OrderedMap.get_set_of_get_none h]
    rcases List.mem_append.1 hid with hid | hid
    · split
      · simp
      · exact state.recorded id hid
    · rw [List.mem_singleton.1 hid,if_pos rfl]
      simp

def appendEvaluation (state : InMemoryState) (input : AppendGovernanceEvaluationInput) :
    Except GovernanceStoreError (AppendGovernanceEvaluationResult × InMemoryState) :=
  match state.resolveIdempotencySync G input.accessContext input.probe with
  | .error e => .error e
  | .ok (.conflict kind) => .error (conflictError input.requestId kind)
  | .ok (.replay stored) => .ok (replayResult stored, state)
  | .ok .new =>
      match input.build state.previousAggregateDigest (state.chain.length + 1) with
      | .error e => .error e
      | .ok record =>
          if (state.evaluationIdByDecisionId.get record.decisionId).isSome then
            .error ⟨.storeTransactionFailed,"decisionId '" ++ record.decisionId ++
              "' is already recorded; a decision id names exactly one evaluation."⟩
          else if h : state.aggregates.get record.evaluationId = none then
            .ok (createdResult record, state.commit input record h)
          else
            .error ⟨.storeTransactionFailed,"evaluationId '" ++ record.evaluationId ++
              "' is already recorded."⟩

end Evaluations

def referenceChain (state : InMemoryState) (evaluationId : String) : ReferenceChain where
  rows := state.references evaluationId
  head := state.referenceChainByEvaluationId.get evaluationId

/-- The rows of an evaluation and the head of their chain, written together. -/
def writeReferences (state : InMemoryState) (evaluationId : String) (chain : ReferenceChain) :
    InMemoryState :=
  { state with
    referencesByEvaluationId := state.referencesByEvaluationId.set evaluationId chain.rows
    referenceChainByEvaluationId :=
      match chain.head with
      | none => state.referenceChainByEvaluationId
      | some head => state.referenceChainByEvaluationId.set evaluationId head }

def appendReference (P : Platform) (state : InMemoryState)
    (context : GovernanceStoreAccessContext) (reference : GovernanceReferenceInput) :
    Except GovernanceStoreError InMemoryState := do
  assertCanonicalReferenceType reference.referenceType
  match ← state.loadVisibleRecord context reference.evaluationId with
  | none => .error (recordNotFound reference.evaluationId)
  | some stored =>
      if (state.references reference.evaluationId).any
          (·.referenceId == reference.referenceId) then
        .error (alreadyAppended reference.referenceId)
      else
        return state.writeReferences reference.evaluationId
          ((state.referenceChain reference.evaluationId).append P stored.record.organizationId
            reference)

/-- An append that throws leaves the store as it was. -/
def append (P : Platform) (G : GovernedPath) (state : InMemoryState) : Append → InMemoryState
  | .evaluation input =>
      match state.appendEvaluation G input with
      | .error _ => state
      | .ok (_, next) => next
  | .reference context reference =>
      match state.appendReference P context reference with
      | .error _ => state
      | .ok next => next

section Reading

variable (G : GovernedPath) (state : InMemoryState) (context : GovernanceStoreAccessContext)
  (sought : GovernanceStoreQuery)

/-- The record of an evaluation of the chain, when the query is to answer with it. -/
def matching (organizationId : Option String) (evaluationId : String) : Option GovernanceRecord :=
  match state.aggregates.get evaluationId with
  | none => none
  | some record =>
      if !context.system && !canSeeRecord context record.organizationId then none
      else if matchesQueryFilters G record (state.references evaluationId) sought organizationId
          (state.idempotencyByEvaluationId.get evaluationId) then some record
      else none

/-- The loop of a query, over evaluations and their positions from the newest down. -/
def scan (organizationId : Option String) (limit : Nat) (before : Option Nat) :
    List (String × Nat) → List (Nat × GovernanceRecord) → List (Nat × GovernanceRecord)
  | [], hits => hits
  | (evaluationId, position) :: rest, hits =>
      if before.any (· ≤ position) then scan organizationId limit before rest hits
      else
        match state.matching G context sought organizationId evaluationId with
        | none => scan organizationId limit before rest hits
        | some record =>
            let hits := hits ++ [(position, record)]
            if limit < hits.length then hits else scan organizationId limit before rest hits

/-- The evaluations of the chain and their positions, from the newest down. -/
def positions : List (String × Nat) := (state.chain.zipIdx 1).reverse

def query : Except GovernanceStoreError GovernanceStoreQueryResult := do
  let organizationId ← resolveQueryOrganization context sought
  let limit ← normalizeQueryLimit sought.limit
  let before ← beforePosition sought
  return pageOf limit (state.scan G context sought organizationId limit before state.positions [])

def count : Except GovernanceStoreError Nat := do
  let organizationId ← resolveQueryOrganization context sought
  return state.chain.countP fun id => (state.matching G context sought organizationId id).isSome

end Reading

end InMemoryState

end Frontera.GovernanceStore
