import Frontera.GovernanceStore.Appends

/-! The tables an append writes in one transaction, their uniqueness constraints, and the statement
that answers a query. -/

namespace Frontera.GovernanceStore

open Frontera.Data Frontera.Text List

/-- The rows of `governance_requests`, `governance_evaluations` and `governance_integrity` that one
append inserts, joined. -/
structure EvaluationRow where
  record : GovernanceRecord
  chainPosition : Nat

/-- A row of `governance_reason_codes`. -/
structure ReasonRow where
  (evaluationId reasonCode : String)

/-- The tables. Chain positions only ascend from row to row. -/
structure SqliteState where
  evaluations : List EvaluationRow
  reasons : List ReasonRow
  idempotency : List GovernanceIdempotencyRecord
  references : List GovernanceReferenceRecord
  referenceChains : OrderedMap String GovernanceReferenceChainState
  ascending : evaluations.Pairwise fun a b => a.chainPosition < b.chainPosition
  positive : ∀ row ∈ evaluations, 1 ≤ row.chainPosition

def constraintError : GovernanceStoreError :=
  ⟨.storeTransactionFailed,
    "The append transaction violated a uniqueness/foreign-key constraint and was rolled back."⟩

namespace SqliteState

def selectEvaluation (state : SqliteState) (evaluationId : String) : Option EvaluationRow :=
  state.evaluations.find? fun row => row.record.evaluationId == evaluationId

def selectByRequestId (state : SqliteState) (requestId : String) : Option EvaluationRow :=
  state.evaluations.find? fun row => row.record.requestId == requestId

def selectReferences (state : SqliteState) (evaluationId : String) : List GovernanceReferenceRecord :=
  state.references.filter fun row => row.evaluationId == evaluationId

/-- The record of an evaluation with its references, when the caller may see it. -/
def loadVisibleRecord (state : SqliteState) (context : GovernanceStoreAccessContext)
    (evaluationId : String) : Except GovernanceStoreError (Option StoredRecord) := do
  requireReadScope context
  match state.selectEvaluation evaluationId with
  | none => return none
  | some row =>
      if !canSeeRecord context row.record.organizationId then return none
      return some ⟨row.record,state.selectReferences evaluationId⟩

section Evaluations

variable (G : GovernedPath)

/-- What stands at the request id, when the key has no claim. -/
def resolveRequestId (state : SqliteState) (context : GovernanceStoreAccessContext)
    (probe : GovernanceIdempotencyProbe) :
    Except GovernanceStoreError GovernanceIdempotencyResolution :=
  match state.selectByRequestId probe.requestId with
  | none => .ok .new
  | some existingRequest =>
      if probesGovernedActionClaim G context probe then .ok (.conflict .requestId)
      else if existingRequest.record.payloadDigest ≠ probe.payloadDigest then
        .ok (.conflict .requestId)
      else do
        match ← state.loadVisibleRecord context existingRequest.record.evaluationId with
        | none => return .conflict .requestId
        | some record => return .replay record

def resolveIdempotencySync (state : SqliteState) (context : GovernanceStoreAccessContext)
    (probe : GovernanceIdempotencyProbe) :
    Except GovernanceStoreError GovernanceIdempotencyResolution :=
  let claim := probe.idempotency.bind fun idempotency =>
    state.idempotency.find? fun row =>
      row.scope == idempotency.scope && row.idempotencyKey == idempotency.idempotencyKey
  match claim with
  | none => state.resolveRequestId G context probe
  | some claim =>
      if claim.requestDigest ≠ probe.payloadDigest then .ok (.conflict .idempotencyKey)
      else do
        match ← state.loadVisibleRecord context claim.evaluationId with
        | none => return .conflict .idempotencyKey
        | some record => return .replay record

/-- `ORDER BY chain_position DESC LIMIT 1` -/
def selectChainHead (state : SqliteState) : Option EvaluationRow := state.evaluations.getLast?

def nextChainPosition (state : SqliteState) : Nat :=
  (state.selectChainHead.map (·.chainPosition)).getD 0 + 1

/-- Whether the rows of an aggregate keep every uniqueness constraint. -/
def Accepts (state : SqliteState) (input : AppendGovernanceEvaluationInput)
    (record : GovernanceRecord) : Prop :=
  (∀ row ∈ state.evaluations, row.record.requestId ≠ record.requestId ∧
    row.record.evaluationId ≠ record.evaluationId ∧ row.record.decisionId ≠ record.decisionId) ∧
  ∀ idempotency ∈ input.idempotency.toList, ∀ row ∈ state.idempotency,
    ¬ (row.scope = idempotency.scope ∧ row.idempotencyKey = idempotency.idempotencyKey)

instance (state : SqliteState) (input : AppendGovernanceEvaluationInput)
    (record : GovernanceRecord) : Decidable (state.Accepts input record) :=
  inferInstanceAs (Decidable (_ ∧ _))

theorem chainPosition_lt_next {state : SqliteState} :
    ∀ row ∈ state.evaluations, row.chainPosition < state.nextChainPosition := by
  intro row hrow
  obtain ⟨front,last,hlast⟩ := eq_nil_or_concat' state.evaluations |>.resolve_left
    (ne_nil_of_mem hrow)
  have hnext : state.nextChainPosition = last.chainPosition + 1 := by
    rw [nextChainPosition,selectChainHead,hlast,List.getLast?_concat]
    rfl
  rw [hlast] at hrow
  rcases mem_append.1 hrow with hfront | hlastIn
  · have hascending := state.ascending
    rw [hlast,pairwise_append] at hascending
    have hlt := hascending.2.2 row hfront last (mem_singleton_self _)
    omega
  · rw [mem_singleton.1 hlastIn]
    omega

/-- The rows that one append inserts. -/
def insertAggregateRows (state : SqliteState) (input : AppendGovernanceEvaluationInput)
    (record : GovernanceRecord) : SqliteState where
  evaluations := state.evaluations ++ [⟨record,state.nextChainPosition⟩]
  reasons := state.reasons ++ record.reasonCodes.map fun code => ⟨record.evaluationId,code⟩
  idempotency := state.idempotency ++ input.idempotency.toList.map fun idempotency =>
      claimOf idempotency input.payloadDigest record
  references := state.references
  referenceChains := state.referenceChains
  ascending := pairwise_append.2 ⟨state.ascending,pairwise_singleton _ _, fun row hrow _ hnew => by
      rw [mem_singleton.1 hnew]
      exact chainPosition_lt_next row hrow⟩
  positive := by
    intro row hrow
    rcases mem_append.1 hrow with hrow | hrow
    · exact state.positive row hrow
    · rw [mem_singleton.1 hrow]
      exact Nat.succ_pos _

def appendEvaluation (state : SqliteState) (input : AppendGovernanceEvaluationInput) :
    Except GovernanceStoreError (AppendGovernanceEvaluationResult × SqliteState) :=
  match state.resolveIdempotencySync G input.accessContext input.probe with
  | .error e => .error e
  | .ok (.conflict kind) => .error (conflictError input.requestId kind)
  | .ok (.replay stored) => .ok (replayResult stored, state)
  | .ok .new =>
      match input.build (state.selectChainHead.map (·.record.aggregateDigest))
          state.nextChainPosition with
      | .error e => .error e
      | .ok record =>
          if state.Accepts input record then
            .ok (createdResult record, state.insertAggregateRows input record)
          else .error constraintError

end Evaluations

def appendReferenceTxn (P : Platform) (state : SqliteState) (reference : GovernanceReferenceInput)
    (organizationId : Option String) : Except GovernanceStoreError SqliteState :=
  let head := state.referenceChains.get reference.evaluationId
  if head.any fun head => head.integrityVersion ≠ governanceReferenceIntegrityVersion then
    .error ⟨.schemaVersionUnsupported,"The reference chain for evaluationId '" ++
      reference.evaluationId ++ "' was sealed under reference-integrity version '" ++
      ((head.map (·.integrityVersion)).getD "") ++
      "', which this build cannot verify; refusing to append to it."⟩
  else if state.references.any (·.referenceId == reference.referenceId) then
    .error (alreadyAppended reference.referenceId)
  else
    let chain : ReferenceChain := ⟨state.references,head⟩
    let next := chain.append P organizationId reference
    .ok { state with
      references := next.rows
      referenceChains :=
        match next.head with
        | none => state.referenceChains
        | some head => state.referenceChains.set reference.evaluationId head }

def appendReference (P : Platform) (state : SqliteState)
    (context : GovernanceStoreAccessContext) (reference : GovernanceReferenceInput) :
    Except GovernanceStoreError SqliteState := do
  assertCanonicalReferenceType reference.referenceType
  match ← state.loadVisibleRecord context reference.evaluationId with
  | none => .error (recordNotFound reference.evaluationId)
  | some stored => state.appendReferenceTxn P reference stored.record.organizationId

/-- An append that throws leaves the store as it was. -/
def append (P : Platform) (G : GovernedPath) (state : SqliteState) : Append → SqliteState
  | .evaluation input =>
      match state.appendEvaluation G input with
      | .error _ => state
      | .ok (_, next) => next
  | .reference context reference =>
      match state.appendReference P context reference with
      | .error _ => state
      | .ok next => next

/-- `column = ?`, where the column may be NULL. -/
def equals (column : Option String) : Option String → List Bool
  | none => []
  | some value => [column == some value]

section Reading

variable (G : GovernedPath) (state : SqliteState) (context : GovernanceStoreAccessContext)
  (sought : GovernanceStoreQuery)

/-- The predicate on a row that a governed path stands for. -/
def governedPathClause (row : EvaluationRow) : GovernanceGovernedPathFilter → Bool
  | .executionClaimed =>
      state.references.any fun c => c.evaluationId == row.record.evaluationId &&
        c.referenceType == "execution_record" && c.externalVersion == some "attempt"
  | .executionOpen =>
      state.references.any fun c => c.evaluationId == row.record.evaluationId &&
        c.referenceType == "execution_record" && c.externalVersion == some "attempt" &&
        !state.references.any fun o => o.evaluationId == c.evaluationId &&
          o.referenceType == "execution_record" && o.externalId == c.externalId &&
          G.isDefinitiveExecutionEvidence o.externalVersion
  | .issuanceWithheld =>
      state.references.any fun g => g.evaluationId == row.record.evaluationId &&
        g.referenceType == "issuance_record"
  | .governedAction =>
      state.idempotency.any fun ic => ic.evaluationId == row.record.evaluationId &&
        G.isGovernedActionClaimFor row.record.organizationId row.record.requestId ic.scope
          ic.idempotencyKey

/-- The conditions of the `WHERE` clause, on one row. Text is compared byte by byte. -/
def filterClauses (organizationId : Option String) (row : EvaluationRow) : List Bool :=
  (match organizationId with
    | some organization => [row.record.organizationId == some organization]
    | none => if context.system then [] else [false]) ++
  equals (some row.record.requestId) sought.requestId ++
  equals (some row.record.evaluationId) sought.evaluationId ++
  equals (some row.record.decisionId) sought.decisionId ++
  equals row.record.correlationId sought.correlationId ++ equals (some row.record.actorId) sought.actorId ++
  equals (some row.record.actionType) sought.actionType ++ equals (some row.record.status) sought.status ++
  (sought.reasonCode.toList.map fun code => state.reasons.any fun rc =>
    rc.evaluationId == row.record.evaluationId && rc.reasonCode == code) ++
  (sought.governedPath.toList.map fun filter => state.governedPathClause G row filter) ++
  (sought.evaluatedFrom.toList.map fun start => decide (start ≤ row.record.evaluatedAt)) ++
  (sought.evaluatedTo.toList.map fun stop => decide (row.record.evaluatedAt ≤ stop))

/-- Whether a row answers the query, whatever its position. -/
def matching (organizationId : Option String) (row : EvaluationRow) : Bool :=
  (state.filterClauses G context sought organizationId row).all id

/-- `ORDER BY i.chain_position DESC` -/
def descending (left right : EvaluationRow) : Prop := right.chainPosition ≤ left.chainPosition

instance : DecidableRel descending := fun left right =>
  inferInstanceAs (Decidable (right.chainPosition ≤ left.chainPosition))

def query : Except GovernanceStoreError GovernanceStoreQueryResult := do
  let organizationId ← resolveQueryOrganization context sought
  let limit ← normalizeQueryLimit sought.limit
  let before ← beforePosition sought
  let rows := (state.evaluations.filter fun row =>
    (before.toList.map (fun p => decide (row.chainPosition < p)) ++
      state.filterClauses G context sought organizationId row).all id).insertionSort descending
  return pageOf limit ((rows.take (limit + 1)).map fun row => (row.chainPosition, row.record))

def count : Except GovernanceStoreError Nat := do
  let organizationId ← resolveQueryOrganization context sought
  return (state.evaluations.filter (state.matching G context sought organizationId)).length

end Reading

end SqliteState

end Frontera.GovernanceStore
