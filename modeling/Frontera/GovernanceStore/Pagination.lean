import Frontera.GovernanceStore.SqlitePages

/-! Following the cursors of a query over either store, while evaluations go on being appended. -/

namespace Frontera.GovernanceStore

open Frontera.Data Frontera.Data.KeysetPagination

/-- A store, of either provider. -/
inductive ProviderStore where
  | memory (state : InMemoryState)
  | sqlite (state : SqliteState)

namespace ProviderStore

section Operations

variable (P : Platform) (G : GovernedPath)

def append : ProviderStore → Append → ProviderStore
  | .memory state, action => .memory (state.append P G action)
  | .sqlite state, action => .sqlite (state.append P G action)

def query (store : ProviderStore) (context : GovernanceStoreAccessContext)
    (sought : GovernanceStoreQuery) : Except GovernanceStoreError GovernanceStoreQueryResult :=
  match store with
  | .memory state => state.query G context sought
  | .sqlite state => state.query G context sought

def count (store : ProviderStore) (context : GovernanceStoreAccessContext)
    (sought : GovernanceStoreQuery) : Except GovernanceStoreError Nat :=
  match store with
  | .memory state => state.count G context sought
  | .sqlite state => state.count G context sought

/-- A record at its chain position that a query matches. -/
def Matches (store : ProviderStore) (context : GovernanceStoreAccessContext)
    (sought : GovernanceStoreQuery) (organizationId : Option String) (position : Nat)
    (record : GovernanceRecord) : Prop :=
  match store with
  | .memory state => ∃ id, 1 ≤ position ∧ state.chain[position - 1]? = some id ∧
      state.matching G context sought organizationId id = some record
  | .sqlite state => ∃ row ∈ state.evaluations, state.matching G context sought organizationId row = true ∧
        (row.chainPosition, row.record) = (position, record)

/-- The page of a query at a cursor. -/
def readPage (store : ProviderStore) (context : GovernanceStoreAccessContext)
    (sought : GovernanceStoreQuery) (cursor : Option String) :
    Option (List GovernanceRecordSummary × Option String) :=
  (store.query G context { sought with cursor }).toOption.map fun result =>
    (result.records, result.nextCursor)

end Operations

variable {P : Platform} {G : GovernedPath} {context : GovernanceStoreAccessContext}
  {sought : GovernanceStoreQuery} {organizationId : Option String}

def listing (G : GovernedPath) (store : ProviderStore) (context : GovernanceStoreAccessContext)
    (sought : GovernanceStoreQuery) (organizationId : Option String) :
    List (Nat × GovernanceRecord) :=
  match store with
  | .memory state => InMemoryState.listing G state context sought organizationId
  | .sqlite state => SqliteState.listing G state context sought organizationId

theorem mem_listing {store : ProviderStore} {e : Nat × GovernanceRecord} :
    e ∈ listing G store context sought organizationId ↔
      store.Matches G context sought organizationId e.1 e.2 := by
  cases store with
  | memory state => exact InMemoryState.mem_listing
  | sqlite state => exact SqliteState.mem_listing

theorem listing_positive (store : ProviderStore) :
    ∀ e ∈ listing G store context sought organizationId, 0 < e.1 := by
  cases store with
  | memory state => exact InMemoryState.listing_positive
  | sqlite state => exact SqliteState.listing_positive

theorem listing_descending (store : ProviderStore) :
    (listing G store context sought organizationId).Pairwise fun a b => b.1 < a.1 := by
  cases store with
  | memory state => exact InMemoryState.listing_descending
  | sqlite state => exact SqliteState.listing_descending

/-- What either provider keeps when it is appended to. -/
def Extends : ProviderStore → ProviderStore → Prop
  | .memory earlier, .memory later => InMemoryState.Extends earlier later
  | .sqlite earlier, .sqlite later => SqliteState.Extends earlier later
  | _, _ => False

theorem run_extends (store : ProviderStore) (actions : List Append) :
    Extends store (actions.foldl (append P G) store) := by
  cases store with
  | memory state =>
    have hrun : ∀ state : InMemoryState, actions.foldl (append P G) (.memory state) =
        .memory (actions.foldl (InMemoryState.append P G) state) := by
      induction actions with
      | nil => exact fun _ => rfl
      | cons action actions ih => exact fun state => ih (state.append P G action)
    rw [hrun]
    exact InMemoryState.run_extends actions state
  | sqlite state =>
    have hrun : ∀ state : SqliteState, actions.foldl (append P G) (.sqlite state) =
        .sqlite (actions.foldl (SqliteState.append P G) state) := by
      induction actions with
      | nil => exact fun _ => rfl
      | cons action actions ih => exact fun state => ih (state.append P G action)
    rw [hrun]
    exact SqliteState.run_extends actions state

theorem listing_growsTo {earlier later : ProviderStore} (h : Extends earlier later)
    (hfilter : sought.ReadsNoReference) :
    GrowsTo (listing G earlier context sought organizationId)
      (listing G later context sought organizationId) := by
  match earlier, later, h with
  | .memory _, .memory _, h => exact InMemoryState.listing_growsTo h hfilter
  | .sqlite _, .sqlite _, h => exact SqliteState.listing_growsTo h hfilter

theorem Extends.refl (store : ProviderStore) : Extends store store := by
  cases store with
  | memory state => exact InMemoryState.Extends.refl state
  | sqlite state => exact SqliteState.Extends.refl state

theorem Extends.trans {a b c : ProviderStore} (h : Extends a b) (h' : Extends b c) : Extends a c := by
  match a, b, c, h, h' with
  | .memory _, .memory _, .memory _, h, h' => exact InMemoryState.Extends.trans h h'
  | .sqlite _, .sqlite _, .sqlite _, h, h' => exact SqliteState.Extends.trans h h'

theorem readPage_eq (store : ProviderStore) {limit : Nat} {cursor : Option Nat}
    (hscope : resolveQueryOrganization context sought = .ok organizationId)
    (hlimit : normalizeQueryLimit sought.limit = .ok limit) (hcursor : ∀ p ∈ cursor, 0 < p) :
    store.readPage G context sought (cursor.map encodeQueryCursor) =
      some (((below cursor (listing G store context sought organizationId)).take limit).map
          (fun e => toGovernanceRecordSummary e.2),
        (next limit (below cursor (listing G store context sought organizationId))).map
          encodeQueryCursor) := by
  cases store with
  | memory state =>
    rw [readPage,query,InMemoryState.query_eq hscope hlimit hcursor,pageOf_take]
    rfl
  | sqlite state =>
    rw [readPage,query,SqliteState.query_eq hscope hlimit hcursor,pageOf_take]
    rfl

theorem count_eq (store : ProviderStore)
    (hscope : resolveQueryOrganization context sought = .ok organizationId) :
    store.count G context sought = .ok (listing G store context sought organizationId).length := by
  cases store with
  | memory state => exact InMemoryState.count_eq hscope
  | sqlite state => exact SqliteState.count_eq hscope

theorem normalizeQueryLimit_of_le {limit : Nat} (hpositive : 1 ≤ limit) (hmax : limit ≤ 200) :
    normalizeQueryLimit (some limit) = .ok limit := by
  have hmax' : (limit : Int) ≤ governanceQueryMaxLimit := by
    rw [governanceQueryMaxLimit]
    omega
  rw [normalizeQueryLimit,if_neg (by omega),Int.toNat_natCast]

/-- Following the cursors from the first page ends, and gives what matched when it was read, each
record once and in descending chain position, whatever is appended between the pages. -/
theorem pagination_exact (P : Platform) (G : GovernedPath)
    (context : GovernanceStoreAccessContext) (sought : GovernanceStoreQuery)
    (organizationId : Option String) (limit : Nat) (stores : Nat → ProviderStore)
    (happends : ∀ n, ∃ actions : List Append, stores (n + 1) = actions.foldl (append P G) (stores n))
    (hscope : resolveQueryOrganization context sought = .ok organizationId)
    (hlimit : sought.limit = some (limit : Int)) (hpositive : 1 ≤ limit) (hmax : limit ≤ 200)
    (hfilter : sought.ReadsNoReference) :
    ∃ hits : List (Nat × GovernanceRecord), (∀ position record, (position, record) ∈ hits ↔
        (stores 0).Matches G context sought organizationId position record) ∧
      hits.Pairwise (fun a b => b.1 < a.1) ∧ (∀ fuel, hits.length < fuel →
        followPages (fun n cursor => (stores n).readPage G context sought cursor) fuel 0 none =
          some (hits.map fun hit => toGovernanceRecordSummary hit.2)) ∧
      (stores 0).count G context sought = .ok hits.length := by
  have hnormal : normalizeQueryLimit sought.limit = .ok limit := by
    rw [hlimit]
    exact normalizeQueryLimit_of_le hpositive hmax
  have hextends : ∀ n, Extends (stores 0) (stores n) := by
    intro n
    induction n with
    | zero => exact Extends.refl _
    | succ n ih =>
      obtain ⟨actions,hactions⟩ := happends n
      rw [hactions]
      exact ih.trans (run_extends _ actions)
  have hreads : Reads (fun n => listing G (stores n) context sought organizationId) limit
      encodeQueryCursor toGovernanceRecordSummary
      (fun n cursor => (stores n).readPage G context sought cursor) :=
    ⟨fun n _ hcursor => readPage_eq (stores n) hscope hnormal hcursor⟩
  refine ⟨listing G (stores 0) context sought organizationId,fun position record => mem_listing,
    listing_descending _,fun fuel hfuel => ?_,count_eq _ hscope⟩
  exact followPages_eq hpositive hreads (fun n => listing_growsTo (hextends n) hfilter)
    (listing_descending _) (listing_positive _) hfuel

def sampleContext : GovernanceStoreAccessContext := ⟨some "org-1",false⟩

def sampleQuery : GovernanceStoreQuery where
  organizationId := none
  requestId := none
  evaluationId := none
  decisionId := none
  correlationId := none
  actorId := none
  actionType := none
  status := none
  reasonCode := none
  governedPath := none
  evaluatedFrom := none
  evaluatedTo := none
  limit := some 1
  cursor := none

def sampleEvaluation (organizationId name : String) : Append :=
  .evaluation {
    accessContext := ⟨none,true⟩
    requestId := "request-" ++ name
    payloadDigest := "payload-" ++ name
    idempotency := none
    build := fun _ _ => .ok {
      evaluationId := "evaluation-" ++ name
      decisionId := "decision-" ++ name
      requestId := "request-" ++ name
      correlationId := none
      organizationId := some organizationId
      actorId := "actor"
      actionType := "payment"
      status := "approved"
      reasonCodes := []
      evaluatedAt := "2026-01-01T00:00:00.000Z"
      persistedAt := "2026-01-01T00:00:00.000Z"
      aggregateDigest := "aggregate-" ++ name
      payloadDigest := "payload-" ++ name } }

def sampleAppends : List Append :=
  [sampleEvaluation "org-1" "a", sampleEvaluation "org-2" "b", sampleEvaluation "org-1" "c"]

def sampleGovernedPath : GovernedPath := ⟨fun _ => false,fun _ _ _ _ => false⟩

def samplePaginationPlatform : Platform := tabulatedPlatform []

def sampleStores : Nat → ProviderStore
  | 0 => sampleAppends.foldl (append samplePaginationPlatform sampleGovernedPath)
      (.memory InMemoryState.initial)
  | n + 1 => sampleAppends.foldl (append samplePaginationPlatform sampleGovernedPath)
      (sampleStores n)

example : ((sampleStores 0).readPage sampleGovernedPath sampleContext sampleQuery none).map
    (fun page => page.1.map (·.evaluationId)) = some ["evaluation-c"] := by decide

theorem sampleStores_paged : ∃ hits : List (Nat × GovernanceRecord),
      (∀ position record, (position, record) ∈ hits ↔
        (sampleStores 0).Matches sampleGovernedPath sampleContext sampleQuery (some "org-1")
          position record) ∧
      hits.Pairwise (fun a b => b.1 < a.1) ∧ (∀ fuel, hits.length < fuel →
        followPages (fun n cursor => (sampleStores n).readPage sampleGovernedPath sampleContext
          sampleQuery cursor) fuel 0 none = some (hits.map fun hit => toGovernanceRecordSummary hit.2)) ∧
      (sampleStores 0).count sampleGovernedPath sampleContext sampleQuery = .ok hits.length :=
  pagination_exact samplePaginationPlatform sampleGovernedPath sampleContext sampleQuery
    (some "org-1") 1 sampleStores (fun _ => ⟨sampleAppends,rfl⟩) rfl rfl (by decide) (by decide)
    (.inl rfl)

end ProviderStore

end Frontera.GovernanceStore
