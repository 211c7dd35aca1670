import Frontera.Data.KeysetPagination
import Frontera.GovernanceStore.InMemoryStore

/-! What a query of the in-memory store answers with, as a page of the listing of everything that
matches, and how appends extend that listing. -/

namespace Frontera.GovernanceStore

open Frontera.Data Frontera.Data.KeysetPagination List

theorem pageOf_take (limit : Nat) (entries : List (Nat × GovernanceRecord)) :
    pageOf limit (entries.take (limit + 1)) =
      { records := (entries.take limit).map fun e => toGovernanceRecordSummary e.2
        nextCursor := (KeysetPagination.next limit entries).map encodeQueryCursor } := by
  have hpage : (entries.take (limit + 1)).take limit = entries.take limit := by
    rw [take_take,Nat.min_eq_left (by omega)]
  rw [pageOf,hpage,KeysetPagination.next]
  by_cases h : limit < entries.length
  · have hmore : limit < (entries.take (limit + 1)).length := by
      rw [length_take]
      omega
    rw [if_pos hmore,if_pos h,Option.map_map]
    rfl
  · have hlast : ¬ limit < (entries.take (limit + 1)).length := by
      rw [length_take]
      omega
    rw [if_neg hlast,if_neg h]
    rfl

theorem beforePosition_encode (sought : GovernanceStoreQuery) {cursor : Option Nat}
    (h : ∀ p ∈ cursor, 0 < p) :
    beforePosition { sought with cursor := cursor.map encodeQueryCursor } = .ok cursor := by
  cases cursor with
  | none => rfl
  | some p =>
    have hp := decodeQueryCursor_encode (h p rfl)
    simp only [beforePosition,Option.map_some,hp]
    rfl

theorem matchesQueryFilters_references (G : GovernedPath) (record : GovernanceRecord)
    (references references' : List GovernanceReferenceRecord) {sought : GovernanceStoreQuery}
    (h : sought.ReadsNoReference) (organizationId : Option String)
    (claim : Option GovernanceIdempotencyRecord) :
    matchesQueryFilters G record references sought organizationId claim =
      matchesQueryFilters G record references' sought organizationId claim := by
  rcases h with h | h <;> simp only [matchesQueryFilters,h] <;> rfl

namespace InMemoryState

variable {P : Platform} {G : GovernedPath} {state later : InMemoryState}
  {context : GovernanceStoreAccessContext} {sought : GovernanceStoreQuery}
  {organizationId : Option String}

/-- What matches among some evaluations and their positions. -/
def hits (G : GovernedPath) (state : InMemoryState) (context : GovernanceStoreAccessContext)
    (sought : GovernanceStoreQuery) (organizationId : Option String)
    (entries : List (String × Nat)) : List (Nat × GovernanceRecord) :=
  entries.filterMap fun e =>
    (state.matching G context sought organizationId e.1).map fun record => (e.2, record)

/-- Everything that matches, from the newest down. -/
def listing (G : GovernedPath) (state : InMemoryState) (context : GovernanceStoreAccessContext)
    (sought : GovernanceStoreQuery) (organizationId : Option String) :
    List (Nat × GovernanceRecord) :=
  hits G state context sought organizationId state.positions

theorem hits_cons (e : String × Nat) (entries : List (String × Nat)) :
    hits G state context sought organizationId (e :: entries) =
      match state.matching G context sought organizationId e.1 with
      | none => hits G state context sought organizationId entries
      | some record => (e.2, record) :: hits G state context sought organizationId entries := by
  rw [hits,filterMap_cons]
  cases state.matching G context sought organizationId e.1 <;> rfl

theorem scan_eq (limit : Nat) (before : Option Nat) (entries : List (String × Nat)) :
    ∀ found : List (Nat × GovernanceRecord), found.length ≤ limit →
      state.scan G context sought organizationId limit before entries found =
        found ++ (below before (hits G state context sought organizationId entries)).take
          (limit + 1 - found.length) := by
  induction entries with
  | nil =>
    intro found _
    simp [scan,hits,below]
  | cons e entries ih =>
    intro found hfound
    obtain ⟨evaluationId,position⟩ := e
    rw [scan,hits_cons]
    by_cases hbefore : before.any (· ≤ position) = true
    · rw [if_pos hbefore,ih found hfound]
      cases state.matching G context sought organizationId evaluationId with
      | none => rfl
      | some record =>
        have hskip : (before.all fun p => decide (position < p)) = false := by
          cases before with
          | none => exact absurd hbefore (by simp)
          | some p => simpa using hbefore
        simp only [below,filter_cons,hskip,Bool.false_eq_true,if_false]
    · rw [if_neg hbefore]
      have hkeep : (before.all fun p => decide (position < p)) = true := by
        cases before with
        | none => rfl
        | some p => simpa using hbefore
      cases state.matching G context sought organizationId evaluationId with
      | none => exact ih found hfound
      | some record =>
        simp only [below,filter_cons,hkeep,if_true]
        by_cases hfull : limit < (found ++ [(position, record)]).length
        · have hlength : limit + 1 - found.length = 1 := by
            rw [length_append,length_singleton] at hfull
            omega
          rw [if_pos hfull,hlength]
          rfl
        · rw [if_neg hfull,ih _ (by omega),append_assoc]
          have hroom : limit + 1 - found.length =
              (limit + 1 - (found ++ [(position, record)]).length) + 1 := by
            rw [length_append,length_singleton] at hfull ⊢
            omega
          rw [hroom,take_succ_cons]
          rfl

theorem query_eq {limit : Nat} {cursor : Option Nat}
    (hscope : resolveQueryOrganization context sought = .ok organizationId)
    (hlimit : normalizeQueryLimit sought.limit = .ok limit) (hcursor : ∀ p ∈ cursor, 0 < p) :
    state.query G context { sought with cursor := cursor.map encodeQueryCursor } =
      .ok (pageOf limit ((below cursor (listing G state context sought organizationId)).take (limit + 1))) := by
  have hscope' : resolveQueryOrganization context
      { sought with cursor := cursor.map encodeQueryCursor } = .ok organizationId := hscope
  have hbefore := beforePosition_encode sought hcursor
  have hscan : state.scan G context { sought with cursor := cursor.map encodeQueryCursor }
      organizationId limit cursor state.positions [] =
      (below cursor (listing G state context sought organizationId)).take (limit + 1) :=
    scan_eq limit cursor state.positions [] (Nat.zero_le _)
  rw [query,hscope',hlimit,hbefore]
  exact congrArg (fun found => Except.ok (pageOf limit found)) hscan

theorem count_eq (hscope : resolveQueryOrganization context sought = .ok organizationId) :
    state.count G context sought = .ok (listing G state context sought organizationId).length := by
  have hlength : (listing G state context sought organizationId).length =
      state.chain.countP fun id => (state.matching G context sought organizationId id).isSome := by
    rw [listing,hits,positions,filterMap_reverse,length_reverse]
    generalize 1 = start
    induction state.chain generalizing start with
    | nil => rfl
    | cons id rest ih =>
      rw [zipIdx_cons,filterMap_cons,countP_cons,← ih]
      cases state.matching G context sought organizationId id <;> rfl
  rw [count,hscope,hlength]
  rfl

/-- What a store that was appended to keeps of what it was. -/
structure Extends (earlier later : InMemoryState) : Prop where
  chain : ∃ ids, later.chain = earlier.chain ++ ids
  aggregates : ∀ id ∈ earlier.chain, later.aggregates.get id = earlier.aggregates.get id
  claims : ∀ id ∈ earlier.chain,
    later.idempotencyByEvaluationId.get id = earlier.idempotencyByEvaluationId.get id

theorem Extends.refl (state : InMemoryState) : Extends state state where
  chain := ⟨[],(append_nil _).symm⟩
  aggregates _ _ := rfl
  claims _ _ := rfl

theorem Extends.trans {latest : InMemoryState} (h : Extends state later)
    (h' : Extends later latest) : Extends state latest := by
  obtain ⟨ids,hids⟩ := h.chain
  obtain ⟨ids',hids'⟩ := h'.chain
  have hsub : ∀ id ∈ state.chain, id ∈ later.chain := fun id hid => by
    rw [hids]
    exact mem_append_left _ hid
  exact {
    chain := ⟨ids ++ ids',by rw [hids',hids,append_assoc]⟩
    aggregates := fun id hid => (h'.aggregates id (hsub id hid)).trans (h.aggregates id hid)
    claims := fun id hid => (h'.claims id (hsub id hid)).trans (h.claims id hid) }

theorem commit_extends (input : AppendGovernanceEvaluationInput) (record : GovernanceRecord)
    (h : state.aggregates.get record.evaluationId = none) :
    Extends state (state.commit input record h) := by
  have hnew : ∀ id ∈ state.chain, id ≠ record.evaluationId := by
    rintro id hid rfl
    exact state.recorded _ hid h
  refine ⟨⟨_,rfl⟩,fun id hid => ?_,fun id hid => ?_⟩
  · rw [commit,OrderedMap.get_set_of_get_none h,if_neg (hnew id hid)]
  · cases hidempotency : input.idempotency with
    | none => simp only [commit,hidempotency]
    | some idempotency =>
      simp only [commit,hidempotency]
      rw [OrderedMap.get_set,if_neg (hnew id hid)]

theorem appendEvaluation_extends {input : AppendGovernanceEvaluationInput}
    {result : AppendGovernanceEvaluationResult}
    (h : state.appendEvaluation G input = .ok (result, later)) : Extends state later := by
  rw [appendEvaluation] at h
  split at h
  · cases h
  · cases h
  · cases h
    exact Extends.refl state
  · split at h
    · cases h
    · split at h
      · cases h
      · split at h
        · cases h
          exact commit_extends input _ _
        · cases h

theorem writeReferences_extends (evaluationId : String) (chain : ReferenceChain) :
    Extends state (state.writeReferences evaluationId chain) where
  chain := ⟨[],(append_nil _).symm⟩
  aggregates _ _ := rfl
  claims _ _ := rfl

theorem appendReference_extends {reference : GovernanceReferenceInput}
    (h : state.appendReference P context reference = .ok later) : Extends state later := by
  rw [appendReference] at h
  cases htype : assertCanonicalReferenceType reference.referenceType with
  | error e =>
    rw [htype] at h
    cases h
  | ok =>
    cases hload : state.loadVisibleRecord context reference.evaluationId with
    | error e =>
      rw [htype,hload] at h
      cases h
    | ok found =>
      cases found with
      | none =>
        rw [htype,hload] at h
        cases h
      | some stored =>
        rw [htype,hload] at h
        simp only [bind,Except.bind] at h
        split at h
        · cases h
        · cases h
          exact writeReferences_extends _ _

theorem append_extends (action : Append) : Extends state (state.append P G action) := by
  cases action with
  | evaluation input =>
    rw [append]
    split
    · exact Extends.refl state
    · next h => exact appendEvaluation_extends h
  | reference context reference =>
    rw [append]
    split
    · exact Extends.refl state
    · next h => exact appendReference_extends h

theorem run_extends (actions : List Append) :
    ∀ state : InMemoryState, Extends state (actions.foldl (append P G) state) := by
  induction actions with
  | nil => exact Extends.refl
  | cons action actions ih =>
    intro state
    exact (append_extends action).trans (ih _)

theorem matching_of_extends (h : Extends state later) (hfilter : sought.ReadsNoReference)
    {id : String} (hid : id ∈ state.chain) :
    later.matching G context sought organizationId id =
      state.matching G context sought organizationId id := by
  rw [matching,matching,h.aggregates id hid,h.claims id hid]
  cases state.aggregates.get id with
  | none => rfl
  | some record =>
    simp only [matchesQueryFilters_references G record _ (state.references id) hfilter]

theorem mem_positions {e : String × Nat} :
    e ∈ state.positions ↔ 1 ≤ e.2 ∧ state.chain[e.2 - 1]? = some e.1 := by
  obtain ⟨id,position⟩ := e
  rw [positions,mem_reverse,mem_zipIdx_iff_le_and_getElem?_sub]

theorem mem_listing {e : Nat × GovernanceRecord} : e ∈ listing G state context sought organizationId ↔
      ∃ id, 1 ≤ e.1 ∧ state.chain[e.1 - 1]? = some id ∧
        state.matching G context sought organizationId id = some e.2 := by
  rw [listing,hits,mem_filterMap]
  constructor
  · rintro ⟨entry,hentry,hmatch⟩
    obtain ⟨record,hrecord,rfl⟩ := Option.map_eq_some_iff.1 hmatch
    obtain ⟨hposition,hid⟩ := mem_positions.1 hentry
    exact ⟨entry.1,hposition,hid,hrecord⟩
  · rintro ⟨id,hposition,hid,hrecord⟩
    exact ⟨(id, e.1),mem_positions.2 ⟨hposition,hid⟩,by rw [hrecord]; rfl⟩

theorem listing_positive : ∀ e ∈ listing G state context sought organizationId, 0 < e.1 := by
  intro e he
  obtain ⟨id,hposition,-⟩ := mem_listing.1 he
  exact hposition

theorem listing_descending :
    (listing G state context sought organizationId).Pairwise fun a b => b.1 < a.1 := by
  have hpositions : state.positions.Pairwise fun a b => b.2 < a.2 := by
    rw [positions,pairwise_reverse,← pairwise_map]
    rw [zipIdx_map_snd]
    exact pairwise_lt_range'
  rw [listing,hits,pairwise_filterMap]
  refine hpositions.imp fun {a b} hlt e he e' he' => ?_
  obtain ⟨_,-,rfl⟩ := Option.map_eq_some_iff.1 he
  obtain ⟨_,-,rfl⟩ := Option.map_eq_some_iff.1 he'
  exact hlt

theorem listing_growsTo (h : Extends state later) (hfilter : sought.ReadsNoReference) :
    GrowsTo (listing G state context sought organizationId)
      (listing G later context sought organizationId) := by
  obtain ⟨ids,hids⟩ := h.chain
  have hsplit : later.positions = (ids.zipIdx (1 + state.chain.length)).reverse ++ state.positions := by
    rw [positions,hids,zipIdx_append,reverse_append,positions]
  have hold : hits G later context sought organizationId state.positions =
      listing G state context sought organizationId := by
    refine filterMap_congr fun e he => ?_
    rw [matching_of_extends h hfilter (mem_of_getElem? (mem_positions.1 he).2)]
  refine ⟨hits G later context sought organizationId (ids.zipIdx (1 + state.chain.length)).reverse,
    ?_,fun e he o ho => ?_⟩
  · rw [← hold,listing,hsplit,hits,filterMap_append]
    rfl
  · obtain ⟨entry,hentry,hmatch⟩ := mem_filterMap.1 he
    obtain ⟨_,-,rfl⟩ := Option.map_eq_some_iff.1 hmatch
    have hnew := (mem_zipIdx_iff_le_and_getElem?_sub.1 (mem_reverse.1 hentry)).1
    obtain ⟨id,hposition,hid,-⟩ := mem_listing.1 ho
    obtain ⟨hlt,-⟩ := List.getElem?_eq_some_iff.1 hid
    simp only
    omega

end InMemoryState

end Frontera.GovernanceStore
