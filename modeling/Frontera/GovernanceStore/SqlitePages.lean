import Frontera.GovernanceStore.InMemoryPages
import Frontera.GovernanceStore.SqliteStore

/-! What a query of the SQLite store answers with, as a page of the listing of every row that
matches, and how appends extend that listing. -/

namespace Frontera.GovernanceStore.SqliteState

open Frontera.Data Frontera.Data.KeysetPagination List

variable {P : Platform} {G : GovernedPath} {state later : SqliteState}
  {context : GovernanceStoreAccessContext} {sought : GovernanceStoreQuery}
  {organizationId : Option String}

def entry (row : EvaluationRow) : Nat × GovernanceRecord :=
  (row.chainPosition, row.record)

/-- Every row that matches, from the newest down. -/
def listing (G : GovernedPath) (state : SqliteState) (context : GovernanceStoreAccessContext)
    (sought : GovernanceStoreQuery) (organizationId : Option String) :
    List (Nat × GovernanceRecord) :=
  ((state.evaluations.filter (state.matching G context sought organizationId)).map
    entry).reverse

theorem insertionSort_descending {rows : List EvaluationRow}
    (h : rows.Pairwise fun a b => a.chainPosition < b.chainPosition) :
    rows.insertionSort descending = rows.reverse := by
  induction rows with
  | nil => rfl
  | cons row rows ih =>
    obtain ⟨hfirst,hrest⟩ := pairwise_cons.1 h
    rw [insertionSort_cons,ih hrest,reverse_cons]
    have hbelow : ∀ other ∈ rows.reverse, ¬ descending row other := fun other hother hle => by
      have hlt := hfirst other (mem_reverse.1 hother)
      exact absurd hlt (Nat.not_lt.2 hle)
    generalize rows.reverse = reversed at hbelow
    induction reversed with
    | nil => rfl
    | cons other reversed ihr =>
      rw [List.orderedInsert,if_neg (hbelow other mem_cons_self),
        ihr fun o ho => hbelow o (mem_cons_of_mem _ ho)]
      rfl

theorem query_eq {limit : Nat} {cursor : Option Nat}
    (hscope : resolveQueryOrganization context sought = .ok organizationId)
    (hlimit : normalizeQueryLimit sought.limit = .ok limit) (hcursor : ∀ p ∈ cursor, 0 < p) :
    state.query G context { sought with cursor := cursor.map encodeQueryCursor } =
      .ok (pageOf limit ((below cursor (listing G state context sought organizationId)).take (limit + 1))) := by
  have hscope' : resolveQueryOrganization context
      { sought with cursor := cursor.map encodeQueryCursor } = .ok organizationId := hscope
  have hbefore := beforePosition_encode sought hcursor
  have hrows : (((state.evaluations.filter fun row =>
        (cursor.toList.map (fun p => decide (row.chainPosition < p)) ++
          state.filterClauses G context sought organizationId row).all id).insertionSort
            descending).take (limit + 1)).map (fun row => (row.chainPosition, row.record)) =
      (below cursor (listing G state context sought organizationId)).take (limit + 1) := by
    rw [insertionSort_descending (state.ascending.filter _),map_take,listing,below,
      filter_reverse,filter_map,filter_filter,map_reverse]
    congr 3
    refine filter_congr fun row _ => ?_
    rw [all_append]
    cases cursor with
    | none => rfl
    | some p =>
      simp only [Option.all_some,Option.toList_some,map_cons,map_nil,all_cons,
        all_nil,Bool.and_true,Function.comp_apply]
      rfl
  rw [query,hscope',hlimit,hbefore]
  exact congrArg (fun found => Except.ok (pageOf limit found)) hrows

theorem count_eq (hscope : resolveQueryOrganization context sought = .ok organizationId) :
    state.count G context sought = .ok (listing G state context sought organizationId).length := by
  rw [count,hscope,listing,length_reverse,length_map]
  rfl

/-- What a store that was appended to keeps of what it was. -/
structure Extends (earlier later : SqliteState) : Prop where
  evaluations : ∃ rows, later.evaluations = earlier.evaluations ++ rows
  reasons : ∀ row ∈ earlier.evaluations, later.reasons.filter (·.evaluationId == row.record.evaluationId) =
      earlier.reasons.filter (·.evaluationId == row.record.evaluationId)
  claims : ∀ row ∈ earlier.evaluations,
    later.idempotency.filter (·.evaluationId == row.record.evaluationId) =
      earlier.idempotency.filter (·.evaluationId == row.record.evaluationId)

theorem Extends.refl (state : SqliteState) : Extends state state where
  evaluations := ⟨[],(append_nil _).symm⟩
  reasons _ _ := rfl
  claims _ _ := rfl

theorem Extends.trans {latest : SqliteState} (h : Extends state later)
    (h' : Extends later latest) : Extends state latest := by
  obtain ⟨rows,hrows⟩ := h.evaluations
  obtain ⟨rows',hrows'⟩ := h'.evaluations
  have hsub : ∀ row ∈ state.evaluations, row ∈ later.evaluations := fun row hrow => by
    rw [hrows]
    exact mem_append_left _ hrow
  exact {
    evaluations := ⟨rows ++ rows',by rw [hrows',hrows,append_assoc]⟩
    reasons := fun row hrow => (h'.reasons row (hsub row hrow)).trans (h.reasons row hrow)
    claims := fun row hrow => (h'.claims row (hsub row hrow)).trans (h.claims row hrow) }

variable {input : AppendGovernanceEvaluationInput} {reference : GovernanceReferenceInput}

theorem insertAggregateRows_extends {record : GovernanceRecord} (h : state.Accepts input record) :
    Extends state (state.insertAggregateRows input record) := by
  have hnew : ∀ row ∈ state.evaluations, record.evaluationId ≠ row.record.evaluationId :=
    fun row hrow => (h.1 row hrow).2.1.symm
  refine ⟨⟨_,rfl⟩,fun row hrow => ?_,fun row hrow => ?_⟩
  · have hnone : (record.reasonCodes.map fun code => ReasonRow.mk record.evaluationId code).filter
        (·.evaluationId == row.record.evaluationId) = [] := by
      refine filter_eq_nil_iff.2 fun reason hreason => ?_
      obtain ⟨code,-,rfl⟩ := mem_map.1 hreason
      simpa using hnew row hrow
    rw [insertAggregateRows,filter_append,hnone,append_nil]
  · have hnone : (input.idempotency.toList.map fun idempotency =>
        claimOf idempotency input.payloadDigest record).filter
        (·.evaluationId == row.record.evaluationId) = [] := by
      refine filter_eq_nil_iff.2 fun claim hclaim => ?_
      obtain ⟨idempotency,-,rfl⟩ := mem_map.1 hclaim
      simpa [claimOf] using hnew row hrow
    rw [insertAggregateRows,filter_append,hnone,append_nil]

theorem appendEvaluation_extends {result : AppendGovernanceEvaluationResult}
    (h : state.appendEvaluation G input = .ok (result, later)) : Extends state later := by
  rw [appendEvaluation] at h
  split at h
  · cases h
  · cases h
  · cases h
    exact Extends.refl state
  · split at h
    · cases h
    · split at h
      · next haccepts =>
        cases h
        exact insertAggregateRows_extends haccepts
      · cases h

theorem appendReferenceTxn_extends
    (h : state.appendReferenceTxn P reference organizationId = .ok later) :
    Extends state later := by
  rw [appendReferenceTxn] at h
  simp only at h
  split at h
  · cases h
  · split at h
    · cases h
    · cases h
      exact ⟨⟨[],(append_nil _).symm⟩,fun _ _ => rfl,fun _ _ => rfl⟩

theorem appendReference_extends (h : state.appendReference P context reference = .ok later) :
    Extends state later := by
  rw [appendReference] at h
  cases htype : assertCanonicalReferenceType reference.referenceType with
  | error e =>
    rw [htype] at h
    cases h
  | ok =>
    cases hload : state.loadVisibleRecord context reference.evaluationId with
    | error e =>
      rw [htype,hload] at h
      cases h
    | ok found =>
      rw [htype,hload] at h
      cases found with
      | none => cases h
      | some stored => exact appendReferenceTxn_extends h

theorem append_extends (action : Append) : Extends state (state.append P G action) := by
  cases action with
  | evaluation input =>
    rw [append]
    split
    · exact Extends.refl state
    · next h => exact appendEvaluation_extends h
  | reference context reference =>
    rw [append]
    split
    · exact Extends.refl state
    · next h => exact appendReference_extends h

theorem run_extends (actions : List Append) :
    ∀ state : SqliteState, Extends state (actions.foldl (append P G) state) := by
  induction actions with
  | nil => exact Extends.refl
  | cons action actions ih =>
    intro state
    exact (append_extends action).trans (ih _)

theorem matching_of_extends (h : Extends state later) (hfilter : sought.ReadsNoReference)
    {row : EvaluationRow} (hrow : row ∈ state.evaluations) :
    later.matching G context sought organizationId row =
      state.matching G context sought organizationId row := by
  have hreasons : ∀ code, (later.reasons.any fun rc =>
        rc.evaluationId == row.record.evaluationId && rc.reasonCode == code) =
      state.reasons.any fun rc =>
        rc.evaluationId == row.record.evaluationId && rc.reasonCode == code := by
    intro code
    rw [← any_filter,← any_filter,h.reasons row hrow]
  have hclaims : later.governedPathClause G row .governedAction =
      state.governedPathClause G row .governedAction := by
    rw [governedPathClause,governedPathClause,← any_filter,← any_filter,h.claims row hrow]
  have hpath : sought.governedPath.toList.map (later.governedPathClause G row) =
      sought.governedPath.toList.map (state.governedPathClause G row) := by
    rcases hfilter with hnone | hgoverned
    · rw [hnone]
      rfl
    · rw [hgoverned]
      exact congrArg (fun clause => [clause]) hclaims
  simp only [matching,filterClauses,hreasons,hpath]

theorem mem_listing {e : Nat × GovernanceRecord} : e ∈ listing G state context sought organizationId ↔
      ∃ row ∈ state.evaluations, state.matching G context sought organizationId row = true ∧
        (row.chainPosition, row.record) = e := by
  rw [listing,mem_reverse,mem_map]
  simp only [mem_filter,and_assoc]
  rfl

theorem listing_positive : ∀ e ∈ listing G state context sought organizationId, 0 < e.1 := by
  intro e he
  obtain ⟨row,hrow,-,rfl⟩ := mem_listing.1 he
  exact state.positive row hrow

theorem listing_descending :
    (listing G state context sought organizationId).Pairwise fun a b => b.1 < a.1 := by
  rw [listing,pairwise_reverse,pairwise_map]
  exact state.ascending.filter _

theorem listing_growsTo (h : Extends state later) (hfilter : sought.ReadsNoReference) :
    GrowsTo (listing G state context sought organizationId)
      (listing G later context sought organizationId) := by
  obtain ⟨rows,hrows⟩ := h.evaluations
  have hold : state.evaluations.filter (later.matching G context sought organizationId) =
      state.evaluations.filter (state.matching G context sought organizationId) :=
    filter_congr fun row hrow => matching_of_extends h hfilter hrow
  refine ⟨((rows.filter (later.matching G context sought organizationId)).map entry).reverse,
    ?_,fun e he o ho => ?_⟩
  · rw [listing,hrows,filter_append,hold,map_append,reverse_append]
    rfl
  · obtain ⟨new,hnew,rfl⟩ := mem_map.1 (mem_reverse.1 he)
    obtain ⟨old,hold,-,rfl⟩ := mem_listing.1 ho
    have hascending := later.ascending
    rw [hrows,pairwise_append] at hascending
    exact hascending.2.2 old hold new (mem_of_mem_filter hnew)

end Frontera.GovernanceStore.SqliteState
