import Frontera.Freshness.Witness

/-! The row of a slot is what its history replays to; the history holds one head for each sequence,
and the prepared successor, if there is one, directly follows the committed head.
Compare-and-advance keeps all of it. -/

namespace Frontera.Freshness

open List

def replayRecord (row : Option BindingRow) (record : WitnessRecord) : Option BindingRow :=
  match record.event with
  | .enrolledGenesis | .enrolledBaseline => some ⟨record.storeId,record.head,none⟩
  | .prepared => row.map fun r => { r with pending := some record.head }
  | .finalized => row.map fun r => ⟨r.storeId,record.head,none⟩

/-- The row a slot's records lead to. -/
def replay (log : List WitnessRecord) : Option BindingRow := log.foldl replayRecord none

theorem replay_append (log : List WitnessRecord) (record : WitnessRecord) :
    replay (log ++ [record]) = replayRecord (replay log) record := by
  simp only [replay,foldl_append,foldl_cons,foldl_nil]

/-- The row and the records of one slot. -/
structure LogSound (row : Option BindingRow) (log : List WitnessRecord) : Prop where
  replays : replay log = row
  successor : ∀ r pending, row = some r → r.pending = some pending →
    pending.sequence = r.committed.sequence + 1
  once : ∀ a ∈ log, ∀ b ∈ log, a.head.sequence = b.head.sequence → a.head = b.head
  within : ∀ a ∈ log, ∃ r, row = some r ∧ a.storeId = r.storeId ∧
    (a.head.sequence ≤ r.committed.sequence ∨ r.pending = some a.head)
  committed : ∀ r, row = some r → ∃ a ∈ log, a.head = r.committed
  prepared : ∀ r pending, row = some r → r.pending = some pending → ⟨.prepared,r.storeId,pending⟩ ∈ log

theorem logSound_empty : LogSound none [] where
  replays := rfl
  successor r pending h := by cases h
  once a ha := by cases ha
  within a ha := by cases ha
  committed r h := by cases h
  prepared r pending h := by cases h

theorem applyRequest_cases (elsewhere : Bool) (existing : Option BindingRow)
    (request : WitnessRequest) :
    ((applyRequest elsewhere existing request).row = existing ∧
      (applyRequest elsewhere existing request).recorded = []) ∨
    (∃ enrollment checkpoint, request = .enroll enrollment checkpoint ∧ existing = none ∧
      applyRequest elsewhere existing request = ⟨.enrolled,
        some ⟨checkpoint.storeId,checkpoint.head,none⟩,[recordOf (if enrollment = .genesis then
          .enrolledGenesis else .enrolledBaseline) checkpoint]⟩) ∨
    (∃ expected proposed row, request = .prepare expected proposed ∧ existing = some row ∧
      row.storeId = expected.storeId ∧ row.committed = expected.head ∧ row.pending = none ∧
      applyRequest elsewhere existing request = ⟨.prepared,
        some { row with pending := some proposed.head },[recordOf .prepared proposed]⟩) ∨
    ∃ checkpoint row, request = .finalize checkpoint ∧ existing = some row ∧
      row.storeId = checkpoint.storeId ∧ row.pending = some checkpoint.head ∧
      applyRequest elsewhere existing request = ⟨.finalized,
        some ⟨row.storeId,checkpoint.head,none⟩,[recordOf .finalized checkpoint]⟩ := by
  cases request with
  | read binding => exact .inl ⟨rfl,rfl⟩
  | enroll enrollment checkpoint =>
    cases existing with
    | some row =>
      left
      simp only [applyRequest]
      split_ifs <;> exact ⟨rfl,rfl⟩
    | none =>
      cases elsewhere with
      | true => exact .inl ⟨rfl,rfl⟩
      | false => exact .inr (.inl ⟨enrollment,checkpoint,rfl,rfl,rfl⟩)
  | prepare expected proposed =>
    cases existing with
    | none => exact .inl ⟨rfl,rfl⟩
    | some row =>
      simp only [applyRequest]
      by_cases hstore : row.storeId ≠ expected.storeId
      · rw [if_pos hstore]
        exact .inl ⟨rfl,rfl⟩
      by_cases hcommitted : row.committed ≠ expected.head
      · rw [if_neg hstore,if_pos hcommitted]
        exact .inl ⟨rfl,rfl⟩
      rw [if_neg hstore,if_neg hcommitted]
      cases hpending : row.pending with
      | some pending => exact .inl ⟨rfl,rfl⟩
      | none =>
        exact .inr (.inr (.inl ⟨expected,proposed,row,rfl,rfl,not_not.1 hstore,
          not_not.1 hcommitted,hpending,rfl⟩))
  | finalize checkpoint =>
    cases existing with
    | none => exact .inl ⟨rfl,rfl⟩
    | some row =>
      simp only [applyRequest]
      by_cases hstore : row.storeId ≠ checkpoint.storeId
      · rw [if_pos hstore]
        exact .inl ⟨rfl,rfl⟩
      rw [if_neg hstore]
      cases hpending : row.pending with
      | none => exact .inl ⟨rfl,rfl⟩
      | some pending =>
        by_cases hsame : pending = checkpoint.head
        · subst hsame
          exact .inr (.inr (.inr ⟨checkpoint,row,rfl,rfl,not_not.1 hstore,hpending, if_pos rfl⟩))
        · left
          simp only [if_neg hsame,and_self]

variable {row : Option BindingRow} {log : List WitnessRecord}

theorem LogSound.enroll (h : LogSound none log) (event : WitnessEvent)
    (hevent : event = .enrolledGenesis ∨ event = .enrolledBaseline)
    (checkpoint : AuthorityStateCheckpoint) :
    LogSound (some ⟨checkpoint.storeId,checkpoint.head,none⟩)
      (log ++ [recordOf event checkpoint]) := by
  have hlog : log = [] := by
    refine eq_nil_iff_forall_not_mem.2 fun a ha => ?_
    obtain ⟨r,hr,-⟩ := h.within a ha
    cases hr
  subst hlog
  refine ⟨?_,fun r pending hr hpending => ?_,fun a ha b hb _ => ?_,fun a ha => ?_,
    fun r hr => ?_,fun r pending hr hpending => ?_⟩
  · rw [replay_append]
    rcases hevent with rfl | rfl <;> rfl
  · cases hr
    cases hpending
  · rw [mem_singleton.1 ha,mem_singleton.1 hb]
  · rw [mem_singleton.1 ha]
    exact ⟨_,rfl,rfl,.inl (Int.le_refl _)⟩
  · cases hr
    exact ⟨_,mem_singleton.2 rfl,rfl⟩
  · cases hr
    cases hpending

theorem LogSound.prepare {r : BindingRow} (h : LogSound (some r) log) (hfree : r.pending = none)
    {proposed : AuthorityStateCheckpoint} (hstore : r.storeId = proposed.storeId)
    (hsequence : proposed.sequence = r.committed.sequence + 1) :
    LogSound (some { r with pending := some proposed.head })
      (log ++ [recordOf .prepared proposed]) := by
  -- every earlier head is at the committed sequence or below
  have hbelow : ∀ a ∈ log, a.head.sequence ≤ r.committed.sequence := by
    intro a ha
    obtain ⟨r',hr',-,hle | hpending⟩ := h.within a ha
    · cases hr'
      exact hle
    · cases hr'
      rw [hfree] at hpending
      cases hpending
  refine ⟨?_,fun r' pending hr' hpending => ?_,fun a ha b hb heq => ?_,fun a ha => ?_,
    fun r' hr' => ?_,fun r' pending hr' hpending => ?_⟩
  · rw [replay_append,h.replays]
    rfl
  · cases hr'
    cases hpending
    exact hsequence
  · have hnew : ∀ c ∈ log, c.head.sequence ≠ proposed.head.sequence := by
      intro c hc heq'
      have := hbelow c hc
      have : proposed.head.sequence = r.committed.sequence + 1 := hsequence
      omega
    rcases mem_append.1 ha with ha | ha <;> rcases mem_append.1 hb with hb | hb
    · exact h.once a ha b hb heq
    · rw [mem_singleton.1 hb] at heq
      exact absurd heq (hnew a ha)
    · rw [mem_singleton.1 ha] at heq
      exact absurd heq.symm (hnew b hb)
    · rw [mem_singleton.1 ha,mem_singleton.1 hb]
  · rcases mem_append.1 ha with ha | ha
    · obtain ⟨r',hr',hstore',-⟩ := h.within a ha
      cases hr'
      exact ⟨_,rfl,hstore',.inl (hbelow a ha)⟩
    · rw [mem_singleton.1 ha]
      exact ⟨_,rfl,hstore.symm,.inr rfl⟩
  · cases hr'
    obtain ⟨a,ha,hcommitted⟩ := h.committed r rfl
    exact ⟨a,mem_append_left _ ha,hcommitted⟩
  · cases hr'
    cases hpending
    exact mem_append_right _ (mem_singleton.2 (by rw [hstore]; rfl))

theorem LogSound.finalize {r : BindingRow} (h : LogSound (some r) log)
    {checkpoint : AuthorityStateCheckpoint} (hstore : r.storeId = checkpoint.storeId)
    (hpending : r.pending = some checkpoint.head) :
    LogSound (some ⟨r.storeId,checkpoint.head,none⟩)
      (log ++ [recordOf .finalized checkpoint]) := by
  have hnext := h.successor r checkpoint.head rfl hpending
  have hprepared := h.prepared r checkpoint.head rfl hpending
  refine ⟨?_,fun r' pending hr' hpending' => ?_,fun a ha b hb heq => ?_,fun a ha => ?_,
    fun r' hr' => ?_,fun r' pending hr' hpending' => ?_⟩
  · rw [replay_append,h.replays]
    rfl
  · cases hr'
    cases hpending'
  · rcases mem_append.1 ha with ha | ha <;> rcases mem_append.1 hb with hb | hb
    · exact h.once a ha b hb heq
    · rw [mem_singleton.1 hb] at heq ⊢
      exact h.once a ha ⟨.prepared,r.storeId,checkpoint.head⟩ hprepared heq
    · rw [mem_singleton.1 ha] at heq ⊢
      exact h.once ⟨.prepared,r.storeId,checkpoint.head⟩ hprepared b hb heq
    · rw [mem_singleton.1 ha,mem_singleton.1 hb]
  · rcases mem_append.1 ha with ha | ha
    · obtain ⟨r',hr',hstore',hle | hsame⟩ := h.within a ha
      · cases hr'
        exact ⟨_,rfl,hstore',.inl (by show _ ≤ checkpoint.head.sequence; omega)⟩
      · cases hr'
        rw [hpending,Option.some.injEq] at hsame
        exact ⟨_,rfl,hstore',.inl (Int.le_of_eq (by rw [hsame]))⟩
    · rw [mem_singleton.1 ha]
      exact ⟨_,rfl,hstore.symm,.inl (Int.le_refl _)⟩
  · cases hr'
    exact ⟨_,mem_append_right _ (mem_singleton.2 rfl),rfl⟩
  · cases hr'
    cases hpending'

/-- A prepare names two positions of one store, one after the other. -/
def WitnessRequest.OneForward : WitnessRequest → Prop
  | .prepare expected proposed => expected.storeId = proposed.storeId ∧
      proposed.sequence = expected.sequence + 1
  | _ => True

theorem WitnessRequest.oneForward_of_wellFormed {request : WitnessRequest}
    (h : request.wellFormed = true) : request.OneForward := by
  cases request with
  | prepare expected proposed =>
    simp only [WitnessRequest.wellFormed,Bool.and_eq_true,beq_iff_eq] at h
    exact ⟨h.1.2,h.2⟩
  | _ => trivial

theorem LogSound.applyRequest (h : LogSound row log) (elsewhere : Bool) {request : WitnessRequest}
    (hforward : request.OneForward) :
    LogSound (Freshness.applyRequest elsewhere row request).row
      (log ++ (Freshness.applyRequest elsewhere row request).recorded) := by
  rcases applyRequest_cases elsewhere row request with ⟨hrow,hrecorded⟩ |
    ⟨enrollment,checkpoint,-,rfl,hdone⟩ |
    ⟨expected,proposed,r,rfl,rfl,hstore,hcommitted,hfree,hdone⟩ |
    ⟨checkpoint,r,rfl,rfl,hstore,hpending,hdone⟩
  · rw [hrow,hrecorded,append_nil]
    exact h
  · rw [hdone]
    exact h.enroll _ (by split_ifs <;> simp) checkpoint
  · rw [hdone]
    refine h.prepare hfree (hstore.trans hforward.1) ?_
    rw [hforward.2,hcommitted]
    rfl
  · rw [hdone]
    exact h.finalize hstore hpending

end Frontera.Freshness
