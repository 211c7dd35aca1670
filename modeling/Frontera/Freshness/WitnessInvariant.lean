import Frontera.Freshness.SlotInvariant

/-! Whatever well-formed requests a witness answers, from a fresh database or one migrated from the
first protocol: every slot keeps its store, advances one prepared checkpoint at a time and is what
its history replays to, and no store is bound in two identity domains of one organization. -/

namespace Frontera.Freshness

open Frontera.Data List WitnessTables

/-- No store id is bound in two human-identity kinds of one organization. -/
def IdentityApart {S : Type} [DecidableEq S] (kind : S → AuthorityStateKind) (organization : S → String)
    (bindings : OrderedMap S BindingRow) : Prop :=
  ∀ a b rowA rowB, bindings.get a = some rowA → bindings.get b = some rowB →
    isHumanIdentityStateKind (kind a) = true → isHumanIdentityStateKind (kind b) = true →
    organization a = organization b → rowA.storeId = rowB.storeId → kind a = kind b

/-- The tables of a witness, slot by slot. -/
structure WitnessTables.Sound {S : Type} [DecidableEq S] (kind : S → AuthorityStateKind)
    (organization : S → String) (db : WitnessTables S) : Prop where
  logs : ∀ slot, LogSound (db.bindings.get slot) (db.log slot)
  identity : IdentityApart kind organization db.bindings

abbrev WitnessDatabase.Sound (db : WitnessDatabase) : Prop :=
  WitnessTables.Sound WitnessSlot.stateKind WitnessSlot.organizationId db

/-- A database of the first protocol that its own requests could have led to. -/
abbrev ValidV1 (db : WitnessTables WitnessSlotV1) : Prop :=
  WitnessTables.Sound WitnessSlotV1.stateKind WitnessSlotV1.organizationId db

theorem empty_sound : WitnessDatabase.Sound empty where
  logs slot := logSound_empty
  identity a b rowA rowB h := by
    rw [show (empty : WitnessDatabase).bindings.get a = none from rfl] at h
    cases h

variable {v1 : WitnessTables WitnessSlotV1}

theorem copiedBindings_get (slot : WitnessSlotV1) :
    (copiedBindings v1).get slot.migrated = v1.bindings.get slot := by
  ext row
  rw [OrderedMap.get_eq_some_iff,OrderedMap.get_eq_some_iff]
  simp only [copiedBindings,mem_map,Prod.mk.injEq]
  constructor
  · rintro ⟨entry,hentry,hslot,rfl⟩
    obtain rfl := WitnessSlotV1.migrated_injective hslot
    exact hentry
  · intro h
    exact ⟨(slot, row),h,rfl,rfl⟩

theorem copiedBindings_key {slot : WitnessSlot} {row : BindingRow}
    (h : (copiedBindings v1).get slot = some row) : ∃ old : WitnessSlotV1, old.migrated = slot := by
  rw [OrderedMap.get_eq_some_iff] at h
  simp only [copiedBindings,mem_map,Prod.mk.injEq] at h
  obtain ⟨entry,-,hslot,-⟩ := h
  exact ⟨entry.1,hslot⟩

theorem migrateV1_eq (v1 : WitnessTables WitnessSlotV1) : migrateV1 v1 =
    some ⟨copiedBindings v1,v1.history.map fun entry => (entry.1.migrated, entry.2)⟩ := by
  have hcarried : carriedExactly v1 (copiedBindings v1) = true := by
    simp only [carriedExactly,Bool.and_eq_true,decide_eq_true_eq,all_eq_true,beq_iff_eq]
    refine ⟨length_map _,fun entry hentry => ?_⟩
    rw [copiedBindings_get]
    exact OrderedMap.get_of_mem_entries hentry
  simp only [migrateV1,hcarried,if_true]

theorem migrated_log (slot : WitnessSlotV1) : log (⟨copiedBindings v1,v1.history.map fun entry =>
      (entry.1.migrated, entry.2)⟩ : WitnessDatabase) slot.migrated = v1.log slot := by
  simp only [log,filter_map,map_map]
  congr 1
  refine filter_congr fun entry _ => ?_
  simp only [Function.comp_apply,decide_eq_decide]
  exact WitnessSlotV1.migrated_injective.eq_iff

theorem migrateV1_sound (h : ValidV1 v1) {db : WitnessDatabase} (hmigrate : migrateV1 v1 = some db) :
    db.Sound := by
  rw [migrateV1_eq,Option.some.injEq] at hmigrate
  subst hmigrate
  refine ⟨fun slot => ?_,fun a b rowA rowB ha hb hkindA hkindB horganization hstore => ?_⟩
  · by_cases hold : ∃ old : WitnessSlotV1, old.migrated = slot
    · obtain ⟨old,rfl⟩ := hold
      rw [migrated_log]
      show LogSound ((copiedBindings v1).get old.migrated) (v1.log old)
      rw [copiedBindings_get]
      exact h.logs old
    · -- a slot with a namespace holds nothing yet
      have hrow : (copiedBindings v1).get slot = none := by
        cases hget : (copiedBindings v1).get slot with
        | none => rfl
        | some row => exact absurd (copiedBindings_key hget) hold
      have hlog : log (⟨copiedBindings v1,v1.history.map fun entry =>
          (entry.1.migrated, entry.2)⟩ : WitnessDatabase) slot = [] := by
        simp only [log,map_eq_nil_iff,filter_eq_nil_iff,mem_map,decide_eq_true_eq]
        rintro _ ⟨entry,-,rfl⟩ heq
        exact hold ⟨entry.1,heq⟩
      rw [hlog]
      show LogSound ((copiedBindings v1).get slot) []
      rw [hrow]
      exact logSound_empty
  · obtain ⟨a,rfl⟩ := copiedBindings_key ha
    obtain ⟨b,rfl⟩ := copiedBindings_key hb
    change (copiedBindings v1).get _ = _ at ha hb
    rw [copiedBindings_get] at ha hb
    exact h.identity a b rowA rowB ha hb hkindA hkindB horganization hstore

namespace WitnessDatabase

variable {db : WitnessDatabase} {request : WitnessRequest}

theorem apply_get (db : WitnessDatabase) (request : WitnessRequest) (slot : WitnessSlot) :
    (db.apply request).bindings.get slot =
      if slot = request.binding.slot then (db.applied request).row else db.bindings.get slot := by
  unfold apply
  cases hrow : (db.applied request).row with
  | some row => exact OrderedMap.get_set _ _ _ _
  | none =>
    -- a row is never removed: the slot was unbound
    have hexisting : db.bindings.get request.binding.slot = none := by
      rcases applyRequest_cases (db.elsewhere request) (db.bindings.get request.binding.slot)
        request with ⟨hsame,-⟩ | ⟨_,_,-,hnone,-⟩ | ⟨_,_,_,-,-,-,-,-,hdone⟩ |
        ⟨_,_,-,-,-,-,hdone⟩
      · exact hsame.symm.trans hrow
      · exact hnone
      · rw [applied,hdone] at hrow
        cases hrow
      · rw [applied,hdone] at hrow
        cases hrow
    split_ifs with hslot
    · rw [hslot]
      exact hexisting
    · rfl

theorem apply_log (db : WitnessDatabase) (request : WitnessRequest) (slot : WitnessSlot) :
    (db.apply request).log slot =
      db.log slot ++ if slot = request.binding.slot then (db.applied request).recorded else [] := by
  simp only [log,apply,filter_append,map_append]
  congr 1
  split_ifs with hslot
  · rw [filter_eq_self.2,map_map]
    · exact map_id _
    · rintro entry hentry
      obtain ⟨record,-,rfl⟩ := mem_map.1 hentry
      simp [hslot]
  · rw [map_eq_nil_iff,filter_eq_nil_iff]
    rintro entry hentry
    obtain ⟨record,-,rfl⟩ := mem_map.1 hentry
    simpa using fun h => hslot h.symm

/-- A bound slot stays bound, to the same store, and its committed head moves only to the
successor that was prepared. -/
def Advances (db db' : WitnessDatabase) : Prop :=
  ∀ slot row, db.bindings.get slot = some row → ∃ row', db'.bindings.get slot = some row' ∧
    row'.storeId = row.storeId ∧ (row'.committed = row.committed ∨
      row'.committed.sequence = row.committed.sequence + 1 ∧
        ⟨.prepared,row.storeId,row'.committed⟩ ∈ db.log slot)

theorem Sound.advances (h : db.Sound) (request : WitnessRequest) : db.Advances (db.apply request) := by
  intro slot row hrow
  rw [apply_get]
  split_ifs with hslot
  · subst hslot
    unfold applied
    rw [hrow]
    rcases applyRequest_cases (db.elsewhere request) (some row) request with ⟨hsame,-⟩ |
      ⟨_,_,-,hnone,-⟩ | ⟨_,_,row',-,hsome,-,-,-,hdone⟩ |
      ⟨checkpoint,row',-,hsome,hstore,hpending,hdone⟩
    · exact ⟨row,hsame,rfl,.inl rfl⟩
    · cases hnone
    · cases hsome
      rw [hdone]
      exact ⟨_,rfl,rfl,.inl rfl⟩
    · cases hsome
      have hlog := h.logs request.binding.slot
      rw [hrow] at hlog
      rw [hdone]
      exact ⟨_,rfl,rfl,.inr ⟨hlog.successor row _ rfl hpending,hlog.prepared row _ rfl hpending⟩⟩
  · exact ⟨row,hrow,rfl,.inl rfl⟩

variable {slot : WitnessSlot} {row : BindingRow} {requests : List WitnessRequest}

theorem apply_store {row' : BindingRow} (h : (db.apply request).bindings.get slot = some row') :
    (∃ row, db.bindings.get slot = some row ∧ row'.storeId = row.storeId) ∨
      ∃ enrollment checkpoint, request = .enroll enrollment checkpoint ∧
        slot = checkpoint.binding.slot ∧ row'.storeId = checkpoint.storeId ∧
        db.heldElsewhere checkpoint = false := by
  rw [apply_get] at h
  split_ifs at h with hslot
  · subst hslot
    unfold applied at h
    rcases applyRequest_cases (db.elsewhere request) (db.bindings.get request.binding.slot)
      request with ⟨hsame,-⟩ | ⟨enrollment,checkpoint,rfl,hnone,hdone⟩ |
      ⟨_,_,row,-,hsome,-,-,-,hdone⟩ | ⟨_,row,-,hsome,-,-,hdone⟩
    · exact .inl ⟨row',hsame.symm.trans h,rfl⟩
    · right
      have helsewhere : db.heldElsewhere checkpoint = false := by
        rw [hnone] at hdone
        cases hheld : db.heldElsewhere checkpoint with
        | false => rfl
        | true => simp [applyRequest,elsewhere,hheld] at hdone
      rw [hdone,Option.some.injEq] at h
      exact ⟨enrollment,checkpoint,rfl,rfl,by rw [← h],helsewhere⟩
    · rw [hdone,Option.some.injEq] at h
      exact .inl ⟨row,hsome,by rw [← h]⟩
    · rw [hdone,Option.some.injEq] at h
      exact .inl ⟨row,hsome,by rw [← h]⟩
  · exact .inl ⟨row',h,rfl⟩

theorem kind_of_not_heldElsewhere {checkpoint : AuthorityStateCheckpoint}
    (h : db.heldElsewhere checkpoint = false) (hrow : db.bindings.get slot = some row)
    (hkind : isHumanIdentityStateKind checkpoint.binding.stateKind = true)
    (hslot : isHumanIdentityStateKind slot.stateKind = true)
    (horganization : slot.organizationId = checkpoint.binding.organizationId)
    (hstore : row.storeId = checkpoint.storeId) :
    slot.stateKind = checkpoint.binding.stateKind := by
  unfold heldElsewhere at h
  rw [hkind,Bool.true_and,any_eq_false] at h
  have hnot := h _ (OrderedMap.get_eq_some_iff.1 hrow)
  by_contra hdiffers
  simp [horganization,hstore,hslot,hdiffers] at hnot

theorem Sound.apply (h : db.Sound) (hwell : request.wellFormed = true) : (db.apply request).Sound := by
  refine ⟨fun slot => ?_,fun a b rowA rowB ha hb hkindA hkindB horganization hstore => ?_⟩
  · rw [apply_get,apply_log]
    split_ifs with hslot
    · rw [hslot]
      exact (h.logs _).applyRequest _ (WitnessRequest.oneForward_of_wellFormed hwell)
    · rw [append_nil]
      exact h.logs slot
  · rcases apply_store ha with ⟨oldA,holdA,hsameA⟩ |
        ⟨enrollment,checkpoint,hrequest,rfl,hnewA,helsewhere⟩
    · rcases apply_store hb with ⟨oldB,holdB,hsameB⟩ |
        ⟨enrollment,checkpoint,hrequest,rfl,hnewB,helsewhere⟩
      · exact h.identity a b oldA oldB holdA holdB hkindA hkindB horganization
          (by rw [← hsameA,← hsameB,hstore])
      · exact kind_of_not_heldElsewhere helsewhere holdA hkindB hkindA horganization
          (by rw [← hsameA,hstore,hnewB])
    · rcases apply_store hb with ⟨oldB,holdB,hsameB⟩ | ⟨_,checkpoint',hrequest',rfl,-,-⟩
      · exact (kind_of_not_heldElsewhere helsewhere holdB hkindA hkindB horganization.symm
          (by rw [← hsameB,← hstore,hnewA])).symm
      · rw [hrequest] at hrequest'
        cases hrequest'
        rfl

section

variable (h : db.Sound) (hwell : ∀ request ∈ requests, request.wellFormed = true)
include h hwell

theorem Sound.run : (db.run requests).Sound := by
  induction requests generalizing db with
  | nil => exact h
  | cons request requests ih =>
    exact ih (h.apply (hwell request mem_cons_self))
      fun other hother => hwell other (mem_cons_of_mem _ hother)

theorem Sound.run_forward (hrow : db.bindings.get slot = some row) :
    ∃ row', (db.run requests).bindings.get slot = some row' ∧ row'.storeId = row.storeId ∧
      row.committed.sequence ≤ row'.committed.sequence := by
  induction requests generalizing db row with
  | nil => exact ⟨row,hrow,rfl,Int.le_refl _⟩
  | cons request requests ih =>
    obtain ⟨middle,hmiddle,hstore,hmove⟩ := h.advances request slot row hrow
    obtain ⟨row',hrow',hstore',hle⟩ := ih (h.apply (hwell request mem_cons_self))
      (fun other hother => hwell other (mem_cons_of_mem _ hother)) hmiddle
    have hmiddleLe : row.committed.sequence ≤ middle.committed.sequence := by
      rcases hmove with hsame | ⟨hnext,-⟩
      · exact Int.le_of_eq (by rw [hsame])
      · omega
    exact ⟨row',hrow',hstore'.trans hstore,Int.le_trans hmiddleLe hle⟩

end

end WitnessDatabase

def WitnessOutcome.isApplied (outcome : WitnessOutcome) : Bool :=
  outcome ∈ [WitnessOutcome.enrolled, .prepared, .finalized]

theorem applyRequest_answer (elsewhere : Bool) (existing : Option BindingRow)
    (request : WitnessRequest) :
    appliedStateProblem request (applyRequest elsewhere existing request).outcome
        (applyRequest elsewhere existing request).row = none ∧
      ((applyRequest elsewhere existing request).outcome.isApplied = true → ∀ elsewhere',
        applyRequest elsewhere' (applyRequest elsewhere existing request).row request =
          ⟨(applyRequest elsewhere existing request).outcome,
            (applyRequest elsewhere existing request).row,[]⟩) := by
  cases request with
  | read binding => exact ⟨rfl,fun h => by cases h⟩
  | enroll enrollment checkpoint =>
    cases existing with
    | some row =>
      simp only [applyRequest]
      by_cases hsame : row.storeId = checkpoint.storeId ∧ row.pending = none ∧
          row.committed = checkpoint.head
      · rw [if_pos hsame]
        exact ⟨by simp [appliedStateProblem,holds,hsame],fun _ elsewhere' => if_pos hsame⟩
      · rw [if_neg hsame]
        exact ⟨rfl,fun h => by cases h⟩
    | none =>
      cases elsewhere with
      | true => exact ⟨rfl,fun h => by cases h⟩
      | false => exact ⟨by simp [applyRequest,appliedStateProblem,holds],
          fun _ elsewhere' => by simp [applyRequest]⟩
  | prepare expected proposed =>
    cases existing with
    | none => exact ⟨rfl,fun h => by cases h⟩
    | some row =>
      simp only [applyRequest]
      by_cases hstore : row.storeId ≠ expected.storeId
      · rw [if_pos hstore]
        exact ⟨rfl,fun h => by cases h⟩
      by_cases hcommitted : row.committed ≠ expected.head
      · rw [if_neg hstore,if_pos hcommitted]
        exact ⟨rfl,fun h => by cases h⟩
      rw [if_neg hstore,if_neg hcommitted]
      have hheld := not_not.1 hstore
      have hhead := not_not.1 hcommitted
      cases hpending : row.pending with
      | some pending =>
        by_cases hsame : pending = proposed.head
        · simp [hsame,appliedStateProblem,holds,hheld,hhead,hpending]
        · simp [hsame,appliedStateProblem,WitnessOutcome.isApplied]
      | none => simp [appliedStateProblem,holds,hheld,hhead]
  | finalize checkpoint =>
    cases existing with
    | none => exact ⟨rfl,fun h => by cases h⟩
    | some row =>
      simp only [applyRequest]
      by_cases hstore : row.storeId ≠ checkpoint.storeId
      · rw [if_pos hstore]
        exact ⟨rfl,fun h => by cases h⟩
      rw [if_neg hstore]
      have hheld := not_not.1 hstore
      cases hpending : row.pending with
      | none =>
        by_cases hsame : row.committed = checkpoint.head
        · simp [hsame,appliedStateProblem,holds,hheld,hpending]
        · simp [hsame,appliedStateProblem,WitnessOutcome.isApplied]
      | some pending =>
        by_cases hsame : pending = checkpoint.head
        · simp [hsame,appliedStateProblem,holds,hheld]
        · simp [hsame,appliedStateProblem,WitnessOutcome.isApplied]

/-- What holds of the rows and the history, slot by slot. -/
structure SlotInvariant (db : WitnessDatabase) : Prop where
  pending : ∀ slot row pending, db.bindings.get slot = some row → row.pending = some pending →
    pending.sequence = row.committed.sequence + 1
  history : ∀ slot, ∀ a ∈ db.log slot, ∀ b ∈ db.log slot, a.head.sequence = b.head.sequence →
    a.head.stateDigest = b.head.stateDigest
  replays : ∀ slot, replay (db.log slot) = db.bindings.get slot
  identity : IdentityApart WitnessSlot.stateKind WitnessSlot.organizationId db.bindings

/-- From a fresh or a migrated database, whatever well-formed requests are answered: the
slots are sound; a request moves a committed head by one at most, to a checkpoint recorded
as prepared; further requests keep a slot's store and never take it back; an answer that
says it was applied carries the state its client checks for; and its exact repetition,
while the slot has not moved on, is answered alike. -/
theorem witness_keeps_slots (start : WitnessDatabase)
    (hstart : start = .empty ∨ ∃ v1, ValidV1 v1 ∧ migrateV1 v1 = some start)
    (requests : List WitnessRequest)
    (hwell : ∀ request ∈ requests, request.wellFormed = true) :
    SlotInvariant (start.run requests) ∧ (∀ request, request.wellFormed = true →
      (start.run requests).Advances ((start.run requests).apply request)) ∧
    (∀ later : List WitnessRequest, (∀ request ∈ later, request.wellFormed = true) →
      ∀ slot row, (start.run requests).bindings.get slot = some row →
      ∃ row', ((start.run requests).run later).bindings.get slot = some row' ∧
        row'.storeId = row.storeId ∧ row.committed.sequence ≤ row'.committed.sequence) ∧
    (∀ request, request.wellFormed = true → appliedStateProblem request
      ((start.run requests).applied request).outcome
      ((start.run requests).applied request).row = none) ∧
    ∀ request, request.wellFormed = true → ((start.run requests).applied request).outcome.isApplied = true →
      ∀ later : List WitnessRequest, (∀ other ∈ later, other.wellFormed = true) →
      (((start.run requests).apply request).run later).bindings.get request.binding.slot =
        ((start.run requests).apply request).bindings.get request.binding.slot →
      ((((start.run requests).apply request).run later).applied request).outcome =
        ((start.run requests).applied request).outcome := by
  have hsound : (start.run requests).Sound := by
    refine WitnessDatabase.Sound.run ?_ hwell
    rcases hstart with rfl | ⟨v1,hvalid,hmigrate⟩
    · exact empty_sound
    · exact migrateV1_sound hvalid hmigrate
  refine ⟨⟨fun slot row pending hrow => (hsound.logs slot).successor row pending hrow,
      fun slot a ha b hb heq => ?_,fun slot => (hsound.logs slot).replays,hsound.identity⟩,
    fun request _ => hsound.advances request,
    fun later hlater slot row hrow => hsound.run_forward hlater hrow,
    fun request _ => (applyRequest_answer _ _ request).1, fun request _ happlied later _ hstill => ?_⟩
  · rw [(hsound.logs slot).once a ha b hb heq]
  · have hrepeat := (applyRequest_answer ((start.run requests).elsewhere request) _ request).2
      happlied ((((start.run requests).apply request).run later).elsewhere request)
    rw [WitnessDatabase.apply_get,if_pos rfl] at hstill
    unfold WitnessDatabase.applied at hstill ⊢
    rw [hstill,hrepeat]

def sampleCheckpoint (sequence : Int) : AuthorityStateCheckpoint :=
  ⟨⟨.humanIdentityState,"org-1",none⟩,"human-identity-store:1",sequence,if sequence = 0 then
      "sha256:0a3666a0710c08aa6d0de92ce72beeb5b93124cce1bf3701c9d6cdeb543cb73e"
    else "sha256:65047f6e6f7cce998f55a7b7f9467e01cabb8ce7b0cdcc525020ab57bf99cb77"⟩

def sampleRequests : List WitnessRequest :=
  [.enroll .genesis (sampleCheckpoint 0), .prepare (sampleCheckpoint 0) (sampleCheckpoint 1),
    .finalize (sampleCheckpoint 1)]

theorem witness_keeps_slots_sample :
    (WitnessDatabase.run .empty sampleRequests).bindings.get (sampleCheckpoint 0).binding.slot =
      some ⟨"human-identity-store:1",(sampleCheckpoint 1).head,none⟩ ∧
    SlotInvariant (WitnessDatabase.run .empty sampleRequests) := by
  refine ⟨by decide +kernel,?_⟩
  exact (witness_keeps_slots .empty (.inl rfl) sampleRequests (by decide +kernel)).1

end Frontera.Freshness
