import Frontera.GrantStore.Soundness

/-! Issuance, revocation and the re-signing of the commitment each take a sound database to a sound
one that extends it: the same store, and the same revocations with at most one more. -/

namespace Frontera.GrantStore

open Frontera.Data Frontera.Grant List Option

variable {P : Platform} {parse : String → Option BoundedGrant} {context : StoreContext}
  {db db' db'' : StoreDatabase}

/-- The same store, with all the revocations it had, in their order. -/
structure Extends (db db' : StoreDatabase) : Prop where
  storeId : db'.storeId = db.storeId
  revocations : db.revocations <+: db'.revocations

theorem Extends.refl (db : StoreDatabase) : Extends db db := ⟨rfl,prefix_rfl⟩

theorem Extends.length_le (h : Extends db db') : db.revocations.length ≤ db'.revocations.length :=
  h.revocations.length_le

theorem Extends.stateAt (h : Extends db db') {k : Nat} (hk : k ≤ db.revocations.length) :
    db'.stateAt P k = db.stateAt P k := by
  have htake : db'.entries.take k = db.entries.take k := by
    obtain ⟨later,hlater⟩ := h.revocations
    rw [StoreDatabase.entries,StoreDatabase.entries,← hlater,map_append, take_append_of_le_length]
    rw [length_map]
    exact hk
  rw [StoreDatabase.stateAt,StoreDatabase.stateAt,htake,h.storeId]

theorem Extends.noted (h : Extends db db') {newest : Option (Int × String)}
    (hnoted : Noted P db newest) : Noted P db' newest := by
  intro noted hnewest
  obtain ⟨k,hk,rfl⟩ := hnoted noted hnewest
  exact ⟨k,hk.trans h.length_le,by rw [h.stateAt hk]⟩

variable {revocation : GrantRevocation} {signature : AuthoritySignature} {row : GrantRow}
  {storeId : String} {grant : BoundedGrant} {commitGuard : GrantCommitPrecondition}
  {state : RevocationStateCommitment}

theorem Extends.planned (h : Extends db db') {plan : SigningPlan}
    (hplanned : Planned P db revocation plan) : Planned P db' revocation plan := by
  obtain ⟨k,hk,rfl⟩ := hplanned
  exact ⟨k,hk.trans h.length_le,by rw [h.stateAt hk]⟩

theorem Extends.contextSound (h : Extends db db') (hcontext : ContextSound P db context) :
    ContextSound P db' context :=
  ⟨h.noted hcontext.noted,hcontext.unestablished⟩

theorem Extends.revocationOf (h : Extends db db') {grantId : String}
    (hrevocation : db.revocationOf grantId = some revocation) :
    db'.revocationOf grantId = some revocation := by
  obtain ⟨later,hlater⟩ := h.revocations
  obtain ⟨row,hrow,hread⟩ := bind_eq_some_iff.1 hrevocation
  have hselect : db'.selectRevocation grantId = some row := by
    rw [StoreDatabase.selectRevocation,← hlater,List.find?_append]
    rw [StoreDatabase.selectRevocation] at hrow
    rw [hrow,some_or]
  rw [StoreDatabase.revocationOf,hselect]
  exact hread

theorem DatabaseSound.resigned (h : DatabaseSound P parse db) (columns : SignatureColumns) :
    DatabaseSound P parse
        { db with state := db.state.map fun row => { row with toSignatureColumns := columns } } ∧
      Extends db
        { db with state := db.state.map fun row => { row with toSignatureColumns := columns } } := by
  have hstore : StoreDatabase.storeId
      { db with state := db.state.map fun row => { row with toSignatureColumns := columns } } =
        db.storeId := by
    rw [StoreDatabase.storeId,StoreDatabase.storeId,Option.map_map]
    rfl
  refine ⟨⟨?_,?_,h.numbered,h.once,h.grants,h.pointers,h.granted,h.bounded,?_,?_⟩, hstore,prefix_rfl⟩
  · rw [hstore]
    exact h.named
  · obtain ⟨row,hrow,hversion,hsequence,hdigest⟩ := h.committed
    refine ⟨{ row with toSignatureColumns := columns },by simp [hrow],hversion,hsequence,?_⟩
    rw [hstore]
    exact hdigest
  · rw [hstore]
    exact h.revocationRows
  · rw [hstore]
    exact h.grantRows

theorem runReattest_sound (h : DatabaseSound P parse db) {commitment : RevocationStateCommitment}
    (hrun : runReattest P context db commitment signature = .ok db') :
    DatabaseSound P parse db' ∧ Extends db db' := by
  unfold runReattest at hrun
  obtain ⟨state,-,hrun⟩ := bind_eq_ok.1 hrun
  split_ifs at hrun
  · rw [pure_eq_ok] at hrun
    subst hrun
    exact ⟨h,Extends.refl db⟩
  · obtain ⟨_,-,hrun⟩ := bind_eq_ok.1 hrun
    rw [pure_eq_ok] at hrun
    subst hrun
    exact h.resigned _

theorem grantRowSound_of_verified (h : verifiedGrant P parse context row storeId = .ok grant) :
    GrantRowSound P parse storeId row := by
  unfold verifiedGrant at h
  by_cases hversion : row.schemaVersion = boundedGrantStoreSchemaVersion
  swap
  · rw [if_pos hversion] at h
    cases h
  rw [if_neg (not_not.2 hversion)] at h
  cases hparse : parseStoredGrant parse row.grantJson with
  | none =>
    rw [hparse] at h
    cases h
  | some parsed =>
    simp only [hparse] at h
    by_cases hid : parsed.id = row.grantId
    swap
    · rw [if_pos hid] at h
      cases h
    rw [if_neg (not_not.2 hid)] at h
    by_cases hdigest : storedGrantRecordDigest P parsed storeId = row.grantDigest
    swap
    · rw [if_pos hdigest] at h
      cases h
    rw [if_neg (not_not.2 hdigest)] at h
    by_cases hmatches : boundedGrantDigestMatches P parsed = true
    swap
    · rw [Bool.not_eq_true] at hmatches
      simp [hmatches] at h
    simp only [hmatches,Bool.not_true,Bool.false_eq_true,if_false] at h
    by_cases hsemantics : isWellFormedBoundedGrantSemantics parsed.scope
        parsed.semanticsFormat = true
    · exact ⟨hversion,parsed,hparse,hid,hdigest,hmatches,hsemantics⟩
    · rw [Bool.not_eq_true] at hsemantics
      cases hverify : context.verifier.verifyGrant parsed storeId
          (signatureEnvelopeOf row.toSignatureColumns) <;> simp [hverify,hsemantics] at h

theorem DatabaseSound.granting (h : DatabaseSound P parse db)
    (hrow : GrantRowSound P parse db.storeId row) (hfresh : db.selectGrant row.grantId = none)
    (hunrevoked : db.selectRevocation row.grantId = none) (hpointer : row.revocationDigest = none) :
    DatabaseSound P parse { db with grants := db.grants ++ [row] } ∧
      Extends db { db with grants := db.grants ++ [row] } := by
  refine ⟨⟨h.named,h.committed,h.numbered,h.once,?_,?_,?_,h.bounded,h.revocationRows,?_⟩, rfl,prefix_rfl⟩
  · rw [map_append,map_singleton]
    refine nodup_append.2 ⟨h.grants,nodup_singleton _,?_⟩
    intro id hid id' hid' heq
    obtain ⟨other,hother,rfl⟩ := mem_map.1 hid
    rw [mem_singleton] at hid'
    have hne := List.find?_eq_none.1 hfresh other hother
    exact hne (beq_iff_eq.2 (heq.trans hid'))
  · intro other hother
    rcases mem_append.1 hother with hold | hnew
    · exact h.pointers other hold
    · rw [mem_singleton.1 hnew,hpointer]
      have hnone : StoreDatabase.selectRevocation { db with grants := db.grants ++ [row] }
          row.grantId = none := hunrevoked
      rw [hnone]
      rfl
  · intro revoked hrevoked
    have hgranted := h.granted revoked hrevoked
    rw [StoreDatabase.selectGrant,List.find?_isSome] at hgranted ⊢
    obtain ⟨other,hother,hsame⟩ := hgranted
    exact ⟨other,mem_append_left _ hother,hsame⟩
  · intro other hother
    rcases mem_append.1 hother with hold | hnew
    · exact h.grantRows other hold
    · rw [mem_singleton.1 hnew]
      exact hrow

theorem settledIssue_none {state : VerifiedRevocationState}
    (h : settledIssue P parse context db grant state storeId commitGuard = .ok none) :
    db.selectGrant grant.id = none ∧ db.selectRevocation grant.id = none := by
  unfold settledIssue at h
  cases hgrant : db.selectGrant grant.id with
  | some row =>
    simp only [hgrant] at h
    obtain ⟨existing,-,hsome⟩ := map_eq_ok.1 h
    cases hsome
  | none =>
    simp only [hgrant] at h
    by_cases hrevoked : ((state.byGrantId grant.id).isSome ||
        (db.selectRevocation grant.id).isSome) = true
    · rw [if_pos hrevoked] at h
      cases h
    · refine ⟨rfl,?_⟩
      rw [Bool.or_eq_true,not_or] at hrevoked
      exact not_isSome_iff_eq_none.1 hrevoked.2

theorem runPreflightIssue_state (h : DatabaseSound P parse db)
    (hcontext : ContextSound P db context) {settled : Option IssueBoundedGrantOutcome}
    (hrun : runPreflightIssue P parse context db grant commitGuard = .ok (settled, state)) :
    state = (db.stateAt P db.revocations.length).commitment := by
  unfold runPreflightIssue at hrun
  obtain ⟨verified,hverified,hrun⟩ := bind_eq_ok.1 hrun
  obtain rfl := h.verifiedRevocationState_ok hcontext hverified
  obtain ⟨settled',-,hrun⟩ := bind_eq_ok.1 hrun
  simp only [pure_eq_ok,Prod.mk.injEq] at hrun
  exact hrun.2.symm

theorem runIssue_sound (h : DatabaseSound P parse db) (hcontext : ContextSound P db context)
    {outcome : IssueBoundedGrantOutcome}
    (hrun : runIssue P parse context db grant signature db.storeId commitGuard = .ok (outcome, state, db')) :
    DatabaseSound P parse db' ∧ Extends db db' ∧
      state = (db.stateAt P db.revocations.length).commitment := by
  unfold runIssue at hrun
  obtain ⟨verified,hverified,hrun⟩ := bind_eq_ok.1 hrun
  obtain rfl := h.verifiedRevocationState_ok hcontext hverified
  have hstore : (db.stateAt P db.revocations.length).commitment.storeId = db.storeId := rfl
  rw [hstore,if_neg (not_not.2 rfl)] at hrun
  obtain ⟨settled,hsettled,hrun⟩ := bind_eq_ok.1 hrun
  cases settled with
  | some outcome' =>
    simp only [pure_eq_ok,Prod.mk.injEq] at hrun
    obtain ⟨-,rfl,rfl⟩ := hrun
    exact ⟨h,Extends.refl db,rfl⟩
  | none =>
    obtain ⟨issued,hissued,hrun⟩ := bind_eq_ok.1 hrun
    simp only [pure_eq_ok,Prod.mk.injEq] at hrun
    obtain ⟨-,rfl,rfl⟩ := hrun
    obtain ⟨hfresh,hunrevoked⟩ := settledIssue_none hsettled
    obtain ⟨hsound,hextends⟩ := h.granting (grantRowSound_of_verified hissued) hfresh hunrevoked rfl
    exact ⟨hsound,hextends,rfl⟩

/-- The revocation an outcome reports as standing. -/
def standing? : RevokeBoundedGrantOutcome → Option GrantRevocation
  | .revoked revocation | .alreadyRevoked revocation => some revocation
  | .refused _ => none

variable (context) in
theorem alreadyRevoked_cases (h : DatabaseSound P parse db) (hrow : row ∈ db.grants)
    (hrevoked : (db.selectRevocation row.grantId).isSome = true) :
    (∃ error, alreadyRevoked P context db row row.grantId
        (db.stateAt P db.revocations.length) = .error error ∧ Benign error) ∨
      ∃ revocation, alreadyRevoked P context db row row.grantId
          (db.stateAt P db.revocations.length) = .ok revocation ∧
        db.revocationOf row.grantId = some revocation := by
  unfold alreadyRevoked
  rcases h.currentRevocation_cases context hrow with ⟨error,herror,hbenign⟩ | hok
  · exact .inl ⟨error,by rw [herror]; rfl,hbenign⟩
  · obtain ⟨revoked,hselect⟩ := isSome_iff_exists.1 hrevoked
    obtain ⟨reason,hreason,-⟩ := (h.revocationRows revoked
      (DatabaseSound.selectRevocation_some hselect).1).record
    have hof : db.revocationOf row.grantId =
        some ⟨revoked.grantId,revoked.revokedAt,reason,revoked.issuerRef⟩ := by
      rw [StoreDatabase.revocationOf,hselect,bind_some,hreason]
      rfl
    rw [hok,hof]
    exact .inr ⟨_,rfl,rfl⟩

theorem runPlanRevocation_cases (h : DatabaseSound P parse db)
    (hcontext : ContextSound P db context) (revocation : GrantRevocation) :
    (∃ error, runPlanRevocation P context db revocation = .error error ∧ Benign error) ∨
    (∃ outcome, runPlanRevocation P context db revocation =
        .ok (.settled outcome (db.stateAt P db.revocations.length).commitment) ∧
      ∀ standing, standing? outcome = some standing → db.revocationOf revocation.grantId = some standing) ∨
    ∃ plan, runPlanRevocation P context db revocation = .ok (.sign plan) ∧ Planned P db revocation plan ∧
      plan.previous = (db.stateAt P db.revocations.length).commitment := by
  unfold runPlanRevocation
  rcases h.verifiedRevocationState_cases hcontext with ⟨error,hstate,hbenign⟩ | hstate
  · exact .inl ⟨error,by rw [hstate]; rfl,hbenign⟩
  rw [hstate,ok_bind]
  cases hselect : db.selectGrant revocation.grantId with
  | none => exact .inr (.inl ⟨_,rfl,fun _ hnone => by cases hnone⟩)
  | some row =>
    obtain ⟨hrow,hid⟩ := DatabaseSound.selectGrant_some hselect
    simp only
    rw [h.byGrantId_eq,← hid]
    cases hrevoked : db.selectRevocation row.grantId with
    | some revoked =>
      rw [map_some,isSome_some,if_pos rfl]
      rcases alreadyRevoked_cases context h hrow (by rw [hrevoked]; rfl) with
        ⟨error,herror,hbenign⟩ | ⟨standing,hok,hstanding⟩
      · exact .inl ⟨error,by rw [herror]; rfl,hbenign⟩
      · rw [hok]
        refine .inr (.inl ⟨.alreadyRevoked standing,rfl,?_⟩)
        rintro _ ⟨⟩
        exact hstanding
    | none =>
      have hpointer : row.revocationDigest = none := by
        rw [h.pointers row hrow,hrevoked]
        rfl
      simp only [map_none,isSome_none,Bool.false_eq_true,if_false,hpointer]
      exact .inr (.inr ⟨_,rfl,⟨_,le_rfl,rfl⟩,rfl⟩)

theorem length_filter_eq_one {α : Type} {p : α → Bool} {l : List α} (hnodup : l.Nodup) {a : α}
    (ha : a ∈ l) (hpa : p a = true) (hunique : ∀ b ∈ l, p b = true → b = a) :
    (l.filter p).length = 1 := by
  have hfilter : l.filter p = [a] := by
    refine perm_singleton.1 ((perm_ext_iff_of_nodup (hnodup.filter p)
      (nodup_singleton a)).2 fun b => ?_)
    rw [mem_filter,mem_singleton]
    constructor
    · rintro ⟨hb,hpb⟩
      exact hunique b hb hpb
    · rintro rfl
      exact ⟨ha,hpa⟩
  rw [hfilter,length_singleton]

theorem linkRevocation_ids (grants : List GrantRow) (grantId digest : String) :
    (linkRevocation grants grantId digest).map (·.grantId) = grants.map (·.grantId) := by
  rw [linkRevocation,List.map_map]
  refine map_congr_left fun row _ => ?_
  simp only [Function.comp_apply]
  split_ifs <;> rfl

/-- The database after the writes of a revocation planned at its own length. -/
def revokedDatabase (db : StoreDatabase) (row : RevocationStateRow) (revocation : GrantRevocation)
    (plan : SigningPlan) (revocationSignature stateSignature : AuthoritySignature) :
    StoreDatabase :=
  ⟨linkRevocation db.grants revocation.grantId plan.revocationDigest,
    db.revocations ++ [revocationRowOf revocation plan revocationSignature],
    some (advanceRevocationState row plan stateSignature)⟩

section Revoked

variable {row : RevocationStateRow} {revocation : GrantRevocation}
  {revocationSignature stateSignature : AuthoritySignature}

/-- The plan that a sound database signs for is at its own length. -/
def planAt (P : Platform) (db : StoreDatabase) (revocation : GrantRevocation) : SigningPlan :=
  signingPlanFor P (db.stateAt P db.revocations.length) revocation

theorem selectRevocation_revoked (grantId : String) :
    (revokedDatabase db row revocation (planAt P db revocation) revocationSignature
      stateSignature).selectRevocation grantId =
    (db.selectRevocation grantId).or (if revocation.grantId = grantId then
      some (revocationRowOf revocation (planAt P db revocation) revocationSignature) else none) := by
  rw [revokedDatabase,StoreDatabase.selectRevocation,StoreDatabase.selectRevocation, List.find?_append]
  congr 1
  by_cases hid : revocation.grantId = grantId
  · rw [if_pos hid,List.find?_cons_of_pos]
    exact beq_iff_eq.2 hid
  · rw [if_neg hid,List.find?_cons_of_neg]
    · rfl
    · exact fun hsame => hid (beq_iff_eq.1 hsame)

theorem entries_revoked : (revokedDatabase db row revocation (planAt P db revocation) revocationSignature
      stateSignature).entries = db.entries ++ [⟨db.revocations.length + 1,revocation.grantId,
        storedRevocationRecordDigest P revocation db.storeId⟩] := by
  rw [revokedDatabase,StoreDatabase.entries,StoreDatabase.entries,map_append]
  rfl

theorem selectGrant_revoked {grantId : String} (h : (db.selectGrant grantId).isSome = true) :
    ((revokedDatabase db row revocation (planAt P db revocation) revocationSignature
      stateSignature).selectGrant grantId).isSome = true := by
  rw [StoreDatabase.selectGrant,List.find?_isSome] at h ⊢
  obtain ⟨other,hother,hsame⟩ := h
  refine ⟨_,mem_map.2 ⟨other,hother,rfl⟩,?_⟩
  split_ifs <;> exact hsame

variable (revocationSignature stateSignature) in
theorem DatabaseSound.revoking (h : DatabaseSound P parse db) (hstate : db.state = some row)
    (hgranted : (db.selectGrant revocation.grantId).isSome = true)
    (hfresh : db.selectRevocation revocation.grantId = none)
    (hroom : db.revocations.length < sqliteMaximumRows) :
    DatabaseSound P parse (revokedDatabase db row revocation (planAt P db revocation)
        revocationSignature stateSignature) ∧
      Extends db (revokedDatabase db row revocation (planAt P db revocation)
        revocationSignature stateSignature) := by
  have hrow : row.storeId = db.storeId := by
    rw [StoreDatabase.storeId,hstate]
    rfl
  have hstore : (revokedDatabase db row revocation (planAt P db revocation) revocationSignature
      stateSignature).storeId = db.storeId := hrow
  have hlength : (revokedDatabase db row revocation (planAt P db revocation) revocationSignature
      stateSignature).revocations.length = db.revocations.length + 1 := by
    rw [revokedDatabase,length_append,length_singleton]
  have htake : db.entries.take db.revocations.length = db.entries := by
    rw [take_of_length_le]
    rw [StoreDatabase.entries,length_map]
  refine ⟨⟨?_,?_,?_,?_,?_,?_,?_,?_,?_,?_⟩,hstore,⟨_,rfl⟩⟩
  · rw [hstore]
    exact h.named
  · obtain ⟨row',hrow',hversion,-,-⟩ := h.committed
    rw [hstate,some.injEq] at hrow'
    refine ⟨_,rfl,?_,?_,?_⟩
    · rw [← hrow'] at hversion
      exact hversion
    · rw [hlength]
      simp only [advanceRevocationState,planAt,signingPlanFor,StoreDatabase.stateAt]
      push_cast
      rfl
    · rw [hstore,entries_revoked]
      simp only [advanceRevocationState,planAt,signingPlanFor,StoreDatabase.stateAt,htake]
  · have hnumbers : (revokedDatabase db row revocation (planAt P db revocation)
        revocationSignature stateSignature).revocations.map (·.sequence) =
          db.revocations.map (·.sequence) ++ [(db.revocations.length : Int) + 1] := by
      rw [revokedDatabase,map_append]
      rfl
    rw [hnumbers,hlength,range_succ,map_append,h.numbered]
    rfl
  · rw [revokedDatabase,map_append]
    refine nodup_append.2 ⟨h.once,nodup_singleton _,?_⟩
    intro id hid id' hid' heq
    obtain ⟨other,hother,rfl⟩ := mem_map.1 hid
    have hid'' : id' = revocation.grantId := mem_singleton.1 hid'
    exact List.find?_eq_none.1 hfresh other hother (beq_iff_eq.2 (heq.trans hid''))
  · rw [revokedDatabase,linkRevocation_ids]
    exact h.grants
  · intro linked hlinked
    obtain ⟨other,hother,rfl⟩ := mem_map.1 hlinked
    have hpointer := h.pointers other hother
    by_cases hlink : other.grantId = revocation.grantId ∧ other.revocationDigest = none
    · rw [if_pos hlink]
      simp only
      rw [selectRevocation_revoked,hlink.1,hfresh,none_or,if_pos rfl]
      rfl
    · rw [if_neg hlink,selectRevocation_revoked,hpointer]
      by_cases hid : revocation.grantId = other.grantId
      · -- the grant's own row had no pointer, so it is linked
        refine absurd ⟨hid.symm,?_⟩ hlink
        rw [hpointer,← hid,hfresh]
        rfl
      · rw [if_neg hid,or_none]
  · intro revoked hrevoked
    rcases mem_append.1 hrevoked with hold | hnew
    · exact selectGrant_revoked (h.granted revoked hold)
    · rw [mem_singleton.1 hnew]
      exact selectGrant_revoked hgranted
  · rw [hlength]
    exact hroom
  · intro revoked hrevoked
    rw [hstore]
    rcases mem_append.1 hrevoked with hold | hnew
    · exact h.revocationRows revoked hold
    · rw [mem_singleton.1 hnew]
      exact ⟨rfl,revocation.reason,revocationReasonOfText_text _,rfl⟩
  · intro linked hlinked
    rw [hstore]
    obtain ⟨other,hother,rfl⟩ := mem_map.1 hlinked
    obtain ⟨hversion,hrecord⟩ := h.grantRows other hother
    split_ifs
    · exact ⟨hversion,hrecord⟩
    · exact ⟨hversion,hrecord⟩

variable (revocationSignature stateSignature) in
theorem writeRevocation_cases (h : DatabaseSound P parse db) {granted : GrantRow}
    (hgranted : granted ∈ db.grants) (hid : granted.grantId = revocation.grantId)
    (hfresh : db.selectRevocation revocation.grantId = none) :
    writeRevocation db revocation (planAt P db revocation) revocationSignature stateSignature =
        .error .outside ∨
      ∃ row, db.state = some row ∧ db.revocations.length < sqliteMaximumRows ∧
        writeRevocation db revocation (planAt P db revocation) revocationSignature
          stateSignature = .ok (revokedDatabase db row revocation (planAt P db revocation)
            revocationSignature stateSignature) := by
  unfold writeRevocation
  by_cases hroom : db.revocations.length ≥ sqliteMaximumRows
  · rw [if_pos hroom]
    exact .inl rfl
  rw [if_neg hroom]
  have hpointer : granted.revocationDigest = none := by
    rw [h.pointers granted hgranted,hid,hfresh]
    rfl
  have hone : (db.grants.filter fun row => decide (row.grantId = revocation.grantId ∧
      row.revocationDigest = none)).length = 1 := by
    refine length_filter_eq_one (List.Nodup.of_map _ h.grants) hgranted
      (decide_eq_true ⟨hid,hpointer⟩) fun other hother hsame => ?_
    refine inj_on_of_nodup_map h.grants hother hgranted ?_
    rw [(of_decide_eq_true hsame).1,hid]
  obtain ⟨row,hrow,-,hsequence,-⟩ := h.committed
  have hstore : row.storeId = db.storeId := by
    rw [StoreDatabase.storeId,hrow]
    rfl
  rw [if_neg (not_not.2 hone),hrow]
  simp only
  rw [if_neg]
  · exact .inr ⟨row,rfl,not_le.1 hroom,rfl⟩
  · rw [hstore,hsequence]
    rintro (hne | hne)
    · exact hne rfl
    · exact hne rfl

theorem runRevoke_cases (h : DatabaseSound P parse db) (hcontext : ContextSound P db context)
    {plan : SigningPlan} (hplanned : Planned P db revocation plan) :
    (∃ error, runRevoke P context db revocation plan revocationSignature stateSignature =
        .error error ∧ Benign error) ∨
    runRevoke P context db revocation plan revocationSignature stateSignature = .ok (.stale, db) ∨
    ∃ outcome db', runRevoke P context db revocation plan revocationSignature stateSignature =
        .ok (.committed outcome (db'.stateAt P db'.revocations.length).commitment, db') ∧
      DatabaseSound P parse db' ∧ Extends db db' ∧ ∀ standing, standing? outcome = some standing →
        db'.revocationOf revocation.grantId = some standing := by
  unfold runRevoke
  rcases h.verifiedRevocationState_cases hcontext with ⟨error,hstate,hbenign⟩ | hstate
  · exact .inl ⟨error,by rw [hstate]; rfl,hbenign⟩
  rw [hstate,ok_bind]
  by_cases hstale : (db.stateAt P db.revocations.length).commitment = plan.previous
  swap
  · rw [if_pos hstale]
    exact .inr (.inl rfl)
  rw [if_neg (not_not.2 hstale)]
  -- the plan was made at this length, since the sequences agree
  have hplan : plan = planAt P db revocation := by
    obtain ⟨k,hk,rfl⟩ := hplanned
    have hsequence : (db.revocations.length : Int) = k :=
      congrArg RevocationStateCommitment.sequence hstale
    have hlength : k = db.revocations.length := by exact_mod_cast hsequence.symm
    rw [hlength]
    rfl
  subst hplan
  cases hselect : db.selectGrant revocation.grantId with
  | none =>
    exact .inr (.inr ⟨_,db,rfl,h,Extends.refl db,fun _ hnone => by cases hnone⟩)
  | some granted =>
    obtain ⟨hgranted,hid⟩ := DatabaseSound.selectGrant_some hselect
    simp only
    rw [h.byGrantId_eq]
    cases hrevoked : db.selectRevocation revocation.grantId with
    | some revoked =>
      rw [map_some,isSome_some,if_pos rfl,← hid]
      rcases alreadyRevoked_cases context h hgranted
          (by rw [hid,hrevoked]; rfl) with
        ⟨error,herror,hbenign⟩ | ⟨standing,hok,hstanding⟩
      · exact .inl ⟨error,by rw [herror]; rfl,hbenign⟩
      · rw [hok]
        refine .inr (.inr ⟨.alreadyRevoked standing,db,rfl,h,Extends.refl db,?_⟩)
        rintro _ ⟨⟩
        exact hstanding
    | none =>
      have hpointer : granted.revocationDigest = none := by
        rw [h.pointers granted hgranted,hid,hrevoked]
        rfl
      simp only [map_none,isSome_none,Bool.false_eq_true,if_false,hpointer]
      rcases writeRevocation_cases revocationSignature stateSignature
          h hgranted hid hrevoked with
        hfull | ⟨row,hrow,hroom,hwrite⟩
      · exact .inl ⟨.outside,by rw [hfull]; rfl,trivial⟩
      rw [hwrite,ok_bind]
      obtain ⟨hsound,hextends⟩ := h.revoking revocationSignature stateSignature
        hrow (by rw [hselect]; rfl) hrevoked hroom
      generalize hdb' : revokedDatabase db row revocation (planAt P db revocation)
        revocationSignature stateSignature = db' at hsound hextends ⊢
      have hgrant' : (db'.selectGrant revocation.grantId).isSome = true := by
        rw [← hdb']
        exact selectGrant_revoked (by rw [hselect]; rfl)
      have hrevoked' : (db'.selectRevocation revocation.grantId).isSome = true := by
        rw [← hdb',selectRevocation_revoked,hrevoked,if_pos rfl]
        rfl
      rcases hsound.verifiedRevocationState_cases (hextends.contextSound hcontext) with
        ⟨error,hafter,hbenign⟩ | hafter
      · exact .inl ⟨error,by rw [hafter]; rfl,hbenign⟩
      rw [hafter,ok_bind]
      obtain ⟨linked,hlinked⟩ := isSome_iff_exists.1 hgrant'
      obtain ⟨hmem,hid'⟩ := DatabaseSound.selectGrant_some hlinked
      rw [hlinked]
      simp only
      rw [← hid'] at hrevoked' ⊢
      rcases alreadyRevoked_cases context hsound hmem hrevoked' with
        ⟨error,herror,hbenign⟩ | ⟨standing,hok,hstanding⟩
      · exact .inl ⟨error,by rw [herror]; rfl,hbenign⟩
      · rw [hok]
        refine .inr (.inr ⟨.revoked standing,db',rfl,hsound,hextends,?_⟩)
        rintro _ ⟨⟩
        exact hstanding

end Revoked

end Frontera.GrantStore
