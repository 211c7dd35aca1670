import Frontera.GrantStore.Processes

/-! What every database holds that only the store's own transactions have written, and what each
transaction does to it. A transaction on a sound database never finds its revocation state
inconsistent. -/

namespace Frontera.GrantStore

open Frontera.Data Frontera.Grant List

variable {P : Platform} {parse : String → Option BoundedGrant} {context : StoreContext}

namespace StoreDatabase

def storeId (db : StoreDatabase) : String := (db.state.map (·.storeId)).getD ""

/-- The revocations in the order they were committed. -/
def entries (db : StoreDatabase) : List RevocationSetEntry := db.revocations.map RevocationRow.entry

/-- The state after the first `k` revocations. -/
def stateAt (P : Platform) (db : StoreDatabase) (k : Nat) : VerifiedRevocationState :=
  ⟨⟨db.storeId,k,revocationSetDigest P db.storeId (db.entries.take k)⟩,db.entries.take k⟩

/-- The revocation that stands recorded for a grant. -/
def revocationOf (db : StoreDatabase) (grantId : String) : Option GrantRevocation :=
  (db.selectRevocation grantId).bind fun row =>
    (revocationReasonOfText row.reason).map fun reason =>
      ⟨row.grantId,row.revokedAt,reason,row.issuerRef⟩

end StoreDatabase

/-- The record of a revocation row is whole. -/
structure RevocationRowSound (P : Platform) (storeId : String) (row : RevocationRow) : Prop where
  version : row.schemaVersion = boundedGrantStoreSchemaVersion
  record : ∃ reason, revocationReasonOfText row.reason = some reason ∧
    storedRevocationRecordDigest P ⟨row.grantId,row.revokedAt,reason,row.issuerRef⟩ storeId =
      row.revocationDigest

/-- The grant of a row reads back whole. -/
structure GrantRowSound (P : Platform) (parse : String → Option BoundedGrant) (storeId : String)
    (row : GrantRow) : Prop where
  version : row.schemaVersion = boundedGrantStoreSchemaVersion
  record : ∃ grant, parseStoredGrant parse row.grantJson = some grant ∧ grant.id = row.grantId ∧
    storedGrantRecordDigest P grant storeId = row.grantDigest ∧ boundedGrantDigestMatches P grant = true ∧
    isWellFormedBoundedGrantSemantics grant.scope grant.semanticsFormat = true

/-- The commitment counts and digests exactly the recorded revocations, which are numbered
without gaps, at most one for a grant, and each one its grant points to. -/
structure DatabaseSound (P : Platform) (parse : String → Option BoundedGrant)
    (db : StoreDatabase) : Prop where
  named : db.storeId ≠ ""
  committed : ∃ row, db.state = some row ∧ row.schemaVersion = boundedGrantStoreSchemaVersion ∧
    row.sequence = db.revocations.length ∧
    row.revocationSetDigest = revocationSetDigest P db.storeId db.entries
  numbered : db.revocations.map (·.sequence) =
    (List.range db.revocations.length).map fun index : Nat => (index : Int) + 1
  once : (db.revocations.map (·.grantId)).Nodup
  grants : (db.grants.map (·.grantId)).Nodup
  pointers : ∀ row ∈ db.grants,
    row.revocationDigest = (db.selectRevocation row.grantId).map (·.revocationDigest)
  granted : ∀ row ∈ db.revocations, (db.selectGrant row.grantId).isSome = true
  bounded : db.revocations.length ≤ sqliteMaximumRows
  revocationRows : ∀ row ∈ db.revocations, RevocationRowSound P db.storeId row
  grantRows : ∀ row ∈ db.grants, GrantRowSound P parse db.storeId row

/-- An error that does not speak against the file. -/
def Benign : StoreThrow → Prop
  | .store code _ => code = .unavailable ∨ code = .authenticityFailed
  | _ => True

/-- What a process remembers is a commitment of this file, at its length or before. -/
def Noted (P : Platform) (db : StoreDatabase) (newest : Option (Int × String)) : Prop :=
  ∀ noted, newest = some noted → ∃ k ≤ db.revocations.length,
    noted = ((k : Int), (db.stateAt P k).commitment.revocationSetDigest)

/-- The context of a process that has only met this file. -/
structure ContextSound (P : Platform) (db : StoreDatabase) (context : StoreContext) : Prop where
  noted : Noted P db context.newestVerified
  unestablished : ∀ error, context.unestablished = some error → Benign error

/-- The plan follows a state of this file, at its length or before. -/
def Planned (P : Platform) (db : StoreDatabase) (revocation : GrantRevocation)
    (plan : SigningPlan) : Prop :=
  ∃ k ≤ db.revocations.length, plan = signingPlanFor P (db.stateAt P k) revocation

theorem revocationReasonOfText_text (reason : GrantRevocationReason) :
    revocationReasonOfText reason.text = some reason := by
  cases reason <;> decide

namespace DatabaseSound

variable {db : StoreDatabase}

theorem selectRevocationEntries_eq (h : DatabaseSound P parse db) :
    db.selectRevocationEntries = db.entries := by
  have hsorted : db.entries.Pairwise fun a b => a.sequence ≤ b.sequence := by
    have hnumbers : (db.entries.map (·.sequence)).Pairwise (· ≤ ·) := by
      have hsequence : db.entries.map (·.sequence) = db.revocations.map (·.sequence) := by
        rw [StoreDatabase.entries,map_map]
        rfl
      rw [hsequence,h.numbered,pairwise_map]
      refine pairwise_lt_range.imp ?_
      intro a b hab
      omega
    exact pairwise_map.1 hnumbers
  exact List.Pairwise.insertionSort_eq hsorted

theorem contiguous_entries (h : DatabaseSound P parse db) : contiguous db.entries = true := by
  have hsequence : db.entries.map (·.sequence) = db.revocations.map (·.sequence) := by
    rw [StoreDatabase.entries,map_map]
    rfl
  rw [contiguous,hsequence,h.numbered,StoreDatabase.entries,length_map]
  exact beq_self_eq_true _

theorem stateAt_length (db : StoreDatabase) : db.stateAt P db.revocations.length =
    ⟨⟨db.storeId,db.revocations.length,revocationSetDigest P db.storeId db.entries⟩, db.entries⟩ := by
  have htake : db.entries.take db.revocations.length = db.entries := by
    rw [take_of_length_le]
    rw [StoreDatabase.entries,length_map]
  rw [StoreDatabase.stateAt,htake]

theorem safe_length (h : DatabaseSound P parse db) :
    isSafeInteger (db.revocations.length : Int) = true := by
  have hbounded := h.bounded
  rw [sqliteMaximumRows] at hbounded
  rw [isSafeInteger_iff]
  omega

theorem checkNewestVerified_ok (hnoted : Noted P db context.newestVerified) :
    checkNewestVerified context (db.stateAt P db.revocations.length).commitment = .ok () := by
  unfold checkNewestVerified
  cases hnewest : context.newestVerified with
  | none => rfl
  | some noted =>
    obtain ⟨k,hk,rfl⟩ := hnoted noted hnewest
    have hle : ¬ (db.stateAt P db.revocations.length).commitment.sequence < (k : Int) := by
      simp only [StoreDatabase.stateAt,not_lt]
      exact_mod_cast hk
    simp only
    rw [if_neg hle,if_neg]
    rintro ⟨hsequence,hdigest⟩
    have heq : db.revocations.length = k := by
      have hsequence' : (db.revocations.length : Int) = k := hsequence
      exact_mod_cast hsequence'
    apply hdigest
    rw [heq]

theorem verifiedRevocationState_cases (h : DatabaseSound P parse db)
    (hcontext : ContextSound P db context) :
    (∃ error, verifiedRevocationState P context db = .error error ∧ Benign error) ∨
      verifiedRevocationState P context db = .ok (db.stateAt P db.revocations.length) := by
  obtain ⟨row,hrow,hversion,hsequence,hdigest⟩ := h.committed
  have hstore : row.storeId = db.storeId := by
    rw [StoreDatabase.storeId,hrow]
    rfl
  have hlength : (db.entries.length : Int) = db.revocations.length := by
    rw [StoreDatabase.entries,length_map]
  have hsafe : (!isSafeInteger (db.revocations.length : Int) ||
      decide ((db.revocations.length : Int) < 0)) = false := by
    rw [h.safe_length]
    simp
  unfold verifiedRevocationState
  cases hunestablished : context.unestablished with
  | some error => exact .inl ⟨error,rfl,hcontext.unestablished error hunestablished⟩
  | none =>
    simp only [hrow,hversion,hstore,hsequence,hdigest,hsafe,h.selectRevocationEntries_eq,
      h.contiguous_entries,hlength,ne_eq,not_true_eq_false,if_false,Bool.not_true, Bool.false_eq_true]
    rw [if_neg h.named]
    cases context.verifier.verifyRevocationState _ _ with
    | some failure => exact .inl ⟨_,rfl,.inr rfl⟩
    | none =>
      have hstate := stateAt_length (P := P) db
      have hcheck := checkNewestVerified_ok hcontext.noted
      rw [hstate] at hcheck ⊢
      simp only at hcheck ⊢
      by_cases hobserves : context.observes ⟨db.storeId,db.revocations.length,
          revocationSetDigest P db.storeId db.entries⟩ = true
      · rw [hobserves,hcheck]
        exact .inr rfl
      · rw [Bool.not_eq_true] at hobserves
        rw [hobserves]
        exact .inl ⟨_,rfl,trivial⟩

theorem verifiedRevocationState_ok (h : DatabaseSound P parse db)
    (hcontext : ContextSound P db context) {verified : VerifiedRevocationState}
    (hverified : verifiedRevocationState P context db = .ok verified) :
    verified = db.stateAt P db.revocations.length := by
  rcases h.verifiedRevocationState_cases hcontext with ⟨error,herror,-⟩ | hok
  · rw [herror] at hverified
    cases hverified
  · rw [hok] at hverified
    exact (Except.ok.inj hverified).symm

theorem find?_reverse_of_unique {α : Type} {p : α → Bool} {l : List α}
    (h : ∀ a ∈ l, ∀ b ∈ l, p a = true → p b = true → a = b) : l.reverse.find? p = l.find? p := by
  cases hfind : l.find? p with
  | none =>
    rw [List.find?_eq_none] at hfind ⊢
    exact fun a ha => hfind a (mem_reverse.1 ha)
  | some a =>
    have ha := mem_of_find?_eq_some hfind
    have hpa := List.find?_some hfind
    have hsome : (l.reverse.find? p).isSome = true := by
      rw [List.find?_isSome]
      exact ⟨a,mem_reverse.2 ha,hpa⟩
    obtain ⟨b,hb⟩ := Option.isSome_iff_exists.1 hsome
    rw [hb,h b (mem_reverse.1 (mem_of_find?_eq_some hb)) a ha (List.find?_some hb) hpa]

theorem unique_revocation (h : DatabaseSound P parse db) {a b : RevocationRow}
    (ha : a ∈ db.revocations) (hb : b ∈ db.revocations) (heq : a.grantId = b.grantId) : a = b :=
  inj_on_of_nodup_map h.once ha hb heq

theorem byGrantId_eq (h : DatabaseSound P parse db) (grantId : String) :
    (db.stateAt P db.revocations.length).byGrantId grantId =
      (db.selectRevocation grantId).map RevocationRow.entry := by
  rw [stateAt_length,VerifiedRevocationState.byGrantId,StoreDatabase.entries,
    find?_reverse_of_unique,List.find?_map,StoreDatabase.selectRevocation]
  · rfl
  · intro a ha b hb hpa hpb
    obtain ⟨row,hrow,rfl⟩ := mem_map.1 ha
    obtain ⟨row',hrow',rfl⟩ := mem_map.1 hb
    have heq : row.grantId = row'.grantId := (beq_iff_eq.1 hpa).trans (beq_iff_eq.1 hpb).symm
    rw [h.unique_revocation hrow hrow' heq]

theorem selectRevocation_some {grantId : String} {row : RevocationRow}
    (hselect : db.selectRevocation grantId = some row) :
    row ∈ db.revocations ∧ row.grantId = grantId := by
  have hsame := List.find?_some hselect
  exact ⟨mem_of_find?_eq_some hselect,beq_iff_eq.1 hsame⟩

theorem selectGrant_some {grantId : String} {row : GrantRow}
    (hselect : db.selectGrant grantId = some row) : row ∈ db.grants ∧ row.grantId = grantId := by
  have hsame := List.find?_some hselect
  exact ⟨mem_of_find?_eq_some hselect,beq_iff_eq.1 hsame⟩

variable (context) in
theorem verifiedRevocation_cases (h : DatabaseSound P parse db) {row : RevocationRow}
    (hrow : row ∈ db.revocations) :
    (∃ error, verifiedRevocation P context row db.storeId = .error error ∧ Benign error) ∨
      ∃ reason, revocationReasonOfText row.reason = some reason ∧
        verifiedRevocation P context row db.storeId =
          .ok ⟨row.grantId,row.revokedAt,reason,row.issuerRef⟩ := by
  obtain ⟨hversion,reason,hreason,hdigest⟩ := h.revocationRows row hrow
  unfold verifiedRevocation
  simp only [hversion,hreason,hdigest,ne_eq,not_true_eq_false,if_false]
  cases context.verifier.verifyRevocation _ _ _ with
  | some failure => exact .inl ⟨_,rfl,.inr rfl⟩
  | none => exact .inr ⟨reason,rfl,rfl⟩

variable (context) in
theorem currentRevocation_cases (h : DatabaseSound P parse db) {row : GrantRow}
    (hrow : row ∈ db.grants) :
    (∃ error, currentRevocation P context db row.grantId row.revocationDigest
        (db.stateAt P db.revocations.length) = .error error ∧ Benign error) ∨
      currentRevocation P context db row.grantId row.revocationDigest
        (db.stateAt P db.revocations.length) = .ok (db.revocationOf row.grantId) := by
  have hpointer := h.pointers row hrow
  unfold currentRevocation StoreDatabase.revocationOf
  rw [h.byGrantId_eq,hpointer]
  cases hselect : db.selectRevocation row.grantId with
  | none => exact .inr rfl
  | some revoked =>
    obtain ⟨hrevoked,-⟩ := selectRevocation_some hselect
    have hstore : (db.stateAt P db.revocations.length).commitment.storeId = db.storeId := rfl
    simp only [Option.map_some,hstore]
    rcases h.verifiedRevocation_cases context hrevoked with
      ⟨error,herror,hbenign⟩ | ⟨reason,hreason,hok⟩
    · rw [herror]
      exact .inl ⟨error,rfl,hbenign⟩
    · rw [hok]
      simp [RevocationRow.entry,hreason]

variable (context) in
theorem verifiedGrant_cases (h : DatabaseSound P parse db) {row : GrantRow}
    (hrow : row ∈ db.grants) :
    (∃ error, verifiedGrant P parse context row db.storeId = .error error ∧ Benign error) ∨
      ∃ grant, verifiedGrant P parse context row db.storeId = .ok grant := by
  obtain ⟨hversion,grant,hparse,hid,hdigest,hmatches,hsemantics⟩ := h.grantRows row hrow
  unfold verifiedGrant
  simp only [hversion,hparse,hid,hdigest,hmatches,hsemantics,ne_eq,not_true_eq_false,
    if_false,Bool.not_true,Bool.false_eq_true]
  cases context.verifier.verifyGrant _ _ _ with
  | some failure => exact .inl ⟨_,rfl,.inr rfl⟩
  | none => exact .inr ⟨grant,rfl⟩

theorem runRead_cases (h : DatabaseSound P parse db) (hcontext : ContextSound P db context)
    (grantId : String) :
    (∃ error, runRead P parse context db grantId = .error error ∧ Benign error) ∨
      ∃ result, runRead P parse context db grantId =
          .ok (result, (db.stateAt P db.revocations.length).commitment) ∧
        (result.grant.isSome = true → result.revocation = db.revocationOf grantId) := by
  unfold runRead
  rcases h.verifiedRevocationState_cases hcontext with ⟨error,hstate,hbenign⟩ | hstate
  · exact .inl ⟨error,by rw [hstate]; rfl,hbenign⟩
  rw [hstate]
  cases hselect : db.selectGrant grantId with
  | none =>
    have hnone : db.selectRevocation grantId = none := by
      cases hrevocation : db.selectRevocation grantId with
      | none => rfl
      | some row =>
        obtain ⟨hrow,hid⟩ := selectRevocation_some hrevocation
        have hgranted := h.granted row hrow
        rw [hid,hselect] at hgranted
        cases hgranted
    refine .inr ⟨⟨none,none⟩,?_,fun hsome => by cases hsome⟩
    simp only [ok_bind,h.byGrantId_eq,hnone,Option.map_none,Option.isSome_none,Bool.or_self,
      Bool.false_eq_true,if_false]
    rfl
  | some row =>
    obtain ⟨hrow,rfl⟩ := selectGrant_some hselect
    have hstore : (db.stateAt P db.revocations.length).commitment.storeId = db.storeId := rfl
    simp only [ok_bind,hstore]
    rcases h.verifiedGrant_cases context hrow with
      ⟨error,hgrant,hbenign⟩ | ⟨grant,hgrant⟩
    · exact .inl ⟨error,by rw [hgrant]; rfl,hbenign⟩
    rw [hgrant]
    rcases h.currentRevocation_cases context hrow with
      ⟨error,hrevocation,hbenign⟩ | hrevocation
    · exact .inl ⟨error,by rw [ok_bind,hrevocation]; rfl,hbenign⟩
    · rw [ok_bind,hrevocation]
      exact .inr ⟨⟨some grant,db.revocationOf row.grantId⟩,rfl,fun _ => rfl⟩

end DatabaseSound

end Frontera.GrantStore
