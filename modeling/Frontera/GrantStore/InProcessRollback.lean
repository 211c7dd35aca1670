import Frontera.GrantStore.Processes
import Frontera.Text.Literals

/-! A process without a freshness session remembers the newest commitment one of its calls was
answered from. Here the file holds anything at all at each transaction: rows, commitments and whole
files of any age and any store. What the process then refuses is a commitment of a lower sequence,
or another one at the same sequence; a read that reports a grant as not revoked rests on a
commitment that the trusted key signed at a greater sequence. -/

namespace Frontera.GrantStore

open Frontera.Data Frontera.Grant

variable {P : Platform} {parse : String → Option BoundedGrant} {context : StoreContext}
  {db : StoreDatabase}

/-- The transaction of a call. -/
inductive StoreCall where
  | read (grantId : String)
  | preflightIssue (grant : BoundedGrant) (commitGuard : GrantCommitPrecondition)
  | issue (grant : BoundedGrant) (signature : AuthoritySignature) (storeId : String)
      (commitGuard : GrantCommitPrecondition)
  | planRevocation (revocation : GrantRevocation)
  | revoke (revocation : GrantRevocation) (plan : SigningPlan)
      (revocationSignature stateSignature : AuthoritySignature)

/-- The commitment `noteVerified` is handed; `none` when the transaction raised, or found
its plan stale. -/
def StoreCall.verified (P : Platform) (parse : String → Option BoundedGrant)
    (context : StoreContext) (db : StoreDatabase) : StoreCall → Option RevocationStateCommitment
  | .read grantId =>
      match runRead P parse context db grantId with
      | .ok (_, state) => some state
      | .error _ => none
  | .preflightIssue grant commitGuard =>
      match runPreflightIssue P parse context db grant commitGuard with
      | .ok (_, state) => some state
      | .error _ => none
  | .issue grant signature storeId commitGuard =>
      match runIssue P parse context db grant signature storeId commitGuard with
      | .ok (_, state, _) => some state
      | .error _ => none
  | .planRevocation revocation =>
      match runPlanRevocation P context db revocation with
      | .ok (.settled _ state) => some state
      | .ok (.sign plan) => some plan.previous
      | .error _ => none
  | .revoke revocation plan revocationSignature stateSignature =>
      match runRevoke P context db revocation plan revocationSignature stateSignature with
      | .ok (.committed _ state, _) => some state
      | _ => none

/-- Without a freshness session every head is accepted. -/
def noSession : Surroundings := ⟨fun _ => true,false⟩

/-- A process just opened without a freshness session. -/
def StoreProcess.opened (verifier : AuthorityArtifactVerifier) : StoreProcess :=
  ⟨verifier,none,none,false⟩

/-- One call, on what the file holds at that moment. -/
def StoreProcess.call (P : Platform) (parse : String → Option BoundedGrant) (p : StoreProcess)
    (turn : StoreDatabase × StoreCall) : StoreProcess :=
  match turn.2.verified P parse (p.context noSession) turn.1 with
  | some commitment => p.noteVerified commitment
  | none => p

/-- The process after its calls, each on its own content of the file. -/
def StoreProcess.calls (P : Platform) (parse : String → Option BoundedGrant) (p : StoreProcess)
    (turns : List (StoreDatabase × StoreCall)) : StoreProcess :=
  turns.foldl (StoreProcess.call P parse) p

/-- The commitments the process's calls were answered from. -/
def StoreProcess.verifiedBy (P : Platform) (parse : String → Option BoundedGrant) :
    StoreProcess → List (StoreDatabase × StoreCall) → List RevocationStateCommitment
  | _, [] => []
  | p, turn :: turns =>
      (turn.2.verified P parse (p.context noSession) turn.1).toList ++
        verifiedBy P parse (p.call P parse turn) turns

/-- The commitment is over a set that lists the grant. -/
def CoversGrant (P : Platform) (commitment : RevocationStateCommitment) (grantId : String) : Prop :=
  ∃ entries, commitment.revocationSetDigest = revocationSetDigest P commitment.storeId entries ∧
    grantId ∈ entries.map RevocationSetEntry.grantId

/-- A commitment that verified on this file, in this process. -/
structure VerifiedOn (P : Platform) (context : StoreContext) (db : StoreDatabase)
    (commitment : RevocationStateCommitment) : Prop where
  signed : ∃ row, db.state = some row ∧ context.verifier.verifyRevocationState commitment
    (signatureEnvelopeOf row.toSignatureColumns) = none
  digest : revocationSetDigest P commitment.storeId db.selectRevocationEntries =
    commitment.revocationSetDigest
  newest : checkNewestVerified context commitment = .ok ()

variable {state : VerifiedRevocationState} {commitment : RevocationStateCommitment}
  {grantId : String} {grant : BoundedGrant} {commitGuard : GrantCommitPrecondition}
  {db' : StoreDatabase} {revocation : GrantRevocation} {p : StoreProcess}

theorem verifiedRevocationState_on (h : verifiedRevocationState P context db = .ok state) :
    VerifiedOn P context db state.commitment ∧ state.entries = db.selectRevocationEntries := by
  unfold verifiedRevocationState at h
  cases hunestablished : context.unestablished with
  | some error =>
    rw [hunestablished] at h
    cases h
  | none =>
    rw [hunestablished] at h
    cases hrow : db.state with
    | none =>
      rw [hrow] at h
      cases h
    | some row =>
      simp only [hrow] at h
      obtain ⟨-,h⟩ := guard_eq_ok.1 h
      obtain ⟨-,h⟩ := guard_eq_ok.1 h
      obtain ⟨-,h⟩ := guard_eq_ok.1 h
      split at h
      · cases h
      · rename_i hsigned
        obtain ⟨-,h⟩ := guard_eq_ok.1 h
        obtain ⟨-,h⟩ := guard_eq_ok.1 h
        obtain ⟨hdigest,h⟩ := guard_eq_ok.1 h
        obtain ⟨-,h⟩ := guard_eq_ok.1 h
        split at h
        · cases h
        · rename_i hnewest
          cases h
          exact ⟨⟨⟨row,hrow,hsigned⟩,not_not.1 hdigest,hnewest⟩,rfl⟩

theorem checkNewestVerified_spec (h : checkNewestVerified context commitment = .ok ())
    {sequence : Int} {setDigest : String}
    (hnewest : context.newestVerified = some (sequence, setDigest)) :
    sequence ≤ commitment.sequence ∧
      (commitment.sequence = sequence → commitment.revocationSetDigest = setDigest) := by
  unfold checkNewestVerified at h
  simp only [hnewest] at h
  split_ifs at h with hless hdiffers
  refine ⟨by omega,fun hequal => ?_⟩
  by_contra hdigest
  exact hdiffers ⟨hequal,hdigest⟩

theorem runRead_ok {result : ReadBoundedGrantResult}
    (h : runRead P parse context db grantId = .ok (result, commitment)) :
    ∃ state, verifiedRevocationState P context db = .ok state ∧ state.commitment = commitment ∧
      (result.grant.isSome = true → result.revocation = none → state.byGrantId grantId = none) := by
  obtain ⟨state,hstate,h⟩ := bind_eq_ok.1 h
  refine ⟨state,hstate,?_⟩
  cases hrow : db.selectGrant grantId with
  | none =>
    simp only [hrow] at h
    split_ifs at h
    cases h
    exact ⟨rfl,fun hgrant => by cases hgrant⟩
  | some row =>
    simp only [hrow] at h
    obtain ⟨grant,hgrant,h⟩ := bind_eq_ok.1 h
    obtain ⟨revocation,hrevocation,h⟩ := bind_eq_ok.1 h
    cases h
    refine ⟨rfl,fun _ hnone => ?_⟩
    obtain rfl : revocation = none := hnone
    unfold currentRevocation at hrevocation
    cases hcovered : state.byGrantId grantId with
    | none => rfl
    | some committed =>
      cases hrecorded : db.selectRevocation grantId with
      | none =>
        simp only [hcovered,hrecorded] at hrevocation
        cases hrevocation
      | some recorded =>
        simp only [hcovered,hrecorded] at hrevocation
        split at hrevocation
        · cases hrevocation
        · split_ifs at hrevocation
          cases hrevocation

theorem runRead_of {row : GrantRow} {revocation : Option GrantRevocation}
    (hstate : verifiedRevocationState P context db = .ok state)
    (hrow : db.selectGrant grantId = some row)
    (hgrant : verifiedGrant P parse context row state.commitment.storeId = .ok grant)
    (hrevocation : currentRevocation P context db grantId row.revocationDigest state = .ok revocation) :
    runRead P parse context db grantId = .ok (⟨some grant,revocation⟩, state.commitment) := by
  simp only [runRead,hstate,ok_bind,hrow,hgrant,hrevocation]
  rfl

theorem runPreflightIssue_ok {settled : Option IssueBoundedGrantOutcome}
    (h : runPreflightIssue P parse context db grant commitGuard = .ok (settled, commitment)) :
    ∃ state, verifiedRevocationState P context db = .ok state ∧ state.commitment = commitment := by
  obtain ⟨state,hstate,h⟩ := bind_eq_ok.1 h
  obtain ⟨settled',hsettled,h⟩ := bind_eq_ok.1 h
  cases h
  exact ⟨state,hstate,rfl⟩

theorem runIssue_ok {signature : AuthoritySignature} {storeId : String}
    {outcome : IssueBoundedGrantOutcome}
    (h : runIssue P parse context db grant signature storeId commitGuard = .ok (outcome, commitment, db')) :
    ∃ state, verifiedRevocationState P context db = .ok state ∧ state.commitment = commitment := by
  obtain ⟨state,hstate,h⟩ := bind_eq_ok.1 h
  refine ⟨state,hstate,?_⟩
  by_cases hstore : state.commitment.storeId ≠ storeId
  · rw [if_pos hstore] at h
    cases h
  · rw [if_neg hstore] at h
    obtain ⟨settled,hsettled,h⟩ := bind_eq_ok.1 h
    cases settled with
    | some outcome' =>
      cases h
      rfl
    | none =>
      obtain ⟨issued,hissued,h⟩ := bind_eq_ok.1 h
      cases h
      rfl

theorem runPlanRevocation_ok {plan : RevocationPlan}
    (h : runPlanRevocation P context db revocation = .ok plan) :
    ∃ state, verifiedRevocationState P context db = .ok state ∧
      ((∃ outcome, plan = .settled outcome state.commitment) ∨
        ∃ signing, plan = .sign signing ∧ signing.previous = state.commitment) := by
  obtain ⟨state,hstate,h⟩ := bind_eq_ok.1 h
  refine ⟨state,hstate,?_⟩
  cases hrow : db.selectGrant revocation.grantId with
  | none =>
    simp only [hrow] at h
    cases h
    exact .inl ⟨_,rfl⟩
  | some row =>
    simp only [hrow] at h
    split_ifs at h
    · obtain ⟨existing,hexisting,h⟩ := bind_eq_ok.1 h
      cases h
      exact .inl ⟨_,rfl⟩
    · cases h
      exact .inr ⟨_,rfl,rfl⟩

theorem runRevoke_ok {plan : SigningPlan}
    {revocationSignature stateSignature : AuthoritySignature}
    {outcome : RevokeBoundedGrantOutcome}
    (h : runRevoke P context db revocation plan revocationSignature stateSignature = .ok (.committed outcome commitment, db')) :
    ∃ file state, verifiedRevocationState P context file = .ok state ∧ state.commitment = commitment := by
  obtain ⟨state,hstate,h⟩ := bind_eq_ok.1 h
  by_cases hstale : state.commitment ≠ plan.previous
  · rw [if_pos hstale] at h
    cases h
  · rw [if_neg hstale] at h
    cases hrow : db.selectGrant revocation.grantId with
    | none =>
      simp only [hrow] at h
      cases h
      exact ⟨db,state,hstate,rfl⟩
    | some row =>
      simp only [hrow] at h
      split at h
      · obtain ⟨existing,hexisting,h⟩ := bind_eq_ok.1 h
        cases h
        exact ⟨db,state,hstate,rfl⟩
      split at h
      · cases h
      · obtain ⟨written,hwritten,h⟩ := bind_eq_ok.1 h
        obtain ⟨after,hafter,h⟩ := bind_eq_ok.1 h
        split at h
        · cases h
        · obtain ⟨recorded,hrecorded,h⟩ := bind_eq_ok.1 h
          cases h
          exact ⟨db',after,hafter,rfl⟩

theorem StoreCall.verified_newest {call : StoreCall}
    (h : call.verified P parse context db = some commitment) :
    checkNewestVerified context commitment = .ok () := by
  have hverified : ∃ file state, verifiedRevocationState P context file = .ok state ∧
      state.commitment = commitment := by
    cases call with
    | read grantId =>
      simp only [StoreCall.verified] at h
      split at h
      next hrun =>
        cases h
        obtain ⟨state,hstate,hcommitment,-⟩ := runRead_ok hrun
        exact ⟨db,state,hstate,hcommitment⟩
      next => cases h
    | preflightIssue grant commitGuard =>
      simp only [StoreCall.verified] at h
      split at h
      next hrun =>
        cases h
        exact ⟨db,runPreflightIssue_ok hrun⟩
      next => cases h
    | issue grant signature storeId commitGuard =>
      simp only [StoreCall.verified] at h
      split at h
      next hrun =>
        cases h
        exact ⟨db,runIssue_ok hrun⟩
      next => cases h
    | planRevocation revocation =>
      simp only [StoreCall.verified] at h
      split at h
      next hrun =>
        cases h
        obtain ⟨state,hstate,⟨outcome,hplan⟩ | ⟨signing,hplan,-⟩⟩ := runPlanRevocation_ok hrun
        · cases hplan
          exact ⟨db,state,hstate,rfl⟩
        · cases hplan
      next hrun =>
        cases h
        obtain ⟨state,hstate,⟨outcome,hplan⟩ | ⟨signing,hplan,hprevious⟩⟩ :=
          runPlanRevocation_ok hrun
        · cases hplan
        · cases hplan
          exact ⟨db,state,hstate,hprevious.symm⟩
      next => cases h
    | revoke revocation plan revocationSignature stateSignature =>
      simp only [StoreCall.verified] at h
      split at h
      next hrun =>
        cases h
        exact runRevoke_ok hrun
      next => cases h
  obtain ⟨file,state,hstate,rfl⟩ := hverified
  exact (verifiedRevocationState_on hstate).1.newest

/-- What the process remembers is at or beyond the commitment, and is the commitment where
it is not beyond. -/
def Remembers (p : StoreProcess) (commitment : RevocationStateCommitment) : Prop :=
  ∃ sequence setDigest, p.newestVerified = some (sequence, setDigest) ∧ commitment.sequence ≤ sequence ∧
    (commitment.sequence = sequence → commitment.revocationSetDigest = setDigest)

theorem noteVerified_remembers
    (hnewest : checkNewestVerified (p.context noSession) commitment = .ok ()) :
    Remembers (p.noteVerified commitment) commitment := by
  unfold StoreProcess.noteVerified
  cases hp : p.newestVerified with
  | none => exact ⟨_,_,rfl,Int.le_refl _,fun _ => rfl⟩
  | some noted =>
    obtain ⟨sequence,setDigest⟩ := noted
    obtain ⟨hle,hequal⟩ := checkNewestVerified_spec hnewest hp
    simp only
    split_ifs with hgreater
    · exact ⟨_,_,rfl,Int.le_refl _,fun _ => rfl⟩
    · exact ⟨sequence,setDigest,hp,by omega,hequal⟩

theorem Remembers.noteVerified {other : RevocationStateCommitment} (h : Remembers p commitment) :
    Remembers (p.noteVerified other) commitment := by
  obtain ⟨sequence,setDigest,hp,hle,hequal⟩ := h
  unfold StoreProcess.noteVerified
  simp only [hp]
  split_ifs with hgreater
  · exact ⟨_,_,rfl,by omega,fun _ => by omega⟩
  · exact ⟨sequence,setDigest,hp,hle,hequal⟩

theorem Remembers.call (h : Remembers p commitment) (turn : StoreDatabase × StoreCall) :
    Remembers (p.call P parse turn) commitment := by
  unfold StoreProcess.call
  split
  · exact h.noteVerified
  · exact h

theorem Remembers.calls (h : Remembers p commitment) (turns : List (StoreDatabase × StoreCall)) :
    Remembers (p.calls P parse turns) commitment := by
  induction turns generalizing p with
  | nil => exact h
  | cons turn turns ih => exact ih (h.call turn)

theorem remembers_verifiedBy {turns : List (StoreDatabase × StoreCall)}
    (h : commitment ∈ p.verifiedBy P parse turns) :
    Remembers (p.calls P parse turns) commitment := by
  induction turns generalizing p with
  | nil => cases h
  | cons turn turns ih =>
    rcases List.mem_append.1 h with hnow | hlater
    · have hverified := Option.mem_toList.1 hnow
      have hcall : p.call P parse turn = p.noteVerified commitment := by
        unfold StoreProcess.call
        rw [hverified]
      have hremembers := noteVerified_remembers (StoreCall.verified_newest hverified)
      rw [← hcall] at hremembers
      exact hremembers.calls turns
    · exact ih hlater

theorem calls_verifier (p : StoreProcess) (turns : List (StoreDatabase × StoreCall)) :
    (p.calls P parse turns).verifier = p.verifier := by
  induction turns generalizing p with
  | nil => rfl
  | cons turn turns ih =>
    have hcall : (p.call P parse turn).verifier = p.verifier := by
      unfold StoreProcess.call StoreProcess.noteVerified
      split
      · split
        · rfl
        · split_ifs <;> rfl
      · rfl
    exact (ih (p.call P parse turn)).trans hcall

theorem byGrantId_eq_none : state.byGrantId grantId = none ↔
      grantId ∉ state.entries.map RevocationSetEntry.grantId := by
  simp [VerifiedRevocationState.byGrantId,List.find?_eq_none]

/-- Whatever the file held at each of its calls: when a call of a process was answered from
a commitment that covers a grant, a later read that returns the grant without a revocation
rests on a commitment of a greater sequence, which verifies under the process's trusted keys
and whose set does not list the grant. -/
theorem unrevoked_read_needs_greater_commitment (P : Platform)
    (hsha : Function.Injective P.sha256) (parse : String → Option BoundedGrant)
    (verifier : AuthorityArtifactVerifier) (turns : List (StoreDatabase × StoreCall))
    (grantId : String) (covering : RevocationStateCommitment)
    (hverified : covering ∈ (StoreProcess.opened verifier).verifiedBy P parse turns)
    (hcovers : CoversGrant P covering grantId) (file : StoreDatabase)
    (result : ReadBoundedGrantResult) (head : RevocationStateCommitment)
    (hread : runRead P parse
      (((StoreProcess.opened verifier).calls P parse turns).context noSession) file grantId =
        .ok (result, head))
    (hgrant : result.grant.isSome = true) (hunrevoked : result.revocation = none) :
    covering.sequence < head.sequence ∧ (∃ row, file.state = some row ∧ verifier.verifyRevocationState head
      (signatureEnvelopeOf row.toSignatureColumns) = none) ∧
    head.revocationSetDigest = revocationSetDigest P head.storeId file.selectRevocationEntries ∧
    grantId ∉ file.selectRevocationEntries.map RevocationSetEntry.grantId := by
  obtain ⟨state,hstate,rfl,hnone⟩ := runRead_ok hread
  obtain ⟨hon,hentries⟩ := verifiedRevocationState_on hstate
  have hlisted := byGrantId_eq_none.1 (hnone hgrant hunrevoked)
  rw [hentries] at hlisted
  obtain ⟨sequence,setDigest,hnewest,hle,hequal⟩ := remembers_verifiedBy hverified
  obtain ⟨hle',hequal'⟩ := checkNewestVerified_spec hon.newest hnewest
  have hless : covering.sequence < state.commitment.sequence := by
    by_contra hnot
    have hsequence : covering.sequence = sequence := by omega
    have hdigest : state.commitment.revocationSetDigest = covering.revocationSetDigest := by
      rw [hequal' (by omega),hequal hsequence]
    obtain ⟨entries,hcovered,hmem⟩ := hcovers
    rw [← hon.digest,hcovered] at hdigest
    obtain ⟨-,rfl⟩ := revocationSetDigest_inj hsha hdigest
    exact hlisted hmem
  obtain ⟨row,hrow,hsigned⟩ := hon.signed
  have hverifier : (((StoreProcess.opened verifier).calls P parse turns).context
      noSession).verifier = verifier := calls_verifier _ turns
  rw [hverifier] at hsigned
  exact ⟨hless,⟨row,hrow,hsigned⟩,hon.digest.symm,hlisted⟩

/-! ## A forked file

A store is copied before a grant is revoked; the copy goes on with other revocations, which
a process that never saw the first one signs, and is put back. -/

/-- The signature of the trusted key over a text under its domain. -/
def trustedSignature (signed : String) : AuthoritySignature :=
  ⟨"ed25519-v1","authority-key-1",signed,"aoc.authority-artifact.v1"⟩

def grantSignature (grant : BoundedGrant) (storeId : String) : AuthoritySignature :=
  trustedSignature ("frontera:authority-artifact:bounded-grant:v1\n" ++
    serializeStoredGrantRecord grant storeId)

def revocationSignature (revocation : GrantRevocation) (storeId : String) : AuthoritySignature :=
  trustedSignature ("frontera:authority-artifact:grant-revocation:v1\n" ++
    serializeStoredRevocationRecord revocation storeId)

def revocationStateSignature (state : RevocationStateCommitment) : AuthoritySignature :=
  trustedSignature ("frontera:authority-artifact:revocation-state:v1\n" ++
    serializeRevocationStateCommitment state)

def trustedVerifier : AuthorityArtifactVerifier where
  verifyGrant grant storeId envelope :=
    if envelope = some (grantSignature grant storeId).columns then none
    else some "AUTHORITY_SIGNATURE_INVALID"
  verifyRevocation revocation storeId envelope :=
    if envelope = some (revocationSignature revocation storeId).columns then none
    else some "AUTHORITY_SIGNATURE_INVALID"
  verifyRevocationState state envelope :=
    if envelope = some (revocationStateSignature state).columns then none
    else some "AUTHORITY_SIGNATURE_INVALID"

section Fork

variable (P : Platform)

def unsealedGrant : BoundedGrant where
  id := "grant-1"
  correlation := sampleCorrelation
  subject := "agent-1"
  scope := sampleScope
  issuedAt := sampleInstant
  expiresAt := sampleLaterInstant
  sourceDigest := "sha256:70ec09f93a846fd39b0ecb575c164a10204e41f0a82ecb40694b0636e0b166a9"
  authorityBindingDigest := none
  semanticsFormat := none
  digest := ""

def storedGrant : BoundedGrant :=
  { unsealedGrant with digest := boundedGrantDigest P unsealedGrant }

/-- The reading of the one stored text. -/
def parseStored (text : String) : Option BoundedGrant :=
  if text = serializeBoundedGrant (storedGrant P) then some (storedGrant P) else none

def revocationBy (grantId : String) : GrantRevocation :=
  ⟨grantId,sampleInstant,.administratorRevoked,"issuer-1"⟩

def entryAt (sequence : Int) (grantId : String) : RevocationSetEntry :=
  ⟨sequence,grantId,storedRevocationRecordDigest P (revocationBy grantId) "store-1"⟩

def rowAt (sequence : Int) (grantId : String) : RevocationRow where
  toSignatureColumns := (revocationSignature (revocationBy grantId) "store-1").columns
  grantId := grantId
  sequence := sequence
  revokedAt := sampleInstant
  reason := GrantRevocationReason.administratorRevoked.text
  issuerRef := "issuer-1"
  revocationDigest := storedRevocationRecordDigest P (revocationBy grantId) "store-1"
  schemaVersion := boundedGrantStoreSchemaVersion

/-- The store with one grant and these revocations, all of it signed by the trusted key. -/
def signedFile (pointer : Option String) (revocations : List (Int × String)) : StoreDatabase :=
  let commitment : RevocationStateCommitment := ⟨"store-1",revocations.length,
    revocationSetDigest P "store-1" (revocations.map fun r => entryAt P r.1 r.2)⟩
  ⟨[{ grantRowOf P (storedGrant P) "store-1" (grantSignature (storedGrant P) "store-1") with
      revocationDigest := pointer }],
    revocations.map fun r => rowAt P r.1 r.2,
    some ⟨(revocationStateSignature commitment).columns,commitment.storeId,commitment.sequence,
      commitment.revocationSetDigest,boundedGrantStoreSchemaVersion⟩⟩

def revokedFile : StoreDatabase :=
  signedFile P (some (storedRevocationRecordDigest P (revocationBy "grant-1") "store-1"))
    [(1, "grant-1")]

def forkedFile : StoreDatabase := signedFile P none [(1, "grant-2"), (2, "grant-3")]

def revokedCommitment : RevocationStateCommitment :=
  ⟨"store-1",1,revocationSetDigest P "store-1" [entryAt P 1 "grant-1"]⟩

def forkedCommitment : RevocationStateCommitment :=
  ⟨"store-1",2,revocationSetDigest P "store-1" [entryAt P 1 "grant-2", entryAt P 2 "grant-3"]⟩

variable {P}

theorem storedGrant_verified (context : StoreContext) (hverifier : context.verifier = trustedVerifier)
    (pointer : Option String) :
    verifiedGrant P (parseStored P) context
      { grantRowOf P (storedGrant P) "store-1" (grantSignature (storedGrant P) "store-1") with
        revocationDigest := pointer } "store-1" = .ok (storedGrant P) := by
  have hparsed : parseStoredGrant (parseStored P) (serializeBoundedGrant (storedGrant P)) =
      some (storedGrant P) := by
    simp [parseStoredGrant,parseStored]
  have hdigest : boundedGrantDigestMatches P (storedGrant P) = true := beq_self_eq_true _
  have hsemantics : isWellFormedBoundedGrantSemantics (storedGrant P).scope
      (storedGrant P).semanticsFormat = true := rfl
  unfold verifiedGrant
  simp only [grantRowOf,hparsed,hdigest,hsemantics,hverifier,ne_eq,not_true_eq_false,
    if_false,Bool.not_true,Bool.false_eq_true]
  simp [trustedVerifier,signatureEnvelopeOf,AuthoritySignature.columns,grantSignature]

theorem signedFile_state {context : StoreContext} (hverifier : context.verifier = trustedVerifier)
    (hopen : context.unestablished = none) (hobserves : context.observes = fun _ => true)
    {pointer : Option String} {revocations : List (Int × String)}
    {entries : List RevocationSetEntry}
    (hentries : entries = revocations.map fun r => entryAt P r.1 r.2)
    (hsorted : (signedFile P pointer revocations).selectRevocationEntries = entries)
    (hcontiguous : contiguous entries = true)
    (hsafe : isSafeInteger (revocations.length : Int) = true)
    (hnewest : checkNewestVerified context
      ⟨"store-1",revocations.length,revocationSetDigest P "store-1" entries⟩ = .ok ()) :
    verifiedRevocationState P context (signedFile P pointer revocations) =
      .ok ⟨⟨"store-1",revocations.length,revocationSetDigest P "store-1" entries⟩,entries⟩ := by
  subst hentries
  have hstate : (signedFile P pointer revocations).state =
      some ⟨(revocationStateSignature ⟨"store-1",revocations.length,revocationSetDigest P
        "store-1" (revocations.map fun r => entryAt P r.1 r.2)⟩).columns,"store-1",
        revocations.length,revocationSetDigest P "store-1"
          (revocations.map fun r => entryAt P r.1 r.2),boundedGrantStoreSchemaVersion⟩ := rfl
  have hnegative : ¬ (revocations.length : Int) < 0 := by omega
  unfold verifiedRevocationState
  simp [hopen,hverifier,hobserves,hsorted,hstate,hsafe,hcontiguous,hnewest,trustedVerifier,
    signatureEnvelopeOf,AuthoritySignature.columns,hnegative]

def firstTurn (P : Platform) : List (StoreDatabase × StoreCall) := [(revokedFile P, .read "grant-1")]

theorem revokedFile_read : runRead P (parseStored P)
    ((StoreProcess.opened trustedVerifier).context noSession) (revokedFile P) "grant-1" =
      .ok (⟨some (storedGrant P),some (revocationBy "grant-1")⟩, revokedCommitment P) := by
  have hstate := @signedFile_state P ((StoreProcess.opened trustedVerifier).context noSession) rfl
    rfl rfl (some (storedRevocationRecordDigest P (revocationBy "grant-1") "store-1"))
    [(1, "grant-1")] [entryAt P 1 "grant-1"] rfl rfl rfl rfl rfl
  have hgrant := @storedGrant_verified P ((StoreProcess.opened trustedVerifier).context noSession)
    rfl (some (storedRevocationRecordDigest P (revocationBy "grant-1") "store-1"))
  have hrevocation : verifiedRevocation P
      ((StoreProcess.opened trustedVerifier).context noSession) (rowAt P 1 "grant-1") "store-1" =
        .ok (revocationBy "grant-1") := by
    have hreason : revocationReasonOfText GrantRevocationReason.administratorRevoked.text =
        some .administratorRevoked := rfl
    unfold verifiedRevocation
    simp [rowAt,hreason,revocationBy,StoreProcess.context,StoreProcess.opened,trustedVerifier,
      signatureEnvelopeOf,AuthoritySignature.columns]
  have hcurrent : currentRevocation P ((StoreProcess.opened trustedVerifier).context noSession)
      (revokedFile P) "grant-1"
      (some (storedRevocationRecordDigest P (revocationBy "grant-1") "store-1"))
      ⟨revokedCommitment P,[entryAt P 1 "grant-1"]⟩ = .ok (some (revocationBy "grant-1")) := by
    have hcovered : (⟨revokedCommitment P,[entryAt P 1 "grant-1"]⟩ :
        VerifiedRevocationState).byGrantId "grant-1" = some (entryAt P 1 "grant-1") := rfl
    have hrecorded : (revokedFile P).selectRevocation "grant-1" = some (rowAt P 1 "grant-1") := rfl
    unfold currentRevocation
    simp only [hcovered,hrecorded]
    rw [show (revokedCommitment P).storeId = "store-1" from rfl,hrevocation]
    simp [rowAt,entryAt]
  have hselect : (revokedFile P).selectGrant "grant-1" = some { grantRowOf P (storedGrant P)
      "store-1" (grantSignature (storedGrant P) "store-1") with
        revocationDigest := some (storedRevocationRecordDigest P (revocationBy "grant-1")
          "store-1") } := rfl
  exact runRead_of hstate hselect hgrant hcurrent

theorem forkedFile_read {context : StoreContext} (hverifier : context.verifier = trustedVerifier)
    (hopen : context.unestablished = none) (hobserves : context.observes = fun _ => true)
    (hnewest : checkNewestVerified context (forkedCommitment P) = .ok ()) :
    runRead P (parseStored P) context (forkedFile P) "grant-1" =
      .ok (⟨some (storedGrant P),none⟩, forkedCommitment P) := by
  have hstate := @signedFile_state P context hverifier hopen hobserves none
    [(1, "grant-2"), (2, "grant-3")] [entryAt P 1 "grant-2", entryAt P 2 "grant-3"] rfl rfl rfl rfl
    hnewest
  have hgrant := @storedGrant_verified P context hverifier none
  have hselect : (forkedFile P).selectGrant "grant-1" = some { grantRowOf P (storedGrant P)
      "store-1" (grantSignature (storedGrant P) "store-1") with revocationDigest := none } := rfl
  exact runRead_of hstate hselect hgrant rfl

theorem firstTurn_verified : (StoreProcess.opened trustedVerifier).verifiedBy P (parseStored P)
    (firstTurn P) = [revokedCommitment P] := by
  have hverified : StoreCall.verified P (parseStored P)
      ((StoreProcess.opened trustedVerifier).context noSession) (revokedFile P)
      (.read "grant-1") = some (revokedCommitment P) := by
    simp only [StoreCall.verified,revokedFile_read]
  simp only [firstTurn,StoreProcess.verifiedBy,hverified]
  rfl

theorem firstTurn_calls : (StoreProcess.opened trustedVerifier).calls P (parseStored P)
    (firstTurn P) = (StoreProcess.opened trustedVerifier).noteVerified (revokedCommitment P) := by
  have hverified : StoreCall.verified P (parseStored P)
      ((StoreProcess.opened trustedVerifier).context noSession) (revokedFile P)
      (.read "grant-1") = some (revokedCommitment P) := by
    simp only [StoreCall.verified,revokedFile_read]
  simp only [firstTurn,StoreProcess.calls,List.foldl_cons,List.foldl_nil,StoreProcess.call, hverified]

theorem revokedCommitment_covers : CoversGrant P (revokedCommitment P) "grant-1" :=
  ⟨[entryAt P 1 "grant-1"],rfl,List.mem_singleton.2 rfl⟩

theorem forkedFile_read_later : runRead P (parseStored P)
    (((StoreProcess.opened trustedVerifier).calls P (parseStored P) (firstTurn P)).context noSession)
    (forkedFile P) "grant-1" = .ok (⟨some (storedGrant P),none⟩, forkedCommitment P) := by
  rw [firstTurn_calls]
  exact forkedFile_read rfl rfl rfl rfl

end Fork

def rollbackDigests : List (String × String) :=
  [("\x7b\"correlation\":\x7b\"action\":\"payment.execute\",\"decisionId\":\"decision-1\"" ++
      ",\"requestId\":\"request-1\",\"resourceScope\":\"invoice-1\"\x7d,\"digest\":\"\",\"e" ++
      "xpiresAt\":\"2026-01-01T00:00:01.000Z\",\"id\":\"grant-1\",\"issuedAt\":\"2026-01-01" ++
      "T00:00:00.000Z\",\"scope\":\x7b\"action\":\x7b\"kind\":\"identity\",\"value\":\"paym" ++
      "ent.execute\"\x7d,\"amount\":\x7b\"kind\":\"ceiling\",\"limit\":\"100\",\"unit\":\"U" ++
      "SD\"\x7d,\"resources\":\x7b\"kind\":\"set\",\"values\":[\"invoice-1\",\"invoice-2\"]" ++
      "\x7d\x7d,\"sourceDigest\":\"sha256:70ec09f93a846fd39b0ecb575c164a10204e41f0a82ecb406" ++
      "94b0636e0b166a9\",\"subject\":\"agent-1\"\x7d",
      "65047f6e6f7cce998f55a7b7f9467e01cabb8ce7b0cdcc525020ab57bf99cb77"),
    ("\x7b\"format\":\"aoc.bounded-grant-store.record.v2\",\"grantId\":\"grant-1\",\"issue" ++
      "rRef\":\"issuer-1\",\"kind\":\"revocation\",\"reason\":\"administrator-revoked\",\"r" ++
      "evokedAt\":\"2026-01-01T00:00:00.000Z\",\"schemaVersion\":\"aoc.bounded-grant-store." ++
      "schema.v3\",\"storeId\":\"store-1\"\x7d",
      "27ce09e057e3294349f2600e44f0b465d67dc20e81c873381cbc2bb3ccc57d80"),
    ("\x7b\"format\":\"aoc.bounded-grant-store.record.v2\",\"grantId\":\"grant-2\",\"issue" ++
      "rRef\":\"issuer-1\",\"kind\":\"revocation\",\"reason\":\"administrator-revoked\",\"r" ++
      "evokedAt\":\"2026-01-01T00:00:00.000Z\",\"schemaVersion\":\"aoc.bounded-grant-store." ++
      "schema.v3\",\"storeId\":\"store-1\"\x7d",
      "c8208444577cf2128d023d750f63f27caae55ac600af7480d6caeb27174af5ec"),
    ("\x7b\"format\":\"aoc.bounded-grant-store.record.v2\",\"grantId\":\"grant-3\",\"issue" ++
      "rRef\":\"issuer-1\",\"kind\":\"revocation\",\"reason\":\"administrator-revoked\",\"r" ++
      "evokedAt\":\"2026-01-01T00:00:00.000Z\",\"schemaVersion\":\"aoc.bounded-grant-store." ++
      "schema.v3\",\"storeId\":\"store-1\"\x7d",
      "dc817f661dba86a5df5077818b0ec91dfb68f53e451803b54bb9bb8a1c64b7b6"),
    ("\x7b\"format\":\"aoc.bounded-grant-store.record.v2\",\"grant\":\x7b\"correlation\":" ++
      "\x7b\"action\":\"payment.execute\",\"decisionId\":\"decision-1\",\"requestId\":\"req" ++
      "uest-1\",\"resourceScope\":\"invoice-1\"\x7d,\"digest\":\"sha256:65047f6e6f7cce998f5" ++
      "5a7b7f9467e01cabb8ce7b0cdcc525020ab57bf99cb77\",\"expiresAt\":\"2026-01-01T00:00:01." ++
      "000Z\",\"id\":\"grant-1\",\"issuedAt\":\"2026-01-01T00:00:00.000Z\",\"scope\":\x7b\"" ++
      "action\":\x7b\"kind\":\"identity\",\"value\":\"payment.execute\"\x7d,\"amount\":\x7b" ++
      "\"kind\":\"ceiling\",\"limit\":\"100\",\"unit\":\"USD\"\x7d,\"resources\":\x7b\"kind" ++
      "\":\"set\",\"values\":[\"invoice-1\",\"invoice-2\"]\x7d\x7d,\"sourceDigest\":\"sha25" ++
      "6:70ec09f93a846fd39b0ecb575c164a10204e41f0a82ecb40694b0636e0b166a9\",\"subject\":\"a" ++
      "gent-1\"\x7d,\"grantId\":\"grant-1\",\"kind\":\"grant\",\"schemaVersion\":\"aoc.boun" ++
      "ded-grant-store.schema.v3\",\"storeId\":\"store-1\"\x7d",
      "414165a68624d70c2591e9467f333707703237d9111a1f871661fe0c2f709e7f"),
    ("\x7b\"entries\":[[1,\"grant-1\",\"sha256:27ce09e057e3294349f2600e44f0b465d67dc20e81c" ++
      "873381cbc2bb3ccc57d80\"]],\"format\":\"aoc.bounded-grant-store.revocation-set.v1\"," ++
      "\"storeId\":\"store-1\"\x7d",
      "628e4da92257dd5e08a9f8cbfa814c4436f815d02742b126852ce28e97eca6ac"),
    ("\x7b\"entries\":[[1,\"grant-2\",\"sha256:c8208444577cf2128d023d750f63f27caae55ac600a" ++
      "f7480d6caeb27174af5ec\"],[2,\"grant-3\",\"sha256:dc817f661dba86a5df5077818b0ec91dfb6" ++
      "8f53e451803b54bb9bb8a1c64b7b6\"]],\"format\":\"aoc.bounded-grant-store.revocation-se" ++
      "t.v1\",\"storeId\":\"store-1\"\x7d",
      "f307d7300bb32f74c7e6eb2c09356f36ee50836ba81daf34ecf1042e2beaeb58")]

def rollbackPlatform : Platform := tabulatedPlatform rollbackDigests

theorem rollbackPlatform_injective : Function.Injective rollbackPlatform.sha256 :=
  Text.tabulatedHash_injective_literals (.cons rfl (.cons rfl (.cons rfl (.cons rfl (.cons rfl (.cons rfl (.cons rfl .nil)))))))
    (by decide) (by decide)

/-- The process has read the revoked grant, and then reads it without a revocation from the
forked file, whose every signature is the trusted key's. -/
theorem forkedFile_read_unrevoked :
    revokedCommitment rollbackPlatform ∈ (StoreProcess.opened trustedVerifier).verifiedBy
      rollbackPlatform (parseStored rollbackPlatform) (firstTurn rollbackPlatform) ∧
    CoversGrant rollbackPlatform (revokedCommitment rollbackPlatform) "grant-1" ∧
    runRead rollbackPlatform (parseStored rollbackPlatform)
      (((StoreProcess.opened trustedVerifier).calls rollbackPlatform (parseStored rollbackPlatform)
        (firstTurn rollbackPlatform)).context noSession) (forkedFile rollbackPlatform) "grant-1" =
      .ok (⟨some (storedGrant rollbackPlatform),none⟩, forkedCommitment rollbackPlatform) := by
  refine ⟨?_,revokedCommitment_covers,forkedFile_read_later⟩
  rw [firstTurn_verified]
  exact List.mem_singleton.2 rfl

theorem unrevoked_read_needs_greater_commitment_fork :
    (revokedCommitment rollbackPlatform).sequence < (forkedCommitment rollbackPlatform).sequence ∧
    (∃ row, (forkedFile rollbackPlatform).state = some row ∧
      trustedVerifier.verifyRevocationState (forkedCommitment rollbackPlatform)
        (signatureEnvelopeOf row.toSignatureColumns) = none) ∧
    (forkedCommitment rollbackPlatform).revocationSetDigest =
      revocationSetDigest rollbackPlatform (forkedCommitment rollbackPlatform).storeId
        (forkedFile rollbackPlatform).selectRevocationEntries ∧
    "grant-1" ∉ (forkedFile rollbackPlatform).selectRevocationEntries.map
      RevocationSetEntry.grantId := by
  have hverified : revokedCommitment rollbackPlatform ∈
      (StoreProcess.opened trustedVerifier).verifiedBy rollbackPlatform
        (parseStored rollbackPlatform) (firstTurn rollbackPlatform) := by
    rw [firstTurn_verified]
    exact List.mem_singleton.2 rfl
  exact unrevoked_read_needs_greater_commitment rollbackPlatform rollbackPlatform_injective
    (parseStored rollbackPlatform) trustedVerifier (firstTurn rollbackPlatform) "grant-1"
    (revokedCommitment rollbackPlatform) hverified revokedCommitment_covers
    (forkedFile rollbackPlatform) _ _ forkedFile_read_later rfl rfl

end Frontera.GrantStore
