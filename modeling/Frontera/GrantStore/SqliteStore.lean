import Frontera.Data.Throwing
import Frontera.Grant.Issuance
import Frontera.GrantStore.Record

/-! `createSqliteBoundedGrantStore` over its three tables, one definition for each of its
transactions. A transaction answers and leaves a database behind, or raises and is rolled back. What
lies outside the file is a parameter: the verifier of detached signatures, the text parser behind
`parseStoredGrant`, and whether a composed freshness session accepts the head a transaction has
verified. The `committed_at` columns are written and never read, so the rows do not carry them. -/

namespace Frontera.GrantStore

open Frontera.Data Frontera.Grant Frontera.Text

inductive BoundedGrantStoreErrorCode where
  | unavailable | stateCorrupt | authenticityFailed | revocationStateInconsistent

/-- What a call on the store raises. -/
inductive StoreThrow where
  | store (code : BoundedGrantStoreErrorCode) (message : String)
  /-- `AuthoritySigningUnavailableError` -/
  | signing
  /-- An error of the database engine, or of the freshness session. -/
  | outside

def corrupt (grantId what : String) : StoreThrow :=
  .store .stateCorrupt ("Persisted authority state for grant '" ++ grantId ++
    "' failed validation (" ++ what ++
    "). The store refuses to answer from state it cannot validate.")

def inconsistentRevocationState (what : String) : StoreThrow :=
  .store .revocationStateInconsistent
    ("The bounded-grant store's revocation state cannot be proven complete (" ++ what ++
      "). The store refuses to answer authority reads until it is restored from a trusted copy.")

def unauthenticRevocationState (failure : String) : StoreThrow :=
  .store .authenticityFailed
    ("The bounded-grant store's revocation-state commitment is not authentic (" ++ failure ++
      "). The store refuses to answer from revocation state no trusted key vouches for.")

def unauthentic (grantId what failure : String) : StoreThrow :=
  .store .authenticityFailed ("Persisted authority state for grant '" ++ grantId ++
    "' is not authentic (" ++ what ++ ": " ++ failure ++
    "). The store refuses to answer from authority no trusted key vouches for.")

def unavailable (message : String) : StoreThrow := .store .unavailable message

structure SignatureColumns where
  (algorithm signingKeyId signature version : Option String)
deriving DecidableEq

structure GrantRow extends SignatureColumns where
  (grantId grantJson grantDigest : String)
  revocationDigest : Option String
  schemaVersion : String

structure RevocationRow extends SignatureColumns where
  grantId : String
  sequence : Int
  (revokedAt reason issuerRef revocationDigest schemaVersion : String)

structure RevocationStateRow extends SignatureColumns where
  storeId : String
  sequence : Int
  (revocationSetDigest schemaVersion : String)

structure StoreDatabase where
  grants : List GrantRow
  revocations : List RevocationRow
  state : Option RevocationStateRow

structure AuthoritySignature where
  (algorithm keyId signature artifactVersion : String)

/-- The columns a signature is written to. -/
def AuthoritySignature.columns (signature : AuthoritySignature) : SignatureColumns :=
  ⟨some signature.algorithm,some signature.keyId,some signature.signature, some signature.artifactVersion⟩

/-- What the verifier is handed of a row; `none` when the signature column is absent. -/
def signatureEnvelopeOf (row : SignatureColumns) : Option SignatureColumns :=
  if row.signature.isNone then none else some row

/-- The verifier's answers: `none` when the envelope verifies, or why it does not. -/
structure AuthorityArtifactVerifier where
  verifyGrant : BoundedGrant → String → Option SignatureColumns → Option String
  verifyRevocation : GrantRevocation → String → Option SignatureColumns → Option String
  verifyRevocationState : RevocationStateCommitment → Option SignatureColumns → Option String

def revocationReasonOfText (text : String) : Option GrantRevocationReason :=
  [.administratorRevoked, .expired, .manualRevocation, .policyChanged, .principalDisabled,
    .resourceRemoved, .securityIncident].find? fun reason =>
      GrantRevocationReason.text reason == text

def RevocationRow.entry (row : RevocationRow) : RevocationSetEntry :=
  ⟨row.sequence,row.grantId,row.revocationDigest⟩

namespace StoreDatabase

def selectGrant (db : StoreDatabase) (grantId : String) : Option GrantRow :=
  db.grants.find? fun row => row.grantId == grantId

def selectRevocation (db : StoreDatabase) (grantId : String) : Option RevocationRow :=
  db.revocations.find? fun row => row.grantId == grantId

/-- `ORDER BY sequence ASC` -/
def selectRevocationEntries (db : StoreDatabase) : List RevocationSetEntry :=
  (db.revocations.map RevocationRow.entry).insertionSort fun a b => a.sequence ≤ b.sequence

end StoreDatabase

structure VerifiedRevocationState where
  commitment : RevocationStateCommitment
  entries : List RevocationSetEntry

/-- `byGrantId.get`: the last entry written under a key stands. -/
def VerifiedRevocationState.byGrantId (state : VerifiedRevocationState) (grantId : String) :
    Option RevocationSetEntry :=
  state.entries.reverse.find? fun entry => entry.grantId == grantId

/-- What a transaction of one process rests on beside the file. -/
structure StoreContext where
  verifier : AuthorityArtifactVerifier
  /-- Set when freshness was composed and could not be established. -/
  unestablished : Option StoreThrow
  newestVerified : Option (Int × String)
  /-- The freshness session, if composed, accepts the head. -/
  observes : RevocationStateCommitment → Bool

section Transactions

variable (P : Platform) (parse : String → Option BoundedGrant) (context : StoreContext)

/-- The text is that of the grant it parses to. -/
def parseStoredGrant (grantJson : String) : Option BoundedGrant :=
  (parse grantJson).filter fun grant => serializeBoundedGrant grant == grantJson

/-- Against the newest commitment this process has verified. -/
def checkNewestVerified (commitment : RevocationStateCommitment) : Except StoreThrow Unit :=
  match context.newestVerified with
  | none => .ok ()
  | some (sequence, setDigest) =>
      if commitment.sequence < sequence then
        .error (inconsistentRevocationState
          ("the revocation-state commitment regressed from sequence " ++ toString sequence ++
            " to " ++ toString commitment.sequence))
      else if commitment.sequence = sequence ∧ commitment.revocationSetDigest ≠ setDigest then
        .error (inconsistentRevocationState
          ("the revocation-state commitment at sequence " ++ toString commitment.sequence ++
            " differs from the one already verified"))
      else .ok ()

/-- The entries are numbered from 1 without a gap. -/
def contiguous (entries : List RevocationSetEntry) : Bool :=
  entries.map (·.sequence) == (List.range entries.length).map fun index : Nat => (index : Int) + 1

def verifiedRevocationState (db : StoreDatabase) : Except StoreThrow VerifiedRevocationState :=
  match context.unestablished with
  | some error => .error error
  | none =>
  match db.state with
  | none => .error (inconsistentRevocationState
      "the signed revocation-state commitment is absent")
  | some row =>
      if row.schemaVersion ≠ boundedGrantStoreSchemaVersion then
        .error (inconsistentRevocationState
          "the revocation-state commitment carries an unrecognized schema version")
      else if row.storeId = "" then
        .error (inconsistentRevocationState "the revocation-state commitment names no store")
      else if !isSafeInteger row.sequence || row.sequence < 0 then
        .error (inconsistentRevocationState
          "the revocation-state sequence is not a non-negative integer")
      else
        let commitment := ⟨row.storeId,row.sequence,row.revocationSetDigest⟩
        match context.verifier.verifyRevocationState commitment
            (signatureEnvelopeOf row.toSignatureColumns) with
        | some failure => .error (unauthenticRevocationState failure)
        | none =>
            let entries := db.selectRevocationEntries
            if (entries.length : Int) ≠ commitment.sequence then
              .error (inconsistentRevocationState ("the signed commitment covers " ++
                toString commitment.sequence ++ " revocation(s) but " ++
                toString entries.length ++ " are recorded"))
            else if !contiguous entries then
              .error (inconsistentRevocationState
                "the recorded revocation sequence has a gap or a duplicate")
            else if revocationSetDigest P commitment.storeId entries ≠ commitment.revocationSetDigest then
              .error (inconsistentRevocationState
                "the recorded revocations disagree with the signed revocation-state commitment")
            else if !context.observes commitment then .error .outside
            else
              match checkNewestVerified context commitment with
              | .error error => .error error
              | .ok () => .ok ⟨commitment,entries⟩

def verifiedGrant (row : GrantRow) (storeId : String) : Except StoreThrow BoundedGrant :=
  if row.schemaVersion ≠ boundedGrantStoreSchemaVersion then
    .error (corrupt row.grantId "unrecognized record schema version")
  else
    match parseStoredGrant parse row.grantJson with
    | none => .error (corrupt row.grantId "the stored grant is not a canonical bounded grant")
    | some grant =>
        if grant.id ≠ row.grantId then
          .error (corrupt row.grantId "the stored grant is filed under a different identity")
        else if storedGrantRecordDigest P grant storeId ≠ row.grantDigest then
          .error (corrupt row.grantId "record digest mismatch")
        else if !boundedGrantDigestMatches P grant then
          .error (corrupt row.grantId "grant digest mismatch")
        else
          match context.verifier.verifyGrant grant storeId
              (signatureEnvelopeOf row.toSignatureColumns) with
          | some failure => .error (unauthentic row.grantId "grant signature" failure)
          | none =>
              if !isWellFormedBoundedGrantSemantics grant.scope grant.semanticsFormat then
                .error (corrupt row.grantId
                  "the grant semantic format and its semantic axes disagree")
              else .ok grant

def verifiedRevocation (row : RevocationRow) (storeId : String) : Except StoreThrow GrantRevocation :=
  if row.schemaVersion ≠ boundedGrantStoreSchemaVersion then
    .error (corrupt row.grantId "unrecognized revocation schema version")
  else
    match revocationReasonOfText row.reason with
    | none => .error (corrupt row.grantId
        "the stored revocation carries a reason outside the closed vocabulary")
    | some reason =>
        let revocation := ⟨row.grantId,row.revokedAt,reason,row.issuerRef⟩
        if storedRevocationRecordDigest P revocation storeId ≠ row.revocationDigest then
          .error (corrupt row.grantId "revocation record digest mismatch")
        else
          match context.verifier.verifyRevocation revocation storeId
              (signatureEnvelopeOf row.toSignatureColumns) with
          | some failure => .error (unauthentic row.grantId "revocation signature" failure)
          | none => .ok revocation

def currentRevocation (db : StoreDatabase) (grantId : String) (pointer : Option String)
    (state : VerifiedRevocationState) : Except StoreThrow (Option GrantRevocation) :=
  match state.byGrantId grantId, db.selectRevocation grantId with
  | none, some _ => .error (inconsistentRevocationState ("a revocation record for grant '" ++
      grantId ++ "' is not covered by the signed commitment"))
  | none, none =>
      if pointer.isSome then
        .error (corrupt grantId
          "a committed revocation is referenced by the grant but its record is absent")
      else .ok none
  | some _, none => .error (inconsistentRevocationState
      ("the signed commitment covers a revocation of grant '" ++ grantId ++
        "' whose record is absent"))
  | some committed, some row =>
      match verifiedRevocation P context row state.commitment.storeId with
      | .error error => .error error
      | .ok revocation =>
          if row.sequence ≠ committed.sequence ∨ row.revocationDigest ≠ committed.revocationDigest then
            .error (inconsistentRevocationState ("the revocation record for grant '" ++ grantId ++
              "' is not the one the signed commitment covers"))
          else if pointer.isNone then
            .error (corrupt grantId "a revocation record exists that the grant does not reference")
          else if pointer ≠ some row.revocationDigest then
            .error (corrupt grantId
              "the grant references a different revocation than the one recorded")
          else .ok (some revocation)

structure ReadBoundedGrantResult where
  grant : Option BoundedGrant
  revocation : Option GrantRevocation

def runRead (db : StoreDatabase) (grantId : String) :
    Except StoreThrow (ReadBoundedGrantResult × RevocationStateCommitment) := do
  let state ← verifiedRevocationState P context db
  match db.selectGrant grantId with
  | none =>
      if (state.byGrantId grantId).isSome || (db.selectRevocation grantId).isSome then
        throw (corrupt grantId "a revocation record exists for a grant that does not")
      else return (⟨none,none⟩, state.commitment)
  | some row =>
      let grant ← verifiedGrant P parse context row state.commitment.storeId
      let revocation ← currentRevocation P context db grantId row.revocationDigest state
      return (⟨some grant,revocation⟩, state.commitment)

/-- What settles an issuance before the insert; `none` when nothing does. -/
def settledIssue (db : StoreDatabase) (grant : BoundedGrant) (state : VerifiedRevocationState)
    (storeId : String) (commitGuard : GrantCommitPrecondition) :
    Except StoreThrow (Option IssueBoundedGrantOutcome) :=
  match db.selectGrant grant.id with
  | some row => (verifiedGrant P parse context row storeId).map fun existing =>
      some (.alreadyIssued existing)
  | none =>
      if (state.byGrantId grant.id).isSome || (db.selectRevocation grant.id).isSome then
        .ok (some (.refused [.revoked]))
      else if !commitGuard.permitted then
        .ok (some (.refused (if commitGuard.reasonCodes.isEmpty then [.eligibilityChanged]
          else commitGuard.reasonCodes)))
      else .ok none

def runPreflightIssue (db : StoreDatabase) (grant : BoundedGrant)
    (commitGuard : GrantCommitPrecondition) :
    Except StoreThrow (Option IssueBoundedGrantOutcome × RevocationStateCommitment) := do
  let state ← verifiedRevocationState P context db
  let settled ← settledIssue P parse context db grant state state.commitment.storeId commitGuard
  return (settled, state.commitment)

def grantRowOf (grant : BoundedGrant) (storeId : String) (signature : AuthoritySignature) : GrantRow where
  toSignatureColumns := signature.columns
  grantId := grant.id
  grantJson := serializeBoundedGrant grant
  grantDigest := storedGrantRecordDigest P grant storeId
  revocationDigest := none
  schemaVersion := boundedGrantStoreSchemaVersion

/-- The row just inserted is read back through the same verification. -/
def runIssue (db : StoreDatabase) (grant : BoundedGrant) (signature : AuthoritySignature)
    (storeId : String) (commitGuard : GrantCommitPrecondition) :
    Except StoreThrow (IssueBoundedGrantOutcome × RevocationStateCommitment × StoreDatabase) := do
  let state ← verifiedRevocationState P context db
  if state.commitment.storeId ≠ storeId then
    throw (inconsistentRevocationState
      "the store identity changed while the grant was being signed")
  match ← settledIssue P parse context db grant state storeId commitGuard with
  | some outcome => return (outcome, state.commitment, db)
  | none =>
      let row := grantRowOf P grant storeId signature
      let issued ← verifiedGrant P parse context row storeId
      return (.issued issued, state.commitment, { db with grants := db.grants ++ [row] })

/-- The outcome for a grant that already has a committed revocation. -/
def alreadyRevoked (db : StoreDatabase) (row : GrantRow) (grantId : String)
    (state : VerifiedRevocationState) : Except StoreThrow GrantRevocation := do
  match ← currentRevocation P context db grantId row.revocationDigest state with
  | none => throw (inconsistentRevocationState ("the committed revocation of grant '" ++ grantId ++
      "' could not be read back"))
  | some existing => return existing

/-- A plan to sign: the commitment it follows, the next one, and the digest of the record. -/
structure SigningPlan where
  (previous next : RevocationStateCommitment)
  revocationDigest : String

inductive RevocationPlan where
  | settled (outcome : RevokeBoundedGrantOutcome) (state : RevocationStateCommitment)
  | sign (plan : SigningPlan)

def signingPlanFor (state : VerifiedRevocationState) (revocation : GrantRevocation) : SigningPlan :=
  let storeId := state.commitment.storeId
  let sequence := state.commitment.sequence
  let revocationDigest := storedRevocationRecordDigest P revocation storeId
  let nextEntries := state.entries ++ [⟨sequence + 1,revocation.grantId,revocationDigest⟩]
  ⟨state.commitment,⟨storeId,sequence + 1,revocationSetDigest P storeId nextEntries⟩, revocationDigest⟩

def runPlanRevocation (db : StoreDatabase) (revocation : GrantRevocation) :
    Except StoreThrow RevocationPlan := do
  let state ← verifiedRevocationState P context db
  match db.selectGrant revocation.grantId with
  | none => return .settled (.refused [.notFound]) state.commitment
  | some row =>
      if (state.byGrantId revocation.grantId).isSome then
        let existing ← alreadyRevoked P context db row revocation.grantId state
        return .settled (.alreadyRevoked existing) state.commitment
      else if (db.selectRevocation revocation.grantId).isSome then
        throw (inconsistentRevocationState ("a revocation record for grant '" ++
          revocation.grantId ++ "' is not covered by the signed commitment"))
      else if row.revocationDigest.isSome then
        throw (corrupt revocation.grantId
          "a committed revocation is referenced by the grant but its record is absent")
      else return .sign (signingPlanFor P state revocation)

def revocationRowOf (revocation : GrantRevocation) (plan : SigningPlan)
    (signature : AuthoritySignature) : RevocationRow where
  toSignatureColumns := signature.columns
  grantId := revocation.grantId
  sequence := plan.next.sequence
  revokedAt := revocation.revokedAt
  reason := revocation.reason.text
  issuerRef := revocation.issuerRef
  revocationDigest := plan.revocationDigest
  schemaVersion := boundedGrantStoreSchemaVersion

/-- `linkRevocation`: the rows it changes are those of the grant with no pointer yet. -/
def linkRevocation (grants : List GrantRow) (grantId revocationDigest : String) : List GrantRow :=
  grants.map fun row =>
    if row.grantId = grantId ∧ row.revocationDigest = none then
      { row with revocationDigest := some revocationDigest }
    else row

/-- `advanceRevocationState`, for a row that is the plan's previous commitment. -/
def advanceRevocationState (row : RevocationStateRow) (plan : SigningPlan)
    (signature : AuthoritySignature) : RevocationStateRow where
  toSignatureColumns := signature.columns
  storeId := row.storeId
  sequence := plan.next.sequence
  revocationSetDigest := plan.next.revocationSetDigest
  schemaVersion := row.schemaVersion

/-- A database file has at most 2^48 bytes, and a row takes some of them. -/
def sqliteMaximumRows : Nat := 2 ^ 48

/-- The three writes of one revocation. -/
def writeRevocation (db : StoreDatabase) (revocation : GrantRevocation) (plan : SigningPlan)
    (revocationSignature stateSignature : AuthoritySignature) : Except StoreThrow StoreDatabase :=
  if db.revocations.length ≥ sqliteMaximumRows then .error .outside
  else if (db.grants.filter fun row => decide (row.grantId = revocation.grantId ∧
      row.revocationDigest = none)).length ≠ 1 then
    .error (corrupt revocation.grantId "the revocation could not be linked to its grant")
  else
    match db.state with
    | none => .error (inconsistentRevocationState
        "the revocation-state commitment could not be advanced")
    | some row =>
        if row.storeId ≠ plan.next.storeId ∨ row.sequence ≠ plan.previous.sequence then
          .error (inconsistentRevocationState
            "the revocation-state commitment could not be advanced")
        else .ok ⟨linkRevocation db.grants revocation.grantId plan.revocationDigest,
          db.revocations ++ [revocationRowOf revocation plan revocationSignature],
          some (advanceRevocationState row plan stateSignature)⟩

/-- What the committing half of a revocation comes to. -/
inductive RevokeCommit where
  | stale
  | committed (outcome : RevokeBoundedGrantOutcome) (state : RevocationStateCommitment)

def runRevoke (db : StoreDatabase) (revocation : GrantRevocation) (plan : SigningPlan)
    (revocationSignature stateSignature : AuthoritySignature) :
    Except StoreThrow (RevokeCommit × StoreDatabase) := do
  let state ← verifiedRevocationState P context db
  if state.commitment ≠ plan.previous then return (.stale, db)
  else
    match db.selectGrant revocation.grantId with
    | none => return (.committed (.refused [.notFound]) state.commitment, db)
    | some row =>
        if (state.byGrantId revocation.grantId).isSome then
          let existing ← alreadyRevoked P context db row revocation.grantId state
          return (.committed (.alreadyRevoked existing) state.commitment, db)
        else if row.revocationDigest.isSome then
          throw (corrupt revocation.grantId
            "a committed revocation is referenced by the grant but its record is absent")
        else
          let db' ← writeRevocation db revocation plan revocationSignature stateSignature
          let after ← verifiedRevocationState P context db'
          match db'.selectGrant revocation.grantId with
          | none => throw .outside
          | some row =>
              let recorded ← alreadyRevoked P context db' row revocation.grantId after
              return (.committed (.revoked recorded) after.commitment, db')

/-- The commitment and the key that signed it, as `runReadCommitmentKey` reads them. -/
def runReadCommitmentKey (db : StoreDatabase) : Except StoreThrow (RevocationStateCommitment × String) := do
  let state ← verifiedRevocationState P context db
  return (state.commitment, (db.state.bind (·.signingKeyId)).getD "")

def runReattest (db : StoreDatabase) (commitment : RevocationStateCommitment)
    (signature : AuthoritySignature) : Except StoreThrow StoreDatabase := do
  let current ← verifiedRevocationState P context db
  if current.commitment ≠ commitment then return db
  else
    let db' := { db with state := db.state.map fun row =>
      { row with toSignatureColumns := signature.columns } }
    let _ ← verifiedRevocationState P context db'
    return db'

end Transactions

/-- A new store's tables, as `initialize` creates them. -/
def genesisDatabase (P : Platform) (storeId : String) (signature : AuthoritySignature) : StoreDatabase where
  grants := []
  revocations := []
  state := some {
    toSignatureColumns := signature.columns
    storeId := storeId
    sequence := 0
    revocationSetDigest := revocationSetDigest P storeId []
    schemaVersion := boundedGrantStoreSchemaVersion }

end Frontera.GrantStore
