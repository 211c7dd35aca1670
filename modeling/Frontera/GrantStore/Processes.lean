import Frontera.GrantStore.SqliteStore

/-! Any number of processes open one file, and each runs any number of calls at once. A call runs
from one `await` to the next; a transaction is one step, and what it awaits in between is a
signature. The signer, the commit guard, the freshness session and the engine answer as they please:
their answers are read from the step. A process may stop between any two steps. The queue that lets
one process revoke one grant at a time only removes interleavings, so it is left out. -/

namespace Frontera.GrantStore

open Frontera.Grant

/-- `MAX_REVOCATION_ATTEMPTS` -/
def maxRevocationAttempts : Nat := 3

/-- `randomUUID()`, or the id enrolled at the witness. -/
abbrev NewStoreId := { storeId : String // storeId ≠ "" }

structure StoreProcess where
  verifier : AuthorityArtifactVerifier
  unestablished : Option StoreThrow
  newestVerified : Option (Int × String)
  closed : Bool

/-- Where a call stands: what it awaits. -/
inductive StoreTask where
  /-- The genesis signature of a new store. -/
  | initializing (verifier : AuthorityArtifactVerifier) (storeId : NewStoreId)
  /-- A new signature of an unchanged commitment. -/
  | reattesting (process : Nat) (commitment : RevocationStateCommitment)
  /-- The signature of a grant. -/
  | issuing (process : Nat) (grant : BoundedGrant) (storeId : String)
  /-- The next plan of a revocation. -/
  | planning (process : Nat) (revocation : GrantRevocation) (attempt : Nat)
  /-- The two signatures of a revocation. -/
  | revoking (process : Nat) (revocation : GrantRevocation) (attempt : Nat) (plan : SigningPlan)
  | done

/-- What a call came to. -/
inductive StoreEvent where
  | issued (process : Nat) (grant : BoundedGrant)
      (result : Except StoreThrow IssueBoundedGrantOutcome)
  | read (process : Nat) (grantId : String) (result : Except StoreThrow ReadBoundedGrantResult)
  | revoked (process : Nat) (revocation : GrantRevocation)
      (result : Except StoreThrow RevokeBoundedGrantOutcome)

structure StoreSystem where
  /-- `none` before the tables exist. -/
  file : Option StoreDatabase
  processes : List StoreProcess
  tasks : List StoreTask
  history : List StoreEvent

/-- What a transaction meets outside the file: whether the session accepts the head, and
whether the engine fails. -/
structure Surroundings where
  observes : RevocationStateCommitment → Bool
  fails : Bool

/-- How a revocation's commit goes through the freshness session. Without one it always
does. -/
inductive SessionTurn where
  | through
  /-- The witness did not prepare: plan again. -/
  | conflict | raised
  /-- Committed, and the session raised afterwards. -/
  | raisedAfter

inductive StoreStep where
  /-- `freshness` is whether a boundary is composed; `storeId` names a new store. -/
  | create (verifier : AuthorityArtifactVerifier) (activeKeyId : String) (freshness : Bool)
      (storeId : NewStoreId) (around : Surroundings)
  | commitGenesis (task : Nat) (signature : Option AuthoritySignature)
  | reattest (task : Nat) (signature : Option AuthoritySignature) (around : Surroundings)
  | issue (process : Nat) (grant : BoundedGrant) (commitGuard : GrantCommitPrecondition)
      (around : Surroundings)
  | commitIssue (task : Nat) (signature : Option AuthoritySignature)
      (commitGuard : GrantCommitPrecondition) (around : Surroundings)
  | read (process : Nat) (grantId : String) (around : Surroundings)
  | revoke (process : Nat) (input : RevokeBoundedGrantInput)
  | plan (task : Nat) (around : Surroundings)
  | commitRevoke (task : Nat) (signatures : Option (AuthoritySignature × AuthoritySignature))
      (turn : SessionTurn) (around : Surroundings)
  | close (process : Nat)
  | crash (process : Nat)

def StoreProcess.context (process : StoreProcess) (around : Surroundings) : StoreContext :=
  ⟨process.verifier,process.unestablished,process.newestVerified,around.observes⟩

/-- `noteVerified` -/
def StoreProcess.noteVerified (process : StoreProcess) (commitment : RevocationStateCommitment) :
    StoreProcess :=
  match process.newestVerified with
  | none => { process with
      newestVerified := some (commitment.sequence, commitment.revocationSetDigest) }
  | some (sequence, _) =>
      if commitment.sequence > sequence then { process with
        newestVerified := some (commitment.sequence, commitment.revocationSetDigest) }
      else process

/-- A transaction, rolled back when the engine fails. -/
def transaction {α : Type} (around : Surroundings) (run : Except StoreThrow α) : Except StoreThrow α :=
  if around.fails then .error .outside else run

def closedStore : StoreThrow := unavailable "The bounded-grant store has been closed."

def keptAdvancing (grantId : String) : StoreThrow :=
  unavailable ("The revocation of grant '" ++ grantId ++ "' could not be committed: the " ++
    "revocation-state commitment kept advancing under concurrent writers. Nothing was " ++
    "recorded; retry the revocation.")

def StoreTask.process? : StoreTask → Option Nat
  | .reattesting process _ | .issuing process _ _ | .planning process _ _
  | .revoking process _ _ _ => some process
  | _ => none

namespace StoreSystem

def empty : StoreSystem := ⟨none,[],[],[]⟩

def record (s : StoreSystem) (event : StoreEvent) : StoreSystem :=
  { s with history := s.history ++ [event] }

def setTask (s : StoreSystem) (task : Nat) (stage : StoreTask) : StoreSystem :=
  { s with tasks := s.tasks.set task stage }

def note (s : StoreSystem) (process : Nat) (commitment : RevocationStateCommitment) : StoreSystem :=
  { s with processes := s.processes.modify process (·.noteVerified commitment) }

/-- The call ends with this event. -/
def finish (s : StoreSystem) (task : Nat) (event : StoreEvent) : StoreSystem :=
  (s.setTask task .done).record event

variable (P : Platform) (parse : String → Option BoundedGrant)

/-- What `establish` leaves behind: with a boundary composed, the error of the first
verification. -/
def unestablishedBy (freshness : Bool) (verified : Except StoreThrow VerifiedRevocationState) :
    Option StoreThrow :=
  match freshness, verified with
  | true, .error error => some error
  | _, _ => none

/-- `createSqliteBoundedGrantStore` over an existing file: freshness, then the key of the
commitment. -/
def openExisting (s : StoreSystem) (db : StoreDatabase) (verifier : AuthorityArtifactVerifier)
    (activeKeyId : String) (freshness : Bool) (around : Surroundings) : StoreSystem :=
  let unestablished := unestablishedBy freshness
    (verifiedRevocationState P ⟨verifier,none,none,around.observes⟩ db)
  let s' := { s with processes := s.processes ++ [⟨verifier,unestablished,none,false⟩] }
  match runReadCommitmentKey P ⟨verifier,unestablished,none,around.observes⟩ db with
  | .error _ => s'
  | .ok (commitment, keyId) =>
      if keyId = activeKeyId then s'
      else { s' with tasks := s'.tasks ++ [.reattesting s.processes.length commitment] }

/-- The answer of `issue` once it is settled. -/
def settleIssue (s : StoreSystem) (process : Nat) (grant : BoundedGrant)
    (preflight : Except StoreThrow (Option IssueBoundedGrantOutcome × RevocationStateCommitment)) :
    StoreSystem :=
  match preflight with
  | .error error => s.record (.issued process grant (.error error))
  | .ok (some outcome, state) => (s.note process state).record (.issued process grant (.ok outcome))
  | .ok (none, state) =>
      let s' := s.note process state
      { s' with tasks := s'.tasks ++ [.issuing process grant state.storeId] }

/-- The rest of one attempt of `revokeSerialized`, from its plan. -/
def planned (s : StoreSystem) (task process : Nat) (revocation : GrantRevocation) (attempt : Nat)
    (plan : Except StoreThrow RevocationPlan) : StoreSystem :=
  match plan with
  | .error error => s.finish task (.revoked process revocation (.error error))
  | .ok (.settled outcome state) =>
      (s.note process state).finish task (.revoked process revocation (.ok outcome))
  | .ok (.sign plan) =>
      (s.note process plan.previous).setTask task (.revoking process revocation attempt plan)

/-- The next attempt, when one is left. -/
def replan (s : StoreSystem) (task process : Nat) (revocation : GrantRevocation) (attempt : Nat) :
    StoreSystem :=
  if attempt + 1 < maxRevocationAttempts then
    s.setTask task (.planning process revocation (attempt + 1))
  else s.finish task (.revoked process revocation (.error (keptAdvancing revocation.grantId)))

/-- The rest of one attempt, from its commit. -/
def committed (s : StoreSystem) (task process : Nat) (revocation : GrantRevocation) (attempt : Nat)
    (turn : SessionTurn) (commit : Except StoreThrow (RevokeCommit × StoreDatabase)) :
    StoreSystem :=
  match turn, commit with
  | .conflict, _ => s.replan task process revocation attempt
  | .raised, _ => s.finish task (.revoked process revocation (.error .outside))
  | _, .error error => s.finish task (.revoked process revocation (.error error))
  | _, .ok (.stale, _) => s.replan task process revocation attempt
  | .through, .ok (.committed outcome state, db) =>
      ({ s with file := some db }.note process state).finish task
        (.revoked process revocation (.ok outcome))
  | .raisedAfter, .ok (.committed _ _, db) =>
      { s with file := some db }.finish task (.revoked process revocation (.error .outside))

/-- One step. A step of a call that does not stand where the step goes on from changes
nothing, and so does a step of a process that never was. -/
def step (s : StoreSystem) : StoreStep → StoreSystem
  | .create verifier activeKeyId freshness storeId around =>
      match s.file with
      | none => { s with tasks := s.tasks ++ [.initializing verifier storeId] }
      | some db => s.openExisting P db verifier activeKeyId freshness around
  | .commitGenesis task signature =>
      match s.tasks[task]?, signature with
      | some (.initializing verifier storeId), some signature =>
          let file := s.file.getD (genesisDatabase P storeId signature)
          { s with
            file := some file
            processes := s.processes ++ [⟨verifier,none,none,false⟩]
            tasks := s.tasks.set task .done }
      | some (.initializing _ _), none => s.setTask task .done
      | _, _ => s
  | .reattest task signature around =>
      match s.tasks[task]?, s.file with
      | some (.reattesting process commitment), some db =>
          match s.processes[process]?, signature with
          | some p, some signature =>
              match transaction around
                  (runReattest P (p.context around) db commitment signature) with
              | .error _ => s.setTask task .done
              | .ok db' => { s with file := some db' }.setTask task .done
          | _, _ => s.setTask task .done
      | _, _ => s
  | .issue process grant commitGuard around =>
      match s.processes[process]?, s.file with
      | some p, some db =>
          if p.closed then s.record (.issued process grant (.error closedStore))
          else if !isWellFormedBoundedGrantSemantics grant.scope grant.semanticsFormat then
            s.record (.issued process grant (.ok (.refused [.semanticsFormatInvalid])))
          else s.settleIssue process grant (transaction around
            (runPreflightIssue P parse (p.context around) db grant commitGuard))
      | _, _ => s
  | .commitIssue task signature commitGuard around =>
      match s.tasks[task]?, s.file with
      | some (.issuing process grant storeId), some db =>
          match s.processes[process]?, signature with
          | some p, some signature =>
              if p.closed then s.finish task (.issued process grant (.error closedStore))
              else
                match transaction around
                    (runIssue P parse (p.context around) db grant signature storeId
                      commitGuard) with
                | .error error => s.finish task (.issued process grant (.error error))
                | .ok (outcome, state, db') =>
                    ({ s with file := some db' }.note process state).finish task
                      (.issued process grant (.ok outcome))
          | _, _ => s.finish task (.issued process grant (.error .signing))
      | _, _ => s
  | .read process grantId around =>
      match s.processes[process]?, s.file with
      | some p, some db =>
          if p.closed then s.record (.read process grantId (.error closedStore))
          else
            match transaction around (runRead P parse (p.context around) db grantId) with
            | .error error => s.record (.read process grantId (.error error))
            | .ok (result, state) =>
                (s.note process state).record (.read process grantId (.ok result))
      | _, _ => s
  | .revoke process input =>
      match s.processes[process]?, input.reason with
      | some p, some reason =>
          let revocation := ⟨input.grantId,input.revokedAt,reason,input.issuerRef⟩
          if p.closed then s.record (.revoked process revocation (.error closedStore))
          else { s with tasks := s.tasks ++ [.planning process revocation 0] }
      -- a reason outside the vocabulary is refused before anything is read
      | _, _ => s
  | .plan task around =>
      match s.tasks[task]?, s.file with
      | some (.planning process revocation attempt), some db =>
          match s.processes[process]? with
          | none => s
          | some p =>
              if p.closed then s.finish task (.revoked process revocation (.error closedStore))
              else s.planned task process revocation attempt (transaction around
                (runPlanRevocation P (p.context around) db revocation))
      | _, _ => s
  | .commitRevoke task signatures turn around =>
      match s.tasks[task]?, s.file with
      | some (.revoking process revocation attempt plan), some db =>
          match s.processes[process]?, signatures with
          | some p, some (revocationSignature, stateSignature) =>
              if p.closed then s.finish task (.revoked process revocation (.error closedStore))
              else s.committed task process revocation attempt turn (transaction around
                (runRevoke P (p.context around) db revocation plan revocationSignature
                  stateSignature))
          | _, _ => s.finish task (.revoked process revocation (.error .signing))
      | _, _ => s
  | .close process =>
      { s with processes := s.processes.modify process fun p => { p with closed := true } }
  -- the calls of a crashed process never go on
  | .crash process => { s with
      processes := s.processes.modify process fun p => { p with closed := true }
      tasks := s.tasks.map fun task => if task.process? = some process then .done else task }

def run (steps : List StoreStep) : StoreSystem :=
  steps.foldl (step P parse) empty

end StoreSystem

end Frontera.GrantStore
