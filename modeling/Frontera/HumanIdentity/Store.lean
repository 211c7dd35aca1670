import Frontera.HumanIdentity.Chain

/-! One file, and any number of handles on it. A handle verifies the whole history at every read,
keeps the newest state it has verified as its floor, and appends one row at a time: planned on a
verified state, signed, and written in one transaction that reads itself back. -/

namespace Frontera.HumanIdentity

open Frontera.Text

inductive CeremonyKind where
  | registration | authentication | ownerRevocation
deriving DecidableEq

structure CeremonyChallenge where
  challenge : String
  ceremony : CeremonyKind
  (operatorId enrolmentId targetCredentialId : Option String)
  (issuedAt expiresAt : String)
  consumedAt : Option String

structure IdentityHead where
  sequence : Nat
  (chainDigest signature : String)

structure IdentityDatabase where
  (storeId organizationId : String)
  head : IdentityHead
  rows : List StoredHumanIdentityRow
  challenges : List CeremonyChallenge

def IdentityDatabase.commitment (db : IdentityDatabase) (head : IdentityHead) :
    HumanIdentityStateCommitment :=
  ⟨db.storeId,db.organizationId,head.sequence,head.chainDigest⟩

def IdentityDatabase.state (db : IdentityDatabase) : HumanIdentityStateCommitment :=
  db.commitment db.head

/-- The challenge a row consumes, and when. -/
structure Consumption where
  challenge : String
  ceremony : CeremonyKind
  usedAt : String

def challengeUsable (challenges : List CeremonyChallenge) (consume : Consumption) : Bool :=
  match challenges.find? fun row => row.challenge == consume.challenge with
  | none => false
  | some row => row.ceremony == consume.ceremony && row.consumedAt.isNone &&
      stringLt consume.usedAt row.expiresAt

/-- The rows the consuming `UPDATE` selects; texts compare there by code point. -/
def Consumption.selects (consume : Consumption) (row : CeremonyChallenge) : Bool :=
  row.challenge == consume.challenge && row.ceremony == consume.ceremony &&
    row.consumedAt.isNone && decide (consume.usedAt < row.expiresAt)

/-- The challenges after the `UPDATE`, which must change one row. -/
def useChallenge (challenges : List CeremonyChallenge) (consume : Consumption) :
    Option (List CeremonyChallenge) :=
  if (challenges.filter consume.selects).length = 1 then
    some (challenges.map fun row =>
      if consume.selects row then { row with consumedAt := some consume.usedAt } else row)
  else none

def useChallenge? (challenges : List CeremonyChallenge) :
    Option Consumption → Option (List CeremonyChallenge)
  | none => some challenges
  | some consume => useChallenge challenges consume

/-- The kinds with one row for each object. -/
def HumanIdentityRecordKind.isUnique : HumanIdentityRecordKind → Bool
  | .credentialRegistered | .enrolmentAuthorized | .decisionAuthorized => true
  | _ => false

/-- The primary key and the unique indexes admit the row. -/
def insertable (rows : List StoredHumanIdentityRow) (row : StoredHumanIdentityRow) : Bool :=
  rows.all fun other => other.sequence != row.sequence &&
    !(row.kind.isUnique && other.kind == row.kind && row.objectId.isSome &&
      other.objectId == row.objectId)

/-- The deployment's verification keys and signing key. -/
structure Authenticity extends Platform where
  /-- The key under which a signature of this state verifies. -/
  verifyState : HumanIdentityStateCommitment → String → Option String
  activeKeyId : String

/-- The newest state a handle has verified. -/
structure Witnessed where
  sequence : Nat
  chainDigest : String
deriving DecidableEq

structure VerifiedState where
  state : HumanIdentityStateCommitment
  rows : List StoredHumanIdentityRow
  keyId : String
  /-- The floor after this read. -/
  witnessed : Option Witnessed

/-- What the floor makes of a verified state. -/
def observe (witnessed : Option Witnessed) (state : HumanIdentityStateCommitment) :
    Except HistoryRefusal (Option Witnessed) :=
  match witnessed with
  | none => .ok (some ⟨state.sequence,state.chainDigest⟩)
  | some floor =>
      if state.sequence < floor.sequence then .error .regressed
      else if state.sequence = floor.sequence ∧ state.chainDigest ≠ floor.chainDigest then
        .error .forked
      else if floor.sequence < state.sequence then
        .ok (some ⟨state.sequence,state.chainDigest⟩)
      else .ok (some floor)

/-- The verification of a head and of the rows that were read after it. -/
def verifiedState (A : Authenticity) (db : IdentityDatabase) (witnessed : Option Witnessed)
    (head : IdentityHead) (rows : List StoredHumanIdentityRow) :
    Except HistoryRefusal VerifiedState :=
  match A.verifyState (db.commitment head) head.signature with
  | none => .error .inauthentic
  | some keyId =>
      match verifyHumanIdentityHistory A.toPlatform rows (db.commitment head) with
      | .error refusal => .error refusal
      | .ok () =>
          match observe witnessed (db.commitment head) with
          | .error refusal => .error refusal
          | .ok floor => .ok ⟨db.commitment head,rows,keyId,floor⟩

/-- A row without its organization. -/
structure RowDraft where
  kind : HumanIdentityRecordKind
  operatorId : String
  objectId : Option String
  (payload recordedBy recordedAt : String)

def RowDraft.content (draft : RowDraft) (organizationId : String) : HumanIdentityRowContent :=
  { draft with organizationId := organizationId }

/-- A row, the guard of its append, and the challenge it consumes. -/
structure AppendRequest where
  draft : RowDraft
  guard : List StoredHumanIdentityRow → Bool
  consume : Option Consumption

/-- An accepted append, by its place in the order of acceptance. -/
structure Job extends AppendRequest where
  ticket : Nat

inductive Rejection where
  | closed
  | refused (refusal : HistoryRefusal)
  | guard | challengeInvalid | sequenceExhausted | signer | keptChanging | busy | changed
  | challengeChanged | insertFailed | headMoved
  /-- The transaction did not read itself back. -/
  | readBack (refusal : HistoryRefusal)
  | commitFailed

/-- What an append has planned: the state it extends, its row and the state it signs. -/
structure Plan where
  state : HumanIdentityStateCommitment
  row : StoredHumanIdentityRow
  next : HumanIdentityStateCommitment

def planOn (A : Authenticity) (state : HumanIdentityStateCommitment)
    (content : HumanIdentityRowContent) : Plan :=
  ⟨state,plannedRow A.toPlatform state content,plannedState A.toPlatform state content⟩

/-- What becomes of a write transaction. -/
inductive TransactionFate where
  | busy | insertFails | headFails | commitFails | commits
deriving DecidableEq

/-- The database a transaction has written before it commits. -/
def IdentityDatabase.written (db : IdentityDatabase) (plan : Plan) (signature : String)
    (challenges : List CeremonyChallenge) : IdentityDatabase :=
  { db with
    head := ⟨plan.next.sequence,plan.next.chainDigest,signature⟩
    rows := db.rows ++ [plan.row]
    challenges := challenges }

/-- The write transaction of an append: the database, the floor and the answer it leaves. The
read-back moves the floor before the commit. -/
def commitLocal (A : Authenticity) (db : IdentityDatabase) (witnessed : Option Witnessed)
    (consume : Option Consumption) (plan : Plan) (signature : String) (fate : TransactionFate) :
    IdentityDatabase × Option Witnessed × Except Rejection StoredHumanIdentityRow :=
  if fate = .busy then (db, witnessed, .error .busy)
  else
    match verifiedState A db witnessed db.head db.rows with
    | .error refusal => (db, witnessed, .error (.refused refusal))
    | .ok current =>
        if current.state.sequence ≠ plan.state.sequence ∨
            current.state.chainDigest ≠ plan.state.chainDigest ∨
            current.state.storeId ≠ plan.state.storeId then
          (db, current.witnessed, .error .changed)
        else
          match useChallenge? db.challenges consume with
          | none => (db, current.witnessed, .error .challengeChanged)
          | some challenges =>
              if fate = .insertFails ∨ insertable db.rows plan.row = false then
                (db, current.witnessed, .error .insertFailed)
              else if fate = .headFails ∨ db.head.sequence ≠ plan.state.sequence then
                (db, current.witnessed, .error .headMoved)
              else
                match verifiedState A db current.witnessed
                    (db.written plan signature challenges).head
                    (db.written plan signature challenges).rows with
                | .error refusal => (db, current.witnessed, .error (.readBack refusal))
                | .ok back =>
                    if fate = .commitFails then (db, back.witnessed, .error .commitFailed)
                    else (db.written plan signature challenges, back.witnessed, .ok plan.row)

/-- `MAXIMUM_REPLANS` -/
def maximumReplans : Nat := 3

/-- Where the first of the accepted appends stands. -/
inductive Stage where
  | idle
  | replanning (attempt : Nat)
  | checking (attempt : Nat) (plan : Plan)
  | signing (attempt : Nat) (plan : Plan)
  | committing (plan : Plan) (signature : String)

/-- What a read outside a transaction is for. -/
inductive Purpose where
  | opening | opened | history | head
  | plan (attempt : Nat)
  | latest (attempt : Nat) (plan : Plan) (signature : String)

/-- A read that has the head and not yet the rows. -/
structure Reading where
  purpose : Purpose
  head : IdentityHead

structure Handle where
  witnessed : Option Witnessed := none
  ready : Bool := false
  /-- The first read verified under a key that is not the active one. -/
  rotating : Bool := false
  closed : Bool := false
  draining : Bool := false
  jobs : List Job := []
  stage : Stage := .idle
  /-- How many appends were accepted. -/
  accepted : Nat := 0
  reading : Option Reading := none
  /-- How many were accepted when `closeWhenSettled` was called. -/
  awaited : Option Nat := none

/-- Synchronous work in progress: the handle does nothing else meanwhile. -/
def Handle.occupied (handle : Handle) : Bool :=
  handle.reading.isSome ||
    match handle.stage with
    | .idle | .signing _ _ => false
    | .replanning _ | .checking _ _ | .committing _ _ => true

inductive Reply where
  | opened
  | openRefused (refusal : HistoryRefusal)
  | history (result : Except Rejection (List StoredHumanIdentityRow))
  | head (result : Except Rejection HumanIdentityStateCommitment)
  | appendRefused
  | appended (ticket : Nat) (result : Except Rejection StoredHumanIdentityRow)
  | saved | saveFailed | settled | interrupted

inductive Action where
  /-- The rows of the read in progress are selected. -/
  | read
  | rotate (signature : Option String) (commits : Bool)
  | reopen | history | head
  | append (request : AppendRequest)
  | plan | challenge
  | sign (signature : Option String)
  | commit (fate : TransactionFate)
  | saveChallenge (challenge : CeremonyChallenge) (inserts : Bool)
  | closeWhenSettled | settle | interrupt | close

/-- The first append ends. -/
def Handle.finish (handle : Handle) (job : Job) (result : Except Rejection StoredHumanIdentityRow) :
    Handle × List Reply :=
  ({ handle with jobs := handle.jobs.tail, stage := .idle, reading := none }, [.appended job.ticket result])

/-- A read of the head, for this purpose. -/
def Handle.select (handle : Handle) (db : IdentityDatabase) (purpose : Purpose) : Handle :=
  { handle with reading := some ⟨purpose,db.head⟩ }

/-- What a handle does once it has read the rows. -/
def Handle.conclude (A : Authenticity) (db : IdentityDatabase) (handle : Handle)
    (reading : Reading) : Handle × List Reply :=
  match verifiedState A db handle.witnessed reading.head db.rows with
  | .error refusal =>
      match reading.purpose with
      | .opening | .opened =>
          ({ handle with reading := none, closed := true }, [.openRefused refusal])
      | .history => ({ handle with reading := none }, [.history (.error (.refused refusal))])
      | .head => ({ handle with reading := none }, [.head (.error (.refused refusal))])
      | .plan _ | .latest _ _ _ =>
          match handle.jobs with
          | [] => (handle, [])
          | job :: _ => handle.finish job (.error (.refused refusal))
  | .ok verified =>
      let handle := { handle with reading := none, witnessed := verified.witnessed }
      match reading.purpose with
      | .opening =>
          ({ handle with rotating := verified.keyId != A.activeKeyId }, [])
      | .opened => ({ handle with ready := true }, [.opened])
      | .history => (handle, [.history (.ok verified.rows)])
      | .head => (handle, [.head (.ok verified.state)])
      | .plan attempt =>
          match handle.jobs with
          | [] => (handle, [])
          | job :: _ =>
              if job.guard verified.rows = false then handle.finish job (.error .guard)
              else
                let plan := planOn A verified.state (job.draft.content db.organizationId)
                ({ handle with stage := .checking attempt plan }, [])
      | .latest attempt plan signature =>
          match handle.jobs with
          | [] => (handle, [])
          | job :: _ =>
              if verified.state.sequence ≠ plan.state.sequence ∨
                  verified.state.chainDigest ≠ plan.state.chainDigest then
                if maximumReplans ≤ attempt + 1 then
                  handle.finish job (.error .keptChanging)
                else ({ handle with stage := .replanning (attempt + 1) }, [])
              else ({ handle with stage := .committing plan signature }, [])

/-- The re-signing of an unchanged head under the active key: the database and the floor after
it. -/
def rotateHead (A : Authenticity) (db : IdentityDatabase) (witnessed : Option Witnessed)
    (signature : String) (commits : Bool) : IdentityDatabase × Option Witnessed :=
  match verifiedState A db witnessed db.head db.rows with
  | .error _ => (db, witnessed)
  | .ok current =>
      if some (Witnessed.mk current.state.sequence current.state.chainDigest) ≠ witnessed then
        (db, current.witnessed)
      else
        let resigned := { db with head := { db.head with signature := signature } }
        match verifiedState A db current.witnessed resigned.head resigned.rows with
        | .error _ => (db, current.witnessed)
        | .ok back => (if commits then resigned else db, back.witnessed)

/-- One action of a handle: the database, the handle and the replies it leaves. -/
def Handle.act (A : Authenticity) (db : IdentityDatabase) (handle : Handle) :
    Action → IdentityDatabase × Handle × List Reply
  | .read =>
      match handle.reading with
      | none => (db, handle, [])
      | some reading => (db, handle.conclude A db reading)
  | .rotate signature commits =>
      if handle.rotating = true ∧ handle.reading = none then
        match signature with
        | none => (db, { handle with rotating := false }, [])
        | some signature =>
            let result := rotateHead A db handle.witnessed signature commits
            (result.1, { handle with rotating := false, witnessed := result.2 }, [])
      else (db, handle, [])
  | .reopen =>
      if handle.ready = false ∧ handle.closed = false ∧ handle.rotating = false ∧
          handle.reading = none ∧ handle.witnessed.isSome = true then
        (db, handle.select db .opened, [])
      else (db, handle, [])
  | .history =>
      if handle.ready = false ∨ handle.occupied = true then (db, handle, [])
      else if handle.closed then (db, handle, [.history (.error .closed)])
      else (db, handle.select db .history, [])
  | .head =>
      if handle.ready = false ∨ handle.occupied = true then (db, handle, [])
      else if handle.closed then (db, handle, [.head (.error .closed)])
      else (db, handle.select db .head, [])
  | .append request =>
      if handle.ready = false ∨ handle.occupied = true then (db, handle, [])
      else if handle.closed || handle.draining then (db, handle, [.appendRefused])
      else (db, { handle with
        jobs := handle.jobs ++ [⟨request,handle.accepted⟩]
        accepted := handle.accepted + 1 }, [])
  | .plan =>
      match handle.jobs, handle.reading, handle.stage with
      | job :: _, none, .idle =>
          if handle.closed then (db, handle.finish job (.error .closed))
          else (db, handle.select db (.plan 0), [])
      | job :: _, none, .replanning attempt =>
          if handle.closed then (db, handle.finish job (.error .closed))
          else (db, handle.select db (.plan attempt), [])
      | _, _, _ => (db, handle, [])
  | .challenge =>
      match handle.jobs, handle.reading, handle.stage with
      | job :: _, none, .checking attempt plan =>
          if job.consume.all (challengeUsable db.challenges) = false then
            (db, handle.finish job (.error .challengeInvalid))
          else if isSafeInteger plan.next.sequence = false then
            (db, handle.finish job (.error .sequenceExhausted))
          else (db, { handle with stage := .signing attempt plan }, [])
      | _, _, _ => (db, handle, [])
  | .sign signature =>
      match handle.jobs, handle.reading, handle.stage with
      | job :: _, none, .signing attempt plan =>
          match signature with
          | none => (db, handle.finish job (.error .signer))
          | some signature =>
              if handle.closed then (db, handle.finish job (.error .closed))
              else (db, handle.select db (.latest attempt plan signature), [])
      | _, _, _ => (db, handle, [])
  | .commit fate =>
      match handle.jobs, handle.reading, handle.stage with
      | job :: _, none, .committing plan signature =>
          let result := commitLocal A db handle.witnessed job.consume plan signature fate
          (result.1, ({ handle with witnessed := result.2.1 } : Handle).finish job result.2.2)
      | _, _, _ => (db, handle, [])
  | .saveChallenge challenge inserts =>
      if handle.ready = false ∨ handle.occupied = true then (db, handle, [])
      else if handle.closed || handle.draining then (db, handle, [.saveFailed])
      else if inserts = false ∨ db.challenges.any (fun row => row.challenge == challenge.challenge) then
        (db, handle, [.saveFailed])
      else ({ db with challenges := db.challenges ++ [{ challenge with consumedAt := none }] },
        handle, [.saved])
  | .closeWhenSettled =>
      if handle.ready = false ∨ handle.occupied = true then (db, handle, [])
      else (db, { handle with draining := true, awaited := some handle.accepted }, [])
  | .settle =>
      match handle.awaited with
      | none => (db, handle, [])
      | some awaited =>
          -- the promise awaited is the one of the append accepted last
          if handle.occupied = true ∨ handle.jobs.any (fun job => job.ticket + 1 == awaited) then
            (db, handle, [])
          else (db, { handle with closed := true }, [.settled])
  | .interrupt =>
      match handle.awaited with
      | none => (db, handle, [])
      | some _ =>
          if handle.occupied = true then (db, handle, [])
          else (db, { handle with closed := true }, [.interrupted])
  | .close =>
      if handle.ready = false ∨ handle.occupied = true then (db, handle, [])
      else (db, { handle with closed := true }, [])

structure IdentitySystem where
  database : IdentityDatabase
  /-- A process that has crashed leaves no handle. -/
  handles : List (Option Handle)
  log : List (Nat × Reply)

inductive IdentityEvent where
  | open (organizationId : String)
  | act (handle : Nat) (action : Action)
  | crash (handle : Nat)

def IdentitySystem.next (A : Authenticity) (s : IdentitySystem) : IdentityEvent → IdentitySystem
  | .open organizationId =>
      if organizationId ≠ s.database.organizationId then
        { s with
          handles := s.handles ++ [none]
          log := s.log ++ [(s.handles.length, .openRefused .organization)] }
      else { s with
        handles := s.handles ++ [some (({} : Handle).select s.database .opening)] }
  | .act i action =>
      match s.handles[i]? with
      | some (some handle) =>
          let result := handle.act A s.database action
          { database := result.1
            handles := s.handles.set i (some result.2.1)
            log := s.log ++ result.2.2.map fun reply => (i, reply) }
      | _ => s
  | .crash i => { s with handles := s.handles.set i none }

def IdentitySystem.run (A : Authenticity) (s : IdentitySystem) (events : List IdentityEvent) :
    IdentitySystem :=
  events.foldl (IdentitySystem.next A) s

/-- A store on which nothing has been opened yet. -/
def IdentitySystem.start (db : IdentityDatabase) : IdentitySystem := ⟨db,[],[]⟩

end Frontera.HumanIdentity
