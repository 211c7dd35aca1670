import Frontera.ExerciseControl.InMemoryLedger
import Frontera.ExerciseControl.Record

/-! `createSqliteExerciseControlLedger` over its five tables. Every call is one transaction: it
answers and leaves a database behind, or raises and is rolled back. Nothing is believed before it is
verified, and every reservation is re-derived from its rows (`loadVerified`). The `committed_at`
columns are written and never read, so the rows here do not carry them. -/

namespace Frontera.ExerciseControl

open Frontera.Data Frontera.Text

structure ReservationRow where
  (reservationId executionId boundedGrantId requestDigest policyDigest : String)
  (authorityBindingDigest reservedAt : String)
  (reservedAtMs ruleCount : Int)
  (recordDigest schemaVersion : String)

structure RuleRow where
  reservationId : String
  ordinal : Int
  (limitId scopeKey metric maximum : String)
  unit : Option String
  windowKind : String
  windowSeconds : Option Int
  usage : String
  reservedAtMs : Int
  (ruleDigest schemaVersion : String)

structure TerminalRow where
  (reservationId terminalKind reason recordedAt eventDigest schemaVersion : String)

structure ResolutionRow where
  (reservationId executionId resolutionDigest resolution recordedAt eventDigest : String)
  schemaVersion : String

structure HeadRow where
  (limitId scopeKey : String)
  ruleRowCount : Int
  (headDigest schemaVersion : String)

structure Database where
  reservations : List ReservationRow
  rules : List RuleRow
  terminals : List TerminalRow
  resolutions : List ResolutionRow
  heads : List HeadRow

structure VerifiedReservation where
  record : ExerciseReservationRecord
  terminal : Option ExerciseReservationTerminalEvent
  resolution : Option ExerciseReservationResolutionEvent

/-- The order in which the database lists the rows of a query that states none. -/
structure QueryPlan where
  arrange : Database → List String → List String
  perm : ∀ db ids, (arrange db ids).Perm ids

def corrupt (reservationId what : String) : LedgerThrow :=
  .ledgerError .stateCorrupt ("Persisted exercise-control state for reservation '" ++
    reservationId ++ "' failed validation (" ++ what ++
    "). The ledger refuses to answer from state it cannot validate.")

def unavailable (message : String) : LedgerThrow := .ledgerError .unavailable message

def invalidInput (message : String) : LedgerThrow := .ledgerError .inputInvalid message

/-- Raise unless the condition holds. -/
def ensure (condition : Bool) (error : LedgerThrow) : Except LedgerThrow Unit :=
  if condition then .ok () else .error error

@[simp] theorem ensure_eq_ok {condition : Bool} {error : LedgerThrow} {u : Unit} :
    ensure condition error = .ok u ↔ condition = true := by
  unfold ensure
  split_ifs with h <;> simp [h]

def windowOf (row : RuleRow) : Option ExerciseControlWindow :=
  if row.windowKind = "lifetime" ∧ row.windowSeconds = none then some .lifetime
  else if row.windowKind = "rolling" then row.windowSeconds.map .rolling
  else none

def integerValue : List Char → Int
  | '-' :: digits => -(Nat.ofDigitChars 10 digits 0 : Int)
  | digits => Nat.ofDigitChars 10 digits 0

/-- `Number(text)`, when it is a safe integer that `String` spells as the same text. -/
def safeIntegerOf (text : String) : Option Int :=
  let value := integerValue text.toList
  if toString value = text ∧ isSafeInteger value = true then some value else none

def limitOf (row : RuleRow) : Option ExerciseControlLimit :=
  match windowOf row with
  | none => none
  | some window =>
      if row.metric = "count" then
        if row.unit ≠ none then none
        else (safeIntegerOf row.maximum).map fun maximum =>
          ⟨row.limitId,row.scopeKey,.count maximum,window⟩
      else if row.metric = "amount" then
        row.unit.map fun unit => ⟨row.limitId,row.scopeKey,.amount row.maximum unit,window⟩
      else none

section Encode

variable (P : Platform)

def ExerciseControlWindow.kindText : ExerciseControlWindow → String
  | .lifetime => "lifetime"
  | .rolling _ => "rolling"

def ExerciseControlWindow.seconds? : ExerciseControlWindow → Option Int
  | .lifetime => none
  | .rolling seconds => some seconds

/-- `String(limit.maximum)` -/
def ExerciseControlLimit.maximumText (limit : ExerciseControlLimit) : String :=
  match limit.measure with
  | .count maximum => toString maximum
  | .amount maximum _ => maximum

def reservationRow (record : ExerciseReservationRecord) (reservedAtMs : Int) : ReservationRow where
  reservationId := record.reservationId
  executionId := record.executionId
  boundedGrantId := record.boundedGrantId
  requestDigest := record.requestDigest
  policyDigest := record.policyDigest
  authorityBindingDigest := record.authorityBindingDigest
  reservedAt := record.reservedAt
  reservedAtMs := reservedAtMs
  ruleCount := record.rules.length
  recordDigest := storedReservationDigest P record
  schemaVersion := exerciseControlLedgerSchemaVersion

def ruleRow (reservationId : String) (ordinal : Int) (rule : ExerciseControlRuleUsage)
    (reservedAtMs : Int) : RuleRow where
  reservationId := reservationId
  ordinal := ordinal
  limitId := rule.limit.limitId
  scopeKey := rule.limit.scopeKey
  metric := rule.limit.metric.text
  maximum := rule.limit.maximumText
  unit := rule.limit.unit
  windowKind := rule.limit.window.kindText
  windowSeconds := rule.limit.window.seconds?
  usage := rule.usage
  reservedAtMs := reservedAtMs
  ruleDigest := storedRuleDigest P reservationId ordinal rule reservedAtMs
  schemaVersion := exerciseControlLedgerSchemaVersion

def terminalRow (event : ExerciseReservationTerminalEvent) : TerminalRow where
  reservationId := event.reservationId
  terminalKind := event.kind.text
  reason := event.reason.text
  recordedAt := event.recordedAt
  eventDigest := storedTerminalEventDigest P event
  schemaVersion := exerciseControlLedgerSchemaVersion

def resolutionRow (event : ExerciseReservationResolutionEvent) : ResolutionRow where
  reservationId := event.reservationId
  executionId := event.executionId
  resolutionDigest := event.resolutionDigest
  resolution := event.resolution.text
  recordedAt := event.recordedAt
  eventDigest := storedResolutionEventDigest P event
  schemaVersion := exerciseControlLedgerSchemaVersion

def headRow (limitId scopeKey : String) (ruleRowCount : Int) : HeadRow where
  limitId := limitId
  scopeKey := scopeKey
  ruleRowCount := ruleRowCount
  headDigest := storedBucketHeadDigest P limitId scopeKey ruleRowCount
  schemaVersion := exerciseControlLedgerSchemaVersion

end Encode

namespace Database

def empty : Database := ⟨[],[],[],[],[]⟩

def selectReservation (db : Database) (reservationId : String) : Option ReservationRow :=
  db.reservations.find? fun row => row.reservationId == reservationId

def selectReservationIdByExecution (db : Database) (executionId : String) : Option String :=
  (db.reservations.find? fun row => row.executionId == executionId).map (·.reservationId)

def selectRules (db : Database) (reservationId : String) : List RuleRow :=
  (db.rules.filter fun row => row.reservationId == reservationId).insertionSort
    fun a b => a.ordinal ≤ b.ordinal

def selectTerminal (db : Database) (reservationId : String) : Option TerminalRow :=
  db.terminals.find? fun row => row.reservationId == reservationId

def selectResolution (db : Database) (reservationId : String) : Option ResolutionRow :=
  db.resolutions.find? fun row => row.reservationId == reservationId

/-- The rule rows the bucket index names. -/
def bucketRows (db : Database) (limitId scopeKey : String) : List RuleRow :=
  db.rules.filter fun row => row.limitId == limitId && row.scopeKey == scopeKey

def selectBucket (db : Database) (plan : QueryPlan) (limitId scopeKey : String) : List String :=
  plan.arrange db ((db.bucketRows limitId scopeKey).map (·.reservationId)).dedup

def countBucket (db : Database) (limitId scopeKey : String) : Int :=
  (db.bucketRows limitId scopeKey).length

def selectHead (db : Database) (limitId scopeKey : String) : Option HeadRow :=
  db.heads.find? fun row => row.limitId == limitId && row.scopeKey == scopeKey

def insertReservation (db : Database) (row : ReservationRow) : Except LedgerThrow Database :=
  if db.reservations.any fun r => r.reservationId == row.reservationId ||
      r.executionId == row.executionId then .error (.constraint "exercise_control_reservations")
  else .ok { db with reservations := db.reservations ++ [row] }

def insertRule (db : Database) (row : RuleRow) : Except LedgerThrow Database :=
  if (db.rules.any fun r => r.reservationId == row.reservationId &&
      (r.ordinal == row.ordinal || (r.limitId == row.limitId && r.scopeKey == row.scopeKey))) ||
      (db.selectReservation row.reservationId).isNone then
    .error (.constraint "exercise_control_reservation_limits")
  else .ok { db with rules := db.rules ++ [row] }

def insertTerminal (db : Database) (row : TerminalRow) : Except LedgerThrow Database :=
  if (db.selectTerminal row.reservationId).isSome ||
      (db.selectReservation row.reservationId).isNone then
    .error (.constraint "exercise_control_terminal_events")
  else .ok { db with terminals := db.terminals ++ [row] }

def insertResolution (db : Database) (row : ResolutionRow) : Except LedgerThrow Database :=
  if (db.selectResolution row.reservationId).isSome ||
      (db.selectReservation row.reservationId).isNone then
    .error (.constraint "exercise_control_reservation_resolutions")
  else .ok { db with resolutions := db.resolutions ++ [row] }

/-- `INSERT … ON CONFLICT (limit_id, scope_key) DO UPDATE` -/
def upsertHead (db : Database) (row : HeadRow) : Database :=
  if (db.selectHead row.limitId row.scopeKey).isSome then
    { db with heads := db.heads.map fun h =>
        if h.limitId == row.limitId && h.scopeKey == row.scopeKey then row else h }
  else { db with heads := db.heads ++ [row] }

variable (P : Platform)

def bucketName (limitId scopeKey : String) : String := "bucket " ++ bucketKey limitId scopeKey

def verifiedBucketRowCount (db : Database) (limitId scopeKey : String) : Except LedgerThrow Int := do
  let actual := db.countBucket limitId scopeKey
  match db.selectHead limitId scopeKey with
  | none =>
      ensure (actual == 0) (corrupt (bucketName limitId scopeKey)
        "rule rows exist for a bucket that has no head")
      return 0
  | some head =>
      ensure (head.schemaVersion == exerciseControlLedgerSchemaVersion)
        (corrupt (bucketName limitId scopeKey) "unrecognized bucket-head schema version")
      ensure (storedBucketHeadDigest P limitId scopeKey head.ruleRowCount == head.headDigest)
        (corrupt (bucketName limitId scopeKey) "bucket-head digest mismatch")
      ensure (head.ruleRowCount == actual) (corrupt (bucketName limitId scopeKey)
        "the bucket holds a different number of rule rows than its head records")
      return actual

def verifiedRule (reservationId : String) (reservedAtMs ordinal : Int) (row : RuleRow) :
    Except LedgerThrow ExerciseControlRuleUsage := do
  ensure (row.schemaVersion == exerciseControlLedgerSchemaVersion)
    (corrupt reservationId "unrecognized rule schema version")
  ensure (row.ordinal == ordinal) (corrupt reservationId "rule ordinals are not contiguous")
  ensure (row.reservedAtMs == reservedAtMs)
    (corrupt reservationId "a rule row disagrees with its reservation instant")
  match limitOf row with
  | none => throw (corrupt reservationId "a rule row does not spell a limit")
  | some limit =>
      let rule : ExerciseControlRuleUsage := ⟨limit,row.usage⟩
      ensure (storedRuleDigest P reservationId ordinal rule reservedAtMs == row.ruleDigest)
        (corrupt reservationId "rule digest mismatch")
      return rule

def verifiedRules (reservationId : String) (reservedAtMs : Int) :
    Int → List RuleRow → Except LedgerThrow (List ExerciseControlRuleUsage)
  | _, [] => return []
  | ordinal, row :: rows => do
      let rule ← verifiedRule P reservationId reservedAtMs ordinal row
      let rules ← verifiedRules reservationId reservedAtMs (ordinal + 1) rows
      return rule :: rules

def recordOf (row : ReservationRow) (rules : List ExerciseControlRuleUsage) :
    ExerciseReservationRecord where
  reservationId := row.reservationId
  executionId := row.executionId
  boundedGrantId := row.boundedGrantId
  requestDigest := row.requestDigest
  policyDigest := row.policyDigest
  authorityBindingDigest := row.authorityBindingDigest
  reservedAt := row.reservedAt
  rules := rules

/-- The reservation's base row and rule rows, up to the internal-consistency check. -/
def verifiedRecord (reservationId : String) (row : ReservationRow) (ruleRows : List RuleRow) :
    Except LedgerThrow ExerciseReservationRecord := do
  ensure (row.schemaVersion == exerciseControlLedgerSchemaVersion)
    (corrupt reservationId "unrecognized reservation schema version")
  match P.dateParse row.reservedAt with
  | none => throw (corrupt reservationId "the reservation instant does not agree with itself")
  | some reservedAtMs =>
      ensure (row.reservedAtMs == reservedAtMs)
        (corrupt reservationId "the reservation instant does not agree with itself")
      ensure (isSafeInteger row.ruleCount && (ruleRows.length : Int) == row.ruleCount)
        (corrupt reservationId "the recorded rule count does not match the rule rows")
      let rules ← verifiedRules P reservationId reservedAtMs 0 ruleRows
      let record := recordOf row rules
      ensure (storedReservationDigest P record == row.recordDigest)
        (corrupt reservationId "reservation record digest mismatch")
      ensure (isWellFormedExerciseReservation P record)
        (corrupt reservationId "the reservation is not internally consistent")
      return record

def verifiedResolution (reservationId executionId : String) (row : ResolutionRow) :
    Except LedgerThrow ExerciseReservationResolutionEvent := do
  ensure (row.schemaVersion == exerciseControlLedgerSchemaVersion)
    (corrupt reservationId "unrecognized resolution schema version")
  match ExerciseReservationResolution.ofText row.resolution with
  | none => throw (corrupt reservationId "the resolution is outside the closed vocabulary")
  | some resolution =>
      ensure (isWellFormedExerciseDigest row.resolutionDigest)
        (corrupt reservationId "the resolution is outside the closed vocabulary")
      ensure (row.executionId == executionId)
        (corrupt reservationId "the resolution names another execution")
      let event : ExerciseReservationResolutionEvent :=
        ⟨reservationId,row.executionId,row.resolutionDigest,resolution,row.recordedAt⟩
      ensure (storedResolutionEventDigest P event == row.eventDigest)
        (corrupt reservationId "resolution digest mismatch")
      return event

def verifiedTerminal (reservationId : String) (row : TerminalRow) :
    Except LedgerThrow ExerciseReservationTerminalEvent := do
  ensure (row.schemaVersion == exerciseControlLedgerSchemaVersion)
    (corrupt reservationId "unrecognized terminal-event schema version")
  match ExerciseReservationTerminalKind.ofText row.terminalKind,
      ExerciseReservationTerminalReason.ofText row.reason with
  | some kind, some reason =>
      ensure (exerciseReservationTerminalReasonMatches kind reason)
        (corrupt reservationId "the terminal event is outside the closed vocabulary")
      let event : ExerciseReservationTerminalEvent :=
        ⟨reservationId,kind,reason,row.recordedAt⟩
      ensure (storedTerminalEventDigest P event == row.eventDigest)
        (corrupt reservationId "terminal-event digest mismatch")
      return event
  | _, _ => throw (corrupt reservationId "the terminal event is outside the closed vocabulary")

/-- An optional row, verified when it is there. -/
def verifiedOptional {α β : Type} (verify : α → Except LedgerThrow β) :
    Option α → Except LedgerThrow (Option β)
  | none => return none
  | some a => do
      let b ← verify a
      return some b

def loadVerified (db : Database) (reservationId : String) :
    Except LedgerThrow (Option VerifiedReservation) := do
  match db.selectReservation reservationId with
  | none =>
      ensure ((db.selectTerminal reservationId).isNone &&
        (db.selectResolution reservationId).isNone && (db.selectRules reservationId).isEmpty)
        (corrupt reservationId "rows exist for a reservation that does not")
      return none
  | some row =>
      let record ← verifiedRecord P reservationId row (db.selectRules reservationId)
      let resolution ← verifiedOptional (verifiedResolution P reservationId row.executionId)
        (db.selectResolution reservationId)
      let terminal ← verifiedOptional (verifiedTerminal P reservationId)
        (db.selectTerminal reservationId)
      return some ⟨record,terminal,resolution⟩

/-- What one candidate of the bucket index contributes. The source keeps verified
reservations in a map for the length of the transaction; nothing is written while it
is in use, so loading one again answers the same. -/
def candidateUsage (db : Database) (bucket reservationId : String) :
    Except LedgerThrow (Option ExerciseControlActiveUsage) := do
  match ← db.loadVerified P reservationId with
  | none => throw (corrupt reservationId "a rule row names a reservation that does not exist")
  | some entry =>
      if !exerciseReservationConsumes entry.terminal entry.resolution then return none
      else
        match entry.record.rules.find? fun candidate =>
            exerciseControlBucketKey candidate.limit == bucket with
        | none => throw (corrupt reservationId
            "the bucket index names a reservation that holds no such rule")
        | some recorded => return some (activeUsageOf P recorded entry.record.reservedAt)

def candidatesUsage (db : Database) (bucket : String) :
    List String → Except LedgerThrow (List ExerciseControlActiveUsage)
  | [] => return []
  | reservationId :: rest => do
      let usage ← db.candidateUsage P bucket reservationId
      let usages ← db.candidatesUsage bucket rest
      return usage.toList ++ usages

def activeUsageFor (plan : QueryPlan) (db : Database) (rule : ExerciseControlRuleUsage) :
    Except LedgerThrow (List ExerciseControlActiveUsage) := do
  let _ ← db.verifiedBucketRowCount P rule.limit.limitId rule.limit.scopeKey
  db.candidatesUsage P (exerciseControlBucketKey rule.limit)
    (db.selectBucket plan rule.limit.limitId rule.limit.scopeKey)

def verifiedBucketRowCountAfterInsert (db : Database) (limitId scopeKey : String) :
    Except LedgerThrow Int := do
  let actual := db.countBucket limitId scopeKey
  let previous := ((db.selectHead limitId scopeKey).map (·.ruleRowCount)).getD 0
  ensure (previous + 1 == actual) (corrupt (bucketName limitId scopeKey)
    "the bucket head does not account for the row just written")
  return actual

def insertRules (reservationId : String) (reservedAtMs : Int) :
    Int → List ExerciseControlRuleUsage → Database → Except LedgerThrow Database
  | _, [], db => return db
  | ordinal, rule :: rules, db => do
      let db ← db.insertRule (ruleRow P reservationId ordinal rule reservedAtMs)
      let ruleRowCount ←
        db.verifiedBucketRowCountAfterInsert rule.limit.limitId rule.limit.scopeKey
      let db := db.upsertHead (headRow P rule.limit.limitId rule.limit.scopeKey ruleRowCount)
      insertRules reservationId reservedAtMs (ordinal + 1) rules db

/-- The writes of an admitted reservation and the read-back after them. -/
def recordReservation (db : Database) (record : ExerciseReservationRecord)
    (reservedAtMs : Int) : Except LedgerThrow (ExerciseReservationOutcome × Database) := do
  let db ← db.insertReservation (reservationRow P record reservedAtMs)
  let db ← insertRules P record.reservationId reservedAtMs 0 record.rules db
  match ← db.loadVerified P record.reservationId with
  | none => throw (corrupt record.reservationId "the reservation could not be read back")
  | some written => return (.reserved written.record, db)

def runReserve (plan : QueryPlan) (db : Database) (request : ExerciseReservationRequest)
    (now : String) : Except LedgerThrow (ExerciseReservationOutcome × Database) := do
  ensure (isExerciseReservationInstant P now) (unavailable
    "The exercise-control ledger clock did not answer an instant; nothing was admitted.")
  match ← db.loadVerified P request.reservationId with
  | some existing =>
      if exerciseReservationsDescribeSameAttempt existing.record.toExerciseReservationRequest
          request then return (.alreadyReserved existing.record, db)
      else return (.conflict, db)
  | none =>
      if (db.selectReservationIdByExecution request.executionId).isSome then
        return (.conflict, db)
      else
        match ← assessExerciseReservationAdmission P request now (db.activeUsageFor P plan) with
        | .refused reasonCodes refusedBuckets => return (.refused reasonCodes refusedBuckets, db)
        | .admitted => db.recordReservation P ⟨request,now⟩ ((P.dateParse now).getD 0)

def reserve (plan : QueryPlan) (db : Database) (request : ExerciseReservationRequest)
    (now : String) : Except LedgerThrow (ExerciseReservationOutcome × Database) :=
  if !isWellFormedExerciseReservationRequest P request then
    .error (invalidInput "The reservation request is outside the closed contract.")
  else db.runReserve P plan request now

def runTerminal (db : Database) (kind : ExerciseReservationTerminalKind)
    (input : TerminalInput) :
    Except LedgerThrow (ExerciseReservationTerminalOutcome × Database) := do
  match ← db.loadVerified P input.reservationId with
  | none => return (.notFound, db)
  | some current =>
      match current.terminal with
      | some existing => return (terminalBeside kind input existing, db)
      | none =>
          let db ← db.insertTerminal (terminalRow P (input.event kind))
          match ← db.loadVerified P input.reservationId with
          | some ⟨_,some terminal,_⟩ => return (.recorded kind terminal, db)
          | _ => throw (corrupt input.reservationId "the terminal event could not be read back")

def terminal (db : Database) (kind : ExerciseReservationTerminalKind) (input : TerminalInput) :
    Except LedgerThrow (ExerciseReservationTerminalOutcome × Database) :=
  if !exerciseReservationTerminalReasonMatches kind input.reason ||
      (P.dateParse input.recordedAt).isNone then
    .error (invalidInput "The terminal transition is outside the closed contract.")
  else db.runTerminal P kind input

def runResolution (db : Database) (input : ExerciseReservationResolutionInput) :
    Except LedgerThrow (ExerciseReservationResolutionOutcome × Database) := do
  match ← db.loadVerified P input.reservationId with
  | none => return (.notFound, db)
  | some current =>
      if current.record.executionId ≠ input.executionId then return (.notFound, db)
      else
        match current.resolution with
        | some existing => return (resolutionBeside input existing, db)
        | none =>
            if !exerciseReservationResolutionConsistent current.terminal input.resolution
                input.basis then return (.inconsistent, db)
            else
              let db ← db.insertResolution (resolutionRow P input.event)
              match ← db.loadVerified P input.reservationId with
              | some ⟨_,_,some resolution⟩ => return (.applied resolution, db)
              | _ => throw (corrupt input.reservationId "the resolution could not be read back")

def reconcileResolution (db : Database) (input : ExerciseReservationResolutionInput) :
    Except LedgerThrow (ExerciseReservationResolutionOutcome × Database) :=
  if !isWellFormedExerciseReservationResolutionInput P input then
    .error (invalidInput "The reservation resolution is outside the closed contract.")
  else db.runResolution P input

def runRead (db : Database) (reservationId : String) :
    Except LedgerThrow (Option ExerciseReservationView) := do
  let current ← db.loadVerified P reservationId
  return current.map fun v => viewOf v.record v.terminal v.resolution

def call (plan : QueryPlan) (db : Database) : LedgerCall → Except LedgerThrow (LedgerAnswer × Database)
  | .reserve request now =>
      (db.reserve P plan request now).map fun r => (.reservation r.1, r.2)
  | .settle input => (db.terminal P .settled input).map fun r => (.terminal r.1, r.2)
  | .release input => (db.terminal P .released input).map fun r => (.terminal r.1, r.2)
  | .read reservationId => (db.runRead P reservationId).map fun view => (.view view, db)
  | .reconcileResolution input =>
      (db.reconcileResolution P input).map fun r => (.resolution r.1, r.2)

/-- The database after a call; a raised error rolls the transaction back. -/
def after (plan : QueryPlan) (db : Database) (c : LedgerCall) : Database :=
  match db.call P plan c with
  | .ok (_, db') => db'
  | .error _ => db

def run (plan : QueryPlan) (db : Database) (calls : List LedgerCall) : Database :=
  calls.foldl (after P plan) db

end Database

end Frontera.ExerciseControl
