import Frontera.EmergencyControl.Record
import Mathlib.Data.List.Sort
import Mathlib.Data.List.Dedup

/-! Three tables that vouch for each other: the events, the current state of each control, and one
head. Cells hold any SQLite value, since a file can be edited; only the rows that parse are
believed. A transaction runs without interruption. -/

namespace Frontera.EmergencyControl

open Frontera.Execution

inductive SqlValue
  | null
  | integer (value : Int)
  | real (bits : UInt64)
  | text (value : String)
  | blob (bytes : List UInt8)
deriving DecidableEq

/-- `typeof cell === 'string'` -/
def SqlValue.text? : SqlValue → Option String
  | .text value => some value
  | _ => none

/-- A text that is not empty. -/
def SqlValue.nonEmptyText? : SqlValue → Option String
  | .text value => if value = "" then none else some value
  | _ => none

/-- `Number.isSafeInteger`, and not below `least`. -/
def SqlValue.safeInteger? (least : Int) : SqlValue → Option Int
  | .integer value => if isSafeInteger value && decide (least ≤ value) then some value else none
  | _ => none

structure EventRow where
  /-- An `INTEGER PRIMARY KEY` holds integers only. -/
  sequence : Int
  (controlKey scope scopeValue transition issuerRef recordedAt previousEventDigest : SqlValue)
  (eventDigest schemaVersion : SqlValue)

structure ControlRow where
  (controlKey scope scopeValue active issuerRef declaredAt eventSequence eventDigest : SqlValue)
  (recordDigest schemaVersion : SqlValue)

structure HeadRow where
  (eventSequence eventCount eventDigest headDigest updatedAt schemaVersion : SqlValue)

/-- The `scope_value` of a row: absent on `global`, a text on every other scope. -/
def scopeValueOf (scope : EmergencyControlScope) (cell : SqlValue) : Option (Option String) :=
  if scope = .global then (if cell = .null then some none else none)
  else cell.nonEmptyText?.map some

def scopeOf (cell : SqlValue) : Option EmergencyControlScope :=
  cell.text?.bind isEmergencyControlScope

def transitionOf (cell : SqlValue) : Option EmergencyControlTransition :=
  cell.text?.bind isEmergencyControlTransition

variable (P : Platform)

def parseStoredEvent (row : EventRow) : Option EmergencyControlEventRecord := do
  guard (row.schemaVersion = .text emergencyControlStoreSchemaVersion)
  guard (isSafeInteger row.sequence = true ∧ 1 ≤ row.sequence)
  let scope ← scopeOf row.scope
  let transition ← transitionOf row.transition
  let issuerRef ← row.issuerRef.nonEmptyText?
  let recordedAt ← row.recordedAt.nonEmptyText?
  let previousEventDigest ← row.previousEventDigest.nonEmptyText?
  let value ← scopeValueOf scope row.scopeValue
  let controlKey := emergencyControlKey scope value
  guard (row.controlKey = .text controlKey)
  let event : EmergencyControlEventRecord := ⟨row.sequence,controlKey,scope,value,transition,
    issuerRef,recordedAt,previousEventDigest⟩
  guard (row.eventDigest = .text (emergencyControlEventDigest P event))
  pure event

/-- The `active` column. -/
def activeOf : SqlValue → Option Bool
  | .integer 0 => some false
  | .integer 1 => some true
  | _ => none

def parseStoredControl (row : ControlRow) : Option StoredEmergencyControl := do
  guard (row.schemaVersion = .text emergencyControlStoreSchemaVersion)
  let scope ← scopeOf row.scope
  let active ← activeOf row.active
  let issuerRef ← row.issuerRef.nonEmptyText?
  let declaredAt ← row.declaredAt.nonEmptyText?
  let eventSequence ← row.eventSequence.safeInteger? 1
  let eventDigest ← row.eventDigest.nonEmptyText?
  let value ← scopeValueOf scope row.scopeValue
  let controlKey := emergencyControlKey scope value
  guard (row.controlKey = .text controlKey)
  let control : StoredEmergencyControl := ⟨controlKey,scope,value,active,issuerRef,declaredAt,
    eventSequence,eventDigest⟩
  guard (row.recordDigest = .text (storedEmergencyControlDigest P control))
  pure control

def parseStoredHead (row : HeadRow) : Option EmergencyControlHeadRecord := do
  guard (row.schemaVersion = .text emergencyControlStoreSchemaVersion)
  let eventSequence ← row.eventSequence.safeInteger? 0
  let eventCount ← row.eventCount.safeInteger? 0
  let eventDigest ← row.eventDigest.nonEmptyText?
  let updatedAt ← row.updatedAt.nonEmptyText?
  let head : EmergencyControlHeadRecord := ⟨eventSequence,eventCount,eventDigest,updatedAt⟩
  guard (row.headDigest = .text (emergencyControlHeadDigest P head))
  pure head

/-- A text or `NULL`. -/
def textCell : Option String → SqlValue
  | none => .null
  | some value => .text value

/-- The row `insertEvent` writes. -/
def eventRow (event : EmergencyControlEventRecord) : EventRow where
  sequence := event.sequence
  controlKey := .text event.controlKey
  scope := .text (scopeText event.scope)
  scopeValue := textCell event.value
  transition := .text event.transition.text
  issuerRef := .text event.issuerRef
  recordedAt := .text event.recordedAt
  previousEventDigest := .text event.previousEventDigest
  eventDigest := .text (emergencyControlEventDigest P event)
  schemaVersion := .text emergencyControlStoreSchemaVersion

/-- The row `upsertControl` writes. -/
def controlRow (control : StoredEmergencyControl) : ControlRow where
  controlKey := .text control.controlKey
  scope := .text (scopeText control.scope)
  scopeValue := textCell control.value
  active := .integer (if control.active then 1 else 0)
  issuerRef := .text control.issuerRef
  declaredAt := .text control.declaredAt
  eventSequence := .integer control.eventSequence
  eventDigest := .text control.eventDigest
  recordDigest := .text (storedEmergencyControlDigest P control)
  schemaVersion := .text emergencyControlStoreSchemaVersion

/-- The row `writeHead` writes. -/
def headRow (head : EmergencyControlHeadRecord) : HeadRow where
  eventSequence := .integer head.eventSequence
  eventCount := .integer head.eventCount
  eventDigest := .text head.eventDigest
  headDigest := .text (emergencyControlHeadDigest P head)
  updatedAt := .text head.updatedAt
  schemaVersion := .text emergencyControlStoreSchemaVersion

structure Tables where
  events : List EventRow
  controls : List ControlRow
  /-- `CHECK (id = 1)` -/
  head : Option HeadRow

namespace Tables

def selectAllEvents (tables : Tables) : List EventRow :=
  tables.events.insertionSort fun a b => a.sequence ≤ b.sequence

def selectControl (tables : Tables) (key : SqlValue) : Option ControlRow :=
  tables.controls.find? fun row => row.controlKey = key

def selectEvent (tables : Tables) (sequence : Int) : Option EventRow :=
  tables.events.find? fun row => row.sequence = sequence

def keyEvents (tables : Tables) (key : SqlValue) : List EventRow :=
  tables.events.filter fun row => row.controlKey = key

/-- `COALESCE(MAX(sequence), 0)` of the events of a key. -/
def maxSequence (tables : Tables) (key : SqlValue) : Int :=
  ((tables.keyEvents key).map (·.sequence)).max?.getD 0

/-- The keys either table mentions, each once. `UNION` promises no order. -/
def selectKnownKeys (tables : Tables) : List SqlValue :=
  (tables.events.map (·.controlKey) ++ tables.controls.map (·.controlKey)).dedup

def upsertControl (tables : Tables) (row : ControlRow) : Tables :=
  { tables with
    controls :=
      if (tables.selectControl row.controlKey).isSome then
        tables.controls.map fun r => if r.controlKey = row.controlKey then row else r
      else tables.controls ++ [row] }

/-- The walk of `verifiedHead`: the digest of the last row, and how many were verified. -/
def walk : List EventRow → SqlValue → Int → Option (SqlValue × Int)
  | [], expectedPrevious, verified => some (expectedPrevious, verified)
  | row :: rows, expectedPrevious, verified =>
    if row.sequence ≠ verified + 1 then none
    else match parseStoredEvent P row with
      | none => none
      | some event =>
        if .text event.previousEventDigest ≠ expectedPrevious then none
        else walk rows row.eventDigest (verified + 1)

def verifiedHead (tables : Tables) : Option EmergencyControlHeadRecord :=
  match tables.head.bind (parseStoredHead P) with
  | none => none
  | some head =>
    match walk P tables.selectAllEvents (.text (emergencyControlGenesisDigest P)) 0 with
    | none => none
    | some (expectedPrevious, verified) =>
      if verified ≠ head.eventCount then none
      else if verified ≠ head.eventSequence then none
      else if expectedPrevious = .text head.eventDigest then some head else none

end Tables

inductive ControlState
  | neverDeclared
  | declared (control : StoredEmergencyControl)

namespace Tables

def verifiedControl (tables : Tables) (key : SqlValue) : Option ControlState :=
  match tables.selectControl key with
  | none => if (tables.keyEvents key).length = 0 then some .neverDeclared else none
  | some row =>
    match parseStoredControl P row with
    | none => none
    | some control =>
      if (tables.keyEvents key).length = 0 then none
      else if tables.maxSequence key ≠ control.eventSequence then none
      else match tables.selectEvent control.eventSequence with
        | none => none
        | some eventRow =>
          match parseStoredEvent P eventRow with
          | none => none
          | some event =>
            if .text event.controlKey ≠ key then none
            else if eventRow.eventDigest ≠ .text control.eventDigest then none
            else if decide (event.transition = .activated) ≠ control.active then none
            else some (.declared control)

/-- The loop of `runRead`: the applicable controls that are active, unless one of them
cannot be established. -/
def matchedScopes (tables : Tables) :
    List EmergencyControlScopeMatch → Option (List EmergencyControlScopeMatch)
  | [] => some []
  | applicable :: rest =>
    match tables.verifiedControl P (.text (matchKey applicable)) with
    | none => none
    | some .neverDeclared => tables.matchedScopes rest
    | some (.declared control) =>
      (tables.matchedScopes rest).map fun matched =>
        if control.active then applicable :: matched else matched

def runRead (tables : Tables) (query : EmergencyControlQuery) : EmergencyControlAssessment :=
  match tables.verifiedHead P with
  | none => .unavailable
  | some _ =>
    match tables.matchedScopes P (applicableEmergencyControlScopes query) with
    | none => .unavailable
    | some matched => if matched.isEmpty then .clear else .blocked matched

/-- The three writes of `appendTransition` under a verified head. -/
def recordTransition (tables : Tables) (head : EmergencyControlHeadRecord)
    (scope : EmergencyControlScope) (value : Option String)
    (transition : EmergencyControlTransition) (issuerRef recordedAt : String) :
    Except EmergencyControlError Tables :=
  let key := emergencyControlKey scope value
  let sequence := head.eventSequence + 1
  let event : EmergencyControlEventRecord :=
    ⟨sequence,key,scope,value,transition,issuerRef,recordedAt,head.eventDigest⟩
  let eventDigest := emergencyControlEventDigest P event
  let control : StoredEmergencyControl :=
    ⟨key,scope,value,decide (transition = .activated),issuerRef,recordedAt,sequence, eventDigest⟩
  -- the primary key of the events
  if (tables.selectEvent sequence).isSome then .error .sqliteError
  else
    let inserted : Tables := { tables with events := tables.events ++ [eventRow P event] }
    .ok { inserted.upsertControl (controlRow P control) with
      head := some (headRow P ⟨sequence,head.eventCount + 1,eventDigest,recordedAt⟩) }

def alreadyInState (current : ControlState) (transition : EmergencyControlTransition) : Bool :=
  match current with
  | .neverDeclared => decide (transition = .released)
  | .declared control => control.active == decide (transition = .activated)

def appendTransition (tables : Tables) (scope : EmergencyControlScope) (value : Option String)
    (transition : EmergencyControlTransition) (issuerRef recordedAt : String) :
    Except EmergencyControlError Tables :=
  match tables.verifiedHead P with
  | none => .error .storeStateCorrupt
  | some head =>
    match tables.verifiedControl P (.text (emergencyControlKey scope value)) with
    | none => .error .storeStateCorrupt
    | some current =>
      if alreadyInState current transition then .ok tables
      else tables.recordTransition P head scope value transition issuerRef recordedAt

/-- The loop of `runActive`. -/
def activeOfKeys (tables : Tables) :
    List SqlValue → Except EmergencyControlError (List EmergencyControlScopeMatch)
  | [] => .ok []
  | key :: rest =>
    match tables.verifiedControl P key with
    | none | some .neverDeclared => .error .storeStateCorrupt
    | some (.declared control) =>
      (tables.activeOfKeys rest).map fun out =>
        if control.active then ⟨control.scope,control.value⟩ :: out else out

def runActive (tables : Tables) : Except EmergencyControlError (List EmergencyControlScopeMatch) :=
  match tables.verifiedHead P with
  | none => .error .storeStateCorrupt
  | some _ => tables.activeOfKeys P tables.selectKnownKeys

end Tables

structure VersionRow where
  (schemaVersion migrationState : String)

/-- The tables a file holds; `none` is a table that is not there. -/
structure Database where
  versions : Option (List VersionRow)
  events : Option (List EventRow)
  controls : Option (List ControlRow)
  head : Option (Option HeadRow)

def Database.empty : Database := ⟨none,none,none,none⟩

inductive Initialization
  | new | initialized

def classifyInitialization (file : Database) : Except EmergencyControlError Initialization :=
  match file.versions with
  | none =>
    if file.events.isSome || file.controls.isSome || file.head.isSome then .error .storeUnavailable
    else .ok .new
  | some rows =>
    match rows.getLast? with
    | none => .error .storeUnavailable
    | some newest =>
      if newest.schemaVersion = "" then .error .storeUnavailable
      else if newest.schemaVersion ≠ emergencyControlStoreSchemaVersion then
        .error .storeUnavailable
      else if newest.migrationState ≠ "current" then .error .storeUnavailable
      else .ok .initialized

/-- `CREATE TABLE IF NOT EXISTS` for each table. -/
def Database.createSchema (file : Database) : Database :=
  ⟨some (file.versions.getD []),some (file.events.getD []),some (file.controls.getD []),
    some (file.head.getD none)⟩

/-- A handle on a file. -/
structure Store where
  file : Database
  closed : Bool

def createSqliteEmergencyControlStore (now : String) (file : Database) :
    Except EmergencyControlError Store :=
  match classifyInitialization file with
  | .error error => .error error
  | .ok .new =>
    let genesis : EmergencyControlHeadRecord := ⟨0,0,emergencyControlGenesisDigest P,now⟩
    let schema := file.createSchema
    .ok ⟨{ schema with
      versions := schema.versions.map (· ++ [⟨emergencyControlStoreSchemaVersion,"current"⟩])
      head := some (some (headRow P genesis)) },false⟩
  | .ok .initialized => .ok ⟨file.createSchema,false⟩

namespace Store

/-- The tables a statement finds; a statement on a missing table raises. -/
def tables? (store : Store) : Option Tables :=
  match store.file.events, store.file.controls, store.file.head with
  | some events, some controls, some head => some ⟨events,controls,head⟩
  | _, _, _ => none

def withTables (store : Store) (tables : Tables) : Store :=
  { store with
    file := { store.file with
      events := some tables.events
      controls := some tables.controls
      head := some tables.head } }

def read (store : Store) (query : EmergencyControlQuery) : EmergencyControlAssessment :=
  if store.closed then .unavailable
  else if !isWellFormedEmergencyControlQuery query then .unavailable
  else match store.tables? with
    | none => .unavailable
    | some tables => tables.runRead P query

/-- `activate` and `release`, which differ in the transition they record. -/
def transition (store : Store) (transition : EmergencyControlTransition)
    (declaration : EmergencyControlDeclaration) : Except EmergencyControlError Store :=
  if store.closed then .error .storeUnavailable
  else match isWellFormedEmergencyControlDeclaration declaration with
    | none => .error .declarationInvalid
    | some scope =>
      match store.tables? with
      | none => .error .sqliteError
      | some tables =>
        (tables.appendTransition P scope declaration.value transition declaration.issuerRef
          declaration.instant).map store.withTables

def activate (store : Store) (declaration : EmergencyControlDeclaration) :
    Except EmergencyControlError Store :=
  store.transition P .activated declaration

def release (store : Store) (release : EmergencyControlDeclaration) : Except EmergencyControlError Store :=
  store.transition P .released release

def active (store : Store) : Except EmergencyControlError (List EmergencyControlScopeMatch) :=
  if store.closed then .error .storeUnavailable
  else match store.tables? with
    | none => .error .sqliteError
    | some tables => tables.runActive P

def close (store : Store) : Store := { store with closed := true }

/-- `close`, and the file opened again. -/
def reopen (store : Store) (now : String) : Except EmergencyControlError Store :=
  createSqliteEmergencyControlStore P now store.close.file

end Store

inductive Call
  | activate (declaration : EmergencyControlDeclaration)
  | release (release : EmergencyControlDeclaration)
  | reopen (now : String)

def Store.apply (store : Store) : Call → Except EmergencyControlError Store
  | .activate declaration => store.activate P declaration
  | .release release => store.release P release
  | .reopen now => store.reopen P now

/-- The store after a call; a call that raises changes nothing. -/
def Store.next (store : Store) (call : Call) : Store :=
  match store.apply P call with
  | .ok store' => store'
  | .error _ => store

def Store.run (store : Store) (calls : List Call) : Store := calls.foldl (Store.next P) store

/-- The store of a new file. -/
def Store.created (now : String) : Store :=
  match createSqliteEmergencyControlStore P now .empty with
  | .ok store => store
  | .error _ => ⟨.empty,true⟩

def InMemoryStore.apply (store : InMemoryStore) : Call → Except EmergencyControlError InMemoryStore
  | .activate declaration => store.activate declaration
  | .release release => store.release release
  | .reopen _ => .ok store

def InMemoryStore.next (store : InMemoryStore) (call : Call) : InMemoryStore :=
  match store.apply call with
  | .ok store' => store'
  | .error _ => store

def InMemoryStore.run (store : InMemoryStore) (calls : List Call) : InMemoryStore :=
  calls.foldl InMemoryStore.next store

end Frontera.EmergencyControl
