import Frontera.Payment.RefundLedger
import Frontera.Xrpl.Payment

/-! The durable record of every transaction signed for submission: one row for an execution, written
before the submission and only ever moved toward closed. Whether an earlier row blocks a candidate
sequence is a rule on ledger facts. A reservation is one transaction, or decided first and committed
only from the history it was decided on. The digests and the transition log that verify a row on
reading can only refuse; such a refusal is one of the failures every call of the interlock may have.
-/

namespace Frontera.Xrpl

open Frontera.Monetary Frontera.Payment Frontera.Text List

inductive XrplInterlockSettlement where
  | validatedSuccess | validatedFailure | malformed | expired | notSubmitted
deriving DecidableEq

/-- A record is settled exactly when it carries its settlement. -/
inductive XrplSubmissionState where
  | submitting | unconfirmed
  | settled (settlement : XrplInterlockSettlement)
deriving DecidableEq

structure XrplSubmissionRecordInput where
  (executionId account : String)
  (sequence lastLedgerSequence minLedger : Int)
  transactionHash : String
  amount : IssuedAmount

structure XrplSubmissionRecord extends XrplSubmissionRecordInput where
  state : XrplSubmissionState
  (reservedAt updatedAt : String)

def XrplSubmissionRecord.isOpen (record : XrplSubmissionRecord) : Bool :=
  match record.state with
  | .settled _ => false
  | _ => true

structure XrplSequenceWindow where
  (sequence lastLedgerSequence : Int)
  isOpen : Bool

def xrplSequenceWindowBlocks (window : XrplSequenceWindow) (candidate validatedLedgerIndex : Int) : Bool :=
  if !window.isOpen then false
  else if !([window.sequence, window.lastLedgerSequence, candidate, validatedLedgerIndex].all
      isSafeInteger) then true
  else decide (validatedLedgerIndex < window.lastLedgerSequence) && decide (candidate ≤ window.sequence)

def XrplSubmissionRecord.window (record : XrplSubmissionRecord) : XrplSequenceWindow :=
  ⟨record.sequence,record.lastLedgerSequence,record.isOpen⟩

/-- The rows in the order of their reservation; `execution_id` is unique. -/
structure InterlockStore where
  rows : List XrplSubmissionRecord
  nodup : (rows.map fun row => row.executionId).Nodup

namespace InterlockStore

def empty : InterlockStore := ⟨[],by simp⟩

def find (store : InterlockStore) (executionId : String) : Option XrplSubmissionRecord :=
  store.rows.find? fun row => row.executionId = executionId

/-- The transaction hash already recorded for the execution. -/
def recorded (store : InterlockStore) (executionId : String) : Option String :=
  (store.find executionId).map fun row => row.transactionHash

/-- Only the rows whose window is still open are read. -/
def openBlocking (store : InterlockStore) (account : String) (sequence validatedLedgerIndex : Int) : Bool :=
  (store.rows.filter fun row =>
      row.account = account ∧ validatedLedgerIndex < row.lastLedgerSequence).any
    fun row => xrplSequenceWindowBlocks row.window sequence validatedLedgerIndex

variable {store : InterlockStore} {executionId : String} {row : XrplSubmissionRecord} {index : Int}
  {record : XrplSubmissionRecordInput} {store' : InterlockStore}

theorem find_eq_none_iff :
    store.find executionId = none ↔ ∀ row ∈ store.rows, row.executionId ≠ executionId := by
  simp [find]

theorem mem_of_find (h : store.find executionId = some row) :
    row ∈ store.rows ∧ row.executionId = executionId :=
  ⟨mem_of_find?_eq_some h,by simpa using List.find?_some h⟩

theorem find_of_mem (h : row ∈ store.rows) : store.find row.executionId = some row := by
  cases hfind : store.find row.executionId with
  | none => exact absurd rfl (find_eq_none_iff.1 hfind row h)
  | some other =>
    obtain ⟨hother,hid⟩ := mem_of_find hfind
    rw [inj_on_of_nodup_map store.nodup hother h hid]

/-- The row of an execution moves forward to a state; an equal or later one is left. -/
def moveRow (row : XrplSubmissionRecord) (target : XrplSubmissionState) (updatedAt : String) :
    XrplSubmissionRecord :=
  if !row.isOpen || row.state == target then row else { row with state := target, updatedAt := updatedAt }

theorem moveRow_input (row : XrplSubmissionRecord) (target : XrplSubmissionState) (updatedAt : String) :
    (moveRow row target updatedAt).toXrplSubmissionRecordInput = row.toXrplSubmissionRecordInput := by
  unfold moveRow
  split_ifs <;> rfl

theorem moveRow_state (row : XrplSubmissionRecord) (target : XrplSubmissionState) (updatedAt : String) :
    (moveRow row target updatedAt).state = row.state ∨
      row.isOpen = true ∧ (moveRow row target updatedAt).state = target := by
  unfold moveRow
  split_ifs with h
  · exact .inl rfl
  · simp only [Bool.or_eq_true,not_or,Bool.not_eq_true',Bool.not_eq_false] at h
    exact .inr ⟨h.1,rfl⟩

/-- `transition`: `none` when the execution has no record, or one of another transaction. -/
def transition (store : InterlockStore) (executionId transactionHash : String)
    (target : XrplSubmissionState) (updatedAt : String) : Option InterlockStore :=
  match store.find executionId with
  | none => none
  | some row =>
      if row.transactionHash ≠ transactionHash then none
      else some
        { rows := store.rows.map fun row =>
            if row.executionId = executionId then moveRow row target updatedAt else row
          nodup := by
            have hkeys : ((fun row : XrplSubmissionRecord => row.executionId) ∘ fun row =>
                if row.executionId = executionId then moveRow row target updatedAt else row) =
                fun row => row.executionId := by
              funext row
              simp only [Function.comp]
              split_ifs with h
              · exact congrArg _ (moveRow_input row target updatedAt)
              · rfl
            rw [map_map,hkeys]
            exact store.nodup }

def isExecutionIdChar (c : Char) : Bool :=
  isAsciiAlphanumeric c || [':', '.', '_', '-'].contains c

def isExecutionId (value : String) : Bool :=
  match value.toList with
  | [] => false
  | first :: rest =>
      isAsciiAlphanumeric first && decide (rest.length ≤ 255) && rest.all isExecutionIdChar

/-- `CURRENCY`: a code of three characters or forty hexadecimal digits. -/
def isCurrency (value : String) : Bool :=
  (decide (value.toList.length = 3) && value.toList.all fun c => isAsciiAlphanumeric c ||
      ['?', '!', '@', '#', '$', '%', '^', '&', '*', '<', '>', '(', ')', '\x7b', '\x7d', '[', ']',
        '|'].contains c) ||
    (decide (value.toList.length = 40) && value.toList.all isUppercaseHex)

/-- `VALUE`: an integer of at most forty digits and a fraction of at most ninety-six. -/
def isRecordedValue (value : String) : Bool :=
  match splitPoint value.toList with
  | (integer, none) => isCanonicalInteger integer && decide (integer.length ≤ 40)
  | (integer, some fraction) =>
      isCanonicalInteger integer && decide (integer.length ≤ 40) &&
        decide (1 ≤ fraction.length ∧ fraction.length ≤ 96) && fraction.all isAsciiDigit

def isPositiveInteger (n : Int) : Bool := isSafeInteger n && decide (0 < n)

def validateInput (record : XrplSubmissionRecordInput) : Bool :=
  isExecutionId record.executionId && hasClassicAddressShape record.account &&
    isPositiveInteger record.sequence && isPositiveInteger record.lastLedgerSequence &&
    isPositiveInteger record.minLedger && decide (record.minLedger ≤ record.lastLedgerSequence) &&
    isXrplTransactionHash record.transactionHash && isCurrency record.amount.currency &&
    hasClassicAddressShape record.amount.issuer && isRecordedValue record.amount.value

/-- The reservation history's head: how many reservations, and the chain over them. -/
structure ReservationsHead where
  sequence : Nat
  digest : String
deriving DecidableEq

structure InterlockScope where
  (storeId railId : String)
  networkId : Int

variable (P : Platform) (scope : InterlockScope)

def identityDigest (record : XrplSubmissionRecordInput) (reservedAt : String) : String :=
  computeDigest P (.obj
    [("domain", .str "aoc.xrpl-submission-interlock.identity.v1"),
      ("executionId", .str record.executionId), ("account", .str record.account),
      ("sequence", .num record.sequence), ("lastLedgerSequence", .num record.lastLedgerSequence),
      ("minLedger", .num record.minLedger), ("transactionHash", .str record.transactionHash),
      ("amount", .obj [("currency", .str record.amount.currency),
        ("issuer", .str record.amount.issuer), ("value", .str record.amount.value)]),
      ("reservedAt", .str reservedAt)])

def reservationsGenesisDigest : String :=
  computeDigest P (.obj
    [("domain", .str "aoc.xrpl-submission-interlock.reservations.v1"),
      ("storeId", .str scope.storeId), ("railId", .str scope.railId),
      ("networkId", .num scope.networkId), ("sequence", .num 0)])

def nextReservationsDigest (previous identity : String) : String :=
  computeDigest P (.obj
    [("domain", .str "aoc.xrpl-submission-interlock.reservations.v1"),
      ("previous", .str previous), ("identityDigest", .str identity)])

def currentHead (store : InterlockStore) : ReservationsHead where
  sequence := store.rows.length
  digest := store.rows.foldl
    (fun digest row => nextReservationsDigest P digest
      (identityDigest P row.toXrplSubmissionRecordInput row.reservedAt))
    (reservationsGenesisDigest P scope)

inductive ReservationDecision where
  | executionRecorded (transactionHash : String)
  | blocked | free
deriving DecidableEq

/-- One record for an execution, and the blocking rule. -/
def decideReservation (store : InterlockStore) (record : XrplSubmissionRecordInput)
    (validatedLedgerIndex : Int) : ReservationDecision :=
  match store.find record.executionId with
  | some row => .executionRecorded row.transactionHash
  | none =>
      if store.openBlocking record.account record.sequence validatedLedgerIndex then .blocked
      else .free

/-- `INSERT`: refused by the unique execution id. -/
def insertReservation (store : InterlockStore) (record : XrplSubmissionRecordInput)
    (reservedAt : String) : Option InterlockStore :=
  if h : store.find record.executionId = none then
    some
      { rows := store.rows ++ [⟨record,.submitting,reservedAt,reservedAt⟩]
        nodup := by
          rw [map_append,map_singleton,nodup_append]
          refine ⟨store.nodup,by simp,?_⟩
          intro id hid other hother heq
          obtain ⟨row,hrow,rfl⟩ := mem_map.1 hid
          rw [mem_singleton] at hother
          exact find_eq_none_iff.1 h row hrow (heq.trans hother) }
  else none

/-- The reservation in one transaction, of a store that is not anchored. -/
def reserve (store : InterlockStore) (record : XrplSubmissionRecordInput)
    (validatedLedgerIndex : Int) (reservedAt : String) : Option InterlockStore :=
  if store.decideReservation record validatedLedgerIndex = .free then
    store.insertReservation record reservedAt
  else none

/-- The commit of an anchored reservation: only from the head it was decided on. -/
def commitReservation (store : InterlockStore) (record : XrplSubmissionRecordInput)
    (reservedAt : String) (preparedFrom : ReservationsHead) : Option InterlockStore :=
  if store.currentHead P scope = preparedFrom then store.insertReservation record reservedAt
  else none

/-- The row can no longer take the sequence of `candidate`, decided at a validated index. -/
def Releases (candidate : XrplSubmissionRecordInput) (validatedLedgerIndex : Int)
    (row : XrplSubmissionRecord) : Prop :=
  row.account = candidate.account → candidate.sequence ≤ row.sequence →
    row.isOpen = false ∨ row.lastLedgerSequence ≤ validatedLedgerIndex

theorem xrplSequenceWindowBlocks_eq_false {window : XrplSequenceWindow} {candidate : Int}
    (h : xrplSequenceWindowBlocks window candidate index = false)
    (hsequence : candidate ≤ window.sequence) :
    window.isOpen = false ∨ window.lastLedgerSequence ≤ index := by
  unfold xrplSequenceWindowBlocks at h
  split_ifs at h with hopen hsafe
  · exact .inl (by simpa using hopen)
  · simp only [Bool.and_eq_false_iff,decide_eq_false_iff_not] at h
    rcases h with h | h
    · exact .inr (by omega)
    · exact absurd hsequence h

theorem decideReservation_free (h : store.decideReservation record index = .free) :
    store.find record.executionId = none ∧ ∀ row ∈ store.rows, Releases record index row := by
  unfold decideReservation at h
  cases hfind : store.find record.executionId with
  | some row => simp [hfind] at h
  | none =>
    simp only [hfind] at h
    split_ifs at h with hblocked
    refine ⟨rfl,?_⟩
    intro row hrow haccount hsequence
    by_cases hwindow : index < row.lastLedgerSequence
    · simp only [openBlocking,any_eq_true,mem_filter,decide_eq_true_eq,
        not_exists,not_and,Bool.not_eq_true] at hblocked
      exact xrplSequenceWindowBlocks_eq_false (hblocked row ⟨hrow,haccount,hwindow⟩) hsequence
    · exact .inr (by omega)

theorem insertReservation_rows {reservedAt : String}
    (h : store.insertReservation record reservedAt = some store') :
    store.find record.executionId = none ∧
      store'.rows = store.rows ++ [⟨record,.submitting,reservedAt,reservedAt⟩] := by
  unfold insertReservation at h
  split_ifs at h with hfind
  exact ⟨hfind,by rw [← Option.some.inj h]⟩

theorem transition_rows {transactionHash updatedAt : String} {target : XrplSubmissionState}
    (h : store.transition executionId transactionHash target updatedAt = some store') :
    (∃ row ∈ store.rows, row.executionId = executionId ∧ row.transactionHash = transactionHash) ∧
      store'.rows = store.rows.map fun row =>
        if row.executionId = executionId then moveRow row target updatedAt else row := by
  unfold transition at h
  cases hfind : store.find executionId with
  | none => simp [hfind] at h
  | some row =>
    simp only [hfind] at h
    split_ifs at h with hhash
    obtain ⟨hmem,hid⟩ := mem_of_find hfind
    exact ⟨⟨row,hmem,hid,not_not.1 hhash⟩,by rw [← Option.some.inj h]⟩

end InterlockStore

end Frontera.Xrpl
