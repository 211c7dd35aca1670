import Frontera.Xrpl.Interlock
import Frontera.Xrpl.Readings

/-! One execution on the XRPL rail, cut at every point where it awaits: the payment is built, the
interlock is asked for an earlier transaction, the payment is prepared at a validated index past the
restart quarantine, signed, reserved, submitted once and followed to a final answer. Each part takes
what was awaited, `none` when it failed, and says where the execution goes next. -/

namespace Frontera.Xrpl

open Frontera.Monetary Frontera.Payment Frontera.Text

inductive ExecutionFailureReason where
  | providerUnavailable | providerRejected | providerResponseInvalid | adapterError
deriving DecidableEq

/-- The `detail` of a result: a token of the rail, or the ledger's engine result. -/
inductive ResultDetail where
  | rail (detail : XrplRailDetail)
  | engine (engineResult : String)
deriving DecidableEq

inductive PaymentRailResult where
  | completed (externalReference : String)
  | notCompleted (reason : ExecutionFailureReason) (externalReference : Option String)
      (detail : ResultDetail)
  | unconfirmed (externalReference : String) (detail : XrplRailDetail)
deriving DecidableEq

def settlementOf : PaymentRailResult → Option XrplInterlockSettlement
  | .completed _ => some .validatedSuccess
  | .unconfirmed _ _ => none
  | .notCompleted _ _ (.rail .transactionExpired) => some .expired
  | .notCompleted _ _ (.rail _) => some .validatedFailure
  | .notCompleted _ _ (.engine engineResult) =>
      if startsWith engineResult "tem" then some .malformed else some .validatedFailure

structure InFlight where
  (sequence lastLedgerSequence : Int)

/-- What a rail keeps in memory. -/
structure RailState where
  (firstObserved proven : Option Int)
  unresolved : String → Option InFlight

def RailState.initial : RailState := ⟨none,none,fun _ => none⟩

/-- How a rail is composed. -/
structure RailOptions where
  configuration : XrplRlusdRailConfiguration
  /-- The clock when the rail was created, in milliseconds. -/
  startedAt : Int
  pinnedKeys : String → Option String

def xrplHistoricalMaxLastLedgerOffset : Int := 200

def xrplRestartQuarantineMargin : Int := 4

def xrplRestartQuarantineLedgers : Int :=
  xrplHistoricalMaxLastLedgerOffset + xrplRestartQuarantineMargin

def xrplRestartAnchorSlackSeconds : Int := 180

def rippleEpochUnixSeconds : Int := 946684800

def startedAtCloseTime (startedAt : Int) : Int :=
  startedAt / 1000 - rippleEpochUnixSeconds + xrplRestartAnchorSlackSeconds

def RailState.observeValidated (rail : RailState) (index : Int) : RailState :=
  match rail.firstObserved with
  | none => { rail with firstObserved := some index }
  | some _ => rail

/-- What `quarantined` answers before it reads a header, if it needs one. -/
inductive QuarantineCheck where
  | held | released
  | reads (candidate : Int)

def RailState.quarantined (rail : RailState) (validated : Int) : QuarantineCheck :=
  match rail.firstObserved with
  | none => .held
  | some first =>
      if validated < first + xrplRestartQuarantineLedgers then .held
      else if rail.proven.any fun proven => proven + xrplRestartQuarantineLedgers ≤ validated then
        .released
      else if validated - xrplRestartQuarantineLedgers < 1 then .held
      else .reads (validated - xrplRestartQuarantineLedgers)

/-- The header of the candidate, once read: `none` while the quarantine holds. -/
def RailState.provenBy (rail : RailState) (startedAt validated : Int) (header : Option LedgerHeader) :
    Option RailState :=
  let candidate := validated - xrplRestartQuarantineLedgers
  match header with
  | none => none
  | some header =>
      if header.index ≠ candidate ∨ header.closeTime < startedAtCloseTime startedAt then none
      else some { rail with proven := some (rail.proven.elim candidate fun p => min p candidate) }

/-- A prepared payment, signed and verified, with the validated index it was prepared at. -/
structure Signed where
  prepared : XrplPreparedPayment
  (signedTransaction hash : String)
  validated : Int

def Signed.minLedger (signed : Signed) : Int := signed.validated + 1

def Signed.expected (signed : Signed) : XrplExpectedPayment := ⟨signed.hash,signed.prepared.amount⟩

def Signed.record (signed : Signed) (executionId : String) : XrplSubmissionRecordInput where
  executionId := executionId
  account := signed.prepared.account
  sequence := signed.prepared.sequence
  lastLedgerSequence := signed.prepared.lastLedgerSequence
  minLedger := signed.minLedger
  transactionHash := signed.hash
  amount := signed.prepared.amount

/-- What an execution awaits. -/
inductive RailPhase where
  /-- Its turn in the queue of its source account. -/
  | queued (transaction : XrplPaymentTransaction)
  | recalling (transaction : XrplPaymentTransaction)
  | connecting (transaction : XrplPaymentTransaction)
  | indexing (transaction : XrplPaymentTransaction)
  | heading (transaction : XrplPaymentTransaction) (validated : Int)
  | filling (transaction : XrplPaymentTransaction) (validated : Int)
  | checking (prepared : XrplPreparedPayment) (validated : Int)
  | signing (prepared : XrplPreparedPayment) (validated : Int)
  | reserving (signed : Signed)
  /-- The anchored reservation, decided on a head of the history. -/
  | committing (signed : Signed) (head : InterlockStore.ReservationsHead)
  /-- The reservation is durable; `client.submit` is next. -/
  | submitting (signed : Signed)
  | submitted (signed : Signed)
  /-- Provably not sent: the reservation is being closed. -/
  | closing (signed : Signed)
  | polling (signed : Signed)
  | looking (signed : Signed) (validatedIndex : Option Int)
  | settling (signed : Signed) (outcome : PaymentRailResult)
  | answered (result : PaymentRailResult)

/-- `throw new Refusal`, as `execute` answers it. -/
def refuse (reason : ExecutionFailureReason) (detail : XrplRailDetail) : RailPhase :=
  .answered (.notCompleted reason none (.rail detail))

def previouslySubmitted (hash : String) : RailPhase :=
  .answered (.unconfirmed hash .executionPreviouslySubmitted)

/-- `execute`, up to its turn in the queue. -/
def startExecution (sdk : XrplSdk) (options : RailOptions) (request : PaymentExecutionRequest) :
    RailPhase :=
  match buildXrplPayment sdk options.configuration request with
  | .error detail => refuse .adapterError detail
  | .ok transaction => .queued transaction

/-- `recordedFor`, after `interlock.recorded` answered. -/
def afterRecorded (transaction : XrplPaymentTransaction) : Option (Option String) → RailPhase
  | none => refuse .adapterError .interlockUnavailable
  | some (some hash) => previouslySubmitted hash
  | some none => .connecting transaction

inductive ConnectAnswer where
  | failed
  | serverInfo (raw : Json String)

def afterConnect (options : RailOptions) (transaction : XrplPaymentTransaction) : ConnectAnswer → RailPhase
  | .failed => refuse .providerUnavailable .networkUnavailable
  | .serverInfo raw =>
      if readNetworkId raw = some options.configuration.networkId then .indexing transaction
      else refuse .adapterError .networkMismatch

def afterIndex (rail : RailState) (transaction : XrplPaymentTransaction) :
    Option (Json String) → RailState × RailPhase
  | none => (rail, refuse .providerUnavailable .preparationFailed)
  | some raw =>
      match readLedgerIndex raw with
      | none => (rail, refuse .providerResponseInvalid .preparationInvalid)
      | some validated =>
          let rail := rail.observeValidated validated
          match rail.quarantined validated with
          | .held => (rail, refuse .providerUnavailable .restartQuarantine)
          | .released => (rail, .filling transaction validated)
          | .reads _ => (rail, .heading transaction validated)

def afterHeader (options : RailOptions) (rail : RailState) (transaction : XrplPaymentTransaction)
    (validated : Int) (raw : Option (Json String)) : RailState × RailPhase :=
  match rail.provenBy options.startedAt validated (raw.bind readLedgerHeader) with
  | none => (rail, refuse .providerUnavailable .restartQuarantine)
  | some rail => (rail, .filling transaction validated)

/-- The fee ceiling and the account's own unconfirmed payment, then the interlock. -/
def afterAutofill (options : RailOptions) (rail : RailState) (transaction : XrplPaymentTransaction)
    (validated : Int) : Option (Json String) → RailState × RailPhase
  | none => (rail, refuse .providerUnavailable .preparationFailed)
  | some raw =>
      let lastLedgerSequence := validated + options.configuration.lastLedgerOffset
      match readAutofill raw transaction lastLedgerSequence with
      | none => (rail, refuse .providerResponseInvalid .preparationInvalid)
      | some filled =>
          let prepared : XrplPreparedPayment :=
            { transaction with lastLedgerSequence, sequence := filled.sequence, fee := filled.fee }
          if readDigitsValue options.configuration.maxFeeDrops.toList <
              readDigitsValue filled.fee.toList then
            (rail, refuse .providerRejected .feeCeilingExceeded)
          else
            match rail.unresolved transaction.account with
            | none => (rail, .checking prepared validated)
            | some inFlight =>
                if inFlight.lastLedgerSequence ≤ validated then
                  ({ rail with
                      unresolved := Function.update rail.unresolved transaction.account none },
                    .checking prepared validated)
                else if filled.sequence ≤ inFlight.sequence then
                  (rail, refuse .providerUnavailable .sequenceInFlight)
                else (rail, .checking prepared validated)

/-- After `interlock.blocking` answered. -/
def afterBlocking (prepared : XrplPreparedPayment) (validated : Int) : Option Bool → RailPhase
  | none => refuse .adapterError .interlockUnavailable
  | some true => refuse .providerUnavailable .sequenceInFlight
  | some false => .signing prepared validated

/-- `SIGNED_BLOB` -/
def isSignedBlob (blob : String) : Bool :=
  decide (blob.toList.length % 2 = 0 ∧ 64 ≤ blob.toList.length ∧ blob.toList.length ≤ 8192) &&
    blob.toList.all isUppercaseHex

def signedPaymentMatches (sdk : XrplSdk) (prepared : XrplPreparedPayment) (blob hash : String) : Bool :=
  isSignedBlob blob && isXrplTransactionHash hash && decide (sdk.decodeSigned blob = some prepared) &&
    sdk.blobHash blob == hash

def afterSign (sdk : XrplSdk) (options : RailOptions) (prepared : XrplPreparedPayment)
    (validated : Int) : Option (String × String) → RailPhase
  | none => refuse .adapterError .signingFailed
  | some (blob, hash) =>
      if !signedPaymentMatches sdk prepared blob hash then refuse .adapterError .signatureMismatch
      else if (options.pinnedKeys prepared.account).any fun key =>
          !sdk.signedByPinnedKey blob key then refuse .adapterError .signingKeyMismatch
      else .reserving ⟨prepared,blob,hash,validated⟩

/-- After `reserve` decided against a new record, or for one the caller still has to commit. -/
def afterDecision (signed : Signed) (head : InterlockStore.ReservationsHead) :
    InterlockStore.ReservationDecision → RailPhase
  | .executionRecorded hash => previouslySubmitted hash
  | .blocked => refuse .providerUnavailable .sequenceInFlight
  | .free => .committing signed head

/-- An outcome of the one submission: an unconfirmed one is kept in memory. -/
def concludes (rail : RailState) (signed : Signed) (outcome : PaymentRailResult) : RailState × RailPhase :=
  match outcome with
  | .unconfirmed _ _ =>
      ({ rail with
          unresolved := Function.update rail.unresolved signed.prepared.account
            (some ⟨signed.prepared.sequence,signed.prepared.lastLedgerSequence⟩) },
        .settling signed outcome)
  | _ => (rail, .settling signed outcome)

/-- The answer of `client.submit`; `none` when it threw and the blob may have been sent. -/
def afterSubmit (rail : RailState) (signed : Signed) : Option (Json String) → RailState × RailPhase
  | none => concludes rail signed (.unconfirmed signed.hash .submissionOutcomeUnknown)
  | some raw =>
      match readSubmission raw signed.hash with
      | .unreadable => concludes rail signed (.unconfirmed signed.hash .submissionResponseUnreadable)
      | .malformed engineResult =>
          concludes rail signed
            (.notCompleted .providerRejected (some signed.hash) (.engine engineResult))
      | .provisional _ => (rail, .polling signed)

/-- One lookup of `awaitFinality`, after the validated index read before it. -/
def afterLookup (rail : RailState) (signed : Signed) (validatedIndex : Option Int) :
    Option (Json String) → RailState × RailPhase
  | none => (rail, .polling signed)
  | some raw =>
      match readLookup raw signed.expected with
      | .validatedSuccess => concludes rail signed (.completed signed.hash)
      | .validatedFailure engineResult =>
          concludes rail signed
            (.notCompleted .providerRejected (some signed.hash) (.engine engineResult))
      | .validatedDeliveredMismatch =>
          concludes rail signed (.unconfirmed signed.hash .deliveredAmountMismatch)
      | .validatedUnrecognized =>
          concludes rail signed (.unconfirmed signed.hash .resultUnrecognized)
      | .notFoundComplete =>
          if validatedIndex.any fun index => signed.prepared.lastLedgerSequence ≤ index then
            concludes rail signed
              (.notCompleted .providerRejected (some signed.hash) (.rail .transactionExpired))
          else (rail, .polling signed)
      | .pending => (rail, .polling signed)
      | .unreadable => (rail, .polling signed)

end Frontera.Xrpl
