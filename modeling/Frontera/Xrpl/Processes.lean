import Frontera.Data.Runs
import Frontera.Xrpl.Rail

/-! Any number of processes run executions over one interlock store and one ledger. A step resumes
one awaiting execution with what it awaited, or starts or ends a process, or lets the ledger include
a transaction and validate the next index. A reservation may be durable although its answer is lost.
-/

namespace Frontera.Xrpl

open Frontera.Data Frontera.Text Option

/-- A transaction in a ledger, with its immutable metadata. -/
structure Inclusion where
  (hash account : String)
  (sequence index : Int)
  details : Option (Json String)

/-- The last validated index, and what is in the ledgers up to the next one. -/
structure Ledger where
  validatedIndex : Int
  inclusions : List Inclusion

/-- A call of `client.submit`, by an execution, with the blob sent or provably not. -/
structure Submission where
  call : Nat
  executionId : String
  signed : Signed
  attempted : Bool

structure RailCall where
  process : Nat
  request : PaymentExecutionRequest
  phase : RailPhase
  /-- The signed payment whose reservation this call made durable. -/
  reservation : Option Signed

/-- What a deployment is made of. -/
structure Deployment where
  platform : Platform
  sdk : XrplSdk
  scope : InterlockStore.InterlockScope
  /-- How the rail of each process is composed. -/
  options : Nat → RailOptions
  /-- The network can never apply the transaction: it is malformed. -/
  neverApplies : String → Bool

structure System where
  rails : Nat → RailState
  crashed : Nat → Bool
  calls : List RailCall
  store : InterlockStore
  submissions : List Submission
  ledger : Ledger

def System.initial (validatedIndex : Int) : System where
  rails := fun _ => .initial
  crashed := fun _ => false
  calls := []
  store := .empty
  submissions := []
  ledger := ⟨validatedIndex,[]⟩

/-- What an execution is resumed with. -/
inductive Resumption where
  | turn
  | recorded (fails : Bool)
  | connected (answer : ConnectAnswer)
  | index (raw : Option (Json String))
  | header (raw : Option (Json String))
  | autofilled (raw : Option (Json String))
  | blocking (fails : Bool)
  | signed (answer : Option (String × String))
  /-- The reservation in one transaction; its answer may be lost. -/
  | reserve (reservedAt : String) (answered : Bool)
  /-- The decision of an anchored reservation. -/
  | decide
  /-- The witnessed commit of an anchored reservation; its answer may be lost. -/
  | commit (reservedAt : String) (answered : Bool)
  /-- `reserve` throws, with nothing written. -/
  | reserveFails
  | submit (attempted : Bool)
  | submitAnswer (raw : Option (Json String))
  | closed (written : Option String)
  | pollIndex (raw : Option (Json String))
  | pollLookup (raw : Option (Json String))
  | deadline | railError
  | settled (written : Option String)

inductive Event where
  | call (process : Nat) (request : PaymentExecutionRequest)
  /-- `readiness`, with the validated index it read. -/
  | readiness (process : Nat) (raw : Json String)
  | resume (call : Nat) (resumption : Resumption)
  | crash (process : Nat)
  /-- The resolver records a ledger fact on the interlock. -/
  | resolve (executionId : String) (settlement : XrplInterlockSettlement) (updatedAt : String)
  /-- The next ledger includes the transaction of a submission that was sent. -/
  | includes (submission : Nat) (details : Option (Json String))
  | validates

/-- What a resumed execution leaves. -/
structure Effect where
  rail : RailState
  phase : RailPhase
  store : InterlockStore
  reservation : Option Signed
  submission : Option Bool

/-- Nothing but the rail's memory and the execution itself. -/
def Effect.local (store : InterlockStore) (reservation : Option Signed) (next : RailState × RailPhase) :
    Effect := ⟨next.1,next.2,store,reservation,none⟩

def readUnless {α : Type} (fails : Bool) (value : α) : Option α := if fails then none else some value

/-- `settleQuietly`: a failed write changes nothing. -/
def settleQuietly (store : InterlockStore) (executionId : String) (signed : Signed)
    (target : XrplSubmissionState) (written : Option String) : InterlockStore :=
  match written with
  | none => store
  | some updatedAt => (store.transition executionId signed.hash target updatedAt).getD store

/-- The state `settleQuietly` moves a record to. -/
def targetOf (outcome : PaymentRailResult) : XrplSubmissionState :=
  match settlementOf outcome with
  | none => .unconfirmed
  | some settlement => .settled settlement

/-- After a reservation: the submission is next, or the answer was lost. -/
def afterReservation (signed : Signed) (answered : Bool) : RailPhase :=
  if answered then .submitting signed else refuse .adapterError .interlockUnavailable

def resume (D : Deployment) (options : RailOptions) (rail : RailState) (store : InterlockStore)
    (executionId : String) (reservation : Option Signed) : RailPhase → Resumption → Option Effect
  | .queued transaction, .turn =>
      some (.local store reservation (rail, .recalling transaction))
  | .recalling transaction, .recorded fails =>
      some (.local store reservation (rail, afterRecorded transaction
        (readUnless (fails || !InterlockStore.isExecutionId executionId) (store.recorded executionId))))
  | .connecting transaction, .connected answer =>
      some (.local store reservation (rail, afterConnect options transaction answer))
  | .indexing transaction, .index raw =>
      some (.local store reservation (afterIndex rail transaction raw))
  | .heading transaction validated, .header raw =>
      some (.local store reservation (afterHeader options rail transaction validated raw))
  | .filling transaction validated, .autofilled raw =>
      some (.local store reservation (afterAutofill options rail transaction validated raw))
  | .checking prepared validated, .blocking fails =>
      some (.local store reservation (rail, afterBlocking prepared validated
        (readUnless (fails || !(hasClassicAddressShape prepared.account &&
            InterlockStore.isPositiveInteger prepared.sequence &&
            InterlockStore.isPositiveInteger validated))
          (store.openBlocking prepared.account prepared.sequence validated))))
  | .signing prepared validated, .signed answer =>
      some (.local store reservation (rail, afterSign D.sdk options prepared validated answer))
  | .reserving signed, .reserve reservedAt answered =>
      if !InterlockStore.validateInput (signed.record executionId) then
        some (.local store reservation (rail, refuse .adapterError .interlockUnavailable))
      else
        match store.reserve (signed.record executionId) signed.validated reservedAt with
        | some store' => some ⟨rail,afterReservation signed answered,store',some signed,none⟩
        | none =>
            match store.decideReservation (signed.record executionId) signed.validated with
            | .executionRecorded hash =>
                some (.local store reservation (rail, previouslySubmitted hash))
            | _ => some (.local store reservation (rail, refuse .providerUnavailable .sequenceInFlight))
  | .reserving signed, .decide =>
      if !InterlockStore.validateInput (signed.record executionId) then
        some (.local store reservation (rail, refuse .adapterError .interlockUnavailable))
      else
        some (.local store reservation (rail, afterDecision signed
          (store.currentHead D.platform D.scope)
          (store.decideReservation (signed.record executionId) signed.validated)))
  | .committing signed head, .commit reservedAt answered =>
      match store.commitReservation D.platform D.scope (signed.record executionId) reservedAt head with
      | some store' => some ⟨rail,afterReservation signed answered,store',some signed,none⟩
      | none => some (.local store reservation (rail, refuse .adapterError .interlockUnavailable))
  | .reserving _, .reserveFails =>
      some (.local store reservation (rail, refuse .adapterError .interlockUnavailable))
  | .committing _ _, .reserveFails =>
      some (.local store reservation (rail, refuse .adapterError .interlockUnavailable))
  | .submitting signed, .submit attempted =>
      some ⟨rail,if attempted then .submitted signed else .closing signed,store,reservation, some attempted⟩
  | .submitted signed, .submitAnswer raw =>
      some (.local store reservation (afterSubmit rail signed raw))
  | .closing signed, .closed written =>
      some ⟨rail,refuse .providerUnavailable .submissionNotAttempted,
        settleQuietly store executionId signed (.settled .notSubmitted) written,reservation,none⟩
  | .polling signed, .pollIndex none => some (.local store reservation (rail, .polling signed))
  | .polling signed, .pollIndex (some raw) =>
      some (.local store reservation (rail, .looking signed (readLedgerIndex raw)))
  | .looking signed validatedIndex, .pollLookup raw =>
      some (.local store reservation (afterLookup rail signed validatedIndex raw))
  | .polling signed, .deadline =>
      some (.local store reservation
        (concludes rail signed (.unconfirmed signed.hash .finalityUnknown)))
  | .looking signed _, .deadline =>
      some (.local store reservation
        (concludes rail signed (.unconfirmed signed.hash .finalityUnknown)))
  | .polling signed, .railError =>
      some (.local store reservation
        (concludes rail signed (.unconfirmed signed.hash .railErrorAfterSubmission)))
  | .looking signed _, .railError =>
      some (.local store reservation
        (concludes rail signed (.unconfirmed signed.hash .railErrorAfterSubmission)))
  | .settling signed outcome, .settled written =>
      some ⟨rail,.answered outcome,
        settleQuietly store executionId signed (targetOf outcome) written,reservation,none⟩
  | _, _ => none

/-- The source account whose queue an unanswered execution is in. -/
def RailPhase.account : RailPhase → Option String
  | .queued t | .recalling t | .connecting t | .indexing t => some t.account
  | .heading t _ | .filling t _ => some t.account
  | .checking p _ | .signing p _ => some p.account
  | .reserving s | .committing s _ | .submitting s | .submitted s | .closing s | .polling s
  | .looking s _ | .settling s _ => some s.prepared.account
  | .answered _ => none

/-- Payments from one source account run one at a time, in the order of their calls. -/
def System.waits (system : System) (c : Nat) (call : RailCall) : Bool :=
  (system.calls.take c).any fun earlier =>
    earlier.process = call.process ∧ earlier.phase.account.isSome ∧
      earlier.phase.account = call.phase.account

def Resumption.isTurn : Resumption → Bool
  | .turn => true
  | _ => false

/-- The system after a resumed execution. -/
def System.apply (system : System) (c : Nat) (call : RailCall) (effect : Effect) : System where
  rails := Function.update system.rails call.process effect.rail
  crashed := system.crashed
  calls := system.calls.set c
    { call with phase := effect.phase, reservation := effect.reservation }
  store := effect.store
  submissions :=
    match effect.submission, call.phase with
    | some attempted, .submitting signed =>
        system.submissions ++ [⟨c,call.request.executionId,signed,attempted⟩]
    | _, _ => system.submissions
  ledger := system.ledger

/-- The ledger may include a sent transaction once, up to its `LastLedgerSequence`, while its
account's sequence is unused. -/
def Ledger.includes (ledger : Ledger) (D : Deployment) (submission : Submission)
    (details : Option (Json String)) : Option Ledger :=
  match D.sdk.decodeSigned submission.signed.signedTransaction with
  | none => none
  | some payment =>
      let hash := D.sdk.blobHash submission.signed.signedTransaction
      if submission.attempted && !D.neverApplies hash &&
          decide (ledger.validatedIndex + 1 ≤ payment.lastLedgerSequence) &&
          !(ledger.inclusions.any fun i => i.hash = hash) &&
          !(ledger.inclusions.any fun i =>
            i.account = payment.account ∧ i.sequence = payment.sequence) then
        some { ledger with
          inclusions := ledger.inclusions ++
            [⟨hash,payment.account,payment.sequence,ledger.validatedIndex + 1,details⟩] }
      else none

def step (D : Deployment) (system : System) : Event → Option System
  | .call process request =>
      if system.crashed process then none
      else some { system with
        calls := system.calls ++ [⟨process,request,startExecution D.sdk (D.options process) request,none⟩] }
  | .readiness process raw =>
      if system.crashed process then none
      else (readLedgerIndex raw).map fun index =>
        { system with
          rails := Function.update system.rails process
            ((system.rails process).observeValidated index) }
  | .resume c resumption =>
      match system.calls[c]? with
      | none => none
      | some call =>
          if system.crashed call.process || (resumption.isTurn && system.waits c call) then none
          else
            (resume D (D.options call.process) (system.rails call.process) system.store
              call.request.executionId call.reservation call.phase resumption).map
              (system.apply c call)
  | .crash process => some { system with crashed := Function.update system.crashed process true }
  | .resolve executionId settlement updatedAt =>
      match system.store.find executionId with
      | none => none
      | some row =>
          (system.store.transition executionId row.transactionHash (.settled settlement)
            updatedAt).map fun store => { system with store := store }
  | .includes submission details =>
      match system.submissions[submission]? with
      | none => none
      | some sent => (system.ledger.includes D sent details).map fun ledger =>
          { system with ledger := ledger }
  | .validates =>
      some { system with ledger :=
        { system.ledger with validatedIndex := system.ledger.validatedIndex + 1 } }

/-- What an enabled step does, event by event. -/
inductive Steps (D : Deployment) (system : System) : Event → System → Prop where
  | call (process : Nat) (request : PaymentExecutionRequest) :
      Steps D system (.call process request) { system with
        calls := system.calls ++ [⟨process,request,startExecution D.sdk (D.options process) request,none⟩] }
  | readiness (process : Nat) (raw : Json String) (index : Int) :
      Steps D system (.readiness process raw) { system with
        rails := Function.update system.rails process
          ((system.rails process).observeValidated index) }
  | resume (c : Nat) (resumption : Resumption) {call : RailCall} {effect : Effect}
      (hcall : system.calls[c]? = some call)
      (heffect : Frontera.Xrpl.resume D (D.options call.process) (system.rails call.process)
        system.store call.request.executionId call.reservation call.phase resumption = some effect) :
      Steps D system (.resume c resumption) (system.apply c call effect)
  | crash (process : Nat) : Steps D system (.crash process)
        { system with crashed := Function.update system.crashed process true }
  | resolve (executionId : String) (settlement : XrplInterlockSettlement) (updatedAt : String)
      {hash : String} {store : InterlockStore}
      (htransition : system.store.transition executionId hash (.settled settlement) updatedAt =
        some store) :
      Steps D system (.resolve executionId settlement updatedAt) { system with store := store }
  | includes (submission : Nat) (details : Option (Json String)) {sent : Submission}
      {ledger : Ledger} (hsent : system.submissions[submission]? = some sent)
      (hledger : system.ledger.includes D sent details = some ledger) :
      Steps D system (.includes submission details) { system with ledger := ledger }
  | validates : Steps D system .validates { system with
        ledger := { system.ledger with validatedIndex := system.ledger.validatedIndex + 1 } }

theorem step_cases {D : Deployment} {system system' : System} {event : Event}
    (h : step D system event = some system') : Steps D system event system' := by
  cases event with
  | call process request =>
    simp only [step] at h
    split_ifs at h
    exact some.inj h ▸ .call process request
  | readiness process raw =>
    simp only [step] at h
    split_ifs at h
    obtain ⟨index,-,rfl⟩ := map_eq_some_iff.1 h
    exact .readiness process raw index
  | resume c resumption =>
    simp only [step] at h
    split at h
    · cases h
    · rename_i call hcall
      split_ifs at h
      obtain ⟨effect,heffect,rfl⟩ := map_eq_some_iff.1 h
      exact .resume c resumption hcall heffect
  | crash process => exact some.inj h ▸ .crash process
  | resolve executionId settlement updatedAt =>
    simp only [step] at h
    split at h
    · cases h
    · obtain ⟨store,htransition,rfl⟩ := map_eq_some_iff.1 h
      exact .resolve executionId settlement updatedAt htransition
  | includes submission details =>
    simp only [step] at h
    split at h
    · cases h
    · rename_i sent hsent
      obtain ⟨ledger,hledger,rfl⟩ := map_eq_some_iff.1 h
      exact .includes submission details hsent hledger
  | validates => exact some.inj h ▸ .validates

/-- A step that is not enabled leaves the system. -/
def next (D : Deployment) (system : System) (event : Event) : System :=
  (step D system event).getD system

def run (D : Deployment) (system : System) (events : List Event) : System :=
  events.foldl (next D) system

end Frontera.Xrpl
