import Frontera.Freshness.Session
import Frontera.Text.Base64
import Frontera.Text.Rendering

/-! The messages between a host and its witness, as `protocol.ts` writes and reads them: request
bodies, receipts with the bytes that are signed of them, the two strict parsers, and what
`witness-client.ts` accepts as the answer to a request. An unknown value is a JSON value. -/

namespace Frontera.Freshness

open Frontera.Text

def authorityStateWitnessProtocol : String := "frontera.authority-state-witness.v2"

def authorityStateWitnessReceiptDomain : String := "frontera:authority-state-witness:receipt:v2"

def AuthorityStateKind.name : AuthorityStateKind → String
  | .boundedGrantRevocationState => "bounded-grant-revocation-state"
  | .obligationDischargeState => "obligation-discharge-state"
  | .approvalState => "approval-state"
  | .tradeSequenceReservations => "trade-sequence-reservations"
  | .xrplSubmissionReservations => "xrpl-submission-reservations"
  | .paymentBusinessOperationState => "payment-business-operation-state"
  | .paymentRefundState => "payment-refund-state"
  | .paymentInitiationReservations => "payment-initiation-reservations"
  | .humanIdentityState => "human-identity-state"
  | .fvBootstrapIdentityState => "fv-bootstrap-identity-state"

def authorityStateKinds : List AuthorityStateKind :=
  [.boundedGrantRevocationState, .obligationDischargeState, .approvalState,
    .tradeSequenceReservations, .xrplSubmissionReservations, .paymentBusinessOperationState,
    .paymentRefundState, .paymentInitiationReservations, .humanIdentityState, .fvBootstrapIdentityState]

def AuthorityStateKind.ofName (name : String) : Option AuthorityStateKind :=
  authorityStateKinds.find? fun kind => kind.name = name

@[simp] theorem AuthorityStateKind.ofName_name (kind : AuthorityStateKind) :
    AuthorityStateKind.ofName kind.name = some kind := by
  cases kind <;> decide

inductive WitnessOperation where
  | identity | read | enroll | prepare | finalize
deriving DecidableEq

def WitnessOperation.name : WitnessOperation → String
  | .identity => "identity"
  | .read => "read"
  | .enroll => "enroll"
  | .prepare => "prepare"
  | .finalize => "finalize"

def witnessOperations : List WitnessOperation := [.identity, .read, .enroll, .prepare, .finalize]

def WitnessOperation.ofName (name : String) : Option WitnessOperation :=
  witnessOperations.find? fun operation => operation.name = name

@[simp] theorem WitnessOperation.ofName_name (operation : WitnessOperation) :
    WitnessOperation.ofName operation.name = some operation := by
  cases operation <;> decide

/-- `identity`, or what a witness did with a slot. -/
inductive WitnessReceiptOutcome where
  | identity
  | slot (outcome : WitnessOutcome)
deriving DecidableEq

def WitnessReceiptOutcome.name : WitnessReceiptOutcome → String
  | .identity => "identity"
  | .slot .current => "current"
  | .slot .enrolled => "enrolled"
  | .slot .prepared => "prepared"
  | .slot .finalized => "finalized"
  | .slot .conflict => "conflict"

def witnessOutcomesByOperation : WitnessOperation → List WitnessReceiptOutcome
  | .identity => [.identity]
  | .read => [.slot .current]
  | .enroll => [.slot .enrolled, .slot .conflict]
  | .prepare => [.slot .prepared, .slot .conflict]
  | .finalize => [.slot .finalized, .slot .conflict]

/-- The outcome of that name, of those the operation may answer with. -/
def WitnessReceiptOutcome.ofName (operation : WitnessOperation) (name : String) :
    Option WitnessReceiptOutcome :=
  (witnessOutcomesByOperation operation).find? fun outcome => outcome.name = name

def AuthorityStateEnrollment.name : AuthorityStateEnrollment → String
  | .genesis => "genesis"
  | .baseline => "baseline"

/-- `CHALLENGE`: 64 lower-case hexadecimal digits. -/
def isWitnessChallenge (value : String) : Bool :=
  decide (value.toList.length = 64) && value.toList.all isLowercaseHexadecimal

/-- A request of the protocol, under its challenge. -/
inductive WitnessMessage where
  | identity (challenge : String)
  | slot (challenge : String) (request : WitnessRequest)

namespace WitnessMessage

def challenge : WitnessMessage → String
  | .identity challenge => challenge
  | .slot challenge _ => challenge

def operation : WitnessMessage → WitnessOperation
  | .identity _ => .identity
  | .slot _ (.read _) => .read
  | .slot _ (.enroll _ _) => .enroll
  | .slot _ (.prepare _ _) => .prepare
  | .slot _ (.finalize _) => .finalize

/-- The slot asked about. -/
def binding : WitnessMessage → Option AuthorityStateBinding
  | .identity _ => none
  | .slot _ request => some request.binding

def wellFormed : WitnessMessage → Bool
  | .identity challenge => isWitnessChallenge challenge
  | .slot challenge request => isWitnessChallenge challenge && request.wellFormed

end WitnessMessage

/-- A receipt; `protocol` is the one constant. -/
structure WitnessReceipt where
  witnessId : String
  operation : WitnessOperation
  challenge : String
  outcome : WitnessReceiptOutcome
  binding : Option AuthorityStateBinding
  state : Option WitnessBindingState
  operations : Option (List String)

def quote (value : String) : String := Text.stringify value

/-- The entry, where there is a value for it. -/
def optional {α : Type} (entry : α → String) (value : Option α) : List String :=
  (value.map entry).toList

def canonicalBinding (binding : AuthorityStateBinding) : String :=
  "\x7b" ++ (match binding.namespace with
    | some value => "\"namespace\":" ++ quote value ++ ","
    | none => "") ++
  "\"organizationId\":" ++ quote binding.organizationId ++ ",\"stateKind\":" ++
    quote binding.stateKind.name ++ "\x7d"

def canonicalHead (head : AuthorityStateHead) : String :=
  "\x7b\"sequence\":" ++ toString head.sequence ++ ",\"stateDigest\":" ++ quote head.stateDigest ++ "\x7d"

def canonicalState : WitnessBindingState → String
  | none => "\x7b\"status\":\"unbound\"\x7d"
  | some row =>
      "\x7b" ++ join "," (["\"committed\":" ++ canonicalHead row.committed] ++
        optional (fun pending => "\"pending\":" ++ canonicalHead pending) row.pending ++
        ["\"status\":\"bound\"", "\"storeId\":" ++ quote row.storeId]) ++ "\x7d"

def serializeWitnessReceipt (receipt : WitnessReceipt) : String :=
  "\x7b" ++ join "," (
    optional (fun binding => "\"binding\":" ++ canonicalBinding binding) receipt.binding ++
    ["\"challenge\":" ++ quote receipt.challenge,
      "\"operation\":" ++ quote receipt.operation.name] ++
    optional (fun operations => "\"operations\":[" ++ join "," (operations.map quote) ++ "]")
      receipt.operations ++
    ["\"outcome\":" ++ quote receipt.outcome.name,
      "\"protocol\":" ++ quote authorityStateWitnessProtocol] ++
    optional (fun state => "\"state\":" ++ canonicalState state) receipt.state ++
    ["\"witnessId\":" ++ quote receipt.witnessId]) ++ "\x7d"

def witnessReceiptSigningBytes (receipt : WitnessReceipt) : ByteArray :=
  (authorityStateWitnessReceiptDomain ++ "\n" ++ serializeWitnessReceipt receipt).toUTF8

def bindingBody (binding : AuthorityStateBinding) : List (String × Json String) :=
  [("stateKind", .str binding.stateKind.name), ("organizationId", .str binding.organizationId)] ++
    (binding.namespace.map fun value => ("namespace", .str value)).toList

def checkpointBody (checkpoint : AuthorityStateCheckpoint) : List (String × Json String) :=
  bindingBody checkpoint.binding ++
    [("storeId", .str checkpoint.storeId), ("sequence", .num checkpoint.head.sequence),
      ("stateDigest", .str checkpoint.head.stateDigest)]

/-- The fields of a request after the protocol and the challenge. -/
def requestFields : WitnessRequest → List (String × Json String)
  | .read binding => [("binding", .obj (bindingBody binding))]
  | .enroll enrollment checkpoint =>
      [("enrollment", .str enrollment.name), ("checkpoint", .obj (checkpointBody checkpoint))]
  | .prepare expected proposed =>
      [("expected", .obj (checkpointBody expected)), ("proposed", .obj (checkpointBody proposed))]
  | .finalize checkpoint => [("checkpoint", .obj (checkpointBody checkpoint))]

def witnessRequestBody (message : WitnessMessage) : Json String :=
  .obj ([("protocol", .str authorityStateWitnessProtocol), ("challenge", .str message.challenge)] ++
    match message with
    | .identity _ => []
    | .slot _ request => requestFields request)

/-- Exactly these own keys. -/
def hasExactKeys (value : Json String) (expected : List String) : Bool :=
  match value with
  | .obj fields => decide (fields.length = expected.length) &&
      expected.all fun key => (Json.lookup fields key).isSome
  | _ => false

/-- A field that is a string. -/
def stringField (value : Json String) (key : String) : Option String :=
  match value.get key with
  | some (.str text) => some text
  | _ => none

/-- A field that is an integer. -/
def integerField (value : Json String) (key : String) : Option Int :=
  match value.get key with
  | some (.num n) => some n
  | _ => none

/-- The namespace, where its key stands. One that is not a string is refused: of a namespaced kind
it is no token, and of another it stands where none may. -/
def namespaceField (value : Json String) : Option (Option String) :=
  match value.get "namespace" with
  | none => some none
  | some (.str «namespace») => some (some «namespace»)
  | some _ => none

def bindingFields (value : Json String) : Option AuthorityStateBinding := do
  let stateKind ← (stringField value "stateKind").bind AuthorityStateKind.ofName
  let organizationId ← stringField value "organizationId"
  let «namespace» ← namespaceField value
  if (authorityStateBindingProblem ⟨stateKind,organizationId,«namespace»⟩).isSome then none
  else some ⟨stateKind,organizationId,«namespace»⟩

def parseBinding (value : Json String) : Option AuthorityStateBinding :=
  if hasExactKeys value ["stateKind", "organizationId"] ||
      hasExactKeys value ["stateKind", "organizationId", "namespace"] then bindingFields value
  else none

def parseHead (value : Json String) : Option AuthorityStateHead :=
  if hasExactKeys value ["sequence", "stateDigest"] then do
    let sequence ← integerField value "sequence"
    let stateDigest ← stringField value "stateDigest"
    if isStateSequence sequence && isStateDigest stateDigest then some ⟨sequence,stateDigest⟩
    else none
  else none

def checkpointKeys : List String :=
  ["stateKind", "organizationId", "storeId", "sequence", "stateDigest"]

def parseCheckpoint (value : Json String) : Option AuthorityStateCheckpoint :=
  if hasExactKeys value checkpointKeys || hasExactKeys value (checkpointKeys ++ ["namespace"]) then do
    let binding ← bindingFields value
    let storeId ← stringField value "storeId"
    let sequence ← integerField value "sequence"
    let stateDigest ← stringField value "stateDigest"
    if isBoundedIdentifier storeId && isStateSequence sequence && isStateDigest stateDigest then
      some ⟨binding,storeId,⟨sequence,stateDigest⟩⟩
    else none
  else none

/-- The fields of a `bound` state. -/
def parseBound (value : Json String) (withPending : Bool) : Option BindingRow := do
  let status ← stringField value "status"
  let storeId ← stringField value "storeId"
  if status = "bound" ∧ isBoundedIdentifier storeId then do
    let committed ← (value.get "committed").bind parseHead
    if withPending then do
      let pending ← (value.get "pending").bind parseHead
      -- a pending checkpoint is the committed one's direct successor
      if pending.sequence = committed.sequence + 1 then some ⟨storeId,committed,some pending⟩
      else none
    else some ⟨storeId,committed,none⟩
  else none

def parseState (value : Json String) : Option WitnessBindingState :=
  if hasExactKeys value ["status"] then
    if stringField value "status" = some "unbound" then some none else none
  else if hasExactKeys value ["status", "storeId", "committed", "pending"] then
    (parseBound value true).map some
  else if hasExactKeys value ["status", "storeId", "committed"] then
    (parseBound value false).map some
  else none

def requestKeys : WitnessOperation → List String
  | .identity => ["protocol", "challenge"]
  | .read => ["protocol", "challenge", "binding"]
  | .enroll => ["protocol", "challenge", "enrollment", "checkpoint"]
  | .prepare => ["protocol", "challenge", "expected", "proposed"]
  | .finalize => ["protocol", "challenge", "checkpoint"]

def parseEnrollment (name : String) : Option AuthorityStateEnrollment :=
  if name = "genesis" then some .genesis
  else if name = "baseline" then some .baseline
  else none

def parseWitnessRequest (operation : WitnessOperation) (body : Json String) : Option WitnessMessage :=
  if hasExactKeys body (requestKeys operation) &&
      decide (stringField body "protocol" = some authorityStateWitnessProtocol) then do
    let challenge ← stringField body "challenge"
    if !isWitnessChallenge challenge then none
    else
      match operation with
      | .identity => some (.identity challenge)
      | .read => do
          let binding ← (body.get "binding").bind parseBinding
          some (.slot challenge (.read binding))
      | .enroll => do
          let checkpoint ← (body.get "checkpoint").bind parseCheckpoint
          let enrollment ← (stringField body "enrollment").bind parseEnrollment
          if enrollment = .genesis ∧ checkpoint.sequence ≠ 0 then none
          else some (.slot challenge (.enroll enrollment checkpoint))
      | .prepare => do
          let expected ← (body.get "expected").bind parseCheckpoint
          let proposed ← (body.get "proposed").bind parseCheckpoint
          if expected.binding ≠ proposed.binding ∨ expected.storeId ≠ proposed.storeId then none
          else if proposed.sequence ≠ expected.sequence + 1 then none
          else some (.slot challenge (.prepare expected proposed))
      | .finalize => do
          let checkpoint ← (body.get "checkpoint").bind parseCheckpoint
          some (.slot challenge (.finalize checkpoint))
  else none

def identityKeys : List String :=
  ["protocol", "witnessId", "operation", "challenge", "outcome", "operations"]

def stateKeys : List String :=
  ["protocol", "witnessId", "operation", "challenge", "outcome", "binding", "state"]

/-- An offered operation: a string within its length. -/
def parseOffered : Json String → Option String
  | .str entry => if (codeUnits entry).length ≤ 64 then some entry else none
  | _ => none

def parseOperations : Json String → Option (List String)
  | .arr entries => if entries.length ≤ 16 then entries.mapM parseOffered else none
  | _ => none

def parseWitnessReceipt (value : Json String) : Option WitnessReceipt :=
  if (hasExactKeys value identityKeys || hasExactKeys value stateKeys) &&
      decide (stringField value "protocol" = some authorityStateWitnessProtocol) then do
    let witnessId ← stringField value "witnessId"
    let challenge ← stringField value "challenge"
    if !isBoundedIdentifier witnessId || !isWitnessChallenge challenge then none
    else do
      let operation ← (stringField value "operation").bind WitnessOperation.ofName
      let outcome ← (stringField value "outcome").bind (WitnessReceiptOutcome.ofName operation)
      if hasExactKeys value identityKeys then
        if operation ≠ .identity then none
        else do
          let operations ← (value.get "operations").bind parseOperations
          some ⟨witnessId,operation,challenge,outcome,none,none,some operations⟩
      else if operation = .identity then none
      else do
        let binding ← (value.get "binding").bind parseBinding
        let state ← (value.get "state").bind parseState
        some ⟨witnessId,operation,challenge,outcome,some binding,some state,none⟩
  else none

def parseWitnessResponse (body : Json String) : Option (WitnessReceipt × String) :=
  if hasExactKeys body ["receipt", "signature"] then do
    let signature ← stringField body "signature"
    if signature = "" ∨ (codeUnits signature).length > 256 then none
    else do
      let receipt ← (body.get "receipt").bind parseWitnessReceipt
      some (receipt, signature)
  else none

structure FreshnessFailure where
  code : FreshnessErrorCode
  message : String

/-- The pinned identity: the witness and its key's verification. -/
structure PinnedWitness where
  witnessId : String
  verify : ByteArray → List UInt8 → Bool

/-- The bytes of a canonical base64 Ed25519 signature. -/
def signatureBytes (signature : String) : Option (List UInt8) :=
  let bytes := Base64.standard.decode signature.toList
  if bytes.length = 64 ∧ Base64.standard.encode bytes = signature.toList then some bytes else none

/-- The problem of a receipt that answers about a slot; an absent state holds nothing. -/
def receiptStateProblem (request : WitnessRequest) (receipt : WitnessReceipt) : Option String :=
  match receipt.outcome with
  | .identity => none
  | .slot outcome => appliedStateProblem request outcome (receipt.state.getD none)

def accept (pinned : PinnedWitness) (request : WitnessMessage) (answer : Json String) :
    Except FreshnessFailure WitnessReceipt :=
  match parseWitnessResponse answer with
  | none => .error ⟨.malformedResponse,"The authority-state witness answer to '" ++
      request.operation.name ++ "' is not the protocol shape."⟩
  | some (receipt, signature) =>
      match signatureBytes signature with
      | none => .error ⟨.malformedResponse,
          "The authority-state witness receipt signature is not a canonical base64 Ed25519 signature."⟩
      | some bytes =>
          if !pinned.verify (witnessReceiptSigningBytes receipt) bytes then
            .error ⟨.witnessUnauthentic,
              "The authority-state witness receipt does not verify under the pinned witness key."⟩
          else if receipt.witnessId ≠ pinned.witnessId then
            .error ⟨.witnessUnauthentic,
              "The authority-state witness receipt names a witness other than the pinned one."⟩
          else if receipt.operation ≠ request.operation then
            .error ⟨.witnessUnauthentic,
              "The authority-state witness receipt answers a different operation."⟩
          else if receipt.challenge ≠ request.challenge then
            .error ⟨.witnessUnauthentic,"The authority-state witness receipt answers a different " ++
              "challenge (a replayed or misrouted answer)."⟩
          else
            match request with
            | .identity _ => .ok receipt
            | .slot _ asked =>
                if receipt.binding ≠ some asked.binding then
                  .error ⟨.bindingMismatch,"The authority-state witness receipt is about another " ++
                    "organization, state kind or namespace."⟩
                else
                  match receiptStateProblem asked receipt with
                  | some problem => .error ⟨.malformedResponse,
                      "The authority-state witness receipt " ++ problem ++ "."⟩
                  | none => .ok receipt

end Frontera.Freshness
