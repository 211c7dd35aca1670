import Frontera.Data.OrderedMap
import Frontera.Data.Runs
import Frontera.Data.Throwing
import Frontera.HumanIdentity.Chain
import Frontera.Text.CodeUnitOrder

/-! A consumed bootstrap-authority decision is settled once, as committed together with a
counterpart or as not committed. A call checks the settlement against the verified history, and
again at its append, where all calls are serialized. -/

namespace Frontera.HumanIdentity

open Frontera.Data Frontera.Text

/-- A property of a settlement. The integer `0` is also `-0`, which canonical JSON writes alike. -/
inductive SettlementField where
  | text (value : String)
  | number (value : Int)
  /-- A fraction, a boolean, an object: nothing a settlement holds. -/
  | other
deriving DecidableEq

def SettlementField.text? : Option SettlementField → Option String
  | some (.text value) => some value
  | _ => none

def SettlementField.number? : Option SettlementField → Option Int
  | some (.number value) => some value
  | _ => none

/-- What a caller passes, or a row's payload; `none` is no object, or an array. -/
abbrev SettlementValue := Option (OrderedMap String SettlementField)

inductive NotCommittedCode where
  | noBootstrapEvidence | anchoredByOtherDecisions
deriving DecidableEq

def NotCommittedCode.text : NotCommittedCode → String
  | .noBootstrapEvidence => "NO_BOOTSTRAP_EVIDENCE"
  | .anchoredByOtherDecisions => "ANCHORED_BY_OTHER_DECISIONS"

structure BootstrapCommitted where
  (bindingDigest counterpartCommitment bootstrapRequestId bootstrapEvidenceDigest : String)
  (historyRevision statusSequence : Int)
  statusDigest : String
deriving DecidableEq

inductive BootstrapAuthoritySettlement where
  | committed (settlement : BootstrapCommitted)
  | notCommitted (bindingDigest : String) (code : NotCommittedCode)
deriving DecidableEq

def BootstrapAuthoritySettlement.bindingDigest : BootstrapAuthoritySettlement → String
  | .committed settlement => settlement.bindingDigest
  | .notCommitted bindingDigest _ => bindingDigest

/-- `SETTLEMENT_KEYS['bootstrap-committed']` -/
def committedKeys : List String :=
  ["bindingDigest", "bootstrapEvidenceDigest", "bootstrapRequestId", "counterpartCommitment",
    "historyRevision", "outcome", "statusDigest", "statusSequence"]

/-- `SETTLEMENT_KEYS['bootstrap-not-committed']` -/
def notCommittedKeys : List String := ["bindingDigest", "code", "outcome"]

/-- The properties of a settlement, in the order of their keys. -/
def BootstrapAuthoritySettlement.fields : BootstrapAuthoritySettlement → List (String × SettlementField)
  | .committed settlement =>
      [("bindingDigest", .text settlement.bindingDigest),
        ("bootstrapEvidenceDigest", .text settlement.bootstrapEvidenceDigest),
        ("bootstrapRequestId", .text settlement.bootstrapRequestId),
        ("counterpartCommitment", .text settlement.counterpartCommitment),
        ("historyRevision", .number settlement.historyRevision),
        ("outcome", .text "bootstrap-committed"), ("statusDigest", .text settlement.statusDigest),
        ("statusSequence", .number settlement.statusSequence)]
  | .notCommitted bindingDigest code =>
      [("bindingDigest", .text bindingDigest), ("code", .text code.text),
        ("outcome", .text "bootstrap-not-committed")]

theorem BootstrapAuthoritySettlement.nodup_fields (settlement : BootstrapAuthoritySettlement) :
    (settlement.fields.map Prod.fst).Nodup := by
  cases settlement with
  | committed settlement => exact (by decide : committedKeys.Nodup)
  | notCommitted bindingDigest code => exact (by decide : notCommittedKeys.Nodup)

def BootstrapAuthoritySettlement.value (settlement : BootstrapAuthoritySettlement) :
    OrderedMap String SettlementField := ⟨settlement.fields,settlement.nodup_fields⟩

def SettlementField.json : SettlementField → Json String
  | .text value => .str value
  | .number value => .num value
  | .other => .null

/-- `canonicalJson({ ...settlement })` -/
def BootstrapAuthoritySettlement.canonical (settlement : BootstrapAuthoritySettlement) : String :=
  canonicalJson (.obj (settlement.fields.map fun field => (field.1, field.2.json)))

inductive DecisionVerdict where
  | attest | approve | reject
deriving DecidableEq

structure DecisionEvidence where
  (operatorId challengeCommitment subjectDigest : String)
  verdict : DecisionVerdict
deriving DecidableEq

def isLowercaseHex (c : Char) : Bool := c.isDigit || (decide ('a' ≤ c) && decide (c ≤ 'f'))

/-- `HEX64` -/
def isHex64 (value : String) : Bool :=
  decide (value.toList.length = 64) && value.toList.all isLowercaseHex

/-- `SHA256` -/
def isSha256 (value : String) : Bool :=
  value.toList.take 7 == "sha256:".toList && decide ((value.toList.drop 7).length = 64) &&
    (value.toList.drop 7).all isLowercaseHex

def isBootstrapRequestId (value : String) : Bool :=
  value != "" && decide ((codeUnits value).length ≤ 512) && trim value == value

/-- `sha256:` in front of a binding digest. -/
def subjectOf (bindingDigest : String) : String := "sha256:" ++ bindingDigest

def readCode (field : Option SettlementField) : Option NotCommittedCode := do
  let code ← SettlementField.text? field
  [NotCommittedCode.noBootstrapEvidence, .anchoredByOtherDecisions].find? fun c => c.text = code

def readBinding (value : OrderedMap String SettlementField) (evidence : DecisionEvidence) :
    Option String := do
  let bindingDigest ← SettlementField.text? (value.get "bindingDigest")
  guard (isHex64 bindingDigest ∧ evidence.subjectDigest = subjectOf bindingDigest)
  some bindingDigest

def readCommitted (value : OrderedMap String SettlementField) (evidence : DecisionEvidence) :
    Option BootstrapCommitted := do
  let bindingDigest ← readBinding value evidence
  let counterpartCommitment ← SettlementField.text? (value.get "counterpartCommitment")
  let bootstrapRequestId ← SettlementField.text? (value.get "bootstrapRequestId")
  let bootstrapEvidenceDigest ← SettlementField.text? (value.get "bootstrapEvidenceDigest")
  let historyRevision ← SettlementField.number? (value.get "historyRevision")
  let statusSequence ← SettlementField.number? (value.get "statusSequence")
  let statusDigest ← SettlementField.text? (value.get "statusDigest")
  guard (isSha256 counterpartCommitment ∧ counterpartCommitment ≠ evidence.challengeCommitment)
  guard (isBootstrapRequestId bootstrapRequestId)
  guard (isSha256 bootstrapEvidenceDigest)
  guard (isSafeInteger historyRevision ∧ 1 ≤ historyRevision)
  guard (isSafeInteger statusSequence ∧ 0 ≤ statusSequence)
  guard (isHex64 statusDigest)
  some ⟨bindingDigest,counterpartCommitment,bootstrapRequestId,bootstrapEvidenceDigest,
    historyRevision,statusSequence,statusDigest⟩

/-- A settlement read exactly, and only when it names the decision's own binding. -/
def settlementOf (value : SettlementValue) (evidence : DecisionEvidence) :
    Option BootstrapAuthoritySettlement := do
  let value ← value
  let outcome ← SettlementField.text? (value.get "outcome")
  if outcome = "bootstrap-committed" then
    guard (sortStrings value.keys = committedKeys)
    some (.committed (← readCommitted value evidence))
  else if outcome = "bootstrap-not-committed" then
    guard (sortStrings value.keys = notCommittedKeys)
    some (.notCommitted (← readBinding value evidence) (← readCode (value.get "code")))
  else none

inductive HumanDecisionOutcome where
  | recorded (verdictRowDigest : String)
  | refused (code : String)
  | abandoned
deriving DecidableEq

/-- A consumed decision is of exactly one domain. -/
inductive DecisionState where
  | core05 (evidence : DecisionEvidence) (outcome : Option HumanDecisionOutcome)
  | bootstrapAuthority (evidence : DecisionEvidence)
      (settlement : Option BootstrapAuthoritySettlement)
deriving DecidableEq

def DecisionState.evidence : DecisionState → DecisionEvidence
  | .core05 evidence _ => evidence
  | .bootstrapAuthority evidence _ => evidence

def DecisionState.isSettled : DecisionState → Bool
  | .core05 _ outcome => outcome.isSome
  | .bootstrapAuthority _ settlement => settlement.isSome

/-- `EVIDENCE_FORMAT`: the domain a decision row's evidence is of. -/
inductive DecisionDomain where
  | core05 | bootstrapAuthority
deriving DecidableEq

def DecisionDomain.consumed (evidence : DecisionEvidence) : DecisionDomain → DecisionState
  | .core05 => .core05 evidence none
  | .bootstrapAuthority => .bootstrapAuthority evidence none

/-- The rows of a history that are about decisions, with their payloads read. -/
inductive DecisionRow where
  | decisionAuthorized (operatorId objectId : String) (domain : DecisionDomain)
      (evidence : DecisionEvidence)
  | decisionOutcome (operatorId objectId : String) (payload : OrderedMap String SettlementField)

inductive HumanIdentityErrorCode where
  | storeCorrupt | challengeInvalid | settlementConflict | settlementUnauthorized
  | enrollmentPending
deriving DecidableEq

structure HumanIdentityError where
  code : HumanIdentityErrorCode
  message : String
deriving DecidableEq

abbrev Decisions := OrderedMap String DecisionState

def corrupt {α : Type} (message : String) : Except HumanIdentityError α :=
  .error ⟨.storeCorrupt,message⟩

def readOutcome (payload : OrderedMap String SettlementField) : Option HumanDecisionOutcome := do
  let outcome ← SettlementField.text? (payload.get "outcome")
  if outcome = "recorded" then
    some (.recorded (← SettlementField.text? (payload.get "verdictRowDigest")))
  else if outcome = "refused" then
    some (.refused (← SettlementField.text? (payload.get "code")))
  else if outcome = "abandoned" then some .abandoned
  else none

/-- The case of one row in `project`. -/
def projectRow (decisions : Decisions) : DecisionRow → Except HumanIdentityError Decisions
  | .decisionAuthorized operatorId commitment domain evidence =>
      if (decisions.get commitment).isSome ∨ evidence.challengeCommitment ≠ commitment ∨
          evidence.operatorId ≠ operatorId then
        corrupt "A decision is inconsistent with the history."
      else .ok (decisions.set commitment (domain.consumed evidence))
  | .decisionOutcome _ commitment payload =>
      match decisions.get commitment with
      | none => corrupt "A decision outcome names an unknown decision."
      | some (.bootstrapAuthority _ (some _)) => corrupt "A decision has two outcomes."
      | some (.bootstrapAuthority evidence none) =>
          match settlementOf (some payload) evidence with
          | none =>
              corrupt "A bootstrap-authority settlement is malformed or names another binding."
          | some settlement =>
              .ok (decisions.set commitment (.bootstrapAuthority evidence (some settlement)))
      | some (.core05 _ (some _)) => corrupt "A decision has two outcomes."
      | some (.core05 evidence none) =>
          match readOutcome payload with
          | none => corrupt "A decision outcome is of an unknown kind."
          | some outcome => .ok (decisions.set commitment (.core05 evidence (some outcome)))

def project (rows : List DecisionRow) : Except HumanIdentityError Decisions :=
  rows.foldlM projectRow OrderedMap.empty

/-- The decision a settlement is for, with the settlement as it was read. -/
structure CheckedSettlement where
  evidence : DecisionEvidence
  prior : Option BootstrapAuthoritySettlement
  read : BootstrapAuthoritySettlement
deriving DecidableEq

def conflict {α : Type} (message : String) : Except HumanIdentityError α :=
  .error ⟨.settlementConflict,message⟩

/-- A counterpart's settlement is the other half of this one. -/
def Reciprocates (commitment : String) (ours : BootstrapCommitted) : BootstrapAuthoritySettlement → Prop
  | .committed theirs =>
      theirs.counterpartCommitment = commitment ∧
        theirs.bootstrapEvidenceDigest = ours.bootstrapEvidenceDigest ∧
        theirs.bootstrapRequestId = ours.bootstrapRequestId
  | .notCommitted _ _ => False

instance (commitment : String) (ours : BootstrapCommitted) :
    (theirs : BootstrapAuthoritySettlement) → Decidable (Reciprocates commitment ours theirs)
  | .committed _ => inferInstanceAs (Decidable (_ ∧ _))
  | .notCommitted _ _ => inferInstanceAs (Decidable False)

/-- A committed counterpart already names the decision. -/
def DecisionState.names (commitment : String) : DecisionState → Bool
  | .bootstrapAuthority _ (some (.committed theirs)) => theirs.counterpartCommitment == commitment
  | _ => false

def checkCounterpart (current : Decisions) (commitment : String) (evidence : DecisionEvidence) :
    BootstrapAuthoritySettlement → Except HumanIdentityError Unit
  | .committed ours =>
      match current.get ours.counterpartCommitment with
      | some (.bootstrapAuthority other settlement) =>
          if other.subjectDigest ≠ evidence.subjectDigest ∨ other.verdict = evidence.verdict ∨
              other.operatorId = evidence.operatorId then
            conflict "The counterpart is not the other role of the same bootstrap, by another human."
          else if ∃ theirs ∈ settlement, ¬ Reciprocates commitment ours theirs then
            conflict "The settlement contradicts the counterpart's."
          else .ok ()
      | _ => conflict "The settlement names no consumed counterpart decision."
  | .notCommitted _ _ =>
      if ∃ entry ∈ current.entries, entry.1 ≠ commitment ∧ entry.2.names commitment then
        conflict "The settlement contradicts the counterpart's."
      else .ok ()

def checkSettlement (current : Decisions) (commitment : String) (settlement : SettlementValue) :
    Except HumanIdentityError CheckedSettlement :=
  match current.get commitment with
  | some (.bootstrapAuthority evidence prior) =>
      match settlementOf settlement evidence with
      | none => conflict "The settlement is malformed or names another binding than the decision."
      | some read => do
          checkCounterpart current commitment evidence read
          if ∃ theirs ∈ prior, theirs.canonical ≠ read.canonical then
            conflict "A different settlement is already recorded for that decision."
          else .ok ⟨evidence,prior,read⟩
  | _ =>
      .error ⟨.challengeInvalid,
        "No consumed bootstrap-authority decision exists for that commitment."⟩

/-- A call between its check and its append. -/
structure PendingSettlement where
  (commitment operatorId : String)
  read : BootstrapAuthoritySettlement

structure SettlementSystem where
  history : List DecisionRow
  calls : List PendingSettlement

inductive SettlementEvent where
  /-- Another operation of the service appends a row: a consumed decision of either domain, or the
  outcome of a decision of the other domain. -/
  | other (row : DecisionRow)
  /-- A call of `recordBootstrapAuthoritySettlement`, up to its append; whether the capability is
  this instance's live one. -/
  | record (capable : Bool) (commitment : String) (settlement : SettlementValue)
  /-- A waiting call's append; whether an operator enrolment is unfinished. -/
  | append (index : Nat) (unfinished : Bool)

inductive SettlementReply where
  | none | waiting | recorded | unchanged
  | refused (error : HumanIdentityError)
deriving DecidableEq

/-- The row settles a bootstrap-authority decision. -/
def DecisionRow.isSettlementIn (decisions : Decisions) : DecisionRow → Bool
  | .decisionAuthorized _ _ _ _ => false
  | .decisionOutcome _ commitment _ =>
      match decisions.get commitment with
      | some (.bootstrapAuthority _ _) => true
      | _ => false

def SettlementSystem.appendOther (s : SettlementSystem) (row : DecisionRow) : SettlementSystem :=
  match project s.history with
  | .error _ => s
  | .ok decisions =>
      if row.isSettlementIn decisions then s
      else
        match projectRow decisions row with
        | .error _ => s
        | .ok _ => { s with history := s.history ++ [row] }

def SettlementSystem.check (s : SettlementSystem) (commitment : String)
    (settlement : SettlementValue) : Except HumanIdentityError CheckedSettlement := do
  checkSettlement (← project s.history) commitment settlement

def SettlementSystem.record (s : SettlementSystem) (capable : Bool) (commitment : String)
    (settlement : SettlementValue) : SettlementReply × SettlementSystem :=
  if !capable then
    (.refused ⟨.settlementUnauthorized,
      "Recording a bootstrap settlement needs this service’s own live settlement capability."⟩, s)
  else
    match s.check commitment settlement with
    | .error error => (.refused error, s)
    | .ok checked =>
        if checked.prior.isSome then (.unchanged, s)
        else
          (.waiting, { s with calls := s.calls ++ [⟨commitment,checked.evidence.operatorId,checked.read⟩] })

def SettlementSystem.append (s : SettlementSystem) (index : Nat) (unfinished : Bool) :
    SettlementReply × SettlementSystem :=
  match s.calls[index]? with
  | none => (.none, s)
  | some call =>
      let left : SettlementSystem := { s with calls := s.calls.eraseIdx index }
      if unfinished then
        (.refused ⟨.enrollmentPending,
          "An FV operator enrolment is unfinished on this store: resume it before anything else is written."⟩,
          left)
      else
        match s.check call.commitment (some call.read.value) with
        | .error error => (.refused error, left)
        | .ok checked =>
            if checked.prior.isSome then (.unchanged, left)
            else
              (.recorded, { left with history := s.history ++
                    [.decisionOutcome call.operatorId call.commitment call.read.value] })

def SettlementSystem.step (s : SettlementSystem) : SettlementEvent → SettlementReply × SettlementSystem
  | .other row => (.none, s.appendOther row)
  | .record capable commitment settlement => s.record capable commitment settlement
  | .append index unfinished => s.append index unfinished

def SettlementSystem.next (s : SettlementSystem) (event : SettlementEvent) : SettlementSystem :=
  (s.step event).2

def SettlementSystem.start : SettlementSystem := ⟨[],[]⟩

end Frontera.HumanIdentity
