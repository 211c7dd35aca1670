import Frontera.Platform
import Frontera.Text.JsonValue

/-! The rows of a human identity store, the digest each one commits to, and the recomputation of a
history against its committed head. -/

namespace Frontera.HumanIdentity

open Frontera.Text

inductive HumanIdentityRecordKind where
  | principalCreated | principalRevoked | enrolmentAuthorized | enrolmentRevoked
  | credentialRegistered | credentialUsed | credentialCounterAnomaly | credentialRevoked
  | decisionAuthorized | decisionOutcome
deriving DecidableEq

def HumanIdentityRecordKind.text : HumanIdentityRecordKind → String
  | .principalCreated => "principal_created"
  | .principalRevoked => "principal_revoked"
  | .enrolmentAuthorized => "enrolment_authorized"
  | .enrolmentRevoked => "enrolment_revoked"
  | .credentialRegistered => "credential_registered"
  | .credentialUsed => "credential_used"
  | .credentialCounterAnomaly => "credential_counter_anomaly"
  | .credentialRevoked => "credential_revoked"
  | .decisionAuthorized => "decision_authorized"
  | .decisionOutcome => "decision_outcome"

structure HumanIdentityStateCommitment where
  (storeId organizationId : String)
  sequence : Nat
  chainDigest : String

/-- What a row commits to. -/
structure HumanIdentityRowContent where
  organizationId : String
  kind : HumanIdentityRecordKind
  operatorId : String
  objectId : Option String
  (payload recordedBy recordedAt : String)

structure StoredHumanIdentityRow extends HumanIdentityRowContent where
  sequence : Nat
  digest : String

/-- `HUMAN_IDENTITY_CHAIN_FORMAT` -/
def humanIdentityChainFormat : String := "frontera.human-identity-chain.v1"

/-- Keys sorted, no whitespace. -/
def canonicalJson (value : Json String) : String :=
  Json.canonicalSerialize (fun a b => !stringLt b a) value

def serializeHumanIdentityRow (storeId : String) (sequence : Nat) (row : HumanIdentityRowContent) :
    String :=
  canonicalJson (.obj [
    ("format", .str humanIdentityChainFormat), ("storeId", .str storeId),
    ("sequence", .num sequence), ("organizationId", .str row.organizationId),
    ("kind", .str row.kind.text), ("operatorId", .str row.operatorId), ("objectId", match row.objectId with
      | some objectId => .str objectId
      | none => .null),
    ("payload", .str row.payload), ("recordedBy", .str row.recordedBy),
    ("recordedAt", .str row.recordedAt)])

def humanIdentityRowDigest (P : Platform) (storeId : String) (sequence : Nat)
    (row : HumanIdentityRowContent) : String :=
  P.digestOf (serializeHumanIdentityRow storeId sequence row)

def humanIdentityGenesisDigest (P : Platform) (storeId organizationId : String) : String :=
  P.digestOf (humanIdentityChainFormat ++ "\ngenesis\n" ++
    canonicalJson (.obj [("organizationId", .str organizationId), ("storeId", .str storeId)]))

def nextHumanIdentityChainDigest (P : Platform) (previous rowDigest : String) : String :=
  P.digestOf (humanIdentityChainFormat ++ "\nlink\n" ++
    canonicalJson (.obj [("previous", .str previous), ("row", .str rowDigest)]))

/-- Why a read is refused. -/
inductive HistoryRefusal where
  | inauthentic | length | contiguity | organization | rowDigest | chain | regressed | forked

/-- The chain after the rows that follow this position. -/
def verifyRows (P : Platform) (state : HumanIdentityStateCommitment) :
    Nat → String → List StoredHumanIdentityRow → Except HistoryRefusal String
  | _, chain, [] => .ok chain
  | index, chain, row :: rows =>
      if row.sequence ≠ index + 1 then .error .contiguity
      else if row.organizationId ≠ state.organizationId then .error .organization
      else if row.digest ≠ humanIdentityRowDigest P state.storeId row.sequence
          row.toHumanIdentityRowContent then .error .rowDigest
      else verifyRows P state (index + 1) (nextHumanIdentityChainDigest P chain row.digest) rows

def verifyHumanIdentityHistory (P : Platform) (rows : List StoredHumanIdentityRow)
    (state : HumanIdentityStateCommitment) : Except HistoryRefusal Unit :=
  if isSafeInteger state.sequence = false ∨ rows.length ≠ state.sequence then .error .length
  else
    match verifyRows P state 0 (humanIdentityGenesisDigest P state.storeId state.organizationId)
        rows with
    | .error refusal => .error refusal
    | .ok chain => if chain ≠ state.chainDigest then .error .chain else .ok ()

/-- The row an append plans on a state. -/
def plannedRow (P : Platform) (state : HumanIdentityStateCommitment)
    (content : HumanIdentityRowContent) : StoredHumanIdentityRow where
  toHumanIdentityRowContent := content
  sequence := state.sequence + 1
  digest := humanIdentityRowDigest P state.storeId (state.sequence + 1) content

/-- The state an append plans to commit. -/
def plannedState (P : Platform) (state : HumanIdentityStateCommitment)
    (content : HumanIdentityRowContent) : HumanIdentityStateCommitment :=
  { state with
    sequence := state.sequence + 1
    chainDigest := nextHumanIdentityChainDigest P state.chainDigest
      (plannedRow P state content).digest }

variable {P : Platform} {state : HumanIdentityStateCommitment}

theorem verifyRows_congr (state : HumanIdentityStateCommitment) {other : HumanIdentityStateCommitment}
    (hstore : other.storeId = state.storeId)
    (horganization : other.organizationId = state.organizationId) (index : Nat) (chain : String)
    (rows : List StoredHumanIdentityRow) :
    verifyRows P other index chain rows = verifyRows P state index chain rows := by
  induction rows generalizing index chain with
  | nil => rfl
  | cons row rows ih =>
    unfold verifyRows
    rw [hstore,horganization,ih]

variable {rows : List StoredHumanIdentityRow}

theorem verifyRows_concat {index : Nat} {chain last : String} {row : StoredHumanIdentityRow}
    (h : verifyRows P state index chain rows = .ok last)
    (hsequence : row.sequence = index + rows.length + 1)
    (horganization : row.organizationId = state.organizationId)
    (hdigest : row.digest = humanIdentityRowDigest P state.storeId row.sequence row.toHumanIdentityRowContent) :
    verifyRows P state index chain (rows ++ [row]) =
      .ok (nextHumanIdentityChainDigest P last row.digest) := by
  induction rows generalizing index chain with
  | nil =>
    simp only [verifyRows,Except.ok.injEq] at h
    subst h
    simp only [List.length_nil,Nat.add_zero] at hsequence
    rw [List.nil_append,verifyRows,if_neg (not_not.2 hsequence),if_neg (not_not.2 horganization),
      if_neg (not_not.2 hdigest),verifyRows]
  | cons first rows ih =>
    rw [List.cons_append,verifyRows]
    rw [verifyRows] at h
    split_ifs at h ⊢
    apply ih h
    rw [hsequence,List.length_cons]
    omega

theorem verifyHumanIdentityHistory_ok : verifyHumanIdentityHistory P rows state = .ok () ↔
      isSafeInteger state.sequence = true ∧ rows.length = state.sequence ∧
        verifyRows P state 0 (humanIdentityGenesisDigest P state.storeId state.organizationId)
          rows = .ok state.chainDigest := by
  unfold verifyHumanIdentityHistory
  split_ifs with hlength
  · constructor
    · intro h
      cases h
    · rintro ⟨hsafe,hrows,-⟩
      rcases hlength with hunsafe | hne
      · rw [hsafe] at hunsafe
        cases hunsafe
      · exact absurd hrows hne
  · rw [not_or,Bool.not_eq_false,not_not] at hlength
    split
    · next refusal hrefused => simp [hrefused]
    · next chain hchain =>
      rw [hchain,Except.ok.injEq]
      split_ifs with hne
      · simp [hne]
      · exact ⟨fun _ => ⟨hlength.1,hlength.2,not_not.1 hne⟩,fun _ => rfl⟩

theorem verifyHumanIdentityHistory_planned {content : HumanIdentityRowContent}
    (h : verifyHumanIdentityHistory P rows state = .ok ())
    (horganization : content.organizationId = state.organizationId)
    (hsafe : isSafeInteger (state.sequence + 1 : Nat) = true) :
    verifyHumanIdentityHistory P (rows ++ [plannedRow P state content])
      (plannedState P state content) = .ok () := by
  obtain ⟨-,hlength,hrows⟩ := verifyHumanIdentityHistory_ok.1 h
  apply verifyHumanIdentityHistory_ok.2
  refine ⟨hsafe,by simp [hlength,plannedState],?_⟩
  have hstore : (plannedState P state content).storeId = state.storeId := rfl
  have hname : (plannedState P state content).organizationId = state.organizationId := rfl
  rw [verifyRows_congr state hstore hname]
  apply verifyRows_concat hrows
  · simp [plannedRow,hlength]
  · exact horganization
  · rfl

end Frontera.HumanIdentity
