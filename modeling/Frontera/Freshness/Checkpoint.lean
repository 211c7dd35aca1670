import Frontera.Platform

/-! The slot, head and checkpoint of `checkpoint.ts`: what an external witness holds of a store's
signed head, and which slots and checkpoints are well formed. -/

namespace Frontera.Freshness

inductive AuthorityStateKind where
  | boundedGrantRevocationState | obligationDischargeState | approvalState
  | tradeSequenceReservations | xrplSubmissionReservations | paymentBusinessOperationState
  | paymentRefundState | paymentInitiationReservations | humanIdentityState
  | fvBootstrapIdentityState
deriving DecidableEq

def humanIdentityStateKinds : List AuthorityStateKind :=
  [.humanIdentityState, .fvBootstrapIdentityState]

def isHumanIdentityStateKind (kind : AuthorityStateKind) : Bool := kind ∈ humanIdentityStateKinds

def namespacedAuthorityStateKinds : List AuthorityStateKind := [.paymentInitiationReservations]

def isNamespacedAuthorityStateKind (kind : AuthorityStateKind) : Bool :=
  kind ∈ namespacedAuthorityStateKinds

/-- The witness slot. -/
structure AuthorityStateBinding where
  stateKind : AuthorityStateKind
  organizationId : String
  «namespace» : Option String
deriving DecidableEq

/-- A position in one store's history. -/
structure AuthorityStateHead where
  sequence : Int
  stateDigest : String
deriving DecidableEq

structure AuthorityStateCheckpoint where
  binding : AuthorityStateBinding
  storeId : String
  head : AuthorityStateHead
deriving DecidableEq

def AuthorityStateCheckpoint.sequence (checkpoint : AuthorityStateCheckpoint) : Int :=
  checkpoint.head.sequence

def authorityStateNamespaceMax : Nat := 64

def identifierMax : Nat := 512

def isLowercaseAscii (c : Char) : Bool := decide ('a' ≤ c) && decide (c ≤ 'z')

def isDecimalAscii (c : Char) : Bool := decide ('0' ≤ c) && decide (c ≤ '9')

/-- `[a-z][a-z0-9]*(?:-[a-z0-9]+)*` from inside a word: whether the last character may be
followed by a hyphen, or by the end. -/
def isNamespaceRest : Bool → List Char → Bool
  | ended, [] => ended
  | ended, c :: cs =>
      if isLowercaseAscii c || isDecimalAscii c then isNamespaceRest true cs
      else ended && c == '-' && isNamespaceRest false cs

/-- `NAMESPACE`, within its length. -/
def isAuthorityStateNamespace (value : String) : Bool :=
  decide ((codeUnits value).length ≤ authorityStateNamespaceMax) &&
    match value.toList with
    | [] => false
    | c :: cs => isLowercaseAscii c && isNamespaceRest true cs

def isBoundedIdentifier (value : String) : Bool :=
  value != "" && decide ((codeUnits value).length ≤ identifierMax) && trim value == value &&
    !value.toList.any fun c => decide (c.toNat ≤ 0x1f)

def isLowercaseHexadecimal (c : Char) : Bool :=
  isDecimalAscii c || (decide ('a' ≤ c) && decide (c ≤ 'f'))

/-- `sha256:` and 64 hexadecimal digits. -/
def isStateDigest (value : String) : Bool :=
  value.toList.take 7 == "sha256:".toList && decide ((value.toList.drop 7).length = 64) &&
    (value.toList.drop 7).all isLowercaseHexadecimal

def isStateSequence (sequence : Int) : Bool := isSafeInteger sequence && decide (0 ≤ sequence)

/-- Why the namespace does not fit its kind. -/
def authorityStateNamespaceProblem (binding : AuthorityStateBinding) : Option String :=
  if isNamespacedAuthorityStateKind binding.stateKind then
    match binding.namespace with
    | none => some "names a namespaced state kind without its namespace"
    | some value =>
        if isAuthorityStateNamespace value then none
        else some "names a namespace that is not a bounded canonical token"
  else if binding.namespace.isSome then some "names a namespace for a state kind that has none"
  else none

def authorityStateBindingProblem (binding : AuthorityStateBinding) : Option String :=
  if !isBoundedIdentifier binding.organizationId then some "names no well-formed organization"
  else authorityStateNamespaceProblem binding

def authorityStateCheckpointProblem (checkpoint : AuthorityStateCheckpoint) : Option String :=
  match authorityStateBindingProblem checkpoint.binding with
  | some problem => some problem
  | none =>
      if !isBoundedIdentifier checkpoint.storeId then some "names no well-formed store"
      else if !isStateSequence checkpoint.sequence then
        some "carries a sequence that is not a non-negative safe integer"
      else if !isStateDigest checkpoint.head.stateDigest then
        some "carries a state digest that is not sha256:<64 hex>"
      else none

end Frontera.Freshness
