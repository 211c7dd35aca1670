import Frontera.Data.Sorting
import Frontera.Payment.RefundLedger
import Frontera.Text.CanonicalFields

/-! The append-only hash chain over the reference rows of one evaluation: how a row is sealed, and
how the rows that are read back are verified against the stored head of their chain. -/

namespace Frontera.GovernanceStore

open Frontera.Data Frontera.Text
open Frontera.Payment (computeDigest isWellFormedDigest keyLe)

/-- A number in the `sequence` of a row. -/
inductive SequenceNumber where
  | integer (n : Int)
  | fraction
deriving DecidableEq

structure GovernanceReferenceRecord where
  (referenceId evaluationId referenceType externalId : String)
  (externalVersion digest uri : Option String)
  createdAt : String
  sequence : Option SequenceNumber
  (integrityVersion previousReferenceDigest referenceDigest : Option String)

structure GovernanceReferenceInput where
  (referenceId evaluationId referenceType externalId : String)
  (externalVersion digest uri : Option String)
  createdAt : String

structure GovernanceReferenceChainState where
  (evaluationId integrityVersion : String)
  latestSequence : Int
  (latestReferenceDigest updatedAt : String)

def governanceReferenceIntegrityVersion : String := "aoc.governance-reference-integrity.v1"

structure GovernanceReferenceDigestInput where
  (referenceId evaluationId : String)
  organizationId : Option String
  sequence : Int
  (referenceType externalId : String)
  (externalVersion digest uri : Option String)
  (createdAt integrityVersion : String)
  previousReferenceDigest : Option String

/-- `value ?? null` -/
def orNull : Option String → Json String
  | none => .null
  | some value => .str value

def referenceDigestFields (input : GovernanceReferenceDigestInput) : List (String × Json String) :=
  [("referenceId", .str input.referenceId), ("evaluationId", .str input.evaluationId),
    ("organizationId", orNull input.organizationId), ("sequence", .num input.sequence),
    ("referenceType", .str input.referenceType), ("externalId", .str input.externalId),
    ("externalVersion", orNull input.externalVersion), ("digest", orNull input.digest),
    ("uri", orNull input.uri), ("createdAt", .str input.createdAt),
    ("integrityVersion", .str input.integrityVersion),
    ("previousReferenceDigest", orNull input.previousReferenceDigest)]

def referenceDigestInput (input : GovernanceReferenceDigestInput) : Json String :=
  .obj (referenceDigestFields input)

section Digests

variable (P : Platform)

def computeGovernanceReferenceDigest (input : GovernanceReferenceDigestInput) : String :=
  computeDigest P (referenceDigestInput input)

structure GovernanceReferenceSealContext where
  organizationId : Option String
  sequence : Int
  previousReferenceDigest : Option String

def sealGovernanceReference (reference : GovernanceReferenceInput)
    (context : GovernanceReferenceSealContext) : GovernanceReferenceRecord where
  referenceId := reference.referenceId
  evaluationId := reference.evaluationId
  referenceType := reference.referenceType
  externalId := reference.externalId
  externalVersion := reference.externalVersion
  digest := reference.digest
  uri := reference.uri
  createdAt := reference.createdAt
  sequence := some (.integer context.sequence)
  integrityVersion := some governanceReferenceIntegrityVersion
  previousReferenceDigest := context.previousReferenceDigest
  referenceDigest := some (computeGovernanceReferenceDigest P {
    referenceId := reference.referenceId
    evaluationId := reference.evaluationId
    organizationId := context.organizationId
    sequence := context.sequence
    referenceType := reference.referenceType
    externalId := reference.externalId
    externalVersion := reference.externalVersion
    digest := reference.digest
    uri := reference.uri
    createdAt := reference.createdAt
    integrityVersion := governanceReferenceIntegrityVersion
    previousReferenceDigest := context.previousReferenceDigest })

/-- The rows of one evaluation and the head of their chain. -/
structure ReferenceChain where
  rows : List GovernanceReferenceRecord
  head : Option GovernanceReferenceChainState

/-- The sequence of the next row. -/
def ReferenceChain.nextSequence (chain : ReferenceChain) : Int :=
  (chain.head.map (·.latestSequence)).getD 0 + 1

/-- A reference sealed behind the newest one. -/
def ReferenceChain.sealNext (chain : ReferenceChain) (organizationId : Option String)
    (reference : GovernanceReferenceInput) : GovernanceReferenceRecord :=
  sealGovernanceReference P reference {
    organizationId
    sequence := chain.nextSequence
    previousReferenceDigest := chain.head.map (·.latestReferenceDigest) }

/-- The sealed row appended, and the head advanced over it. -/
def ReferenceChain.append (chain : ReferenceChain) (organizationId : Option String)
    (reference : GovernanceReferenceInput) : ReferenceChain :=
  let row := chain.sealNext P organizationId reference
  { rows := chain.rows ++ [row]
    head := some {
      evaluationId := row.evaluationId
      integrityVersion := governanceReferenceIntegrityVersion
      latestSequence := chain.nextSequence
      latestReferenceDigest := row.referenceDigest.getD ""
      updatedAt := row.createdAt } }

/-- A row without any reference-integrity metadata. -/
def isLegacyUnprotected (reference : GovernanceReferenceRecord) : Bool :=
  reference.sequence.isNone && reference.integrityVersion.isNone &&
    reference.previousReferenceDigest.isNone && reference.referenceDigest.isNone

inductive GovernanceReferenceIntegrityStatus where
  | legacyUnprotected | protectedUnsupportedVersion | protectedCorrupted | protectedValid

/-- The stored head that a caller hands over: none, the fact that there is none, or the head. -/
inductive SuppliedChain where
  | undefined | null
  | head (chain : GovernanceReferenceChainState)

/-- The version of a row that this build cannot verify. -/
def unsupportedVersion (reference : GovernanceReferenceRecord) : Option String :=
  match reference.integrityVersion with
  | none => none
  | some version => if version = governanceReferenceIntegrityVersion then none else some version

/-- Whether a sequence is a positive integer. -/
def isPosition : Option SequenceNumber → Bool
  | some (.integer n) => decide (1 ≤ n)
  | _ => false

/-- What a protected row lacks. -/
def problems (reference : GovernanceReferenceRecord) : List String :=
  (if reference.integrityVersion.isNone then ["integrityVersion"] else []) ++
    (if isPosition reference.sequence then [] else ["sequence"]) ++ match reference.referenceDigest with
    | none => ["referenceDigest"]
    | some digest => if isWellFormedDigest digest then [] else ["referenceDigest (malformed)"]

/-- `reference.sequence ?? 0` -/
def position (reference : GovernanceReferenceRecord) : Int :=
  match reference.sequence with
  | some (.integer n) => n
  | _ => 0

/-- The digest a row should have. -/
def recomputed (organizationId : Option String) (reference : GovernanceReferenceRecord) : String :=
  computeGovernanceReferenceDigest P {
    referenceId := reference.referenceId
    evaluationId := reference.evaluationId
    organizationId
    sequence := position reference
    referenceType := reference.referenceType
    externalId := reference.externalId
    externalVersion := reference.externalVersion
    digest := reference.digest
    uri := reference.uri
    createdAt := reference.createdAt
    integrityVersion := governanceReferenceIntegrityVersion
    previousReferenceDigest := reference.previousReferenceDigest }

def aboutReference (reference : GovernanceReferenceRecord) (text : String) : String :=
  "Reference '" ++ reference.referenceId ++ "' " ++ text

/-- What is wrong with the row at `index` of the chain. -/
def linkFailures (organizationId : Option String) (index : Nat) (previous : Option String)
    (reference : GovernanceReferenceRecord) : List String :=
  (if position reference = index + 1 then []
    else [aboutReference reference ("has sequence " ++ toString (position reference) ++
      ", expected " ++ toString (index + 1) ++
      " (a protected reference was removed, reordered, or duplicated).")]) ++
  (if some (recomputed P organizationId reference) = reference.referenceDigest then []
    else [aboutReference reference
      "does not match its stored referenceDigest (reference row tampering detected)."]) ++
  (if index = 0 then
    if reference.previousReferenceDigest = none then []
    else [aboutReference reference
      "is first in this evaluation's chain but carries a previousReferenceDigest."]
  else if reference.previousReferenceDigest = previous then []
  else [aboutReference reference ("previousReferenceDigest does not match the preceding " ++
    "reference's digest (chain break detected).")])

/-- The rows of the chain from `index` on, each with what is wrong with it. -/
def checkChain (organizationId : Option String) : Nat → Option String → List GovernanceReferenceRecord →
      List (GovernanceReferenceRecord × List String)
  | _, _, [] => []
  | index, previous, reference :: rest =>
      (reference, linkFailures P organizationId index previous reference) ::
        checkChain organizationId (index + 1) reference.referenceDigest rest

/-- What the stored head shows to be missing, and the rows it marks. -/
def checkHead (ordered : List GovernanceReferenceRecord) :
    SuppliedChain → List String × List GovernanceReferenceRecord
  | .undefined => ([], [])
  | .null =>
      if ordered = [] then ([], [])
      else (["This evaluation has " ++ toString ordered.length ++
        " protected reference(s) but no stored reference chain head."], ordered)
  | .head chain =>
      if chain.integrityVersion ≠ governanceReferenceIntegrityVersion then
        (["The stored reference chain head declares version '" ++ chain.integrityVersion ++
          "', which this build cannot verify."], [])
      else
        match ordered.getLast? with
        | none =>
            (["A reference chain head records sequence " ++ toString chain.latestSequence ++
              " but no verifiable protected references remain on this evaluation."], [])
        | some last =>
            if last.sequence ≠ some (.integer chain.latestSequence) ∨
                last.referenceDigest ≠ some chain.latestReferenceDigest then
              (["The stored reference chain head (sequence " ++ toString chain.latestSequence ++
                ") does not match the newest protected reference (sequence " ++
                toString (position last) ++ "); references were removed or replaced."], [last])
            else ([], [])

structure GovernanceReferenceIntegrityResult where
  statuses : OrderedMap String GovernanceReferenceIntegrityStatus
  failures : List String

def GovernanceReferenceIntegrityResult.valid (result : GovernanceReferenceIntegrityResult) : Bool :=
  result.failures.isEmpty

/-- The rows that claim protection under a version this build knows, with all their metadata. -/
def completeRows (references : List GovernanceReferenceRecord) : List GovernanceReferenceRecord :=
  references.filter fun r =>
    !isLegacyUnprotected r && (unsupportedVersion r).isNone && (problems r).isEmpty

/-- `(a.sequence ?? 0) - (b.sequence ?? 0)` -/
def positionLe (left right : GovernanceReferenceRecord) : Prop := position left ≤ position right

instance : DecidableRel positionLe := fun left right =>
  inferInstanceAs (Decidable (position left ≤ position right))

def orderedRows (references : List GovernanceReferenceRecord) : List GovernanceReferenceRecord :=
  (completeRows references).insertionSort positionLe

def verifyGovernanceReferenceIntegrity (references : List GovernanceReferenceRecord)
    (organizationId : Option String) (chain : SuppliedChain) :
    GovernanceReferenceIntegrityResult :=
  let legacy := references.filter isLegacyUnprotected
  let claimed := references.filter fun r => !isLegacyUnprotected r
  let unsupported := claimed.filter fun r => (unsupportedVersion r).isSome
  let verifiable := claimed.filter fun r => (unsupportedVersion r).isNone
  let incomplete := verifiable.filter fun r => !(problems r).isEmpty
  let ordered := orderedRows references
  let links := checkChain P organizationId 0 none ordered
  let head := checkHead ordered chain
  let mark (status : GovernanceReferenceIntegrityStatus) (rows : List GovernanceReferenceRecord) :=
    rows.map fun r => (r.referenceId, status)
  let marks :=
    mark .legacyUnprotected legacy ++ mark .protectedUnsupportedVersion unsupported ++
      mark .protectedCorrupted incomplete ++ (links.map fun link => (link.1.referenceId,
        if link.2.isEmpty then .protectedValid else .protectedCorrupted)) ++
      mark .protectedCorrupted head.2
  { statuses := marks.foldl (fun statuses m => statuses.set m.1 m.2) OrderedMap.empty
    failures :=
      (unsupported.map fun r => aboutReference r ("declares reference-integrity version '" ++
        (unsupportedVersion r).getD "" ++ "', which this build cannot verify.")) ++
      (incomplete.map fun r => aboutReference r ("claims reference-integrity protection but has " ++
        "invalid or missing " ++ join ", " (problems r) ++ ".")) ++
      links.flatMap Prod.snd ++ head.1 }

end Digests

end Frontera.GovernanceStore
