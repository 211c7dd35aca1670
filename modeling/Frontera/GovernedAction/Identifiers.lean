import Frontera.Payment.RefundLedger

/-! Every identity of the governed-action path is derived on the server: a tag and the first 32
hexadecimal digits of the SHA-256 of a JSON array of texts. -/

namespace Frontera.GovernedAction

open Frontera.Text

/-- The host, with the hash that identifiers are cut from. -/
structure Host extends Platform where
  /-- `createHash('sha256').update(text).digest('hex').slice(0, 32)` -/
  shortHash : String → String

variable (H : Host)

/-- `JSON.stringify` of an array of texts. -/
def textArray (parts : List String) : String := Json.stringify (.arr (parts.map .str))

/-- `digest` of the identifiers. -/
def identifierDigest (parts : List String) : String := H.shortHash (textArray parts)

def referenceIdOf (parts : List String) : String := "aoc.gar.ref:" ++ identifierDigest H parts

def executionAttemptReferenceId (executionId : String) : String :=
  referenceIdOf H ["aoc.governed-action.execution-attempt-ref.v1", executionId]

def executionOutcomeReferenceId (executionId : String) : String :=
  referenceIdOf H ["aoc.governed-action.execution-outcome-ref.v1", executionId]

variable {H}

end Frontera.GovernedAction
