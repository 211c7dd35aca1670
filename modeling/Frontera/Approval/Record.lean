import Frontera.Platform
import Frontera.Text.Json

/-! The facts an approval log records, and the text each row and each head of the log is hashed
over. -/

namespace Frontera.Approval

open Frontera.Text

inductive ApprovalRecordKind where
  | requested | approved | rejected | requestedChanges | escalated | revoked
deriving DecidableEq

def ApprovalRecordKind.text : ApprovalRecordKind → String
  | .requested => "requested"
  | .approved => "approved"
  | .rejected => "rejected"
  | .requestedChanges => "requested_changes"
  | .escalated => "escalated"
  | .revoked => "revoked"

structure ApprovalRowContent where
  (organizationId requestId decisionId subjectDigest : String)
  kind : ApprovalRecordKind
  /-- `requested` only: the canonical subject text. -/
  subject : Option String := none
  /-- Every kind but `requested`: who gave the verdict or revoked. -/
  actorId : Option String := none
  evidence : Option String := none
  reason : Option String := none
  (recordedBy recordedAt : String)

/-- A row with its position in the history and the digest that position binds. -/
structure StoredApprovalRecord extends ApprovalRowContent where
  sequence : Int
  digest : String

/-- `APPROVAL_CHAIN_FORMAT` -/
def approvalChainFormat : String := "frontera.approval-chain.v1"

/-- A field that is written only when it is there. -/
def optionalField (name : String) : Option String → List String
  | none => []
  | some value => [name ++ stringify value]

def approvalRowFields (storeId : String) (sequence : Int) (row : ApprovalRowContent) : List String :=
  optionalField "\"actorId\":" row.actorId ++ ["\"decisionId\":" ++ stringify row.decisionId] ++
  optionalField "\"evidence\":" row.evidence ++ ["\"format\":" ++ stringify approvalChainFormat,
    "\"kind\":" ++ stringify row.kind.text,
    "\"organizationId\":" ++ stringify row.organizationId] ++
  optionalField "\"reason\":" row.reason ++ ["\"recordedAt\":" ++ stringify row.recordedAt,
    "\"recordedBy\":" ++ stringify row.recordedBy,
    "\"requestId\":" ++ stringify row.requestId,
    "\"sequence\":" ++ toString sequence,
    "\"storeId\":" ++ stringify storeId] ++
  optionalField "\"subject\":" row.subject ++ ["\"subjectDigest\":" ++ stringify row.subjectDigest]

/-- The canonical text of one row; `none` is a `RangeError`. -/
def serializeApprovalRow (storeId : String) (sequence : Int) (row : ApprovalRowContent) : Option String :=
  if !isSafeInteger sequence || sequence < 1 then none
  else some ("\x7b" ++ join "," (approvalRowFields storeId sequence row) ++ "\x7d")

def approvalRowDigest (P : Platform) (storeId : String) (sequence : Int)
    (row : ApprovalRowContent) : Option String :=
  (serializeApprovalRow storeId sequence row).map P.digestOf

end Frontera.Approval
