import Mathlib
import Frontera.Data.Throwing
import Frontera.Freshness.Protocol

/-! A well-formed request is what its body is parsed to. A receipt's canonical text is the JSON text
of one value, and the parser gives the receipt back from that value, so what is signed determines
the receipt. What a client accepts names the operation, the challenge and the slot it asked about.
-/

namespace Frontera.Freshness

open Frontera.Text List Option Json

variable {value : Json String} {binding : AuthorityStateBinding} {message : WitnessMessage}
  {head : AuthorityStateHead} {state : WitnessBindingState} {operations : List String}
  {operation : WitnessOperation} {outcome : WitnessReceiptOutcome} {receipt : WitnessReceipt}
  {pinned : PinnedWitness} {request : WitnessMessage} {answer : Json String}

theorem bindingFields_of_get (hkind : value.get "stateKind" = some (.str binding.stateKind.name))
    (horganization : value.get "organizationId" = some (.str binding.organizationId))
    (hnamespace : value.get "namespace" = binding.namespace.map .str)
    (h : (authorityStateBindingProblem binding).isNone = true) :
    bindingFields value = some binding := by
  obtain ⟨stateKind,organizationId,value'⟩ := binding
  have hproblem := isNone_iff_eq_none.1 h
  cases value' with
  | none => simp_all [bindingFields,stringField,namespaceField]
  | some «namespace» => simp_all [bindingFields,stringField,namespaceField]

theorem bindingFields_wellFormed (h : bindingFields value = some binding) :
    (authorityStateBindingProblem binding).isNone = true := by
  simp only [bindingFields,bind_eq_bind,bind_eq_some_iff] at h
  obtain ⟨stateKind,-,organizationId,-,«namespace»,-,h⟩ := h
  split at h
  · cases h
  · rename_i hproblem
    cases h
    simpa using hproblem

theorem parseBinding_body (h : (authorityStateBindingProblem binding).isNone = true) :
    parseBinding (.obj (bindingBody binding)) = some binding := by
  have hfields : bindingFields (.obj (bindingBody binding)) = some binding := by
    apply bindingFields_of_get _ _ _ h
    · rfl
    · rfl
    · cases hcase : binding.namespace <;> simp [bindingBody,hcase,Json.get,Json.lookup]
  have hkeys : hasExactKeys (.obj (bindingBody binding)) ["stateKind", "organizationId"] ||
      hasExactKeys (.obj (bindingBody binding)) ["stateKind", "organizationId", "namespace"] := by
    cases hcase : binding.namespace <;> simp [hasExactKeys,bindingBody,hcase,Json.lookup]
  rw [parseBinding,if_pos hkeys,hfields]

theorem parseBinding_wellFormed (h : parseBinding value = some binding) :
    (authorityStateBindingProblem binding).isNone = true := by
  rw [parseBinding] at h
  split at h
  · exact bindingFields_wellFormed h
  · cases h

theorem checkpointProblem_isNone (checkpoint : AuthorityStateCheckpoint) :
    (authorityStateCheckpointProblem checkpoint).isNone = true ↔
      (authorityStateBindingProblem checkpoint.binding).isNone = true ∧
        isBoundedIdentifier checkpoint.storeId = true ∧ isStateSequence checkpoint.head.sequence = true ∧
        isStateDigest checkpoint.head.stateDigest = true := by
  unfold authorityStateCheckpointProblem
  cases hbinding : authorityStateBindingProblem checkpoint.binding with
  | some problem => simp
  | none =>
    cases hstore : isBoundedIdentifier checkpoint.storeId
    · simp
    · cases hsequence : isStateSequence checkpoint.head.sequence
      · simp [AuthorityStateCheckpoint.sequence,hsequence]
      · cases hdigest : isStateDigest checkpoint.head.stateDigest <;>
          simp [AuthorityStateCheckpoint.sequence,hsequence]

theorem parseCheckpoint_body {checkpoint : AuthorityStateCheckpoint}
    (h : (authorityStateCheckpointProblem checkpoint).isNone = true) :
    parseCheckpoint (.obj (checkpointBody checkpoint)) = some checkpoint := by
  obtain ⟨binding,storeId,sequence,stateDigest⟩ := checkpoint
  obtain ⟨hbinding,hstore,hsequence,hdigest⟩ := (checkpointProblem_isNone _).1 h
  have hfields : bindingFields (.obj (checkpointBody ⟨binding,storeId,sequence,stateDigest⟩)) =
      some binding := by
    apply bindingFields_of_get _ _ _ hbinding
    · rfl
    · rfl
    · cases hcase : binding.namespace <;>
        simp [checkpointBody,bindingBody,hcase,Json.get,Json.lookup]
  rw [parseCheckpoint,if_pos,hfields]
  · cases hcase : binding.namespace <;>
      simp_all [checkpointBody,bindingBody,stringField,integerField,Json.get,Json.lookup]
  · cases hcase : binding.namespace <;>
      simp [hasExactKeys,checkpointKeys,checkpointBody,bindingBody,hcase,Json.lookup]

theorem parseEnrollment_name (enrollment : AuthorityStateEnrollment) :
    parseEnrollment enrollment.name = some enrollment := by
  cases enrollment <;> decide

theorem parseWitnessRequest_body (h : message.wellFormed = true) :
    parseWitnessRequest message.operation (witnessRequestBody message) = some message := by
  cases message with
  | identity challenge =>
    have hchallenge : isWitnessChallenge challenge = true := h
    simp [parseWitnessRequest,witnessRequestBody,hasExactKeys,requestKeys,stringField,
      WitnessMessage.operation,WitnessMessage.challenge,Json.get,Json.lookup,hchallenge]
  | slot challenge request =>
    obtain ⟨hchallenge,hrequest⟩ := (Bool.and_eq_true _ _).mp h
    cases request with
    | read binding =>
      simp [parseWitnessRequest,witnessRequestBody,hasExactKeys,requestKeys,requestFields,
        stringField,WitnessMessage.operation,WitnessMessage.challenge,Json.get,Json.lookup,
        hchallenge,parseBinding_body hrequest]
    | enroll enrollment checkpoint =>
      obtain ⟨hcheckpoint,hgenesis⟩ := (Bool.and_eq_true _ _).mp hrequest
      have hsequence : ¬(enrollment = .genesis ∧ checkpoint.sequence ≠ 0) := by
        rintro ⟨rfl,hne⟩
        simp_all
      simp [parseWitnessRequest,witnessRequestBody,hasExactKeys,requestKeys,requestFields,
        stringField,WitnessMessage.operation,WitnessMessage.challenge,Json.get,Json.lookup,
        hchallenge,parseCheckpoint_body hcheckpoint,parseEnrollment_name]
      exact fun hcase => not_not.1 fun hne => hsequence ⟨hcase,hne⟩
    | prepare expected proposed =>
      simp only [WitnessRequest.wellFormed,Bool.and_eq_true,beq_iff_eq] at hrequest
      obtain ⟨⟨⟨⟨hexpected,hproposed⟩,hbinding⟩,hstore⟩,hsequence⟩ := hrequest
      simp [parseWitnessRequest,witnessRequestBody,hasExactKeys,requestKeys,requestFields,
        stringField,WitnessMessage.operation,WitnessMessage.challenge,Json.get,Json.lookup,
        hchallenge,parseCheckpoint_body hexpected,parseCheckpoint_body hproposed,hbinding,hstore, hsequence]
    | finalize checkpoint =>
      simp [parseWitnessRequest,witnessRequestBody,hasExactKeys,requestKeys,requestFields,
        stringField,WitnessMessage.operation,WitnessMessage.challenge,Json.get,Json.lookup,
        hchallenge,parseCheckpoint_body hrequest]

def AuthorityStateHead.wellFormed (head : AuthorityStateHead) : Bool :=
  isStateSequence head.sequence && isStateDigest head.stateDigest

def BindingRow.wellFormed (row : BindingRow) : Bool :=
  isBoundedIdentifier row.storeId && row.committed.wellFormed &&
    row.pending.all fun pending => pending.wellFormed &&
      pending.sequence == row.committed.sequence + 1

def offeredWellFormed (operations : List String) : Bool :=
  decide (operations.length ≤ 16) &&
    operations.all fun entry => decide ((codeUnits entry).length ≤ 64)

/-- What `parseWitnessReceipt` lets through. -/
def WitnessReceipt.wellFormed (receipt : WitnessReceipt) : Bool :=
  isBoundedIdentifier receipt.witnessId && isWitnessChallenge receipt.challenge &&
    decide (receipt.outcome ∈ witnessOutcomesByOperation receipt.operation) &&
    match receipt.binding, receipt.state, receipt.operations with
    | none, none, some operations =>
        receipt.operation == .identity && offeredWellFormed operations
    | some binding, some state, none =>
        receipt.operation != .identity && (authorityStateBindingProblem binding).isNone &&
          state.all BindingRow.wellFormed
    | _, _, _ => false

theorem parseHead_wellFormed (h : parseHead value = some head) : head.wellFormed = true := by
  rw [parseHead] at h
  split at h
  · simp only [bind_eq_bind,bind_eq_some_iff] at h
    obtain ⟨sequence,-,stateDigest,-,h⟩ := h
    split at h
    · rename_i hhead
      cases h
      exact hhead
    · cases h
  · cases h

theorem parseBound_wellFormed {withPending : Bool} {row : BindingRow}
    (h : parseBound value withPending = some row) : row.wellFormed = true := by
  simp only [parseBound,bind_eq_bind,bind_eq_some_iff] at h
  obtain ⟨status,-,storeId,-,h⟩ := h
  split at h
  · rename_i hbound
    simp only [bind_eq_some_iff] at h
    obtain ⟨committed,⟨_,_,hcommitted⟩,h⟩ := h
    have hhead := parseHead_wellFormed hcommitted
    split at h
    · simp only [bind_eq_some_iff] at h
      obtain ⟨pending,⟨_,_,hpending⟩,h⟩ := h
      split at h
      · rename_i hsuccessor
        cases h
        simp [BindingRow.wellFormed,hbound.2,hhead,parseHead_wellFormed hpending,hsuccessor]
      · cases h
    · cases h
      simp [BindingRow.wellFormed,hbound.2,hhead]
  · cases h

theorem parseState_wellFormed (h : parseState value = some state) :
    state.all BindingRow.wellFormed = true := by
  rw [parseState] at h
  split at h
  · split at h
    · cases h
      rfl
    · cases h
  · split at h
    · obtain ⟨row,hrow,rfl⟩ := map_eq_some_iff.1 h
      exact parseBound_wellFormed hrow
    · split at h
      · obtain ⟨row,hrow,rfl⟩ := map_eq_some_iff.1 h
        exact parseBound_wellFormed hrow
      · cases h

theorem mapM_parseOffered {entries : List (Json String)}
    (h : entries.mapM parseOffered = some operations) :
    operations.length = entries.length ∧
      operations.all (fun entry => decide ((codeUnits entry).length ≤ 64)) = true := by
  induction entries generalizing operations with
  | nil =>
    cases h
    exact ⟨rfl,rfl⟩
  | cons entry entries ih =>
    simp only [mapM_cons,bind_eq_bind,bind_eq_some_iff] at h
    obtain ⟨name,hname,names,hnames,h⟩ := h
    cases h
    obtain ⟨hlength,hall⟩ := ih hnames
    have hshort : (codeUnits name).length ≤ 64 := by
      unfold parseOffered at hname
      split at hname
      · split at hname
        · rename_i hshort
          cases hname
          exact hshort
        · cases hname
      · cases hname
    exact ⟨by simp [hlength],by rw [all_cons,hall,decide_eq_true hshort]; rfl⟩

theorem parseOperations_wellFormed (h : parseOperations value = some operations) :
    offeredWellFormed operations = true := by
  unfold parseOperations at h
  split at h
  · split at h
    · rename_i hlength
      obtain ⟨hsame,hall⟩ := mapM_parseOffered h
      rw [offeredWellFormed,hsame,hall,decide_eq_true hlength]
      rfl
    · cases h
  · cases h

theorem outcome_mem {name : String}
    (h : WitnessReceiptOutcome.ofName operation name = some outcome) :
    outcome ∈ witnessOutcomesByOperation operation :=
  mem_of_find?_eq_some h

theorem parseWitnessReceipt_wellFormed (h : parseWitnessReceipt value = some receipt) :
    receipt.wellFormed = true := by
  rw [parseWitnessReceipt] at h
  split at h
  · simp only [bind_eq_bind,bind_eq_some_iff] at h
    obtain ⟨witnessId,-,challenge,-,h⟩ := h
    split at h
    · cases h
    · rename_i hheader
      simp only [Bool.or_eq_true,Bool.not_eq_true',not_or,Bool.not_eq_false] at hheader
      simp only [bind_eq_some_iff] at h
      obtain ⟨operation,-,outcome,⟨_,_,houtcome⟩,h⟩ := h
      have hmem := outcome_mem houtcome
      split at h
      · split at h
        · cases h
        · rename_i hidentity
          simp only [bind_eq_some_iff] at h
          obtain ⟨operations,⟨_,_,hoperations⟩,h⟩ := h
          cases h
          rw [not_not] at hidentity
          simp [WitnessReceipt.wellFormed,hheader.1,hheader.2,hidentity,
            parseOperations_wellFormed hoperations]
          simpa [hidentity] using hmem
      · split at h
        · cases h
        · rename_i hslot
          simp only [bind_eq_some_iff] at h
          obtain ⟨binding,⟨_,_,hbinding⟩,state,⟨_,_,hstate⟩,h⟩ := h
          cases h
          have hproblem := isNone_iff_eq_none.1 (parseBinding_wellFormed hbinding)
          simp [WitnessReceipt.wellFormed,hheader.1,hheader.2,hmem,hslot,hproblem,
            parseState_wellFormed hstate]
  · cases h

/-- An optional field. -/
def optionalField {α : Type} (key : String) (tree : α → Json String) (value : Option α) :
    List (String × Json String) :=
  (value.map fun a => (key, tree a)).toList

def headTree (head : AuthorityStateHead) : Json String :=
  .obj [("sequence", .num head.sequence), ("stateDigest", .str head.stateDigest)]

def bindingTree (binding : AuthorityStateBinding) : Json String :=
  .obj (optionalField "namespace" str binding.namespace ++
    [("organizationId", str binding.organizationId), ("stateKind", .str binding.stateKind.name)])

def stateTree : WitnessBindingState → Json String
  | none => .obj [("status", .str "unbound")]
  | some row => .obj ([("committed", headTree row.committed)] ++
      optionalField "pending" headTree row.pending ++
      [("status", .str "bound"), ("storeId", .str row.storeId)])

def receiptTree (receipt : WitnessReceipt) : Json String :=
  .obj (optionalField "binding" bindingTree receipt.binding ++
    [("challenge", str receipt.challenge), ("operation", .str receipt.operation.name)] ++
    optionalField "operations" (fun operations => .arr (operations.map .str)) receipt.operations ++
    [("outcome", .str receipt.outcome.name), ("protocol", .str authorityStateWitnessProtocol)] ++
    optionalField "state" stateTree receipt.state ++ [("witnessId", .str receipt.witnessId)])

theorem map_writtenField_optional {α : Type} {key : String} {tree : α → Json String}
    {entry : α → String} (h : ∀ a, entry a = writtenField (key, tree a)) (value : Option α) :
    optional entry value = (optionalField key tree value).map writtenField := by
  cases value with
  | none => rfl
  | some a => simp [optional,optionalField,h]

theorem canonicalHead_eq (head : AuthorityStateHead) : canonicalHead head = (headTree head).stringify := by
  have hsequence : "\x7b\"sequence\":" = "\x7b" ++ Text.stringify "sequence" ++ ":" := by decide
  have hdigest : ",\"stateDigest\":" = "," ++ Text.stringify "stateDigest" ++ ":" := by decide
  delta canonicalHead
  rw [headTree,stringify_obj,hsequence,hdigest]
  simp only [map_cons,map_nil,writtenField,stringify_num,stringify_str,
    join_cons_cons,join_singleton,String.append_assoc,quote]

theorem canonicalBinding_eq (binding : AuthorityStateBinding) :
    canonicalBinding binding = (bindingTree binding).stringify := by
  have hnamespace : "\"namespace\":" = Text.stringify "namespace" ++ ":" := by decide
  have horganization : "\"organizationId\":" = Text.stringify "organizationId" ++ ":" := by decide
  have hkind : ",\"stateKind\":" = "," ++ Text.stringify "stateKind" ++ ":" := by decide
  rw [canonicalBinding,bindingTree,stringify_obj,horganization,hkind]
  cases binding.namespace with
  | none =>
    simp only [optionalField,map_none,toList_none,nil_append,map_cons,
      map_nil,writtenField,stringify_str,join_cons_cons,join_singleton,
      String.append_assoc,String.empty_append,quote]
  | some value =>
    simp only [optionalField,map_some,toList_some,singleton_append,
      map_cons,map_nil,writtenField,stringify_str,join_cons_cons,
      join_singleton,String.append_assoc,hnamespace,quote]

theorem canonicalState_eq (state : WitnessBindingState) :
    canonicalState state = (stateTree state).stringify := by
  cases state with
  | none => decide
  | some row =>
    have hcommitted : "\"committed\":" = Text.stringify "committed" ++ ":" := by decide
    have hpending : "\"pending\":" = Text.stringify "pending" ++ ":" := by decide
    have hstatus : "\"status\":\"bound\"" = writtenField ("status", .str "bound") := by decide
    have hstore : "\"storeId\":" = Text.stringify "storeId" ++ ":" := by decide
    have hfield (head : AuthorityStateHead) : "\"pending\":" ++ canonicalHead head =
        writtenField ("pending", headTree head) := by
      rw [writtenField,canonicalHead_eq,hpending]
    rw [canonicalState,stateTree,stringify_obj,map_append,map_append, map_writtenField_optional hfield]
    rw [hcommitted,hstatus,hstore,canonicalHead_eq]
    rfl

theorem serializeWitnessReceipt_eq (receipt : WitnessReceipt) :
    serializeWitnessReceipt receipt = (receiptTree receipt).stringify := by
  have hbinding : "\"binding\":" = Text.stringify "binding" ++ ":" := by decide
  have hchallenge : "\"challenge\":" = Text.stringify "challenge" ++ ":" := by decide
  have hoperation : "\"operation\":" = Text.stringify "operation" ++ ":" := by decide
  have hoperations : "\"operations\":[" = Text.stringify "operations" ++ ":" ++ "[" := by decide
  have houtcome : "\"outcome\":" = Text.stringify "outcome" ++ ":" := by decide
  have hprotocol : "\"protocol\":" = Text.stringify "protocol" ++ ":" := by decide
  have hstate : "\"state\":" = Text.stringify "state" ++ ":" := by decide
  have hwitness : "\"witnessId\":" = Text.stringify "witnessId" ++ ":" := by decide
  have hslot (binding : AuthorityStateBinding) : "\"binding\":" ++ canonicalBinding binding =
      writtenField ("binding", bindingTree binding) := by
    rw [writtenField,canonicalBinding_eq,hbinding]
  have hheld (state : WitnessBindingState) : "\"state\":" ++ canonicalState state =
      writtenField ("state", stateTree state) := by
    rw [writtenField,canonicalState_eq,hstate]
  have hlist (operations : List String) :
      "\"operations\":[" ++ join "," (operations.map quote) ++ "]" =
        writtenField ("operations", .arr (operations.map .str)) := by
    rw [hoperations,writtenField,stringify_arr,List.map_map]
    simp only [String.append_assoc]
    rfl
  rw [serializeWitnessReceipt,receiptTree,stringify_obj]
  simp only [map_append]
  rw [map_writtenField_optional hslot,map_writtenField_optional hlist, map_writtenField_optional hheld]
  rw [hchallenge,hoperation,houtcome,hprotocol,hwitness]
  rfl

theorem parseHead_tree (h : head.wellFormed = true) : parseHead (headTree head) = some head := by
  obtain ⟨hsequence,hdigest⟩ := (Bool.and_eq_true _ _).mp h
  simp [parseHead,headTree,hasExactKeys,integerField,stringField,Json.get,Json.lookup, hsequence,hdigest]

theorem parseBinding_tree (h : (authorityStateBindingProblem binding).isNone = true) :
    parseBinding (bindingTree binding) = some binding := by
  have hfields : bindingFields (bindingTree binding) = some binding := by
    apply bindingFields_of_get _ _ _ h
    all_goals
      cases hcase : binding.namespace <;>
        simp [bindingTree,optionalField,hcase,Json.get,Json.lookup]
  have hkeys : hasExactKeys (bindingTree binding) ["stateKind", "organizationId"] ||
      hasExactKeys (bindingTree binding) ["stateKind", "organizationId", "namespace"] := by
    cases hcase : binding.namespace <;>
      simp [hasExactKeys,bindingTree,optionalField,hcase,Json.lookup]
  rw [parseBinding,if_pos hkeys,hfields]

theorem parseState_tree (h : state.all BindingRow.wellFormed = true) :
    parseState (stateTree state) = some state := by
  cases state with
  | none => simp [parseState,stateTree,hasExactKeys,stringField,Json.get,Json.lookup]
  | some row =>
    obtain ⟨storeId,committed,pending⟩ := row
    simp only [all_some,BindingRow.wellFormed,Bool.and_eq_true] at h
    obtain ⟨⟨hstore,hcommitted⟩,hpending⟩ := h
    cases pending with
    | none =>
      simp [parseState,parseBound,stateTree,optionalField,hasExactKeys,stringField,Json.get,
        Json.lookup,hstore,parseHead_tree hcommitted]
    | some pending =>
      simp only [all_some,Bool.and_eq_true,beq_iff_eq] at hpending
      simp [parseState,parseBound,stateTree,optionalField,hasExactKeys,stringField,Json.get,
        Json.lookup,hstore,parseHead_tree hcommitted,parseHead_tree hpending.1,hpending.2]

theorem parseOperations_tree (h : offeredWellFormed operations = true) :
    parseOperations (.arr (operations.map .str)) = some operations := by
  obtain ⟨hlength,hall⟩ := (Bool.and_eq_true _ _).mp h
  rw [parseOperations,length_map,if_pos (of_decide_eq_true hlength)]
  clear h hlength
  induction operations with
  | nil => rfl
  | cons entry operations ih =>
    obtain ⟨hentry,hrest⟩ := (Bool.and_eq_true _ _).mp hall
    rw [map_cons,mapM_cons,ih hrest,parseOffered,if_pos (of_decide_eq_true hentry)]
    rfl

theorem ofName_outcome (h : outcome ∈ witnessOutcomesByOperation operation) :
    WitnessReceiptOutcome.ofName operation outcome.name = some outcome := by
  cases operation with
  | identity =>
    obtain rfl := mem_singleton.1 h
    decide
  | read =>
    obtain rfl := mem_singleton.1 h
    decide
  | enroll => rcases mem_pair.1 h with rfl | rfl <;> decide
  | prepare => rcases mem_pair.1 h with rfl | rfl <;> decide
  | finalize => rcases mem_pair.1 h with rfl | rfl <;> decide

theorem parseWitnessReceipt_tree (h : receipt.wellFormed = true) :
    parseWitnessReceipt (receiptTree receipt) = some receipt := by
  obtain ⟨witnessId,operation,challenge,outcome,binding,state,operations⟩ := receipt
  simp only [WitnessReceipt.wellFormed,Bool.and_eq_true,decide_eq_true_eq] at h
  obtain ⟨⟨⟨hwitness,hchallenge⟩,houtcome⟩,hshape⟩ := h
  have hname := ofName_outcome houtcome
  match binding, state, operations, hshape with
  | none, none, some operations, hshape =>
    obtain ⟨hoperation,hoffered⟩ := (Bool.and_eq_true _ _).mp hshape
    obtain rfl : operation = .identity := eq_of_beq hoperation
    simp [parseWitnessReceipt,receiptTree,optionalField,hasExactKeys,identityKeys,stringField,
      Json.get,Json.lookup,hwitness,hchallenge,hname,parseOperations_tree hoffered]
  | some binding, some state, none, hshape =>
    simp only [Bool.and_eq_true,bne_iff_ne] at hshape
    obtain ⟨⟨hoperation,hbinding⟩,hstate⟩ := hshape
    simp [parseWitnessReceipt,receiptTree,optionalField,hasExactKeys,identityKeys,stateKeys,
      stringField,Json.get,Json.lookup,hwitness,hchallenge,hname,hoperation,
      parseBinding_tree hbinding,parseState_tree hstate]

theorem signingBytes_inj {value' : Json String} {receipt' : WitnessReceipt}
    (h : parseWitnessReceipt value = some receipt)
    (h' : parseWitnessReceipt value' = some receipt')
    (hbytes : witnessReceiptSigningBytes receipt = witnessReceiptSigningBytes receipt') :
    receipt = receipt' := by
  have htext : serializeWitnessReceipt receipt = serializeWitnessReceipt receipt' :=
    (String.append_right_inj _).1 (String.toByteArray_inj.1 hbytes)
  rw [serializeWitnessReceipt_eq,serializeWitnessReceipt_eq] at htext
  have htree : receiptTree receipt = receiptTree receipt' := Json.stringify_injective htext
  have hread := parseWitnessReceipt_tree (parseWitnessReceipt_wellFormed h)
  rw [htree,parseWitnessReceipt_tree (parseWitnessReceipt_wellFormed h')] at hread
  exact (some.inj hread).symm

theorem accept_eq_ok (h : accept pinned request answer = .ok receipt) :
    (∃ signature bytes, parseWitnessResponse answer = some (receipt, signature) ∧
      signatureBytes signature = some bytes ∧
      pinned.verify (witnessReceiptSigningBytes receipt) bytes = true) ∧
    receipt.witnessId = pinned.witnessId ∧ receipt.operation = request.operation ∧
      receipt.challenge = request.challenge ∧
      ∀ binding, request.binding = some binding → receipt.binding = some binding := by
  unfold accept at h
  split at h
  · cases h
  · rename_i parsed signature hparsed
    split at h
    · cases h
    · rename_i bytes hbytes
      rw [Data.guard_eq_ok,Data.guard_eq_ok,Data.guard_eq_ok,Data.guard_eq_ok] at h
      obtain ⟨hverify,hwitness,hoperation,hchallenge,h⟩ := h
      simp only [Bool.not_eq_true',Bool.not_eq_false] at hverify
      rw [not_not] at hwitness hoperation hchallenge
      cases request with
      | identity challenge =>
        cases h
        exact ⟨⟨signature,bytes,hparsed,hbytes,hverify⟩,hwitness,hoperation,hchallenge,
          fun binding hbinding => by cases hbinding⟩
      | slot challenge asked =>
        simp only [Data.guard_eq_ok,ne_eq,not_not] at h
        obtain ⟨hbinding,h⟩ := h
        split at h
        · cases h
        · cases h
          refine ⟨⟨signature,bytes,hparsed,hbytes,hverify⟩,hwitness,hoperation,hchallenge,?_⟩
          rintro binding ⟨⟩
          exact hbinding

theorem binding_eq_none : message.binding = none ↔ message.operation = .identity := by
  rcases message with challenge | ⟨challenge,request⟩
  · simp [WitnessMessage.binding,WitnessMessage.operation]
  · cases request <;> simp [WitnessMessage.binding,WitnessMessage.operation]

/-- The signature is one over the receipt: the pinned key verifies it for no other bytes. -/
def SignatureOver (pinned : PinnedWitness) (bytes : List UInt8) (receipt : WitnessReceipt) : Prop :=
  ∀ message, pinned.verify message bytes = true → message = witnessReceiptSigningBytes receipt

theorem accept_authentic {signed : WitnessReceipt} {signature : String} {bytes : List UInt8}
    (hsigned : parseWitnessReceipt value = some signed)
    (hanswer : parseWitnessResponse answer = some (receipt, signature))
    (hbytes : signatureBytes signature = some bytes) (hover : SignatureOver pinned bytes signed)
    (h : accept pinned request answer = .ok receipt) : receipt = signed := by
  obtain ⟨⟨signature',bytes',hanswer',hbytes',hverify⟩,-⟩ := accept_eq_ok h
  obtain ⟨-,rfl⟩ := Prod.mk.inj (some.inj (hanswer.symm.trans hanswer'))
  obtain rfl := some.inj (hbytes.symm.trans hbytes')
  have hreceipt : ∃ value, parseWitnessReceipt value = some receipt := by
    unfold parseWitnessResponse at hanswer
    split at hanswer
    · simp only [bind_eq_bind,bind_eq_some_iff] at hanswer
      obtain ⟨signature',-,hanswer⟩ := hanswer
      split at hanswer
      · cases hanswer
      · simp only [bind_eq_some_iff] at hanswer
        obtain ⟨receipt',⟨value,-,hvalue⟩,hanswer⟩ := hanswer
        cases hanswer
        exact ⟨value,hvalue⟩
    · cases hanswer
  obtain ⟨value',hvalue'⟩ := hreceipt
  exact signingBytes_inj hvalue' hsigned (hover _ hverify)

theorem accept_same {pinned' : PinnedWitness} {request' : WitnessMessage} {answer' : Json String}
    (h : accept pinned request answer = .ok receipt)
    (h' : accept pinned' request' answer' = .ok receipt) :
    request.operation = request'.operation ∧ request.challenge = request'.challenge ∧
      request.binding = request'.binding := by
  obtain ⟨-,-,hoperation,hchallenge,hbinding⟩ := accept_eq_ok h
  obtain ⟨-,-,hoperation',hchallenge',hbinding'⟩ := accept_eq_ok h'
  have hsame : request.operation = request'.operation := hoperation.symm.trans hoperation'
  refine ⟨hsame,hchallenge.symm.trans hchallenge',?_⟩
  cases hcase : request.binding with
  | none =>
    rw [binding_eq_none,hsame,← binding_eq_none] at hcase
    exact hcase.symm
  | some binding =>
    cases hcase' : request'.binding with
    | none =>
      rw [binding_eq_none,← hsame,← binding_eq_none,hcase] at hcase'
      cases hcase'
    | some binding' => exact (hbinding binding hcase).symm.trans (hbinding' binding' hcase')

/-- Requests decode to what was encoded, what is signed of a receipt is signed of no other, and a
receipt accepted for one request is accepted for none that asks otherwise. -/
theorem messages_decode : (∀ message : WitnessMessage, message.wellFormed = true →
      (parse (witnessRequestBody message).stringify).bind
        (parseWitnessRequest message.operation) = some message) ∧
    (∀ (value value' : Json String) (receipt receipt' : WitnessReceipt),
      parseWitnessReceipt value = some receipt → parseWitnessReceipt value' = some receipt' →
      witnessReceiptSigningBytes receipt = witnessReceiptSigningBytes receipt' → receipt = receipt') ∧
    (∀ (pinned : PinnedWitness) (request : WitnessMessage) (answer value : Json String)
      (receipt signed : WitnessReceipt) (signature : String) (bytes : List UInt8),
      parseWitnessReceipt value = some signed → parseWitnessResponse answer = some (receipt, signature) →
      signatureBytes signature = some bytes → SignatureOver pinned bytes signed →
      accept pinned request answer = .ok receipt → receipt = signed) ∧
    ∀ (pinned pinned' : PinnedWitness) (request request' : WitnessMessage)
      (answer answer' : Json String) (receipt : WitnessReceipt),
      accept pinned request answer = .ok receipt → accept pinned' request' answer' = .ok receipt →
      request.operation = request'.operation ∧ request.challenge = request'.challenge ∧
        request.binding = request'.binding := by
  refine ⟨?_,?_,?_,?_⟩
  · intro message hmessage
    rw [parse_stringify,bind_some,parseWitnessRequest_body hmessage]
  · intro value value' receipt receipt' h h' hbytes
    exact signingBytes_inj h h' hbytes
  · intro pinned request answer value receipt signed signature bytes hsigned hanswer hbytes hover h
    exact accept_authentic hsigned hanswer hbytes hover h
  · intro pinned pinned' request request' answer answer' receipt h h'
    exact accept_same h h'

def sampleChallenge : String := String.ofList (List.replicate 64 '0')

def sampleRail : AuthorityStateBinding := ⟨.paymentInitiationReservations,"org",some "rail-a"⟩

def sampleRailCheckpoint : AuthorityStateCheckpoint :=
  ⟨sampleRail,"store",⟨1,String.ofList ("sha256:".toList ++ List.replicate 64 'a')⟩⟩

def sampleMessage : WitnessMessage := .slot sampleChallenge (.finalize sampleRailCheckpoint)

def sampleReceipt : WitnessReceipt :=
  ⟨"witness",.finalize,sampleChallenge,.slot .finalized,some sampleRail,
    some (some ⟨"store",sampleRailCheckpoint.head,none⟩),none⟩

def sampleSignature : String :=
  String.ofList (List.replicate 86 'A' ++ ['=', '='])

def samplePinned : PinnedWitness where
  witnessId := "witness"
  verify message bytes := decide (message = witnessReceiptSigningBytes sampleReceipt) &&
    decide (bytes = List.replicate 64 0)

def sampleAnswer : Json String :=
  .obj [("receipt", receiptTree sampleReceipt), ("signature", .str sampleSignature)]

theorem sampleMessage_wellFormed : sampleMessage.wellFormed = true := by decide

theorem sampleReceipt_wellFormed : sampleReceipt.wellFormed = true := by decide

theorem sampleSignature_bytes : signatureBytes sampleSignature = some (List.replicate 64 0) := by
  decide

theorem sampleAnswer_parsed :
    parseWitnessResponse sampleAnswer = some (sampleReceipt, sampleSignature) := by
  have hsignature : ¬(sampleSignature = "" ∨ (codeUnits sampleSignature).length > 256) := by decide
  simp [parseWitnessResponse,sampleAnswer,hasExactKeys,stringField,Json.get,Json.lookup,
    parseWitnessReceipt_tree sampleReceipt_wellFormed,hsignature]

theorem sampleAnswer_accepted : accept samplePinned sampleMessage sampleAnswer = .ok sampleReceipt := by
  have hverify : samplePinned.verify (witnessReceiptSigningBytes sampleReceipt)
      (List.replicate 64 0) = true := by
    simp [samplePinned]
  have hproblem : receiptStateProblem (.finalize sampleRailCheckpoint) sampleReceipt = none := by
    decide
  have hoperation : sampleReceipt.operation = sampleMessage.operation := rfl
  have hchallenge : sampleReceipt.challenge = sampleMessage.challenge := rfl
  have hwitness : sampleReceipt.witnessId = samplePinned.witnessId := rfl
  have hbinding : sampleReceipt.binding = some (WitnessRequest.finalize sampleRailCheckpoint).binding := rfl
  simp only [accept,sampleAnswer_parsed,sampleSignature_bytes,hverify,hoperation,hchallenge,
    hwitness,ne_eq,not_true_eq_false,Bool.not_true,Bool.false_eq_true,if_false]
  simp only [sampleMessage,hbinding,not_true_eq_false,if_false,hproblem]

theorem sampleSignature_over : SignatureOver samplePinned (List.replicate 64 0) sampleReceipt := by
  intro message h
  exact of_decide_eq_true ((Bool.and_eq_true _ _).mp h).1

theorem sampleMessages_decode : (parse (witnessRequestBody sampleMessage).stringify).bind
      (parseWitnessRequest sampleMessage.operation) = some sampleMessage ∧
    accept samplePinned sampleMessage sampleAnswer = .ok sampleReceipt ∧
    sampleReceipt = sampleReceipt ∧ sampleMessage.binding = sampleMessage.binding := by
  have hparsed := parseWitnessReceipt_tree sampleReceipt_wellFormed
  obtain ⟨hrequests,hsigned,hauthentic,haccepted⟩ := messages_decode
  refine ⟨hrequests sampleMessage sampleMessage_wellFormed,sampleAnswer_accepted,?_,?_⟩
  · exact hauthentic samplePinned sampleMessage sampleAnswer (receiptTree sampleReceipt) sampleReceipt
      sampleReceipt sampleSignature (List.replicate 64 0) hparsed sampleAnswer_parsed
      sampleSignature_bytes sampleSignature_over sampleAnswer_accepted
  · exact (haccepted samplePinned samplePinned sampleMessage sampleMessage sampleAnswer sampleAnswer
      sampleReceipt sampleAnswer_accepted sampleAnswer_accepted).2.2

end Frontera.Freshness
