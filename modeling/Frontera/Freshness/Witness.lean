import Frontera.Data.OrderedMap
import Frontera.Freshness.Checkpoint

/-! One row for each slot: the store it binds, the committed head and at most one prepared
successor, changed only by compare-and-advance inside one transaction; and an append-only history of
every change. A database of the first protocol, whose slots have no namespace, is migrated when the
witness opens it. -/

namespace Frontera.Freshness

open Frontera.Data

inductive AuthorityStateEnrollment where
  | genesis | baseline
deriving DecidableEq

/-- A request other than `identity`, which touches no slot. -/
inductive WitnessRequest where
  | read (binding : AuthorityStateBinding)
  | enroll (enrollment : AuthorityStateEnrollment) (checkpoint : AuthorityStateCheckpoint)
  | prepare (expected proposed : AuthorityStateCheckpoint)
  | finalize (checkpoint : AuthorityStateCheckpoint)

def WitnessRequest.binding : WitnessRequest → AuthorityStateBinding
  | .read binding => binding
  | .enroll _ checkpoint => checkpoint.binding
  | .prepare _ proposed => proposed.binding
  | .finalize checkpoint => checkpoint.binding

/-- What `parseWitnessRequest` lets through, of a body with the right fields. -/
def WitnessRequest.wellFormed : WitnessRequest → Bool
  | .read binding => (authorityStateBindingProblem binding).isNone
  | .enroll enrollment checkpoint =>
      (authorityStateCheckpointProblem checkpoint).isNone &&
        (enrollment == .baseline || checkpoint.sequence == 0)
  | .prepare expected proposed =>
      (authorityStateCheckpointProblem expected).isNone &&
        (authorityStateCheckpointProblem proposed).isNone &&
        expected.binding == proposed.binding && expected.storeId == proposed.storeId &&
        proposed.sequence == expected.sequence + 1
  | .finalize checkpoint => (authorityStateCheckpointProblem checkpoint).isNone

inductive WitnessOutcome where
  | current | enrolled | prepared | finalized | conflict
deriving DecidableEq

/-- `BindingRow`; the two pending columns are absent together. -/
structure BindingRow where
  storeId : String
  committed : AuthorityStateHead
  pending : Option AuthorityStateHead
deriving DecidableEq

/-- `WitnessBindingState`; `none` is `unbound`, and a row is what `bound` carries. -/
abbrev WitnessBindingState := Option BindingRow

inductive WitnessEvent where
  | enrolledGenesis | enrolledBaseline | prepared | finalized

/-- What the history records of one slot. -/
structure WitnessRecord where
  event : WitnessEvent
  storeId : String
  head : AuthorityStateHead

def recordOf (event : WitnessEvent) (checkpoint : AuthorityStateCheckpoint) : WitnessRecord :=
  ⟨event,checkpoint.storeId,checkpoint.head⟩

/-- An answer, the slot's row after it and what was recorded. -/
structure Applied where
  outcome : WitnessOutcome
  row : Option BindingRow
  recorded : List WitnessRecord

/-- `apply` on the row of the request's slot. `elsewhere` is whether another identity domain
of the organization holds the store. The updates name the row just read, inside the same
transaction, so each changes exactly it. -/
def applyRequest (elsewhere : Bool) (existing : Option BindingRow) : WitnessRequest → Applied
  | .read _ => ⟨.current,existing,[]⟩
  | .enroll enrollment checkpoint =>
      match existing with
      | some row =>
          -- idempotent only for the exact same state; never a rebind
          if row.storeId = checkpoint.storeId ∧ row.pending = none ∧
              row.committed = checkpoint.head then ⟨.enrolled,existing,[]⟩
          else ⟨.conflict,existing,[]⟩
      | none =>
          if elsewhere then ⟨.conflict,none,[]⟩
          else ⟨.enrolled,some ⟨checkpoint.storeId,checkpoint.head,none⟩,
            [recordOf (if enrollment = .genesis then .enrolledGenesis else .enrolledBaseline)
              checkpoint]⟩
  | .prepare expected proposed =>
      match existing with
      | none => ⟨.conflict,none,[]⟩
      | some row =>
          if row.storeId ≠ expected.storeId then ⟨.conflict,existing,[]⟩
          else if row.committed ≠ expected.head then ⟨.conflict,existing,[]⟩
          else
            match row.pending with
            | some pending =>
                -- the same prepare, repeated, is the same prepare
                ⟨if pending = proposed.head then .prepared else .conflict,existing,[]⟩
            | none => ⟨.prepared,some { row with pending := some proposed.head },
                [recordOf .prepared proposed]⟩
  | .finalize checkpoint =>
      match existing with
      | none => ⟨.conflict,none,[]⟩
      | some row =>
          if row.storeId ≠ checkpoint.storeId then ⟨.conflict,existing,[]⟩
          else
            match row.pending with
            | none => ⟨if row.committed = checkpoint.head then .finalized else .conflict,existing,[]⟩
            | some pending =>
                if pending = checkpoint.head then
                  ⟨.finalized,some ⟨row.storeId,pending,none⟩,[recordOf .finalized checkpoint]⟩
                else ⟨.conflict,existing,[]⟩

/-- `holds` -/
def holds (state : WitnessBindingState) (checkpoint : AuthorityStateCheckpoint)
    (pending : Option AuthorityStateCheckpoint) : Bool :=
  match state with
  | none => false
  | some row => row.storeId == checkpoint.storeId && row.committed == checkpoint.head &&
      row.pending == pending.map (·.head)

/-- Why a receipt that says an operation was applied does not show it applied. -/
def appliedStateProblem (request : WitnessRequest) (outcome : WitnessOutcome)
    (state : WitnessBindingState) : Option String :=
  match outcome with
  | .enrolled =>
      match request with
      | .enroll _ checkpoint =>
          if holds state checkpoint none then none
          else some "claims an enrollment but does not hold the enrolled checkpoint"
      | _ => some "claims an enrollment but does not hold the enrolled checkpoint"
  | .prepared =>
      match request with
      | .prepare expected proposed =>
          if holds state expected (some proposed) then none
          else some ("claims a prepare but does not hold the proposed checkpoint pending over " ++
            "the expected one")
      | _ => some ("claims a prepare but does not hold the proposed checkpoint pending over " ++
          "the expected one")
  | .finalized =>
      match request with
      | .finalize checkpoint =>
          if holds state checkpoint none then none
          else some "claims a finalize but does not hold the finalized checkpoint as committed"
      | _ => some "claims a finalize but does not hold the finalized checkpoint as committed"
  | _ => none

/-- The storage key of a binding. -/
structure WitnessSlot where
  stateKind : AuthorityStateKind
  organizationId : String
  «namespace» : String
deriving DecidableEq

/-- The un-namespaced slot is stored under the empty namespace, which no namespace can be. -/
def AuthorityStateBinding.slot (binding : AuthorityStateBinding) : WitnessSlot :=
  ⟨binding.stateKind,binding.organizationId,binding.namespace.getD ""⟩

/-- The tables of a witness whose slots are `S`. -/
structure WitnessTables (S : Type) where
  bindings : OrderedMap S BindingRow
  history : List (S × WitnessRecord)

abbrev WitnessDatabase := WitnessTables WitnessSlot

def WitnessTables.empty {S : Type} : WitnessTables S := ⟨.empty,[]⟩

/-- The records of one slot, in order. -/
def WitnessTables.log {S : Type} [DecidableEq S] (db : WitnessTables S) (slot : S) : List WitnessRecord :=
  (db.history.filter fun entry => entry.1 = slot).map Prod.snd

namespace WitnessDatabase

/-- `otherIdentityDomainHolding`, asked for identity kinds only. -/
def heldElsewhere (db : WitnessDatabase) (checkpoint : AuthorityStateCheckpoint) : Bool :=
  isHumanIdentityStateKind checkpoint.binding.stateKind &&
    db.bindings.entries.any fun entry =>
      decide (entry.1.organizationId = checkpoint.binding.organizationId) &&
        decide (entry.2.storeId = checkpoint.storeId) &&
        decide (entry.1.stateKind ≠ checkpoint.binding.stateKind) &&
        isHumanIdentityStateKind entry.1.stateKind

def elsewhere (db : WitnessDatabase) : WitnessRequest → Bool
  | .enroll _ checkpoint => db.heldElsewhere checkpoint
  | _ => false

/-- What a request comes to. -/
def applied (db : WitnessDatabase) (request : WitnessRequest) : Applied :=
  applyRequest (db.elsewhere request) (db.bindings.get request.binding.slot) request

/-- The database after a request. -/
def apply (db : WitnessDatabase) (request : WitnessRequest) : WitnessDatabase where
  bindings :=
    match (db.applied request).row with
    | some row => db.bindings.set request.binding.slot row
    | none => db.bindings
  history := db.history ++ (db.applied request).recorded.map fun record =>
    (request.binding.slot, record)

def run (db : WitnessDatabase) (requests : List WitnessRequest) : WitnessDatabase :=
  requests.foldl apply db

end WitnessDatabase

/-- The storage key of the first protocol. -/
structure WitnessSlotV1 where
  stateKind : AuthorityStateKind
  organizationId : String
deriving DecidableEq

def WitnessSlotV1.migrated (slot : WitnessSlotV1) : WitnessSlot :=
  ⟨slot.stateKind,slot.organizationId,""⟩

theorem WitnessSlotV1.migrated_injective : Function.Injective WitnessSlotV1.migrated := by
  intro a b h
  cases a
  cases b
  simp only [WitnessSlotV1.migrated,WitnessSlot.mk.injEq] at h
  obtain ⟨rfl,rfl,-⟩ := h
  rfl

/-- The copied rows: `INSERT … SELECT` over a table keyed as the new one is. -/
def copiedBindings (v1 : WitnessTables WitnessSlotV1) : OrderedMap WitnessSlot BindingRow where
  entries := v1.bindings.entries.map fun entry => (entry.1.migrated, entry.2)
  nodup := by
    rw [List.map_map]
    have hkeys : (Prod.fst ∘ fun entry : WitnessSlotV1 × BindingRow =>
        (entry.1.migrated, entry.2)) = WitnessSlotV1.migrated ∘ Prod.fst := rfl
    rw [hkeys,← List.map_map]
    exact v1.bindings.nodup.map WitnessSlotV1.migrated_injective

/-- Every old row is found under its new key, exactly. -/
def carriedExactly (v1 : WitnessTables WitnessSlotV1) (copied : OrderedMap WitnessSlot BindingRow) : Bool :=
  decide (copied.entries.length = v1.bindings.entries.length) &&
    v1.bindings.entries.all fun entry => copied.get entry.1.migrated == some entry.2

/-- The migration of `openAtV2`; `none` when it does not carry every binding exactly. -/
def migrateV1 (v1 : WitnessTables WitnessSlotV1) : Option WitnessDatabase :=
  if carriedExactly v1 (copiedBindings v1) then
    some ⟨copiedBindings v1,v1.history.map fun entry => (entry.1.migrated, entry.2)⟩
  else none

end Frontera.Freshness
