import Frontera.Freshness.Witness

/-! What a store does with the witness, as `session.ts` has it: comparing a local head with a
witnessed state, and the state a session keeps between its calls. -/

namespace Frontera.Freshness

/-- `AuthorityStateFreshnessErrorCode` -/
inductive FreshnessErrorCode where
  | unavailable | authenticationFailed | refused | malformedResponse | witnessUnauthentic
  | protocolUnsupported | bindingMismatch | rollbackDetected | forkDetected | pendingRecovery
  | unboundStore | alreadyEnrolled | conflict | configurationInvalid
deriving DecidableEq

/-- `STATUS_FOR_CODE` names a status for these. -/
def FreshnessErrorCode.hasStatus : FreshnessErrorCode → Bool
  | .rollbackDetected | .forkDetected | .bindingMismatch | .pendingRecovery | .unboundStore => true
  | _ => false

/-- What a comparison allows: the heads agree, or the prepared successor is the local head. -/
inductive Verdict where
  | ready | finalize

def reconcile (localHead : AuthorityStateCheckpoint) (witnessed : WitnessBindingState) :
    Except FreshnessErrorCode Verdict :=
  match witnessed with
  | none => .error .unboundStore
  | some row =>
      if row.storeId ≠ localHead.storeId then .error .bindingMismatch
      else if row.pending = some localHead.head then .ok .finalize
      else if localHead.sequence < row.committed.sequence then .error .rollbackDetected
      else if row.pending.isSome ∧ row.committed = localHead.head then .error .pendingRecovery
      else if row.committed = localHead.head then .ok .ready
      else .error .forkDetected

/-- The witness shows a checkpoint it held prepared as committed, or committed past it. -/
def finalizedPast (witnessed : WitnessBindingState) (checkpoint : AuthorityStateCheckpoint) : Bool :=
  match witnessed with
  | none => false
  | some row => decide (row.storeId = checkpoint.storeId) &&
      (decide (row.committed.sequence > checkpoint.sequence) || decide (row.committed = checkpoint.head))

/-- `SETTLE_ROUNDS` -/
def settleRounds : Nat := 3

/-- Whether a writer in another process can explain the refusal. -/
def raceable (code : FreshnessErrorCode) (localHead : AuthorityStateCheckpoint)
    (witnessed : WitnessBindingState) : Bool :=
  match code, witnessed with
  | .pendingRecovery, _ => true
  | .forkDetected, some row => decide (localHead.sequence > row.committed.sequence) &&
      !decide (row.pending.map (·.sequence) = some localHead.sequence)
  | _, _ => false

structure FreshnessSession where
  binding : AuthorityStateBinding
  storeId : String
  /-- The newest checkpoint this process has established or committed. -/
  floor : AuthorityStateCheckpoint
  /-- A failure that is never cleared in this process. -/
  sticky : Option FreshnessErrorCode
  /-- The last read's observation failure. -/
  observed : Option FreshnessErrorCode
  /-- A prepared successor the local store does not hold. -/
  unresolved : Option AuthorityStateHead
  /-- Committed locally, its finalize not confirmed. -/
  unfinalized : Option AuthorityStateCheckpoint
  witnessUnavailable : Bool

namespace FreshnessSession

/-- `createSession` -/
def establishedAt (established : AuthorityStateCheckpoint) : FreshnessSession :=
  ⟨established.binding,established.storeId,established,none,none,none,none,false⟩

/-- `fail`: the first failure stands. -/
def fail (session : FreshnessSession) (code : FreshnessErrorCode) : FreshnessSession :=
  { session with sticky := some (session.sticky.getD code) }

/-- What speaks against a head that is read. -/
def observation (session : FreshnessSession) (localHead : AuthorityStateCheckpoint) :
    Option FreshnessErrorCode :=
  if localHead.binding ≠ session.binding ∨ localHead.storeId ≠ session.storeId then
    some .bindingMismatch
  else if localHead.sequence < session.floor.sequence then some .rollbackDetected
  else if localHead.sequence = session.floor.sequence ∧
      localHead.head.stateDigest ≠ session.floor.head.stateDigest then some .forkDetected
  else none

/-- `observe` past the sticky failure and the unresolved successor. -/
def observeHead (session : FreshnessSession) (localHead : AuthorityStateCheckpoint) :
    Option FreshnessErrorCode × FreshnessSession :=
  match session.observation localHead with
  | some problem => (some problem, { session with observed := some problem })
  | none => (none, { session with
      observed := none
      floor := if localHead.sequence > session.floor.sequence then localHead else session.floor })

/-- `observe`, with the error it raises. `probeReading` is set during a probe's own read. -/
def observe (session : FreshnessSession) (probeReading : Bool)
    (localHead : AuthorityStateCheckpoint) : Option FreshnessErrorCode × FreshnessSession :=
  match session.sticky with
  | some code => (some code, session)
  | none =>
      if probeReading then session.observeHead localHead
      else
        match session.unresolved with
        | none => session.observeHead localHead
        | some pending =>
            if localHead.binding = session.binding ∧ localHead.storeId = session.storeId ∧
                localHead.head = pending then
              { session with unresolved := none }.observeHead localHead
            else (some .pendingRecovery, session)

/-- `witnessCall` on a call that raised. -/
def callFailed (session : FreshnessSession) (code : FreshnessErrorCode) : FreshnessSession :=
  if code = .unavailable then { session with witnessUnavailable := true } else session

/-- `witnessCall` on a call that was answered. -/
def callAnswered (session : FreshnessSession) : FreshnessSession :=
  { session with witnessUnavailable := false }

/-- The floor after a local commit. -/
def commit (session : FreshnessSession) (proposed : AuthorityStateCheckpoint) : FreshnessSession :=
  if proposed.sequence > session.floor.sequence then { session with floor := proposed }
  else session

end FreshnessSession

end Frontera.Freshness
