import Frontera.Freshness.Session

/-! Any number of processes share one local store and one witness slot. What a call of `session.ts`
awaits is a witness call: the request is in flight, the witness may handle it any number of times
and at any later moment, and the caller goes on with any answer it was given, or with the failure of
the call. Between two awaits a call is one step, and one that takes no more steps has crashed. The
queue that runs one call of a session at a time only removes interleavings, so it is left out; and
an adversary may put back any content that the local store held. -/

namespace Frontera.Freshness

/-- A request in flight, with the answers the witness has given to it. -/
structure WitnessCall where
  request : WitnessRequest
  answers : List (WitnessOutcome × WitnessBindingState)

/-- On whose behalf `settle` compares: an `establish`, with the number of events before it
began, or a session's `probe`, with the first state it was given. -/
inductive SettlePurpose where
  | establish (start : Nat) (opened : AuthorityStateCheckpoint)
  | probe (session : Nat) (first : WitnessBindingState)
deriving DecidableEq

/-- Where a call stands: the witness call it awaits. -/
inductive FreshnessTask where
  | genesisReading (round call : Nat)
  | genesisEnrolling (round : Nat) (storeId : String) (call : Nat)
  /-- `genesisStoreId` has returned, and the local genesis is not committed yet. -/
  | genesisCommitting (storeId : String)
  | establishing (start : Nat) (opened : AuthorityStateCheckpoint) (enrollment : Bool) (call : Nat)
  | enrolling (start : Nat) (opened : AuthorityStateCheckpoint) (call : Nat)
  | settling (purpose : SettlePurpose) (round : Nat) (witnessed : WitnessBindingState)
      (code : FreshnessErrorCode) (call : Nat)
  | finalizing (start : Nat) (current : AuthorityStateCheckpoint) (call : Nat)
  | finalizingOutstanding (session : Nat) (expected proposed outstanding : AuthorityStateCheckpoint)
      (call : Nat)
  | preparing (session : Nat) (expected proposed : AuthorityStateCheckpoint) (again : Bool)
      (call : Nat)
  | finalizingExpected (session : Nat) (expected proposed : AuthorityStateCheckpoint) (call : Nat)
  | finalizingProposed (session : Nat) (proposed : AuthorityStateCheckpoint) (call : Nat)
  | probing (session call : Nat)
  | probeFinalizing (session : Nat) (localHead : AuthorityStateCheckpoint) (call : Nat)
  | done
deriving DecidableEq

inductive FreshnessEvent where
  | genesisRefused (code : FreshnessErrorCode)
  /-- Without a code: the store itself could not read its head. -/
  | establishRefused (code : Option FreshnessErrorCode)
  | established (start session : Nat) (head : AuthorityStateCheckpoint)
  /-- `observe` accepted this head. -/
  | observed (session : Nat) (head : AuthorityStateCheckpoint)
  /-- A session's `transition` was called. -/
  | began (task session : Nat)
  | committed (task session : Nat) (head : AuthorityStateCheckpoint)
  | returned (task session : Nat) (checkpoint : AuthorityStateCheckpoint)
  | threw (task session : Nat) (code : FreshnessErrorCode)
deriving DecidableEq

structure FreshnessSystem where
  slot : WitnessBindingState
  log : List WitnessRecord
  /-- The head of the local store; `none` when the file is empty. -/
  content : Option AuthorityStateCheckpoint
  /-- Every content the local store has had. -/
  held : List (Option AuthorityStateCheckpoint)
  calls : List WitnessCall
  tasks : List FreshnessTask
  sessions : List FreshnessSession
  events : List FreshnessEvent

/-- What a step meets outside the session: a new store id, whether another identity domain
holds the store, whether the local head can be read and passes through `observe` while a
probe reads it, and whether a local commit raises. -/
structure Surroundings where
  newStoreId : String
  (siblingHolds unreadable observes commitRaises : Bool)

inductive FreshnessStep where
  /-- The witness handles a request in flight. -/
  | deliver (call : Nat) (elsewhere : Bool)
  /-- The local store is replaced by a content it held. -/
  | restore (index : Nat)
  | openStore (enrollment : Bool)
  /-- A call goes on with an answer of its witness call, or with the call's failure. -/
  | answer (task : Nat) (reply : Except FreshnessErrorCode Nat) (around : Surroundings)
  | commitGenesis (task : Nat)
  | transition (session : Nat) (expected proposed : AuthorityStateCheckpoint)
  | probe (session : Nat)
  | observe (session : Nat)

/-- The content of an existing store, by its id and head. -/
def contentOf (binding : AuthorityStateBinding) (store : Option (String × AuthorityStateHead)) :
    Option AuthorityStateCheckpoint :=
  store.map fun named => ⟨binding,named.1,named.2⟩

namespace FreshnessSystem

/-- An unbound slot, and a local store that is empty or exists already. -/
def start (binding : AuthorityStateBinding) (store : Option (String × AuthorityStateHead)) :
    FreshnessSystem :=
  ⟨none,[],contentOf binding store,[contentOf binding store],[],[],[],[]⟩

def record (s : FreshnessSystem) (event : FreshnessEvent) : FreshnessSystem :=
  { s with events := s.events ++ [event] }

def setTask (s : FreshnessSystem) (task : Nat) (stage : FreshnessTask) : FreshnessSystem :=
  { s with tasks := s.tasks.set task stage }

/-- The call ends with this event. -/
def finish (s : FreshnessSystem) (task : Nat) (event : FreshnessEvent) : FreshnessSystem :=
  (s.setTask task .done).record event

/-- The request goes out, and the call awaits its answer. -/
def send (s : FreshnessSystem) (task : Nat) (request : WitnessRequest)
    (stage : Nat → FreshnessTask) : FreshnessSystem :=
  { s with
    calls := s.calls ++ [⟨request,[]⟩]
    tasks := s.tasks.set task (stage s.calls.length) }

/-- A new call, which awaits the answer to its first request. -/
def spawn (s : FreshnessSystem) (request : WitnessRequest) (stage : Nat → FreshnessTask) :
    FreshnessSystem :=
  { s with
    calls := s.calls ++ [⟨request,[]⟩]
    tasks := s.tasks ++ [stage s.calls.length] }

def withContent (s : FreshnessSystem) (content : AuthorityStateCheckpoint) : FreshnessSystem :=
  { s with content := some content, held := s.held ++ [some content] }

def updateSession (s : FreshnessSystem) (session : Nat) (f : FreshnessSession → FreshnessSession) :
    FreshnessSystem :=
  { s with sessions := s.sessions.modify session f }

/-- The witness's transaction on the request of a call. -/
def deliver (s : FreshnessSystem) (call : Nat) (elsewhere : Bool) : FreshnessSystem :=
  match s.calls[call]? with
  | none => s
  | some inFlight =>
      let applied := applyRequest elsewhere s.slot inFlight.request
      { s with
        slot := applied.row
        log := s.log ++ applied.recorded
        calls := s.calls.set call
          { inFlight with answers := inFlight.answers ++ [(applied.outcome, applied.row)] } }

section Opening

variable (binding : AuthorityStateBinding) (genesisDigest : String → String)

def genesisCheckpoint (storeId : String) : AuthorityStateCheckpoint :=
  ⟨binding,storeId,0,genesisDigest storeId⟩

/-- The first read of `genesisStoreId` for an empty file, or of `establish`. -/
def openStore (s : FreshnessSystem) (enrollment : Bool) : FreshnessSystem :=
  match s.content with
  | none =>
      if (authorityStateBindingProblem binding).isSome then
        s.record (.genesisRefused .configurationInvalid)
      else s.spawn (.read binding) (.genesisReading 0)
  | some opened =>
      if (authorityStateBindingProblem opened.binding).isSome then
        s.record (.establishRefused (some .configurationInvalid))
      else s.spawn (.read opened.binding) (.establishing s.events.length opened enrollment)

/-- A round of `genesisStoreId`, from its read. -/
def genesisRead (s : FreshnessSystem) (task round : Nat) (witnessed : WitnessBindingState)
    (newStoreId : String) : FreshnessSystem :=
  match witnessed with
  | some row =>
      -- exactly that store's genesis and nothing after it is adopted
      if row.pending = none ∧ row.committed.sequence = 0 ∧
          row.committed.stateDigest = genesisDigest row.storeId then
        s.setTask task (.genesisCommitting row.storeId)
      else s.finish task (.genesisRefused .rollbackDetected)
  | none =>
      let checkpoint := genesisCheckpoint binding genesisDigest newStoreId
      if (WitnessRequest.enroll .genesis checkpoint).wellFormed then
        s.send task (.enroll .genesis checkpoint) (.genesisEnrolling round newStoreId)
      else s.finish task (.genesisRefused .configurationInvalid)

/-- The rest of a round, from its enrollment. -/
def genesisEnrolled (s : FreshnessSystem) (task round : Nat) (storeId : String)
    (outcome : WitnessOutcome) (witnessed : WitnessBindingState) : FreshnessSystem :=
  if outcome = .enrolled then s.setTask task (.genesisCommitting storeId)
  else if witnessed = none then s.finish task (.genesisRefused .alreadyEnrolled)
  else if round + 1 < 2 then s.send task (.read binding) (.genesisReading (round + 1))
  else s.finish task (.genesisRefused .conflict)

/-- The local genesis, unless the file has become a store meanwhile. -/
def commitGenesis (s : FreshnessSystem) (task : Nat) : FreshnessSystem :=
  match s.tasks[task]? with
  | some (.genesisCommitting storeId) =>
      match s.content with
      | none => (s.withContent (genesisCheckpoint binding genesisDigest storeId)).setTask task .done
      | some _ => s.setTask task .done
  | _ => s

end Opening

/-- `createSession` at the end of an `establish`. -/
def createSession (s : FreshnessSystem) (task began : Nat) (current : AuthorityStateCheckpoint) :
    FreshnessSystem :=
  { s with sessions := s.sessions ++ [FreshnessSession.establishedAt current] }.finish task
    (.established began s.sessions.length current)

/-- The head that `settle` reads, if it can be read, and the system after the read. -/
def readLocal (s : FreshnessSystem) (purpose : SettlePurpose) (around : Surroundings) :
    Option AuthorityStateCheckpoint × FreshnessSystem :=
  match s.content with
  | none => (none, s)
  | some localHead =>
      if around.unreadable then (none, s)
      else
        match purpose with
        | .establish _ _ => (some localHead, s)
        | .probe session _ =>
            match s.sessions[session]? with
            | none => (none, s)
            | some kept =>
                if around.observes then
                  let (problem, kept') := kept.observe true localHead
                  let s' := s.updateSession session fun _ => kept'
                  if problem.isSome then (none, s')
                  else (some localHead, s'.record (.observed session localHead))
                else (some localHead, s)

/-- A refusal of `settle`. -/
def refuse (s : FreshnessSystem) (task : Nat) (purpose : SettlePurpose) (code : FreshnessErrorCode)
    (witnessed : WitnessBindingState) : FreshnessSystem :=
  match purpose with
  | .establish _ _ => s.finish task (.establishRefused (some code))
  | .probe session _ =>
      (s.updateSession session fun kept =>
        match code, witnessed.bind (·.pending) with
        | .pendingRecovery, some pending => { kept with unresolved := some pending }
        | _, _ => if code.hasStatus then kept.fail code else kept).setTask task .done

/-- A head that `settle` accepts. -/
def conclude (s : FreshnessSystem) (task : Nat) (purpose : SettlePurpose) (verdict : Verdict)
    (localHead : AuthorityStateCheckpoint) : FreshnessSystem :=
  match purpose with
  | .establish began opened =>
      if localHead.binding ≠ opened.binding ∨ localHead.storeId ≠ opened.storeId then
        s.finish task (.establishRefused (some .bindingMismatch))
      else
        match verdict with
        | .ready => s.createSession task began localHead
        | .finalize =>
            if (WitnessRequest.finalize localHead).wellFormed then
              s.send task (.finalize localHead) (.finalizing began localHead)
            else s.finish task (.establishRefused (some .configurationInvalid))
  | .probe session first =>
      let s' := s.updateSession session fun kept => { kept with unresolved := none }
      match verdict with
      | .ready => (s'.updateSession session fun kept =>
          match kept.unfinalized with
          | some outstanding =>
              if finalizedPast first outstanding then { kept with unfinalized := none } else kept
          | none => kept).setTask task .done
      | .finalize =>
          if (WitnessRequest.finalize localHead).wellFormed then
            s'.send task (.finalize localHead) (.probeFinalizing session localHead)
          else s'.setTask task .done

/-- A witness that kept moving, or a head that could not be read. -/
def undecided (s : FreshnessSystem) (task : Nat) (purpose : SettlePurpose)
    (code : Option FreshnessErrorCode) : FreshnessSystem :=
  match purpose with
  | .establish _ _ => s.finish task (.establishRefused code)
  | .probe _ _ => s.setTask task .done

/-- One round of `settle`, from the witnessed state it compares with. -/
def settle (s : FreshnessSystem) (binding : AuthorityStateBinding) (task : Nat)
    (purpose : SettlePurpose) (round : Nat) (witnessed : WitnessBindingState)
    (around : Surroundings) : FreshnessSystem :=
  match s.readLocal purpose around with
  | (none, s') => s'.undecided task purpose none
  | (some localHead, s') =>
      match reconcile localHead witnessed with
      | .ok verdict => s'.conclude task purpose verdict localHead
      | .error code =>
          if !raceable code localHead witnessed then s'.refuse task purpose code witnessed
          else if round ≥ settleRounds then s'.undecided task purpose (some .conflict)
          else s'.send task (.read binding) (.settling purpose round witnessed code)

/-- `establish`, from its first read. -/
def establishRead (s : FreshnessSystem) (binding : AuthorityStateBinding) (task began : Nat)
    (opened : AuthorityStateCheckpoint) (enrollment : Bool) (witnessed : WitnessBindingState)
    (around : Surroundings) : FreshnessSystem :=
  if !enrollment then s.settle binding task (.establish began opened) 0 witnessed around
  else if isHumanIdentityStateKind opened.binding.stateKind ∧
      opened.binding.stateKind ≠ .humanIdentityState ∧ around.siblingHolds then
    s.finish task (.establishRefused (some .alreadyEnrolled))
  else
    match witnessed with
    | none =>
        if (WitnessRequest.enroll .baseline opened).wellFormed then
          s.send task (.enroll .baseline opened) (.enrolling began opened)
        else s.finish task (.establishRefused (some .configurationInvalid))
    | some row =>
        if row.storeId = opened.storeId ∧ row.pending = none ∧ row.committed = opened.head then
          s.settle binding task (.establish began opened) 0 witnessed around
        else s.finish task (.establishRefused (some .alreadyEnrolled))

/-- A transition that ends before its local commit. -/
def throws (s : FreshnessSystem) (task session : Nat) (code : FreshnessErrorCode) : FreshnessSystem :=
  s.finish task (.threw task session code)

/-- `fail` in a transition: the failure sticks, and the first one is thrown. -/
def throwSticky (s : FreshnessSystem) (task session : Nat) (kept : FreshnessSession)
    (code : FreshnessErrorCode) : FreshnessSystem :=
  (s.updateSession session fun other => other.fail code).throws task session
    (kept.sticky.getD code)

def sendPrepare (s : FreshnessSystem) (task session : Nat)
    (expected proposed : AuthorityStateCheckpoint) (again : Bool) : FreshnessSystem :=
  if (WitnessRequest.prepare expected proposed).wellFormed then
    s.send task (.prepare expected proposed) (.preparing session expected proposed again)
  else s.throws task session .configurationInvalid

/-- `transition` up to its first witness call. -/
def transition (s : FreshnessSystem) (session : Nat) (expected proposed : AuthorityStateCheckpoint) :
    FreshnessSystem :=
  let task := s.tasks.length
  let s' := { s with tasks := s.tasks ++ [FreshnessTask.done] }.record (.began task session)
  match s.sessions[session]? with
  | none => s
  | some kept =>
      match kept.sticky with
      | some code => s'.throws task session code
      | none =>
          if expected.binding ≠ kept.binding ∨ expected.storeId ≠ kept.storeId ∨
              proposed.binding ≠ kept.binding ∨ proposed.storeId ≠ kept.storeId ∨
              proposed.sequence ≠ expected.sequence + 1 then
            s'.throws task session .configurationInvalid
          else
            match kept.unfinalized with
            | some outstanding => s'.send task (.finalize outstanding)
                (.finalizingOutstanding session expected proposed outstanding)
            | none => s'.sendPrepare task session expected proposed false

/-- The local commit, once the witness has prepared: the store's transaction revalidates
that the local head is the expected one. -/
def commit (s : FreshnessSystem) (task session : Nat) (kept : FreshnessSession)
    (expected proposed : AuthorityStateCheckpoint) (around : Surroundings) : FreshnessSystem :=
  if s.content = some expected ∧ around.commitRaises = false then
    (((s.withContent proposed).updateSession session fun other => other.commit proposed).record
      (.committed task session proposed)).send task (.finalize proposed)
        (.finalizingProposed session proposed)
  else s.throwSticky task session kept .pendingRecovery

/-- From the answer to a prepare. -/
def prepared (s : FreshnessSystem) (task session : Nat) (kept : FreshnessSession)
    (expected proposed : AuthorityStateCheckpoint) (again : Bool) (outcome : WitnessOutcome)
    (witnessed : WitnessBindingState) (around : Surroundings) : FreshnessSystem :=
  if outcome = .prepared then s.commit task session kept expected proposed around
  else if again then s.throws task session .conflict
  else
    match witnessed with
    | some row =>
        -- the witness holds, prepared, the head that was just verified as current
        if row.storeId = kept.storeId ∧ row.pending = some expected.head then
          s.send task (.finalize expected) (.finalizingExpected session expected proposed)
        else s.throws task session .conflict
    | none => s.throws task session .conflict

/-- From the answer to the finalize of the transition's own checkpoint. -/
def finalizedProposed (s : FreshnessSystem) (task session : Nat) (kept : FreshnessSession)
    (proposed : AuthorityStateCheckpoint)
    (reply : Except FreshnessErrorCode (WitnessOutcome × WitnessBindingState)) : FreshnessSystem :=
  match reply with
  | .error code =>
      match kept.sticky with
      | some _ => s.throws task session code
      | none => (s.updateSession session fun other =>
          { other with unfinalized := some proposed }).finish task (.returned task session proposed)
  | .ok (outcome, witnessed) =>
      if outcome = .finalized ∨ finalizedPast witnessed proposed then
        s.finish task (.returned task session proposed)
      else s.throwSticky task session kept .forkDetected

/-- A call of a session goes on. -/
def answerSession (s : FreshnessSystem) (task session : Nat) (kept : FreshnessSession)
    (stage : FreshnessTask) (reply : Except FreshnessErrorCode (WitnessOutcome × WitnessBindingState))
    (around : Surroundings) (binding : AuthorityStateBinding) : FreshnessSystem :=
  -- `witnessCall`
  let s := match reply with
    | .error code => s.updateSession session fun other => other.callFailed code
    | .ok _ => s.updateSession session FreshnessSession.callAnswered
  match stage, reply with
  | .finalizingOutstanding _ expected proposed outstanding _, .ok (outcome, witnessed) =>
      if outcome = .finalized ∨ finalizedPast witnessed outstanding then
        (s.updateSession session fun other => { other with unfinalized := none }).sendPrepare task
          session expected proposed false
      else s.throwSticky task session kept .forkDetected
  | .finalizingOutstanding _ _ _ _ _, .error code => s.throws task session code
  | .preparing _ expected proposed again _, .ok (outcome, witnessed) =>
      s.prepared task session kept expected proposed again outcome witnessed around
  | .preparing _ _ _ _ _, .error code => s.throws task session code
  | .finalizingExpected _ expected proposed _, .ok (outcome, _) =>
      if outcome = .finalized then s.sendPrepare task session expected proposed true
      else s.throws task session .conflict
  | .finalizingExpected _ _ _ _, .error code => s.throws task session code
  | .finalizingProposed _ proposed _, reply => s.finalizedProposed task session kept proposed reply
  | .probing _ _, .ok (_, witnessed) =>
      s.settle binding task (.probe session witnessed) 0 witnessed around
  | .probing _ _, .error _ => s.setTask task .done
  | .probeFinalizing _ localHead _, .ok (outcome, witnessed) =>
      (s.updateSession session fun other =>
        if (outcome = .finalized ∨ finalizedPast witnessed localHead) ∧
            other.unfinalized.map (·.head) = some localHead.head then
          { other with unfinalized := none }
        else other).setTask task .done
  | .probeFinalizing _ _ _, .error code => (s.updateSession session fun other =>
      if code.hasStatus then other.fail code else other).setTask task .done
  | .settling purpose round witnessed code _, .ok (_, again) =>
      if again = witnessed then s.refuse task purpose code witnessed
      else s.settle binding task purpose (round + 1) again around
  | .settling _ _ _ _ _, .error _ => s.setTask task .done
  | _, _ => s

/-- A call of an opening goes on. -/
def answerOpening (s : FreshnessSystem) (task : Nat) (stage : FreshnessTask)
    (reply : Except FreshnessErrorCode (WitnessOutcome × WitnessBindingState))
    (around : Surroundings) (binding : AuthorityStateBinding) (genesisDigest : String → String) :
    FreshnessSystem :=
  match stage, reply with
  | .genesisReading round _, .ok (_, witnessed) =>
      s.genesisRead binding genesisDigest task round witnessed around.newStoreId
  | .genesisReading _ _, .error code => s.finish task (.genesisRefused code)
  | .genesisEnrolling round storeId _, .ok (outcome, witnessed) =>
      s.genesisEnrolled binding task round storeId outcome witnessed
  | .genesisEnrolling _ _ _, .error code => s.finish task (.genesisRefused code)
  | .establishing began opened enrollment _, .ok (_, witnessed) =>
      s.establishRead binding task began opened enrollment witnessed around
  | .establishing _ _ _ _, .error code => s.finish task (.establishRefused (some code))
  | .enrolling began opened _, .ok (outcome, witnessed) =>
      if outcome = .enrolled then
        s.settle binding task (.establish began opened) 0 witnessed around
      else s.finish task (.establishRefused (some .alreadyEnrolled))
  | .enrolling _ _ _, .error code => s.finish task (.establishRefused (some code))
  | .settling purpose round witnessed code _, .ok (_, again) =>
      if again = witnessed then s.refuse task purpose code witnessed
      else s.settle binding task purpose (round + 1) again around
  | .settling _ _ _ _ _, .error code => s.finish task (.establishRefused (some code))
  | .finalizing began current _, .ok (outcome, witnessed) =>
      if outcome = .finalized ∨ finalizedPast witnessed current then
        s.createSession task began current
      else s.finish task (.establishRefused (some .forkDetected))
  | .finalizing _ _ _, .error code => s.finish task (.establishRefused (some code))
  | _, _ => s

end FreshnessSystem

/-- The witness call a stage awaits. -/
def FreshnessTask.call? : FreshnessTask → Option Nat
  | .genesisReading _ call | .genesisEnrolling _ _ call | .establishing _ _ _ call
  | .enrolling _ _ call | .settling _ _ _ _ call | .finalizing _ _ call
  | .finalizingOutstanding _ _ _ _ call | .preparing _ _ _ _ call
  | .finalizingExpected _ _ _ call | .finalizingProposed _ _ call | .probing _ call
  | .probeFinalizing _ _ call => some call
  | .genesisCommitting _ | .done => none

/-- The session a stage belongs to; an opening belongs to none. -/
def FreshnessTask.session? : FreshnessTask → Option Nat
  | .settling (.probe session _) _ _ _ _ => some session
  | .finalizingOutstanding session _ _ _ _ | .preparing session _ _ _ _
  | .finalizingExpected session _ _ _ | .finalizingProposed session _ _ | .probing session _
  | .probeFinalizing session _ _ => some session
  | _ => none

namespace FreshnessSystem

/-- The reply to a call, once the witness has given it. -/
def reply? (s : FreshnessSystem) (call : Nat) (reply : Except FreshnessErrorCode Nat) :
    Option (Except FreshnessErrorCode (WitnessOutcome × WitnessBindingState)) :=
  match reply with
  | .error code => some (.error code)
  | .ok index => (s.calls[call]?.bind fun inFlight => inFlight.answers[index]?).map .ok

section Run

variable (binding : AuthorityStateBinding) (genesisDigest : String → String)

def answer (s : FreshnessSystem) (task : Nat) (reply : Except FreshnessErrorCode Nat)
    (around : Surroundings) : FreshnessSystem :=
  match s.tasks[task]? with
  | none => s
  | some stage =>
      match stage.call?.bind fun call => s.reply? call reply with
      | none => s
      | some reply =>
          match stage.session? with
          | none => s.answerOpening task stage reply around binding genesisDigest
          | some session =>
              match s.sessions[session]? with
              | none => s
              | some kept => s.answerSession task session kept stage reply around binding

def step (s : FreshnessSystem) : FreshnessStep → FreshnessSystem
  | .deliver call elsewhere => s.deliver call elsewhere
  | .restore index =>
      match s.held[index]? with
      | none => s
      | some content => { s with content := content }
  | .openStore enrollment => s.openStore binding enrollment
  | .answer task reply around => s.answer binding genesisDigest task reply around
  | .commitGenesis task => s.commitGenesis binding genesisDigest task
  | .transition session expected proposed => s.transition session expected proposed
  | .probe session =>
      match s.sessions[session]? with
      | none => s
      | some kept => if kept.sticky.isSome then s else s.spawn (.read binding) (.probing session)
  | .observe session =>
      match s.sessions[session]?, s.content with
      | some kept, some localHead =>
          let (problem, kept') := kept.observe false localHead
          let s' := s.updateSession session fun _ => kept'
          if problem.isSome then s' else s'.record (.observed session localHead)
      | _, _ => s

def run (store : Option (String × AuthorityStateHead)) (steps : List FreshnessStep) : FreshnessSystem :=
  steps.foldl (step binding genesisDigest) (start binding store)

end Run

end FreshnessSystem

end Frontera.Freshness
