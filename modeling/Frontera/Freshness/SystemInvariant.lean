import Frontera.Freshness.Growth

/-! The witness has recorded every content that the local store held, before the store held it, and
has recorded one head at most for each sequence. A call in flight, a stage, a session's floor and an
event each say what has been recorded for them; and every change a step is made of keeps all of it.
-/

namespace Frontera.Freshness

open Frontera.Data List

/-- At or beyond a checkpoint: of a greater sequence, or the same head. -/
def AtLeast (head checkpoint : AuthorityStateCheckpoint) : Prop :=
  checkpoint.sequence ≤ head.sequence ∧
    (checkpoint.sequence = head.sequence → checkpoint.head.stateDigest = head.head.stateDigest)

theorem AtLeast.refl (head : AuthorityStateCheckpoint) : AtLeast head head :=
  ⟨Int.le_refl _,fun _ => rfl⟩

theorem AtLeast.trans {a b c : AuthorityStateCheckpoint} (hab : AtLeast a b) (hbc : AtLeast b c) :
    AtLeast a c := by
  obtain ⟨hle,hsame⟩ := hab
  obtain ⟨hle',hsame'⟩ := hbc
  refine ⟨Int.le_trans hle' hle,fun heq => ?_⟩
  rw [hsame' (by omega),hsame (by omega)]

/-- The head is at or beyond every transition that had returned when `began` events had
happened. -/
def BeyondReturned (s : FreshnessSystem) (began : Nat) (head : AuthorityStateCheckpoint) : Prop :=
  ∀ task session checkpoint, .returned task session checkpoint ∈ s.events.take began →
    AtLeast head checkpoint

/-- A state that the slot had, at a moment when everything returned before `began` was
recorded. -/
def Snapshot (s : FreshnessSystem) (began : Nat) (state : WitnessBindingState) : Prop :=
  ∃ log, log <+: s.log ∧ LogSound state log ∧
    ∀ task session checkpoint, .returned task session checkpoint ∈ s.events.take began →
      RecordedIn log checkpoint

/-- The call in flight: its request, and what its answers are. -/
def InFlight (s : FreshnessSystem) (began : Nat) (call : Nat) (request : WitnessRequest) : Prop :=
  began ≤ s.events.length ∧ ∃ inFlight, s.calls[call]? = some inFlight ∧
    inFlight.request = request ∧ ∀ answer ∈ inFlight.answers, Snapshot s began answer.2 ∧
      appliedStateProblem request answer.1 answer.2 = none

section Invariant

variable (binding : AuthorityStateBinding) (genesisDigest : String → String)
  (initial : Option AuthorityStateCheckpoint)

def TaskSound (s : FreshnessSystem) : FreshnessTask → Prop
  | .genesisReading _ call => initial = none ∧ InFlight s 0 call (.read binding)
  | .genesisEnrolling _ storeId call => initial = none ∧ InFlight s 0 call
      (.enroll .genesis (FreshnessSystem.genesisCheckpoint binding genesisDigest storeId))
  | .genesisCommitting storeId =>
      RecordedIn s.log (FreshnessSystem.genesisCheckpoint binding genesisDigest storeId)
  | .establishing began opened _ call => some opened ∈ s.held ∧ InFlight s began call (.read opened.binding)
  | .enrolling began opened call => InFlight s began call (.enroll .baseline opened)
  | .settling (.establish began _) _ _ _ call => InFlight s began call (.read binding)
  | .finalizing began current _ => began ≤ s.events.length ∧ RecordedIn s.log current ∧
      BeyondReturned s began current
  | .preparing _ expected proposed _ call => InFlight s 0 call (.prepare expected proposed)
  | .finalizingProposed _ proposed _ => RecordedIn s.log proposed
  | _ => True

/-- A request that may be handled at any moment. -/
def RequestSound (s : FreshnessSystem) (request : WitnessRequest) : Prop :=
  request.OneForward ∧ ∀ enrollment checkpoint, request = .enroll enrollment checkpoint →
    s.slot = none → initial = none ∨ initial = some checkpoint

/-- A head that a session accepted or committed lies at its floor or below. -/
def FloorAbove (s : FreshnessSystem) (session : Nat) (head : AuthorityStateCheckpoint) : Prop :=
  ∃ kept, s.sessions[session]? = some kept ∧ AtLeast kept.floor head

def EventSound (s : FreshnessSystem) : FreshnessEvent → Prop
  | .established began _ head => began ≤ s.events.length ∧ BeyondReturned s began head
  | .returned _ _ checkpoint => RecordedIn s.log checkpoint
  | .observed session head => FloorAbove s session head
  | .committed _ session head => FloorAbove s session head
  | _ => True

/-- The head an event accepts or commits in a session. -/
def FreshnessEvent.head? (session : Nat) : FreshnessEvent → Option AuthorityStateCheckpoint
  | .observed other head => if other = session then some head else none
  | .committed _ other head => if other = session then some head else none
  | _ => none

structure SystemSound (s : FreshnessSystem) : Prop where
  slot : LogSound s.slot s.log
  content : s.content ∈ s.held
  empty : none ∈ s.held → initial = none
  unbound : s.slot = none → ∀ content ∈ s.held, content = initial
  bound : s.slot ≠ none → ∀ content, some content ∈ s.held → RecordedIn s.log content
  calls : ∀ call ∈ s.calls, RequestSound initial s call.request
  tasks : ∀ task ∈ s.tasks, TaskSound binding genesisDigest initial s task
  sessions : ∀ kept ∈ s.sessions, RecordedIn s.log kept.floor
  events : ∀ event ∈ s.events, EventSound s event
  forward : ∀ before session head later, s.events = before ++ .observed session head :: later →
    ∀ event ∈ before, ∀ earlier, event.head? session = some earlier → AtLeast head earlier

end Invariant

variable {binding : AuthorityStateBinding} {genesisDigest : String → String}
  {initial : Option AuthorityStateCheckpoint} {s s' : FreshnessSystem} {began : Nat}

theorem BeyondReturned.grow {head : AuthorityStateCheckpoint} (hgrows : Grows s s')
    (hbegan : began ≤ s.events.length) (h : BeyondReturned s began head) :
    BeyondReturned s' began head := by
  intro task session checkpoint hreturned
  rw [hgrows.take hbegan] at hreturned
  exact h task session checkpoint hreturned

theorem InFlight.grow {call : Nat} {request : WitnessRequest} (hgrows : Grows s s')
    (hevents : ∀ event ∈ s.events, EventSound s event) (h : InFlight s began call request) :
    InFlight s' began call request := by
  obtain ⟨hbegan,inFlight,hcall,rfl,hanswers⟩ := h
  obtain ⟨later,hlater,hrequest,hgiven⟩ := hgrows.calls call inFlight hcall
  refine ⟨Nat.le_trans hbegan hgrows.events.length_le,later,hlater,hrequest,?_⟩
  intro answer hanswer
  rcases hgiven answer hanswer with hold | ⟨-,hsound,happlied⟩
  · obtain ⟨⟨log,hlog,hsound,hrecorded⟩,happlied⟩ := hanswers answer hold
    refine ⟨⟨log,hlog.trans hgrows.log,hsound,?_⟩,happlied⟩
    rw [hgrows.take hbegan]
    exact hrecorded
  · -- a new answer shows the slot as it is now
    refine ⟨⟨s'.log,prefix_refl _,hsound,?_⟩,happlied⟩
    rw [hgrows.take hbegan]
    intro task session checkpoint hreturned
    exact RecordedIn.mono (hevents _ (mem_of_mem_take hreturned)) hgrows.log

theorem TaskSound.grow {stage : FreshnessTask} (hgrows : Grows s s')
    (hevents : ∀ event ∈ s.events, EventSound s event)
    (h : TaskSound binding genesisDigest initial s stage) :
    TaskSound binding genesisDigest initial s' stage := by
  cases stage with
  | genesisReading round call => exact ⟨h.1,h.2.grow hgrows hevents⟩
  | genesisEnrolling round storeId call => exact ⟨h.1,h.2.grow hgrows hevents⟩
  | genesisCommitting storeId => exact RecordedIn.mono h hgrows.log
  | establishing began opened enrollment call =>
    exact ⟨hgrows.held h.1,h.2.grow hgrows hevents⟩
  | enrolling began opened call => exact InFlight.grow hgrows hevents h
  | settling purpose round witnessed code call =>
    cases purpose with
    | establish began opened => exact InFlight.grow hgrows hevents h
    | probe session first => trivial
  | finalizing began current call =>
    exact ⟨Nat.le_trans h.1 hgrows.events.length_le,h.2.1.mono hgrows.log,h.2.2.grow hgrows h.1⟩
  | preparing session expected proposed again call => exact InFlight.grow hgrows hevents h
  | finalizingProposed session proposed call => exact RecordedIn.mono h hgrows.log
  | finalizingOutstanding session expected proposed outstanding call => trivial
  | finalizingExpected session expected proposed call => trivial
  | probing session call => trivial
  | probeFinalizing session localHead call => trivial
  | done => trivial

/-- Every session stays, and its floor only rises. -/
def FloorsRise (s s' : FreshnessSystem) : Prop :=
  ∀ (session : Nat) (kept : FreshnessSession), s.sessions[session]? = some kept →
    ∃ later : FreshnessSession, s'.sessions[session]? = some later ∧ AtLeast later.floor kept.floor

theorem FloorsRise.refl (s : FreshnessSystem) : FloorsRise s s :=
  fun _ kept h => ⟨kept,h,.refl _⟩

theorem FloorAbove.grow {session : Nat} {head : AuthorityStateCheckpoint} (hrise : FloorsRise s s')
    (h : FloorAbove s session head) : FloorAbove s' session head := by
  obtain ⟨kept,hkept,habove⟩ := h
  obtain ⟨later,hlater,hfloor⟩ := hrise session kept hkept
  exact ⟨later,hlater,hfloor.trans habove⟩

theorem EventSound.grow {event : FreshnessEvent} (hgrows : Grows s s') (hrise : FloorsRise s s')
    (h : EventSound s event) : EventSound s' event := by
  cases event with
  | established began session head =>
    exact ⟨Nat.le_trans h.1 hgrows.events.length_le,h.2.grow hgrows h.1⟩
  | returned task session checkpoint => exact RecordedIn.mono h hgrows.log
  | observed session head => exact FloorAbove.grow hrise h
  | committed task session head => exact FloorAbove.grow hrise h
  | genesisRefused code => trivial
  | establishRefused code => trivial
  | began task session => trivial
  | threw task session code => trivial

theorem RequestSound.of_not_enroll {request : WitnessRequest} (hforward : request.OneForward)
    (h : ∀ enrollment checkpoint, request ≠ .enroll enrollment checkpoint) :
    RequestSound initial s request :=
  ⟨hforward,fun enrollment checkpoint heq => absurd heq (h enrollment checkpoint)⟩

theorem RequestSound.read (named : AuthorityStateBinding) : RequestSound initial s (.read named) :=
  .of_not_enroll trivial fun _ _ heq => by cases heq

theorem RequestSound.finalize (checkpoint : AuthorityStateCheckpoint) :
    RequestSound initial s (.finalize checkpoint) :=
  .of_not_enroll trivial fun _ _ heq => by cases heq

variable {stage : FreshnessTask} {event : FreshnessEvent} {f : FreshnessSession → FreshnessSession}

theorem SystemSound.setTask (h : SystemSound binding genesisDigest initial s) (task : Nat)
    (hstage : TaskSound binding genesisDigest initial s stage) :
    SystemSound binding genesisDigest initial (s.setTask task stage) where
  slot := h.slot
  content := h.content
  empty := h.empty
  unbound := h.unbound
  bound := h.bound
  calls := h.calls
  tasks other hother := by
    apply TaskSound.grow (grows_setTask s task stage) h.events
    rcases mem_or_eq_of_mem_set hother with hother | rfl
    · exact h.tasks other hother
    · exact hstage
  sessions := h.sessions
  events := h.events
  forward := h.forward

theorem SystemSound.request (h : SystemSound binding genesisDigest initial s)
    {request : WitnessRequest} (hrequest : RequestSound initial s request)
    {tasks : List FreshnessTask} (htasks : ∀ other ∈ tasks, other ∈ s.tasks ∨ other = stage)
    (hstage : ∀ s' : FreshnessSystem, Grows s s' → s'.calls[s.calls.length]? = some ⟨request,[]⟩ → TaskSound binding genesisDigest initial s' stage) :
    SystemSound binding genesisDigest initial
      { s with calls := s.calls ++ [⟨request,[]⟩], tasks := tasks } := by
  have hgrows := grows_request s request tasks
  refine ⟨h.slot,h.content,h.empty,h.unbound,h.bound,?_,?_,h.sessions,?_,h.forward⟩
  · intro call hcall
    rcases mem_append.1 hcall with hcall | hcall
    · exact h.calls call hcall
    · rw [mem_singleton.1 hcall]
      exact hrequest
  · intro other hother
    rcases htasks other hother with hother | rfl
    · exact TaskSound.grow hgrows h.events (h.tasks other hother)
    · exact hstage _ hgrows (List.getElem?_concat_length)
  · exact fun event hevent => EventSound.grow hgrows (.refl s) (h.events event hevent)

theorem inFlight_sent {s' : FreshnessSystem} {request : WitnessRequest} {began call : Nat}
    (hbegan : began ≤ s.events.length) (hgrows : Grows s s')
    (hcall : s'.calls[call]? = some ⟨request,[]⟩) : InFlight s' began call request :=
  ⟨Nat.le_trans hbegan hgrows.events.length_le,_,hcall,rfl,fun _ hanswer => by cases hanswer⟩

section

variable (h : SystemSound binding genesisDigest initial s)
include h

theorem SystemSound.send (task : Nat) {request : WitnessRequest}
    (hrequest : RequestSound initial s request) {stage : Nat → FreshnessTask}
    (hstage : ∀ s' : FreshnessSystem, Grows s s' → s'.calls[s.calls.length]? = some ⟨request,[]⟩ → TaskSound binding genesisDigest initial s' (stage s.calls.length)) :
    SystemSound binding genesisDigest initial (s.send task request stage) :=
  h.request hrequest (fun _ hother => mem_or_eq_of_mem_set hother) hstage

theorem SystemSound.spawn {request : WitnessRequest} (hrequest : RequestSound initial s request)
    {stage : Nat → FreshnessTask}
    (hstage : ∀ s' : FreshnessSystem, Grows s s' → s'.calls[s.calls.length]? = some ⟨request,[]⟩ → TaskSound binding genesisDigest initial s' (stage s.calls.length)) :
    SystemSound binding genesisDigest initial (s.spawn request stage) := by
  refine h.request hrequest (fun other hother => ?_) hstage
  rcases mem_append.1 hother with hother | hother
  · exact .inl hother
  · exact .inr (mem_singleton.1 hother)

theorem SystemSound.record (hevent : EventSound s event)
    (hforward : ∀ session head, event = .observed session head → ∀ earlier ∈ s.events, ∀ head', earlier.head? session = some head' → AtLeast head head') :
    SystemSound binding genesisDigest initial (s.record event) where
  slot := h.slot
  content := h.content
  empty := h.empty
  unbound := h.unbound
  bound := h.bound
  calls := h.calls
  tasks other hother := TaskSound.grow (grows_record s event) h.events (h.tasks other hother)
  sessions := h.sessions
  events other hother := by
    apply EventSound.grow (grows_record s event) (.refl s)
    rcases mem_append.1 hother with hother | hother
    · exact h.events other hother
    · rw [mem_singleton.1 hother]
      exact hevent
  forward before session head later hevents := by
    rcases append_eq_append_cons hevents with ⟨rest,hold⟩ | ⟨middle,hbefore,hnew⟩
    · exact h.forward before session head rest hold
    · cases middle with
      | nil =>
        rw [nil_append,List.cons.injEq] at hnew
        rw [hbefore,append_nil]
        exact hforward session head hnew.1
      | cons first middle => simp at hnew

theorem SystemSound.finish (task : Nat) (hevent : EventSound s event)
    (hforward : ∀ session head, event ≠ .observed session head) :
    SystemSound binding genesisDigest initial (s.finish task event) := by
  have hdone : TaskSound binding genesisDigest initial s .done := trivial
  exact (h.setTask task hdone).record (hevent.grow (grows_setTask s task .done) (.refl s))
    fun session head heq => absurd heq (hforward session head)

theorem SystemSound.updateSession (session : Nat)
    (hf : ∀ kept, s.sessions[session]? = some kept → RecordedIn s.log (f kept).floor ∧ AtLeast (f kept).floor kept.floor) :
    SystemSound binding genesisDigest initial (s.updateSession session f) := by
  have hgrows := grows_updateSession s session f
  have hrise : FloorsRise s (s.updateSession session f) := by
    intro other kept hkept
    refine ⟨(if session = other then f else id) kept,?_,?_⟩
    · rw [FreshnessSystem.updateSession,List.getElem?_modify,hkept]
      split_ifs <;> rfl
    · split_ifs with hsame
      · subst hsame
        exact (hf kept hkept).2
      · exact .refl _
  refine ⟨h.slot,h.content,h.empty,h.unbound,h.bound,h.calls,?_,?_,?_,h.forward⟩
  · exact fun other hother => TaskSound.grow hgrows h.events (h.tasks other hother)
  · intro kept hkept
    obtain ⟨other,hother⟩ := mem_iff_getElem?.1 hkept
    rw [FreshnessSystem.updateSession,List.getElem?_modify] at hother
    obtain ⟨before,hbefore,rfl⟩ := Option.map_eq_some_iff.1 hother
    split_ifs with hsame
    · subst hsame
      exact (hf before hbefore).1
    · exact h.sessions before (mem_of_getElem? hbefore)
  · exact fun event hevent => EventSound.grow hgrows hrise (h.events event hevent)

theorem SystemSound.updateSession_floor (session : Nat) (hf : ∀ kept, (f kept).floor = kept.floor) :
    SystemSound binding genesisDigest initial (s.updateSession session f) := by
  apply h.updateSession
  intro kept hkept
  rw [hf kept]
  exact ⟨h.sessions kept (mem_of_getElem? hkept),.refl _⟩

theorem SystemSound.withContent {content : AuthorityStateCheckpoint}
    (hrecorded : RecordedIn s.log content) :
    SystemSound binding genesisDigest initial (s.withContent content) := by
  have hgrows := grows_withContent s content
  refine ⟨h.slot,mem_append_right _ (mem_singleton.2 rfl),?_,?_,?_,h.calls,?_, h.sessions,?_,h.forward⟩
  · intro hempty
    rcases mem_append.1 hempty with hempty | hempty
    · exact h.empty hempty
    · cases mem_singleton.1 hempty
  · exact fun hslot => absurd hslot (h.slot.bound hrecorded)
  · intro hslot other hother
    rcases mem_append.1 hother with hother | hother
    · exact h.bound hslot other hother
    · rw [Option.some.inj (mem_singleton.1 hother)]
      exact hrecorded
  · exact fun other hother => TaskSound.grow hgrows h.events (h.tasks other hother)
  · exact fun event hevent => EventSound.grow hgrows (.refl s) (h.events event hevent)

theorem SystemSound.restore {content : Option AuthorityStateCheckpoint} (hheld : content ∈ s.held) :
    SystemSound binding genesisDigest initial { s with content := content } where
  slot := h.slot
  content := hheld
  empty := h.empty
  unbound := h.unbound
  bound := h.bound
  calls := h.calls
  tasks := h.tasks
  sessions := h.sessions
  events := h.events
  forward := h.forward

theorem SystemSound.deliver (call : Nat) (elsewhere : Bool) :
    SystemSound binding genesisDigest initial (s.deliver call elsewhere) := by
  cases hcall : s.calls[call]? with
  | none =>
    rw [FreshnessSystem.deliver,hcall]
    exact h
  | some inFlight =>
    obtain ⟨hforward,henroll⟩ := h.calls inFlight (mem_of_getElem? hcall)
    have hgrows := grows_deliver h.slot hcall hforward elsewhere
    rw [deliver_eq hcall] at hgrows ⊢
    refine ⟨h.slot.applyRequest elsewhere hforward,h.content,h.empty,
      fun hnone => h.unbound (applyRequest_free hnone),?_,?_,?_,?_,?_,h.forward⟩
    · intro hbound content hcontent
      by_cases hnone : s.slot = none
      · -- every content so far is the first one, which is what a slot is bound to
        have hinitial := h.unbound hnone _ hcontent
        rw [hnone] at hbound
        obtain ⟨enrollment,checkpoint,hrequest,hrecorded⟩ := applyRequest_binds hbound
        rcases henroll enrollment checkpoint hrequest hnone with hempty | hsame
        · rw [hempty] at hinitial
          cases hinitial
        · rw [hsame,Option.some.injEq] at hinitial
          rw [hinitial,hnone]
          obtain ⟨record,hrecord,hof⟩ := hrecorded
          exact ⟨record,mem_append_right _ hrecord,hof⟩
      · exact (h.bound hnone content hcontent).mono (prefix_append _ _)
    · intro other hother
      have hkept : ∃ before ∈ s.calls, before.request = other.request := by
        rcases mem_or_eq_of_mem_set hother with hother | rfl
        · exact ⟨other,hother,rfl⟩
        · exact ⟨inFlight,mem_of_getElem? hcall,rfl⟩
      obtain ⟨before,hbefore,hrequest⟩ := hkept
      have hsound := h.calls before hbefore
      rw [hrequest] at hsound
      exact ⟨hsound.1,fun enrollment checkpoint heq hnone =>
        hsound.2 enrollment checkpoint heq (applyRequest_free hnone)⟩
    · exact fun other hother => TaskSound.grow hgrows h.events (h.tasks other hother)
    · exact fun kept hkept => (h.sessions kept hkept).mono (prefix_append _ _)
    · exact fun event hevent => EventSound.grow hgrows (.refl s) (h.events event hevent)

theorem SystemSound.createSession (task began : Nat) {current : AuthorityStateCheckpoint}
    (hbegan : began ≤ s.events.length) (hrecorded : RecordedIn s.log current)
    (hbeyond : BeyondReturned s began current) :
    SystemSound binding genesisDigest initial (s.createSession task began current) := by
  have hgrows := grows_sessions s (s.sessions ++ [FreshnessSession.establishedAt current])
  have hrise : FloorsRise s
      { s with sessions := s.sessions ++ [FreshnessSession.establishedAt current] } := by
    intro session kept hkept
    refine ⟨kept,?_,.refl _⟩
    rw [List.getElem?_append_left (List.getElem?_eq_some_iff.1 hkept).1]
    exact hkept
  have hopened : SystemSound binding genesisDigest initial
      { s with sessions := s.sessions ++ [FreshnessSession.establishedAt current] } := by
    refine ⟨h.slot,h.content,h.empty,h.unbound,h.bound,h.calls,?_,?_,?_,h.forward⟩
    · exact fun other hother => TaskSound.grow hgrows h.events (h.tasks other hother)
    · intro kept hkept
      rcases mem_append.1 hkept with hkept | hkept
      · exact h.sessions kept hkept
      · rw [mem_singleton.1 hkept]
        exact hrecorded
    · exact fun event hevent => EventSound.grow hgrows hrise (h.events event hevent)
  have hevent : EventSound s (.established began s.sessions.length current) := ⟨hbegan,hbeyond⟩
  exact hopened.finish task (hevent.grow hgrows hrise) fun session head heq => by cases heq

end

theorem FreshnessSession.observeHead_cases (kept : FreshnessSession)
    (localHead : AuthorityStateCheckpoint) :
    ((kept.observeHead localHead).1.isSome = true ∧ (kept.observeHead localHead).2.floor = kept.floor) ∨
    ((kept.observeHead localHead).1 = none ∧ AtLeast localHead kept.floor ∧
      (kept.observeHead localHead).2.floor =
        if localHead.sequence > kept.floor.sequence then localHead else kept.floor) := by
  rw [FreshnessSession.observeHead]
  cases hproblem : kept.observation localHead with
  | some problem => exact .inl ⟨rfl,rfl⟩
  | none =>
    refine .inr ⟨rfl,?_,rfl⟩
    rw [FreshnessSession.observation] at hproblem
    split_ifs at hproblem with hbinding hbehind hforked
    refine ⟨by omega,fun heq => ?_⟩
    by_contra hdigest
    exact hforked ⟨heq.symm,fun hsame => hdigest hsame.symm⟩

theorem FreshnessSession.observe_cases (kept : FreshnessSession) (probeReading : Bool)
    (localHead : AuthorityStateCheckpoint) :
    ((kept.observe probeReading localHead).1.isSome = true ∧
      (kept.observe probeReading localHead).2.floor = kept.floor) ∨
    ((kept.observe probeReading localHead).1 = none ∧ AtLeast localHead kept.floor ∧
      (kept.observe probeReading localHead).2.floor =
        if localHead.sequence > kept.floor.sequence then localHead else kept.floor) := by
  rw [FreshnessSession.observe]
  cases hsticky : kept.sticky with
  | some code => exact .inl ⟨rfl,rfl⟩
  | none =>
    cases probeReading with
    | true => exact kept.observeHead_cases localHead
    | false =>
      cases hunresolved : kept.unresolved with
      | none => exact kept.observeHead_cases localHead
      | some pending =>
        simp only [Bool.false_eq_true,if_false]
        by_cases hresolved : localHead.binding = kept.binding ∧ localHead.storeId = kept.storeId ∧
            localHead.head = pending
        · rw [if_pos hresolved]
          have hcleared := FreshnessSession.observeHead_cases { kept with unresolved := none } localHead
          rw [hsticky] at hcleared
          exact hcleared
        · rw [if_neg hresolved]
          exact .inl ⟨rfl,rfl⟩

variable {session : Nat} {kept : FreshnessSession} {localHead : AuthorityStateCheckpoint}

section

variable (h : SystemSound binding genesisDigest initial s)
  (hkept : s.sessions[session]? = some kept)
include h hkept

theorem SystemSound.recorded_content (hcontent : s.content = some localHead) :
    RecordedIn s.log localHead := by
  have hfloor := h.sessions kept (mem_of_getElem? hkept)
  apply h.bound (h.slot.bound hfloor)
  rw [← hcontent]
  exact h.content

theorem SystemSound.floor_above {event : FreshnessEvent} (hevent : event ∈ s.events)
    {head : AuthorityStateCheckpoint} (hhead : event.head? session = some head) :
    AtLeast kept.floor head := by
  have habove : FloorAbove s session head := by
    have hsound := h.events event hevent
    cases event with
    | observed other accepted =>
      simp only [FreshnessEvent.head?] at hhead
      split_ifs at hhead with hsame
      cases hhead
      subst hsame
      exact hsound
    | committed task other accepted =>
      simp only [FreshnessEvent.head?] at hhead
      split_ifs at hhead with hsame
      cases hhead
      subst hsame
      exact hsound
    | _ => cases hhead
  obtain ⟨kept',hkept',habove⟩ := habove
  rw [hkept,Option.some.injEq] at hkept'
  rw [hkept']
  exact habove

theorem SystemSound.observe (hcontent : s.content = some localHead) (probeReading : Bool) :
    SystemSound binding genesisDigest initial
        (s.updateSession session fun _ => (kept.observe probeReading localHead).2) ∧
      ((kept.observe probeReading localHead).1 = none → SystemSound binding genesisDigest initial
          ((s.updateSession session fun _ => (kept.observe probeReading localHead).2).record
            (.observed session localHead))) := by
  have hfloor := h.sessions kept (mem_of_getElem? hkept)
  have hrecorded := h.recorded_content hkept hcontent
  rcases kept.observe_cases probeReading localHead with ⟨hproblem,hsame⟩ | ⟨-,hatLeast,hraised⟩
  · refine ⟨?_,fun hnone => ?_⟩
    · apply h.updateSession
      intro other hother
      rw [hkept,Option.some.injEq] at hother
      rw [hsame,← hother]
      exact ⟨hfloor,.refl _⟩
    · rw [hnone] at hproblem
      cases hproblem
  · have hreached : RecordedIn s.log (kept.observe probeReading localHead).2.floor ∧
        AtLeast (kept.observe probeReading localHead).2.floor localHead := by
      rw [hraised]
      split_ifs with hgreater
      · exact ⟨hrecorded,.refl _⟩
      · refine ⟨hfloor,by omega,fun heq => (hatLeast.2 heq.symm).symm⟩
    have hupdated : SystemSound binding genesisDigest initial
        (s.updateSession session fun _ => (kept.observe probeReading localHead).2) := by
      apply h.updateSession
      intro other hother
      rw [hkept,Option.some.injEq] at hother
      rw [← hother]
      exact ⟨hreached.1,hreached.2.trans hatLeast⟩
    refine ⟨hupdated,fun _ => hupdated.record ?_ ?_⟩
    · exact ⟨_,updateSession_self hkept _,hreached.2⟩
    · intro other head heq earlier hearlier head' hhead'
      cases heq
      exact hatLeast.trans (h.floor_above hkept hearlier hhead')

end

/-- What is known of the state that `settle` compares with. -/
def Compared (s : FreshnessSystem) (witnessed : WitnessBindingState) : SettlePurpose → Prop
  | .establish began _ => began ≤ s.events.length ∧ Snapshot s began witnessed
  | .probe _ _ => True

theorem SystemSound.readLocal (h : SystemSound binding genesisDigest initial s)
    (purpose : SettlePurpose) (around : Surroundings) :
    SystemSound binding genesisDigest initial (s.readLocal purpose around).2 ∧
      ∀ began opened, purpose = .establish began opened → (s.readLocal purpose around).2 = s := by
  rw [FreshnessSystem.readLocal]
  cases hcontent : s.content with
  | none => exact ⟨h,fun _ _ _ => rfl⟩
  | some localHead =>
    cases around.unreadable with
    | true => exact ⟨h,fun _ _ _ => rfl⟩
    | false =>
      cases purpose with
      | establish began opened => exact ⟨h,fun _ _ _ => rfl⟩
      | probe session first =>
        refine ⟨?_,fun _ _ heq => by cases heq⟩
        simp only [Bool.false_eq_true,if_false]
        cases hkept : s.sessions[session]? with
        | none => exact h
        | some kept =>
          obtain ⟨hupdated,haccepted⟩ := h.observe hkept hcontent true
          cases around.observes with
          | false => exact h
          | true =>
            simp only [if_true]
            cases hproblem : (kept.observe true localHead).1 with
            | some problem => exact hupdated
            | none => exact haccepted hproblem

end Frontera.Freshness
