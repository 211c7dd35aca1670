import Frontera.Freshness.HonestRuns

/-! The store only moves forward, and no head is committed at the witness before the store has held
it; so an answer, compared with the head read after it, shows that head or one that the store has
since left. -/

namespace Frontera.Freshness

open List Option

/-- The store has come as far as this sequence; an empty one has come to its genesis. -/
def Reached (s : FreshnessSystem) (sequence : Int) : Prop :=
  match s.content with
  | none => sequence ≤ 0
  | some content => sequence ≤ content.sequence

/-- The call in flight asks this. -/
def Asks (s : FreshnessSystem) (call : Nat) (request : WitnessRequest) : Prop :=
  ∃ inFlight : WitnessCall, s.calls[call]? = some inFlight ∧ inFlight.request = request

/-- Every answer to the call shows a slot like this. -/
def AnswersAre (s : FreshnessSystem) (call : Nat) (P : WitnessBindingState → Prop) : Prop :=
  ∃ inFlight : WitnessCall, s.calls[call]? = some inFlight ∧ ∀ answer ∈ inFlight.answers, P answer.2

structure AnswerHonest (s : FreshnessSystem) (request : WitnessRequest)
    (answer : WitnessOutcome × WitnessBindingState) : Prop where
  snapshot : ∃ log, log <+: s.log ∧ LogSound answer.2 log
  reached : ∀ row, answer.2 = some row → Reached s row.committed.sequence
  finalized : ∀ checkpoint, request = .finalize checkpoint →
    answer.1 = .finalized ∨ finalizedPast answer.2 checkpoint = true

/-- A refusal that is being read again: a successor the store may hold by then, or a head
that the witness has seen since. -/
def RefusalHonest (s : FreshnessSystem) (witnessed : WitnessBindingState)
    (code : FreshnessErrorCode) (call : Nat) : Prop :=
  (code = .pendingRecovery ∧ (witnessed.bind (·.pending)).isSome = true) ∨
    (code = .forkDetected ∧ (∃ localHead, RecordedIn s.log localHead ∧
      raceable .forkDetected localHead witnessed = true) ∧ AnswersAre s call (· ≠ witnessed))

def TaskHonest (s : FreshnessSystem) : FreshnessTask → Prop
  | .preparing _ expected proposed _ call =>
      (WitnessRequest.prepare expected proposed).wellFormed = true ∧ some expected ∈ s.held ∧
        Asks s call (.prepare expected proposed)
  | .finalizingExpected _ expected proposed _ =>
      (WitnessRequest.prepare expected proposed).wellFormed = true ∧ some expected ∈ s.held
  | .finalizingProposed _ proposed call => Asks s call (.finalize proposed)
  | .finalizing _ current call => Asks s call (.finalize current)
  | .finalizingOutstanding _ _ _ _ _ => False
  | .probing _ call => s.slot ≠ none ∧ AnswersAre s call (· ≠ none)
  | .settling (.establish _ _) _ witnessed code call => RefusalHonest s witnessed code call
  | .settling (.probe _ _) _ witnessed code call => RefusalHonest s witnessed code call ∧
      s.slot ≠ none ∧ AnswersAre s call (· ≠ none)
  | _ => True

def RequestHonest (initial : Option AuthorityStateCheckpoint) (s : FreshnessSystem) : WitnessRequest → Prop
  | .read _ => True
  | .enroll _ checkpoint => s.slot = none →
      initial = none ∧ checkpoint.sequence ≤ 0 ∨ initial = some checkpoint
  | .prepare expected _ => some expected ∈ s.held
  | .finalize checkpoint => some checkpoint ∈ s.held ∧ RecordedIn s.log checkpoint

structure SessionHonest (binding : AuthorityStateBinding) (slot : WitnessBindingState)
    (kept : FreshnessSession) : Prop where
  sticky : kept.sticky = none
  unfinalized : kept.unfinalized = none
  binding : kept.binding = binding
  store : ∃ row, slot = some row ∧ row.storeId = kept.storeId

structure Honest (binding : AuthorityStateBinding) (initial : Option AuthorityStateCheckpoint)
    (s : FreshnessSystem) : Prop where
  held : ∀ checkpoint, some checkpoint ∈ s.held →
    ∃ content, s.content = some content ∧ checkpoint.sequence ≤ content.sequence
  named : ∀ checkpoint, some checkpoint ∈ s.held → checkpoint.binding = binding
  reached : ∀ row, s.slot = some row → Reached s row.committed.sequence
  requests : ∀ call ∈ s.calls, RequestHonest initial s call.request
  answers : ∀ call ∈ s.calls, ∀ answer ∈ call.answers, AnswerHonest s call.request answer
  tasks : ∀ stage ∈ s.tasks, TaskHonest s stage
  sessions : ∀ kept ∈ s.sessions, SessionHonest binding s.slot kept
  refusals : ∀ code, .establishRefused (some code) ∈ s.events →
    code ≠ .rollbackDetected ∧ code ≠ .forkDetected
  tickets : Tickets s
  accounts : Accounts s

variable {binding : AuthorityStateBinding} {genesisDigest : String → String}
  {initial : Option AuthorityStateCheckpoint} {s s' : FreshnessSystem}

variable {call : Nat} {request : WitnessRequest} {witnessed : WitnessBindingState}

theorem Asks.grow (hgrows : Grows s s') (h : Asks s call request) : Asks s' call request := by
  obtain ⟨inFlight,hcall,hrequest⟩ := h
  obtain ⟨later,hlater,hsame,-⟩ := hgrows.calls call inFlight hcall
  exact ⟨later,hlater,hsame.trans hrequest⟩

theorem AnswersAre.grow {P : WitnessBindingState → Prop} (hgrows : Grows s s')
    (hP : LogSound s'.slot s'.log → P s'.slot) (h : AnswersAre s call P) :
    AnswersAre s' call P := by
  obtain ⟨inFlight,hcall,hanswers⟩ := h
  obtain ⟨later,hlater,-,hgiven⟩ := hgrows.calls call inFlight hcall
  refine ⟨later,hlater,fun answer hanswer => ?_⟩
  rcases hgiven answer hanswer with hold | ⟨hslot,hsound,-⟩
  · exact hanswers answer hold
  · rw [hslot] at hsound ⊢
    exact hP hsound

theorem LogSound.ne_of_raceable {row : WitnessBindingState} {log : List WitnessRecord}
    (h : LogSound row log) {localHead : AuthorityStateCheckpoint}
    (hrecorded : RecordedIn log localHead)
    (hraceable : raceable .forkDetected localHead witnessed = true) : row ≠ witnessed := by
  rintro rfl
  obtain ⟨r,rfl,-,hanchored⟩ := h.anchored hrecorded
  simp only [raceable,Bool.and_eq_true,decide_eq_true_eq,Bool.not_eq_true',decide_eq_false_iff_not]
    at hraceable
  obtain ⟨hahead,hpending⟩ := hraceable
  rcases hanchored with hprepared | hcommitted | hbehind
  · rw [hprepared] at hpending
    exact hpending rfl
  · rw [hcommitted] at hahead
    exact absurd hahead (Int.lt_irrefl _)
  · omega

theorem RefusalHonest.grow {code : FreshnessErrorCode} (hgrows : Grows s s')
    (h : RefusalHonest s witnessed code call) : RefusalHonest s' witnessed code call := by
  rcases h with hpending | ⟨hcode,⟨localHead,hrecorded,hraceable⟩,hanswers⟩
  · exact .inl hpending
  · have hrecorded' := hrecorded.mono hgrows.log
    exact .inr ⟨hcode,⟨localHead,hrecorded',hraceable⟩,
      hanswers.grow hgrows fun hsound => hsound.ne_of_raceable hrecorded' hraceable⟩

theorem TaskHonest.grow {stage : FreshnessTask} (hgrows : Grows s s') (h : TaskHonest s stage) :
    TaskHonest s' stage := by
  have hbound : ∀ call, s.slot ≠ none ∧ AnswersAre s call (· ≠ none) →
      s'.slot ≠ none ∧ AnswersAre s' call (· ≠ none) := fun call hslot =>
    ⟨hgrows.bound hslot.1,hslot.2.grow hgrows fun _ => hgrows.bound hslot.1⟩
  cases stage with
  | preparing session expected proposed again call =>
    exact ⟨h.1,hgrows.held h.2.1,h.2.2.grow hgrows⟩
  | finalizingExpected session expected proposed call => exact ⟨h.1,hgrows.held h.2⟩
  | finalizingProposed session proposed call => exact Asks.grow hgrows h
  | finalizing start current call => exact Asks.grow hgrows h
  | finalizingOutstanding session expected proposed outstanding call => exact h
  | probing session call => exact hbound call h
  | settling purpose round witnessed code call =>
    cases purpose with
    | establish start opened => exact RefusalHonest.grow hgrows h
    | probe session first => exact ⟨h.1.grow hgrows,hbound call h.2⟩
  | _ => trivial

theorem RequestHonest.grow (hgrows : Grows s s') (h : RequestHonest initial s request) :
    RequestHonest initial s' request := by
  cases request with
  | read binding => trivial
  | enroll enrollment checkpoint =>
    intro hnone
    apply h
    by_contra hbound
    exact hgrows.bound hbound hnone
  | prepare expected proposed => exact hgrows.held h
  | finalize checkpoint => exact ⟨hgrows.held h.1,h.2.mono hgrows.log⟩

theorem AnswerHonest.grow {answer : WitnessOutcome × WitnessBindingState} (hgrows : Grows s s')
    (hreached : ∀ sequence, Reached s sequence → Reached s' sequence)
    (h : AnswerHonest s request answer) : AnswerHonest s' request answer := by
  obtain ⟨log,hlog,hsound⟩ := h.snapshot
  exact ⟨⟨log,hlog.trans hgrows.log,hsound⟩, fun row hrow => hreached _ (h.reached row hrow),h.finalized⟩

theorem Honest.keeping (h : Honest binding initial s) (hgrows : Grows s s')
    (hcontent : s'.content = s.content) (hheld : s'.held = s.held) (hslot : s'.slot = s.slot)
    (hcalls : ∀ call ∈ s'.calls, call ∈ s.calls ∨ call.answers = [] ∧ RequestHonest initial s call.request)
    (htasks : ∀ stage ∈ s'.tasks, stage ∈ s.tasks ∨ TaskHonest s' stage)
    (hsessions : ∀ kept ∈ s'.sessions, SessionHonest binding s.slot kept)
    (hrefusals : ∀ code, .establishRefused (some code) ∈ s'.events →
      .establishRefused (some code) ∈ s.events ∨ code ≠ .rollbackDetected ∧ code ≠ .forkDetected)
    (htickets : Tickets s') (haccounts : Accounts s') : Honest binding initial s' := by
  have hreached : ∀ sequence, Reached s sequence → Reached s' sequence := by
    intro sequence hsequence
    rw [Reached,hcontent]
    exact hsequence
  refine ⟨?_,?_,?_,?_,?_,?_,?_,?_,htickets,haccounts⟩
  · rw [hheld,hcontent]
    exact h.held
  · rw [hheld]
    exact h.named
  · rw [hslot]
    exact fun row hrow => hreached _ (h.reached row hrow)
  · intro call hcall
    rcases hcalls call hcall with hold | ⟨-,hrequest⟩
    · exact (h.requests call hold).grow hgrows
    · exact hrequest.grow hgrows
  · intro call hcall answer hanswer
    rcases hcalls call hcall with hold | ⟨hnone,-⟩
    · exact (h.answers call hold answer hanswer).grow hgrows hreached
    · rw [hnone] at hanswer
      cases hanswer
  · intro stage hstage
    rcases htasks stage hstage with hold | hnew
    · exact (h.tasks stage hold).grow hgrows
    · exact hnew
  · rw [hslot]
    exact hsessions
  · intro code hevent
    rcases hrefusals code hevent with hold | hnew
    · exact h.refusals code hold
    · exact hnew

/-- The task is at a stage, and belongs to no transition. -/
def Aside (s : FreshnessSystem) (task : Nat) : Prop :=
  ∃ stage : FreshnessTask, s.tasks[task]? = some stage ∧ stage ≠ .done ∧ stage.inTransition = false

variable {stage : FreshnessTask} {task : Nat} {event : FreshnessEvent}

theorem uncommitted_of_aside (h : stage.inTransition = false) : stage.uncommitted = false := by
  cases stage with
  | preparing _ _ _ _ _ => cases h
  | finalizingExpected _ _ _ _ => cases h
  | finalizingOutstanding _ _ _ _ _ => cases h
  | _ => rfl

section

variable (h : Honest binding initial s)
include h

theorem Honest.setTask (htask : Aside s task) (hcall : stage.call? = none)
    (haside : stage.inTransition = false) (hstage : TaskHonest s stage) :
    Honest binding initial (s.setTask task stage) := by
  obtain ⟨before,hbefore,hdone,haside'⟩ := htask
  refine h.keeping (grows_setTask s task stage) rfl rfl rfl (fun _ hcall => .inl hcall) ?_
    h.sessions (fun _ hevent => .inl hevent) ?_ ?_
  · intro other hother
    rcases mem_or_eq_of_mem_set hother with hother | rfl
    · exact .inl hother
    · exact .inr (hstage.grow (grows_setTask s task other))
  · refine h.tickets.silent (fun i other hother => ?_) rfl rfl rfl rfl
    rcases getElem?_set_cases hother with ⟨-,hother⟩ | ⟨-,rfl⟩
    · exact .inl hother
    · exact .inr hcall
  · exact h.accounts.aside [] hbefore hdone haside' (uncommitted_of_aside haside) rfl
      (append_nil _).symm fun _ hevent => by cases hevent

theorem Honest.record (hevent : event.task? = none)
    (hrefusal : ∀ code, event = .establishRefused (some code) → code ≠ .rollbackDetected ∧ code ≠ .forkDetected) :
    Honest binding initial (s.record event) := by
  refine h.keeping (grows_record s event) rfl rfl rfl (fun _ hcall => .inl hcall)
    (fun _ hstage => .inl hstage) h.sessions ?_
    (h.tickets.silent (fun _ _ hstage => .inl hstage) rfl rfl rfl rfl) ?_
  · intro code hother
    rcases mem_append.1 hother with hother | hother
    · exact .inl hother
    · exact .inr (hrefusal code (mem_singleton.1 hother).symm)
  · refine h.accounts.append [] [event] (append_nil _).symm rfl fun other hother task hof => ?_
    rw [mem_singleton.1 hother,hevent] at hof
    cases hof

theorem Honest.done (htask : Aside s task) : Honest binding initial (s.setTask task .done) :=
  h.setTask htask rfl rfl trivial

theorem Honest.finish (htask : Aside s task) (hevent : event.task? = none)
    (hrefusal : ∀ code, event = .establishRefused (some code) → code ≠ .rollbackDetected ∧ code ≠ .forkDetected) :
    Honest binding initial (s.finish task event) :=
  (h.done htask).record hevent hrefusal

theorem Honest.genesisRefused (htask : Aside s task) (code : FreshnessErrorCode) :
    Honest binding initial (s.finish task (.genesisRefused code)) :=
  h.finish htask rfl fun _ heq => by cases heq

theorem Honest.establishRefused (htask : Aside s task) {code : FreshnessErrorCode}
    (hcode : code ≠ .rollbackDetected ∧ code ≠ .forkDetected) :
    Honest binding initial (s.finish task (.establishRefused (some code))) := by
  refine h.finish htask rfl fun other heq => ?_
  cases heq
  exact hcode

theorem Honest.finishTransition (hevent : ∀ code, event ≠ .establishRefused code)
    (haccounts : Accounts (s.finish task event)) :
    Honest binding initial (s.finish task event) := by
  have hgrows : Grows s (s.finish task event) :=
    ⟨prefix_refl _,List.Subset.refl _,prefix_append _ _,id,(Grows.refl s).calls⟩
  refine h.keeping hgrows rfl rfl rfl (fun _ hcall => .inl hcall) ?_ h.sessions ?_ ?_ haccounts
  · intro other hother
    rcases mem_or_eq_of_mem_set hother with hother | rfl
    · exact .inl hother
    · exact .inr trivial
  · intro code hother
    rcases mem_append.1 hother with hother | hother
    · exact .inl hother
    · exact absurd (mem_singleton.1 hother).symm (hevent _)
  · refine h.tickets.silent (fun i other hother => ?_) rfl rfl rfl rfl
    rcases getElem?_set_cases hother with ⟨-,hother⟩ | ⟨-,rfl⟩
    · exact .inl hother
    · exact .inr rfl

theorem Honest.throws (hstage : s.tasks[task]? = some stage)
    (huncommitted : stage.uncommitted = true) (session : Nat) :
    Honest binding initial (s.throws task session .conflict) := by
  have hdone : stage ≠ .done := by
    rintro rfl
    cases huncommitted
  apply h.finishTransition fun _ heq => by cases heq
  refine h.accounts.move [.threw task session .conflict] hstage hdone rfl rfl ?_ ?_ ?_ ?_ ?_
  · intro event hevent other hof
    rw [mem_singleton.1 hevent] at hof
    exact (some.inj hof).symm
  · exact fun other hevent => by cases mem_singleton.1 hevent
  · intro other code hevent
    cases mem_singleton.1 hevent
    exact ⟨rfl,rfl,huncommitted,fun _ _ hwritten => by cases mem_singleton.1 hwritten⟩
  · exact fun _ => rfl
  · exact fun _ => .inr (.inr ⟨session,.conflict,mem_singleton.2 rfl⟩)

theorem Honest.returned {session call : Nat} {proposed : AuthorityStateCheckpoint}
    (hstage : s.tasks[task]? = some (.finalizingProposed session proposed call)) (other : Nat) :
    Honest binding initial (s.finish task (.returned task other proposed)) := by
  apply h.finishTransition fun _ heq => by cases heq
  refine h.accounts.move [.returned task other proposed] hstage (fun heq => by cases heq) rfl rfl
    ?_ ?_ ?_ ?_ ?_
  · intro event hevent owner hof
    rw [mem_singleton.1 hevent] at hof
    exact (some.inj hof).symm
  · exact fun _ hevent => by cases mem_singleton.1 hevent
  · exact fun _ _ hevent => by cases mem_singleton.1 hevent
  · exact fun _ => rfl
  · exact fun _ => .inr (.inl ⟨other,proposed,mem_singleton.2 rfl⟩)

theorem Honest.withSessions {sessions : List FreshnessSession}
    (hsessions : ∀ kept ∈ sessions, SessionHonest binding s.slot kept) :
    Honest binding initial { s with sessions := sessions } :=
  h.keeping (grows_sessions s _) rfl rfl rfl (fun _ hcall => .inl hcall)
    (fun _ hstage => .inl hstage) hsessions (fun _ hevent => .inl hevent)
    (h.tickets.silent (fun _ _ hstage => .inl hstage) rfl rfl rfl rfl)
    (h.accounts.append [] [] (append_nil _).symm (append_nil _).symm
      fun _ hevent => by cases hevent)

theorem Honest.createSession (htask : Aside s task) (start : Nat)
    {current : AuthorityStateCheckpoint} (hnamed : current.binding = binding)
    (hstore : ∃ row, s.slot = some row ∧ row.storeId = current.storeId) :
    Honest binding initial (s.createSession task start current) := by
  have hopened : Honest binding initial
      { s with sessions := s.sessions ++ [FreshnessSession.establishedAt current] } := by
    refine h.withSessions fun kept hkept => ?_
    rcases mem_append.1 hkept with hkept | hkept
    · exact h.sessions kept hkept
    · rw [mem_singleton.1 hkept]
      exact ⟨rfl,rfl,hnamed,hstore⟩
  exact hopened.finish htask rfl fun _ heq => by cases heq

theorem Honest.withGenesis (hempty : s.content = none) (genesis : AuthorityStateCheckpoint)
    (hnamed : genesis.binding = binding) (hzero : genesis.sequence = 0) :
    Honest binding initial (s.withContent genesis) := by
  have hgrows := grows_withContent s genesis
  have hnone : ∀ checkpoint, some checkpoint ∉ s.held := by
    intro checkpoint hheld
    obtain ⟨content,hcontent,-⟩ := h.held checkpoint hheld
    rw [hempty] at hcontent
    cases hcontent
  have hreached : ∀ sequence, Reached s sequence → Reached (s.withContent genesis) sequence := by
    intro sequence hsequence
    rw [Reached,hempty] at hsequence
    show sequence ≤ genesis.sequence
    omega
  have hnew : ∀ checkpoint, some checkpoint ∈ (s.withContent genesis).held → checkpoint = genesis := by
    intro checkpoint hheld
    rcases mem_append.1 hheld with hheld | hheld
    · exact absurd hheld (hnone checkpoint)
    · exact some.inj (mem_singleton.1 hheld)
  have hticketed : ∀ i a b, ¬ Ticketed (s.withContent genesis) i a b := by
    intro i a b hticketed
    have hcontent := (h.tickets.ticket i a b hticketed).1
    rw [hempty] at hcontent
    cases hcontent
  refine ⟨?_,?_,?_,?_,?_,?_,h.sessions,h.refusals,?_,?_⟩
  · intro checkpoint hheld
    exact ⟨genesis,rfl,Int.le_of_eq (by rw [hnew checkpoint hheld])⟩
  · intro checkpoint hheld
    rw [hnew checkpoint hheld]
    exact hnamed
  · exact fun row hrow => hreached _ (h.reached row hrow)
  · exact fun call hcall => (h.requests call hcall).grow hgrows
  · exact fun call hcall answer hanswer =>
      (h.answers call hcall answer hanswer).grow hgrows hreached
  · exact fun stage hstage => (h.tasks stage hstage).grow hgrows
  · exact ⟨h.tickets.sent,h.tickets.apart,fun i a b hi => absurd hi (hticketed i a b),
      fun i j a b c d hi => absurd hi (hticketed i a b)⟩
  · exact ⟨h.accounts.threw,h.accounts.committed,h.accounts.began⟩

theorem Honest.updateSession (session : Nat) {f : FreshnessSession → FreshnessSession}
    (hf : ∀ kept, s.sessions[session]? = some kept → SessionHonest binding s.slot kept → SessionHonest binding s.slot (f kept)) :
    Honest binding initial (s.updateSession session f) := by
  refine h.withSessions fun kept hkept => ?_
  obtain ⟨i,hi⟩ := mem_iff_getElem?.1 hkept
  rw [List.getElem?_modify] at hi
  obtain ⟨before,hbefore,rfl⟩ := map_eq_some_iff.1 hi
  have hhonest := h.sessions before (mem_of_getElem? hbefore)
  split_ifs with hsame
  · subst hsame
    exact hf before hbefore hhonest
  · exact hhonest

theorem Honest.send (hrequest : RequestHonest initial s request) {stage : Nat → FreshnessTask}
    (hcall : (stage s.calls.length).call? = some s.calls.length)
    (hstage : ∀ s', Grows s s' → s'.calls[s.calls.length]? = some ⟨request,[]⟩ → TaskHonest s' (stage s.calls.length))
    (haccounts : Accounts (s.send task request stage)) :
    Honest binding initial (s.send task request stage) := by
  have hgrows := grows_request s request (s.tasks.set task (stage s.calls.length))
  refine h.keeping hgrows rfl rfl rfl ?_ ?_ h.sessions (fun _ hevent => .inl hevent) ?_ haccounts
  · intro call hcall
    rcases mem_append.1 hcall with hcall | hcall
    · exact .inl hcall
    · rw [mem_singleton.1 hcall]
      exact .inr ⟨rfl,hrequest⟩
  · intro other hother
    rcases mem_or_eq_of_mem_set hother with hother | rfl
    · exact .inl hother
    · exact .inr (hstage _ hgrows List.getElem?_concat_length)
  · refine h.tickets.request task (fun i other hother => ?_) rfl rfl
      fun i a b _ hticketed => h.tickets.ticket i a b hticketed
    rcases getElem?_set_cases hother with hold | ⟨hi,rfl⟩
    · exact .inl hold
    · exact .inr ⟨hi,hcall⟩

theorem Honest.sendAside (htask : Aside s task) (hrequest : RequestHonest initial s request)
    {stage : Nat → FreshnessTask} (hcall : (stage s.calls.length).call? = some s.calls.length)
    (haside : (stage s.calls.length).inTransition = false)
    (hstage : ∀ s', Grows s s' → s'.calls[s.calls.length]? = some ⟨request,[]⟩ → TaskHonest s' (stage s.calls.length)) :
    Honest binding initial (s.send task request stage) := by
  obtain ⟨before,hbefore,hdone,hbefore'⟩ := htask
  refine h.send hrequest hcall hstage ?_
  exact h.accounts.aside [] hbefore hdone hbefore' (uncommitted_of_aside haside) rfl
    (append_nil _).symm fun _ hevent => by cases hevent

theorem Honest.spawn (hrequest : RequestHonest initial s request) (stage : Nat → FreshnessTask)
    {added : List FreshnessEvent} (hcall : (stage s.calls.length).call? = some s.calls.length)
    (hstage : ∀ s', Grows s s' → s'.calls[s.calls.length]? = some ⟨request,[]⟩ → TaskHonest s' (stage s.calls.length))
    (hadded : added = [] ∨ (stage s.calls.length).inTransition = true ∧ ∃ session, added = [.began s.tasks.length session]) :
    Honest binding initial { s.spawn request stage with events := s.events ++ added } := by
  have hgrows : Grows s { s.spawn request stage with events := s.events ++ added } :=
    ⟨prefix_refl _,List.Subset.refl _,prefix_append _ _,id,(grows_request s request []).calls⟩
  refine h.keeping hgrows rfl rfl rfl ?_ ?_ h.sessions ?_ ?_ ?_
  · intro call hcall
    rcases mem_append.1 hcall with hcall | hcall
    · exact .inl hcall
    · rw [mem_singleton.1 hcall]
      exact .inr ⟨rfl,hrequest⟩
  · intro other hother
    rcases mem_append.1 hother with hother | hother
    · exact .inl hother
    · rw [mem_singleton.1 hother]
      exact .inr (hstage _ hgrows List.getElem?_concat_length)
  · intro code hevent
    rcases mem_append.1 hevent with hevent | hevent
    · exact .inl hevent
    · rcases hadded with rfl | ⟨-,session,rfl⟩
      · cases hevent
      · cases mem_singleton.1 hevent
  · refine h.tickets.request s.tasks.length (fun i other hother => ?_) rfl rfl
      fun i a b _ hticketed => h.tickets.ticket i a b hticketed
    rcases getElem?_concat_cases hother with hold | ⟨hi,rfl⟩
    · exact .inl hold
    · exact .inr ⟨hi,hcall⟩
  · refine h.accounts.append _ added rfl rfl fun event hevent task hof => ?_
    rcases hadded with rfl | ⟨hin,session,rfl⟩
    · cases hevent
    · rw [mem_singleton.1 hevent] at hof ⊢
      cases hof
      exact ⟨session,_,rfl,List.getElem?_concat_length,hin⟩

end

theorem LogSound.finalize_answer {row : WitnessBindingState} {log : List WitnessRecord}
    (h : LogSound row log) {checkpoint : AuthorityStateCheckpoint}
    (hrecorded : RecordedIn log checkpoint) (elsewhere : Bool) :
    (Freshness.applyRequest elsewhere row (.finalize checkpoint)).outcome = .finalized ∨
      finalizedPast (Freshness.applyRequest elsewhere row (.finalize checkpoint)).row checkpoint = true := by
  obtain ⟨r,rfl,hstore,hanchored⟩ := h.anchored hrecorded
  simp only [Freshness.applyRequest]
  rw [if_neg (not_not.2 hstore)]
  cases hpending : r.pending with
  | none =>
    simp only
    by_cases hsame : r.committed = checkpoint.head
    · exact .inl (if_pos hsame)
    · rcases hanchored with hprepared | hcommitted | hbehind
      · rw [hpending] at hprepared
        cases hprepared
      · exact absurd hcommitted hsame
      · right
        simp only [finalizedPast,hstore,decide_true,Bool.true_and,Bool.or_eq_true, decide_eq_true_eq]
        exact .inl hbehind
  | some pending =>
    simp only
    by_cases hsame : pending = checkpoint.head
    · rw [if_pos hsame]
      exact .inl rfl
    · rw [if_neg hsame]
      right
      simp only [finalizedPast,hstore,decide_true,Bool.true_and,Bool.or_eq_true, decide_eq_true_eq]
      rcases hanchored with hprepared | hcommitted | hbehind
      · rw [hpending,some.injEq] at hprepared
        exact absurd hprepared hsame
      · exact .inr hcommitted
      · exact .inl hbehind

theorem applyRequest_store (elsewhere : Bool) (row : BindingRow) (request : WitnessRequest) :
    ∃ row', (applyRequest elsewhere (some row) request).row = some row' ∧ row'.storeId = row.storeId := by
  rcases applyRequest_cases elsewhere (some row) request with ⟨hrow,-⟩ | ⟨_,_,-,hnone,-⟩ |
    ⟨_,_,row',-,hrow,-,-,-,hdone⟩ | ⟨_,row',-,hrow,-,-,hdone⟩
  · exact ⟨row,hrow,rfl⟩
  · cases hnone
  · cases hrow
    rw [hdone]
    exact ⟨_,rfl,rfl⟩
  · cases hrow
    rw [hdone]
    exact ⟨_,rfl,rfl⟩

variable {inFlight : WitnessCall} {elsewhere : Bool} {row : BindingRow} {expected : AuthorityStateCheckpoint}

section

variable (h : Honest binding initial s) (hs : SystemSound binding genesisDigest initial s)
include h hs

theorem Honest.reached_deliver (hcall : inFlight ∈ s.calls)
    (hrow : (applyRequest elsewhere s.slot inFlight.request).row = some row) :
    Reached s row.committed.sequence := by
  have hrequest := h.requests inFlight hcall
  rcases applyRequest_cases elsewhere s.slot inFlight.request with ⟨hsame,-⟩ |
    ⟨enrollment,checkpoint,henroll,hnone,hdone⟩ |
    ⟨expected,proposed,row',-,hrow',-,-,-,hdone⟩ |
    ⟨checkpoint,row',hfinalize,-,-,-,hdone⟩
  · rw [hsame] at hrow
    exact h.reached row hrow
  · rw [hdone] at hrow
    cases hrow
    rw [henroll] at hrequest
    have hcontent := hs.unbound hnone s.content hs.content
    rw [Reached,hcontent]
    rcases hrequest hnone with ⟨hempty,hzero⟩ | hinitial
    · rw [hempty]
      exact hzero
    · rw [hinitial]
      exact Int.le_refl _
  · rw [hdone] at hrow
    cases hrow
    exact h.reached row' hrow'
  · rw [hdone] at hrow
    cases hrow
    rw [hfinalize] at hrequest
    obtain ⟨content,hcontent,hle⟩ := h.held checkpoint hrequest.1
    rw [Reached,hcontent]
    exact hle

theorem Honest.content_eq (hheld : some expected ∈ s.held) (hrow : s.slot = some row)
    (hcommitted : row.committed = expected.head) (hfree : row.pending = none) :
    s.content = some expected := by
  have hbound : s.slot ≠ none := by
    rw [hrow]
    exact some_ne_none row
  obtain ⟨content,hcontent,hle⟩ := h.held expected hheld
  have hheld' : some content ∈ s.held := by
    rw [← hcontent]
    exact hs.content
  obtain ⟨r,hr,hstore,hanchored⟩ := hs.slot.anchored (hs.bound hbound content hheld')
  obtain ⟨r',hr',hstore',-⟩ := hs.slot.anchored (hs.bound hbound expected hheld)
  rw [hrow,some.injEq] at hr hr'
  subst hr
  subst hr'
  have hhead : content.head = expected.head := by
    rcases hanchored with hprepared | hsame | hbehind
    · rw [hfree] at hprepared
      cases hprepared
    · rw [← hsame,hcommitted]
    · have hsequence : row.committed.sequence = expected.sequence :=
        congrArg AuthorityStateHead.sequence hcommitted
      omega
  have hsame : content = expected := by
    have hbinding := (h.named content hheld').trans (h.named expected hheld).symm
    have hstores := hstore.symm.trans hstore'
    cases content
    cases expected
    simp only at hbinding hstores hhead
    rw [hbinding,hstores,hhead]
  rw [hcontent,hsame]

end

theorem prepared_cases {slot : WitnessBindingState} {proposed : AuthorityStateCheckpoint}
    (h : (applyRequest elsewhere slot (.prepare expected proposed)).outcome = .prepared) :
    ∃ row, slot = some row ∧ row.committed = expected.head ∧
      (row.pending = some proposed.head ∨ row.pending = none ∧
        (applyRequest elsewhere slot (.prepare expected proposed)).row =
          some { row with pending := some proposed.head }) := by
  cases slot with
  | none => cases h
  | some row =>
    simp only [applyRequest] at h ⊢
    by_cases hstore : row.storeId ≠ expected.storeId
    · rw [if_pos hstore] at h
      cases h
    by_cases hcommitted : row.committed ≠ expected.head
    · rw [if_neg hstore,if_pos hcommitted] at h
      cases h
    rw [if_neg hstore,if_neg hcommitted] at h ⊢
    refine ⟨row,rfl,not_not.1 hcommitted,?_⟩
    cases hpending : row.pending with
    | none => exact .inr ⟨rfl,rfl⟩
    | some pending =>
      rw [hpending] at h
      simp only at h
      split_ifs at h with hsame
      exact .inl (by rw [hsame])

section

variable (h : Honest binding initial s) (hs : SystemSound binding genesisDigest initial s)
include h hs

theorem Honest.tickets_deliver (hcall : s.calls[call]? = some inFlight)
    (honce : inFlight.answers = []) (elsewhere : Bool)
    (hfresh : ¬ RepeatsPrepared s (.deliver call elsewhere)) :
    Tickets (s.deliver call elsewhere) := by
  -- an old ticket keeps the slot as it is
  have hold : ∀ i a b, Ticketed s i a b →
      (applyRequest elsewhere s.slot inFlight.request).row = s.slot := by
    intro i a b hticketed
    obtain ⟨hcontent,row,hrow,hcommitted,hpending⟩ := h.tickets.ticket i a b hticketed
    obtain ⟨session,again,awaited,hstage,-⟩ := hticketed
    obtain ⟨hwell,-,-⟩ := h.tasks _ (mem_of_getElem? hstage)
    have hnext := (WitnessRequest.oneForward_of_wellFormed hwell).2
    rcases applyRequest_cases elsewhere s.slot inFlight.request with ⟨hsame,-⟩ |
      ⟨_,_,-,hnone,-⟩ | ⟨_,_,row',-,hrow',-,-,hfree,-⟩ |
      ⟨checkpoint,row',hrequest,hrow',-,hprepared,-⟩
    · exact hsame
    · rw [hrow] at hnone
      cases hnone
    · rw [hrow,some.injEq] at hrow'
      rw [← hrow',hpending] at hfree
      cases hfree
    · -- the head to finalize has been held, and the proposal has not
      rw [hrow,some.injEq] at hrow'
      rw [← hrow',hpending,some.injEq] at hprepared
      have hheld := h.requests inFlight (mem_of_getElem? hcall)
      rw [hrequest] at hheld
      obtain ⟨content,hcontent',hle⟩ := h.held checkpoint hheld.1
      rw [hcontent,some.injEq] at hcontent'
      have hsequence : b.sequence = checkpoint.sequence :=
        congrArg AuthorityStateHead.sequence hprepared
      rw [← hcontent'] at hle
      omega
  -- a new one comes with the answer to a prepare of a free slot
  have hticket : ∀ i a b, Ticketed (s.deliver call elsewhere) i a b → Ticketed s i a b ∨
      (∃ session again, s.tasks[i]? = some (.preparing session a b again call)) ∧
        ∃ row, s.slot = some row ∧ row.committed = a.head ∧ row.pending = none ∧
          (applyRequest elsewhere s.slot inFlight.request).row =
            some { row with pending := some b.head } := by
    rintro i a b ⟨session,again,awaited,hstage,answered,hanswered,state,hanswer⟩
    rw [deliver_eq hcall] at hstage hanswered
    by_cases hsame : call = awaited
    · subst hsame
      rw [List.getElem?_set_self (List.getElem?_eq_some_iff.1 hcall).1,some.injEq]
        at hanswered
      rw [← hanswered,honce,nil_append,mem_singleton,Prod.mk.injEq] at hanswer
      obtain ⟨-,-,asked,hasked,hrequest⟩ := h.tasks _ (mem_of_getElem? hstage)
      rw [hcall,some.injEq] at hasked
      subst hasked
      have houtcome := hanswer.1.symm
      rw [hrequest] at houtcome
      obtain ⟨row,hrow,hcommitted,hpending | ⟨hfree,hdone⟩⟩ := prepared_cases houtcome
      · refine absurd ⟨inFlight,hcall,?_⟩ hfresh
        rw [hrequest,hrow,WitnessRequest.repeats,bind_some,hpending]
        exact beq_self_eq_true _
      · rw [← hrequest] at hdone
        exact .inr ⟨⟨session,again,hstage⟩,row,hrow,hcommitted,hfree,hdone⟩
    · rw [List.getElem?_set_ne hsame] at hanswered
      exact .inl ⟨session,again,awaited,hstage,answered,hanswered,state,hanswer⟩
  have hexclusive : ∀ i a b row, Ticketed s i a b → s.slot = some row → row.pending ≠ none := by
    intro i a b row hticketed hrow hfree
    obtain ⟨-,row',hrow',-,hpending⟩ := h.tickets.ticket i a b hticketed
    rw [hrow,some.injEq] at hrow'
    rw [← hrow',hfree] at hpending
    cases hpending
  refine ⟨fun stage hstage awaited hawaited => ?_,fun i j a b awaited ha hb => ?_,
    fun i a b hticketed => ?_,fun i j a b c d hi hj => ?_⟩
  · rw [deliver_eq hcall] at hstage ⊢
    rw [length_set]
    exact h.tickets.sent stage hstage awaited hawaited
  · rw [deliver_eq hcall] at ha hb
    exact h.tickets.apart i j a b awaited ha hb
  · rcases hticket i a b hticketed with hticketed | ⟨⟨session,again,hstage⟩,row,hrow,
      hcommitted,hfree,hdone⟩
    · rw [deliver_eq hcall]
      obtain ⟨hcontent,hslot⟩ := h.tickets.ticket i a b hticketed
      exact ⟨hcontent,by rw [hold i a b hticketed]; exact hslot⟩
    · rw [deliver_eq hcall]
      obtain ⟨-,hheld,-⟩ := h.tasks _ (mem_of_getElem? hstage)
      exact ⟨h.content_eq hs hheld hrow hcommitted hfree,_,hdone,hcommitted,rfl⟩
  · rcases hticket i a b hi with hi | ⟨⟨session,again,hstage⟩,row,hrow,-,hfree,-⟩ <;>
      rcases hticket j c d hj with hj | ⟨⟨session',again',hstage'⟩,row',hrow',-,hfree',-⟩
    · exact h.tickets.single i j a b c d hi hj
    · exact absurd hfree' (hexclusive i a b row' hi hrow')
    · exact absurd hfree (hexclusive j c d row hj hrow)
    · exact h.tickets.apart i j _ _ call hstage hstage' rfl rfl

theorem Honest.deliver (honest : HonestStep s (.deliver call elsewhere))
    (hfresh : ¬ RepeatsPrepared s (.deliver call elsewhere)) :
    Honest binding initial (s.deliver call elsewhere) := by
  cases hcall : s.calls[call]? with
  | none =>
    rw [FreshnessSystem.deliver,hcall]
    exact h
  | some inFlight =>
    have hmem := mem_of_getElem? hcall
    have hforward := (hs.calls inFlight hmem).1
    have hgrows := grows_deliver hs.slot hcall hforward elsewhere
    have htickets := h.tickets_deliver hs hcall (honest inFlight hcall) elsewhere hfresh
    rw [deliver_eq hcall] at hgrows htickets ⊢
    refine ⟨h.held,h.named,fun row hrow => h.reached_deliver hs hmem hrow,?_,?_,?_,?_,
      h.refusals,htickets,⟨h.accounts.threw,h.accounts.committed,h.accounts.began⟩⟩
    · intro other hother
      rcases mem_or_eq_of_mem_set hother with hother | rfl
      · exact (h.requests other hother).grow hgrows
      · exact (h.requests inFlight hmem).grow hgrows
    · intro other hother answer hanswer
      rcases mem_or_eq_of_mem_set hother with hother | rfl
      · exact (h.answers other hother answer hanswer).grow hgrows fun _ hreached => hreached
      · rw [mem_append] at hanswer
        rcases hanswer with hanswer | hanswer
        · exact (h.answers inFlight hmem answer hanswer).grow hgrows fun _ hreached => hreached
        · rw [mem_singleton.1 hanswer]
          refine ⟨⟨_,prefix_refl _,hs.slot.applyRequest elsewhere hforward⟩,
            fun row hrow => h.reached_deliver hs hmem hrow,fun checkpoint hrequest => ?_⟩
          have hheld := h.requests inFlight hmem
          simp only at hrequest
          rw [hrequest] at hheld ⊢
          exact hs.slot.finalize_answer hheld.2 elsewhere
    · exact fun stage hstage => (h.tasks stage hstage).grow hgrows
    · intro kept hkept
      obtain ⟨hsticky,hunfinalized,hbinding,row,hrow,hstore⟩ := h.sessions kept hkept
      refine ⟨hsticky,hunfinalized,hbinding,?_⟩
      obtain ⟨row',hrow',hstore'⟩ := applyRequest_store elsewhere row inFlight.request
      rw [← hrow] at hrow'
      exact ⟨row',hrow',hstore'.trans hstore⟩

end

end Frontera.Freshness
