import Frontera.Freshness.SystemInvariant

/-! Wherever processes stop, whatever is lost or repeated, and whichever content is put back, an
establish that begins after a transition has returned ends at that transition's checkpoint or beyond
it. -/

namespace Frontera.Freshness

open List Option

theorem reconcile_ok {localHead : AuthorityStateCheckpoint} {witnessed : WitnessBindingState}
    {verdict : Verdict} (h : reconcile localHead witnessed = .ok verdict) :
    ∃ row, witnessed = some row ∧ row.storeId = localHead.storeId ∧
      (row.pending = some localHead.head ∨ row.pending = none ∧ row.committed = localHead.head) := by
  cases witnessed with
  | none => cases h
  | some row =>
    simp only [reconcile] at h
    split_ifs at h with hstore hpending hbehind hbetween hcommitted
    · exact ⟨row,rfl,not_not.1 hstore,.inl hpending⟩
    · refine ⟨row,rfl,not_not.1 hstore,.inr ⟨?_,hcommitted⟩⟩
      by_contra hsome
      exact hbetween ⟨isSome_iff_ne_none.2 hsome,hcommitted⟩

variable {binding : AuthorityStateBinding} {genesisDigest : String → String}
  {initial : Option AuthorityStateCheckpoint} {s : FreshnessSystem}

variable {witnessed : WitnessBindingState} {localHead : AuthorityStateCheckpoint}
  {verdict : Verdict} {purpose : SettlePurpose}

theorem Snapshot.confirms {began : Nat} (h : Snapshot s began witnessed)
    (hreconcile : reconcile localHead witnessed = .ok verdict) :
    RecordedIn s.log localHead ∧ BeyondReturned s began localHead := by
  obtain ⟨log,hlog,hsound,hreturned⟩ := h
  obtain ⟨row,hrow,hstore,hhead⟩ := reconcile_ok hreconcile
  refine ⟨?_,fun task session checkpoint hevent => ?_⟩
  · apply RecordedIn.mono _ hlog
    rcases hhead with hpending | ⟨-,hcommitted⟩
    · exact hsound.recorded_pending hrow hstore.symm hpending
    · exact hsound.recorded_committed hrow hstore.symm hcommitted.symm
  · obtain ⟨row',hrow',-,hanchored⟩ := hsound.anchored (hreturned task session checkpoint hevent)
    rw [hrow,some.injEq] at hrow'
    subst hrow'
    rcases hhead with hpending | ⟨hfree,hcommitted⟩
    · have hnext : localHead.sequence = row.committed.sequence + 1 :=
        hsound.successor row localHead.head hrow hpending
      rcases hanchored with hsame | hbefore | hbehind
      · rw [hpending,some.injEq] at hsame
        exact ⟨Int.le_of_eq (congrArg AuthorityStateHead.sequence hsame.symm),
          fun _ => congrArg AuthorityStateHead.stateDigest hsame.symm⟩
      · have hsequence : row.committed.sequence = checkpoint.sequence :=
          congrArg AuthorityStateHead.sequence hbefore
        exact ⟨by omega,fun heq => by omega⟩
      · exact ⟨by omega,fun heq => by omega⟩
    · have hsequence : row.committed.sequence = localHead.sequence :=
        congrArg AuthorityStateHead.sequence hcommitted
      rcases hanchored with hsame | hsame | hbehind
      · rw [hfree] at hsame
        cases hsame
      · rw [hcommitted] at hsame
        exact ⟨Int.le_of_eq (congrArg AuthorityStateHead.sequence hsame.symm),
          fun _ => congrArg AuthorityStateHead.stateDigest hsame.symm⟩
      · exact ⟨by omega,fun heq => by omega⟩

section

variable (h : SystemSound binding genesisDigest initial s)
include h

theorem SystemSound.refuse (task : Nat) (purpose : SettlePurpose) (code : FreshnessErrorCode)
    (witnessed : WitnessBindingState) :
    SystemSound binding genesisDigest initial (s.refuse task purpose code witnessed) := by
  cases purpose with
  | establish began opened => exact h.finish task trivial fun _ _ heq => by cases heq
  | probe session first =>
    refine SystemSound.setTask (h.updateSession_floor session fun kept => ?_) task trivial
    split
    · rfl
    · split_ifs <;> rfl

theorem SystemSound.undecided (task : Nat) (purpose : SettlePurpose)
    (code : Option FreshnessErrorCode) :
    SystemSound binding genesisDigest initial (s.undecided task purpose code) := by
  cases purpose with
  | establish began opened => exact h.finish task trivial fun _ _ heq => by cases heq
  | probe session first => exact h.setTask task trivial

theorem SystemSound.conclude (task : Nat) (hcompared : Compared s witnessed purpose)
    (hreconcile : reconcile localHead witnessed = .ok verdict) :
    SystemSound binding genesisDigest initial (s.conclude task purpose verdict localHead) := by
  cases purpose with
  | establish began opened =>
    obtain ⟨hbegan,hsnapshot⟩ := hcompared
    obtain ⟨hrecorded,hbeyond⟩ := hsnapshot.confirms hreconcile
    simp only [FreshnessSystem.conclude]
    by_cases hother : localHead.binding ≠ opened.binding ∨ localHead.storeId ≠ opened.storeId
    · rw [if_pos hother]
      exact h.finish task trivial fun _ _ heq => by cases heq
    rw [if_neg hother]
    cases verdict with
    | ready => exact h.createSession task began hbegan hrecorded hbeyond
    | finalize =>
      simp only
      split_ifs
      · exact h.send task (.finalize localHead) fun s' hgrows _ =>
          ⟨Nat.le_trans hbegan hgrows.events.length_le,hrecorded.mono hgrows.log,
            hbeyond.grow hgrows hbegan⟩
      · exact h.finish task trivial fun _ _ heq => by cases heq
  | probe session first =>
    have hresolved := h.updateSession_floor session
      (f := fun kept => { kept with unresolved := none }) fun _ => rfl
    cases verdict with
    | ready =>
      refine SystemSound.setTask (hresolved.updateSession_floor session fun kept => ?_) task trivial
      split
      · split_ifs <;> rfl
      · rfl
    | finalize =>
      simp only [FreshnessSystem.conclude]
      split_ifs
      · exact hresolved.send task (.finalize localHead) fun _ _ _ => trivial
      · exact hresolved.setTask task trivial

theorem SystemSound.settle (task : Nat) (round : Nat) (hcompared : Compared s witnessed purpose)
    (around : Surroundings) :
    SystemSound binding genesisDigest initial
      (s.settle binding task purpose round witnessed around) := by
  obtain ⟨hread,hunchanged⟩ := h.readLocal purpose around
  have hcompared' : Compared (s.readLocal purpose around).2 witnessed purpose := by
    cases purpose with
    | establish began opened =>
      rw [hunchanged began opened rfl]
      exact hcompared
    | probe session first => trivial
  rw [FreshnessSystem.settle]
  generalize s.readLocal purpose around = local? at hread hcompared'
  obtain ⟨head?,s'⟩ := local?
  cases head? with
  | none => exact hread.undecided task purpose none
  | some localHead =>
    simp only
    cases hreconcile : reconcile localHead witnessed with
    | ok verdict => exact hread.conclude task hcompared' hreconcile
    | error code =>
      simp only
      split_ifs
      · exact hread.refuse task purpose code witnessed
      · exact hread.undecided task purpose _
      · apply hread.send task (.read binding)
        intro s'' hgrows hcall
        cases purpose with
        | establish began opened => exact inFlight_sent hcompared'.1 hgrows hcall
        | probe session first => trivial

end

theorem holds_some {state : WitnessBindingState} {checkpoint : AuthorityStateCheckpoint}
    {pending : Option AuthorityStateCheckpoint} (h : holds state checkpoint pending = true) :
    ∃ row, state = some row ∧ row.storeId = checkpoint.storeId ∧ row.committed = checkpoint.head ∧
      row.pending = pending.map (·.head) := by
  cases state with
  | none => cases h
  | some row =>
    simp only [holds,Bool.and_eq_true,beq_iff_eq] at h
    exact ⟨row,rfl,h.1.1,h.1.2,h.2⟩

variable {began : Nat} {outcome : WitnessOutcome}

theorem Snapshot.enrolled {enrollment : AuthorityStateEnrollment}
    {checkpoint : AuthorityStateCheckpoint} (h : Snapshot s began witnessed)
    (happlied : appliedStateProblem (.enroll enrollment checkpoint) .enrolled witnessed = none) :
    RecordedIn s.log checkpoint := by
  simp only [appliedStateProblem] at happlied
  split_ifs at happlied with hholds
  obtain ⟨row,hrow,hstore,hcommitted,-⟩ := holds_some hholds
  obtain ⟨log,hlog,hsound,-⟩ := h
  exact (hsound.recorded_committed hrow hstore.symm hcommitted.symm).mono hlog

theorem Snapshot.prepared {expected proposed : AuthorityStateCheckpoint}
    (h : Snapshot s began witnessed) (hstore : expected.storeId = proposed.storeId)
    (happlied : appliedStateProblem (.prepare expected proposed) .prepared witnessed = none) :
    RecordedIn s.log proposed := by
  simp only [appliedStateProblem] at happlied
  split_ifs at happlied with hholds
  obtain ⟨row,hrow,hstore',-,hpending⟩ := holds_some hholds
  obtain ⟨log,hlog,hsound,-⟩ := h
  exact (hsound.recorded_pending hrow (hstore.symm.trans hstore'.symm) hpending).mono hlog

section

variable (h : SystemSound binding genesisDigest initial s)
include h

theorem SystemSound.openStore (enrollment : Bool) :
    SystemSound binding genesisDigest initial (s.openStore binding enrollment) := by
  rw [FreshnessSystem.openStore]
  cases hcontent : s.content with
  | none =>
    have hempty : initial = none := by
      apply h.empty
      rw [← hcontent]
      exact h.content
    simp only
    split_ifs
    · exact h.record trivial fun _ _ heq => by cases heq
    · exact h.spawn (.read binding) fun s' hgrows hcall =>
        ⟨hempty,inFlight_sent (Nat.zero_le _) hgrows hcall⟩
  | some opened =>
    have hheld : some opened ∈ s.held := by
      rw [← hcontent]
      exact h.content
    simp only
    split_ifs
    · exact h.record trivial fun _ _ heq => by cases heq
    · exact h.spawn (.read opened.binding) fun s' hgrows hcall =>
        ⟨hgrows.held hheld,inFlight_sent (Nat.le_refl _) hgrows hcall⟩

theorem SystemSound.genesisRead (task round : Nat) (hempty : initial = none)
    (hsnapshot : Snapshot s began witnessed) (newStoreId : String) :
    SystemSound binding genesisDigest initial
      (s.genesisRead binding genesisDigest task round witnessed newStoreId) := by
  cases witnessed with
  | some row =>
    simp only [FreshnessSystem.genesisRead]
    split_ifs with hgenesis
    · obtain ⟨log,hlog,hsound,-⟩ := hsnapshot
      refine h.setTask task (RecordedIn.mono (hsound.recorded_committed rfl rfl ?_) hlog)
      rw [FreshnessSystem.genesisCheckpoint,← hgenesis.2.1,← hgenesis.2.2]
    · exact h.finish task trivial fun _ _ heq => by cases heq
  | none =>
    simp only [FreshnessSystem.genesisRead]
    split_ifs
    · apply h.send task
      · exact ⟨trivial,fun _ _ _ _ => .inl hempty⟩
      · exact fun s' hgrows hcall => ⟨hempty,inFlight_sent (Nat.zero_le _) hgrows hcall⟩
    · exact h.finish task trivial fun _ _ heq => by cases heq

theorem SystemSound.genesisEnrolled (task round : Nat) (hempty : initial = none)
    {storeId : String} (hsnapshot : Snapshot s began witnessed)
    (happlied : appliedStateProblem (.enroll .genesis (FreshnessSystem.genesisCheckpoint binding genesisDigest storeId)) outcome witnessed = none) :
    SystemSound binding genesisDigest initial
      (s.genesisEnrolled binding task round storeId outcome witnessed) := by
  rw [FreshnessSystem.genesisEnrolled]
  split_ifs with henrolled
  · subst henrolled
    exact h.setTask task (hsnapshot.enrolled happlied)
  · exact h.finish task trivial fun _ _ heq => by cases heq
  · exact h.send task (.read binding) fun s' hgrows hcall =>
      ⟨hempty,inFlight_sent (Nat.zero_le _) hgrows hcall⟩
  · exact h.finish task trivial fun _ _ heq => by cases heq

theorem SystemSound.commitGenesis (task : Nat) :
    SystemSound binding genesisDigest initial (s.commitGenesis binding genesisDigest task) := by
  rw [FreshnessSystem.commitGenesis]
  split
  · rename_i storeId hstage
    have hrecorded := h.tasks _ (mem_of_getElem? hstage)
    split
    · exact SystemSound.setTask (h.withContent hrecorded) task trivial
    · exact h.setTask task trivial
  · exact h

theorem SystemSound.establishRead (task : Nat) {opened : AuthorityStateCheckpoint}
    (hheld : some opened ∈ s.held) (enrollment : Bool) (hbegan : began ≤ s.events.length)
    (hsnapshot : Snapshot s began witnessed) (around : Surroundings) :
    SystemSound binding genesisDigest initial
      (s.establishRead binding task began opened enrollment witnessed around) := by
  have hcompared : Compared s witnessed (.establish began opened) := ⟨hbegan,hsnapshot⟩
  have hsettle := h.settle task 0 hcompared around
  have hrefused : ∀ code, SystemSound binding genesisDigest initial
      (s.finish task (.establishRefused code)) := fun code =>
    h.finish task trivial fun _ _ heq => by cases heq
  cases witnessed with
  | none =>
    simp only [FreshnessSystem.establishRead]
    split_ifs
    · exact hsettle
    · exact hrefused _
    · apply h.send task
      · refine ⟨trivial,fun enrollment checkpoint heq hnone => .inr ?_⟩
        cases heq
        exact (h.unbound hnone _ hheld).symm
      · exact fun s' hgrows hcall => inFlight_sent hbegan hgrows hcall
    · exact hrefused _
  | some row =>
    simp only [FreshnessSystem.establishRead]
    split_ifs
    · exact hsettle
    · exact hrefused _
    · exact hsettle
    · exact hrefused _

end

section

variable (h : SystemSound binding genesisDigest initial s)
include h

theorem SystemSound.throws (task session : Nat) (code : FreshnessErrorCode) :
    SystemSound binding genesisDigest initial (s.throws task session code) :=
  h.finish task trivial fun _ _ heq => by cases heq

theorem SystemSound.throwSticky (task session : Nat) (kept : FreshnessSession)
    (code : FreshnessErrorCode) :
    SystemSound binding genesisDigest initial (s.throwSticky task session kept code) :=
  (h.updateSession_floor session (f := fun other => other.fail code) fun _ => rfl).throws task
    session _

theorem SystemSound.sendPrepare (task session : Nat)
    (expected proposed : AuthorityStateCheckpoint) (again : Bool) :
    SystemSound binding genesisDigest initial
      (s.sendPrepare task session expected proposed again) := by
  rw [FreshnessSystem.sendPrepare]
  split_ifs with hwell
  · exact h.send task (.of_not_enroll (WitnessRequest.oneForward_of_wellFormed hwell)
      fun _ _ heq => by cases heq) fun s' hgrows hcall =>
        inFlight_sent (Nat.zero_le _) hgrows hcall
  · exact h.throws task session _

theorem SystemSound.transition (session : Nat) (expected proposed : AuthorityStateCheckpoint) :
    SystemSound binding genesisDigest initial (s.transition session expected proposed) := by
  have hadded : SystemSound binding genesisDigest initial
      { s with tasks := s.tasks ++ [FreshnessTask.done] } := by
    refine ⟨h.slot,h.content,h.empty,h.unbound,h.bound,h.calls,?_,h.sessions,h.events, h.forward⟩
    intro other hother
    rcases mem_append.1 hother with hother | hother
    · exact h.tasks other hother
    · rw [mem_singleton.1 hother]
      trivial
  have hbegan : EventSound { s with tasks := s.tasks ++ [FreshnessTask.done] }
    (.began s.tasks.length session) := trivial
  have hnew := hadded.record hbegan fun _ _ heq => by cases heq
  rw [FreshnessSystem.transition]
  cases s.sessions[session]? with
  | none => exact h
  | some kept =>
    simp only
    cases kept.sticky with
    | some code => exact hnew.throws _ session code
    | none =>
      simp only
      split_ifs
      · exact hnew.throws _ session _
      · cases kept.unfinalized with
        | some outstanding => exact hnew.send _ (.finalize outstanding) fun _ _ _ => trivial
        | none => exact hnew.sendPrepare _ session expected proposed false

end

variable {current : FreshnessSession} {proposed : AuthorityStateCheckpoint}

section

variable (h : SystemSound binding genesisDigest initial s)
include h

theorem SystemSound.commit (task session : Nat) (hcurrent : s.sessions[session]? = some current)
    (kept : FreshnessSession) (expected : AuthorityStateCheckpoint)
    (hrecorded : RecordedIn s.log proposed) (around : Surroundings) :
    SystemSound binding genesisDigest initial
      (s.commit task session kept expected proposed around) := by
  have hfloor := h.sessions current (mem_of_getElem? hcurrent)
  have hreached : RecordedIn s.log (current.commit proposed).floor ∧
      AtLeast (current.commit proposed).floor current.floor ∧
      AtLeast (current.commit proposed).floor proposed := by
    rw [FreshnessSession.commit]
    split_ifs with hgreater
    · exact ⟨hrecorded,⟨by show current.floor.sequence ≤ proposed.sequence; omega,
        fun heq => by have : current.floor.sequence = proposed.sequence := heq; omega⟩,.refl _⟩
    · refine ⟨hfloor,.refl _,by omega,fun heq => ?_⟩
      rw [h.slot.head_eq hrecorded hfloor heq]
  rw [FreshnessSystem.commit]
  split_ifs
  · have hcommitted : SystemSound binding genesisDigest initial
        ((s.withContent proposed).updateSession session fun other => other.commit proposed) := by
      apply (h.withContent hrecorded).updateSession
      intro other hother
      have hsame : s.sessions[session]? = some other := hother
      rw [hcurrent,some.injEq] at hsame
      rw [← hsame]
      exact ⟨hreached.1,hreached.2.1⟩
    have hevent : EventSound ((s.withContent proposed).updateSession session
        fun other => other.commit proposed) (.committed task session proposed) :=
      ⟨_,updateSession_self hcurrent _,hreached.2.2⟩
    exact SystemSound.send (hcommitted.record hevent fun _ _ heq => by cases heq) task
      (.finalize proposed) fun s' hgrows _ => RecordedIn.mono hrecorded hgrows.log
  · exact h.throwSticky task session kept _

theorem SystemSound.prepared (task session : Nat) (hcurrent : s.sessions[session]? = some current)
    (kept : FreshnessSession) (expected proposed : AuthorityStateCheckpoint) (again : Bool)
    (outcome : WitnessOutcome) (witnessed : WitnessBindingState) (around : Surroundings)
    (hrecorded : outcome = .prepared → RecordedIn s.log proposed) :
    SystemSound binding genesisDigest initial
      (s.prepared task session kept expected proposed again outcome witnessed around) := by
  rw [FreshnessSystem.prepared.eq_def]
  by_cases hprepared : outcome = .prepared
  · rw [if_pos hprepared]
    exact h.commit task session hcurrent kept expected (hrecorded hprepared) around
  rw [if_neg hprepared]
  by_cases hagain : again = true
  · rw [if_pos hagain]
    exact h.throws task session _
  rw [if_neg hagain]
  cases witnessed with
  | none => exact h.throws task session _
  | some row =>
    simp only
    split_ifs
    · exact h.send task (.finalize expected) fun _ _ _ => trivial
    · exact h.throws task session _

theorem SystemSound.finalizedProposed (task session : Nat) (kept : FreshnessSession)
    (hrecorded : RecordedIn s.log proposed)
    (reply : Except FreshnessErrorCode (WitnessOutcome × WitnessBindingState)) :
    SystemSound binding genesisDigest initial
      (s.finalizedProposed task session kept proposed reply) := by
  cases reply with
  | error code =>
    rw [FreshnessSystem.finalizedProposed]
    cases kept.sticky with
    | some failure => exact h.throws task session code
    | none =>
      have hkept := h.updateSession_floor session
        (f := fun other => { other with unfinalized := some proposed }) fun _ => rfl
      exact hkept.finish task hrecorded fun _ _ heq => by cases heq
  | ok answer =>
    obtain ⟨outcome,witnessed⟩ := answer
    simp only [FreshnessSystem.finalizedProposed]
    split_ifs
    · exact h.finish task hrecorded fun _ _ heq => by cases heq
    · exact h.throwSticky task session kept _

end

variable {given : Except FreshnessErrorCode Nat} {task : Nat} {stage : FreshnessTask}

theorem InFlight.reply {began call : Nat} {request : WitnessRequest}
    (h : InFlight s began call request) {outcome : WitnessOutcome}
    {witnessed : WitnessBindingState}
    (hreply : s.reply? call given = some (.ok (outcome, witnessed))) :
    Snapshot s began witnessed ∧ appliedStateProblem request outcome witnessed = none := by
  cases given with
  | error code => cases hreply
  | ok index =>
    obtain ⟨-,inFlight,hcall,-,hanswers⟩ := h
    simp only [FreshnessSystem.reply?,hcall,bind_some,map_eq_some_iff] at hreply
    obtain ⟨answer,hanswer,hsame⟩ := hreply
    cases hsame
    exact hanswers (outcome, witnessed) (mem_of_getElem? hanswer)

section

variable (h : SystemSound binding genesisDigest initial s)
  (hstage : TaskSound binding genesisDigest initial s stage)
include h hstage

theorem SystemSound.answerOpening (hopening : stage.session? = none)
    {reply : Except FreshnessErrorCode (WitnessOutcome × WitnessBindingState)}
    (hreply : (stage.call?.bind fun call => s.reply? call given) = some reply)
    (around : Surroundings) :
    SystemSound binding genesisDigest initial
      (s.answerOpening task stage reply around binding genesisDigest) := by
  have hgenesis : ∀ code, SystemSound binding genesisDigest initial
      (s.finish task (.genesisRefused code)) := fun code =>
    h.finish task trivial fun _ _ heq => by cases heq
  have hrefused : ∀ code, SystemSound binding genesisDigest initial
      (s.finish task (.establishRefused code)) := fun code =>
    h.finish task trivial fun _ _ heq => by cases heq
  cases stage with
  | genesisReading round call =>
    cases reply with
    | error code => exact hgenesis code
    | ok answer =>
      obtain ⟨hsnapshot,-⟩ := hstage.2.reply hreply
      exact h.genesisRead task round hstage.1 hsnapshot _
  | genesisEnrolling round storeId call =>
    cases reply with
    | error code => exact hgenesis code
    | ok answer =>
      obtain ⟨hsnapshot,happlied⟩ := hstage.2.reply hreply
      exact h.genesisEnrolled task round hstage.1 hsnapshot happlied
  | establishing began opened enrollment call =>
    cases reply with
    | error code => exact hrefused _
    | ok answer =>
      obtain ⟨hsnapshot,-⟩ := hstage.2.reply hreply
      exact h.establishRead task hstage.1 enrollment hstage.2.1 hsnapshot around
  | enrolling began opened call =>
    cases reply with
    | error code => exact hrefused _
    | ok answer =>
      obtain ⟨hsnapshot,-⟩ := InFlight.reply hstage hreply
      have hcompared : Compared s answer.2 (.establish began opened) := ⟨hstage.1,hsnapshot⟩
      simp only [FreshnessSystem.answerOpening]
      split_ifs
      · exact h.settle task 0 hcompared around
      · exact hrefused _
  | settling purpose round witnessed code call =>
    cases reply with
    | error code => exact hrefused _
    | ok answer =>
      cases purpose with
      | probe session first => cases hopening
      | establish began opened =>
        obtain ⟨hsnapshot,-⟩ := InFlight.reply hstage hreply
        have hcompared : Compared s answer.2 (.establish began opened) := ⟨hstage.1,hsnapshot⟩
        simp only [FreshnessSystem.answerOpening]
        split_ifs
        · exact h.refuse task _ code witnessed
        · exact h.settle task (round + 1) hcompared around
  | finalizing began current call =>
    cases reply with
    | error code => exact hrefused _
    | ok answer =>
      simp only [FreshnessSystem.answerOpening]
      split_ifs
      · exact h.createSession task began hstage.1 hstage.2.1 hstage.2.2
      · exact hrefused _
  | genesisCommitting storeId => cases hreply
  | done => cases hreply
  | _ => cases hopening

theorem SystemSound.answerSession {session : Nat} (hsession : stage.session? = some session)
    {kept : FreshnessSession} (hkept : s.sessions[session]? = some kept)
    {reply : Except FreshnessErrorCode (WitnessOutcome × WitnessBindingState)}
    (hreply : (stage.call?.bind fun call => s.reply? call given) = some reply)
    (around : Surroundings) :
    SystemSound binding genesisDigest initial
      (s.answerSession task session kept stage reply around binding) := by
  cases reply with
  | error code =>
    have hfailed := h.updateSession_floor session (f := fun other => other.callFailed code)
      fun other => by
        rw [FreshnessSession.callFailed]
        split_ifs <;> rfl
    cases stage with
    | finalizingOutstanding _ expected proposed outstanding call =>
      exact hfailed.throws task session code
    | preparing _ expected proposed again call => exact hfailed.throws task session code
    | finalizingExpected _ expected proposed call => exact hfailed.throws task session code
    | finalizingProposed _ proposed call =>
      exact hfailed.finalizedProposed task session kept hstage (.error code)
    | probing _ call => exact hfailed.setTask task trivial
    | probeFinalizing _ localHead call =>
      refine SystemSound.setTask (hfailed.updateSession_floor session fun other => ?_) task trivial
      split_ifs <;> rfl
    | settling purpose round witnessed code call => exact hfailed.setTask task trivial
    | _ => exact hfailed
  | ok answer =>
    have hanswered := h.updateSession_floor session (f := FreshnessSession.callAnswered)
      fun _ => rfl
    have hcurrent := updateSession_self hkept FreshnessSession.callAnswered
    cases stage with
    | finalizingOutstanding _ expected proposed outstanding call =>
      simp only [FreshnessSystem.answerSession]
      split_ifs
      · have hfinalized := hanswered.updateSession_floor session
          (f := fun other => { other with unfinalized := none }) fun _ => rfl
        exact hfinalized.sendPrepare task session expected proposed false
      · exact hanswered.throwSticky task session kept _
    | preparing _ expected proposed again call =>
      obtain ⟨hsnapshot,happlied⟩ := InFlight.reply hstage hreply
      obtain ⟨-,inFlight,hcall,hrequest,-⟩ := hstage
      have hforward := (h.calls inFlight (mem_of_getElem? hcall)).1
      rw [hrequest] at hforward
      apply hanswered.prepared task session hcurrent
      intro hprepared
      rw [hprepared] at happlied
      exact hsnapshot.prepared hforward.1 happlied
    | finalizingExpected _ expected proposed call =>
      simp only [FreshnessSystem.answerSession]
      split_ifs
      · exact hanswered.sendPrepare task session expected proposed true
      · exact hanswered.throws task session _
    | finalizingProposed _ proposed call =>
      exact hanswered.finalizedProposed task session kept hstage (.ok answer)
    | probing _ call =>
      have hcompared : Compared (s.updateSession session FreshnessSession.callAnswered) answer.2
        (.probe session answer.2) := trivial
      exact hanswered.settle task 0 hcompared around
    | probeFinalizing _ localHead call =>
      refine SystemSound.setTask (hanswered.updateSession_floor session fun other => ?_) task trivial
      split_ifs <;> rfl
    | settling purpose round witnessed code call =>
      cases purpose with
      | establish began opened => cases hsession
      | probe other first =>
        have hcompared : Compared (s.updateSession session FreshnessSession.callAnswered) answer.2
          (.probe other first) := trivial
        simp only [FreshnessSystem.answerSession]
        split_ifs
        · exact hanswered.refuse task _ code witnessed
        · exact hanswered.settle task (round + 1) hcompared around
    | _ => exact hanswered

end

theorem SystemSound.answer (h : SystemSound binding genesisDigest initial s) (task : Nat)
    (given : Except FreshnessErrorCode Nat) (around : Surroundings) :
    SystemSound binding genesisDigest initial
      (s.answer binding genesisDigest task given around) := by
  rw [FreshnessSystem.answer]
  cases hstage : s.tasks[task]? with
  | none => exact h
  | some stage =>
    have hsound := h.tasks stage (mem_of_getElem? hstage)
    simp only
    cases hreply : stage.call?.bind fun call => s.reply? call given with
    | none => exact h
    | some reply =>
      simp only
      cases hsession : stage.session? with
      | none => exact h.answerOpening hsound hsession hreply around
      | some session =>
        simp only
        cases hkept : s.sessions[session]? with
        | none => exact h
        | some kept => exact h.answerSession hsound hsession hkept hreply around

theorem SystemSound.step (h : SystemSound binding genesisDigest initial s) (step : FreshnessStep) :
    SystemSound binding genesisDigest initial (s.step binding genesisDigest step) := by
  cases step with
  | deliver call elsewhere => exact h.deliver call elsewhere
  | restore index =>
    simp only [FreshnessSystem.step]
    cases hheld : s.held[index]? with
    | none => exact h
    | some content => exact h.restore (mem_of_getElem? hheld)
  | openStore enrollment => exact h.openStore enrollment
  | answer task reply around => exact h.answer task reply around
  | commitGenesis task => exact h.commitGenesis task
  | transition session expected proposed => exact h.transition session expected proposed
  | probe session =>
    simp only [FreshnessSystem.step]
    cases s.sessions[session]? with
    | none => exact h
    | some kept =>
      simp only
      split_ifs
      · exact h
      · exact h.spawn (.read binding) fun _ _ _ => trivial
  | observe session =>
    simp only [FreshnessSystem.step]
    cases hkept : s.sessions[session]? with
    | none => exact h
    | some kept =>
      cases hcontent : s.content with
      | none => exact h
      | some localHead =>
        obtain ⟨hupdated,haccepted⟩ := h.observe hkept hcontent false
        simp only
        cases hproblem : (kept.observe false localHead).1 with
        | some problem => exact hupdated
        | none => exact haccepted hproblem

theorem systemSound_start (store : Option (String × AuthorityStateHead)) :
    SystemSound binding genesisDigest (contentOf binding store)
      (FreshnessSystem.start binding store) where
  slot := logSound_empty
  content := mem_singleton.2 rfl
  empty h := (mem_singleton.1 h).symm
  unbound _ content h := mem_singleton.1 h
  bound h := absurd rfl h
  calls call h := by cases h
  tasks task h := by cases h
  sessions kept h := by cases h
  events event h := by cases h
  forward before session head later h := by simp [FreshnessSystem.start] at h

theorem systemSound_run (binding : AuthorityStateBinding) (genesisDigest : String → String)
    (store : Option (String × AuthorityStateHead)) (steps : List FreshnessStep) :
    SystemSound binding genesisDigest (contentOf binding store)
      (FreshnessSystem.run binding genesisDigest store steps) := by
  induction steps using List.reverseRecOn with
  | nil => exact systemSound_start store
  | append_singleton steps step ih =>
    rw [FreshnessSystem.run,foldl_append]
    exact ih.step step

/-- In every run, with any interleaving, loss, repetition, crash and restored content: an
establish that began after a transition had returned its checkpoint succeeds only at that
checkpoint or beyond it; and in one session every accepted head is at or beyond every head
accepted or committed before. -/
theorem returned_never_erased (binding : AuthorityStateBinding) (genesisDigest : String → String)
    (store : Option (String × AuthorityStateHead)) (steps : List FreshnessStep) :
    (∀ start opened head, .established start opened head ∈
        (FreshnessSystem.run binding genesisDigest store steps).events →
      ∀ task session c, .returned task session c ∈
          (FreshnessSystem.run binding genesisDigest store steps).events.take start →
        c.sequence ≤ head.sequence ∧
          (c.sequence = head.sequence → c.head.stateDigest = head.head.stateDigest)) ∧
    ∀ before session head later, (FreshnessSystem.run binding genesisDigest store steps).events =
        before ++ .observed session head :: later →
      ∀ event ∈ before, ∀ earlier, event.head? session = some earlier →
        earlier.sequence ≤ head.sequence ∧ (earlier.sequence = head.sequence →
            earlier.head.stateDigest = head.head.stateDigest) := by
  have h := systemSound_run binding genesisDigest store steps
  refine ⟨fun start opened head hestablished task session c hreturned => ?_,?_⟩
  · obtain ⟨-,hbeyond⟩ := h.events _ hestablished
    exact hbeyond task session c hreturned
  · exact h.forward

/-- What a process may rely on: a content that the local store has held, a checkpoint that a
transition returned, and the floor of a session. -/
inductive ReliedOn (s : FreshnessSystem) : AuthorityStateCheckpoint → Prop
  | held {content : AuthorityStateCheckpoint} (h : some content ∈ s.held) : ReliedOn s content
  | returned {task session : Nat} {checkpoint : AuthorityStateCheckpoint}
      (h : .returned task session checkpoint ∈ s.events) : ReliedOn s checkpoint
  | floor {kept : FreshnessSession} (h : kept ∈ s.sessions) : ReliedOn s kept.floor

theorem SystemSound.reliedOn (h : SystemSound binding genesisDigest initial s)
    {checkpoint : AuthorityStateCheckpoint} (hrelied : ReliedOn s checkpoint) :
    RecordedIn s.log checkpoint ∨ s.slot = none ∧ initial = some checkpoint := by
  cases hrelied with
  | held hheld =>
    by_cases hslot : s.slot = none
    · exact .inr ⟨hslot,(h.unbound hslot _ hheld).symm⟩
    · exact .inl (h.bound hslot checkpoint hheld)
  | returned hevent => exact .inl (h.events _ hevent)
  | floor hkept => exact .inl (h.sessions _ hkept)

/-- No run forks: whatever is interleaved, lost, repeated, cut off or put back, all that any
process may rely on belongs to one store, and has one head for each sequence. -/
theorem relied_on_one_history (binding : AuthorityStateBinding) (genesisDigest : String → String)
    (store : Option (String × AuthorityStateHead)) (steps : List FreshnessStep) :
    (∀ a b, ReliedOn (FreshnessSystem.run binding genesisDigest store steps) a →
      ReliedOn (FreshnessSystem.run binding genesisDigest store steps) b → a.storeId = b.storeId) ∧
    ∀ a b, ReliedOn (FreshnessSystem.run binding genesisDigest store steps) a →
      ReliedOn (FreshnessSystem.run binding genesisDigest store steps) b →
      a.sequence = b.sequence → a.head = b.head := by
  have h := systemSound_run binding genesisDigest store steps
  generalize FreshnessSystem.run binding genesisDigest store steps = s at h
  have hboth : ∀ a b, ReliedOn s a → ReliedOn s b →
      a = b ∨ RecordedIn s.log a ∧ RecordedIn s.log b := by
    intro a b ha hb
    rcases h.reliedOn ha with ha | ⟨hslot,ha⟩
    · rcases h.reliedOn hb with hb | ⟨hslot,-⟩
      · exact .inr ⟨ha,hb⟩
      · exact absurd hslot (h.slot.bound ha)
    · rcases h.reliedOn hb with hb | ⟨-,hb⟩
      · exact absurd hslot (h.slot.bound hb)
      · exact .inl (some.inj (ha.symm.trans hb))
  refine ⟨fun a b ha hb => ?_,fun a b ha hb hsame => ?_⟩
  · rcases hboth a b ha hb with rfl | ⟨ha,hb⟩
    · rfl
    · obtain ⟨row,hrow,hstore,-⟩ := h.slot.anchored ha
      obtain ⟨row',hrow',hstore',-⟩ := h.slot.anchored hb
      rw [hrow,some.injEq] at hrow'
      rw [← hstore,← hstore',hrow']
  · rcases hboth a b ha hb with rfl | ⟨ha,hb⟩
    · rfl
    · exact h.slot.head_eq ha hb hsame

end Frontera.Freshness
