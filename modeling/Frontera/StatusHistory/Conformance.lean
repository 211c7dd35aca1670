import Frontera.StatusHistory.Gate

/-! Every call reads its history, and writes over what it has read at most what the status it
presents makes of it. A call that lost its write starts over with a new read. -/

namespace Frontera.StatusHistory

open Frontera.Data List

abbrev Trail := List statusStore.Entry

/-- A read of a history, answered. -/
def readOf (key : StatusHistoryKey) (entry : Option StatusHighWaterMarkEntry) : statusStore.Entry :=
  ⟨.read key,(some entry : Option (Option StatusHighWaterMarkEntry))⟩

/-- A write to a history, and what it was answered. -/
def writeOf (key : StatusHistoryKey) (expected : Option Int) (next : StatusHighWaterMark)
    (written : Option Bool) : statusStore.Entry :=
  ⟨.compareAndSet key expected next,written⟩

/-- The verified status of a call that reaches its history. -/
def statusOf (H : Host) : Call → Option SovereignStatusVerified
  | .check input => (prepare H input).toOption.map (·.verified)
  | .establish input => (prepareAnchoring H input).toOption.map (·.verified)

/-- The mark the gate writes over the one it has read. -/
def gateMark (prepared : Prepared) (mark : StatusHighWaterMark) : Option StatusHighWaterMark :=
  if prepared.now < instantOf mark.timeFloor then none
  else if mark.conflict then none
  else
    match transition mark prepared.verified with
    | .rollback | .unchanged => none
    | .conflict next => some next
    | .advance next _ => some next

/-- The mark a call writes over the one it has read. -/
def replacement (H : Host) : Call → Option StatusHighWaterMark → Option StatusHighWaterMark
  | .check input, read => do
      let prepared ← (prepare H input).toOption
      let mark ← read
      gateMark prepared mark
  | .establish input, read => do
      let anchoring ← (prepareAnchoring H input).toOption
      (anchoredMark anchoring.reanchor anchoring.verified anchoring.evaluationTime read).toOption

/-- What has been read is nothing, or an entry that reads back. -/
def Readable (key : StatusHistoryKey) (entry : Option StatusHighWaterMarkEntry) : Prop :=
  ∀ found ∈ entry, readMark found.mark = some found.mark ∧ found.mark.key = key

/-- The call may start over: it has done nothing, or lost its last write. -/
def MayRetry (H : Host) (call : Call) (key : StatusHistoryKey) (trail : Trail) : Prop :=
  trail = [] ∨ ∃ front entry next, Readable key entry ∧
    replacement H call (entry.map (·.mark)) = some next ∧
    trail = front ++ [readOf key entry, writeOf key (entry.map (·.revision)) next (some false)]

/-- An operation is due: a read of the call's own history where the call may start over, or the
write its last read calls for. -/
def Due (H : Host) (call : Call) (trail : Trail) : statusStore.Op → Prop
  | .read key => ∃ status, statusOf H call = some status ∧ key = status.historyKey ∧
      MayRetry H call key trail
  | .compareAndSet key expected next => ∃ status entry front,
      statusOf H call = some status ∧ key = status.historyKey ∧
      trail = front ++ [readOf key entry] ∧ Readable key entry ∧
      expected = entry.map (·.revision) ∧ replacement H call (entry.map (·.mark)) = some next

/-- How the last attempt of a call went. -/
inductive LastAttempt (H : Host) (call : Call) (key : StatusHistoryKey) : Trail → Prop
  | unread : LastAttempt H call key []
  | unanswered (front : Trail) : LastAttempt H call key
        (front ++ [⟨.read key,(none : Option (Option StatusHighWaterMarkEntry))⟩])
  | refused (front : Trail) (entry : Option StatusHighWaterMarkEntry)
      (h : Readable key entry → replacement H call (entry.map (·.mark)) = none ∨
        ∃ found, entry = some found ∧ ¬(isSafeInteger found.revision = true ∧ 1 ≤ found.revision)) :
      LastAttempt H call key (front ++ [readOf key entry])
  | wrote (front : Trail) (entry : Option StatusHighWaterMarkEntry) (next : StatusHighWaterMark)
      (written : Option Bool) (hreadable : Readable key entry)
      (h : replacement H call (entry.map (·.mark)) = some next) :
      LastAttempt H call key
        (front ++ [readOf key entry, writeOf key (entry.map (·.revision)) next written])

/-- A fresh verdict: the head after the last read is the presented status, its history is whole,
and it says what the policy asks. -/
structure FreshOn (prepared : Prepared) (read head : StatusHighWaterMark) : Prop where
  settled : read.conflict = false
  clock : instantOf read.timeFloor ≤ prepared.now
  arrives : (transition read prepared.verified = .unchanged ∧ head = read) ∨
    ∃ gap, transition read prepared.verified = .advance head gap
  continuity : head.continuity = .verified
  active : prepared.verified.assetStatus = .active
  terms : prepared.verified.currentTerms = some prepared.policy
  age : prepared.now - instantOf prepared.verified.issuedAt ≤
    prepared.maxAgeSeconds * nanosPerSecond

/-- The grounds of an answer. -/
def Grounds (H : Host) (call : Call) (trail : Trail) : Reply → Prop
  | .checked result => result.freshnessVerdict = .fresh →
      ∃ input prepared front found head, call = .check input ∧ prepare H input = .ok prepared ∧
        Readable prepared.verified.historyKey (some found) ∧
        (trail = front ++ [readOf prepared.verified.historyKey (some found)] ∨
          ∃ next, trail = front ++ [readOf prepared.verified.historyKey (some found),
            writeOf prepared.verified.historyKey (some found.revision) next (some true)]) ∧
        FreshOn prepared found.mark head
  | .anchored _ => True

/-- What is known of a call that has ended. -/
def Ended (H : Host) (call : Call) (trail : Trail) (reply : Reply) : Prop :=
  (∀ status, statusOf H call = some status → LastAttempt H call status.historyKey trail) ∧
    Grounds H call trail reply

theorem MayRetry.lastAttempt {H : Host} {call : Call} {key : StatusHistoryKey} {trail : Trail}
    (h : MayRetry H call key trail) : LastAttempt H call key trail := by
  rcases h with rfl | ⟨front,entry,next,hreadable,hreplacement,rfl⟩
  · exact .unread
  · exact .wrote front entry next (some false) hreadable hreplacement

theorem readEntry_cases (key : StatusHistoryKey)
    (answer : Option (Option StatusHighWaterMarkEntry)) :
    (answer = none ∧ readEntry key answer = .unavailable) ∨
    (answer = some none ∧ readEntry key answer = .absent) ∨
    (∃ found, answer = some (some found) ∧ readEntry key answer = .invalid ∧
      (Readable key (some found) → ¬(isSafeInteger found.revision = true ∧ 1 ≤ found.revision))) ∨
    (∃ found, answer = some (some found) ∧ readEntry key answer = .found found.revision found.mark ∧
      Readable key (some found)) := by
  match answer with
  | none => exact Or.inl ⟨rfl,rfl⟩
  | some none => exact Or.inr (Or.inl ⟨rfl,rfl⟩)
  | some (some found) =>
    right
    right
    by_cases hmark : readMark found.mark = some found.mark
    · by_cases hchecks : isSafeInteger found.revision = true ∧ 1 ≤ found.revision ∧ found.mark.key = key
      · refine Or.inr ⟨found,rfl,?_,?_⟩
        · simp only [readEntry,hmark]
          exact if_pos hchecks
        · rintro entry ⟨⟩
          exact ⟨hmark,hchecks.2.2⟩
      · refine Or.inl ⟨found,rfl,?_,?_⟩
        · simp only [readEntry,hmark]
          exact if_neg hchecks
        · intro hreadable hrevision
          exact hchecks ⟨hrevision.1,hrevision.2,(hreadable found rfl).2⟩
    · refine Or.inl ⟨found,rfl,?_,?_⟩
      · have hnone : readMark found.mark = none := by
          unfold readMark at hmark ⊢
          split_ifs with h
          · rw [if_pos h] at hmark
            exact absurd rfl hmark
          · rfl
        simp only [readEntry,hnone]
      · intro hreadable
        exact absurd (hreadable found rfl).1 hmark

theorem conclude_fresh {prepared : Prepared} {head : StatusHighWaterMark}
    (h : conclude prepared head = .fresh) :
    head.continuity = .verified ∧ prepared.verified.assetStatus = .active ∧
      prepared.verified.currentTerms = some prepared.policy ∧
      prepared.now - instantOf prepared.verified.issuedAt ≤
        prepared.maxAgeSeconds * nanosPerSecond := by
  unfold conclude at h
  split_ifs at h with hcontinuity hwithdrawn hrevoked hsuperseded hstale
  refine ⟨not_not.1 hcontinuity,?_,not_not.1 hsuperseded,not_lt.1 hstale⟩
  cases hstatus : prepared.verified.assetStatus with
  | active => rfl
  | withdrawn => exact absurd hstatus hwithdrawn

variable {H : Host} {input : CheckInput} {prepared : Prepared} {trail : Trail}

section

variable (h : prepare H input = .ok prepared)
include h

theorem statusOf_check : statusOf H (.check input) = some prepared.verified := by
  simp [statusOf,h,Except.toOption]

theorem replacement_check (mark : StatusHighWaterMark) :
    replacement H (.check input) (some mark) = gateMark prepared mark := by
  simp [replacement,h,Except.toOption]

theorem replacement_check_none : replacement H (.check input) none = none := by
  simp [replacement,h,Except.toOption]

end

theorem prepare_unfresh {refused : DocumentUseFreshnessResult}
    (h : prepare H input = .error refused) : refused.freshnessVerdict ≠ .fresh := by
  have hreason : ∀ reason, statusVerdict reason ≠ .fresh := by
    intro reason
    cases reason <;> simp [statusVerdict]
  unfold prepare at h
  split at h
  · cases h
    simp [result]
  · dsimp only at h
    split at h
    · cases h
      simp [result]
    · split at h
      · cases h
        simp [result]
      · split at h
        · cases h
          simp [result]
        · split_ifs at h
          · cases h
            simp [result]
          · split at h
            · cases h
              simp [result]
            · split at h
              · cases h
                simp [result]
              · split at h
                · cases h
                  exact hreason _
                · cases h

section

variable (h : prepare H input = .ok prepared)
  (hlast : LastAttempt H (.check input) prepared.verified.historyKey trail)
include h hlast

theorem ended_unfresh {result : DocumentUseFreshnessResult}
    (hverdict : result.freshnessVerdict ≠ .fresh) :
    Ended H (.check input) trail (.checked result) := by
  constructor
  · intro status hstatus
    rw [statusOf_check h,Option.some.injEq] at hstatus
    rw [← hstatus]
    exact hlast
  · intro hfresh
    exact absurd hfresh hverdict

theorem ended_concluded {front : Trail} {found : StatusHighWaterMarkEntry}
    {head : StatusHighWaterMark} (hreadable : Readable prepared.verified.historyKey (some found))
    (htrail : trail = front ++ [readOf prepared.verified.historyKey (some found)] ∨ ∃ next, trail = front ++ [readOf prepared.verified.historyKey (some found), writeOf prepared.verified.historyKey (some found.revision) next (some true)])
    (hclock : ¬prepared.now < instantOf found.mark.timeFloor)
    (hconflict : found.mark.conflict = false)
    (hhead : (transition found.mark prepared.verified = .unchanged ∧ head = found.mark) ∨ ∃ gap, transition found.mark prepared.verified = .advance head gap)
    {result : DocumentUseFreshnessResult}
    (hverdict : result.freshnessVerdict = conclude prepared head) :
    Ended H (.check input) trail (.checked result) := by
  constructor
  · intro status hstatus
    rw [statusOf_check h,Option.some.injEq] at hstatus
    rw [← hstatus]
    exact hlast
  · intro hfresh
    obtain ⟨hcontinuity,hactive,hterms,hage⟩ := conclude_fresh (hverdict.symm.trans hfresh)
    exact ⟨input,prepared,front,found,head,rfl,h,hreadable,htrail,
      ⟨hconflict,not_lt.1 hclock,hhead,hcontinuity,hactive,hterms,hage⟩⟩

end

theorem attempts_follows (h : prepare H input = .ok prepared) (n : Nat)
    (history : DocumentUseFreshnessHistoryEvidence)
    (hretry : MayRetry H (.check input) prepared.verified.historyKey trail) :
    (attempts prepared n history).Follows (Due H (.check input))
      (fun after result => Ended H (.check input) after (.checked result)) trail := by
  induction n generalizing history trail with
  | zero => exact ended_unfresh h hretry.lastAttempt (by simp [result])
  | succ n ih =>
    refine ⟨⟨prepared.verified,statusOf_check h,rfl,hretry⟩,?_⟩
    intro (answer : Option (Option StatusHighWaterMarkEntry))
    unfold settle
    rcases readEntry_cases prepared.verified.historyKey answer with
      ⟨rfl,hread⟩ | ⟨rfl,hread⟩ | ⟨found,rfl,hread,hinvalid⟩ | ⟨found,rfl,hread,hreadable⟩
    · rw [hread]
      exact ended_unfresh h (.unanswered trail) (by simp [result])
    · rw [hread]
      exact ended_unfresh h (.refused trail none fun _ => Or.inl (replacement_check_none h))
        (by simp [result])
    · rw [hread]
      refine ended_unfresh h (.refused trail (some found) fun hreadable => ?_) (by simp [result])
      exact Or.inr ⟨found,rfl,hinvalid hreadable⟩
    · rw [hread]
      -- the gate stops at the read, or writes what `gateMark` says
      have hrefused : gateMark prepared found.mark = none →
          LastAttempt H (.check input) prepared.verified.historyKey
            (trail ++ [readOf prepared.verified.historyKey (some found)]) := fun hgate =>
        .refused trail (some found) fun _ => Or.inl ((replacement_check h found.mark).trans hgate)
      have hdue : ∀ next, gateMark prepared found.mark = some next →
          Due H (.check input) (trail ++ [readOf prepared.verified.historyKey (some found)])
            (.compareAndSet prepared.verified.historyKey (some found.revision) next) :=
        fun next hgate => ⟨prepared.verified,some found,trail,statusOf_check h,rfl,rfl,
          hreadable,rfl,(replacement_check h found.mark).trans hgate⟩
      have hwrote : ∀ next written, gateMark prepared found.mark = some next →
          LastAttempt H (.check input) prepared.verified.historyKey
            (trail ++ [readOf prepared.verified.historyKey (some found)] ++
              [writeOf prepared.verified.historyKey (some found.revision) next written]) := by
        intro next written hgate
        rw [append_assoc]
        exact .wrote trail (some found) next written hreadable
          ((replacement_check h found.mark).trans hgate)
      have hlost : ∀ next, gateMark prepared found.mark = some next →
          MayRetry H (.check input) prepared.verified.historyKey
            (trail ++ [readOf prepared.verified.historyKey (some found)] ++
              [writeOf prepared.verified.historyKey (some found.revision) next (some false)]) := by
        intro next hgate
        exact Or.inr ⟨trail,some found,next,hreadable,
          (replacement_check h found.mark).trans hgate,append_assoc _ _ _⟩
      dsimp only
      split_ifs with hclock hconflict
      · exact ended_unfresh h (hrefused (by simp [gateMark,hclock])) (by simp [result])
      · exact ended_unfresh h (hrefused (by simp [gateMark,hclock,hconflict])) (by simp [result])
      · rw [Bool.not_eq_true] at hconflict
        cases hstep : transition found.mark prepared.verified with
        | rollback =>
          exact ended_unfresh h (hrefused (by simp [gateMark,hclock,hconflict,hstep]))
            (by simp [result])
        | unchanged =>
          exact ended_concluded h (hrefused (by simp [gateMark,hclock,hconflict,hstep]))
            hreadable (Or.inl rfl) hclock hconflict (Or.inl ⟨hstep,rfl⟩) rfl
        | conflict next =>
          have hgate : gateMark prepared found.mark = some next := by
            simp [gateMark,hclock,hconflict,hstep]
          refine ⟨hdue next hgate,?_⟩
          intro (written : Option Bool)
          match written with
          | none => exact ended_unfresh h (hwrote next none hgate) (by simp [result])
          | some false => exact ih _ (hlost next hgate)
          | some true => exact ended_unfresh h (hwrote next (some true) hgate) (by simp [result])
        | advance next gap =>
          have hgate : gateMark prepared found.mark = some next := by
            simp [gateMark,hclock,hconflict,hstep]
          refine ⟨hdue next hgate,?_⟩
          intro (written : Option Bool)
          match written with
          | none => exact ended_unfresh h (hwrote next none hgate) (by simp [result])
          | some false => exact ih _ (hlost next hgate)
          | some true =>
            exact ended_concluded h (hwrote next (some true) hgate) hreadable
              (Or.inr ⟨next,append_assoc _ _ _⟩) hclock hconflict (Or.inr ⟨gap,hstep⟩) rfl

variable {H : Host} {input : BootstrapInput} {anchoring : Anchoring} {trail : Trail}

section

variable (h : prepareAnchoring H input = .ok anchoring)
include h

theorem statusOf_establish : statusOf H (.establish input) = some anchoring.verified := by
  simp [statusOf,h,Except.toOption]

theorem replacement_establish (read : Option StatusHighWaterMark) : replacement H (.establish input) read =
      (anchoredMark anchoring.reanchor anchoring.verified anchoring.evaluationTime
        read).toOption := by
  simp [replacement,h,Except.toOption]

theorem ended_anchored
    (hlast : LastAttempt H (.establish input) anchoring.verified.historyKey trail)
    (result : StatusHistoryBootstrapResult) :
    Ended H (.establish input) trail (.anchored result) := by
  constructor
  · intro status hstatus
    rw [statusOf_establish h,Option.some.injEq] at hstatus
    rw [← hstatus]
    exact hlast
  · trivial

theorem anchoringAttempts_follows (n : Nat)
    (hretry : MayRetry H (.establish input) anchoring.verified.historyKey trail) :
    (anchoringAttempts anchoring n).Follows (Due H (.establish input))
      (fun after result => Ended H (.establish input) after (.anchored result)) trail := by
  induction n generalizing trail with
  | zero => exact ended_anchored h hretry.lastAttempt _
  | succ n ih =>
    refine ⟨⟨anchoring.verified,statusOf_establish h,rfl,hretry⟩,?_⟩
    intro (answer : Option (Option StatusHighWaterMarkEntry))
    unfold anchor
    extract_lets attempt
    -- an attempt on what has been read, whether a mark or nothing
    have hattempt : ∀ entry : Option StatusHighWaterMarkEntry,
        Readable anchoring.verified.historyKey entry →
        (attempt (entry.map (·.revision)) (entry.map (·.mark))).Follows (Due H (.establish input))
          (fun after result => Ended H (.establish input) after (.anchored result))
          (trail ++ [readOf anchoring.verified.historyKey entry]) := by
      intro entry hreadable
      dsimp only [attempt]
      cases hmark : anchoredMark anchoring.reanchor anchoring.verified anchoring.evaluationTime
          (entry.map (·.mark)) with
      | error reason =>
        refine ended_anchored h (.refused trail entry fun _ => Or.inl ?_) _
        rw [replacement_establish h,hmark]
        rfl
      | ok next =>
        have hreplacement : replacement H (.establish input) (entry.map (·.mark)) = some next := by
          rw [replacement_establish h,hmark]
          rfl
        refine ⟨⟨anchoring.verified,entry,trail,statusOf_establish h,rfl,rfl,hreadable,rfl,
          hreplacement⟩,?_⟩
        have hwrote : ∀ written, LastAttempt H (.establish input) anchoring.verified.historyKey
            (trail ++ [readOf anchoring.verified.historyKey entry] ++
              [writeOf anchoring.verified.historyKey (entry.map (·.revision)) next written]) := by
          intro written
          rw [append_assoc]
          exact .wrote trail entry next written hreadable hreplacement
        intro (written : Option Bool)
        match written with
        | none => exact ended_anchored h (hwrote none) _
        | some false =>
          exact ih (Or.inr ⟨trail,entry,next,hreadable,hreplacement,append_assoc _ _ _⟩)
        | some true => exact ended_anchored h (hwrote (some true)) _
    rcases readEntry_cases anchoring.verified.historyKey answer with
      ⟨rfl,hread⟩ | ⟨rfl,hread⟩ | ⟨found,rfl,hread,hinvalid⟩ | ⟨found,rfl,hread,hreadable⟩
    · rw [hread]
      exact ended_anchored h (.unanswered trail) _
    · rw [hread]
      exact hattempt none (by simp [Readable])
    · rw [hread]
      exact ended_anchored h (.refused trail (some found) fun hreadable =>
        Or.inr ⟨found,rfl,hinvalid hreadable⟩) _
    · rw [hread]
      exact hattempt (some found) hreadable

end

theorem callProgram_follows (H : Host) (call : Call) :
    (callProgram H call).Follows (Due H call) (Ended H call) [] := by
  cases call with
  | check input =>
    apply Prog.Follows.bind
    unfold checkDocumentUseFreshness
    cases h : prepare H input with
    | error refused =>
      refine ⟨fun status hstatus => ?_,fun hfresh => ?_⟩
      · simp [statusOf,h,Except.toOption] at hstatus
      · exact absurd hfresh (prepare_unfresh h)
    | ok prepared => exact attempts_follows h maxAttempts {} (Or.inl rfl)
  | establish input =>
    apply Prog.Follows.bind
    unfold establishStatusHistory
    cases h : prepareAnchoring H input with
    | error refused =>
      refine ⟨fun status hstatus => ?_,trivial⟩
      simp [statusOf,h,Except.toOption] at hstatus
    | ok anchoring => exact anchoringAttempts_follows h maxAttempts (Or.inl rfl)

end Frontera.StatusHistory
