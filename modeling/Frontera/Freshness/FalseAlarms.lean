import Frontera.Freshness.HonestInvariant

/-! Unless the witness answers a second prepare of the successor it holds prepared, no session of an
honest run fails for good, no opening reports a rollback or a fork, and a transition that throws has
met a conflict and written nothing. Two processes that plan the same successor can both be answered
`prepared`, and then one of them fails for good. -/

namespace Frontera.Freshness

open List Option

/-! ## Comparing -/

variable {binding : AuthorityStateBinding} {genesisDigest : String → String}
  {initial : Option AuthorityStateCheckpoint} {s : FreshnessSystem}

variable {slot : WitnessBindingState} {row : BindingRow} {log : List WitnessRecord}
  {localHead : AuthorityStateCheckpoint} {code : FreshnessErrorCode} {task : Nat}
  {purpose : SettlePurpose} {witnessed : WitnessBindingState}

theorem LogSound.bound_of_prefix {log' : List WitnessRecord} (h : LogSound slot log')
    (hrow : LogSound (some row) log) (hfront : log <+: log') :
    ∃ r, slot = some r ∧ r.storeId = row.storeId := by
  obtain ⟨record,hrecord,-⟩ := hrow.committed row rfl
  obtain ⟨r,hr,hstore,-⟩ := hrow.within record hrecord
  obtain ⟨r',hr',hstore',-⟩ := h.within record (hfront.subset hrecord)
  cases hr
  exact ⟨r',hr',hstore'.symm.trans hstore⟩

/-- Why a head of the store, read after an honest answer, may be refused: a successor is
prepared over it, or it is ahead of the answer. -/
theorem reconcile_honest (hs : SystemSound binding genesisDigest initial s)
    (hheld : some localHead ∈ s.held) (hfront : log <+: s.log) (hsound : LogSound (some row) log)
    (hreached : row.committed.sequence ≤ localHead.sequence)
    (herror : reconcile localHead (some row) = .error code) :
    (code = .pendingRecovery ∧ row.pending.isSome = true) ∨
      (code = .forkDetected ∧ RecordedIn s.log localHead ∧
        raceable .forkDetected localHead (some row) = true) := by
  obtain ⟨slot,hslot,hstore⟩ := hs.slot.bound_of_prefix hsound hfront
  have hrecorded : RecordedIn s.log localHead := by
    refine hs.bound ?_ localHead hheld
    rw [hslot]
    exact some_ne_none slot
  have hsame : row.storeId = localHead.storeId := by
    obtain ⟨slot',hslot',hstore',-⟩ := hs.slot.anchored hrecorded
    rw [hslot,some.injEq] at hslot'
    rw [← hstore,hslot',hstore']
  simp only [reconcile] at herror
  rw [if_neg (not_not.2 hsame)] at herror
  split_ifs at herror with hpending hbehind hbetween hcommitted
  · omega
  · cases herror
    exact .inl ⟨rfl,hbetween.1⟩
  · cases herror
    refine .inr ⟨rfl,hrecorded,?_⟩
    -- a head at a witnessed sequence is the witnessed head
    have hmono : ∀ head : AuthorityStateHead, RecordedIn log ⟨binding,row.storeId,head⟩ →
        head.sequence = localHead.sequence → head = localHead.head :=
      fun head hold heq => hs.slot.head_eq (hold.mono hfront) hrecorded heq
    simp only [raceable,Bool.and_eq_true,decide_eq_true_eq,Bool.not_eq_true', decide_eq_false_iff_not]
    constructor
    · rcases Int.lt_or_eq_of_le hreached with hlt | heq
      · exact hlt
      · have hold := hsound.recorded_committed (a := ⟨binding,row.storeId,row.committed⟩) rfl rfl rfl
        exact absurd (hmono row.committed hold heq) hcommitted
    · intro hnext
      obtain ⟨pending,hpending',heq⟩ := map_eq_some_iff.1 hnext
      have hhead := hmono pending (hsound.recorded_pending rfl rfl hpending') heq
      exact hpending (by rw [hpending',← hhead])

theorem FreshnessSession.observe_keeps (kept : FreshnessSession) (probeReading : Bool)
    (localHead : AuthorityStateCheckpoint) :
    (kept.observe probeReading localHead).2.sticky = kept.sticky ∧
      (kept.observe probeReading localHead).2.unfinalized = kept.unfinalized ∧
      (kept.observe probeReading localHead).2.binding = kept.binding ∧
      (kept.observe probeReading localHead).2.storeId = kept.storeId := by
  have hhead : ∀ kept : FreshnessSession, (kept.observeHead localHead).2.sticky = kept.sticky ∧
      (kept.observeHead localHead).2.unfinalized = kept.unfinalized ∧
      (kept.observeHead localHead).2.binding = kept.binding ∧
      (kept.observeHead localHead).2.storeId = kept.storeId := by
    intro kept
    rw [FreshnessSession.observeHead]
    cases kept.observation localHead with
    | some problem => exact ⟨rfl,rfl,rfl,rfl⟩
    | none => exact ⟨rfl,rfl,rfl,rfl⟩
  rw [FreshnessSession.observe]
  split
  · exact ⟨rfl,rfl,rfl,rfl⟩
  · split_ifs
    · exact hhead kept
    · split
      · exact hhead kept
      · split_ifs
        · exact hhead { kept with unresolved := none }
        · exact ⟨rfl,rfl,rfl,rfl⟩

theorem SessionHonest.observe {kept : FreshnessSession} (h : SessionHonest binding slot kept)
    (probeReading : Bool) (localHead : AuthorityStateCheckpoint) :
    SessionHonest binding slot (kept.observe probeReading localHead).2 := by
  obtain ⟨hsticky,hunfinalized,hbinding,hstore⟩ := kept.observe_keeps probeReading localHead
  exact ⟨hsticky.trans h.sticky,hunfinalized.trans h.unfinalized,hbinding.trans h.binding,
    by rw [hstore]; exact h.store⟩

/-- The head read is the store's, and reading it changes nothing else. -/
structure Read (s s' : FreshnessSystem) (head? : Option AuthorityStateCheckpoint) : Prop where
  slot : s'.slot = s.slot
  log : s'.log = s.log
  held : s'.held = s.held
  content : s'.content = s.content
  tasks : s'.tasks = s.tasks
  head : ∀ localHead, head? = some localHead → s.content = some localHead

theorem Honest.readLocal (h : Honest binding initial s) (purpose : SettlePurpose)
    (around : Surroundings) :
    Honest binding initial (s.readLocal purpose around).2 ∧
      Read s (s.readLocal purpose around).2 (s.readLocal purpose around).1 := by
  have hnone : Read s s none := ⟨rfl,rfl,rfl,rfl,rfl,fun _ heq => by cases heq⟩
  rw [FreshnessSystem.readLocal]
  cases hcontent : s.content with
  | none => exact ⟨h,hnone⟩
  | some localHead =>
    have hsome : ∀ other, some localHead = some other → s.content = some other := by
      intro other heq
      rw [hcontent,heq]
    cases around.unreadable with
    | true => exact ⟨h,hnone⟩
    | false =>
      simp only [Bool.false_eq_true,if_false]
      cases purpose with
      | establish start opened => exact ⟨h,rfl,rfl,rfl,rfl,rfl,hsome⟩
      | probe session first =>
        simp only
        cases hkept : s.sessions[session]? with
        | none => exact ⟨h,hnone⟩
        | some kept =>
          cases around.observes with
          | false => exact ⟨h,rfl,rfl,rfl,rfl,rfl,hsome⟩
          | true =>
            have hkept' := (h.sessions kept (mem_of_getElem? hkept)).observe true localHead
            have hupdated := h.updateSession session
              (f := fun _ => (kept.observe true localHead).2) fun _ _ _ => hkept'
            simp only [if_true]
            cases (kept.observe true localHead).1 with
            | some problem => exact ⟨hupdated,rfl,rfl,rfl,rfl,rfl,fun _ heq => by cases heq⟩
            | none =>
              have hrecorded := hupdated.record (show FreshnessEvent.task? (.observed session localHead) = none from rfl)
                fun _ heq => by cases heq
              exact ⟨hrecorded,rfl,rfl,rfl,rfl,rfl,hsome⟩

theorem Honest.refuse (h : Honest binding initial s) (htask : Aside s task)
    (hcode : code ≠ .rollbackDetected ∧ code ≠ .forkDetected)
    (hprobe : ∀ session first, purpose = .probe session first → code = .pendingRecovery ∧ (witnessed.bind (·.pending)).isSome = true) :
    Honest binding initial (s.refuse task purpose code witnessed) := by
  cases purpose with
  | establish start opened => exact h.establishRefused htask hcode
  | probe session first =>
    obtain ⟨rfl,hpending⟩ := hprobe session first rfl
    obtain ⟨pending,hpending⟩ := isSome_iff_exists.1 hpending
    refine Honest.done (h.updateSession session fun kept _ hkept => ?_) htask
    simp only [hpending]
    exact ⟨hkept.sticky,hkept.unfinalized,hkept.binding,hkept.store⟩

theorem Honest.undecided (h : Honest binding initial s) (htask : Aside s task)
    (purpose : SettlePurpose) {code : Option FreshnessErrorCode}
    (hcode : code = none ∨ code = some .conflict) :
    Honest binding initial (s.undecided task purpose code) := by
  cases purpose with
  | establish start opened =>
    refine h.finish htask rfl fun other heq => ?_
    rcases hcode with rfl | rfl
    · cases heq
    · cases heq
      exact ⟨FreshnessErrorCode.noConfusion,FreshnessErrorCode.noConfusion⟩
  | probe session first => exact h.done htask

theorem SystemSound.store_of_held (hs : SystemSound binding genesisDigest initial s)
    (hbound : s.slot ≠ none) (hheld : some localHead ∈ s.held) :
    ∃ row, s.slot = some row ∧ row.storeId = localHead.storeId := by
  obtain ⟨row,hrow,hstore,-⟩ := hs.slot.anchored (hs.bound hbound localHead hheld)
  exact ⟨row,hrow,hstore⟩

theorem Honest.conclude (h : Honest binding initial s)
    (hs : SystemSound binding genesisDigest initial s) (htask : Aside s task)
    (purpose : SettlePurpose) (verdict : Verdict) (hheld : some localHead ∈ s.held)
    (hbound : s.slot ≠ none) :
    Honest binding initial (s.conclude task purpose verdict localHead) := by
  have hrequest : RequestHonest initial s (.finalize localHead) :=
    ⟨hheld,hs.bound hbound localHead hheld⟩
  cases purpose with
  | establish start opened =>
    simp only [FreshnessSystem.conclude]
    by_cases hother : localHead.binding ≠ opened.binding ∨ localHead.storeId ≠ opened.storeId
    · rw [if_pos hother]
      exact h.establishRefused htask ⟨FreshnessErrorCode.noConfusion,FreshnessErrorCode.noConfusion⟩
    rw [if_neg hother]
    cases verdict with
    | ready =>
      exact h.createSession htask start (h.named localHead hheld)
        (hs.store_of_held hbound hheld)
    | finalize =>
      simp only
      split_ifs
      · exact h.sendAside htask hrequest rfl rfl fun s' _ hcall => ⟨_,hcall,rfl⟩
      · exact h.establishRefused htask
          ⟨FreshnessErrorCode.noConfusion,FreshnessErrorCode.noConfusion⟩
  | probe session first =>
    have hresolved := h.updateSession session (f := fun kept => { kept with unresolved := none })
      fun kept _ hkept => ⟨hkept.sticky,hkept.unfinalized,hkept.binding,hkept.store⟩
    cases verdict with
    | ready =>
      refine Honest.done (hresolved.updateSession session fun kept _ hkept => ?_) htask
      rw [hkept.unfinalized]
      exact hkept
    | finalize =>
      simp only [FreshnessSystem.conclude]
      split_ifs
      · exact hresolved.sendAside htask (hrequest.grow (grows_updateSession s session _)) rfl rfl
          fun _ _ _ => trivial
      · exact hresolved.done htask

/-- What a comparison in an honest run rests on. -/
structure ComparedHonest (s : FreshnessSystem) (witnessed : WitnessBindingState)
    (purpose : SettlePurpose) : Prop where
  snapshot : ∃ log, log <+: s.log ∧ LogSound witnessed log
  reached : ∀ row, witnessed = some row → Reached s row.committed.sequence
  probe : ∀ session first, purpose = .probe session first → witnessed ≠ none ∧ s.slot ≠ none

theorem Honest.settle (h : Honest binding initial s)
    (hs : SystemSound binding genesisDigest initial s) (htask : Aside s task) (round : Nat)
    (hcompared : ComparedHonest s witnessed purpose) (around : Surroundings) :
    Honest binding initial (s.settle binding task purpose round witnessed around) := by
  obtain ⟨hhonest,hread⟩ := h.readLocal purpose around
  obtain ⟨hsound,-⟩ := hs.readLocal purpose around
  rw [FreshnessSystem.settle]
  generalize s.readLocal purpose around = local? at hhonest hread hsound
  obtain ⟨head?,s'⟩ := local?
  have htask' : Aside s' task := by
    obtain ⟨before,hbefore,haside⟩ := htask
    refine ⟨before,?_,haside⟩
    rw [hread.tasks]
    exact hbefore
  cases head? with
  | none => exact hhonest.undecided htask' purpose (.inl rfl)
  | some localHead =>
    have hcontent := hread.head localHead rfl
    have hheld : some localHead ∈ s'.held := by
      rw [hread.held,← hcontent]
      exact hs.content
    obtain ⟨log,hfront,hlog⟩ := hcompared.snapshot
    have hfront' : log <+: s'.log := by
      rw [hread.log]
      exact hfront
    simp only
    cases hreconcile : reconcile localHead witnessed with
    | ok verdict =>
      obtain ⟨row,rfl,-⟩ := reconcile_ok hreconcile
      obtain ⟨slot,hslot,-⟩ := hsound.slot.bound_of_prefix hlog hfront'
      refine hhonest.conclude hsound htask' purpose verdict hheld ?_
      rw [hslot]
      exact some_ne_none slot
    | error code =>
      simp only
      cases witnessed with
      | none =>
        -- only an opening meets an unbound slot
        cases hreconcile
        show Honest binding initial (s'.refuse task purpose .unboundStore none)
        apply Honest.refuse hhonest htask'
        · exact ⟨FreshnessErrorCode.noConfusion,FreshnessErrorCode.noConfusion⟩
        · exact fun session first heq => absurd rfl (hcompared.probe session first heq).1
      | some row =>
        have hreached := hcompared.reached row rfl
        rw [Reached,hcontent] at hreached
        have hrefusal := reconcile_honest hsound hheld hfront' hlog hreached hreconcile
        have hraceable : raceable code localHead (some row) = true := by
          rcases hrefusal with ⟨rfl,-⟩ | ⟨rfl,-,hraceable⟩
          · rfl
          · exact hraceable
        rw [hraceable]
        simp only [Bool.not_true,Bool.false_eq_true,if_false]
        split_ifs
        · exact hhonest.undecided htask' purpose (.inr rfl)
        · have hrequest : RequestHonest initial s' (.read binding) := trivial
          refine Honest.sendAside hhonest htask' hrequest rfl rfl fun s'' hgrows hcall => ?_
          have hhonest' : RefusalHonest s'' (some row) code s'.calls.length := by
            rcases hrefusal with ⟨hcode,hpending⟩ | ⟨hcode,hrecorded,hahead⟩
            · exact .inl ⟨hcode,hpending⟩
            · exact .inr ⟨hcode,⟨localHead,hrecorded.mono hgrows.log,hahead⟩,_,hcall,
                fun _ hanswer => by cases hanswer⟩
          cases purpose with
          | establish start opened => exact hhonest'
          | probe session first =>
            have hbound : s'.slot ≠ none := by
              rw [hread.slot]
              exact (hcompared.probe session first rfl).2
            exact ⟨hhonest',hgrows.bound hbound,_,hcall,fun _ hanswer => by cases hanswer⟩

/-! ## Opening -/

section

variable (h : Honest binding initial s)
include h

theorem Honest.openStore (enrollment : Bool) : Honest binding initial (s.openStore binding enrollment) := by
  have hrecord : ∀ event : FreshnessEvent, event.task? = none →
      (∀ code, event = .establishRefused (some code) → code = .configurationInvalid) →
      Honest binding initial (s.record event) := by
    intro event hevent hcode
    refine h.record hevent fun code heq => ?_
    rw [hcode code heq]
    exact ⟨FreshnessErrorCode.noConfusion,FreshnessErrorCode.noConfusion⟩
  have hspawn : ∀ (named : AuthorityStateBinding) (stage : Nat → FreshnessTask),
      (stage s.calls.length).call? = some s.calls.length → (∀ s', TaskHonest s' (stage s.calls.length)) →
      Honest binding initial (s.spawn (.read named) stage) := by
    intro named stage hcall hstage
    have hrequest : RequestHonest initial s (.read named) := trivial
    have hspawned := h.spawn hrequest stage hcall (fun s' _ _ => hstage s') (.inl rfl)
    rw [append_nil] at hspawned
    exact hspawned
  rw [FreshnessSystem.openStore]
  cases s.content with
  | none =>
    simp only
    split_ifs
    · exact hrecord _ rfl fun code heq => by cases heq
    · exact hspawn binding _ rfl fun _ => trivial
  | some opened =>
    simp only
    split_ifs
    · refine hrecord _ rfl fun code heq => ?_
      cases heq
      rfl
    · exact hspawn opened.binding _ rfl fun _ => trivial

theorem Honest.genesisRead {task : Nat} (htask : Aside s task) (round : Nat)
    (hempty : initial = none) (witnessed : WitnessBindingState) (newStoreId : String) :
    Honest binding initial
      (s.genesisRead binding genesisDigest task round witnessed newStoreId) := by
  cases witnessed with
  | some row =>
    simp only [FreshnessSystem.genesisRead]
    split_ifs
    · exact h.setTask htask rfl rfl trivial
    · exact h.genesisRefused htask _
  | none =>
    simp only [FreshnessSystem.genesisRead]
    split_ifs
    · have hrequest : RequestHonest initial s (.enroll .genesis
          (FreshnessSystem.genesisCheckpoint binding genesisDigest newStoreId)) :=
        fun _ => .inl ⟨hempty,Int.le_refl 0⟩
      exact h.sendAside htask hrequest rfl rfl fun _ _ _ => trivial
    · exact h.genesisRefused htask _

theorem Honest.genesisEnrolled {task : Nat} (htask : Aside s task) (round : Nat)
    (storeId : String) (outcome : WitnessOutcome) (witnessed : WitnessBindingState) :
    Honest binding initial (s.genesisEnrolled binding task round storeId outcome witnessed) := by
  have hrequest : RequestHonest initial s (.read binding) := trivial
  rw [FreshnessSystem.genesisEnrolled]
  split_ifs
  · exact h.setTask htask rfl rfl trivial
  · exact h.genesisRefused htask _
  · exact h.sendAside htask hrequest rfl rfl fun _ _ _ => trivial
  · exact h.genesisRefused htask _

theorem Honest.commitGenesis (task : Nat) :
    Honest binding initial (s.commitGenesis binding genesisDigest task) := by
  rw [FreshnessSystem.commitGenesis]
  split
  · rename_i storeId hstage
    have htask : Aside s task := ⟨_,hstage,FreshnessTask.noConfusion,rfl⟩
    split
    · rename_i hempty
      have hgenesis := h.withGenesis hempty
        (FreshnessSystem.genesisCheckpoint binding genesisDigest storeId) rfl rfl
      exact hgenesis.done htask
    · exact h.done htask
  · exact h

theorem Honest.establishRead (hs : SystemSound binding genesisDigest initial s) {task : Nat}
    (htask : Aside s task) (start : Nat) {opened : AuthorityStateCheckpoint}
    (hheld : some opened ∈ s.held) (enrollment : Bool) {witnessed : WitnessBindingState}
    (hcompared : ComparedHonest s witnessed (.establish start opened)) (around : Surroundings) :
    Honest binding initial
      (s.establishRead binding task start opened enrollment witnessed around) := by
  have hsettle := h.settle hs htask 0 hcompared around
  have hrefused : ∀ code, code = .alreadyEnrolled ∨ code = .configurationInvalid →
      Honest binding initial (s.finish task (.establishRefused (some code))) := by
    intro code hcode
    apply h.establishRefused htask
    rcases hcode with rfl | rfl <;>
      exact ⟨FreshnessErrorCode.noConfusion,FreshnessErrorCode.noConfusion⟩
  cases witnessed with
  | none =>
    simp only [FreshnessSystem.establishRead]
    split_ifs
    · exact hsettle
    · exact hrefused _ (.inl rfl)
    · have hrequest : RequestHonest initial s (.enroll .baseline opened) :=
        fun hnone => .inr (hs.unbound hnone _ hheld).symm
      exact h.sendAside htask hrequest rfl rfl fun _ _ _ => trivial
    · exact hrefused _ (.inr rfl)
  | some row =>
    simp only [FreshnessSystem.establishRead]
    split_ifs
    · exact hsettle
    · exact hrefused _ (.inl rfl)
    · exact hsettle
    · exact hrefused _ (.inl rfl)

end

/-! ## Transitions -/

variable {session : Nat} {expected proposed : AuthorityStateCheckpoint}

theorem WitnessRequest.prepare_wellFormed
    (h : (WitnessRequest.prepare expected proposed).wellFormed = true) :
    expected.binding = proposed.binding ∧ expected.storeId = proposed.storeId ∧
      proposed.sequence = expected.sequence + 1 := by
  simp only [WitnessRequest.wellFormed,Bool.and_eq_true,beq_iff_eq] at h
  exact ⟨h.1.1.2,h.1.2,h.2⟩

section

variable (h : Honest binding initial s)
include h

theorem Honest.commit (hs : SystemSound binding genesisDigest initial s) {again : Bool}
    {call : Nat}
    (hstage : s.tasks[task]? = some (.preparing session expected proposed again call))
    (hticketed : Ticketed s task expected proposed) (kept : FreshnessSession)
    {around : Surroundings} (hraises : around.commitRaises = false) :
    Honest binding initial (s.commit task session kept expected proposed around) := by
  obtain ⟨hcontent,row,hrow,hcommitted,hpending⟩ :=
    h.tickets.ticket task expected proposed hticketed
  obtain ⟨hwell,hheld,-⟩ := h.tasks _ (mem_of_getElem? hstage)
  obtain ⟨hbinding,hstore,hnext⟩ := WitnessRequest.prepare_wellFormed hwell
  have hbound : s.slot ≠ none := by
    rw [hrow]
    exact some_ne_none row
  have hrecorded : RecordedIn s.log proposed := by
    obtain ⟨row',hrow',hstore'⟩ := hs.store_of_held hbound hheld
    rw [hrow,some.injEq] at hrow'
    rw [← hrow'] at hstore'
    exact hs.slot.recorded_pending hrow (hstore.symm.trans hstore'.symm) hpending
  rw [FreshnessSystem.commit,if_pos ⟨hcontent,hraises⟩]
  have hgrows : Grows s ((((s.withContent proposed).updateSession session fun other =>
      other.commit proposed).record (.committed task session proposed)).send task
        (.finalize proposed) (.finalizingProposed session proposed)) :=
    ⟨prefix_refl _,subset_append_left _ _,prefix_append _ _,id,
      (grows_request s (.finalize proposed) []).calls⟩
  have hnew : ∀ checkpoint, some checkpoint ∈ s.held ++ [some proposed] →
      some checkpoint ∈ s.held ∨ checkpoint = proposed := by
    intro checkpoint hmem
    rcases mem_append.1 hmem with hmem | hmem
    · exact .inl hmem
    · exact .inr (some.inj (mem_singleton.1 hmem))
  have hreached : ∀ sequence, Reached s sequence → sequence ≤ proposed.sequence := by
    intro sequence hsequence
    rw [Reached,hcontent] at hsequence
    simp only at hsequence
    omega
  refine ⟨?_,?_,?_,?_,?_,?_,?_,?_,?_,?_⟩
  · intro checkpoint hmem
    refine ⟨proposed,rfl,?_⟩
    rcases hnew checkpoint hmem with hold | rfl
    · obtain ⟨content,hcontent',hle⟩ := h.held checkpoint hold
      rw [hcontent,some.injEq] at hcontent'
      subst hcontent'
      omega
    · exact Int.le_refl _
  · intro checkpoint hmem
    rcases hnew checkpoint hmem with hold | rfl
    · exact h.named checkpoint hold
    · rw [← hbinding]
      exact h.named expected hheld
  · exact fun row' hrow' => hreached _ (h.reached row' hrow')
  · intro other hother
    rcases mem_append.1 hother with hother | hother
    · exact (h.requests other hother).grow hgrows
    · rw [mem_singleton.1 hother]
      exact ⟨mem_append_right _ (mem_singleton.2 rfl),hrecorded⟩
  · intro other hother answer hanswer
    rcases mem_append.1 hother with hother | hother
    · exact (h.answers other hother answer hanswer).grow hgrows hreached
    · rw [mem_singleton.1 hother] at hanswer
      cases hanswer
  · intro other hother
    rcases mem_or_eq_of_mem_set hother with hother | rfl
    · exact (h.tasks other hother).grow hgrows
    · exact ⟨_,List.getElem?_concat_length,rfl⟩
  · intro other hother
    rcases Data.mem_modify hother with hother | ⟨before,hbefore,rfl⟩
    · exact h.sessions other hother
    · obtain ⟨hsticky,hunfinalized,hnamed,hstore'⟩ := h.sessions before hbefore
      rw [FreshnessSession.commit]
      split_ifs
      · exact ⟨hsticky,hunfinalized,hnamed,hstore'⟩
      · exact ⟨hsticky,hunfinalized,hnamed,hstore'⟩
  · intro code hevent
    rcases mem_append.1 hevent with hevent | hevent
    · exact h.refusals code hevent
    · cases mem_singleton.1 hevent
  · -- no other transition holds a prepared answer
    refine h.tickets.request task (fun i other hother => ?_) rfl rfl fun i a b hne hother => ?_
    · rcases getElem?_set_cases hother with hold | ⟨hi,rfl⟩
      · exact .inl hold
      · exact .inr ⟨hi,rfl⟩
    · exact absurd (h.tickets.single i task a b expected proposed hother hticketed) hne
  · refine h.accounts.move [.committed task session proposed] hstage
      FreshnessTask.noConfusion rfl rfl ?_ ?_ ?_ ?_ ?_
    · intro event hevent owner hof
      rw [mem_singleton.1 hevent] at hof
      exact (some.inj hof).symm
    · exact fun _ hevent => by cases mem_singleton.1 hevent
    · exact fun _ _ hevent => by cases mem_singleton.1 hevent
    · exact fun _ => rfl
    · exact fun _ => .inl rfl

theorem Honest.sendOnward {stage : FreshnessTask} (hstage : s.tasks[task]? = some stage)
    (huncommitted : stage.uncommitted = true) {request : WitnessRequest}
    (hrequest : RequestHonest initial s request) {stage' : Nat → FreshnessTask}
    (hcall : (stage' s.calls.length).call? = some s.calls.length)
    (hin : (stage' s.calls.length).inTransition = true)
    (hstage' : ∀ s', Grows s s' → s'.calls[s.calls.length]? = some ⟨request,[]⟩ → TaskHonest s' (stage' s.calls.length)) :
    Honest binding initial (s.send task request stage') :=
  h.send hrequest hcall hstage' (h.accounts.onward hstage huncommitted hin rfl rfl)

theorem Honest.prepared (hs : SystemSound binding genesisDigest initial s) {again : Bool}
    {call : Nat}
    (hstage : s.tasks[task]? = some (.preparing session expected proposed again call))
    (kept : FreshnessSession) (hbound : s.slot ≠ none) {outcome : WitnessOutcome}
    (witnessed : WitnessBindingState)
    (hticketed : outcome = .prepared → Ticketed s task expected proposed) {around : Surroundings}
    (hraises : around.commitRaises = false) :
    Honest binding initial
      (s.prepared task session kept expected proposed again outcome witnessed around) := by
  have hthrows := h.throws hstage rfl session
  rw [FreshnessSystem.prepared.eq_def]
  by_cases hprepared : outcome = .prepared
  · rw [if_pos hprepared]
    exact h.commit hs hstage (hticketed hprepared) kept hraises
  rw [if_neg hprepared]
  by_cases hagain : again = true
  · rw [if_pos hagain]
    exact hthrows
  rw [if_neg hagain]
  cases witnessed with
  | none => exact hthrows
  | some row =>
    simp only
    split_ifs
    · obtain ⟨hwell,hheld,-⟩ := h.tasks _ (mem_of_getElem? hstage)
      have hrequest : RequestHonest initial s (.finalize expected) :=
        ⟨hheld,hs.bound hbound expected hheld⟩
      exact h.sendOnward hstage rfl hrequest rfl rfl fun s' hgrows _ => ⟨hwell,hgrows.held hheld⟩
    · exact hthrows

theorem Honest.transition (hs : SystemSound binding genesisDigest initial s) (session : Nat)
    (hheld : some expected ∈ s.held)
    (hwell : (WitnessRequest.prepare expected proposed).wellFormed = true) :
    Honest binding initial (s.transition session expected proposed) := by
  obtain ⟨hbinding,hstore,hnext⟩ := WitnessRequest.prepare_wellFormed hwell
  simp only [FreshnessSystem.transition]
  cases hkept : s.sessions[session]? with
  | none => exact h
  | some kept =>
    obtain ⟨hsticky,hunfinalized,hnamed,row,hrow,hstore'⟩ :=
      h.sessions kept (mem_of_getElem? hkept)
    have hbound : s.slot ≠ none := by
      rw [hrow]
      exact some_ne_none row
    obtain ⟨row',hrow',hstore''⟩ := hs.store_of_held hbound hheld
    rw [hrow,some.injEq] at hrow'
    have hsame : expected.storeId = kept.storeId := by
      rw [← hstore'',← hrow',hstore']
    have hexpected : expected.binding = kept.binding := by
      rw [h.named expected hheld,hnamed]
    have hinvalid : ¬ (expected.binding ≠ kept.binding ∨ expected.storeId ≠ kept.storeId ∨
        proposed.binding ≠ kept.binding ∨ proposed.storeId ≠ kept.storeId ∨
        proposed.sequence ≠ expected.sequence + 1) := by
      rw [← hbinding,← hstore]
      simp [hexpected,hsame,hnext]
    simp only [hsticky,hunfinalized]
    rw [if_neg hinvalid,FreshnessSystem.sendPrepare,if_pos hwell]
    have hrequest : RequestHonest initial s (.prepare expected proposed) := hheld
    have hspawned := h.spawn hrequest (.preparing session expected proposed false)
      rfl (fun s' hgrows hcall => ⟨hwell,hgrows.held hheld,_,hcall,rfl⟩)
      (.inr ⟨rfl,session,rfl⟩)
    have hset : ∀ stage : FreshnessTask,
        (s.tasks ++ [FreshnessTask.done]).set s.tasks.length stage = s.tasks ++ [stage] := by
      intro stage
      rw [set_append_right _ _ (Nat.le_refl _),Nat.sub_self]
      rfl
    simp only [FreshnessSystem.send,FreshnessSystem.record,hset]
    exact hspawned

end

/-! ## Runs -/

variable {stage : FreshnessTask} {call : Nat} {inFlight : WitnessCall} {around : Surroundings}

theorem reply_ok {index : Nat}
    {reply : Except FreshnessErrorCode (WitnessOutcome × WitnessBindingState)}
    (h : s.reply? call (.ok index) = some reply) :
    ∃ inFlight answer, s.calls[call]? = some inFlight ∧ answer ∈ inFlight.answers ∧ reply = .ok answer := by
  simp only [FreshnessSystem.reply?,map_eq_some_iff,bind_eq_some_iff] at h
  obtain ⟨answer,⟨inFlight,hcall,hanswer⟩,rfl⟩ := h
  exact ⟨inFlight,answer,hcall,mem_of_getElem? hanswer,rfl⟩

section

variable (h : Honest binding initial s) (hcall : s.calls[call]? = some inFlight)
include h hcall

theorem Honest.compared {answer : WitnessOutcome × WitnessBindingState}
    (hanswer : answer ∈ inFlight.answers) (start : Nat) (opened : AuthorityStateCheckpoint) :
    ComparedHonest s answer.2 (.establish start opened) :=
  ⟨(h.answers inFlight (mem_of_getElem? hcall) answer hanswer).snapshot,
    (h.answers inFlight (mem_of_getElem? hcall) answer hanswer).reached, fun _ _ heq => by cases heq⟩

theorem Honest.compared_probe {answer : WitnessOutcome × WitnessBindingState}
    (hanswer : answer ∈ inFlight.answers) (hbound : s.slot ≠ none ∧ AnswersAre s call (· ≠ none))
    (session : Nat) (first : WitnessBindingState) :
    ComparedHonest s answer.2 (.probe session first) := by
  obtain ⟨hslot,inFlight',hcall',hbound⟩ := hbound
  rw [hcall,some.injEq] at hcall'
  subst hcall'
  exact ⟨(h.answers inFlight (mem_of_getElem? hcall) answer hanswer).snapshot,
    (h.answers inFlight (mem_of_getElem? hcall) answer hanswer).reached,
    fun _ _ _ => ⟨hbound answer hanswer,hslot⟩⟩

theorem Honest.finalized {answer : WitnessOutcome × WitnessBindingState}
    (hanswer : answer ∈ inFlight.answers) {checkpoint : AuthorityStateCheckpoint}
    (hasks : Asks s call (.finalize checkpoint)) :
    answer.1 = .finalized ∨ finalizedPast answer.2 checkpoint = true := by
  obtain ⟨inFlight',hcall',hrequest⟩ := hasks
  rw [hcall,some.injEq] at hcall'
  subst hcall'
  exact (h.answers inFlight (mem_of_getElem? hcall) answer hanswer).finalized checkpoint
    hrequest

end

theorem RefusalHonest.stands {witnessed : WitnessBindingState} {code : FreshnessErrorCode}
    (h : RefusalHonest s witnessed code call) (hcall : s.calls[call]? = some inFlight)
    {answer : WitnessOutcome × WitnessBindingState} (hanswer : answer ∈ inFlight.answers)
    (hsame : answer.2 = witnessed) :
    code = .pendingRecovery ∧ (witnessed.bind (·.pending)).isSome = true := by
  rcases h with hpending | ⟨-,-,inFlight',hcall',hmoved⟩
  · exact hpending
  · rw [hcall,some.injEq] at hcall'
    subst hcall'
    exact absurd hsame (hmoved answer hanswer)

section

variable (h : Honest binding initial s) (hs : SystemSound binding genesisDigest initial s)
  (hstage : s.tasks[task]? = some stage)
include h hs hstage

theorem Honest.answerOpening (hopening : stage.session? = none)
    (hawaits : stage.call? = some call) (hcall : s.calls[call]? = some inFlight)
    {answer : WitnessOutcome × WitnessBindingState} (hanswer : answer ∈ inFlight.answers)
    (around : Surroundings) :
    Honest binding initial
      (s.answerOpening task stage (.ok answer) around binding genesisDigest) := by
  have hhonest := h.tasks stage (mem_of_getElem? hstage)
  have hsound := hs.tasks stage (mem_of_getElem? hstage)
  have htask : Aside s task := by
    refine ⟨stage,hstage,?_,?_⟩
    · rintro rfl
      cases hawaits
    · cases stage <;> first | rfl | cases hopening
  cases stage with
  | genesisReading round _ => exact h.genesisRead htask round hsound.1 _ _
  | genesisEnrolling round storeId _ => exact h.genesisEnrolled htask round storeId _ _
  | establishing start opened enrollment _ =>
    cases hawaits
    exact h.establishRead hs htask start hsound.1 enrollment
      (h.compared hcall hanswer start opened) around
  | enrolling start opened _ =>
    cases hawaits
    simp only [FreshnessSystem.answerOpening]
    split_ifs
    · exact h.settle hs htask 0 (h.compared hcall hanswer start opened) around
    · exact h.establishRefused htask
        ⟨FreshnessErrorCode.noConfusion,FreshnessErrorCode.noConfusion⟩
  | settling purpose round witnessed code _ =>
    cases hawaits
    cases purpose with
    | probe session first => cases hopening
    | establish start opened =>
      simp only [FreshnessSystem.answerOpening]
      split_ifs with hsame
      · obtain ⟨rfl,hpending⟩ := RefusalHonest.stands hhonest hcall hanswer hsame
        exact h.refuse htask ⟨FreshnessErrorCode.noConfusion,FreshnessErrorCode.noConfusion⟩
          fun _ _ _ => ⟨rfl,hpending⟩
      · exact h.settle hs htask (round + 1) (h.compared hcall hanswer start opened) around
  | finalizing start current _ =>
    cases hawaits
    have hconfirmed := h.finalized hcall hanswer hhonest
    simp only [FreshnessSystem.answerOpening]
    rw [if_pos hconfirmed]
    obtain ⟨asked,hasked,hrequest⟩ := hhonest
    have hfinalize := h.requests asked (mem_of_getElem? hasked)
    rw [hrequest] at hfinalize
    exact h.createSession htask start (h.named current hfinalize.1)
      (hs.store_of_held (hs.slot.bound hfinalize.2) hfinalize.1)
  | genesisCommitting storeId => cases hawaits
  | done => cases hawaits
  | _ => cases hopening

theorem Honest.answerSession {session : Nat} (hsession : stage.session? = some session)
    {kept : FreshnessSession} (hkept : s.sessions[session]? = some kept)
    (hawaits : stage.call? = some call) (hcall : s.calls[call]? = some inFlight)
    {answer : WitnessOutcome × WitnessBindingState} (hanswer : answer ∈ inFlight.answers)
    (hraises : around.commitRaises = false) :
    Honest binding initial (s.answerSession task session kept stage (.ok answer) around binding) := by
  have hnoted := h.updateSession session (f := FreshnessSession.callAnswered)
    fun kept _ hkept => ⟨hkept.sticky,hkept.unfinalized,hkept.binding,hkept.store⟩
  have hsnoted := hs.updateSession_floor session (f := FreshnessSession.callAnswered) fun _ => rfl
  have hhonest := hnoted.tasks stage (mem_of_getElem? hstage)
  have hbound : s.slot ≠ none := by
    obtain ⟨row,hrow,-⟩ := (h.sessions kept (mem_of_getElem? hkept)).store
    rw [hrow]
    exact some_ne_none row
  cases stage with
  | finalizingOutstanding _ expected proposed outstanding _ => exact hhonest.elim
  | preparing _ expected proposed again _ =>
    cases hawaits
    cases hsession
    refine hnoted.prepared hsnoted hstage kept hbound answer.2 (fun hprepared => ?_) hraises
    refine ⟨_,again,_,hstage,inFlight,hcall,answer.2,?_⟩
    rw [← hprepared]
    exact hanswer
  | finalizingExpected _ expected proposed _ =>
    simp only [FreshnessSystem.answerSession]
    split_ifs
    · have hrequest : RequestHonest initial (s.updateSession session FreshnessSession.callAnswered)
        (.prepare expected proposed) := hhonest.2
      rw [FreshnessSystem.sendPrepare,if_pos hhonest.1]
      exact hnoted.sendOnward hstage rfl hrequest rfl rfl
        fun s' hgrows hsent => ⟨hhonest.1,hgrows.held hhonest.2,_,hsent,rfl⟩
    · exact hnoted.throws hstage rfl session
  | finalizingProposed _ proposed _ =>
    cases hawaits
    have hconfirmed := hnoted.finalized hcall hanswer hhonest
    simp only [FreshnessSystem.answerSession,FreshnessSystem.finalizedProposed]
    rw [if_pos hconfirmed]
    exact hnoted.returned hstage session
  | probing other _ =>
    cases hawaits
    exact hnoted.settle hsnoted ⟨_,hstage,FreshnessTask.noConfusion,rfl⟩ 0
      (hnoted.compared_probe hcall hanswer hhonest session answer.2) around
  | probeFinalizing _ localHead _ =>
    refine Honest.done (hnoted.updateSession session fun other _ hother => ?_)
      ⟨_,hstage,FreshnessTask.noConfusion,rfl⟩
    split_ifs
    · exact ⟨hother.sticky,rfl,hother.binding,hother.store⟩
    · exact hother
  | settling purpose round witnessed code _ =>
    cases hawaits
    cases purpose with
    | establish start opened => cases hsession
    | probe other first =>
      obtain ⟨hrefusal,hslot⟩ := hhonest
      simp only [FreshnessSystem.answerSession]
      split_ifs with hsame
      · obtain ⟨rfl,hpending⟩ := hrefusal.stands hcall hanswer hsame
        exact hnoted.refuse ⟨_,hstage,FreshnessTask.noConfusion,rfl⟩
          ⟨FreshnessErrorCode.noConfusion,FreshnessErrorCode.noConfusion⟩
          fun _ _ _ => ⟨rfl,hpending⟩
      · exact hnoted.settle hsnoted ⟨_,hstage,FreshnessTask.noConfusion,rfl⟩ (round + 1)
          (hnoted.compared_probe hcall hanswer hslot other first) around
  | _ => cases hsession

end

theorem Honest.answer (h : Honest binding initial s)
    (hs : SystemSound binding genesisDigest initial s) (task index : Nat)
    (hraises : around.commitRaises = false) :
    Honest binding initial (s.answer binding genesisDigest task (.ok index) around) := by
  rw [FreshnessSystem.answer]
  cases hstage : s.tasks[task]? with
  | none => exact h
  | some stage =>
    simp only
    cases hreply : stage.call?.bind fun call => s.reply? call (.ok index) with
    | none => exact h
    | some reply =>
      obtain ⟨call,hawaits,hreply⟩ := bind_eq_some_iff.1 hreply
      obtain ⟨inFlight,answer,hcall,hanswer,rfl⟩ := reply_ok hreply
      simp only
      cases hsession : stage.session? with
      | none => exact h.answerOpening hs hstage hsession hawaits hcall hanswer around
      | some session =>
        simp only
        cases hkept : s.sessions[session]? with
        | none => exact h
        | some kept =>
          exact h.answerSession hs hstage hsession hkept hawaits hcall hanswer hraises

theorem Honest.step (h : Honest binding initial s)
    (hs : SystemSound binding genesisDigest initial s) {step : FreshnessStep}
    (honest : HonestStep s step) (hfresh : ¬ RepeatsPrepared s step) :
    Honest binding initial (s.step binding genesisDigest step) := by
  cases step with
  | deliver call elsewhere => exact h.deliver hs honest hfresh
  | restore index => exact honest.elim
  | openStore enrollment => exact h.openStore enrollment
  | answer task reply around =>
    cases reply with
    | error code => cases honest.1
    | ok index => exact h.answer hs task index honest.2
  | commitGenesis task => exact h.commitGenesis task
  | transition session expected proposed => exact h.transition hs session honest.1 honest.2
  | probe session =>
    simp only [FreshnessSystem.step]
    cases hkept : s.sessions[session]? with
    | none => exact h
    | some kept =>
      obtain ⟨row,hrow,-⟩ := (h.sessions kept (mem_of_getElem? hkept)).store
      have hbound : s.slot ≠ none := by
        rw [hrow]
        exact some_ne_none row
      have hrequest : RequestHonest initial s (.read binding) := trivial
      have hspawned := h.spawn hrequest (.probing session) rfl
        (fun s' hgrows hcall => ⟨hgrows.bound hbound,_,hcall,fun _ hanswer => by cases hanswer⟩)
        (.inl rfl)
      rw [append_nil] at hspawned
      simp only
      split_ifs
      · exact h
      · exact hspawned
  | observe session =>
    simp only [FreshnessSystem.step]
    cases hkept : s.sessions[session]? with
    | none => exact h
    | some kept =>
      cases s.content with
      | none => exact h
      | some localHead =>
        have hhonest := (h.sessions kept (mem_of_getElem? hkept)).observe false localHead
        have hupdated := h.updateSession session
          (f := fun _ => (kept.observe false localHead).2) fun _ _ _ => hhonest
        simp only
        split_ifs
        · exact hupdated
        · exact hupdated.record rfl fun _ heq => by cases heq

theorem tickets_start (store : Option (String × AuthorityStateHead)) :
    Tickets (FreshnessSystem.start binding store) := by
  have hnone : ∀ i a b, ¬ Ticketed (FreshnessSystem.start binding store) i a b := by
    rintro i a b ⟨_,_,_,hstage,-⟩
    cases hstage
  refine ⟨?_,?_,fun i a b hi => absurd hi (hnone i a b), fun i j a b c d hi => absurd hi (hnone i a b)⟩
  · intro stage hstage
    cases hstage
  · intro i j a b call ha
    cases ha

theorem honest_start (store : Option (String × AuthorityStateHead)) :
    Honest binding (contentOf binding store) (FreshnessSystem.start binding store) where
  held checkpoint h := ⟨checkpoint,(mem_singleton.1 h).symm,Int.le_refl _⟩
  named checkpoint h := by
    obtain ⟨named,-,rfl⟩ := map_eq_some_iff.1 (mem_singleton.1 h).symm
    rfl
  reached row h := by cases h
  requests call h := by cases h
  answers call h := by cases h
  tasks stage h := by cases h
  sessions kept h := by cases h
  refusals code h := by cases h
  tickets := tickets_start store
  accounts := by
    refine ⟨?_,?_,?_⟩
    · intro task session code h
      cases h
    · intro task session head h
      cases h
    · intro task session h
      cases h

theorem Honest.run (steps : List FreshnessStep) (h : Honest binding initial s)
    (hs : SystemSound binding genesisDigest initial s)
    (honest : Along binding genesisDigest HonestStep s steps)
    (hfresh : Along binding genesisDigest (fun s step => ¬ RepeatsPrepared s step) s steps) :
    Honest binding initial (steps.foldl (FreshnessSystem.step binding genesisDigest) s) := by
  induction steps generalizing s with
  | nil => exact h
  | cons step steps ih =>
    exact ih (h.step hs honest.1 hfresh.1) (hs.step step) honest.2 hfresh.2

/-- What an honest run is to show: no session has failed for good, no opening reported a
rollback or a fork, a transition that threw met a conflict and wrote nothing, and one that
began awaits an answer, has returned, or threw. -/
structure NoFalseAlarm (s : FreshnessSystem) : Prop where
  sticky : ∀ kept ∈ s.sessions, kept.sticky = none
  refusals : ∀ code, .establishRefused (some code) ∈ s.events →
    code ≠ .rollbackDetected ∧ code ≠ .forkDetected
  threw : ∀ task session code, .threw task session code ∈ s.events →
    code = .conflict ∧ ∀ other head, .committed task other head ∉ s.events
  ended : ∀ task session, .began task session ∈ s.events →
    (∃ stage : FreshnessTask, s.tasks[task]? = some stage ∧ stage.inTransition = true) ∨
      Returned s task ∨ Threw s task

/-- In every honest run, any number of processes and any interleaving: without a prepare of
the successor that the witness already holds prepared, there is no false alarm. -/
theorem no_false_alarm_without_repeat (binding : AuthorityStateBinding)
    (genesisDigest : String → String) (store : Option (String × AuthorityStateHead))
    (steps : List FreshnessStep)
    (honest : Along binding genesisDigest HonestStep (.start binding store) steps)
    (hfresh : Along binding genesisDigest (fun s step => ¬ RepeatsPrepared s step)
      (.start binding store) steps) :
    NoFalseAlarm (FreshnessSystem.run binding genesisDigest store steps) := by
  have h := Honest.run steps (honest_start store)
    (systemSound_start store) honest hfresh
  exact ⟨fun kept hkept => (h.sessions kept hkept).sticky,h.refusals,
    fun task session code hthrew => ⟨(h.accounts.threw task session code hthrew).1,
      (h.accounts.threw task session code hthrew).2.2⟩,h.accounts.began⟩

def sampleSurroundings : Surroundings := ⟨"human-identity-store:2",false,false,true,false⟩

def sampleStore : Option (String × AuthorityStateHead) :=
  some ((sampleCheckpoint 0).storeId, (sampleCheckpoint 0).head)

def sampleGenesisDigest (_ : String) : String := (sampleCheckpoint 0).head.stateDigest

/-- The store is enrolled, two sessions open over it, and a transition of each plans the
same successor. -/
def sampleRace : List FreshnessStep :=
  [.openStore true, .deliver 0 false, .answer 0 (.ok 0) sampleSurroundings,
    .deliver 1 false, .answer 0 (.ok 0) sampleSurroundings,
    .openStore false, .deliver 2 false, .answer 1 (.ok 0) sampleSurroundings,
    .transition 0 (sampleCheckpoint 0) (sampleCheckpoint 1),
    .transition 1 (sampleCheckpoint 0) (sampleCheckpoint 1), .deliver 3 false]

/-- The second prepare is handled once the first transition has been finalized. -/
def sampleSerial : List FreshnessStep :=
  sampleRace ++ [FreshnessStep.answer 2 (.ok 0) sampleSurroundings, .deliver 5 false, .deliver 4 false,
    .answer 3 (.ok 0) sampleSurroundings, .answer 2 (.ok 0) sampleSurroundings]

theorem no_false_alarm_without_repeat_serial :
    (FreshnessSystem.run (sampleCheckpoint 0).binding sampleGenesisDigest sampleStore
        sampleSerial).events.drop 2 =
      [.began 2 0, .began 3 1, .committed 2 0 (sampleCheckpoint 1), .threw 3 1 .conflict,
        .returned 2 0 (sampleCheckpoint 1)] ∧
    NoFalseAlarm (FreshnessSystem.run (sampleCheckpoint 0).binding sampleGenesisDigest sampleStore
      sampleSerial) := by
  have hrun : (FreshnessSystem.run (sampleCheckpoint 0).binding sampleGenesisDigest sampleStore
        sampleSerial).events.drop 2 =
      [.began 2 0, .began 3 1, .committed 2 0 (sampleCheckpoint 1), .threw 3 1 .conflict,
        .returned 2 0 (sampleCheckpoint 1)] ∧
      Along (sampleCheckpoint 0).binding sampleGenesisDigest HonestStep
        (.start (sampleCheckpoint 0).binding sampleStore) sampleSerial ∧
      Along (sampleCheckpoint 0).binding sampleGenesisDigest (fun s step => ¬ RepeatsPrepared s step)
        (.start (sampleCheckpoint 0).binding sampleStore) sampleSerial := by
    decide +kernel
  exact ⟨hrun.1,no_false_alarm_without_repeat _ _ _ _ hrun.2.1 hrun.2.2⟩

/-- Both prepares are answered before either transition commits. -/
def sampleTied : List FreshnessStep :=
  sampleRace ++ [FreshnessStep.deliver 4 false, .answer 2 (.ok 0) sampleSurroundings,
    .answer 3 (.ok 0) sampleSurroundings]

/-- Two honest processes that plan the same successor: both are answered `prepared`, one
commits, and the other fails for good. -/
theorem same_successor_false_alarm : ¬ ∀ binding genesisDigest store steps,
      Along binding genesisDigest HonestStep (.start binding store) steps →
        NoFalseAlarm (FreshnessSystem.run binding genesisDigest store steps) := by
  have hrun : Along (sampleCheckpoint 0).binding sampleGenesisDigest HonestStep
        (.start (sampleCheckpoint 0).binding sampleStore) sampleTied ∧
      (FreshnessSystem.run (sampleCheckpoint 0).binding sampleGenesisDigest sampleStore
        sampleTied).sessions.map (·.sticky) = [none, some .pendingRecovery] := by
    decide +kernel
  intro h
  have hsticky := (h _ _ _ _ hrun.1).sticky
  have hfailed : some FreshnessErrorCode.pendingRecovery ∈
      (FreshnessSystem.run (sampleCheckpoint 0).binding sampleGenesisDigest sampleStore
        sampleTied).sessions.map (·.sticky) := by
    rw [hrun.2]
    exact mem_cons_of_mem _ (List.mem_singleton.2 rfl)
  obtain ⟨kept,hkept,hcode⟩ := List.mem_map.1 hfailed
  rw [hsticky kept hkept] at hcode
  cases hcode

end Frontera.Freshness
