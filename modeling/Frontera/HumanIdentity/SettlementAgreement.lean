import Mathlib.Data.Option.Basic
import Frontera.HumanIdentity.Settlement

/-! What a run of settlements leaves in the history: the two halves of a bootstrap name each other,
as long as no decision is settled against a third one that already names it. -/

namespace Frontera.HumanIdentity

open Frontera.Data Frontera.Text List Option OrderedMap SettlementSystem

variable {value : OrderedMap String SettlementField} {evidence : DecisionEvidence}

variable {bindingDigest : String} {ours : BootstrapCommitted} {code : NotCommittedCode}
  {raw : SettlementValue} {settlement : BootstrapAuthoritySettlement}

theorem readBinding_eq_some : readBinding value evidence = some bindingDigest ↔
      SettlementField.text? (value.get "bindingDigest") = some bindingDigest ∧
        isHex64 bindingDigest ∧ evidence.subjectDigest = subjectOf bindingDigest := by
  simp only [readBinding,bind_eq_bind,bind_eq_some_iff,guard_eq_some',some.injEq]
  constructor
  · rintro ⟨b,hb,-,hok,rfl⟩
    exact ⟨hb,hok⟩
  · rintro ⟨hb,hok⟩
    exact ⟨bindingDigest,hb,(),hok,rfl⟩

/-- The fields of the value are those of the settlement. -/
structure Holds (value : OrderedMap String SettlementField) (ours : BootstrapCommitted) : Prop where
  bindingDigest : SettlementField.text? (value.get "bindingDigest") = some ours.bindingDigest
  counterpart : SettlementField.text? (value.get "counterpartCommitment") = some ours.counterpartCommitment
  requestId : SettlementField.text? (value.get "bootstrapRequestId") = some ours.bootstrapRequestId
  evidenceDigest : SettlementField.text? (value.get "bootstrapEvidenceDigest") =
    some ours.bootstrapEvidenceDigest
  revision : SettlementField.number? (value.get "historyRevision") = some ours.historyRevision
  sequence : SettlementField.number? (value.get "statusSequence") = some ours.statusSequence
  statusDigest : SettlementField.text? (value.get "statusDigest") = some ours.statusDigest

theorem Holds.eq {theirs : BootstrapCommitted} (h : Holds value ours) (h' : Holds value theirs) :
    ours = theirs := by
  obtain ⟨a,b,c,d,e,f,g⟩ := ours
  obtain ⟨a',b',c',d',e',f',g'⟩ := theirs
  cases h.bindingDigest.symm.trans h'.bindingDigest
  cases h.counterpart.symm.trans h'.counterpart
  cases h.requestId.symm.trans h'.requestId
  cases h.evidenceDigest.symm.trans h'.evidenceDigest
  cases h.revision.symm.trans h'.revision
  cases h.sequence.symm.trans h'.sequence
  cases h.statusDigest.symm.trans h'.statusDigest
  rfl

/-- The checks on the fields of a committed settlement. -/
def BootstrapCommitted.Admissible (ours : BootstrapCommitted) (evidence : DecisionEvidence) : Prop :=
  (isHex64 ours.bindingDigest ∧ evidence.subjectDigest = subjectOf ours.bindingDigest) ∧
    (isSha256 ours.counterpartCommitment ∧ ours.counterpartCommitment ≠ evidence.challengeCommitment) ∧
    isBootstrapRequestId ours.bootstrapRequestId ∧ isSha256 ours.bootstrapEvidenceDigest ∧
    (isSafeInteger ours.historyRevision ∧ 1 ≤ ours.historyRevision) ∧
    (isSafeInteger ours.statusSequence ∧ 0 ≤ ours.statusSequence) ∧ isHex64 ours.statusDigest

theorem readCommitted_eq_some :
    readCommitted value evidence = some ours ↔ Holds value ours ∧ ours.Admissible evidence := by
  simp only [readCommitted,bind_eq_bind,bind_eq_some_iff,guard_eq_some',
    readBinding_eq_some,some.injEq]
  constructor
  · rintro ⟨b,⟨hb,hbinding⟩,c,hc,r,hr,d,hd,n,hn,q,hq,t,ht,-,h₁,-,h₂,-,h₃,-,h₄, -,h₅,-,h₆,rfl⟩
    exact ⟨⟨hb,hc,hr,hd,hn,hq,ht⟩,hbinding,h₁,h₂,h₃,h₄,h₅,h₆⟩
  · rintro ⟨h,hbinding,h₁,h₂,h₃,h₄,h₅,h₆⟩
    exact ⟨_,⟨h.bindingDigest,hbinding⟩,_,h.counterpart,_,h.requestId,_,h.evidenceDigest,
      _,h.revision,_,h.sequence,_,h.statusDigest,(),h₁,(),h₂,(),h₃,(),h₄,(),h₅,(), h₆,rfl⟩

theorem readCode_eq_some {field : Option SettlementField} :
    readCode field = some code ↔ SettlementField.text? field = some code.text := by
  simp only [readCode,bind_eq_bind,bind_eq_some_iff]
  constructor
  · rintro ⟨text,htext,hfind⟩
    rw [htext,show code.text = text by simpa using List.find?_some hfind]
  · intro h
    refine ⟨_,h,?_⟩
    cases code <;> simp [List.find?,NotCommittedCode.text]

theorem settlementOf_committed : settlementOf (some value) evidence = some (.committed ours) ↔
      SettlementField.text? (value.get "outcome") = some "bootstrap-committed" ∧
        sortStrings value.keys = committedKeys ∧ Holds value ours ∧ ours.Admissible evidence := by
  rw [← readCommitted_eq_some]
  simp only [settlementOf,bind_eq_bind,bind_some,bind_eq_some_iff]
  constructor
  · rintro ⟨outcome,houtcome,h⟩
    split_ifs at h with hcommitted hnot
    · obtain ⟨-,hkeys,read,hread,heq⟩ := by
        simpa only [bind_eq_some_iff,guard_eq_some'] using h
      cases heq
      exact ⟨hcommitted ▸ houtcome,hkeys,hread⟩
    · simp [bind_eq_some_iff] at h
  · rintro ⟨houtcome,hkeys,hread⟩
    exact ⟨_,houtcome,by simp [hkeys,hread]⟩

theorem settlementOf_notCommitted :
    settlementOf (some value) evidence = some (.notCommitted bindingDigest code) ↔
      SettlementField.text? (value.get "outcome") = some "bootstrap-not-committed" ∧
        sortStrings value.keys = notCommittedKeys ∧ readBinding value evidence = some bindingDigest ∧
        readCode (value.get "code") = some code := by
  simp only [settlementOf,bind_eq_bind,bind_some,bind_eq_some_iff]
  constructor
  · rintro ⟨outcome,houtcome,h⟩
    split_ifs at h with hcommitted hnot
    · simp [bind_eq_some_iff] at h
    · obtain ⟨-,hkeys,read,hread,c,hcode,heq⟩ := by
        simpa only [bind_eq_some_iff,guard_eq_some'] using h
      cases heq
      exact ⟨hnot ▸ houtcome,hkeys,hread,hcode⟩
  · rintro ⟨houtcome,hkeys,hread,hcode⟩
    exact ⟨_,houtcome,by simp [hkeys,hread,hcode]⟩

theorem holds_value (ours : BootstrapCommitted) :
    Holds (BootstrapAuthoritySettlement.committed ours).value ours := by
  constructor <;> rfl

theorem sort_committedKeys : sortStrings committedKeys = committedKeys := by decide

theorem sort_notCommittedKeys : sortStrings notCommittedKeys = notCommittedKeys := by decide

theorem settlementOf_value (h : settlementOf raw evidence = some settlement) :
    settlementOf (some settlement.value) evidence = some settlement := by
  cases raw with
  | none => simp [settlementOf] at h
  | some value =>
    cases settlement with
    | committed ours =>
      obtain ⟨-,-,-,hadmissible⟩ := settlementOf_committed.1 h
      exact settlementOf_committed.2
        ⟨rfl,sort_committedKeys,holds_value ours,hadmissible⟩
    | notCommitted bindingDigest code =>
      obtain ⟨-,-,hbinding,-⟩ := settlementOf_notCommitted.1 h
      exact settlementOf_notCommitted.2 ⟨rfl,sort_notCommittedKeys,
        readBinding_eq_some.2 ⟨rfl,(readBinding_eq_some.1 hbinding).2⟩,readCode_eq_some.2 rfl⟩

theorem settlementOf_value_eq {read : BootstrapAuthoritySettlement}
    (h : settlementOf (some settlement.value) evidence = some read) : read = settlement := by
  cases read with
  | committed theirs =>
    obtain ⟨houtcome,-,hholds,-⟩ := settlementOf_committed.1 h
    cases settlement with
    | committed ours => rw [hholds.eq (holds_value ours)]
    | notCommitted bindingDigest code =>
      exact absurd (some.inj houtcome) (by decide)
  | notCommitted digest code =>
    obtain ⟨houtcome,-,hbinding,hcode⟩ := settlementOf_notCommitted.1 h
    cases settlement with
    | committed ours => exact absurd (some.inj houtcome) (by decide)
    | notCommitted bindingDigest code' =>
      have hdigest : bindingDigest = digest := some.inj (readBinding_eq_some.1 hbinding).1
      have htext : code'.text = code.text := some.inj (readCode_eq_some.1 hcode)
      rw [hdigest,show code = code' by cases code <;> cases code' <;> simp_all [NotCommittedCode.text]]

theorem subjectDigest_of_settlementOf (h : settlementOf raw evidence = some settlement) :
    evidence.subjectDigest = subjectOf settlement.bindingDigest := by
  have hvalue := settlementOf_value h
  cases settlement with
  | committed ours => exact (settlementOf_committed.1 hvalue).2.2.2.1.2
  | notCommitted bindingDigest code =>
    exact (readBinding_eq_some.1 (settlementOf_notCommitted.1 hvalue).2.2.1).2.2

variable {decisions later : Decisions} {rows : List DecisionRow} {row : DecisionRow}

theorem project_concat :
    project (rows ++ [row]) = project rows >>= fun decisions => projectRow decisions row := by
  simp [project,foldlM_append]

/-- The row is the outcome of the decision. -/
def DecisionRow.settles (commitment : String) : DecisionRow → Bool
  | .decisionAuthorized _ _ _ _ => false
  | .decisionOutcome _ settled _ => settled == commitment

def outcomesOf (decisions : Decisions) (commitment : String) : Nat :=
  ((decisions.get commitment).map fun decision => decision.isSettled.toNat).getD 0

theorem projectRow_outcomes (h : projectRow decisions row = .ok later) (commitment : String) :
    outcomesOf later commitment = outcomesOf decisions commitment + (row.settles commitment).toNat := by
  cases row with
  | decisionAuthorized operatorId consumed domain evidence =>
    obtain ⟨hfresh,heq⟩ := guard_eq_ok.1 h
    cases heq
    simp only [not_or,Bool.not_eq_true,isSome_eq_false_iff,isNone_iff_eq_none]
      at hfresh
    simp only [outcomesOf,get_set,DecisionRow.settles]
    by_cases hc : commitment = consumed
    · subst hc
      cases domain <;> simp [hfresh.1,DecisionDomain.consumed,DecisionState.isSettled]
    · simp [hc]
  | decisionOutcome operatorId settled payload =>
    have hsettled : ∀ decision outcome : DecisionState, decisions.get settled = some decision →
        decision.isSettled = false → outcome.isSettled = true →
        outcomesOf (decisions.set settled outcome) commitment = outcomesOf decisions commitment +
          ((DecisionRow.decisionOutcome operatorId settled payload).settles commitment).toNat := by
      intro decision outcome hget hbefore hafter
      by_cases hc : commitment = settled
      · subst hc
        simp [outcomesOf,get_set,DecisionRow.settles,hget,hbefore,hafter]
      · simp [outcomesOf,get_set,hc,DecisionRow.settles,Ne.symm hc]
    simp only [projectRow] at h
    split at h <;> rename_i hget
    · cases h
    · cases h
    · split at h
      · cases h
      · cases h
        exact hsettled _ _ hget rfl rfl
    · cases h
    · split at h
      · cases h
      · cases h
        exact hsettled _ _ hget rfl rfl

theorem project_outcomes (h : project rows = .ok decisions) (commitment : String) :
    rows.countP (·.settles commitment) = outcomesOf decisions commitment := by
  induction rows using List.reverseRecOn generalizing decisions with
  | nil =>
    cases h
    rfl
  | append_singleton rows row ih =>
    obtain ⟨prior,hprior,hrow⟩ := bind_eq_ok.1 (project_concat.symm.trans h)
    rw [countP_append,ih hprior,projectRow_outcomes hrow commitment]
    cases hsettles : row.settles commitment <;> simp [hsettles]

theorem outcomesOf_le_one (decisions : Decisions) (commitment : String) :
    outcomesOf decisions commitment ≤ 1 := by
  unfold outcomesOf
  cases decisions.get commitment with
  | none => simp
  | some decision => exact Bool.toNat_le _

/-- The bootstrap-authority decisions are kept as they are, and those added are unsettled. -/
structure KeepsDecisions (decisions later : Decisions) : Prop where
  kept : ∀ commitment evidence settlement,
    decisions.get commitment = some (.bootstrapAuthority evidence settlement) →
      later.get commitment = some (.bootstrapAuthority evidence settlement)
  settled : ∀ commitment evidence settlement,
    later.get commitment = some (.bootstrapAuthority evidence (some settlement)) →
      decisions.get commitment = some (.bootstrapAuthority evidence (some settlement))

theorem keeps_set {commitment : String} {decision : DecisionState}
    (hbefore : ∀ evidence settlement,
      decisions.get commitment ≠ some (.bootstrapAuthority evidence settlement))
    (hafter : ∀ evidence settlement, decision ≠ .bootstrapAuthority evidence (some settlement)) :
    KeepsDecisions decisions (decisions.set commitment decision) := by
  constructor
  · intro other evidence settlement h
    rw [get_set,if_neg ?_,h]
    rintro rfl
    exact hbefore _ _ h
  · intro other evidence settlement h
    rw [get_set] at h
    split_ifs at h with hc
    · exact absurd (some.inj h) (hafter _ _)
    · exact h

theorem projectRow_keeps (h : projectRow decisions row = .ok later)
    (hother : row.isSettlementIn decisions = false) : KeepsDecisions decisions later := by
  cases row with
  | decisionAuthorized operatorId consumed domain evidence =>
    obtain ⟨hfresh,heq⟩ := guard_eq_ok.1 h
    cases heq
    simp only [not_or,Bool.not_eq_true,isSome_eq_false_iff,isNone_iff_eq_none]
      at hfresh
    refine keeps_set (fun _ _ hget => ?_) fun _ _ hdecision => ?_
    · rw [hfresh.1] at hget
      cases hget
    · cases domain <;> cases hdecision
  | decisionOutcome operatorId settled payload =>
    simp only [projectRow] at h
    simp only [DecisionRow.isSettlementIn] at hother
    split at h <;> rename_i hget
    · cases h
    · simp [hget] at hother
    · simp [hget] at hother
    · cases h
    · split at h
      · cases h
      · cases h
        refine keeps_set (fun _ _ hboot => ?_) fun _ _ hdecision => by cases hdecision
        rw [hget] at hboot
        cases hboot

/-- A settled decision, its settlement and its counterpart are consistent. -/
structure Agrees (decisions : Decisions) (commitment : String) (evidence : DecisionEvidence)
    (settlement : BootstrapAuthoritySettlement) : Prop where
  binding : evidence.subjectDigest = subjectOf settlement.bindingDigest
  counterpart : ∀ ours, settlement = .committed ours → ∃ other theirs,
    decisions.get ours.counterpartCommitment = some (.bootstrapAuthority other theirs) ∧
      other.subjectDigest = evidence.subjectDigest ∧ other.verdict ≠ evidence.verdict ∧
      other.operatorId ≠ evidence.operatorId ∧ ∀ reply ∈ theirs, Reciprocates commitment ours reply

def AllAgree (decisions : Decisions) : Prop :=
  ∀ commitment evidence settlement,
    decisions.get commitment = some (.bootstrapAuthority evidence (some settlement)) →
      settlementOf (some settlement.value) evidence = some settlement ∧
        Agrees decisions commitment evidence settlement

/-- Every decision that committed with this one is the one this settlement names. -/
def NamesItsNamer (decisions : Decisions) (commitment : String) : BootstrapAuthoritySettlement → Prop
  | .committed ours => ∀ namer evidence theirs,
      decisions.get namer = some (.bootstrapAuthority evidence (some (.committed theirs))) →
        theirs.counterpartCommitment = commitment → namer = ours.counterpartCommitment
  | .notCommitted _ _ => True

variable {decisions later : Decisions} {commitment : String}

theorem AllAgree.keeps (h : AllAgree decisions) (hkeeps : KeepsDecisions decisions later) :
    AllAgree later := by
  intro commitment evidence settlement hget
  obtain ⟨hread,hagrees⟩ := h _ _ _ (hkeeps.settled _ _ _ hget)
  refine ⟨hread,hagrees.binding,?_⟩
  intro ours hours
  obtain ⟨other,theirs,hother,hrest⟩ := hagrees.counterpart ours hours
  exact ⟨other,theirs,hkeeps.kept _ _ _ hother,hrest⟩

variable {raw : SettlementValue} {evidence : DecisionEvidence}
  {settlement : BootstrapAuthoritySettlement}

theorem checkSettlement_ok {checked : CheckedSettlement}
    (h : checkSettlement decisions commitment raw = .ok checked) :
    decisions.get commitment = some (.bootstrapAuthority checked.evidence checked.prior) ∧
      settlementOf raw checked.evidence = some checked.read ∧
      checkCounterpart decisions commitment checked.evidence checked.read = .ok () := by
  unfold checkSettlement at h
  split at h
  · rename_i evidence prior hget
    split at h
    · cases h
    · rename_i read hread
      obtain ⟨_,hcounterpart,hrest⟩ := bind_eq_ok.1 h
      obtain ⟨-,heq⟩ := guard_eq_ok.1 hrest
      cases heq
      exact ⟨hget,hread,hcounterpart⟩
  · cases h

theorem checkCounterpart_committed {ours : BootstrapCommitted} :
    checkCounterpart decisions commitment evidence (.committed ours) = .ok () ↔ ∃ other theirs,
        decisions.get ours.counterpartCommitment = some (.bootstrapAuthority other theirs) ∧
          other.subjectDigest = evidence.subjectDigest ∧ other.verdict ≠ evidence.verdict ∧
          other.operatorId ≠ evidence.operatorId ∧
          ∀ reply ∈ theirs, Reciprocates commitment ours reply := by
  simp only [checkCounterpart]
  constructor
  · intro h
    split at h
    · rename_i other theirs hget
      obtain ⟨hroles,h⟩ := guard_eq_ok.1 h
      obtain ⟨hreply,-⟩ := guard_eq_ok.1 h
      simp only [not_or,not_not,not_exists,not_and] at hroles hreply
      exact ⟨other,theirs,hget,hroles.1,hroles.2.1,hroles.2.2,hreply⟩
    · cases h
  · rintro ⟨other,theirs,hget,hsubject,hverdict,hoperator,hreply⟩
    simp only [hget]
    refine guard_eq_ok.2 ⟨by simp [hsubject,hverdict,hoperator],guard_eq_ok.2 ⟨?_,rfl⟩⟩
    rintro ⟨reply,hmem,hnot⟩
    exact hnot (hreply reply hmem)

theorem checkCounterpart_notCommitted {bindingDigest : String} {code : NotCommittedCode} :
    checkCounterpart decisions commitment evidence (.notCommitted bindingDigest code) = .ok () ↔
      ∀ namer other theirs, namer ≠ commitment →
        decisions.get namer = some (.bootstrapAuthority other (some (.committed theirs))) →
          theirs.counterpartCommitment ≠ commitment := by
  simp only [checkCounterpart]
  constructor
  · intro h namer other theirs hne hget hnames
    obtain ⟨hnone,-⟩ := guard_eq_ok.1 h
    exact hnone ⟨_,get_eq_some_iff.1 hget,hne,by simp [DecisionState.names,hnames]⟩
  · intro h
    refine guard_eq_ok.2 ⟨?_,rfl⟩
    rintro ⟨⟨namer,decision⟩,hmem,hne,hnames⟩
    have hget := get_eq_some_iff.2 hmem
    simp only [DecisionState.names] at hnames
    split at hnames
    · exact h namer _ _ hne hget (beq_iff_eq.1 hnames)
    · cases hnames

theorem AllAgree.settle (h : AllAgree decisions)
    (hget : decisions.get commitment = some (.bootstrapAuthority evidence none))
    (hread : settlementOf (some settlement.value) evidence = some settlement)
    (hcheck : checkCounterpart decisions commitment evidence settlement = .ok ())
    (hnamer : NamesItsNamer decisions commitment settlement) :
    AllAgree (decisions.set commitment (.bootstrapAuthority evidence (some settlement))) := by
  intro settled evidence' settlement' hsettled
  rw [get_set] at hsettled
  split_ifs at hsettled with hc
  · -- The decision that is settled now: its counterpart has been checked.
    cases hsettled
    refine ⟨hread,subjectDigest_of_settlementOf hread,?_⟩
    rintro ours rfl
    obtain ⟨other,theirs,hother,hsubject,hverdict,hoperator,hreply⟩ :=
      checkCounterpart_committed.1 hcheck
    refine ⟨other,theirs,?_,hsubject,hverdict,hoperator,hc ▸ hreply⟩
    rw [get_set,if_neg ?_,hother]
    intro hself
    rw [hself,hget] at hother
    cases hother
    exact hverdict rfl
  · -- A decision settled before, whose counterpart may be settled now.
    obtain ⟨hread',hagrees⟩ := h _ _ _ hsettled
    refine ⟨hread',hagrees.binding,?_⟩
    rintro theirs rfl
    obtain ⟨other,reply,hother,hsubject,hverdict,hoperator,hreply⟩ :=
      hagrees.counterpart theirs rfl
    by_cases hnamed : theirs.counterpartCommitment = commitment
    · rw [hnamed,hget] at hother
      cases hother
      refine ⟨evidence,some settlement,by simp [get_set,hnamed],hsubject,hverdict, hoperator,?_⟩
      intro answer hanswer
      cases hanswer
      cases settlement with
      | notCommitted bindingDigest code =>
        exact absurd hnamed (checkCounterpart_notCommitted.1 hcheck _ _ _ hc hsettled)
      | committed ours =>
        have hours : settled = ours.counterpartCommitment := hnamer _ _ _ hsettled hnamed
        obtain ⟨_,_,hback,-,-,-,hreciprocates⟩ := checkCounterpart_committed.1 hcheck
        rw [← hours,hsettled] at hback
        cases hback
        have hdigests := (hreciprocates _ rfl).2
        exact ⟨hours.symm,hdigests.1.symm,hdigests.2.symm⟩
    · exact ⟨other,reply,by rw [get_set,if_neg hnamed,hother],hsubject,hverdict, hoperator,hreply⟩

theorem AllAgree.checkSettlement_again (h : AllAgree decisions)
    (hget : decisions.get commitment = some (.bootstrapAuthority evidence (some settlement)))
    (hraw : settlementOf raw evidence = some settlement) :
    checkSettlement decisions commitment raw = .ok ⟨evidence,some settlement,settlement⟩ := by
  have hcheck : checkCounterpart decisions commitment evidence settlement = .ok () := by
    cases settlement with
    | committed ours =>
      exact checkCounterpart_committed.2 ((h _ _ _ hget).2.counterpart ours rfl)
    | notCommitted bindingDigest code =>
      rw [checkCounterpart_notCommitted]
      intro namer other theirs _ hnamer hnames
      obtain ⟨_,reply,hcounterpart,-,-,-,hreply⟩ :=
        (h _ _ _ hnamer).2.counterpart theirs rfl
      rw [hnames,hget] at hcounterpart
      cases hcounterpart
      exact hreply _ rfl
  simp [checkSettlement,hget,hraw,hcheck]

variable {s : SettlementSystem}

/-- The condition on a step: an append does not settle a decision against a third one while
another already names it. -/
def SettlesItsNamer (s : SettlementSystem) : SettlementEvent → Prop
  | .append index _ => ∀ call decisions, s.calls[index]? = some call →
      project s.history = .ok decisions → NamesItsNamer decisions call.commitment call.read
  | _ => True

/-- What holds of a history: it is verified, and the settlements in it agree. -/
structure SettledConsistently (rows : List DecisionRow) : Prop where
  agree : ∃ decisions, project rows = .ok decisions ∧ AllAgree decisions
  once : ∀ commitment, rows.countP (·.settles commitment) ≤ 1

theorem SettledConsistently.of_agree {rows : List DecisionRow} {decisions : Decisions}
    (hproject : project rows = .ok decisions) (h : AllAgree decisions) :
    SettledConsistently rows where
  agree := ⟨decisions,hproject,h⟩
  once commitment := by
    rw [project_outcomes hproject]
    exact outcomesOf_le_one decisions commitment

theorem appendOther_consistent (h : SettledConsistently s.history) (row : DecisionRow) :
    SettledConsistently (s.appendOther row).history := by
  obtain ⟨decisions,hproject,hagree⟩ := h.agree
  simp only [appendOther,hproject]
  split_ifs with hsettlement
  · exact h
  · cases hrow : projectRow decisions row with
    | error error => simpa using h
    | ok later =>
      refine .of_agree ?_ (hagree.keeps (projectRow_keeps hrow (Bool.eq_false_iff.2 hsettlement)))
      rw [project_concat,hproject,ok_bind,hrow]

theorem record_history (capable : Bool) (commitment : String) (settlement : SettlementValue) :
    (s.record capable commitment settlement).2.history = s.history := by
  unfold SettlementSystem.record
  split_ifs
  · rfl
  · split
    · rfl
    · split_ifs <;> rfl

theorem append_cases (s : SettlementSystem) (index : Nat) (unfinished : Bool) :
    (s.append index unfinished).2.history = s.history ∧ (s.append index unfinished).1 ≠ .recorded ∨
      ∃ call decisions checked, s.calls[index]? = some call ∧ project s.history = .ok decisions ∧
        checkSettlement decisions call.commitment (some call.read.value) = .ok checked ∧
        checked.prior = none ∧ s.append index unfinished = (.recorded,
          { history := s.history ++ [.decisionOutcome call.operatorId call.commitment call.read.value]
            calls := s.calls.eraseIdx index }) := by
  unfold SettlementSystem.append
  cases hcall : s.calls[index]? with
  | none => exact .inl ⟨rfl,by simp⟩
  | some call =>
    simp only
    split_ifs with hunfinished
    · exact .inl ⟨rfl,by simp⟩
    · cases hcheck : s.check call.commitment (some call.read.value) with
      | error error => exact .inl ⟨rfl,by simp⟩
      | ok checked =>
        cases hprior : checked.prior with
        | some settlement => exact .inl ⟨by simp [hprior],by simp [hprior]⟩
        | none =>
          obtain ⟨decisions,hproject,hchecked⟩ := bind_eq_ok.1 hcheck
          exact .inr ⟨call,decisions,checked,rfl,hproject,hchecked,hprior,by simp [hprior]⟩

theorem append_consistent (h : SettledConsistently s.history) {index : Nat} {unfinished : Bool}
    (hnamer : SettlesItsNamer s (.append index unfinished)) :
    SettledConsistently (s.append index unfinished).2.history := by
  obtain ⟨hsame,-⟩ | ⟨call,decisions,checked,hcall,hproject,hchecked,hprior,heq⟩ :=
    append_cases s index unfinished
  · rwa [hsame]
  · obtain ⟨current,hcurrent,hagree⟩ := h.agree
    cases hproject.symm.trans hcurrent
    obtain ⟨hget,hread,hcounterpart⟩ := checkSettlement_ok hchecked
    rw [hprior] at hget
    have hsame := settlementOf_value_eq hread
    rw [hsame] at hread hcounterpart
    rw [heq]
    refine .of_agree ?_ (hagree.settle hget hread hcounterpart (hnamer call decisions hcall hproject))
    rw [project_concat,hproject,ok_bind]
    simp [projectRow,hget,hread]

theorem step_consistent (h : SettledConsistently s.history) {event : SettlementEvent}
    (hevent : SettlesItsNamer s event) : SettledConsistently (s.next event).history := by
  cases event with
  | other row => exact appendOther_consistent h row
  | record capable commitment settlement =>
    have hsame : (s.next (.record capable commitment settlement)).history = s.history :=
      record_history capable commitment settlement
    rwa [hsame]
  | append index unfinished => exact append_consistent h hevent

theorem start_consistent : SettledConsistently start.history :=
  .of_agree (by rfl) fun _ _ _ h => by cases h

/-- In a run whose appends settle every decision against the one that already names it, the
settlements of the history agree; a repeated settlement changes nothing, and neither does a call
that is refused. -/
theorem bootstrap_settlements_agree (events : List SettlementEvent)
    (h : StepsMeet SettlementSystem.next SettlesItsNamer .start events) :
    let s := events.foldl SettlementSystem.next .start
    SettledConsistently s.history ∧
      (∀ decisions commitment evidence settlement, project s.history = .ok decisions →
        decisions.get commitment = some (.bootstrapAuthority evidence (some settlement)) →
          (∀ raw, settlementOf raw evidence = some settlement →
            s.step (.record true commitment raw) = (.unchanged, s)) ∧
          ∀ index operatorId, s.calls[index]? = some ⟨commitment,operatorId,settlement⟩ →
            s.step (.append index false) = (.unchanged, { s with calls := s.calls.eraseIdx index })) ∧
      ∀ event, (s.step event).1 = .unchanged ∨ (∃ error, (s.step event).1 = .refused error) →
        (s.next event).history = s.history := by
  intro s
  have hs : SettledConsistently s.history :=
    @StepsMeet.invariant _ _ _ _ _ _ (fun s => SettledConsistently s.history)
      (fun _ _ hs hevent => step_consistent hs hevent) start_consistent h
  refine ⟨hs,?_,?_⟩
  · intro decisions commitment evidence settlement hproject hget
    obtain ⟨current,hcurrent,hagree⟩ := hs.agree
    cases hproject.symm.trans hcurrent
    have hcheck : ∀ raw, settlementOf raw evidence = some settlement →
        s.check commitment raw = .ok ⟨evidence,some settlement,settlement⟩ := by
      intro raw hraw
      rw [check,hproject,ok_bind,hagree.checkSettlement_again hget hraw]
    constructor
    · intro raw hraw
      simp [step,SettlementSystem.record,hcheck raw hraw]
    · intro index operatorId hcall
      simp [step,SettlementSystem.append,hcall,hcheck _ (hagree _ _ _ hget).1]
  · intro event hreply
    cases event with
    | other row => simp [step] at hreply
    | record capable commitment settlement => exact record_history capable commitment settlement
    | append index unfinished =>
      obtain ⟨hsame,-⟩ | ⟨call,decisions,checked,-,-,-,-,heq⟩ :=
        append_cases s index unfinished
      · exact hsame
      · simp [step,heq] at hreply

def sampleCommitment (c : Char) : String :=
  String.ofList ("sha256:".toList ++ List.replicate 64 c)

def sampleBinding : String := String.ofList (List.replicate 64 '0')

/-- The evidence of an operator's decision, whose commitment is made of the character. -/
def sampleEvidence (operatorId : String) (c : Char) (verdict : DecisionVerdict) : DecisionEvidence :=
  ⟨operatorId,sampleCommitment c,subjectOf sampleBinding,verdict⟩

def consumedRow (evidence : DecisionEvidence) : DecisionRow :=
  .decisionAuthorized evidence.operatorId evidence.challengeCommitment .bootstrapAuthority evidence

def sampleCommitted (counterpart : Char) : BootstrapCommitted :=
  ⟨sampleBinding,sampleCommitment counterpart,"request-1",sampleCommitment 'e',1,0, sampleBinding⟩

def sampleSettlement (counterpart : Char) : BootstrapAuthoritySettlement :=
  .committed (sampleCommitted counterpart)

/-- The decision is settled as committed with the counterpart. -/
def settle (decision counterpart : Char) : List SettlementEvent :=
  [.record true (sampleCommitment decision) (some (sampleSettlement counterpart).value), .append 0 false]

def settledRow (operatorId : String) (decision counterpart : Char) : DecisionRow :=
  .decisionOutcome operatorId (sampleCommitment decision) (sampleSettlement counterpart).value

def anne : DecisionEvidence := sampleEvidence "anne" 'a' .attest

def bert : DecisionEvidence := sampleEvidence "bert" 'b' .approve

def carl : DecisionEvidence := sampleEvidence "carl" 'c' .attest

def consumedRows : List DecisionRow := [consumedRow anne, consumedRow bert, consumedRow carl]

def consumedEvents : List SettlementEvent := consumedRows.map .other

variable {c : Char} {operatorId : String} {decision counterpart : Char} {verdict : DecisionVerdict}
  {history : List DecisionRow} {decisions : Decisions}

theorem sampleCommitment_injective {d : Char} (h : sampleCommitment c = sampleCommitment d) : c = d := by
  have hlist := append_cancel_left (String.ofList_injective h)
  exact replicate_right_injective (by decide : 64 ≠ 0) hlist

theorem isHex64_replicate (h : isLowercaseHex c = true) :
    isHex64 (String.ofList (List.replicate 64 c)) = true := by
  rw [isHex64,String.toList_ofList,length_replicate,all_replicate,h]
  rfl

theorem isSha256_ofList {hex : List Char} (hlength : hex.length = 64)
    (hhex : hex.all isLowercaseHex = true) :
    isSha256 (String.ofList ("sha256:".toList ++ hex)) = true := by
  have htag : "sha256:".toList.length = 7 := by decide
  rw [isSha256,String.toList_ofList,← htag,take_left,drop_left]
  simp [hlength,hhex]

theorem isSha256_sampleCommitment (h : isLowercaseHex c = true) : isSha256 (sampleCommitment c) = true :=
  isSha256_ofList length_replicate (by rw [all_replicate,h]; rfl)

theorem settlementOf_sample (hne : decision ≠ counterpart)
    (hhex : isLowercaseHex counterpart = true) :
    settlementOf (some (sampleSettlement counterpart).value)
      (sampleEvidence operatorId decision verdict) = some (sampleSettlement counterpart) := by
  have hrequest : isBootstrapRequestId "request-1" = true := by decide
  have hbinding : isHex64 sampleBinding = true := isHex64_replicate (by decide)
  refine settlementOf_committed.2 ⟨rfl,sort_committedKeys,holds_value _,⟨hbinding,rfl⟩,
    ⟨isSha256_sampleCommitment hhex,?_⟩,hrequest,isSha256_sampleCommitment (by decide),
    ⟨rfl,Int.le_refl 1⟩,⟨rfl,Int.le_refl 0⟩,hbinding⟩
  exact fun h => hne (sampleCommitment_injective h).symm

theorem settle_sample {other : String} {verdict' : DecisionVerdict}
    (hproject : project history = .ok decisions)
    (hget : decisions.get (sampleCommitment decision) = some (.bootstrapAuthority (sampleEvidence operatorId decision verdict) none))
    (hother : decisions.get (sampleCommitment counterpart) = some (.bootstrapAuthority (sampleEvidence other counterpart verdict') none))
    (hverdict : verdict' ≠ verdict) (hoperator : other ≠ operatorId)
    (hne : decision ≠ counterpart) (hhex : isLowercaseHex counterpart = true) :
    (settle decision counterpart).foldl SettlementSystem.next ⟨history,[]⟩ =
        ⟨history ++ [settledRow operatorId decision counterpart],[]⟩ ∧
      project (history ++ [settledRow operatorId decision counterpart]) =
        .ok (decisions.set (sampleCommitment decision)
          (.bootstrapAuthority (sampleEvidence operatorId decision verdict)
            (some (sampleSettlement counterpart)))) := by
  have hread : settlementOf (some (sampleSettlement counterpart).value)
      (sampleEvidence operatorId decision verdict) = some (sampleSettlement counterpart) :=
    settlementOf_sample hne hhex
  have hcounterpart : checkCounterpart decisions (sampleCommitment decision)
      (sampleEvidence operatorId decision verdict) (sampleSettlement counterpart) = .ok () :=
    checkCounterpart_committed.2 ⟨_,none,hother,rfl,hverdict,hoperator,by simp⟩
  have hcheck : checkSettlement decisions (sampleCommitment decision)
      (some (sampleSettlement counterpart).value) =
        .ok ⟨sampleEvidence operatorId decision verdict,none,sampleSettlement counterpart⟩ := by
    simp [checkSettlement,hget,hread,hcounterpart]
  constructor
  · have hoperatorId : (sampleEvidence operatorId decision verdict).operatorId = operatorId := rfl
    simp [settle,SettlementSystem.next,step,SettlementSystem.record,
      SettlementSystem.append,check,hproject,hcheck,settledRow,hoperatorId]
  · rw [project_concat,hproject,ok_bind]
    simp [projectRow,settledRow,hget,hread]

def consumedDecisions : Decisions :=
  ((empty.set (sampleCommitment 'a') (.bootstrapAuthority anne none)).set
    (sampleCommitment 'b') (.bootstrapAuthority bert none)).set
      (sampleCommitment 'c') (.bootstrapAuthority carl none)

theorem commitments_apart : sampleCommitment 'a' ≠ sampleCommitment 'b' ∧
    sampleCommitment 'a' ≠ sampleCommitment 'c' ∧ sampleCommitment 'b' ≠ sampleCommitment 'c' :=
  ⟨fun h => absurd (sampleCommitment_injective h) (by decide),
    fun h => absurd (sampleCommitment_injective h) (by decide),
    fun h => absurd (sampleCommitment_injective h) (by decide)⟩

theorem consume_sample (hproject : project history = .ok decisions)
    (hget : decisions.get (sampleCommitment c) = none) :
    SettlementSystem.next ⟨history,[]⟩ (.other (consumedRow (sampleEvidence operatorId c verdict))) =
        ⟨history ++ [consumedRow (sampleEvidence operatorId c verdict)],[]⟩ ∧
      project (history ++ [consumedRow (sampleEvidence operatorId c verdict)]) =
        .ok (decisions.set (sampleCommitment c)
          (.bootstrapAuthority (sampleEvidence operatorId c verdict) none)) := by
  have hrow : projectRow decisions (consumedRow (sampleEvidence operatorId c verdict)) =
      .ok (decisions.set (sampleCommitment c)
        (.bootstrapAuthority (sampleEvidence operatorId c verdict) none)) := by
    simp [projectRow,consumedRow,sampleEvidence,hget,DecisionDomain.consumed]
  constructor
  · have hother :
        (consumedRow (sampleEvidence operatorId c verdict)).isSettlementIn decisions = false := rfl
    simp [SettlementSystem.next,step,appendOther,hproject,hother,hrow]
  · rw [project_concat,hproject,ok_bind,hrow]

theorem run_consumed : consumedEvents.foldl SettlementSystem.next .start = ⟨consumedRows,[]⟩ ∧
    project consumedRows = .ok consumedDecisions := by
  obtain ⟨hab,hac,hbc⟩ := commitments_apart
  have hanne : SettlementSystem.next .start (.other (consumedRow anne)) =
      ⟨[consumedRow anne],[]⟩ ∧ project [consumedRow anne] = .ok _ := consume_sample rfl rfl
  have hbert : SettlementSystem.next ⟨[consumedRow anne],[]⟩ (.other (consumedRow bert)) =
      ⟨[consumedRow anne, consumedRow bert],[]⟩ ∧ project [consumedRow anne, consumedRow bert] = .ok _ :=
    consume_sample hanne.2 (by simp [get_set,hab.symm])
  have hcarl : SettlementSystem.next ⟨[consumedRow anne, consumedRow bert],[]⟩
      (.other (consumedRow carl)) = ⟨consumedRows,[]⟩ ∧ project consumedRows = .ok _ :=
    consume_sample hbert.2 (by simp [get_set,hac.symm,hbc.symm])
  refine ⟨?_,hcarl.2⟩
  rw [consumedEvents,consumedRows,map_cons,map_cons,map_cons,foldl_cons,
    hanne.1,foldl_cons,hbert.1,foldl_cons,hcarl.1]
  rfl

theorem consumed_get : consumedDecisions.get (sampleCommitment 'a') = some (.bootstrapAuthority anne none) ∧
      consumedDecisions.get (sampleCommitment 'b') = some (.bootstrapAuthority bert none) ∧
      consumedDecisions.get (sampleCommitment 'c') = some (.bootstrapAuthority carl none) := by
  obtain ⟨hab,hac,hbc⟩ := commitments_apart
  simp [consumedDecisions,get_set,hab,hac,hbc]

theorem settle_anne : (consumedEvents ++ settle 'a' 'b').foldl SettlementSystem.next .start =
        ⟨consumedRows ++ [settledRow "anne" 'a' 'b'],[]⟩ ∧
      project (consumedRows ++ [settledRow "anne" 'a' 'b']) =
        .ok (consumedDecisions.set (sampleCommitment 'a')
          (.bootstrapAuthority anne (some (sampleSettlement 'b')))) := by
  obtain ⟨hrun,hproject⟩ := run_consumed
  obtain ⟨hanne,hbert,-⟩ := consumed_get
  rw [foldl_append,hrun]
  exact settle_sample hproject hanne hbert (by decide) (by decide) (by decide) (by decide)

theorem bootstrap_settlements_agree_anne : SettledConsistently
      ((consumedEvents ++ settle 'a' 'b').foldl SettlementSystem.next .start).history := by
  refine (bootstrap_settlements_agree (consumedEvents ++ settle 'a' 'b') ?_).1
  rw [stepsMeet_append,run_consumed.1]
  refine ⟨stepsMeet_of_forall (fun event hevent s => ?_) _,trivial,?_,trivial⟩
  · obtain ⟨row,-,rfl⟩ := List.mem_map.1 hevent
    trivial
  · -- None of the three decisions is settled when Anne's is appended.
    intro call decisions _ hproject
    have hhistory := record_history (s := ⟨consumedRows,[]⟩) true (sampleCommitment 'a')
      (some (sampleSettlement 'b').value)
    rw [SettlementSystem.next,step,hhistory,run_consumed.2] at hproject
    cases hproject
    cases hread : call.read with
    | notCommitted bindingDigest code => trivial
    | committed ours =>
      intro namer evidence theirs hnamer
      simp only [consumedDecisions,get_set,get_empty] at hnamer
      split_ifs at hnamer <;> cases hnamer

def thirdDecisionEvents : List SettlementEvent :=
  (consumedEvents ++ settle 'a' 'b') ++ settle 'b' 'c'

theorem bootstrap_settlements_contradict : ¬ SettledConsistently
    (thirdDecisionEvents.foldl SettlementSystem.next .start).history := by
  obtain ⟨hrun,hproject⟩ := settle_anne
  obtain ⟨hab,hac,hbc⟩ := commitments_apart
  obtain ⟨-,hbert,hcarl⟩ := consumed_get
  obtain ⟨hthird,hlast⟩ : (settle 'b' 'c').foldl SettlementSystem.next
      ⟨consumedRows ++ [settledRow "anne" 'a' 'b'],[]⟩ = ⟨_,[]⟩ ∧ project _ = .ok _ :=
    settle_sample hproject (by rw [get_set,if_neg hab.symm]; exact hbert)
      (by rw [get_set,if_neg hac.symm]; exact hcarl) (by decide) (by decide)
      (by decide) (by decide)
  rw [thirdDecisionEvents,foldl_append,hrun,hthird]
  rintro ⟨⟨decisions,hdecisions,hagree⟩,-⟩
  cases hdecisions.symm.trans hlast
  obtain ⟨-,hagrees⟩ := hagree (sampleCommitment 'a') anne (sampleSettlement 'b')
    (by rw [get_set,if_neg hab,get_set,if_pos rfl])
  obtain ⟨other,theirs,hother,-,-,-,hreply⟩ := hagrees.counterpart (sampleCommitted 'b') rfl
  rw [sampleCommitted,get_set,if_pos rfl] at hother
  cases hother
  exact hac (hreply _ rfl).1.symm

end Frontera.HumanIdentity
