import Frontera.Data.Throwing
import Frontera.Obligation.Satisfaction

/-! The recorder accepts the reports of an obligation in the order of their instants; the lifecycle
reads them in the order of the texts of these instants. Where the two orders agree, a satisfied
obligation stays satisfied. An expired one stays expired exactly until a report settles it, since
the deadline is read after every report. -/

namespace Frontera.Obligation

open Frontera.Data List Option

variable {P : Platform} {options : ObligationDischargeRecorderOptions}
  {rows : List ObligationDischargeContent}

theorem recordOnce_ok {writer : ObligationDischargeWriterContext}
    {input : ObligationDischargeRecordInput} {recordedAt : String}
    {row : ObligationDischargeContent}
    (h : recordOnce P options rows writer input recordedAt = .ok row) :
    row = ⟨input,options.organizationId,writer.actorId,recordedAt⟩ ∧ (P.dateParse input.observedAt).isSome ∧
      ∀ earlier ∈ rows, earlier.correlation = input.correlation →
        earlier.obligationType = input.obligationType → notBefore P input.observedAt earlier = false := by
  obtain ⟨-,h⟩ := guard_eq_ok.1 h
  obtain ⟨-,h⟩ := guard_eq_ok.1 h
  obtain ⟨-,h⟩ := guard_eq_ok.1 h
  obtain ⟨-,h⟩ := guard_eq_ok.1 h
  obtain ⟨hparse,h⟩ := guard_eq_ok.1 h
  obtain ⟨-,h⟩ := guard_eq_ok.1 h
  obtain ⟨-,h⟩ := guard_eq_ok.1 h
  obtain ⟨-,h⟩ := guard_eq_ok.1 h
  obtain ⟨horder,h⟩ := guard_eq_ok.1 h
  refine ⟨by simpa using h.symm,by simpa [isSome_iff_ne_none] using hparse,?_⟩
  intro earlier hearlier hcorrelation hkind
  by_contra hbefore
  apply horder
  simp only [List.any_eq_true,mem_filter,rowsForCorrelation,decide_eq_true_eq,beq_iff_eq]
  exact ⟨earlier,⟨⟨hearlier,hcorrelation⟩,hkind⟩,by simpa using hbefore⟩

/-- Where the instant of this report is after that of a report of the same obligation, so is
its text. -/
def SpellsInOrder (P : Platform) (rows : List ObligationDischargeContent)
    (report : ObligationDischargeReport) : Prop :=
  ∀ row ∈ rows, row.correlation = report.input.correlation →
    row.obligationType = report.input.obligationType →
    ∀ earlier later, P.dateParse row.observedAt = some earlier →
      P.dateParse report.input.observedAt = some later → earlier < later →
      stringLt row.observedAt report.input.observedAt = true

structure TextOrdered (P : Platform) (rows : List ObligationDischargeContent) : Prop where
  instants : ∀ row ∈ rows, (P.dateParse row.observedAt).isSome
  texts : rows.Pairwise fun earlier later => earlier.correlation = later.correlation →
    earlier.obligationType = later.obligationType → stringLt earlier.observedAt later.observedAt = true

theorem TextOrdered.record (h : TextOrdered P rows) {report : ObligationDischargeReport}
    (hreport : SpellsInOrder P rows report) : TextOrdered P (record P options rows report) := by
  unfold Obligation.record
  cases haccepted : recordOnce P options rows report.writer report.input report.recordedAt with
  | error _ => exact h
  | ok row =>
    obtain ⟨rfl,hinstant,hlast⟩ := recordOnce_ok haccepted
    refine ⟨?_,?_⟩
    · intro row hrow
      rcases mem_append.1 hrow with hrow | hrow
      · exact h.instants row hrow
      · rw [mem_singleton.1 hrow]
        exact hinstant
    · refine pairwise_append.2 ⟨h.texts,pairwise_singleton _ _,?_⟩
      intro earlier hearlier later hlater hcorrelation hkind
      rw [mem_singleton.1 hlater] at hcorrelation hkind ⊢
      obtain ⟨earlierInstant,hearlierInstant⟩ := isSome_iff_exists.1 (h.instants earlier hearlier)
      obtain ⟨laterInstant,hlaterInstant⟩ := isSome_iff_exists.1 hinstant
      apply hreport earlier hearlier hcorrelation hkind _ _ hearlierInstant hlaterInstant
      have hbefore := hlast earlier hearlier hcorrelation hkind
      simp only [notBefore,hearlierInstant,hlaterInstant,decide_eq_false_iff_not] at hbefore
      omega

theorem textOrdered_recordAll {reports : List ObligationDischargeReport}
    (h : StepsMeet (record P options) (SpellsInOrder P) [] reports) :
    TextOrdered P (recordAll P options reports) :=
  h.invariant (fun _ _ hrows hreport => hrows.record hreport) ⟨by simp,.nil⟩

theorem TextOrdered.front {earlier later : List ObligationDischargeContent}
    (h : TextOrdered P later) (hfront : earlier <+: later) : TextOrdered P earlier :=
  ⟨fun row hrow => h.instants row (hfront.subset hrow),h.texts.sublist hfront.sublist⟩

theorem stringLt_asymm {left right : String} (h : stringLt left right = true) :
    stringLt right left = false := by
  rw [Bool.eq_false_iff,Ne,stringLt_iff]
  exact (stringLt_iff.1 h).not_gt

theorem observationLe_of_stringLt {left right : ObligationDischargeObservation}
    (h : stringLt left.observedAt right.observedAt = true) : observationLe left right = true := by
  simp [observationLe,ObligationDischargeObservation.sortKey,textsLt,h,stringLt_asymm h]

namespace ObligationLifecycleService

variable {P : Platform} (service : ObligationLifecycleService P)

theorem admission_observation {correlation : ObligationCorrelation}
    {observation : ObligationDischargeObservation} {entry : AdmissibleObservation}
    (h : (service.admission correlation observation).toOption = some entry) :
    entry.observation = observation := by
  unfold admission at h
  split_ifs at h
  · cases h
  · cases h
  · split at h
    · cases h
    · split_ifs at h
      · cases h
      · cases h
        rfl

theorem dischargesOf_ordered {rows : List ObligationDischargeContent} (h : TextOrdered P rows)
    (correlation : ObligationCorrelation) (obligationType : String) :
    ((service.dischargesOf rows correlation).filter fun observation =>
      observation.obligationType = obligationType).Pairwise fun left right =>
        observationLe left right = true := by
  unfold dischargesOf rowsForCorrelation
  rw [List.filter_map]
  apply List.pairwise_map.2
  have hsub := (filter_sublist (p := (fun observation : ObligationDischargeObservation =>
    decide (observation.obligationType = obligationType)) ∘ (·.observation))).trans
      ((filter_sublist (p := fun row : ObligationDischargeContent =>
        service.declaredTypes.contains row.obligationType)).trans
          (filter_sublist (p := fun row : ObligationDischargeContent =>
            decide (row.correlation = correlation)) (l := rows)))
  apply (h.texts.sublist hsub).imp_of_mem
  intro earlier later hearlier hlater htexts
  simp only [mem_filter,Function.comp_apply,decide_eq_true_eq] at hearlier hlater
  apply observationLe_of_stringLt
  exact htexts (hearlier.1.1.2.trans hlater.1.1.2.symm) (hearlier.2.trans hlater.2.symm)

theorem reportsOf_eq {rows : List ObligationDischargeContent} (h : TextOrdered P rows)
    (correlation : ObligationCorrelation) (obligationType : String) :
    service.reportsOf rows correlation obligationType =
      ((service.dischargesOf rows correlation).filter fun observation =>
        observation.obligationType = obligationType).filterMap fun observation =>
          (service.admission correlation observation).toOption := by
  unfold reportsOf admissible sortObservations
  rw [← filter_insertionSort (service.dischargesOf_ordered h correlation obligationType),
    filter_filterMap,filterMap_filter]
  apply filterMap_congr
  intro observation _
  cases hadmitted : (service.admission correlation observation).toOption with
  | none => simp
  | some entry => simp [service.admission_observation hadmitted,Option.filter]

theorem reportsOf_prefix {earlier later : List ObligationDischargeContent}
    (h : TextOrdered P later) (hfront : earlier <+: later) (correlation : ObligationCorrelation)
    (obligationType : String) :
    service.reportsOf earlier correlation obligationType <+:
      service.reportsOf later correlation obligationType := by
  rw [service.reportsOf_eq h,service.reportsOf_eq (h.front hfront)]
  apply List.IsPrefix.filterMap
  apply List.IsPrefix.filter
  apply List.IsPrefix.map
  apply List.IsPrefix.filter
  exact hfront.filter _

end ObligationLifecycleService

def obligationPlatform : Platform :=
  { tabulatedPlatform [] with
    dateParse := fun text =>
      if text = "2026-01-01T12:00:00Z" then some 1767268800000
      else if text = "2026-01-01T11:30:00-01:00" then some 1767270600000
      else if text = "2026-01-01T12:30:00Z" then some 1767270600000
      else if text = "2026-01-01T13:00:00Z" then some 1767272400000
      else none }

def approvalsSource : ObligationDischargeSource :=
  ⟨"approvals",.approvalRuntime,"Approval runtime",.independent⟩

def agentSource : ObligationDischargeSource := ⟨"agent",.request,"Agent",.selfReported⟩

def obligationService : ObligationLifecycleService obligationPlatform where
  sources := [approvalsSource, agentSource]
  requirements := [⟨"notify",true,some "2026-01-01T12:00:00Z"⟩, ⟨"review",true,none⟩]
  declaration_valid := by decide
  sources_valid := by decide
  sources_once := by decide

def recorderOptions : ObligationDischargeRecorderOptions := ⟨[approvalsSource, agentSource],"org"⟩

def sampleCorrelation : ObligationCorrelation := ⟨"req-1","refund","orders"⟩

def reportAt (obligationType sourceId : String) (outcome : ObligationDischargeOutcome)
    (observedAt : String) : ObligationDischargeReport where
  writer := ⟨true,"operator"⟩
  input := ⟨sampleCorrelation,obligationType,sourceId,outcome,observedAt,none,none⟩
  recordedAt := "2026-01-01T13:00:00Z"

def stateOver (reports : List ObligationDischargeReport) (instant obligationType : String) :
    Option ObligationState :=
  ((obligationService.resolveStored (recordAll obligationPlatform recorderOptions reports)
    sampleCorrelation instant).obligation obligationType).map (·.state)

namespace ObligationLifecycleService

variable {P : Platform} (service : ObligationLifecycleService P)

/-- In a run whose reports are spelled in the order of their instants, a satisfied obligation
stays in its state, with its discharge. -/
theorem satisfied_obligation_stays_satisfied {options : ObligationDischargeRecorderOptions}
    {reports : List ObligationDischargeReport}
    (hreports : StepsMeet (record P options) (SpellsInOrder P) [] reports)
    {earlier later : List ObligationDischargeContent} (hearlier : earlier <+: later)
    (hlater : later <+: recordAll P options reports) (correlation : ObligationCorrelation)
    (earlierInstant laterInstant : String) {obligationType : String} {inst : ObligationInstance}
    (hinst : (service.resolveStored earlier correlation earlierInstant).obligation obligationType =
      some inst)
    (hsatisfied : obligationStateSatisfies inst.state = true) :
    ∃ laterInst, (service.resolveStored later correlation laterInstant).obligation obligationType =
          some laterInst ∧
        laterInst.state = inst.state ∧ laterInst.discharge = inst.discharge := by
  rw [service.resolveStored_obligation] at hinst ⊢
  obtain ⟨requirement,hfind,rfl⟩ := Option.map_eq_some_iff.1 hinst
  have hkept := satisfied_of_applyExpiry hsatisfied
  rw [hkept] at hsatisfied ⊢
  have hordered := (textOrdered_recordAll hreports).front hlater
  have hstanding : (service.observed later correlation laterInstant requirement).standing =
      (service.observed earlier correlation earlierInstant requirement).standing := by
    obtain ⟨more,hmore⟩ :=
      service.reportsOf_prefix hordered hearlier correlation requirement.obligationType
    rw [service.observed_standing later,← hmore,foldl_append,
      ← service.observed_standing earlier correlation earlierInstant]
    exact Standing.foldl_advance_satisfied hsatisfied more
  have hstate : (service.observed later correlation laterInstant requirement).state =
      (service.observed earlier correlation earlierInstant requirement).state :=
    congrArg Standing.state hstanding
  rw [hfind,map_some]
  refine ⟨_,rfl,?_⟩
  rw [applyExpiry_of_satisfied P laterInstant (hstate ▸ hsatisfied)]
  exact ⟨hstate,congrArg Standing.discharge hstanding⟩

/-- A waiver, and a discharge reported later and spelled later. -/
theorem waived_obligation_stays_waived :
    ∃ inst, (obligationService.resolveStored (recordAll obligationPlatform recorderOptions
          [reportAt "review" "approvals" .waived "2026-01-01T12:00:00Z",
            reportAt "review" "agent" .discharged "2026-01-01T12:30:00Z"])
        sampleCorrelation "2026-01-01T13:00:00Z").obligation "review" = some inst ∧
      inst.state = .waived := by
  have hwaived : stateOver [reportAt "review" "approvals" .waived "2026-01-01T12:00:00Z"]
      "2026-01-01T12:00:00Z" "review" = some .waived := by decide
  obtain ⟨inst,hinst,hstate⟩ := Option.map_eq_some_iff.1 hwaived
  have hsteps : StepsMeet (record obligationPlatform recorderOptions)
      (SpellsInOrder obligationPlatform) []
      [reportAt "review" "approvals" .waived "2026-01-01T12:00:00Z",
        reportAt "review" "agent" .discharged "2026-01-01T12:30:00Z"] := by
    refine ⟨by simp [SpellsInOrder],?_,trivial⟩
    intro row hrow _ _ earlier later _ _ _
    have htext : ∀ row ∈ record obligationPlatform recorderOptions []
        (reportAt "review" "approvals" .waived "2026-01-01T12:00:00Z"),
        stringLt row.observedAt "2026-01-01T12:30:00Z" = true := by decide
    exact htext row hrow
  obtain ⟨laterInst,hlater,hsame,_⟩ :=
    obligationService.satisfied_obligation_stays_satisfied hsteps
      (by decide : recordAll obligationPlatform recorderOptions
          [reportAt "review" "approvals" .waived "2026-01-01T12:00:00Z"] <+:
        recordAll obligationPlatform recorderOptions
          [reportAt "review" "approvals" .waived "2026-01-01T12:00:00Z",
            reportAt "review" "agent" .discharged "2026-01-01T12:30:00Z"])
      (prefix_refl _) sampleCorrelation "2026-01-01T12:00:00Z" "2026-01-01T13:00:00Z" hinst
      (by rw [hstate]; rfl)
  exact ⟨laterInst,hlater,hsame.trans hstate⟩

/-- `2026-01-01T11:30:00-01:00` is half an hour after `2026-01-01T12:00:00Z` and its text is
before: the discharge is recorded after the waiver, and read before it. -/
theorem waived_obligation_reopened_by_spelling : (recordAll obligationPlatform recorderOptions
        [reportAt "review" "approvals" .waived "2026-01-01T12:00:00Z",
          reportAt "review" "agent" .discharged "2026-01-01T11:30:00-01:00"]).length = 2 ∧
      recordAll obligationPlatform recorderOptions
          [reportAt "review" "approvals" .waived "2026-01-01T12:00:00Z"] <+:
        recordAll obligationPlatform recorderOptions
          [reportAt "review" "approvals" .waived "2026-01-01T12:00:00Z",
            reportAt "review" "agent" .discharged "2026-01-01T11:30:00-01:00"] ∧
      stateOver [reportAt "review" "approvals" .waived "2026-01-01T12:00:00Z"]
        "2026-01-01T12:00:00Z" "review" = some .waived ∧
      stateOver [reportAt "review" "approvals" .waived "2026-01-01T12:00:00Z",
          reportAt "review" "agent" .discharged "2026-01-01T11:30:00-01:00"]
        "2026-01-01T13:00:00Z" "review" = some .discharged := by
  decide

theorem isPastDeadline_mono {instant laterInstant : String} {now later : Int}
    (hnow : P.dateParse instant = some now) (hlater : P.dateParse laterInstant = some later)
    (hle : now ≤ later) {inst laterInst : ObligationInstance}
    (hdeadline : laterInst.expiresAt = inst.expiresAt)
    (h : inst.isPastDeadline P instant = true) : laterInst.isPastDeadline P laterInstant = true := by
  unfold ObligationInstance.isPastDeadline at h ⊢
  rw [hdeadline]
  cases hexpires : inst.expiresAt with
  | none => simp [hexpires] at h
  | some expiresAt =>
    simp only [hexpires,any_some,isObligationExpiredAt,hnow,hlater] at h ⊢
    cases hparse : P.dateParse expiresAt with
    | none => simp [hparse] at h
    | some deadline =>
      simp only [hparse,decide_eq_true_eq] at h ⊢
      omega

/-- An expired obligation is expired at a later read over a longer history if and only if no
report settles it by then. -/
theorem expired_obligation_stays_expired_iff (options : ObligationDischargeRecorderOptions)
    (reports more : List ObligationDischargeReport) (correlation : ObligationCorrelation)
    {instant laterInstant : String} {now later : Int} (hnow : P.dateParse instant = some now)
    (hlater : P.dateParse laterInstant = some later) (hle : now ≤ later) {obligationType : String}
    {inst : ObligationInstance}
    (hinst : (service.resolveStored (recordAll P options reports) correlation instant).obligation
      obligationType = some inst)
    (hexpired : inst.state = .expired) :
    ∃ laterInst, (service.resolveStored (recordAll P options (reports ++ more)) correlation
          laterInstant).obligation obligationType = some laterInst ∧
        (laterInst.state = .expired ↔
          settled (service.reportsOf (recordAll P options (reports ++ more)) correlation
            obligationType) = false) := by
  rw [service.resolveStored_obligation] at hinst ⊢
  obtain ⟨requirement,hfind,rfl⟩ := Option.map_eq_some_iff.1 hinst
  have hkind : requirement.obligationType = obligationType := by
    simpa using List.find?_some hfind
  have hopen : ∀ rows instant,
      (service.observed rows correlation instant requirement).state ≠ .expired := by
    intro rows instant
    have hstanding := service.observed_standing rows correlation instant requirement
    have hnever : ((service.reportsOf rows correlation requirement.obligationType).foldl
        Standing.advance ⟨.required,none⟩).state ≠ .expired :=
      Standing.foldl_advance_state_ne_expired (by simp) _
    rwa [← hstanding] at hnever
  have hpast := ((applyExpiry_state_eq_expired_iff (hopen _ _)).1 hexpired).1
  rw [hfind,map_some]
  refine ⟨_,rfl,?_⟩
  rw [applyExpiry_state_eq_expired_iff (hopen _ _)]
  have hlaterPast := isPastDeadline_mono hnow hlater hle
    ((service.observed_declaration (recordAll P options (reports ++ more)) correlation laterInstant
      requirement).expiresAt.trans
        (service.observed_declaration (recordAll P options reports) correlation instant
          requirement).expiresAt.symm) hpast
  have hsettled : obligationStateSatisfies (service.observed (recordAll P options (reports ++ more))
      correlation laterInstant requirement).state =
        settled (service.reportsOf (recordAll P options (reports ++ more)) correlation
          obligationType) := by
    have hstanding := service.observed_standing (recordAll P options (reports ++ more)) correlation
      laterInstant requirement
    rw [hkind] at hstanding
    rw [← satisfied_reportedState _ (.inl rfl),← state_of_open _ (.inl rfl) none,← hstanding]
    rfl
  rw [hsettled]
  exact ⟨fun h => h.2,fun h => ⟨hlaterPast,h⟩⟩

theorem expired_obligation_stays_expired :
    ∃ inst, (obligationService.resolveStored (recordAll obligationPlatform recorderOptions
          ([] ++ [reportAt "notify" "agent" .discharged "2026-01-01T12:30:00Z"]))
        sampleCorrelation "2026-01-01T13:00:00Z").obligation "notify" = some inst ∧
      inst.state = .expired := by
  have hexpired : stateOver [] "2026-01-01T12:00:00Z" "notify" = some .expired := by
    decide
  obtain ⟨inst,hinst,hstate⟩ := Option.map_eq_some_iff.1 hexpired
  obtain ⟨laterInst,hlater,hiff⟩ :=
    obligationService.expired_obligation_stays_expired_iff recorderOptions []
      [reportAt "notify" "agent" .discharged "2026-01-01T12:30:00Z"] sampleCorrelation
      (rfl : obligationPlatform.dateParse "2026-01-01T12:00:00Z" = some 1767268800000)
      (rfl : obligationPlatform.dateParse "2026-01-01T13:00:00Z" = some 1767272400000)
      (by decide) hinst hstate
  exact ⟨laterInst,hlater,hiff.2 (by decide)⟩

/-- The deadline has passed, and a discharge that an independent source reports afterwards
verifies the obligation all the same. -/
theorem expired_obligation_reopened_by_report :
    obligationPlatform.dateParse "2026-01-01T12:00:00Z" = some 1767268800000 ∧
      obligationPlatform.dateParse "2026-01-01T13:00:00Z" = some 1767272400000 ∧
      stateOver [] "2026-01-01T12:00:00Z" "notify" = some .expired ∧
      stateOver ([] ++ [reportAt "notify" "approvals" .discharged "2026-01-01T12:30:00Z"])
        "2026-01-01T13:00:00Z" "notify" = some .verified := by
  decide

end ObligationLifecycleService

end Frontera.Obligation
