import Frontera.Obligation.Histories
import Frontera.Text.CodeUnitOrder

/-! # What satisfies an obligation

The state of an obligation is decided by which reports may count for it, in whatever order and
however often they are listed. Its history is a path of the transition table. -/

namespace Frontera.Obligation

open Frontera.Text List

theorem textsLt_iff {as bs : List String} (h : as.length = bs.length) :
    textsLt as bs = true ↔ as.map codeUnits < bs.map codeUnits := by
  induction as generalizing bs with
  | nil =>
    rw [length_eq_zero_iff.1 h.symm]
    simp [textsLt]
  | cons a as ih =>
    cases bs with
    | nil => cases h
    | cons b bs =>
      rw [map_cons,map_cons,cons_lt_cons_iff,← ih (Nat.succ.inj h),textsLt]
      rcases lt_trichotomy (codeUnits a) (codeUnits b) with hlt | heq | hgt
      · simp [stringLt_iff,hlt]
      · simp [stringLt_iff,heq]
      · simp [stringLt_iff,hgt,hgt.not_gt,hgt.ne']

/-- The lifecycle sorts by the code units of the sort keys. -/
theorem observationLe_iff {left right : ObligationDischargeObservation} : observationLe left right = true ↔
      left.sortKey.map codeUnits ≤ right.sortKey.map codeUnits := by
  rw [observationLe,Bool.not_eq_true',← Bool.not_eq_true,
    @textsLt_iff right.sortKey left.sortKey rfl,not_lt]

theorem sortKey_eq_of_le {left right : ObligationDischargeObservation}
    (h : observationLe left right = true) (h' : observationLe right left = true) :
    left.sortKey = right.sortKey :=
  codeUnits_injective.list_map (le_antisymm (observationLe_iff.1 h) (observationLe_iff.1 h'))

theorem sortObservations_pairwise (observations : List ObligationDischargeObservation) :
    (sortObservations observations).Pairwise fun left right => observationLe left right = true := by
  have htotal : Std.Total fun left right => observationLe left right = true :=
    ⟨fun _ _ => by simpa only [observationLe_iff] using le_total _ _⟩
  have htrans : IsTrans _ fun left right => observationLe left right = true :=
    ⟨fun _ _ _ => by simpa only [observationLe_iff] using le_trans⟩
  exact pairwise_insertionSort _ observations

/-- The reports stand in the order the lifecycle sorts them. -/
def InOrder (entries : List AdmissibleObservation) : Prop :=
  entries.Pairwise fun left right => observationLe left.observation right.observation = true

/-- In order, the first decisive report is a waiver when some waiver is before every discharge. -/
theorem waived_first_iff {entries : List AdmissibleObservation} (h : InOrder entries) :
    ((entries.find? AdmissibleObservation.isDecisive).any fun entry =>
        entry.observation.outcome = .waived) = true ↔
      ∃ waiver ∈ entries, waiver.observation.outcome = .waived ∧
        ∀ entry ∈ entries, entry.observation.outcome = .discharged →
          observationLe waiver.observation entry.observation = true := by
  induction entries with
  | nil => simp
  | cons first entries ih =>
    obtain ⟨hfirst,hrest⟩ := pairwise_cons.1 h
    cases houtcome : first.observation.outcome with
    | pending => simp [AdmissibleObservation.isDecisive,houtcome,← ih hrest]
    | refused => simp [AdmissibleObservation.isDecisive,houtcome,← ih hrest]
    | waived =>
      refine iff_of_true (by simp [AdmissibleObservation.isDecisive,houtcome]) ?_
      refine ⟨first,mem_cons_self,houtcome,fun entry hentry hdischarged => ?_⟩
      rcases mem_cons.1 hentry with rfl | hentry
      · rw [houtcome] at hdischarged
        cases hdischarged
      · exact hfirst entry hentry
    | discharged =>
      refine iff_of_false (by simp [AdmissibleObservation.isDecisive,houtcome]) ?_
      rintro ⟨waiver,hwaiver,hwaived,hbefore⟩
      rcases mem_cons.1 hwaiver with rfl | hwaiver
      · rw [houtcome] at hwaived
        cases hwaived
      · -- The discharge in front is before the waiver, so both have one sort key.
        have hkey := sortKey_eq_of_le (hbefore first mem_cons_self houtcome)
          (hfirst waiver hwaiver)
        simp only [ObligationDischargeObservation.sortKey,hwaived,houtcome,cons.injEq,
          and_true] at hkey
        exact absurd hkey.2.2.2 (by decide)

theorem reportedState_congr {entries others : List AdmissibleObservation}
    (h : InOrder entries) (h' : InOrder others) (hsame : ∀ entry, entry ∈ entries ↔ entry ∈ others)
    (state : ObligationState) : reportedState entries state = reportedState others state := by
  have hwaived : ((entries.find? AdmissibleObservation.isDecisive).any fun entry =>
      entry.observation.outcome = .waived) = ((others.find? AdmissibleObservation.isDecisive).any
        fun entry => entry.observation.outcome = .waived) := by
    rw [Bool.eq_iff_iff,waived_first_iff h,waived_first_iff h']
    simp only [hsame]
  have hany : ∀ p : AdmissibleObservation → Bool, entries.any p = others.any p := by
    intro p
    rw [Bool.eq_iff_iff,any_eq_true,any_eq_true]
    simp only [hsame]
  unfold reportedState
  rw [hwaived,hany,hany,hany]

/-- The transitions lead from one state to the other along the table. -/
def IsPath : ObligationState → List ObligationTransition → ObligationState → Prop
  | source, [], target => source = target
  | source, step :: steps, target => step.source = source ∧
      isLegalObligationTransition step.source step.target = true ∧ IsPath step.target steps target

theorem IsPath.concat {source target : ObligationState} {steps : List ObligationTransition}
    (h : IsPath source steps target) {step : ObligationTransition} (hsource : step.source = target)
    (hlegal : isLegalObligationTransition step.source step.target = true) :
    IsPath source (steps ++ [step]) step.target := by
  induction steps generalizing source with
  | nil =>
    cases h
    exact ⟨hsource,hlegal,rfl⟩
  | cons first steps ih => exact ⟨h.1,h.2.1,ih h.2.2⟩

def ObligationInstance.HasPath (inst : ObligationInstance) : Prop :=
  IsPath .required inst.transitions inst.state

theorem path_kept (instant : String) : Kept instant ObligationInstance.HasPath where
  transition inst target reason discharge h := by
    rcases transitionObligation_cases inst target instant reason discharge with heq | ⟨hlegal,heq⟩
    · rwa [heq]
    · rw [heq]
      exact h.concat rfl hlegal
  refused _ _ h := h

theorem blocking_kept (instant : String) (blocking : Bool) :
    Kept instant fun inst => inst.blocking = blocking where
  transition inst target reason discharge h := by
    rcases transitionObligation_cases inst target instant reason discharge with heq | ⟨-,heq⟩
    · rwa [heq]
    · rwa [heq]
  refused _ _ h := h

theorem exists_of_settled {entries : List AdmissibleObservation} (h : settled entries = true) :
    ∃ entry ∈ entries, entry.observation.outcome = .discharged ∧
        entry.source.verificationClass = .independent ∨ entry.observation.outcome = .waived := by
  unfold settled at h
  rcases Bool.or_eq_true _ _ ▸ h with hany | hfound
  · obtain ⟨entry,hentry,hcounts⟩ := any_eq_true.1 hany
    rw [AdmissibleObservation.isIndependentDischarge,Bool.and_eq_true] at hcounts
    exact ⟨entry,hentry,.inl (hcounts.imp of_decide_eq_true of_decide_eq_true)⟩
  · obtain ⟨entry,hentry,hwaived⟩ := (Option.any_eq_true _ _).1 hfound
    exact ⟨entry,mem_of_find?_eq_some hentry,.inr (of_decide_eq_true hwaived)⟩

def ObligationResolution.states (resolution : ObligationResolution) : List (String × ObligationState) :=
  resolution.obligations.map fun inst => (inst.obligationType, inst.state)

namespace ObligationLifecycleService

variable {P : Platform} (service : ObligationLifecycleService P)
  {correlation : ObligationCorrelation} {observations others : List ObligationDischargeObservation}
  {entry : AdmissibleObservation}

theorem mem_admissible : entry ∈ service.admissible correlation observations ↔
    entry.observation ∈ observations ∧
      (service.admission correlation entry.observation).toOption = some entry := by
  unfold admissible sortObservations
  rw [mem_filterMap]
  simp only [(perm_insertionSort _ observations).mem_iff]
  constructor
  · rintro ⟨observation,hmem,hentry⟩
    rw [service.admission_observation hentry]
    exact ⟨hmem,hentry⟩
  · rintro ⟨hmem,hentry⟩
    exact ⟨_,hmem,hentry⟩

/-- A discharge or a waiver that counts cites a registered independent source. -/
theorem admission_independent {observation : ObligationDischargeObservation}
    (h : (service.admission correlation observation).toOption = some entry)
    (hcounts : entry.observation.outcome = .discharged ∧
        entry.source.verificationClass = .independent ∨ entry.observation.outcome = .waived) :
    observation.correlation = correlation ∧ ∃ source ∈ service.sources,
      source.id = observation.sourceId ∧ source.verificationClass = .independent := by
  unfold admission at h
  split_ifs at h with hdeclared hcorrelation
  · cases h
  · cases h
  · cases hsource : service.sourceOf observation.sourceId with
    | none =>
      rw [hsource] at h
      cases h
    | some source =>
      rw [hsource] at h
      dsimp only at h
      split_ifs at h with hwaiver
      · cases h
      · cases h
        refine ⟨not_not.1 hcorrelation,source,mem_of_find?_eq_some hsource,?_,?_⟩
        · simpa using List.find?_some hsource
        · rcases hcounts with ⟨-,hclass⟩ | hwaived
          · exact hclass
          · exact not_not.1 fun hclass => hwaiver ⟨hwaived,hclass⟩

theorem admissible_inOrder (correlation : ObligationCorrelation)
    (observations : List ObligationDischargeObservation) :
    InOrder (service.admissible correlation observations) := by
  unfold admissible InOrder
  rw [pairwise_filterMap]
  apply (sortObservations_pairwise observations).imp
  intro left right hle entry hentry other hother
  rwa [service.admission_observation hentry,service.admission_observation hother]

theorem resolved_keeps {instant : String} {Q : ObligationInstance → Prop} (h : Kept instant Q)
    {requirement : ObligationRequirement}
    (hdeclared : Q (declareObligation requirement correlation instant)) :
    Q (applyExpiry P instant (service.resolved observations correlation instant requirement)) :=
  h.applyExpiry P (h.foldl hdeclared _)

theorem resolved_state (observations : List ObligationDischargeObservation)
    (correlation : ObligationCorrelation) (instant : String) (requirement : ObligationRequirement) :
    (service.resolved observations correlation instant requirement).state =
      reportedState ((service.admissible correlation observations).filter fun entry =>
        entry.observation.obligationType = requirement.obligationType) .required := by
  rw [← state_of_open _ (.inl rfl) none]
  exact congrArg Standing.state (foldl_observeOwn_standing instant _ _)

/-- The same reports, in another order or repeated, leave every obligation in its state. -/
theorem resolved_state_congr (h : ∀ observation, observation ∈ observations ↔ observation ∈ others)
    (correlation : ObligationCorrelation) (instant : String) (requirement : ObligationRequirement) :
    (applyExpiry P instant (service.resolved observations correlation instant requirement)).state =
      (applyExpiry P instant (service.resolved others correlation instant requirement)).state := by
  have hstate : (service.resolved observations correlation instant requirement).state =
      (service.resolved others correlation instant requirement).state := by
    rw [service.resolved_state,service.resolved_state]
    apply reportedState_congr ((service.admissible_inOrder _ _).filter _)
      ((service.admissible_inOrder _ _).filter _)
    intro entry
    rw [mem_filter,mem_filter,service.mem_admissible,service.mem_admissible,h]
  have hdeclared : ∀ observations, SameDeclaration (service.resolved observations correlation
      instant requirement) (declareObligation requirement correlation instant) :=
    fun _ => foldl_observeOwn_declaration instant _ _
  have hpast : (service.resolved observations correlation instant requirement).isPastDeadline P
      instant = (service.resolved others correlation instant requirement).isPastDeadline P
        instant := by
    unfold ObligationInstance.isPastDeadline
    rw [(hdeclared _).expiresAt,(hdeclared _).expiresAt]
  rcases applyExpiry_cases P instant (service.resolved observations correlation instant requirement)
    with ⟨hleft,hlegal,hexpired⟩ | ⟨hleft,hkept⟩ <;>
  rcases applyExpiry_cases P instant (service.resolved others correlation instant requirement)
    with ⟨hright,hlegal',hexpired'⟩ | ⟨hright,hkept'⟩
  · rw [hexpired,hexpired']
  · exact absurd ⟨hpast ▸ hleft,hstate ▸ hlegal⟩ hright
  · exact absurd ⟨hpast ▸ hright,hstate ▸ hlegal'⟩ hleft
  · rw [hkept,hkept',hstate]

/-- A blocking obligation stops withholding only by a discharge or a waiver of an independent
source, each history is a path of the transition table, and neither the order nor the repetition
of reports changes a state or the eligibility. -/
theorem obligation_satisfaction_sound (observations : List ObligationDischargeObservation)
    (correlation : ObligationCorrelation) (instant : String) :
    (∀ inst ∈ (service.resolve observations correlation instant).obligations,
        (inst.blocking = true → obligationWithholdsExercise inst = false →
          ∃ observation ∈ observations, observation.correlation = correlation ∧
            observation.obligationType = inst.obligationType ∧
            (observation.outcome = .discharged ∨ observation.outcome = .waived) ∧
            ∃ source ∈ service.sources, source.id = observation.sourceId ∧
              source.verificationClass = .independent) ∧
          IsPath .required inst.transitions inst.state) ∧
      ∀ others : List ObligationDischargeObservation,
        (∀ observation, observation ∈ observations ↔ observation ∈ others) →
        (service.resolve others correlation instant).states =
            (service.resolve observations correlation instant).states ∧
          (service.resolve others correlation instant).exerciseEligibility =
            (service.resolve observations correlation instant).exerciseEligibility := by
  have hkind : ∀ observations requirement, (applyExpiry P instant (service.resolved observations
      correlation instant requirement)).obligationType = requirement.obligationType :=
    fun _ requirement => (service.resolved_keeps (declaration_kept
      (declareObligation requirement correlation instant)) (.refl _)).obligationType
  refine ⟨?_,?_⟩
  · intro inst hinst
    rw [service.resolve_obligations] at hinst
    obtain ⟨requirement,-,rfl⟩ := List.mem_map.1 hinst
    refine ⟨?_,service.resolved_keeps (path_kept instant) rfl⟩
    intro hblocking hexercises
    rw [obligationWithholdsExercise,hblocking,Bool.true_and,Bool.not_eq_false'] at hexercises
    rw [hkind]
    rw [satisfied_of_applyExpiry hexercises,service.resolved_state,
      satisfied_reportedState _ (.inl rfl)] at hexercises
    obtain ⟨entry,hentry,hcounts⟩ := exists_of_settled hexercises
    obtain ⟨hmem,hown⟩ := List.mem_filter.1 hentry
    obtain ⟨hlisted,hadmitted⟩ := service.mem_admissible.1 hmem
    obtain ⟨hcorrelation,source,hsource,hid,hclass⟩ :=
      service.admission_independent hadmitted hcounts
    refine ⟨entry.observation,hlisted,hcorrelation,of_decide_eq_true hown,?_,source,hsource, hid,hclass⟩
    exact hcounts.imp And.left id
  · intro others h
    have hwithholds : (service.resolve others correlation instant).obligations.any
        obligationWithholdsExercise = (service.resolve observations correlation
          instant).obligations.any obligationWithholdsExercise := by
      have hblocking : ∀ observations requirement, (applyExpiry P instant (service.resolved
          observations correlation instant requirement)).blocking = requirement.blocking :=
        fun _ _ => service.resolved_keeps (blocking_kept instant _) rfl
      rw [service.resolve_obligations,service.resolve_obligations,List.any_map,List.any_map]
      congr 1
      funext requirement
      simp only [Function.comp_apply,obligationWithholdsExercise,hblocking, service.resolved_state_congr h]
    constructor
    · unfold ObligationResolution.states
      rw [service.resolve_obligations,service.resolve_obligations,List.map_map,List.map_map]
      apply List.map_congr_left
      intro requirement _
      exact Prod.ext ((hkind _ requirement).trans (hkind _ requirement).symm)
        (service.resolved_state_congr h _ _ _).symm
    · exact congrArg (fun withheld => if withheld = true then ObligationExerciseEligibility.blocked
        else .eligible) hwithholds

end ObligationLifecycleService

end Frontera.Obligation
