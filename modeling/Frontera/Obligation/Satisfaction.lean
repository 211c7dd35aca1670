import Frontera.Obligation.Recorder
import Frontera.Data.Sorting

/-! The lifecycle treats every obligation by itself: the reports of its kind, in the order the
lifecycle sorts them, move its standing, and the deadline is read last. A satisfied standing never
moves again, so what is kept over a growing history is decided by that order. -/

namespace Frontera.Obligation

open List

/-- What observations decide of an obligation. -/
structure Standing where
  state : ObligationState
  discharge : Option ObligationDischargeRecord

def ObligationInstance.standing (inst : ObligationInstance) : Standing :=
  ⟨inst.state,inst.discharge⟩

def Standing.advance (standing : Standing) (entry : AdmissibleObservation) : Standing :=
  match entry.observation.outcome, entry.source.verificationClass, standing.state with
  | .pending, _, .required => { standing with state := .pending }
  | .discharged, .selfReported, .required => ⟨.discharged,dischargeRecordFor entry⟩
  | .discharged, .selfReported, .pending => ⟨.discharged,dischargeRecordFor entry⟩
  | .discharged, .independent, .required => ⟨.verified,dischargeRecordFor entry⟩
  | .discharged, .independent, .pending => ⟨.verified,dischargeRecordFor entry⟩
  | .discharged, .independent, .discharged => ⟨.verified,dischargeRecordFor entry⟩
  | .waived, _, .required => ⟨.waived,dischargeRecordFor entry⟩
  | .waived, _, .pending => ⟨.waived,dischargeRecordFor entry⟩
  | _, _, _ => standing

/-- An observation of an obligation's own kind, as `applyEntry` takes it. -/
def observe (instant : String) (current : ObligationInstance) (entry : AdmissibleObservation) :
    ObligationInstance :=
  if entry.observation.outcome = .refused then
    if current.state ≠ .discharged then current
    else { current with verification := some (verificationRecordFor entry) }
  else
    (takeSteps instant (dischargeRecordFor entry) current
      (stepsFor entry.observation.outcome entry.source.verificationClass)).getD current

/-- What no observation touches. -/
structure SameDeclaration (left right : ObligationInstance) : Prop where
  id : left.id = right.id
  obligationType : left.obligationType = right.obligationType
  expiresAt : left.expiresAt = right.expiresAt

theorem SameDeclaration.refl (inst : ObligationInstance) : SameDeclaration inst inst :=
  ⟨rfl,rfl,rfl⟩

variable {a b : ObligationInstance} {instant : String} {next : ObligationInstance}
  {resolving : Resolving} {current : ObligationInstance} {entry : AdmissibleObservation}
  {P : Platform}

theorem SameDeclaration.trans {c : ObligationInstance} (h : SameDeclaration a b)
    (h' : SameDeclaration b c) : SameDeclaration a c :=
  ⟨h.id.trans h'.id,h.obligationType.trans h'.obligationType,h.expiresAt.trans h'.expiresAt⟩

/-- The obligation after a transition; an illegal one is not taken. -/
def ObligationTransitionOutcome.inst : ObligationTransitionOutcome → ObligationInstance
  | .applied inst => inst
  | .unchanged inst => inst
  | .illegal inst _ _ => inst

/-- What every transition keeps, and every report of a refusal. -/
structure Kept (instant : String) (Q : ObligationInstance → Prop) : Prop where
  transition : ∀ inst target reason discharge, Q inst →
    Q (transitionObligation inst target instant reason discharge).inst
  refused : ∀ inst verification, Q inst → Q { inst with verification := verification }

section Kept

variable {Q : ObligationInstance → Prop} (h : Kept instant Q)
include h

theorem Kept.takeSteps {record : Option ObligationDischargeRecord}
    {steps : List (ObligationState × ObligationTransitionReason)} {inst : ObligationInstance}
    (htaken : takeSteps instant record inst steps = some next) (hinst : Q inst) : Q next := by
  induction steps generalizing inst with
  | nil =>
    cases htaken
    exact hinst
  | cons step steps ih =>
    have hone := h.transition inst step.1 step.2 (if steps.isEmpty then record else none) hinst
    simp only [Obligation.takeSteps] at htaken
    cases hstep : transitionObligation inst step.1 instant step.2
        (if steps.isEmpty then record else none) with
    | illegal _ _ _ =>
      rw [hstep] at htaken
      cases htaken
    | applied moved =>
      rw [hstep] at htaken hone
      exact ih htaken hone
    | unchanged moved =>
      rw [hstep] at htaken hone
      exact ih htaken hone

theorem Kept.observe (hcurrent : Q current) (entry : AdmissibleObservation) :
    Q (observe instant current entry) := by
  unfold Obligation.observe
  split_ifs
  · exact hcurrent
  · exact h.refused _ _ hcurrent
  · cases hsteps : Obligation.takeSteps instant (dischargeRecordFor entry) current
        (stepsFor entry.observation.outcome entry.source.verificationClass) with
    | none => exact hcurrent
    | some next => exact h.takeSteps hsteps hcurrent

theorem Kept.applyExpiry (P : Platform) {inst : ObligationInstance} (hinst : Q inst) :
    Q (applyExpiry P instant inst) := by
  have hmoved := h.transition inst .expired .deadlinePassed none hinst
  unfold Obligation.applyExpiry
  split
  · exact hinst
  · split_ifs
    · exact hinst
    · exact hinst
    · split
      · next heq => rwa [heq] at hmoved
      · exact hinst

end Kept

theorem transitionObligation_cases (inst : ObligationInstance) (target : ObligationState)
    (instant : String) (reason : ObligationTransitionReason)
    (discharge : Option ObligationDischargeRecord) :
    (transitionObligation inst target instant reason discharge).inst = inst ∨
      isLegalObligationTransition inst.state target = true ∧
        (transitionObligation inst target instant reason discharge).inst = { inst with
          state := target
          transitions := inst.transitions ++ [⟨inst.state,target,instant,reason⟩]
          discharge := discharge.or inst.discharge } := by
  have hstep : (transitionObligation.step inst target instant reason discharge).inst = inst ∨
      isLegalObligationTransition inst.state target = true ∧
        (transitionObligation.step inst target instant reason discharge).inst = { inst with
          state := target
          transitions := inst.transitions ++ [⟨inst.state,target,instant,reason⟩]
          discharge := discharge.or inst.discharge } := by
    unfold transitionObligation.step
    split_ifs with hlegal
    · exact .inl rfl
    · exact .inr ⟨by simpa using hlegal,rfl⟩
  unfold transitionObligation
  split_ifs
  · exact .inl rfl
  · split
    · split_ifs
      · exact .inl rfl
      · exact hstep
    · exact hstep

theorem declaration_kept (inst : ObligationInstance) : Kept instant (SameDeclaration · inst) where
  transition moved target reason discharge hmoved := by
    rcases transitionObligation_cases moved target instant reason discharge with heq | ⟨-,heq⟩
    · rwa [heq]
    · rw [heq]
      exact ⟨hmoved.id,hmoved.obligationType,hmoved.expiresAt⟩
  refused _ _ hmoved := ⟨hmoved.id,hmoved.obligationType,hmoved.expiresAt⟩

theorem observe_declaration (instant : String) (current : ObligationInstance)
    (entry : AdmissibleObservation) :
    SameDeclaration (observe instant current entry) current :=
  (declaration_kept current).observe (.refl current) entry

theorem observe_standing (instant : String) (current : ObligationInstance)
    (entry : AdmissibleObservation) :
    (observe instant current entry).standing = current.standing.advance entry := by
  obtain ⟨observation,source⟩ := entry
  obtain ⟨id,obligationType,blocking,correlation,state,declaredAt,transitions,discharge,
    verification,expiresAt⟩ := current
  cases hout : observation.outcome <;> cases hclass : source.verificationClass <;> cases state <;>
    simp [observe,stepsFor,takeSteps,transitionObligation,transitionObligation.step,
      obligationProgressRank,isLegalObligationTransition,ObligationState.transitions,
      dischargeRecordFor,Standing.advance,ObligationInstance.standing,hout,hclass]

/-- An observation, taken by the obligation of its kind alone. -/
def observeOwn (instant : String) (current : ObligationInstance) (entry : AdmissibleObservation) :
    ObligationInstance :=
  if current.obligationType = entry.observation.obligationType then observe instant current entry
  else current

theorem Kept.observeOwn {Q : ObligationInstance → Prop} (h : Kept instant Q) (hcurrent : Q current)
    (entry : AdmissibleObservation) : Q (observeOwn instant current entry) := by
  unfold Obligation.observeOwn
  split_ifs
  · exact h.observe hcurrent entry
  · exact hcurrent

theorem Kept.foldl {Q : ObligationInstance → Prop} (h : Kept instant Q) (hcurrent : Q current)
    (entries : List AdmissibleObservation) : Q (entries.foldl (Obligation.observeOwn instant) current) := by
  induction entries generalizing current with
  | nil => exact hcurrent
  | cons entry entries ih => exact ih (h.observeOwn hcurrent entry)

theorem observeOwn_declaration (instant : String) (current : ObligationInstance)
    (entry : AdmissibleObservation) :
    SameDeclaration (observeOwn instant current entry) current :=
  (declaration_kept current).observeOwn (.refl current) entry

theorem eq_of_obligationType_eq {instances : List ObligationInstance}
    (h : (instances.map (·.obligationType)).Nodup) (ha : a ∈ instances) (hb : b ∈ instances)
    (hab : a.obligationType = b.obligationType) : a = b :=
  inj_on_of_nodup_map h ha hb hab

section

variable (h : (resolving.instances.map (·.obligationType)).Nodup)
  (hcurrent : current ∈ resolving.instances)
  (hown : current.obligationType = entry.observation.obligationType)
include h hcurrent hown

theorem Resolving.put_instances (hnext : observe instant current entry = next) :
    (resolving.put next).instances = resolving.instances.map fun inst => observeOwn instant inst entry := by
  have htype : next.obligationType = entry.observation.obligationType := by
    rw [← hnext,(observe_declaration instant current entry).obligationType,hown]
  apply map_congr_left
  intro inst hinst
  unfold observeOwn
  rw [htype]
  split_ifs with hkind
  · have heq : inst = current := eq_of_obligationType_eq h hinst hcurrent (hkind.trans hown.symm)
    rw [heq,hnext]
  · rfl

theorem Resolving.kept_instances (hkept : observe instant current entry = current) :
    resolving.instances = resolving.instances.map fun inst => observeOwn instant inst entry := by
  rw [← Resolving.put_instances h hcurrent hown hkept]
  symm
  apply (map_congr_left ?_).trans (map_id _)
  intro inst hinst
  split_ifs with hkind
  · exact (eq_of_obligationType_eq h hinst hcurrent hkind).symm
  · rfl

end

theorem applyEntry_instances (instant : String) (entry : AdmissibleObservation)
    (h : (resolving.instances.map (·.obligationType)).Nodup) :
    (applyEntry instant resolving entry).instances =
      resolving.instances.map fun inst => observeOwn instant inst entry := by
  unfold applyEntry
  cases hfind : resolving.instanceOf entry.observation.obligationType with
  | none =>
    symm
    apply (map_congr_left ?_).trans (map_id _)
    intro inst hinst
    have hother := List.find?_eq_none.1 hfind inst hinst
    simp only [beq_iff_eq] at hother
    simp [observeOwn,hother]
  | some current =>
    have hcurrent := mem_of_find?_eq_some hfind
    have hown : current.obligationType = entry.observation.obligationType := by
      simpa using List.find?_some hfind
    dsimp only
    split_ifs with hrefused hstate
    · apply Resolving.kept_instances h hcurrent hown
      simp only [observe,if_pos hrefused,if_pos hstate]
    · apply Resolving.put_instances h hcurrent hown
      simp only [observe,if_pos hrefused,if_neg hstate]
    · cases hsteps : takeSteps instant (dischargeRecordFor entry) current
          (stepsFor entry.observation.outcome entry.source.verificationClass) with
      | none =>
        apply Resolving.kept_instances h hcurrent hown
        simp only [observe,if_neg hrefused,hsteps,Option.getD_none]
      | some next =>
        apply Resolving.put_instances h hcurrent hown
        simp only [observe,if_neg hrefused,hsteps,Option.getD_some]

theorem foldl_observeOwn_declaration (instant : String) (entries : List AdmissibleObservation)
    (inst : ObligationInstance) :
    SameDeclaration (entries.foldl (observeOwn instant) inst) inst :=
  (declaration_kept inst).foldl (.refl inst) entries

theorem foldl_applyEntry_instances (entries : List AdmissibleObservation)
    (h : (resolving.instances.map (·.obligationType)).Nodup) :
    (entries.foldl (applyEntry instant) resolving).instances =
      resolving.instances.map fun inst => entries.foldl (observeOwn instant) inst := by
  induction entries generalizing resolving with
  | nil => exact (map_id _).symm
  | cons entry entries ih =>
    have hinstances := applyEntry_instances instant entry h
    have hkinds : (applyEntry instant resolving entry).instances.map (·.obligationType) =
        resolving.instances.map (·.obligationType) := by
      rw [hinstances,map_map]
      apply map_congr_left
      intro inst _
      exact (observeOwn_declaration instant inst entry).obligationType
    rw [foldl_cons,ih (hkinds ▸ h),hinstances,map_map]
    rfl

theorem foldl_observeOwn_standing (instant : String) (entries : List AdmissibleObservation)
    (inst : ObligationInstance) :
    (entries.foldl (observeOwn instant) inst).standing =
      (entries.filter fun entry => entry.observation.obligationType = inst.obligationType).foldl
        Standing.advance inst.standing := by
  induction entries generalizing inst with
  | nil => rfl
  | cons entry entries ih =>
    have hkind := (observeOwn_declaration instant inst entry).obligationType
    rw [foldl_cons,ih,hkind]
    by_cases hown : inst.obligationType = entry.observation.obligationType
    · simp [observeOwn,hown,observe_standing]
    · simp [observeOwn,hown,Ne.symm hown]

theorem Standing.advance_satisfied {standing : Standing}
    (h : obligationStateSatisfies standing.state = true) (entry : AdmissibleObservation) :
    standing.advance entry = standing := by
  obtain ⟨state,discharge⟩ := standing
  unfold Standing.advance
  cases state <;> simp [obligationStateSatisfies] at h <;>
    cases entry.observation.outcome <;> cases entry.source.verificationClass <;> rfl

theorem Standing.foldl_advance_satisfied {standing : Standing}
    (h : obligationStateSatisfies standing.state = true) (entries : List AdmissibleObservation) :
    entries.foldl Standing.advance standing = standing := by
  induction entries with
  | nil => rfl
  | cons entry entries ih => rw [foldl_cons,standing.advance_satisfied h,ih]

theorem Standing.advance_state_ne_expired {standing : Standing} (h : standing.state ≠ .expired)
    (entry : AdmissibleObservation) : (standing.advance entry).state ≠ .expired := by
  unfold Standing.advance
  split <;> simp_all

theorem Standing.foldl_advance_state_ne_expired {standing : Standing} (h : standing.state ≠ .expired)
    (entries : List AdmissibleObservation) :
    (entries.foldl Standing.advance standing).state ≠ .expired := by
  induction entries generalizing standing with
  | nil => exact h
  | cons entry entries ih => exact ih (standing.advance_state_ne_expired h entry)

def AdmissibleObservation.isIndependentDischarge (entry : AdmissibleObservation) : Bool :=
  entry.observation.outcome = .discharged && entry.source.verificationClass = .independent

def AdmissibleObservation.isDecisive (entry : AdmissibleObservation) : Bool :=
  entry.observation.outcome = .discharged || entry.observation.outcome = .waived

/-- An independent source reported the discharge, or a waiver stands before every discharge. -/
def settled (entries : List AdmissibleObservation) : Bool :=
  entries.any AdmissibleObservation.isIndependentDischarge ||
    (entries.find? AdmissibleObservation.isDecisive).any fun entry =>
      entry.observation.outcome = .waived

/-- The state the reports lead to, from an obligation no report has discharged or waived. -/
def reportedState (entries : List AdmissibleObservation) (state : ObligationState) : ObligationState :=
  if (entries.find? AdmissibleObservation.isDecisive).any
      fun entry => entry.observation.outcome = .waived then .waived
  else if entries.any AdmissibleObservation.isIndependentDischarge then .verified
  else if entries.any AdmissibleObservation.isDecisive then .discharged
  else if entries.any fun entry => entry.observation.outcome = .pending then .pending
  else state

theorem state_of_discharged (entries : List AdmissibleObservation)
    (discharge : Option ObligationDischargeRecord) :
    (entries.foldl Standing.advance ⟨.discharged,discharge⟩).state =
      if entries.any AdmissibleObservation.isIndependentDischarge then .verified
      else .discharged := by
  induction entries generalizing discharge with
  | nil => rfl
  | cons entry entries ih =>
    rw [foldl_cons,any_cons]
    by_cases hentry : entry.isIndependentDischarge = true
    · have hadvance : Standing.advance ⟨.discharged,discharge⟩ entry =
          ⟨.verified,dischargeRecordFor entry⟩ := by
        simp only [AdmissibleObservation.isIndependentDischarge,Bool.and_eq_true,
          decide_eq_true_eq] at hentry
        simp [Standing.advance,hentry.1,hentry.2]
      rw [hadvance,Standing.foldl_advance_satisfied rfl,hentry]
      rfl
    · have hadvance : Standing.advance ⟨.discharged,discharge⟩ entry = ⟨.discharged,discharge⟩ := by
        unfold Standing.advance
        unfold AdmissibleObservation.isIndependentDischarge at hentry
        cases houtcome : entry.observation.outcome <;>
          cases hclass : entry.source.verificationClass <;> simp_all
      rw [hadvance,ih,Bool.eq_false_iff.2 hentry,Bool.false_or]

theorem state_of_open (entries : List AdmissibleObservation) {state : ObligationState}
    (hstate : state = .required ∨ state = .pending)
    (discharge : Option ObligationDischargeRecord) :
    (entries.foldl Standing.advance ⟨state,discharge⟩).state = reportedState entries state := by
  induction entries generalizing state discharge with
  | nil => rfl
  | cons entry entries ih =>
    rw [foldl_cons]
    cases houtcome : entry.observation.outcome with
    | pending =>
      have hadvance : Standing.advance ⟨state,discharge⟩ entry = ⟨.pending,discharge⟩ := by
        rcases hstate with rfl | rfl <;> simp [Standing.advance,houtcome]
      rw [hadvance,ih (.inr rfl)]
      simp [reportedState,AdmissibleObservation.isIndependentDischarge,
        AdmissibleObservation.isDecisive,houtcome]
    | refused =>
      have hadvance : Standing.advance ⟨state,discharge⟩ entry = ⟨state,discharge⟩ := by
        simp [Standing.advance,houtcome]
      rw [hadvance,ih hstate]
      simp [reportedState,AdmissibleObservation.isIndependentDischarge,
        AdmissibleObservation.isDecisive,houtcome]
    | waived =>
      have hadvance : Standing.advance ⟨state,discharge⟩ entry = ⟨.waived,dischargeRecordFor entry⟩ := by
        rcases hstate with rfl | rfl <;> simp [Standing.advance,houtcome]
      rw [hadvance,Standing.foldl_advance_satisfied rfl]
      simp [reportedState,AdmissibleObservation.isDecisive,houtcome]
    | discharged =>
      cases hclass : entry.source.verificationClass with
      | independent =>
        have hadvance : Standing.advance ⟨state,discharge⟩ entry =
            ⟨.verified,dischargeRecordFor entry⟩ := by
          rcases hstate with rfl | rfl <;> simp [Standing.advance,houtcome,hclass]
        rw [hadvance,Standing.foldl_advance_satisfied rfl]
        simp [reportedState,AdmissibleObservation.isIndependentDischarge,
          AdmissibleObservation.isDecisive,houtcome,hclass]
      | selfReported =>
        have hadvance : Standing.advance ⟨state,discharge⟩ entry =
            ⟨.discharged,dischargeRecordFor entry⟩ := by
          rcases hstate with rfl | rfl <;> simp [Standing.advance,houtcome,hclass]
        rw [hadvance,state_of_discharged]
        simp [reportedState,AdmissibleObservation.isIndependentDischarge,
          AdmissibleObservation.isDecisive,houtcome,hclass]

theorem satisfied_reportedState (entries : List AdmissibleObservation) {state : ObligationState}
    (hstate : state = .required ∨ state = .pending) :
    obligationStateSatisfies (reportedState entries state) = settled entries := by
  unfold reportedState settled
  split_ifs with hwaived hverified hdischarged hpending
  · simp [hwaived,obligationStateSatisfies]
  · simp [hverified,obligationStateSatisfies]
  all_goals simp only [Bool.not_eq_true] at hwaived hverified; rw [hwaived,hverified]
  · rfl
  · rfl
  · rcases hstate with rfl | rfl <;> rfl

theorem applyExpiry_declaration (P : Platform) (instant : String) (inst : ObligationInstance) :
    SameDeclaration (applyExpiry P instant inst) inst :=
  (declaration_kept inst).applyExpiry P (.refl inst)

def ObligationInstance.isPastDeadline (P : Platform) (instant : String) (inst : ObligationInstance) :
    Bool :=
  inst.expiresAt.any fun expiresAt => isObligationExpiredAt P expiresAt instant

theorem applyExpiry_cases (P : Platform) (instant : String) (inst : ObligationInstance) :
    (inst.isPastDeadline P instant = true ∧ isLegalObligationTransition inst.state .expired = true ∧
        (applyExpiry P instant inst).state = .expired) ∨
      (¬(inst.isPastDeadline P instant = true ∧ isLegalObligationTransition inst.state .expired = true) ∧
        applyExpiry P instant inst = inst) := by
  unfold applyExpiry ObligationInstance.isPastDeadline
  cases inst.expiresAt with
  | none => exact .inr ⟨by simp,rfl⟩
  | some expiresAt =>
    dsimp only
    split_ifs with hpassed hlegal
    · exact .inr ⟨by simp_all,rfl⟩
    · exact .inr ⟨by simp_all,rfl⟩
    · simp only [Bool.not_eq_eq_eq_not,Bool.not_true,Bool.not_eq_false] at hpassed hlegal
      refine .inl ⟨hpassed,hlegal,?_⟩
      cases hstate : inst.state <;>
        simp [hstate,isLegalObligationTransition,ObligationState.transitions] at hlegal <;>
        simp [transitionObligation,transitionObligation.step,obligationProgressRank,hstate,
          isLegalObligationTransition,ObligationState.transitions]

theorem applyExpiry_of_satisfied (P : Platform) (instant : String) {inst : ObligationInstance}
    (h : obligationStateSatisfies inst.state = true) : applyExpiry P instant inst = inst := by
  rcases applyExpiry_cases P instant inst with ⟨_,hlegal,_⟩ | ⟨_,hkept⟩
  · cases hstate : inst.state <;>
      simp [hstate,obligationStateSatisfies,isLegalObligationTransition,
        ObligationState.transitions] at h hlegal
  · exact hkept

theorem satisfied_of_applyExpiry {inst : ObligationInstance}
    (h : obligationStateSatisfies (applyExpiry P instant inst).state = true) :
    applyExpiry P instant inst = inst := by
  rcases applyExpiry_cases P instant inst with ⟨_,_,hexpired⟩ | ⟨_,hkept⟩
  · rw [hexpired] at h
    cases h
  · exact hkept

theorem applyExpiry_state_eq_expired_iff {inst : ObligationInstance} (h : inst.state ≠ .expired) :
    (applyExpiry P instant inst).state = .expired ↔
      inst.isPastDeadline P instant = true ∧ obligationStateSatisfies inst.state = false := by
  have hlegal : isLegalObligationTransition inst.state .expired = true ↔
      obligationStateSatisfies inst.state = false := by
    cases hstate : inst.state <;>
      simp [hstate,isLegalObligationTransition,ObligationState.transitions, obligationStateSatisfies] at h ⊢
  rw [← hlegal]
  rcases applyExpiry_cases P instant inst with ⟨hpassed,hopen,hexpired⟩ | ⟨hnot,hkept⟩
  · exact ⟨fun _ => ⟨hpassed,hopen⟩,fun _ => hexpired⟩
  · rw [hkept]
    exact ⟨fun heq => absurd heq h,fun hboth => absurd hboth hnot⟩

def ObligationResolution.obligation (resolution : ObligationResolution) (obligationType : String) :
    Option ObligationInstance :=
  resolution.obligations.find? fun inst => inst.obligationType == obligationType

namespace ObligationLifecycleService

variable {P : Platform} (service : ObligationLifecycleService P)

theorem declaredTypes_nodup : service.declaredTypes.Nodup := by
  have hvalid := service.declaration_valid
  simp only [isValidObligationDeclaration,Bool.and_eq_true,decide_eq_true_eq] at hvalid
  have htypes : (service.requirements.map (·.obligationType)).Nodup := by
    apply List.Nodup.of_map Text.lowerCaseIdentifier
    rw [map_map]
    exact hvalid.2
  exact ((perm_insertionSort _ service.requirements).map _).nodup_iff.2 htypes

/-- An obligation after the observations, before its deadline is read. -/
def resolved (observations : List ObligationDischargeObservation)
    (correlation : ObligationCorrelation) (instant : String) (requirement : ObligationRequirement) :
    ObligationInstance :=
  (service.admissible correlation observations).foldl (observeOwn instant)
    (declareObligation requirement correlation instant)

theorem resolve_obligations (observations : List ObligationDischargeObservation)
    (correlation : ObligationCorrelation) (instant : String) :
    (service.resolve observations correlation instant).obligations =
      service.declaredRequirements.map fun requirement =>
        applyExpiry P instant (service.resolved observations correlation instant requirement) := by
  have hnodup : ((service.declare correlation instant).map (·.obligationType)).Nodup := by
    have hkinds := service.declaredTypes_nodup
    unfold declare declaredTypes at *
    rwa [map_map]
  unfold resolve
  simp only
  rw [foldl_applyEntry_instances _ hnodup,declare,map_map,map_map]
  rfl

/-- The reports of an obligation that may count, in the lifecycle's order. -/
def reportsOf (rows : List ObligationDischargeContent) (correlation : ObligationCorrelation)
    (obligationType : String) : List AdmissibleObservation :=
  (service.admissible correlation (service.dischargesOf rows correlation)).filter fun entry =>
    entry.observation.obligationType = obligationType

/-- An obligation before its deadline is read. -/
def observed (rows : List ObligationDischargeContent) (correlation : ObligationCorrelation)
    (instant : String) (requirement : ObligationRequirement) : ObligationInstance :=
  (service.admissible correlation (service.dischargesOf rows correlation)).foldl (observeOwn instant)
    (declareObligation requirement correlation instant)

theorem observed_declaration (rows : List ObligationDischargeContent)
    (correlation : ObligationCorrelation) (instant : String) (requirement : ObligationRequirement) :
    SameDeclaration (service.observed rows correlation instant requirement)
      (declareObligation requirement correlation instant) :=
  foldl_observeOwn_declaration instant _ _

theorem observed_standing (rows : List ObligationDischargeContent)
    (correlation : ObligationCorrelation) (instant : String) (requirement : ObligationRequirement) :
    (service.observed rows correlation instant requirement).standing =
      (service.reportsOf rows correlation requirement.obligationType).foldl Standing.advance
        ⟨.required,none⟩ :=
  foldl_observeOwn_standing instant _ _

theorem resolveStored_obligation (rows : List ObligationDischargeContent)
    (correlation : ObligationCorrelation) (instant obligationType : String) :
    (service.resolveStored rows correlation instant).obligation obligationType =
      (service.declaredRequirements.find? fun requirement =>
        requirement.obligationType == obligationType).map fun requirement =>
          applyExpiry P instant (service.observed rows correlation instant requirement) := by
  unfold ObligationResolution.obligation resolveStored
  rw [service.resolve_obligations,List.find?_map]
  have hkind : ∀ requirement : ObligationRequirement,
      (applyExpiry P instant (service.observed rows correlation instant requirement)).obligationType =
        requirement.obligationType := fun requirement =>
    ((applyExpiry_declaration P instant _).trans
      (service.observed_declaration rows correlation instant requirement)).obligationType
  congr 1
  congr 1
  funext requirement
  exact congrArg (· == obligationType) (hkind requirement)

end ObligationLifecycleService

end Frontera.Obligation
