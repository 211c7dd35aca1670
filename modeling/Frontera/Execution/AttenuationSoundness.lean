import Frontera.Execution.Assessment
import Frontera.ExerciseControl.Reservation

/-! What `attenuateGrantScope` derives admits no attempt its source refuses, and derives the
source's own reading when nothing is narrowed. The argument goes axis by axis, by the order of
bounds, and dimension by dimension, where both lists name the same dimensions once each. -/

namespace Frontera.Execution

open Frontera.ExerciseControl Frontera.Grant Frontera.Monetary List

variable {P : Platform}

variable {attempted : Option GrantBound} {source requested : GrantParameterBounds}
  {dimension : String}

theorem axisAgrees_of_permits {source bound : GrantBound}
    (h : (compareGrantBound P source bound).permits = true)
    (hagrees : axisAgrees P (some bound) attempted = true) :
    axisAgrees P (some source) attempted = true := by
  cases attempted with
  | none => cases hagrees
  | some attempted => exact permits_trans h hagrees

theorem axisAgrees_canonical {bound : Option GrantBound} :
    axisAgrees P (bound.map canonicalGrantBound) attempted = axisAgrees P bound attempted := by
  cases bound with
  | none => rfl
  | some bound =>
    cases attempted with
    | none => rfl
    | some attempted => exact permits_canonical

theorem attenuateAxis_derived {source requested : GrantScope} {key : GrantBoundKey}
    (h : (attenuateAxis P source requested key).violation = none) :
    (grantScopeBound source key = none ∧ (attenuateAxis P source requested key).derived = none) ∨
      ∃ sourceBound derived, grantScopeBound source key = some sourceBound ∧
        (attenuateAxis P source requested key).derived = some derived ∧
        (compareGrantBound P sourceBound derived).permits = true ∧
        (grantScopeBound requested key = none → derived = sourceBound) := by
  unfold attenuateAxis at h ⊢
  cases hrequested : grantScopeBound requested key with
  | none =>
    cases hsource : grantScopeBound source key with
    | none => exact .inl ⟨rfl,rfl⟩
    | some sourceBound =>
      simp only [hrequested,hsource] at h ⊢
      by_cases hmalformed : (!isWellFormedGrantBound P sourceBound ||
          decide (sourceBound.kind ≠ grantBoundKindsByKey key)) = true
      · rw [if_pos hmalformed] at h
        cases h
      · rw [if_neg hmalformed]
        have hwell : isWellFormedGrantBound P sourceBound = true := by
          simp only [Bool.or_eq_true,Bool.not_eq_true',not_or,Bool.not_eq_false] at hmalformed
          exact hmalformed.1
        exact .inr ⟨sourceBound,sourceBound,rfl,rfl,permits_self hwell,fun _ => rfl⟩
  | some requestedBound =>
    cases hsource : grantScopeBound source key with
    | none =>
      simp only [hrequested,hsource] at h
      cases h
    | some sourceBound =>
      simp only [hrequested,hsource] at h ⊢
      split_ifs at h ⊢ with hkind
      · cases h
      · unfold AttenuationStep.compare at h ⊢
        split_ifs at h ⊢ with hpermits
        · exact .inr ⟨sourceBound,requestedBound,rfl,rfl,hpermits,by simp⟩
        · cases h

/-- The bounds of a derived list stand under those of the source, dimension by
dimension. -/
structure ParametersNarrow (source derived : GrantParameterBounds) : Prop where
  length_eq : derived.length = source.length
  within : ∀ dimension entry, grantParameterBound derived dimension = some entry →
    ∃ sourceEntry, grantParameterBound source dimension = some sourceEntry ∧
      ∀ value, governedParameterBoundAdmits entry.bound value = true →
        governedParameterBoundAdmits sourceEntry.bound value = true

theorem ParametersNarrow.agrees {derived : GrantParameterBounds}
    (h : ParametersNarrow source derived) {attempted : Option (List GovernedParameter)}
    (hagrees : parametersAgree (some derived) attempted = true) :
    parametersAgree (some source) attempted = true := by
  cases attempted with
  | none => cases hagrees
  | some attempted =>
    simp only [parametersAgree,Bool.and_eq_true,beq_iff_eq,all_eq_true] at hagrees ⊢
    refine ⟨hagrees.1.trans h.length_eq,fun parameter hparameter => ?_⟩
    have hadmitted := hagrees.2 parameter hparameter
    cases hfound : grantParameterBound derived parameter.dimension with
    | none => simp [hfound] at hadmitted
    | some entry =>
      obtain ⟨sourceEntry,hsource,hadmits⟩ := h.within _ _ hfound
      simp only [hfound] at hadmitted
      simp only [hsource]
      exact hadmits _ hadmitted

theorem attenuateDimension_derived (hnamed : dimension ∈ (source ++ requested).map (·.dimension))
    (h : (attenuateDimension source requested dimension).violation = none) :
    ∃ sourceEntry entry, grantParameterBound source dimension = some sourceEntry ∧
      (attenuateDimension source requested dimension).derived = some entry ∧
      entry.dimension = dimension ∧ (entry = sourceEntry ∨
        (compareGovernedParameterBound sourceEntry.bound entry.bound).permits = true) ∧
      (grantParameterBound requested dimension = none → entry = sourceEntry) := by
  unfold attenuateDimension at h ⊢
  cases hrequested : grantParameterBound requested dimension with
  | none =>
    cases hsource : grantParameterBound source dimension with
    | none =>
      have hmem : dimension ∈ source.map (·.dimension) ∨ dimension ∈ requested.map (·.dimension) := by
        rw [← mem_append,← map_append]
        exact hnamed
      rw [← grantParameterBound_isSome,← grantParameterBound_isSome,hsource,hrequested] at hmem
      simp at hmem
    | some sourceEntry =>
      exact ⟨sourceEntry,sourceEntry,rfl,rfl,(grantParameterBound_dimension hsource).2,
        .inl rfl,fun _ => rfl⟩
  | some requestedEntry =>
    cases hsource : grantParameterBound source dimension with
    | none =>
      simp only [hrequested,hsource] at h
      cases h
    | some sourceEntry =>
      simp only [hrequested,hsource] at h ⊢
      unfold AttenuationStep.compare at h ⊢
      split_ifs at h ⊢ with hpermits
      · exact ⟨sourceEntry,requestedEntry,rfl,rfl,
          (grantParameterBound_dimension hrequested).2,.inr hpermits,by simp⟩
      · cases h

theorem mem_attenuatedDimensions : dimension ∈ attenuatedDimensions source requested ↔
      dimension ∈ (source ++ requested).map (·.dimension) := by
  rw [attenuatedDimensions,mem_insertionSort,mem_dedup]

theorem attenuatedDimensions_nodup (source requested : GrantParameterBounds) :
    (attenuatedDimensions source requested).Nodup :=
  (perm_insertionSort _ _).nodup_iff.2 (nodup_dedup _)

theorem map_filterMap_eq {α β : Type} {f : α → Option β} {g : β → α} {l : List α}
    (h : ∀ a ∈ l, ∃ b, f a = some b ∧ g b = a) : (l.filterMap f).map g = l := by
  induction l with
  | nil => rfl
  | cons a l ih =>
    obtain ⟨b,hb,hg⟩ := h a (by simp)
    rw [filterMap_cons_some hb,map_cons,hg,ih fun a' ha' => h a' (by simp [ha'])]

theorem mem_canonicalGrantParameterBounds {parameters : GrantParameterBounds}
    {entry : GrantParameterBound} :
    entry ∈ canonicalGrantParameterBounds parameters ↔ entry ∈ parameters :=
  mem_insertionSort _

theorem parametersNarrow_derived (hwell : isWellFormedGrantParameterBounds source = true)
    (h : ∀ dimension ∈ attenuatedDimensions source requested, (attenuateDimension source requested dimension).violation = none) :
    ParametersNarrow source (canonicalGrantParameterBounds
        ((attenuatedDimensions source requested).filterMap fun dimension =>
          (attenuateDimension source requested dimension).derived)) ∧
      (requested = [] → ParametersNarrow (canonicalGrantParameterBounds
        ((attenuatedDimensions source requested).filterMap fun dimension =>
          (attenuateDimension source requested dimension).derived)) source) := by
  set dimensions := attenuatedDimensions source requested with hdimensions
  set derived := dimensions.filterMap fun dimension =>
    (attenuateDimension source requested dimension).derived with hderived
  obtain ⟨-,hnodup,-⟩ := wellFormed_parameters hwell
  have hspec := fun dimension (hmem : dimension ∈ dimensions) =>
    attenuateDimension_derived (mem_attenuatedDimensions.1 hmem) (h dimension hmem)
  have hnames : derived.map (·.dimension) = dimensions := by
    refine map_filterMap_eq fun dimension hmem => ?_
    obtain ⟨-,entry,-,hentry,hdimension,-⟩ := hspec dimension hmem
    exact ⟨entry,hentry,hdimension⟩
  -- both lists name the dimensions of the source, each once
  have hsame : ∀ dimension, dimension ∈ dimensions ↔ dimension ∈ source.map (·.dimension) := by
    intro dimension
    constructor
    · intro hmem
      obtain ⟨sourceEntry,-,hsource,-⟩ := hspec dimension hmem
      rw [← grantParameterBound_isSome,hsource]
      rfl
    · intro hmem
      rw [mem_attenuatedDimensions,map_append]
      exact mem_append_left _ hmem
  have hlength : (canonicalGrantParameterBounds derived).length = source.length := by
    have hperm : dimensions.Perm (source.map (·.dimension)) :=
      (perm_ext_iff_of_nodup (attenuatedDimensions_nodup _ _) hnodup).2 hsame
    rw [canonicalGrantParameterBounds,length_insertionSort,
      ← length_map (·.dimension),hnames,hperm.length_eq,length_map]
  have hentries : ∀ entry ∈ derived, ∃ sourceEntry,
      grantParameterBound source entry.dimension = some sourceEntry ∧ (entry = sourceEntry ∨
          (compareGovernedParameterBound sourceEntry.bound entry.bound).permits = true) := by
    intro entry hentry
    obtain ⟨dimension,hmem,hsome⟩ := mem_filterMap.1 hentry
    obtain ⟨sourceEntry,entry',hsource,hentry',hdimension,hcases,-⟩ := hspec dimension hmem
    obtain rfl : entry = entry' := by simpa [hsome] using hentry'
    rw [hdimension]
    exact ⟨sourceEntry,hsource,hcases⟩
  refine ⟨⟨hlength,?_⟩,?_⟩
  · intro dimension entry hfound
    obtain ⟨hmem,rfl⟩ := grantParameterBound_dimension hfound
    obtain ⟨sourceEntry,hsource,hcases⟩ :=
      hentries entry (mem_canonicalGrantParameterBounds.1 hmem)
    refine ⟨sourceEntry,hsource,fun value hvalue => ?_⟩
    rcases hcases with rfl | hpermits
    · exact hvalue
    · exact governedParameterBoundAdmits_of_permits hpermits hvalue
  · rintro rfl
    refine ⟨hlength.symm,fun dimension sourceEntry hsource => ?_⟩
    have hmem : dimension ∈ dimensions := by
      rw [hsame,← grantParameterBound_isSome,hsource]
      rfl
    obtain ⟨sourceEntry',entry,hsource',hentry,hdimension,-,hinherits⟩ := hspec dimension hmem
    obtain rfl : sourceEntry = sourceEntry' := by simpa [hsource] using hsource'
    obtain rfl := hinherits rfl
    have hderivedMem : entry ∈ canonicalGrantParameterBounds derived :=
      mem_canonicalGrantParameterBounds.2 (mem_filterMap.2 ⟨dimension,hmem,hentry⟩)
    have hnodup' : ((canonicalGrantParameterBounds derived).map (·.dimension)).Nodup := by
      have hperm := (perm_insertionSort (fun a b : GrantParameterBound =>
        stringLt b.dimension a.dimension = false) derived).map (·.dimension)
      rw [canonicalGrantParameterBounds,hperm.nodup_iff,hnames]
      exact attenuatedDimensions_nodup _ _
    have hfound := grantParameterBound_of_mem hnodup' hderivedMem
    rw [hdimension] at hfound
    exact ⟨entry,hfound,fun _ hvalue => hvalue⟩

theorem attenuateParameterBounds_derived {source requested : Option GrantParameterBounds}
    (h : ∀ step ∈ attenuateParameterBounds source requested, step.violation = none) :
    (source = none ∧ derivedParameters (attenuateParameterBounds source requested) = none) ∨
      ∃ list derived, source = some list ∧
        derivedParameters (attenuateParameterBounds source requested) = some derived ∧
        ParametersNarrow list (canonicalGrantParameterBounds derived) ∧
        (requested = none → ParametersNarrow (canonicalGrantParameterBounds derived) list) := by
  unfold attenuateParameterBounds at h ⊢
  by_cases hnone : (source.isNone && requested.isNone) = true
  · rw [if_pos hnone]
    rw [Bool.and_eq_true,Option.isNone_iff_eq_none] at hnone
    exact .inl ⟨hnone.1,rfl⟩
  · rw [if_neg hnone] at h ⊢
    by_cases hmalformed : ((source.any fun list => !isWellFormedGrantParameterBounds list) ||
        (requested.any fun list => !isWellFormedGrantParameterBounds list)) = true
    · rw [if_pos hmalformed] at h
      simpa [AttenuationStep.refuse] using h _ (mem_singleton.2 rfl)
    · rw [if_neg hmalformed] at h ⊢
      have hsteps : ∀ dimension ∈ attenuatedDimensions (source.getD []) (requested.getD []),
          (attenuateDimension (source.getD []) (requested.getD []) dimension).violation = none :=
        fun dimension hmem => h _ (mem_map_of_mem hmem)
      cases source with
      | none =>
        -- a requested dimension finds no source bound
        cases requested with
        | none => simp at hnone
        | some requested =>
          have hwell : isWellFormedGrantParameterBounds requested = true := by
            simpa using hmalformed
          obtain ⟨entry,hentry⟩ :=
            exists_mem_of_ne_nil _ (wellFormed_parameters hwell).1
          have hmem : entry.dimension ∈ ([] ++ requested : GrantParameterBounds).map (·.dimension) :=
            mem_map_of_mem hentry
          obtain ⟨sourceEntry,-,hsource,-⟩ := attenuateDimension_derived hmem
            (hsteps _ (mem_attenuatedDimensions.2 hmem))
          cases hsource
      | some list =>
        have hwell : isWellFormedGrantParameterBounds list = true := by
          simp only [Option.any_some,Bool.or_eq_true,Bool.not_eq_true',not_or,
            Bool.not_eq_false] at hmalformed
          exact hmalformed.1
        obtain ⟨hnarrow,hsame⟩ := parametersNarrow_derived hwell hsteps
        set derived := (attenuatedDimensions list (requested.getD [])).filterMap fun dimension =>
          (attenuateDimension list (requested.getD []) dimension).derived with hderived
        have hne : derived ≠ [] := by
          intro hempty
          have hlength : (canonicalGrantParameterBounds derived).length = list.length :=
            hnarrow.length_eq
          rw [hempty] at hlength
          exact (wellFormed_parameters hwell).1 (length_eq_zero_iff.1 hlength.symm)
        refine .inr ⟨list,derived,rfl,?_,hnarrow,?_⟩
        · simp only [derivedParameters,Option.getD_some,filterMap_map]
          rw [if_neg]
          · rfl
          · rw [List.isEmpty_iff]
            exact hne
        · rintro rfl
          exact hsame rfl

/-- Every attempt a derived scope admits is one its source admits, and with nothing
narrowed the two admit the same. -/
theorem attenuateGrantScope_sound (P : Platform) (source requested scope : GrantScope)
    (bounds : List GrantBoundAttenuation)
    (h : attenuateGrantScope P source requested = .attenuated scope bounds) :
    (∀ request, scopeAdmits P scope request → scopeAdmits P source request) ∧
      (requested = {} → ∀ request, scopeAdmits P scope request ↔ scopeAdmits P source request) := by
  simp only [attenuateGrantScope] at h
  split_ifs at h with hviolations
  simp only [GrantAttenuationOutcome.attenuated.injEq] at h
  obtain ⟨rfl,-⟩ := h
  simp only [Bool.not_eq_true',Bool.not_eq_false,List.isEmpty_iff,append_eq_nil_iff,
    filterMap_eq_nil_iff] at hviolations
  have haxes := fun key => attenuateAxis_derived
    (hviolations.1 _ (mem_map_of_mem (mem_grantBoundKeys key)))
  have hparameters := attenuateParameterBounds_derived hviolations.2
  refine ⟨fun request hadmits => ?_,?_⟩
  · rw [scopeAdmits_iff] at hadmits ⊢
    refine ⟨fun key => ?_,?_⟩
    · have hagrees := hadmits.1 key
      rw [grantScopeBound_canonical,axisAgrees_canonical,grantScopeBound_ofBounds] at hagrees
      rcases haxes key with ⟨hsource,hderived⟩ | ⟨bound,derived,hsource,hderived,hpermits,-⟩
      · rw [hsource,← hderived]
        exact hagrees
      · rw [hderived] at hagrees
        rw [hsource]
        exact axisAgrees_of_permits hpermits hagrees
    · have hagrees := hadmits.2
      rw [parameters_canonical,parameters_ofBounds] at hagrees
      rcases hparameters with ⟨hsource,hderived⟩ | ⟨list,derived,hsource,hderived,hnarrow,-⟩
      · rw [hderived] at hagrees
        rw [hsource]
        exact hagrees
      · rw [hderived] at hagrees
        rw [hsource]
        exact hnarrow.agrees hagrees
  · rintro rfl request
    have hnothing : ∀ key, grantScopeBound {} key = none := by
      intro key
      cases key <;> rfl
    rw [scopeAdmits_iff,scopeAdmits_iff,parameters_canonical,parameters_ofBounds]
    refine and_congr (forall_congr' fun key => ?_) ?_
    · rw [grantScopeBound_canonical,axisAgrees_canonical,grantScopeBound_ofBounds]
      rcases haxes key with ⟨hsource,hderived⟩ | ⟨bound,derived,hsource,hderived,-,hsame⟩
      · rw [hsource,hderived]
      · rw [hsource,hderived,hsame (hnothing key)]
    · rcases hparameters with ⟨hsource,hderived⟩ | ⟨list,derived,hsource,hderived,hnarrow,hsame⟩
      · rw [hderived,hsource]
        rfl
      · rw [hderived,hsource]
        exact ⟨hnarrow.agrees,(hsame rfl).agrees⟩

def sampleNarrowing : RequestedGrantBounds where
  amount := some (.ceiling "40.5" "USD")
  resources := some (.set ["invoice-1"])

def sampleNarrowed : GrantScope where
  action := some (.identity "payment.execute")
  amount := some (.ceiling "40.5" "USD")
  resources := some (.set ["invoice-1"])

def sampleAttempt : GrantExerciseRequest where
  boundedGrantId := "grant-1"
  subject := "agent-1"
  action := "payment.execute"
  resource := "invoice-1"
  amount := some ⟨"40.5","USD"⟩
  correlation := sampleCorrelation
  executionId := "exec-1"

theorem attenuateGrantScope_sound_sample :
    (∃ bounds, attenuateGrantScope samplePlatform sampleScope sampleNarrowing =
        .attenuated sampleNarrowed bounds) ∧
      scopeAdmits samplePlatform sampleNarrowed sampleAttempt ∧
      scopeAdmits samplePlatform sampleScope sampleAttempt := by
  have hattenuated : attenuateGrantScope samplePlatform sampleScope sampleNarrowing =
      .attenuated sampleNarrowed
        [⟨.axis .action,.equal,false,true⟩, ⟨.axis .amount,.narrower,true,true⟩,
          ⟨.axis .resources,.narrower,true,true⟩] := by decide
  have hadmits : scopeReasonCodes samplePlatform sampleNarrowed sampleAttempt = [] := by
    decide
  exact ⟨⟨_,hattenuated⟩,hadmits,(attenuateGrantScope_sound samplePlatform sampleScope
    sampleNarrowing sampleNarrowed _ hattenuated).1 sampleAttempt hadmits⟩

end Frontera.Execution
