import Frontera.Execution.AttenuationSoundness

/-! `grantScopeIsWithin` passes an axis the child omits. The exercise-time checks do not read an
omitted axis as a narrower one: an attempt that leaves the axis unstated is inside the child and
outside a parent that bounds it. Containment therefore implies containment of the admitted attempts
exactly when the child, if it can be exercised at all, states every axis its parent states. -/

namespace Frontera.Execution

open Frontera.Grant Frontera.Monetary List Option Bool

variable {P : Platform}

/-- The scope states the two axes every attempt states, and each axis in its own shape. -/
structure WellShaped (scope : GrantScope) : Prop where
  action : scope.action.isSome = true
  resources : scope.resources.isSome = true
  kinds : ∀ key bound, grantScopeBound scope key = some bound → bound.kind = grantBoundKindsByKey key

/-- The child states every axis the parent states. -/
def StatesAxesOf (parent child : GrantScope) : Prop :=
  ∀ key, (grantScopeBound parent key).isSome = true → (grantScopeBound child key).isSome = true

theorem covers_kind {source child : GrantBound} (h : source.Covers P child) : source.kind = child.kind := by
  cases source <;> cases child <;> first | rfl | exact h.elim

variable {request : GrantExerciseRequest} {bound : GrantBound}

theorem attemptedBound_kind {key : GrantBoundKey} (h : attemptedBound request key = some bound) :
    bound.kind = grantBoundKindsByKey key := by
  cases key <;> simp only [attemptedBound,some.injEq,map_eq_some_iff] at h
  case action => rw [← h]; rfl
  case resources => rw [← h]; rfl
  all_goals
    obtain ⟨value,-,rfl⟩ := h
    rfl

theorem wellShaped_of_admits {scope : GrantScope} (h : scopeAdmits P scope request) : WellShaped scope := by
  obtain ⟨haxes,-⟩ := scopeAdmits_iff.1 h
  have hstated : ∀ key, (attemptedBound request key).isSome = true →
      (grantScopeBound scope key).isSome = true := by
    intro key hattempted
    have hagrees := haxes key
    cases hbound : grantScopeBound scope key with
    | some bound => rfl
    | none =>
      obtain ⟨attempted,hattempted⟩ := isSome_iff_exists.1 hattempted
      rw [hbound,hattempted] at hagrees
      cases hagrees
  refine ⟨hstated .action rfl,hstated .resources rfl,fun key bound hbound => ?_⟩
  have hagrees := haxes key
  rw [hbound] at hagrees
  cases hattempted : attemptedBound request key with
  | none =>
    rw [hattempted] at hagrees
    cases hagrees
  | some attempted =>
    rw [hattempted] at hagrees
    have hcovers := (compareGrantBound_permits_iff.1 hagrees).2.2
    rw [covers_kind hcovers]
    exact attemptedBound_kind hattempted

def identityOf : Option GrantBound → Option String
  | some (.identity value) => some value
  | _ => none

def memberOf : Option GrantBound → String
  | some (.set (value :: _)) => value
  | _ => ""

def quantityOf : Option GrantBound → Option MonetaryAmount
  | some (.ceiling limit unit) => some ⟨limit,unit⟩
  | _ => none

/-- The attempt that states what a scope states, and nothing else. -/
def attemptOf (scope : GrantScope) (boundedGrantId subject executionId : String)
    (correlation : GrantCorrelation) : GrantExerciseRequest where
  boundedGrantId := boundedGrantId
  subject := subject
  action := (identityOf scope.action).getD ""
  resource := memberOf scope.resources
  counterparty := identityOf scope.counterparty
  organization := identityOf scope.organization
  amount := quantityOf scope.amount
  governanceProfile := identityOf scope.governanceProfile
  actionClass := identityOf scope.actionClass
  resourceClass := identityOf scope.resourceClass
  parameters := scope.parameters.map fun list =>
    list.map fun entry => ⟨entry.dimension,entry.bound.largest⟩
  correlation := correlation
  executionId := executionId

/-- What the attempt needs of the scope it fills. -/
structure Fillable (P : Platform) (scope : GrantScope) : Prop extends WellShaped scope where
  bounds : ∀ key bound, grantScopeBound scope key = some bound → isWellFormedGrantBound P bound = true
  parameters : ∀ list, scope.parameters = some list → isWellFormedGrantParameterBounds list = true

theorem identity_of_kind (h : bound.kind = .identity) : ∃ value, bound = .identity value := by
  cases bound <;> first | exact ⟨_,rfl⟩ | cases h

theorem set_of_kind (h : bound.kind = .set) : ∃ values, bound = .set values := by
  cases bound <;> first | exact ⟨_,rfl⟩ | cases h

theorem ceiling_of_kind (h : bound.kind = .ceiling) : ∃ limit unit, bound = .ceiling limit unit := by
  cases bound <;> first | exact ⟨_,_,rfl⟩ | cases h

variable {scope : GrantScope} {boundedGrantId subject executionId : String}
  {correlation : GrantCorrelation}

theorem identityOf_agrees {bound : Option GrantBound}
    (hkind : ∀ b, bound = some b → b.kind = .identity)
    (hwell : ∀ b, bound = some b → isWellFormedGrantBound P b = true) :
    axisAgrees P bound ((identityOf bound).map .identity) = true ∧
      ∀ value, identityOf bound = some value → value ≠ "" := by
  cases bound with
  | none => exact ⟨rfl,by simp [identityOf]⟩
  | some b =>
    obtain ⟨value,rfl⟩ := identity_of_kind (hkind b rfl)
    have hvalue := hwell _ rfl
    refine ⟨permits_self hvalue,fun v hv => ?_⟩
    obtain rfl : value = v := by simpa [identityOf] using hv
    simpa [isWellFormedGrantBound] using hvalue

theorem scopeAdmits_attemptOf (h : Fillable P scope) :
    scopeAdmits P scope (attemptOf scope boundedGrantId subject executionId correlation) := by
  have hidentity : ∀ key, grantBoundKindsByKey key = .identity → axisAgrees P (grantScopeBound scope key)
        ((identityOf (grantScopeBound scope key)).map .identity) = true := by
    intro key hkey
    refine (identityOf_agrees (fun b hb => ?_) (h.bounds key)).1
    rw [h.kinds key b hb,hkey]
  refine scopeAdmits_iff.2 ⟨fun key => ?_,?_⟩
  · cases key with
    | action =>
      have hagrees := hidentity .action rfl
      obtain ⟨bound,hbound⟩ := isSome_iff_exists.1 h.action
      obtain ⟨value,rfl⟩ := identity_of_kind (h.kinds .action bound hbound)
      simp only [grantScopeBound,hbound,identityOf,attemptedBound,attemptOf, getD_some] at hagrees ⊢
      exact hagrees
    | resources =>
      obtain ⟨bound,hbound⟩ := isSome_iff_exists.1 h.resources
      obtain ⟨values,rfl⟩ := set_of_kind (h.kinds .resources bound hbound)
      have hwell := h.bounds .resources _ hbound
      cases values with
      | nil => simp [isWellFormedGrantBound] at hwell
      | cons value rest =>
        simp only [grantScopeBound,hbound,attemptedBound,attemptOf,memberOf]
        refine compareGrantBound_permits_iff.2 ⟨hwell,?_,?_⟩
        · simp only [isWellFormedGrantBound,all_cons,and_eq_true] at hwell
          simp [isWellFormedGrantBound,hwell.2.1]
        · intro v hv
          rw [mem_singleton.1 hv]
          exact mem_cons_self
    | amount =>
      cases hbound : scope.amount with
      | none => simp [grantScopeBound,attemptedBound,attemptOf,quantityOf,hbound,axisAgrees]
      | some bound =>
        obtain ⟨limit,unit,rfl⟩ := ceiling_of_kind (h.kinds .amount bound hbound)
        simp only [grantScopeBound,hbound,attemptedBound,attemptOf,quantityOf,map_some]
        exact permits_self (h.bounds .amount _ hbound)
    | counterparty => exact hidentity .counterparty rfl
    | organization => exact hidentity .organization rfl
    | governanceProfile => exact hidentity .governanceProfile rfl
    | actionClass => exact hidentity .actionClass rfl
    | resourceClass => exact hidentity .resourceClass rfl
  · cases hparameters : scope.parameters with
    | none => simp [attemptOf,hparameters,parametersAgree]
    | some list =>
      obtain ⟨-,hnodup,hentries⟩ := wellFormed_parameters (h.parameters list hparameters)
      simp only [attemptOf,hparameters,map_some,parametersAgree,length_map,
        BEq.rfl,Bool.true_and,List.all_map,List.all_eq_true,Function.comp_apply]
      intro entry hentry
      rw [grantParameterBound_of_mem hnodup hentry]
      exact (admits_largest (hentries entry hentry).2).2

theorem attemptOf_wellFormed (h : Fillable P scope) (hid : boundedGrantId ≠ "")
    (hsubject : subject ≠ "") (hexecution : executionId ≠ "")
    (hcorrelation : isWellFormedGrantCorrelation correlation = true) :
    isWellFormedGrantExerciseRequest
      (attemptOf scope boundedGrantId subject executionId correlation) = true := by
  have hidentity : ∀ key, grantBoundKindsByKey key = .identity →
      whenStated (· != "") (identityOf (grantScopeBound scope key)) = true := by
    intro key hkey
    cases hvalue : identityOf (grantScopeBound scope key) with
    | none => rfl
    | some value =>
      have hne := (identityOf_agrees (fun b hb => (h.kinds key b hb).trans hkey)
        (h.bounds key)).2 value hvalue
      simpa [whenStated] using hne
  have haction : (identityOf scope.action).getD "" ≠ "" := by
    obtain ⟨bound,hbound⟩ := isSome_iff_exists.1 h.action
    obtain ⟨value,rfl⟩ := identity_of_kind (h.kinds .action bound hbound)
    have hwell := h.bounds .action _ hbound
    simpa [hbound,identityOf,isWellFormedGrantBound] using hwell
  have hresource : memberOf scope.resources ≠ "" := by
    obtain ⟨bound,hbound⟩ := isSome_iff_exists.1 h.resources
    obtain ⟨values,rfl⟩ := set_of_kind (h.kinds .resources bound hbound)
    have hwell := h.bounds .resources _ hbound
    cases values with
    | nil => simp [isWellFormedGrantBound] at hwell
    | cons value rest =>
      simp only [isWellFormedGrantBound,all_cons,and_eq_true] at hwell
      simpa [hbound,memberOf] using hwell.2.1
  have hamount : whenStated isWellFormedMonetaryAmount (quantityOf scope.amount) = true := by
    cases hbound : scope.amount with
    | none => rfl
    | some bound =>
      obtain ⟨limit,unit,rfl⟩ := ceiling_of_kind (h.kinds .amount bound hbound)
      exact h.bounds .amount _ hbound
  have hparameters : whenStated isWellFormedExerciseParameters (scope.parameters.map fun list =>
      list.map fun entry => ⟨entry.dimension,entry.bound.largest⟩) = true := by
    cases hlist : scope.parameters with
    | none => rfl
    | some list =>
      have hwell := h.parameters list hlist
      obtain ⟨hne,-,hentries⟩ := wellFormed_parameters hwell
      simp only [isWellFormedGrantParameterBounds,and_eq_true] at hwell
      simp only [map_some,whenStated,isWellFormedExerciseParameters,and_eq_true,
        not_eq_true',isEmpty_eq_false_iff,ne_eq,map_eq_nil_iff,List.all_map,
        List.all_eq_true,Function.comp_apply,List.map_map]
      refine ⟨⟨hne,fun entry hentry => ?_⟩,hwell.2⟩
      have hentry' := hentries entry hentry
      simp [isWellFormedGovernedParameter,hentry'.1,(admits_largest hentry'.2).1]
  simp only [isWellFormedGrantExerciseRequest,attemptOf,and_eq_true,bne_iff_ne]
  exact ⟨⟨⟨⟨⟨⟨⟨⟨⟨⟨⟨⟨hid,hsubject⟩,haction⟩,hresource⟩,hexecution⟩,hidentity .counterparty rfl⟩,
    hidentity .organization rfl⟩,hamount⟩,hidentity .governanceProfile rfl⟩,
    hidentity .actionClass rfl⟩,hidentity .resourceClass rfl⟩,hparameters⟩,hcorrelation⟩

variable {parent child : GrantScope}

theorem axisIsWithin_of_within (h : grantScopeIsWithin P parent child = true)
    (key : GrantBoundKey) :
    axisIsWithin P (grantScopeBound parent key) (grantScopeBound child key) = true := by
  simp only [grantScopeIsWithin,and_eq_true,List.all_eq_true] at h
  exact h.1 key (mem_grantBoundKeys key)

theorem parametersNarrow_of_within {parent child : GrantParameterBounds}
    (h : parameterBoundsAreWithin (some parent) (some child) = true) :
    ParametersNarrow parent child := by
  simp only [parameterBoundsAreWithin,and_eq_true,beq_iff_eq,List.all_eq_true] at h
  obtain ⟨⟨⟨hparent,hchild⟩,hlength⟩,hbounds⟩ := h
  obtain ⟨-,hparentNodup,-⟩ := wellFormed_parameters hparent
  obtain ⟨-,hchildNodup,-⟩ := wellFormed_parameters hchild
  have hsubset : parent.map (·.dimension) ⊆ child.map (·.dimension) := by
    intro dimension hmem
    obtain ⟨entry,hentry,rfl⟩ := mem_map.1 hmem
    have hfound := hbounds entry hentry
    cases hchildEntry : grantParameterBound child entry.dimension with
    | none => simp [hchildEntry] at hfound
    | some found =>
      rw [← grantParameterBound_isSome,hchildEntry]
      rfl
  -- no dimension of the child is left over: the two lists are equally long
  have hperm : (parent.map (·.dimension)).Perm (child.map (·.dimension)) := by
    apply (subperm_of_subset hparentNodup hsubset).perm_of_length_le
    simp [hlength]
  refine ⟨hlength,fun dimension entry hentry => ?_⟩
  obtain ⟨hmem,rfl⟩ := grantParameterBound_dimension hentry
  obtain ⟨parentEntry,hparentMem,hdimension⟩ :=
    mem_map.1 (hperm.mem_iff.2 (mem_map_of_mem hmem))
  have hfound := grantParameterBound_of_mem hparentNodup hparentMem
  have hpermits := hbounds parentEntry hparentMem
  rw [hdimension] at hfound hpermits
  simp only [hentry] at hpermits
  exact ⟨parentEntry,hfound,fun value => governedParameterBoundAdmits_of_permits hpermits⟩

theorem scopeAdmits_of_within (h : grantScopeIsWithin P parent child = true)
    (hstates : StatesAxesOf parent child) (hadmits : scopeAdmits P child request) :
    scopeAdmits P parent request := by
  rw [scopeAdmits_iff] at hadmits ⊢
  refine ⟨fun key => ?_,?_⟩
  · have hwithin := axisIsWithin_of_within h key
    have hagrees := hadmits.1 key
    cases hparent : grantScopeBound parent key with
    | none =>
      cases hchild : grantScopeBound child key with
      | none => rwa [hchild] at hagrees
      | some bound =>
        rw [hparent,hchild] at hwithin
        cases hwithin
    | some parentBound =>
      obtain ⟨bound,hchild⟩ := isSome_iff_exists.1 (hstates key (by rw [hparent]; rfl))
      rw [hparent,hchild] at hwithin
      rw [hchild] at hagrees
      exact axisAgrees_of_permits hwithin hagrees
  · have hwithin : parameterBoundsAreWithin parent.parameters child.parameters = true := by
      simp only [grantScopeIsWithin,and_eq_true] at h
      exact h.2
    have hagrees := hadmits.2
    cases hparent : parent.parameters with
    | none =>
      cases hchild : child.parameters with
      | none => rwa [hchild] at hagrees
      | some list =>
        rw [hparent,hchild] at hwithin
        cases hwithin
    | some parentList =>
      cases hchild : child.parameters with
      | none =>
        rw [hparent,hchild] at hwithin
        cases hwithin
      | some list =>
        rw [hparent,hchild] at hwithin
        rw [hchild] at hagrees
        exact (parametersNarrow_of_within hwithin).agrees hagrees

theorem fillable_of_within (h : grantScopeIsWithin P parent child = true)
    (hshape : WellShaped child) : Fillable P child := by
  refine ⟨hshape,fun key bound hbound => ?_,fun list hlist => ?_⟩
  · have hwithin := axisIsWithin_of_within h key
    rw [hbound] at hwithin
    cases hparent : grantScopeBound parent key with
    | none =>
      rw [hparent] at hwithin
      cases hwithin
    | some parentBound =>
      rw [hparent] at hwithin
      exact (compareGrantBound_permits_iff.1 hwithin).2.1
  · simp only [grantScopeIsWithin,and_eq_true,hlist] at h
    cases hparent : parent.parameters with
    | none =>
      rw [hparent] at h
      cases h.2
    | some parentList =>
      rw [hparent] at h
      simp only [parameterBoundsAreWithin,and_eq_true] at h
      exact h.2.1.1.2

theorem statesAxesOf_of_admits
    (h : scopeAdmits P parent (attemptOf child boundedGrantId subject executionId correlation))
    (hshape : WellShaped child) : StatesAxesOf parent child := by
  intro key hkey
  obtain ⟨parentBound,hparent⟩ := isSome_iff_exists.1 hkey
  have hagrees := (scopeAdmits_iff.1 h).1 key
  rw [hparent] at hagrees
  cases hchild : grantScopeBound child key with
  | some bound => rfl
  | none =>
    have hunstated : attemptedBound
        (attemptOf child boundedGrantId subject executionId correlation) key = none := by
      cases key with
      | action =>
        have hstated := hshape.action
        rw [show child.action = none from hchild] at hstated
        cases hstated
      | resources =>
        have hstated := hshape.resources
        rw [show child.resources = none from hchild] at hstated
        cases hstated
      | _ =>
        simp only [grantScopeBound] at hchild
        simp [attemptedBound,attemptOf,hchild,identityOf,quantityOf]
    rw [hunstated] at hagrees
    cases hagrees

end Frontera.Execution
