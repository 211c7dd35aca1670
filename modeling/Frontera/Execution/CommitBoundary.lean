import Frontera.Execution.ScopeContainment
import Frontera.Grant.Issuance

/-! `issueGrant` commits a grant whose scope is contained in the source re-read inside the store's
critical section. What that containment is worth at exercise depends on the axes both sources state:
a source that gained an axis since it was measured is re-read here, and the grant passes without it.
-/

namespace Frontera.Execution

open Frontera.Grant Frontera.Monetary List Bool

variable {P : Platform}

theorem attenuated_states {source requested scope : GrantScope}
    {bounds : List GrantBoundAttenuation}
    (h : attenuateGrantScope P source requested = .attenuated scope bounds) (key : GrantBoundKey) :
    (grantScopeBound scope key).isSome = (grantScopeBound source key).isSome := by
  simp only [attenuateGrantScope] at h
  split_ifs at h with hviolations
  simp only [GrantAttenuationOutcome.attenuated.injEq] at h
  obtain ⟨rfl,-⟩ := h
  simp only [not_eq_true',not_eq_false,List.isEmpty_iff,append_eq_nil_iff,
    filterMap_eq_nil_iff] at hviolations
  have haxis := attenuateAxis_derived
    (hviolations.1 _ (mem_map_of_mem (mem_grantBoundKeys key)))
  rw [grantScopeBound_canonical,grantScopeBound_ofBounds,Option.isSome_map]
  rcases haxis with ⟨hsource,hderived⟩ | ⟨bound,derived,hsource,hderived,-⟩
  · rw [hsource,hderived]
  · rw [hsource,hderived]
    rfl

theorem wellShaped_of_eligible {source : GrantSourceAuthorization}
    (h : grantEligibilityReasons P source = []) :
    WellShaped source.scope ∧ source.subject ≠ "" := by
  have hderivable : isDerivableGrantSource P source = true := by
    simp only [grantEligibilityReasons,append_eq_nil_iff] at h
    by_contra hnot
    simp [hnot] at h
  simp only [isDerivableGrantSource,and_eq_true,bne_iff_ne,List.isEmpty_iff,
    missingMandatoryGrantBounds,mandatoryGrantBoundKeys,filter_eq_nil_iff] at hderivable
  obtain ⟨⟨⟨⟨-,hsubject⟩,-⟩,hscope⟩,hmandatory⟩ := hderivable
  have hstated : ∀ key ∈ [GrantBoundKey.action, GrantBoundKey.resources],
      (grantScopeBound source.scope key).isSome = true := by
    intro key hkey
    have hmem := hmandatory key hkey
    simp only [not_eq_true',not_eq_false,contains_iff_mem,statedGrantBoundKeys,
      mem_filter] at hmem
    exact hmem.2
  refine ⟨⟨hstated .action (by simp),hstated .resources (by simp),fun key bound hbound => ?_⟩, hsubject⟩
  simp only [isWellFormedGrantScope,and_eq_true,all_eq_true] at hscope
  have haxis := hscope.1.1 key (mem_grantBoundKeys key)
  simp only [hbound,and_eq_true,beq_iff_eq] at haxis
  exact haxis.1

theorem kind_of_within {parent child : GrantScope} (h : grantScopeIsWithin P parent child = true)
    (hparent : WellShaped parent) {key : GrantBoundKey} {bound : GrantBound}
    (hbound : grantScopeBound child key = some bound) : bound.kind = grantBoundKindsByKey key := by
  have hwithin := axisIsWithin_of_within h key
  rw [hbound] at hwithin
  cases hparentBound : grantScopeBound parent key with
  | none =>
    rw [hparentBound] at hwithin
    cases hwithin
  | some parentBound =>
    rw [hparentBound] at hwithin
    rw [← covers_kind (compareGrantBound_permits_iff.1 hwithin).2.2]
    exact hparent.kinds key parentBound hparentBound

variable {request : GrantIssuanceRequest} {derived : DerivedGrant} {scope : GrantScope}

theorem fillable_of_derived (h : DerivedFrom P request derived scope) : Fillable P scope := by
  have hsource := (wellShaped_of_eligible h.eligible).1
  refine fillable_of_within h.within ⟨?_,?_,fun key bound => kind_of_within h.within hsource⟩
  · exact (attenuated_states h.attenuated .action).trans hsource.action
  · exact (attenuated_states h.attenuated .resources).trans hsource.resources

theorem usable_attemptOf (h : DerivedFrom P request derived scope) :
    (assessBoundedGrantExercise P derived.grant none
      (attemptOf scope derived.grant.id request.subject "execution" request.correlation)
      request.issuedAt).usable = true := by
  have hfill := fillable_of_derived h
  have hsubject : request.subject ≠ "" := by
    rw [h.subject]
    exact (wellShaped_of_eligible h.eligible).2
  have hid : derived.grant.id ≠ "" := by
    rw [h.grant_eq]
    simp [grantOf,boundedGrantId]
  have hwell := @attemptOf_wellFormed P scope derived.grant.id request.subject "execution"
    request.correlation hfill hid hsubject (by decide) h.correlation
  have hscope := @scopeAdmits_attemptOf P scope derived.grant.id request.subject "execution"
    request.correlation hfill
  obtain ⟨-,issued,expiry,hissued,hexpiry,hlt⟩ := resolveGrantValidity_accepted h.validity
  simp only [assessBoundedGrantExercise,hwell,Bool.not_true,Bool.false_eq_true,if_false,
    List.isEmpty_iff,exerciseReasonCodes,append_eq_nil_iff,reportUnless_eq_nil]
  refine ⟨⟨⟨⟨⟨?_,rfl⟩,?_⟩,?_⟩,?_⟩,?_⟩
  · rw [h.grant_eq,Bool.and_eq_true]
    exact ⟨by simp [boundedGrantDigestMatches,grantOf,boundedGrantDigest],h.semantics⟩
  · rw [h.grant_eq]
    simp only [grantOf,isExpiredAt,hissued,hexpiry,Bool.not_eq_true',decide_eq_false_iff_not]
    omega
  · rw [h.grant_eq]
    simp [grantOf,attemptOf]
  · rw [h.grant_eq]
    exact grantCorrelationMatches_iff.2 rfl
  · rw [h.grant_eq] at hscope ⊢
    exact hscope

theorem within_of_commitGuard {revalidateSource : RevalidateSource} {grant : BoundedGrant}
    {current : GrantSourceAuthorization}
    (hcurrent : revalidateSource request.correlation = some current)
    (h : (commitGuard P (some revalidateSource) request grant).permitted = true) :
    grantScopeIsWithin P current.scope grant.scope = true := by
  simp only [commitGuard,hcurrent] at h
  by_contra hwithin
  rw [Bool.not_eq_true] at hwithin
  simp only [hwithin,Bool.not_false,if_true] at h
  split_ifs at h

/-- No attempt outside the scope is exercisable under the grant, whenever it is assessed
and whatever is recorded against it. -/
def ConfinedTo (P : Platform) (scope : GrantScope) (grant : BoundedGrant) : Prop :=
  ∀ request revocation at', (assessBoundedGrantExercise P grant revocation request at').usable =
    true → scopeAdmits P scope request

open Frontera.ExerciseControl

def sampleUnpricedSource : GrantSourceAuthorization :=
  { sampleSource with scope := { sampleScope with amount := none } }

def sampleDerived (source : GrantSourceAuthorization) (bounds : List GrantBoundAttenuation) :
    DerivedGrant :=
  ⟨grantOf samplePlatform (sampleIssuance source) (canonicalGrantScope source.scope)
    sampleLaterInstant,bounds,none⟩

theorem sampleIssuance_derived : DerivedFrom samplePlatform (sampleIssuance sampleSource)
    (sampleDerived sampleSource [⟨.axis .action,.equal,false,true⟩,
      ⟨.axis .amount,.equal,false,true⟩, ⟨.axis .resources,.equal,false,true⟩])
    (canonicalGrantScope sampleScope) := by
  constructor <;> rfl

theorem sampleUnpriced_derived : DerivedFrom samplePlatform (sampleIssuance sampleUnpricedSource)
    (sampleDerived sampleUnpricedSource [⟨.axis .action,.equal,false,true⟩,
      ⟨.axis .resources,.equal,false,true⟩])
    (canonicalGrantScope sampleUnpricedSource.scope) := by
  constructor <;> rfl

/-- Containment confines the child's attempts to the parent exactly when a child that can
be exercised states its parent's axes; and a committed grant is confined to the source
re-read at commit exactly when the source it was derived from states the axes of that one. -/
theorem commitBoundary_recheck_iff (P : Platform) :
    (∀ parent child, grantScopeIsWithin P parent child = true →
      ((∀ request, scopeAdmits P child request → scopeAdmits P parent request) ↔
        (WellShaped child → StatesAxesOf parent child))) ∧
    (∀ (revalidateSource : RevalidateSource) (store store' : InMemoryBoundedGrantStore)
        (request : GrantIssuanceRequest) (grant : BoundedGrant)
        (bounds : List GrantBoundAttenuation) (ceiling : Option GrantValidityCeiling)
        (current : GrantSourceAuthorization),
      revalidateSource request.correlation = some current →
      issueGrant P (some revalidateSource) store request = (.issued grant bounds ceiling, store') →
      (ConfinedTo P current.scope grant ↔ StatesAxesOf current.scope request.source.scope)) := by
  constructor
  · intro parent child hwithin
    constructor
    · intro hadmits hshape
      have hfill := fillable_of_within hwithin hshape
      exact statesAxesOf_of_admits (hadmits _ (@scopeAdmits_attemptOf P child "grant" "subject"
        "execution" ⟨"request","decision","action","resource"⟩ hfill)) hshape
    · intro hstates request hadmits
      exact scopeAdmits_of_within hwithin (hstates (wellShaped_of_admits hadmits)) hadmits
  · intro revalidateSource store store' request grant bounds ceiling current hcurrent hissue
    rcases issueGrant_cases P (some revalidateSource) store request with
      ⟨refusal,hrefused⟩ | ⟨derived,hderive,⟨existing,-,halready⟩ | ⟨-,hguard,hissued⟩⟩
    · rw [hrefused] at hissue
      cases hissue
    · rw [halready] at hissue
      cases hissue
    · rw [hissued] at hissue
      cases hissue
      obtain ⟨scope,hfrom⟩ := deriveGrant_ok hderive
      have hscope : derived.grant.scope = scope := by rw [hfrom.grant_eq]; rfl
      have hwithin := within_of_commitGuard hcurrent hguard
      rw [hscope] at hwithin
      -- the derived scope states the axes of its source
      have haxes : StatesAxesOf current.scope scope ↔ StatesAxesOf current.scope request.source.scope := by
        apply forall_congr'
        intro key
        rw [attenuated_states hfrom.attenuated key]
      rw [← haxes]
      constructor
      · intro hconfined
        exact statesAxesOf_of_admits (hconfined _ _ _ (usable_attemptOf hfrom))
          (fillable_of_derived hfrom).toWellShaped
      · intro hstates attempt revocation at' husable
        have hadmits := scopeAdmits_of_usable husable
        rw [hscope] at hadmits
        exact scopeAdmits_of_within hwithin hstates hadmits

theorem commitBoundary_recheck_iff_sample :
    grantScopeIsWithin samplePlatform sampleScope sampleNarrowed = true ∧
      (∀ request, scopeAdmits samplePlatform sampleNarrowed request →
        scopeAdmits samplePlatform sampleScope request) ∧
      ∃ grant bounds store', issueGrant samplePlatform (some fun _ => some sampleSource) .empty
          (sampleIssuance sampleSource) = (.issued grant bounds none, store') ∧
        ConfinedTo samplePlatform sampleScope grant := by
  have hwithin : grantScopeIsWithin samplePlatform sampleScope sampleNarrowed = true := by
    decide
  have hissued := @issueGrant_empty samplePlatform _ _ _ (some fun _ => some sampleSource)
    sampleIssuance_derived (by decide)
  refine ⟨hwithin,?_,_,_,_,hissued,?_⟩
  · refine ((commitBoundary_recheck_iff samplePlatform).1 _ _ hwithin).2 fun _ key hkey => ?_
    cases key <;> first | rfl | cases hkey
  · exact ((commitBoundary_recheck_iff samplePlatform).2 _ _ _ _ _ _ _ sampleSource rfl
      hissued).2 fun _ h => h

/-- The source gained a bound on the amount after it was measured: the re-check passes, and
an attempt that states no amount is exercisable under the grant and outside the source. -/
theorem commitBoundary_passes_gained_axis :
    ¬ ((∀ parent child, grantScopeIsWithin samplePlatform parent child = true →
        ∀ request, scopeAdmits samplePlatform child request → scopeAdmits samplePlatform parent request) ∨
      (∀ revalidateSource store store' request grant bounds ceiling current,
        revalidateSource request.correlation = some current →
        issueGrant samplePlatform (some revalidateSource) store request =
          (.issued grant bounds ceiling, store') →
        ConfinedTo samplePlatform current.scope grant)) := by
  have hunstated : ¬ StatesAxesOf sampleSource.scope
      (canonicalGrantScope sampleUnpricedSource.scope) := by
    intro hstates
    cases hstates .amount rfl
  rintro (hcontains | hconfines)
  · have hwithin : grantScopeIsWithin samplePlatform sampleSource.scope
        sampleUnpricedSource.scope = true := by decide
    have hadmits : scopeReasonCodes samplePlatform sampleUnpricedSource.scope
        { sampleAttempt with amount := none } = [] := by decide
    have hrefuses : scopeReasonCodes samplePlatform sampleSource.scope
        { sampleAttempt with amount := none } = [.amountExceeded] := by decide
    have hparent := hcontains _ _ hwithin _ hadmits
    rw [scopeAdmits,hrefuses] at hparent
    cases hparent
  · have hissued := @issueGrant_empty samplePlatform _ _ _ (some fun _ => some sampleSource)
      sampleUnpriced_derived (by decide)
    have hattempt := usable_attemptOf sampleUnpriced_derived
    have hadmits := hconfines _ _ _ _ _ _ _ sampleSource rfl hissued _ _ _ hattempt
    exact hunstated (statesAxesOf_of_admits hadmits
      (fillable_of_derived sampleUnpriced_derived).toWellShaped)

end Frontera.Execution
