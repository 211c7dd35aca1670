import Frontera.Grant.Issuance
import Mathlib.Data.Prod.Lex

/-! A proposal is accepted exactly when it follows the issuance and no ceiling precedes it, and an
issued grant expires within every ceiling of its source, of the request and of the source as it is
re-read. Which of the strictest ceilings is reported follows the order of the list when two of one
source spell one instant differently. -/

namespace Frontera.Grant

open List Option

variable {P : Platform} {ceilings ceilings' : List GrantValidityCeiling} {ceiling : GrantValidityCeiling}
  {issuedAt requested : String} {requestedExpiresAt : Option String} {expiry : Int}

/-- The alphabetical order of the names. -/
def GrantValidityCeilingSource.rank : GrantValidityCeilingSource → Nat
  | .authority => 0
  | .decision => 1
  | .deployment => 2

/-- The host collates the names of the sources by their letters. -/
def CollatesSources (P : Platform) : Prop :=
  ∀ left right : GrantValidityCeilingSource,
    P.localeCompare left.text right.text = compare left.rank right.rank

/-- Every ceiling is an instant that does not precede this one. -/
def WithinCeilings (P : Platform) (expiry : Int) (ceilings : List GrantValidityCeiling) : Prop :=
  ∀ ceiling ∈ ceilings, ∃ notAfter, P.dateParse ceiling.notAfter = some notAfter ∧ expiry ≤ notAfter

/-- A ceiling that none precedes. -/
def Strictest (P : Platform) (ceilings : List GrantValidityCeiling) (ceiling : GrantValidityCeiling) :
    Prop :=
  ceiling ∈ ceilings ∧ ∀ other ∈ ceilings, ceilingPrecedes P ceiling other = true

/-- What is checked before a ceiling is compared with the proposal. -/
structure Proposed (P : Platform) (issuedAt : String) (requestedExpiresAt : Option String)
    (ceilings : List GrantValidityCeiling) (requested : String) (expiry : Int) : Prop where
  proposal : requestedExpiresAt = some requested
  parsed : P.dateParse requested = some expiry
  issued : ∃ issued, P.dateParse issuedAt = some issued ∧ issued < expiry
  ceilings : ∀ ceiling ∈ ceilings, (P.dateParse ceiling.notAfter).isSome = true

def GrantValidityResolution.reported : GrantValidityResolution → Option GrantValidityCeiling
  | .accepted _ effectiveCeiling => effectiveCeiling
  | .refused effectiveCeiling _ => effectiveCeiling

/-- A proposal is accepted, as it stands, when it follows the issuance and no ceiling precedes it. -/
def AcceptsWithin (P : Platform) (issuedAt : String) (requestedExpiresAt : Option String)
    (ceilings : List GrantValidityCeiling) : Prop :=
  ∀ expiresAt, (∃ effectiveCeiling, resolveGrantValidity P issuedAt requestedExpiresAt ceilings =
      .accepted expiresAt effectiveCeiling) ↔
    requestedExpiresAt = some expiresAt ∧ ∃ issued expiry, P.dateParse issuedAt = some issued ∧
      P.dateParse expiresAt = some expiry ∧ issued < expiry ∧ WithinCeilings P expiry ceilings

/-- Every list of the same ceilings has the same answer. -/
def IgnoresOrder (P : Platform) (issuedAt : String) (requestedExpiresAt : Option String)
    (ceilings : List GrantValidityCeiling) : Prop :=
  ∀ ceilings', (∀ ceiling, ceiling ∈ ceilings' ↔ ceiling ∈ ceilings) →
    resolveGrantValidity P issuedAt requestedExpiresAt ceilings' =
      resolveGrantValidity P issuedAt requestedExpiresAt ceilings

/-- Where the ceilings are compared, no two that differ are strictest. -/
def OneStrictest (P : Platform) (issuedAt : String) (requestedExpiresAt : Option String)
    (ceilings : List GrantValidityCeiling) : Prop :=
  ∀ requested expiry, Proposed P issuedAt requestedExpiresAt ceilings requested expiry →
    ∀ ceiling other, Strictest P ceilings ceiling → Strictest P ceilings other → ceiling = other

/-- The grant expires within the ceilings of the source, of the request, and of the source as it is
re-read. -/
def ExpiresWithin (P : Platform) (revalidateSource : Option RevalidateSource)
    (request : GrantIssuanceRequest) (grant : BoundedGrant) : Prop :=
  ∃ expiry, P.dateParse grant.expiresAt = some expiry ∧
    WithinCeilings P expiry request.source.validityCeilings ∧
    WithinCeilings P expiry (request.additionalValidityCeilings.getD []) ∧
    ∀ revalidate ∈ revalidateSource, ∃ current, revalidate request.correlation = some current ∧
      WithinCeilings P expiry current.validityCeilings

theorem head_insertionSort {α β : Type*} [LinearOrder β] {key : α → β} {r : α → α → Prop}
    [DecidableRel r] {l : List α} {a : α} (h : ∀ a ∈ l, ∀ b ∈ l, r a b ↔ key a ≤ key b)
    (hhead : (l.insertionSort r).head? = some a) : a ∈ l ∧ ∀ b ∈ l, key a ≤ key b := by
  induction l generalizing a with
  | nil => cases hhead
  | cons x l ih =>
    have hrest : ∀ a ∈ l, ∀ b ∈ l, r a b ↔ key a ≤ key b := fun a ha b hb =>
      h a (mem_cons_of_mem x ha) b (mem_cons_of_mem x hb)
    rw [insertionSort_cons] at hhead
    cases hsorted : l.insertionSort r with
    | nil =>
      have hperm := perm_insertionSort r l
      rw [hsorted] at hperm hhead
      obtain rfl := hperm.nil_eq
      obtain rfl := some.inj hhead
      simp
    | cons y ys =>
      obtain ⟨hy,hleast⟩ := @ih y hrest (by rw [hsorted]; rfl)
      have hxy := h x mem_cons_self y (mem_cons_of_mem x hy)
      rw [hsorted,List.orderedInsert] at hhead
      split_ifs at hhead with hr
      · obtain rfl := some.inj hhead
        refine ⟨mem_cons_self,forall_mem_cons.2 ⟨le_rfl,fun b hb => ?_⟩⟩
        exact (hxy.1 hr).trans (hleast b hb)
      · obtain rfl := some.inj hhead
        refine ⟨mem_cons_of_mem x hy,forall_mem_cons.2 ⟨?_,hleast⟩⟩
        exact (not_le.1 (mt hxy.2 hr)).le

/-- A ceiling's instant, and the name of its source. -/
def precedence (P : Platform) (ceiling : GrantValidityCeiling) : Int ×ₗ Nat :=
  toLex ((P.dateParse ceiling.notAfter).getD 0, ceiling.source.rank)

theorem ceilingPrecedes_iff (hcollation : CollatesSources P) {left right : GrantValidityCeiling}
    (hleft : (P.dateParse left.notAfter).isSome = true)
    (hright : (P.dateParse right.notAfter).isSome = true) :
    ceilingPrecedes P left right = true ↔ precedence P left ≤ precedence P right := by
  obtain ⟨leftInstant,hleft⟩ := isSome_iff_exists.1 hleft
  obtain ⟨rightInstant,hright⟩ := isSome_iff_exists.1 hright
  rw [ceilingPrecedes,precedence,precedence,Prod.Lex.toLex_le_toLex,hleft,hright, getD_some,getD_some]
  by_cases heq : leftInstant = rightInstant
  · simp only [heq,if_true,hcollation left.source right.source,lt_irrefl,true_and,false_or,
      bne_iff_ne,ne_eq,compare_gt_iff_gt,not_lt]
  · simp only [heq,if_false,decide_eq_true_eq,false_and,or_false]

theorem effectiveGrantValidityCeiling_eq
    (hparsed : ∀ ceiling ∈ ceilings, (P.dateParse ceiling.notAfter).isSome = true) :
    effectiveGrantValidityCeiling P ceilings = (orderedCeilings P ceilings).head? := by
  rw [effectiveGrantValidityCeiling,filter_eq_self.2 hparsed]
  exact if_neg (not_not.2 rfl)

theorem effectiveGrantValidityCeiling_spec (hcollation : CollatesSources P)
    (hparsed : ∀ ceiling ∈ ceilings, (P.dateParse ceiling.notAfter).isSome = true)
    (h : effectiveGrantValidityCeiling P ceilings = some ceiling) :
    Strictest P ceilings ceiling := by
  have horder : ∀ a ∈ ceilings, ∀ b ∈ ceilings,
      ceilingPrecedes P a b = true ↔ precedence P a ≤ precedence P b :=
    fun a ha b hb => ceilingPrecedes_iff hcollation (hparsed a ha) (hparsed b hb)
  rw [effectiveGrantValidityCeiling_eq hparsed] at h
  obtain ⟨hmem,hleast⟩ := head_insertionSort horder h
  exact ⟨hmem,fun other hother => (horder _ hmem other hother).2 (hleast other hother)⟩

theorem effectiveGrantValidityCeiling_none
    (hparsed : ∀ ceiling ∈ ceilings, (P.dateParse ceiling.notAfter).isSome = true)
    (h : effectiveGrantValidityCeiling P ceilings = none) : ceilings = [] := by
  rw [effectiveGrantValidityCeiling_eq hparsed,List.head?_eq_none_iff] at h
  have hperm := perm_insertionSort (fun a b => ceilingPrecedes P a b = true) ceilings
  rw [← orderedCeilings,h] at hperm
  exact hperm.nil_eq.symm

/-- A strictest ceiling that stands first is the one reported. -/
theorem effectiveGrantValidityCeiling_cons
    (hparsed : ∀ ceiling ∈ ceilings, (P.dateParse ceiling.notAfter).isSome = true)
    (h : Strictest P ceilings ceiling) :
    effectiveGrantValidityCeiling P (ceiling :: ceilings) = some ceiling := by
  have hmem : ∀ other ∈ orderedCeilings P ceilings, other ∈ ceilings :=
    fun other => (perm_insertionSort _ ceilings).mem_iff.1
  rw [effectiveGrantValidityCeiling_eq (forall_mem_cons.2 ⟨hparsed _ h.1,hparsed⟩),
    orderedCeilings,insertionSort_cons,← orderedCeilings]
  cases hsorted : orderedCeilings P ceilings with
  | nil => rfl
  | cons first rest =>
    rw [hsorted] at hmem
    rw [List.orderedInsert,if_pos (h.2 first (hmem first mem_cons_self))]
    rfl

theorem resolveGrantValidity_proposed (hempty : P.dateParse "" = none)
    (h : Proposed P issuedAt requestedExpiresAt ceilings requested expiry) :
    resolveGrantValidity P issuedAt requestedExpiresAt ceilings =
      match effectiveGrantValidityCeiling P ceilings with
      | none => .accepted requested none
      | some ceiling =>
          if !(compareGrantBound P (.window ceiling.notAfter) (.window requested)).permits then
            .refused (some ceiling) [.scopeBroadening]
          else .accepted requested (some ceiling) := by
  obtain ⟨issued,hissued,hlt⟩ := h.issued
  have hne : requested ≠ "" := by
    rintro rfl
    have hparsed := h.parsed
    rw [hempty] at hparsed
    cases hparsed
  have hall : ¬(ceilings.any fun ceiling => (P.dateParse ceiling.notAfter).isNone) = true := by
    rw [List.any_eq_true]
    rintro ⟨ceiling,hmem,hnone⟩
    have hsome := h.ceilings ceiling hmem
    rw [← not_isNone,hnone] at hsome
    cases hsome
  rw [h.proposal]
  cases hceiling : effectiveGrantValidityCeiling P ceilings <;>
    simp only [resolveGrantValidity,if_neg hne,hissued,h.parsed,if_neg (not_le.2 hlt), if_neg hall,hceiling]

theorem resolveGrantValidity_refused
    (h : ∀ requested expiry, ¬Proposed P issuedAt requestedExpiresAt ceilings requested expiry) :
    resolveGrantValidity P issuedAt requestedExpiresAt ceilings = .refused none [.validityInvalid] := by
  cases requestedExpiresAt with
  | none => rfl
  | some requested =>
    simp only [resolveGrantValidity]
    by_cases hne : requested = ""
    · rw [if_pos hne]
    rw [if_neg hne]
    cases hissued : P.dateParse issuedAt with
    | none => rfl
    | some issued =>
      cases hparsed : P.dateParse requested with
      | none => rfl
      | some expiry =>
        dsimp only
        by_cases hle : expiry ≤ issued
        · rw [if_pos hle]
        · rw [if_neg hle,if_pos]
          by_contra hall
          refine h requested expiry ⟨rfl,hparsed,⟨issued,hissued,not_le.1 hle⟩,?_⟩
          intro ceiling hmem
          rw [← not_isNone,Bool.not_eq_true']
          exact Bool.eq_false_iff.2 fun hnone => hall (any_eq_true.2 ⟨ceiling,hmem,hnone⟩)

theorem permits_window_iff (hparsed : P.dateParse requested = some expiry) :
    (compareGrantBound P (.window ceiling.notAfter) (.window requested)).permits = true ↔
      ∃ notAfter, P.dateParse ceiling.notAfter = some notAfter ∧ expiry ≤ notAfter := by
  rw [compareGrantBound_permits_iff]
  simp only [isWellFormedGrantBound,GrantBound.Covers,hparsed]
  constructor
  · rintro ⟨-,-,notAfter,child,hnotAfter,hchild,hle⟩
    obtain rfl := some.inj hchild
    exact ⟨notAfter,hnotAfter,hle⟩
  · rintro ⟨notAfter,hnotAfter,hle⟩
    exact ⟨by rw [hnotAfter]; rfl,rfl,notAfter,expiry,hnotAfter,rfl,hle⟩

theorem Strictest.within (hcollation : CollatesSources P)
    (hparsed : ∀ ceiling ∈ ceilings, (P.dateParse ceiling.notAfter).isSome = true)
    (h : Strictest P ceilings ceiling) {notAfter : Int}
    (hnotAfter : P.dateParse ceiling.notAfter = some notAfter) (hle : expiry ≤ notAfter) :
    WithinCeilings P expiry ceilings := by
  intro other hother
  obtain ⟨otherInstant,hinstant⟩ := isSome_iff_exists.1 (hparsed other hother)
  refine ⟨otherInstant,hinstant,hle.trans ?_⟩
  have horder := (ceilingPrecedes_iff hcollation (hparsed _ h.1) (hparsed other hother)).1
    (h.2 other hother)
  rw [precedence,precedence,hnotAfter,hinstant,Prod.Lex.toLex_le_toLex] at horder
  rcases horder with hlt | ⟨heq,-⟩
  · exact le_of_lt hlt
  · exact le_of_eq heq

theorem acceptsWithin (hcollation : CollatesSources P) (hempty : P.dateParse "" = none) :
    AcceptsWithin P issuedAt requestedExpiresAt ceilings := by
  intro expiresAt
  by_cases hproposed : ∃ requested expiry, Proposed P issuedAt requestedExpiresAt ceilings requested expiry
  · obtain ⟨requested,expiry,hproposed⟩ := hproposed
    obtain ⟨issued,hissued,hlt⟩ := hproposed.issued
    rw [resolveGrantValidity_proposed hempty hproposed,hproposed.proposal]
    cases heffective : effectiveGrantValidityCeiling P ceilings with
    | none =>
      obtain rfl := effectiveGrantValidityCeiling_none hproposed.ceilings heffective
      constructor
      · rintro ⟨_,h⟩
        cases h
        exact ⟨rfl,issued,expiry,hissued,hproposed.parsed,hlt,by simp [WithinCeilings]⟩
      · rintro ⟨h,-⟩
        cases h
        exact ⟨none,rfl⟩
    | some ceiling =>
      have hstrictest := effectiveGrantValidityCeiling_spec hcollation hproposed.ceilings heffective
      dsimp only
      split_ifs with hbroader
      · constructor
        · rintro ⟨_,h⟩
          cases h
        · rintro ⟨h,issued',expiry',-,hparsed,-,hwithin⟩
          cases h
          obtain rfl := some.inj (hproposed.parsed.symm.trans hparsed)
          have hpermits := (permits_window_iff hparsed).2 (hwithin ceiling hstrictest.1)
          rw [hpermits] at hbroader
          cases hbroader
      · rw [Bool.not_eq_true',Bool.not_eq_false] at hbroader
        obtain ⟨notAfter,hnotAfter,hle⟩ := (permits_window_iff hproposed.parsed).1 hbroader
        constructor
        · rintro ⟨_,h⟩
          cases h
          exact ⟨rfl,issued,expiry,hissued,hproposed.parsed,hlt,
            hstrictest.within hcollation hproposed.ceilings hnotAfter hle⟩
        · rintro ⟨h,-⟩
          cases h
          exact ⟨some ceiling,rfl⟩
  · rw [resolveGrantValidity_refused fun requested expiry h => hproposed ⟨requested,expiry,h⟩]
    constructor
    · rintro ⟨_,h⟩
      cases h
    · rintro ⟨h,issued,expiry,hissued,hparsed,hlt,hwithin⟩
      refine absurd ⟨expiresAt,expiry,h,hparsed,⟨issued,hissued,hlt⟩,?_⟩ hproposed
      intro ceiling hmem
      obtain ⟨notAfter,hnotAfter,-⟩ := hwithin ceiling hmem
      rw [hnotAfter]
      rfl

theorem Proposed.congr (h : Proposed P issuedAt requestedExpiresAt ceilings requested expiry)
    (hsame : ∀ ceiling, ceiling ∈ ceilings' ↔ ceiling ∈ ceilings) :
    Proposed P issuedAt requestedExpiresAt ceilings' requested expiry :=
  ⟨h.proposal,h.parsed,h.issued,fun ceiling hmem => h.ceilings ceiling ((hsame ceiling).1 hmem)⟩

theorem Strictest.congr (h : Strictest P ceilings ceiling)
    (hsame : ∀ ceiling, ceiling ∈ ceilings' ↔ ceiling ∈ ceilings) : Strictest P ceilings' ceiling :=
  ⟨(hsame ceiling).2 h.1,fun other hother => h.2 other ((hsame other).1 hother)⟩

theorem reported_resolveGrantValidity (hempty : P.dateParse "" = none)
    (h : Proposed P issuedAt requestedExpiresAt ceilings requested expiry) :
    (resolveGrantValidity P issuedAt requestedExpiresAt ceilings).reported =
      effectiveGrantValidityCeiling P ceilings := by
  rw [resolveGrantValidity_proposed hempty h]
  cases effectiveGrantValidityCeiling P ceilings with
  | none => rfl
  | some ceiling =>
    dsimp only
    split_ifs
    · rfl
    · rfl

theorem ignoresOrder_iff (hcollation : CollatesSources P) (hempty : P.dateParse "" = none) :
    IgnoresOrder P issuedAt requestedExpiresAt ceilings ↔
      OneStrictest P issuedAt requestedExpiresAt ceilings := by
  constructor
  · intro h requested expiry hproposed
    have hfirst (ceiling : GrantValidityCeiling) (hstrictest : Strictest P ceilings ceiling) :
        effectiveGrantValidityCeiling P ceilings = some ceiling := by
      have hsame : ∀ other, other ∈ ceiling :: ceilings ↔ other ∈ ceilings := fun other =>
        mem_cons.trans (or_iff_right_of_imp fun heq => heq ▸ hstrictest.1)
      have hreported := congrArg GrantValidityResolution.reported (h (ceiling :: ceilings) hsame)
      rwa [reported_resolveGrantValidity hempty (hproposed.congr hsame),
        reported_resolveGrantValidity hempty hproposed,
        effectiveGrantValidityCeiling_cons hproposed.ceilings hstrictest,eq_comm] at hreported
    intro ceiling other hceiling hother
    exact some.inj ((hfirst ceiling hceiling).symm.trans (hfirst other hother))
  · intro h ceilings' hsame
    by_cases hproposed : ∃ requested expiry,
        Proposed P issuedAt requestedExpiresAt ceilings requested expiry
    · obtain ⟨requested,expiry,hproposed⟩ := hproposed
      have hproposed' := hproposed.congr hsame
      have heffective : effectiveGrantValidityCeiling P ceilings' =
          effectiveGrantValidityCeiling P ceilings := by
        cases hleft : effectiveGrantValidityCeiling P ceilings' with
        | none =>
          obtain rfl := effectiveGrantValidityCeiling_none hproposed'.ceilings hleft
          rw [eq_nil_iff_forall_not_mem.2 fun ceiling hmem =>
            not_mem_nil ((hsame ceiling).2 hmem),← hleft]
        | some ceiling =>
          have hceiling := effectiveGrantValidityCeiling_spec hcollation hproposed'.ceilings hleft
          cases hright : effectiveGrantValidityCeiling P ceilings with
          | none =>
            obtain rfl := effectiveGrantValidityCeiling_none hproposed.ceilings hright
            exact absurd ((hsame ceiling).1 hceiling.1) not_mem_nil
          | some other =>
            rw [h requested expiry hproposed ceiling other
              (hceiling.congr fun ceiling => (hsame ceiling).symm)
              (effectiveGrantValidityCeiling_spec hcollation hproposed.ceilings hright)]
      rw [resolveGrantValidity_proposed hempty hproposed',
        resolveGrantValidity_proposed hempty hproposed,heffective]
    · rw [resolveGrantValidity_refused fun requested expiry h => hproposed ⟨requested,expiry,h⟩,
        resolveGrantValidity_refused fun requested expiry h =>
          hproposed ⟨requested,expiry,h.congr fun ceiling => (hsame ceiling).symm⟩]

theorem commitGuard_within (hcollation : CollatesSources P) (hempty : P.dateParse "" = none)
    {revalidateSource : RevalidateSource} {request : GrantIssuanceRequest} {grant : BoundedGrant}
    (h : (commitGuard P (some revalidateSource) request grant).permitted = true)
    (hexpiry : P.dateParse grant.expiresAt = some expiry) :
    ∃ current, revalidateSource request.correlation = some current ∧
      WithinCeilings P expiry current.validityCeilings := by
  simp only [commitGuard] at h
  cases hcurrent : revalidateSource request.correlation with
  | none => simp [hcurrent] at h
  | some current =>
    simp only [hcurrent] at h
    split_ifs at h
    refine ⟨current,rfl,?_⟩
    cases hvalidity : resolveGrantValidity P request.issuedAt (some grant.expiresAt)
        (current.validityCeilings ++ request.additionalValidityCeilings.getD []) with
    | refused effectiveCeiling reasonCodes => simp [hvalidity] at h
    | accepted expiresAt effectiveCeiling =>
      obtain ⟨heq,issued,expiry',-,hparsed,-,hwithin⟩ :=
        (acceptsWithin hcollation hempty _).1 ⟨_,hvalidity⟩
      cases heq
      obtain rfl := some.inj (hexpiry.symm.trans hparsed)
      exact fun ceiling hmem => hwithin ceiling (mem_append_left _ hmem)

theorem issueGrant_within (hcollation : CollatesSources P) (hempty : P.dateParse "" = none)
    {revalidateSource : Option RevalidateSource} {store store' : InMemoryBoundedGrantStore}
    {request : GrantIssuanceRequest} {grant : BoundedGrant} {bounds : List GrantBoundAttenuation}
    {effectiveCeiling : Option GrantValidityCeiling}
    (h : issueGrant P revalidateSource store request = (.issued grant bounds effectiveCeiling, store')) :
    ExpiresWithin P revalidateSource request grant := by
  rcases issueGrant_cases P revalidateSource store request with
    ⟨refusal,hcase⟩ | ⟨derived,hderived,⟨existing,-,hcase⟩ | ⟨-,hguard,hcase⟩⟩
  · rw [hcase] at h
    cases h
  · rw [hcase] at h
    cases h
  · rw [hcase] at h
    cases h
    obtain ⟨scope,hfrom⟩ := deriveGrant_ok hderived
    obtain ⟨-,issued,expiry,-,hparsed,-,hwithin⟩ :=
      (acceptsWithin hcollation hempty _).1 ⟨_,hfrom.validity⟩
    have hexpiry : P.dateParse derived.grant.expiresAt = some expiry := by
      rw [hfrom.grant_eq]
      exact hparsed
    refine ⟨expiry,hexpiry,fun ceiling hmem => hwithin ceiling (mem_append_left _ hmem),
      fun ceiling hmem => hwithin ceiling (mem_append_right _ hmem),?_⟩
    rintro revalidate hrevalidate
    rw [mem_def] at hrevalidate
    subst hrevalidate
    exact commitGuard_within hcollation hempty hguard hexpiry

/-- Acceptance is exact for every input, and the answer ignores the order and the repetition of the
ceilings exactly when no two of the strictest differ; what is issued expires within every ceiling. -/
theorem grant_validity_contained (P : Platform) (hcollation : CollatesSources P)
    (hempty : P.dateParse "" = none) :
    (∀ issuedAt requestedExpiresAt ceilings, AcceptsWithin P issuedAt requestedExpiresAt ceilings ∧
          IgnoresOrder P issuedAt requestedExpiresAt ceilings ↔
        OneStrictest P issuedAt requestedExpiresAt ceilings) ∧
    ∀ revalidateSource store request grant bounds effectiveCeiling store',
      issueGrant P revalidateSource store request = (.issued grant bounds effectiveCeiling, store') →
        ExpiresWithin P revalidateSource request grant := by
  refine ⟨fun issuedAt requestedExpiresAt ceilings => ?_,
    fun _ _ _ _ _ _ _ => issueGrant_within hcollation hempty⟩
  rw [← ignoresOrder_iff hcollation hempty]
  exact and_iff_right (acceptsWithin hcollation hempty)

/-- An instant with and without its milliseconds. -/
def spellingPlatform : Platform :=
  { tabulatedPlatform [] with
    dateParse := fun text =>
      if text = "2026-01-01T00:00:01Z" then some 1767225601000
      else (tabulatedPlatform []).dateParse text }

theorem spellingPlatform_collates : CollatesSources spellingPlatform := by
  intro left right
  cases left <;> cases right <;> decide +kernel

theorem grant_validity_contained_sample : ∃ effectiveCeiling,
    resolveGrantValidity spellingPlatform sampleInstant (some sampleLaterInstant)
      [⟨.authority,sampleLaterInstant⟩] = .accepted sampleLaterInstant effectiveCeiling := by
  obtain ⟨haccepted,-⟩ := ((grant_validity_contained spellingPlatform spellingPlatform_collates
    (by decide +kernel)).1 sampleInstant (some sampleLaterInstant)
    [⟨.authority,sampleLaterInstant⟩]).2
    fun _ _ _ ceiling other hceiling hother =>
      (List.mem_singleton.1 hceiling.1).trans (List.mem_singleton.1 hother.1).symm
  have hlater : spellingPlatform.dateParse sampleLaterInstant = some 1767225601000 := by
    decide +kernel
  refine (haccepted sampleLaterInstant).2 ⟨rfl,1767225600000,1767225601000,by decide +kernel,
    hlater,by decide,?_⟩
  intro ceiling hmem
  rw [List.mem_singleton.1 hmem]
  exact ⟨1767225601000,hlater,le_rfl⟩

/-- Of two spellings of one instant by one source, the first in the list is reported. -/
theorem reported_ceiling_follows_order :
    resolveGrantValidity spellingPlatform sampleInstant (some sampleLaterInstant)
        [⟨.authority,sampleLaterInstant⟩, ⟨.authority,"2026-01-01T00:00:01Z"⟩] ≠
      resolveGrantValidity spellingPlatform sampleInstant (some sampleLaterInstant)
        [⟨.authority,"2026-01-01T00:00:01Z"⟩, ⟨.authority,sampleLaterInstant⟩] := by
  intro h
  have hreported := congrArg (fun answer => answer.reported.map (·.notAfter)) h
  revert hreported
  decide +kernel

end Frontera.Grant
