import Frontera.Context.Growth
import Mathlib.Logic.Relation

/-! The same readings classified at a later instant. Where no further reading comes of age, a key
resolves again exactly as long as every fact it rests on is fresh; the ceiling of a decision covers
the facts its reads are satisfied by, and no operand of a derived one. -/

namespace Frontera.Context

open Frontera.Data List Option

variable {ms : ℚ} {n now : Int} {P : Platform} {observedAt instant : String} {observed : Int}
  {start head : Option String} {staleAt : String}

theorem abs_timeClip_le (h : timeClip ms = some n) : |n| ≤ maxTime := by
  unfold timeClip at h
  split_ifs at h with hrange hsign
  · cases h
    rw [abs_of_nonneg hsign] at hrange
    have hfloor : (⌊ms⌋ : ℚ) ≤ maxTime := (Int.floor_le ms).trans hrange
    rw [abs_of_nonneg (Int.floor_nonneg.2 hsign)]
    exact_mod_cast hfloor
  · cases h
    rw [abs_of_neg (not_le.1 hsign)] at hrange
    have hceil : -(maxTime : ℚ) ≤ ⌈ms⌉ := by linarith [Int.le_ceil ms]
    rw [abs_of_nonpos (Int.ceil_le.2 (by exact_mod_cast (not_le.1 hsign).le))]
    have hceil' : -maxTime ≤ ⌈ms⌉ := by exact_mod_cast hceil
    omega

theorem lt_of_lt_timeClip (h : timeClip ms = some n) (hnow : now < n) : (now : ℚ) < ms := by
  unfold timeClip at h
  split_ifs at h
  · cases h
    exact lt_of_lt_of_le (by exact_mod_cast hnow) (Int.floor_le ms)
  · cases h
    exact Int.lt_ceil.1 hnow

section

variable (hobserved : P.dateParse observedAt = some observed)
  (hinstant : P.dateParse instant = some now)
include hobserved hinstant

theorem isFreshAt_of_lt_stale {stale : Int} {maxAgeSeconds : ℚ} (hrange : |now| ≤ maxTime)
    (hage : |now - observed| ≤ 2 ^ 53) (hstale : staleInstant observed maxAgeSeconds = some stale)
    (hnow : now < stale) : isFreshAt P observedAt maxAgeSeconds instant = true := by
  unfold staleInstant at hstale
  simp only [bind_eq_bind,bind_eq_some_iff] at hstale
  obtain ⟨bound,hbound,hclip⟩ := hstale
  have hround := lt_of_lt_timeClip hclip hnow
  have hexact : (now : ℚ) < observed + bound := by
    by_contra hle
    have hsmall : |now| ≤ 2 ^ 53 := hrange.trans (by norm_num [maxTime])
    exact absurd (Binary64.round_le_int (not_lt.1 hle) hsmall) (not_le.2 hround)
  have hdifference : Binary64.round ((now : ℚ) - observed) = now - observed := by
    have hint := Binary64.round_int hage
    push_cast at hint
    exact hint
  simp only [isFreshAt,hobserved,hinstant,hbound,all_some,hdifference,decide_eq_true_eq]
  linarith

theorem isFutureDatedAt_iff {skew : Int} (hskew : 0 ≤ skew ∧ skew ≤ 300) :
    isFutureDatedAt P observedAt instant skew = true ↔ skew * 1000 < observed - now := by
  simp only [isFutureDatedAt,hobserved,hinstant,decide_eq_true_eq]
  constructor
  · intro h
    by_contra hle
    have hbound : ((observed : ℚ) - now) ≤ ((skew * 1000 : Int) : ℚ) := by
      exact_mod_cast not_lt.1 hle
    have hsmall : |skew * 1000| ≤ 2 ^ 53 := by
      rw [abs_of_nonneg (by omega)]
      omega
    have hround := Binary64.round_le_int hbound hsmall
    push_cast at hround
    linarith
  · intro h
    have hbound : ((skew * 1000 + 1 : Int) : ℚ) ≤ (observed : ℚ) - now := by
      exact_mod_cast (by omega : skew * 1000 + 1 ≤ observed - now)
    have hsmall : |skew * 1000 + 1| ≤ 2 ^ 53 := by
      rw [abs_of_nonneg (by omega)]
      omega
    have hround := Binary64.int_le_round hbound hsmall
    push_cast at hround
    linarith

end

namespace ContextResolutionService

variable {P : Platform} {service : ContextResolutionService P}

theorem skew_range (service : ContextResolutionService P) : 0 ≤ service.declaration.maxFutureSkewSeconds ∧
      service.declaration.maxFutureSkewSeconds ≤ 300 := by
  have hvalid := service.declaration_valid
  simp only [isValidContextDeclaration,Bool.and_eq_true,decide_eq_true_eq] at hvalid
  exact hvalid.2

/-- The reading is not dated after one instant and come of age by the other. -/
def StaysFutureDated (service : ContextResolutionService P) (instant laterInstant : String)
    (observation : ContextFactObservation) : Prop :=
  isFutureDatedAt P observation.observedAt instant service.declaration.maxFutureSkewSeconds = true →
    isFutureDatedAt P observation.observedAt laterInstant
      service.declaration.maxFutureSkewSeconds = true

variable {observation : ContextFactObservation} {instant laterInstant : String}
  {organizationId : Option String} {now : Int} {derivation : ContextDerivation}
  {facts : List ContextFact} {fact : ContextFact} {key : String} {final : List ContextFact}
  {known : List (String × String)} {keys : List String} {operands : List ContextFact}
  {derivations : List ContextDerivation} {reading later : Reading}

theorem refusalOf_later {later : Int} (hnow : P.dateParse instant = some now)
    (hlater : P.dateParse laterInstant = some later) (hle : now ≤ later)
    (hfuture : service.StaysFutureDated instant laterInstant observation) :
    service.refusalOf observation laterInstant organizationId =
      service.refusalOf observation instant organizationId := by
  have hsame : P.dateParse observation.observedAt ≠ none →
      isFutureDatedAt P observation.observedAt laterInstant
        service.declaration.maxFutureSkewSeconds =
      isFutureDatedAt P observation.observedAt instant
        service.declaration.maxFutureSkewSeconds := by
    intro hparse
    obtain ⟨observed,hobserved⟩ := ne_none_iff_exists'.1 hparse
    rw [Bool.eq_iff_iff]
    refine ⟨?_,hfuture⟩
    rw [isFutureDatedAt_iff hobserved hlater service.skew_range,
      isFutureDatedAt_iff hobserved hnow service.skew_range]
    intro h
    omega
  unfold refusalOf
  cases service.sourceOf observation.sourceId with
  | none => rfl
  | some source =>
    dsimp only
    by_cases hparse : P.dateParse observation.observedAt = none
    · have hbefore : (refusalBeforeTime (P := P) source observation organizationId).isSome := by
        unfold refusalBeforeTime
        split_ifs <;> simp_all
      obtain ⟨reason,hreason⟩ := isSome_iff_exists.1 hbefore
      rw [hreason]
      rfl
    · rw [hsame hparse]

theorem admitted_later {observations : List ContextFactObservation} {later : Int}
    (hnow : P.dateParse instant = some now) (hlater : P.dateParse laterInstant = some later)
    (hle : now ≤ later)
    (hfuture : ∀ observation ∈ observations, service.StaysFutureDated instant laterInstant observation)
    (key : String) :
    service.admitted ⟨observations,laterInstant,organizationId⟩ key =
      service.admitted ⟨observations,instant,organizationId⟩ key := by
  apply filter_congr
  intro observation hobservation
  rw [refusalOf_later hnow hlater hle (hfuture observation hobservation)]

/-- The key is computed from the operand. -/
def IsOperand (service : ContextResolutionService P) (key operand : String) : Prop :=
  ∃ derivation ∈ service.derivations, derivation.key = key ∧ operand ∈ derivation.operandKeys

def isFreshFact (P : Platform) (instant : String) (fact : ContextFact) : Bool :=
  fact.freshness.all fun freshness => isFreshAt P fact.observedAt freshness.maxAgeSeconds instant

/-- Every resolved fact that the key rests on, its own included, is fresh. -/
def Lasting (service : ContextResolutionService P) (facts : List ContextFact) (instant key : String) :
    Prop :=
  ∀ operand, Relation.ReflTransGen service.IsOperand key operand → ∀ fact,
    resolvedFact facts operand = some fact → isFreshFact P instant fact = true

theorem isOperand_iff (h : derivation ∈ service.derivations) (operand : String) :
    service.IsOperand derivation.key operand ↔ operand ∈ derivation.operandKeys := by
  constructor
  · rintro ⟨other,hother,hkey,hoperand⟩
    rwa [inj_on_of_nodup_map service.derivedKeys_nodup hother h hkey] at hoperand
  · exact fun hoperand => ⟨derivation,h,rfl,hoperand⟩

theorem lasting_derived (h : derivation ∈ service.derivations)
    (hfact : resolvedFact facts derivation.key = some fact) :
    service.Lasting facts instant derivation.key ↔ isFreshFact P instant fact = true ∧
        ∀ operand ∈ derivation.operandKeys, service.Lasting facts instant operand := by
  constructor
  · intro hlasting
    refine ⟨hlasting derivation.key .refl fact hfact,?_⟩
    intro operand hoperand other hreach
    exact hlasting other (.head ((isOperand_iff h operand).2 hoperand) hreach)
  · rintro ⟨hown,hoperands⟩ other hreach otherFact hother
    rcases Relation.ReflTransGen.cases_head hreach with rfl | ⟨operand,hoperand,hrest⟩
    · rw [hfact] at hother
      cases hother
      exact hown
    · exact hoperands operand ((isOperand_iff h operand).1 hoperand) other hrest otherFact hother

theorem lasting_requested (h : key ∉ service.derivedKeys)
    (hfact : resolvedFact facts key = some fact) :
    service.Lasting facts instant key ↔ isFreshFact P instant fact = true := by
  refine ⟨fun hlasting => hlasting key .refl fact hfact,?_⟩
  intro hown other hreach otherFact hother
  rcases Relation.ReflTransGen.cases_head hreach with rfl | ⟨operand,⟨derivation,hmem,hkey,-⟩,-⟩
  · rw [hfact] at hother
    cases hother
    exact hown
  · exact absurd (hkey ▸ mem_map_of_mem hmem) h

theorem all_toFreshness {observedAt : String} {bound : Option ℚ}
    (h : bound.all (fun bound => isFreshAt P observedAt bound instant) = true) :
    (service.toFreshness observedAt bound).all (fun freshness =>
        isFreshAt P observedAt freshness.maxAgeSeconds laterInstant) =
      bound.all fun bound => isFreshAt P observedAt bound laterInstant := by
  cases bound with
  | none => rfl
  | some bound =>
    cases hparse : P.dateParse observedAt with
    | none => simp [isFreshAt,hparse] at h
    | some observed => simp [toFreshness,hparse]

/-- Of the resolved facts so far, the lasting ones are current at the later instant. -/
def Lasts (service : ContextResolutionService P) (final : List ContextFact) (laterInstant : String)
    (facts : List ContextFact) (known : List (String × String)) : Prop :=
  ∀ key fact, resolvedFact facts key = some fact →
    (service.Lasting final laterInstant key ∧ knownInstant known key = some fact.observedAt) ∨
      (¬service.Lasting final laterInstant key ∧ knownInstant known key = none)

section

variable (h : service.Lasts final laterInstant facts known)
  (hoperands : keys.mapM (resolvedFact facts) = some operands)
include h hoperands

theorem Lasts.mapM_of_lasting (hlasting : ∀ key ∈ keys, service.Lasting final laterInstant key) :
    keys.mapM (knownInstant known) = some (operands.map (·.observedAt)) := by
  induction keys generalizing operands with
  | nil =>
    cases hoperands
    rfl
  | cons key keys ih =>
    simp only [mapM_cons,bind_eq_bind,Option.pure_def,bind_eq_some_iff, Option.some.injEq] at hoperands ⊢
    obtain ⟨fact,hfact,rest,hrest,rfl⟩ := hoperands
    rcases h key fact hfact with ⟨-,hknown⟩ | ⟨hnot,-⟩
    · exact ⟨_,hknown,_,ih hrest fun other hother =>
        hlasting other (mem_cons_of_mem key hother),rfl⟩
    · exact absurd (hlasting key mem_cons_self) hnot

theorem Lasts.mapM_of_not_lasting (hnot : ¬∀ key ∈ keys, service.Lasting final laterInstant key) :
    keys.mapM (knownInstant known) = none := by
  induction keys generalizing operands with
  | nil => exact absurd (by simp) hnot
  | cons key keys ih =>
    simp only [mapM_cons,bind_eq_bind,Option.pure_def,bind_eq_some_iff] at hoperands ⊢
    obtain ⟨fact,hfact,rest,hrest,-⟩ := hoperands
    rcases h key fact hfact with ⟨hlasting,hknown⟩ | ⟨-,hknown⟩
    · have hrestNot : ¬∀ other ∈ keys, service.Lasting final laterInstant other := by
        intro hall
        apply hnot
        simpa [hlasting] using hall
      rw [ih hrest hrestNot]
      simp
    · rw [hknown]
      rfl

end

theorem oldestInstant_congr (instant laterInstant : String) {instants : List String}
    (h : instants ≠ []) : oldestInstant P laterInstant instants = oldestInstant P instant instants := by
  cases instants with
  | nil => exact absurd rfl h
  | cons first rest => rfl

theorem operandKeys_ne_nil (service : ContextResolutionService P)
    (h : derivation ∈ service.derivations) : derivation.operandKeys ≠ [] := by
  have hvalid := service.declaration_valid
  simp only [isValidContextDeclaration,Bool.and_eq_true,List.all_eq_true] at hvalid
  have hone := hvalid.1.1.1.1.2 derivation h
  simp only [isValidContextDerivation,Bool.and_eq_true,Bool.not_eq_true'] at hone
  simpa using hone.1.1.2

theorem mapM_ne_nil (hkeys : keys ≠ []) (h : keys.mapM (resolvedFact facts) = some operands) :
    operands ≠ [] := by
  cases keys with
  | nil => exact absurd rfl hkeys
  | cons key keys =>
    simp only [mapM_cons,bind_eq_bind,Option.pure_def,bind_eq_some_iff,Option.some.injEq] at h
    obtain ⟨fact,-,rest,-,rfl⟩ := h
    simp

theorem Lasts.next (h : service.Lasts final laterInstant facts known)
    (hmem : derivation ∈ service.derivations) (hfacts : ∀ fact ∈ facts, fact.key ≠ derivation.key)
    (hknown : ∀ entry ∈ known, entry.1 ≠ derivation.key)
    (hfinal : ∀ fact, resolvedFact (service.deriveNext instant facts derivation) derivation.key = some fact → resolvedFact final derivation.key = some fact) :
    service.Lasts final laterInstant (service.deriveNext instant facts derivation)
      (service.currentNext laterInstant known derivation) := by
  intro key fact hfact
  have hfact' := hfact
  rw [service.resolvedFact_deriveNext hfacts] at hfact
  rw [service.knownInstant_currentNext hknown]
  split_ifs at hfact ⊢ with hkey
  · subst hkey
    rw [lasting_derived hmem (hfinal fact hfact')]
    obtain ⟨hderive,hresolved⟩ := filter_eq_some_iff.1 hfact
    obtain ⟨operands,number,hoperands,-,-,rfl⟩ := service.derive_eq_some_iff.1 hderive
    have hbound : ((service.requirementOf derivation.key).bind (·.maxAgeSeconds)).all (fun bound =>
        isFreshAt P (oldestInstant P instant (operands.map (·.observedAt))) bound instant) = true := by
      simp only [derivedFact] at hresolved
      split_ifs at hresolved with hfresh
      · exact hfresh
      · cases hresolved
    have hown : isFreshFact P laterInstant (service.derivedFact derivation operands number instant) =
        ((service.requirementOf derivation.key).bind (·.maxAgeSeconds)).all (fun bound =>
          isFreshAt P (oldestInstant P instant (operands.map (·.observedAt))) bound laterInstant) :=
      all_toFreshness hbound
    rw [hown]
    unfold currentDerivation
    by_cases hoperandsLast : ∀ operand ∈ derivation.operandKeys, service.Lasting final laterInstant operand
    · rw [h.mapM_of_lasting hoperands hoperandsLast,bind_some]
      have hne : operands.map (·.observedAt) ≠ [] := by
        simpa using mapM_ne_nil (service.operandKeys_ne_nil hmem) hoperands
      dsimp only
      rw [oldestInstant_congr instant laterInstant hne]
      split_ifs with hfresh
      · exact .inl ⟨⟨hfresh,hoperandsLast⟩,rfl⟩
      · exact .inr ⟨fun hboth => hfresh hboth.1,rfl⟩
    · rw [h.mapM_of_not_lasting hoperands hoperandsLast]
      exact .inr ⟨fun hboth => hoperandsLast hboth.2,rfl⟩
  · exact h key fact hfact

theorem resolvedFact_foldl (h : resolvedFact facts key = some fact) :
    resolvedFact (derivations.foldl (service.deriveNext instant) facts) key = some fact := by
  induction derivations generalizing facts with
  | nil => exact h
  | cons derivation derivations ih =>
    apply ih
    unfold deriveNext
    rw [resolvedFact_append,h,some_or]

theorem Lasts.foldl (hmem : ∀ derivation ∈ derivations, derivation ∈ service.derivations)
    (hnodup : (derivations.map (·.key)).Nodup)
    (h : service.Lasts (derivations.foldl (service.deriveNext instant) facts) laterInstant facts known)
    (hfacts : ∀ fact ∈ facts, fact.key ∉ derivations.map (·.key))
    (hknown : ∀ entry ∈ known, entry.1 ∉ derivations.map (·.key)) :
    service.Lasts (derivations.foldl (service.deriveNext instant) facts) laterInstant
      (derivations.foldl (service.deriveNext instant) facts)
      (derivations.foldl (service.currentNext laterInstant) known) := by
  induction derivations generalizing facts known with
  | nil => exact h
  | cons derivation derivations ih =>
    simp only [map_cons,nodup_cons,mem_cons,not_or,forall_eq_or_imp] at hnodup hfacts hknown hmem
    rw [foldl_cons,foldl_cons]
    rw [foldl_cons] at h
    apply ih hmem.2 hnodup.2
    · exact h.next hmem.1 (fun fact hfact => (hfacts fact hfact).1)
        (fun entry hentry => (hknown entry hentry).1) fun fact hfact => resolvedFact_foldl hfact
    · intro fact hfact
      rcases service.key_of_mem_deriveNext hfact with hold | hkey
      · exact (hfacts fact hold).2
      · rw [hkey]
        exact hnodup.1
    · intro entry hentry
      rcases service.key_of_mem_currentNext hentry with hold | hkey
      · exact (hknown entry hold).2
      · rw [hkey]
        exact hnodup.1

theorem freshnessStatus_eq_resolved_iff (service : ContextResolutionService P) :
    service.freshnessStatus observation instant = .resolved ↔
      (service.maxAgeFor observation.key observation).all (fun bound =>
        isFreshAt P observation.observedAt bound instant) = true := by
  unfold freshnessStatus
  cases service.maxAgeFor observation.key observation with
  | none => simp
  | some bound =>
    cases hfresh : isFreshAt P observation.observedAt bound instant <;> simp [hfresh]

theorem currentReading_later (husable : service.usable later key = service.usable reading key)
    {winner : ContextFactObservation} (h : service.currentReading reading key = some winner) :
    service.currentReading later key =
      if service.freshnessStatus winner later.instant = .resolved then some winner else none := by
  unfold currentReading at h ⊢
  rw [husable]
  split at h
  · cases h
  · split_ifs at h with hcurrent
    simp only [Bool.and_eq_true,decide_eq_true_eq] at hcurrent
    cases h
    simp only [hcurrent.1,Bool.true_and,decide_eq_true_eq]

section

variable (husable : ∀ key, service.usable later key = service.usable reading key)
include husable

theorem lasts_requested : service.Lasts (service.factsOf reading) later.instant
      (service.requestedKeys.flatMap (service.readFacts reading))
      (service.requestedKeys.filterMap fun key =>
        (service.currentReading later key).map fun winner => (key, winner.observedAt)) := by
  intro key fact hfact
  have hfinal : resolvedFact (service.factsOf reading) key = some fact := resolvedFact_foldl hfact
  rw [service.resolvedFact_requested] at hfact
  rw [service.knownInstant_requested]
  split_ifs at hfact ⊢ with hkey
  obtain ⟨winner,hwinner,rfl⟩ := map_eq_some_iff.1 hfact
  have hfresh := service.freshnessStatus_eq_resolved_iff.1
    (service.currentReading_eq_some hwinner).2.2.2
  have hown : isFreshFact P later.instant (service.toFact winner .resolved []) = true ↔
      service.freshnessStatus winner later.instant = .resolved := by
    rw [freshnessStatus_eq_resolved_iff,← all_toFreshness hfresh]
    rfl
  rw [lasting_requested (service.not_mem_derivedKeys hkey) hfinal,hown,
    currentReading_later (husable key) hwinner]
  by_cases hstatus : service.freshnessStatus winner later.instant = .resolved
  · exact .inl ⟨hstatus,by rw [if_pos hstatus]; rfl⟩
  · exact .inr ⟨hstatus,by rw [if_neg hstatus]; rfl⟩

theorem isCurrent_later_iff (h : resolvedFact (service.factsOf reading) key = some fact) :
    service.isCurrent later key = true ↔ service.Lasting (service.factsOf reading) later.instant key := by
  have hkeys : ∀ fact ∈ service.requestedKeys.flatMap (service.readFacts reading),
      fact.key ∉ service.derivations.map (·.key) := by
    intro fact hfact
    obtain ⟨key,hkey,hread⟩ := mem_flatMap.1 hfact
    rw [service.key_of_mem_readFacts hread]
    exact service.not_mem_derivedKeys hkey
  have hknown : ∀ entry ∈ service.requestedKeys.filterMap (fun key =>
      (service.currentReading later key).map fun winner => (key, winner.observedAt)),
      entry.1 ∉ service.derivations.map (·.key) := by
    intro entry hentry
    obtain ⟨key,hkey,hcurrent⟩ := mem_filterMap.1 hentry
    obtain ⟨winner,-,rfl⟩ := map_eq_some_iff.1 hcurrent
    exact service.not_mem_derivedKeys hkey
  have hlasts : service.Lasts (service.factsOf reading) later.instant (service.factsOf reading)
      (service.currentInstants later) :=
    Lasts.foldl (fun _ hmem => hmem) service.derivedKeys_nodup (lasts_requested husable) hkeys hknown
  unfold isCurrent
  rcases hlasts key fact h with ⟨hlasting,hcurrent⟩ | ⟨hnot,hcurrent⟩
  · rw [hcurrent]
    exact iff_of_true rfl hlasting
  · rw [hcurrent]
    exact iff_of_false (by simp) hnot

end

end ContextResolutionService

theorem isBefore_iff {left right : String} {leftAt rightAt : Int}
    (hleft : P.dateParse left = some leftAt) (hright : P.dateParse right = some rightAt) :
    isBefore P left right = true ↔ leftAt < rightAt := by
  simp [isBefore,hleft,hright]

section

variable (hstart : ∀ text, start = some text → (P.dateParse text).isSome)
  (hhead : ∀ text, head = some text → (P.dateParse text).isSome)
include hstart hhead

theorem lowerCeiling_le (h : start = some staleAt ∨ head = some staleAt) :
    ∃ text textAt staleInstant, lowerCeiling P start head = some text ∧
      P.dateParse text = some textAt ∧ P.dateParse staleAt = some staleInstant ∧ textAt ≤ staleInstant := by
  have hself : ∀ text, (P.dateParse text).isSome → lowerCeiling P start head = some text →
      text = staleAt → ∃ text textAt staleInstant, lowerCeiling P start head = some text ∧
        P.dateParse text = some textAt ∧ P.dateParse staleAt = some staleInstant ∧
        textAt ≤ staleInstant := by
    rintro text hparse hlower rfl
    obtain ⟨n,hn⟩ := isSome_iff_exists.1 hparse
    exact ⟨text,n,n,hlower,hn,hn,le_rfl⟩
  cases start with
  | none =>
    rcases h with h | rfl
    · cases h
    · exact hself staleAt (hhead staleAt rfl) rfl rfl
  | some before =>
    cases head with
    | none =>
      rcases h with h | h
      · cases h
        exact hself staleAt (hstart staleAt rfl) rfl rfl
      · cases h
    | some next =>
      obtain ⟨beforeAt,hbefore⟩ := isSome_iff_exists.1 (hstart before rfl)
      obtain ⟨nextAt,hnext⟩ := isSome_iff_exists.1 (hhead next rfl)
      simp only [lowerCeiling,isBefore_iff hnext hbefore]
      split_ifs with hlt
      · rcases h with h | h
        · cases h
          exact ⟨next,nextAt,beforeAt,rfl,hnext,hbefore,hlt.le⟩
        · cases h
          exact ⟨_,nextAt,nextAt,rfl,hnext,hnext,le_rfl⟩
      · rcases h with h | h
        · cases h
          exact ⟨_,beforeAt,beforeAt,rfl,hbefore,hbefore,le_rfl⟩
        · cases h
          exact ⟨before,beforeAt,nextAt,rfl,hbefore,hnext,not_lt.1 hlt⟩

theorem lowerCeiling_parses (text : String) (h : lowerCeiling P start head = some text) :
    (P.dateParse text).isSome := by
  unfold lowerCeiling at h
  split at h
  · exact hstart text h
  · exact hhead text h
  · split_ifs at h
    · exact hhead text h
    · exact hstart text h

end

theorem exists_ceiling {staleAts : List (Option String)}
    (hparse : ∀ staleAt, some staleAt ∈ staleAts → (P.dateParse staleAt).isSome)
    (hstart : ∀ text, start = some text → (P.dateParse text).isSome)
    (h : start = some staleAt ∨ some staleAt ∈ staleAts) :
    ∃ validUntil untilAt staleInstant, staleAts.foldl (lowerCeiling P) start = some validUntil ∧
      P.dateParse validUntil = some untilAt ∧ P.dateParse staleAt = some staleInstant ∧
      untilAt ≤ staleInstant := by
  induction staleAts generalizing start staleAt with
  | nil =>
    rcases h with rfl | h
    · obtain ⟨n,hn⟩ := isSome_iff_exists.1 (hstart staleAt rfl)
      exact ⟨staleAt,n,n,rfl,hn,hn,le_rfl⟩
    · cases h
  | cons head staleAts ih =>
    have hhead : ∀ text, head = some text → (P.dateParse text).isSome :=
      fun text htext => hparse text (htext ▸ mem_cons_self)
    have htail : ∀ text, some text ∈ staleAts → (P.dateParse text).isSome :=
      fun text htext => hparse text (mem_cons_of_mem _ htext)
    have hnext := lowerCeiling_parses hstart hhead
    have hcases : (start = some staleAt ∨ head = some staleAt) ∨ some staleAt ∈ staleAts := by
      rcases h with h | h
      · exact .inl (.inl h)
      · rcases mem_cons.1 h with heq | hmem
        · exact .inl (.inr heq.symm)
        · exact .inr hmem
    rcases hcases with hfirst | hmem
    · obtain ⟨text,textAt,stale,hlower,htextAt,hstale,hle⟩ := lowerCeiling_le hstart hhead hfirst
      obtain ⟨validUntil,untilAt,middle,hfold,huntil,hmiddle,hbound⟩ :=
        ih htail hnext (.inl hlower)
      rw [htextAt] at hmiddle
      cases hmiddle
      exact ⟨validUntil,untilAt,stale,hfold,huntil,hstale,hbound.trans hle⟩
    · exact ih htail hnext (.inr hmem)

namespace ContextResolutionService

variable {P : Platform} {service : ContextResolutionService P}

variable {facts : List ContextFact} {fact : ContextFact} {reading : Reading}
  {resolution : ContextResolution}

theorem exists_bound_of_mem_foldl {instant : String} {derivations : List ContextDerivation}
    (hfacts : ∀ fact ∈ facts, ∃ bound, fact.freshness = service.toFreshness fact.observedAt bound)
    (h : fact ∈ derivations.foldl (service.deriveNext instant) facts) :
    ∃ bound, fact.freshness = service.toFreshness fact.observedAt bound := by
  induction derivations generalizing facts with
  | nil => exact hfacts fact h
  | cons derivation derivations ih =>
    apply ih _ h
    intro next hnext
    rcases mem_append.1 hnext with hold | hderived
    · exact hfacts next hold
    · obtain ⟨_,_,_,_,_,rfl⟩ := service.derive_eq_some_iff.1 (mem_toList.1 hderived)
      exact ⟨_,rfl⟩

theorem exists_bound_of_mem_factsOf (h : fact ∈ service.factsOf reading) :
    ∃ bound, fact.freshness = service.toFreshness fact.observedAt bound := by
  apply exists_bound_of_mem_foldl _ h
  intro read hread
  obtain ⟨key,-,hmem⟩ := mem_flatMap.1 hread
  unfold readFacts at hmem
  split at hmem
  · cases hmem
  · split_ifs at hmem
    · obtain ⟨observation,-,rfl⟩ := mem_map.1 hmem
      exact ⟨_,rfl⟩
    · rw [mem_singleton.1 hmem]
      exact ⟨_,rfl⟩

theorem freshness_of_classify (h : service.classify reading = some resolution)
    (hfact : fact ∈ service.factsOf reading) {freshness : ContextFactFreshness}
    (hfreshness : fact.freshness = some freshness) :
    ∃ observed stale, P.dateParse fact.observedAt = some observed ∧
      staleInstant observed freshness.maxAgeSeconds = some stale ∧
      freshness.staleAt = some (service.dates.toISOString stale) := by
  obtain ⟨-,-,-,-,-,-,-,hdated⟩ := service.classify_facts h
  have hstaleAt := hdated fact hfact
  obtain ⟨bound,hbound⟩ := exists_bound_of_mem_factsOf hfact
  rw [hfreshness] at hbound
  simp only [toFreshness,bind_eq_bind,Option.pure_def] at hbound
  obtain ⟨maxAge,rfl,hrest⟩ := bind_eq_some_iff.1 hbound.symm
  obtain ⟨observed,hobserved,heq⟩ := bind_eq_some_iff.1 hrest
  cases heq
  simp only [isDated,hfreshness,all_some,isSome_map] at hstaleAt
  obtain ⟨stale,hstale⟩ := isSome_iff_exists.1 hstaleAt
  exact ⟨observed,stale,hobserved,hstale,by rw [hstale]; rfl⟩

theorem dateParse_staleAt (service : ContextResolutionService P) {observed stale : Int}
    {maxAgeSeconds : ℚ} (h : staleInstant observed maxAgeSeconds = some stale) :
    P.dateParse (service.dates.toISOString stale) = some stale := by
  simp only [staleInstant,bind_eq_bind,bind_eq_some_iff] at h
  obtain ⟨bound,-,hclip⟩ := h
  exact service.dates.dateParse_toISOString stale (abs_timeClip_le hclip)

theorem mem_of_resolvedFact {key : String} (h : resolvedFact facts key = some fact) : fact ∈ facts :=
  mem_of_find?_eq_some h

theorem ceilingOf_parses (h : service.classify reading = some resolution)
    {requirements : List ContextRequirement} {read : ContextFactRead} {staleAt : String}
    (hceiling : ceilingOf resolution requirements read = some staleAt) :
    (P.dateParse staleAt).isSome := by
  unfold ceilingOf at hceiling
  split_ifs at hceiling
  rw [service.resolvedFact_of_classify h] at hceiling
  obtain ⟨fact,hfact,hfreshness⟩ := bind_eq_some_iff.1 hceiling
  obtain ⟨freshness,hsome,hstaleAt⟩ := bind_eq_some_iff.1 hfreshness
  obtain ⟨observed,stale,-,hstale,htext⟩ :=
    freshness_of_classify h (mem_of_resolvedFact hfact) hsome
  rw [htext] at hstaleAt
  cases hstaleAt
  rw [service.dateParse_staleAt hstale]
  rfl

end ContextResolutionService

/-- A total over an amount that no source attests as the amount's own requirement asks. -/
def invoiceDeclaration (maxAgeSeconds : ℚ) : ContextDeclaration where
  requirements := [⟨"invoice.amount",.attested,some maxAgeSeconds,false,false⟩,
    ⟨"invoice.total",.authoritative,none,true,false⟩]
  derivations := [⟨"invoice.total",.sum,["invoice.amount"]⟩]

def invoiceSources : List ContextSource :=
  [⟨"erp",.erp,"ERP",.authoritative,[⟨"invoice.amount",none⟩],none,none⟩]

def invoiceService : ContextResolutionService contextPlatform where
  dates := contextDates
  sources := invoiceSources
  declaration := invoiceDeclaration 1
  declaration_valid := by decide
  sources_valid := by decide
  sources_once := by decide

def patientInvoiceService : ContextResolutionService contextPlatform where
  dates := contextDates
  sources := invoiceSources
  declaration := invoiceDeclaration 60
  declaration_valid := by decide
  sources_valid := by decide
  sources_once := by decide

def invoiceReadings : List ContextFactObservation :=
  [{ key := "invoice.amount", value := .number (.ofRat 5), sourceId := "erp",
     observedAt := sampleInstant }]

def invoiceTotal : ContextRequirement := ⟨"invoice.total",.authoritative,none,true,false⟩

/-- The reason codes and the ceiling of a decision under a profile, and its read of the total. -/
def invoiceDecision (service : ContextResolutionService contextPlatform) (instant : String) :
    Option (List AocKernelReasonCode × Option String × ContextFactReadStatus ×
      Option ContextFactValue) := do
  let resolution ← service.classify ⟨invoiceReadings,instant,none⟩
  let facts ← resolveKernelContextFacts ⟨service,some "invoices@1#digest"⟩ resolution
  let read := readContextFact resolution invoiceTotal
  return (facts.reasonCodes, facts.evaluation.validUntil, read.status, read.value)

open ContextResolutionService

section Decision

variable {P : Platform} {selection : KernelContextSelection P} {reading : Reading}
  {resolution : ContextResolution} {facts : KernelContextFacts} {requirement : ContextRequirement}

theorem evaluation_validUntil (hprofile : selection.profile.isSome = true)
    (h : resolveKernelContextFacts selection resolution = some facts) :
    facts.evaluation.validUntil = validUntilOf P resolution selection.requirements
      (readContextFacts resolution selection.requirements) := by
  have hevaluation := resolveKernelContextFacts_evaluation h
  unfold toContextEvaluation at hevaluation
  simp only [hprofile,if_true] at hevaluation
  split_ifs at hevaluation
  rw [← some.inj hevaluation]

theorem not_mem_restrictiveKeys (hreq : requirement ∈ selection.requirements)
    (hmaterial : requirement.restrictive = false) :
    (restrictiveKeys selection.requirements).contains requirement.key = false := by
  rw [← Bool.not_eq_true,contains_iff_mem]
  intro hmem
  obtain ⟨other,hother,hkey⟩ := mem_map.1 hmem
  obtain ⟨hlisted,hrestrictive⟩ := mem_filter.1 hother
  rw [selection.service.requirement_unique hlisted hreq hkey,hmaterial] at hrestrictive
  cases hrestrictive

theorem isFreshFact_of_before_ceiling (hprofile : selection.profile.isSome = true)
    (h : selection.service.classify reading = some resolution)
    (hfacts : resolveKernelContextFacts selection resolution = some facts)
    (hreq : requirement ∈ selection.requirements) (hmaterial : requirement.restrictive = false)
    (hsatisfied : (readContextFact resolution requirement).status = .satisfied)
    {fact : ContextFact}
    (hfact : resolvedFact (selection.service.factsOf reading) requirement.key = some fact)
    {laterInstant : String} {later : Int} (hlater : P.dateParse laterInstant = some later)
    (hceiling : ∀ validUntil, facts.evaluation.validUntil = some validUntil →
      isBefore P laterInstant validUntil = true)
    (hage : ∀ observed, P.dateParse fact.observedAt = some observed → |later - observed| ≤ 2 ^ 53) :
    isFreshFact P laterInstant fact = true := by
  unfold isFreshFact
  cases hfreshness : fact.freshness with
  | none => rfl
  | some freshness =>
    obtain ⟨observed,stale,hobserved,hstale,hstaleAt⟩ :=
      freshness_of_classify h (mem_of_resolvedFact hfact) hfreshness
    have hread : ceilingOf resolution selection.requirements (readContextFact resolution requirement) =
        some (selection.service.dates.toISOString stale) := by
      unfold ceilingOf
      rw [readContextFact_key,not_mem_restrictiveKeys hreq hmaterial,hsatisfied,
        selection.service.resolvedFact_of_classify h,hfact]
      simp [hfreshness,hstaleAt]
    have hentered : some (selection.service.dates.toISOString stale) ∈
        (readContextFacts resolution selection.requirements).map
          (ceilingOf resolution selection.requirements) := by
      rw [← hread]
      exact mem_map_of_mem (mem_map_of_mem hreq)
    have hparse : ∀ staleAt, some staleAt ∈ (readContextFacts resolution selection.requirements).map
        (ceilingOf resolution selection.requirements) → (P.dateParse staleAt).isSome := by
      intro staleAt hmem
      obtain ⟨read,-,hceilingOf⟩ := mem_map.1 hmem
      exact ceilingOf_parses h hceilingOf
    have hnone : ∀ text, (none : Option String) = some text → (P.dateParse text).isSome := by simp
    obtain ⟨validUntil,untilAt,staleAt,huntil,huntilAt,hstaleInstant,hle⟩ :=
      exists_ceiling hparse hnone (.inr hentered)
    have hbefore := hceiling validUntil ((evaluation_validUntil hprofile hfacts).trans huntil)
    rw [isBefore_iff hlater huntilAt] at hbefore
    rw [selection.service.dateParse_staleAt hstale] at hstaleInstant
    cases hstaleInstant
    exact isFreshAt_of_lt_stale hobserved hlater
      (selection.service.dates.dateParse_range laterInstant later hlater) (hage observed hobserved)
      hstale (by omega)

theorem exists_value_of_satisfied
    (h : (readContextFact resolution requirement).status = .satisfied) :
    ∃ value, (readContextFact resolution requirement).value = some value := by
  unfold readContextFact at h ⊢
  split_ifs at h ⊢
  cases hfact : resolvedFact resolution.facts requirement.key with
  | none => simp [hfact] at h
  | some fact =>
    simp only [hfact] at h ⊢
    unfold readResolvedFact at h ⊢
    dsimp only at h ⊢
    split_ifs at h ⊢
    exact ⟨_,rfl⟩

end Decision

end Frontera.Context
