import Frontera.Context.Ceiling
import Frontera.Context.Growth

/-! What a satisfied read rests on: the admitted readings of a read key, all of one value, and the
operands of a derived one, down to the readings they come from. Two readings the deduplication
takes for one are the exception. -/

namespace Frontera.Context

open Frontera.Data List Option

theorem milliseconds_mono {bound other : ℚ} (hbound : 0 ≤ bound) (h : bound ≤ other) {ms : ℚ}
    (hms : milliseconds other = some ms) : ∃ least, milliseconds bound = some least ∧ least ≤ ms := by
  have hround : Binary64.round (bound * 1000) ≤ Binary64.round (other * 1000) :=
    Binary64.round_mono (by positivity) (by linarith)
  have hnonneg : 0 ≤ Binary64.round (bound * 1000) := by
    have hzero := Binary64.round_mono le_rfl (show (0 : ℚ) ≤ bound * 1000 by positivity)
    rwa [show Binary64.round 0 = 0 by simpa using Binary64.round_int (z := 0) (by norm_num)] at hzero
  unfold milliseconds at hms ⊢
  split_ifs at hms with hother
  cases hms
  refine ⟨_,if_neg ?_,hround⟩
  intro hbig
  apply hother
  simp only [Binary64.overflows,decide_eq_true_eq,abs_of_nonneg hnonneg,
    abs_of_nonneg (hnonneg.trans hround)] at hbig ⊢
  exact hbig.trans hround

/-- What is fresh under a bound is fresh under every laxer one. -/
theorem isFreshAt_mono {P : Platform} {observedAt instant : String} {bound other : ℚ}
    (hbound : 0 ≤ bound) (h : bound ≤ other) (hfresh : isFreshAt P observedAt bound instant = true) :
    isFreshAt P observedAt other instant = true := by
  unfold isFreshAt at hfresh ⊢
  split at hfresh
  · rw [Option.all_eq_true] at hfresh ⊢
    intro ms hms
    obtain ⟨least,hleast,hle⟩ := milliseconds_mono hbound h (mem_def.1 hms)
    have hlt := hfresh least (mem_def.2 hleast)
    rw [decide_eq_true_eq] at hlt ⊢
    exact hlt.trans_le hle
  · cases hfresh

theorem rank_minimumContextTrustClass_le {classes : List TerminalContextTrustClass}
    {trustClass : TerminalContextTrustClass} (h : trustClass ∈ classes) :
    (minimumContextTrustClass classes).rank ≤ trustClass.rank := by
  have hfold : ∀ (classes : List TerminalContextTrustClass) (start : TerminalContextTrustClass),
      ∀ trustClass ∈ start :: classes, (classes.foldl (fun lowest trustClass =>
        if trustClass.rank < lowest.rank then trustClass else lowest) start).rank ≤
          trustClass.rank := by
    intro classes
    induction classes with
    | nil =>
      intro start trustClass hmem
      rw [mem_singleton.1 hmem,foldl_nil]
    | cons next classes ih =>
      intro start trustClass hmem
      rw [foldl_cons]
      have hstart := ih (if next.rank < start.rank then next else start) _ mem_cons_self
      have hlowest : (if next.rank < start.rank then next else start).rank ≤ start.rank ∧
          (if next.rank < start.rank then next else start).rank ≤ next.rank := by
        split_ifs <;> omega
      rcases mem_cons.1 hmem with rfl | hmem
      · exact hstart.trans hlowest.1
      · rcases mem_cons.1 hmem with rfl | hmem
        · exact hstart.trans hlowest.2
        · exact ih _ _ (mem_cons_of_mem _ hmem)
  cases classes with
  | nil => cases h
  | cons first classes => exact hfold (first :: classes) .attested _ (mem_cons_of_mem _ h)

namespace ContextResolutionService

variable {P : Platform} {service : ContextResolutionService P} {reading : Reading}
  {resolution : ContextResolution} {key : String} {fact : ContextFact} {facts : List ContextFact}
  {operands : List ContextFact} {keys : List String} {derivation : ContextDerivation}
  {derivations : List ContextDerivation} {observation : ContextFactObservation}

theorem exists_operand (h : keys.mapM (resolvedFact facts) = some operands) (hkey : key ∈ keys) :
    ∃ fact ∈ operands, resolvedFact facts key = some fact := by
  induction keys generalizing operands with
  | nil => cases hkey
  | cons first keys ih =>
    simp only [mapM_cons,bind_eq_bind,Option.pure_def,bind_eq_some_iff, Option.some.injEq] at h
    obtain ⟨fact,hfact,rest,hrest,rfl⟩ := h
    rcases List.mem_cons.1 hkey with rfl | hkey
    · exact ⟨fact,mem_cons_self,hfact⟩
    · obtain ⟨other,hother,hresolved⟩ := ih hrest hkey
      exact ⟨other,mem_cons_of_mem _ hother,hresolved⟩

theorem mapM_resolvedFact_foldl {instant : String}
    (h : keys.mapM (resolvedFact facts) = some operands) :
    keys.mapM (resolvedFact (derivations.foldl (service.deriveNext instant) facts)) = some operands := by
  induction keys generalizing operands with
  | nil => exact h
  | cons first keys ih =>
    simp only [mapM_cons,bind_eq_bind,Option.pure_def,bind_eq_some_iff, Option.some.injEq] at h ⊢
    obtain ⟨fact,hfact,rest,hrest,rfl⟩ := h
    exact ⟨fact,resolvedFact_foldl hfact,rest,ih hrest,rfl⟩

/-- A resolved fact of a derivation is what its resolved operands give. -/
theorem derivedFact_of_foldl {instant : String} (hmem : derivation ∈ derivations)
    (hnodup : (derivations.map (·.key)).Nodup)
    (hfacts : ∀ fact ∈ facts, fact.key ∉ derivations.map (·.key))
    (h : resolvedFact (derivations.foldl (service.deriveNext instant) facts) derivation.key = some fact) :
    ∃ operands number, derivation.operandKeys.mapM (resolvedFact
        (derivations.foldl (service.deriveNext instant) facts)) = some operands ∧
      evaluateContextDerivation derivation.operator (operands.map (·.value)) = some number ∧
      service.derivedFact derivation operands number instant = fact := by
  induction derivations generalizing facts with
  | nil => cases hmem
  | cons next derivations ih =>
    rw [map_cons,nodup_cons] at hnodup
    rw [foldl_cons] at h ⊢
    rcases mem_cons.1 hmem with rfl | hmem
    · have hown : answers facts derivation.key = [] :=
        answers_eq_nil fun fact hfact heq => hfacts fact hfact (by simp [heq])
      rw [resolvedFact_eq,service.answers_foldl_deriveNext_of_not_mem hnodup.1,deriveNext,
        answers_append,hown,nil_append] at h
      have hderived := (mem_filter.1 (mem_of_find?_eq_some h)).1
      obtain ⟨operands,number,hoperands,hnumber,-,heq⟩ :=
        service.derive_eq_some_iff.1 (mem_toList.1 hderived)
      have hnext : derivation.operandKeys.mapM (resolvedFact
          ([derivation].foldl (service.deriveNext instant) facts)) = some operands :=
        mapM_resolvedFact_foldl hoperands
      exact ⟨operands,number,mapM_resolvedFact_foldl hnext,hnumber,heq⟩
    · apply ih hmem hnodup.2 _ h
      intro fact hfact
      rcases service.key_of_mem_deriveNext hfact with hold | hkey
      · exact fun hin => hfacts fact hold (mem_cons_of_mem _ hin)
      · rw [hkey]
        exact hnodup.1

theorem resolvedFact_read (h : key ∈ service.requestedKeys) : resolvedFact (service.factsOf reading) key =
      (service.currentReading reading key).map fun winner => service.toFact winner .resolved [] := by
  have hown : answers (service.readFacts reading key) key = service.readFacts reading key :=
    filter_eq_self.2 fun fact hfact => by simpa using service.key_of_mem_readFacts hfact
  rw [← service.resolvedFact_readFacts,resolvedFact_eq,resolvedFact_eq,hown,
    service.answers_factsOf_requested reading h]

theorem derivedFact_of_resolvedFact (h : derivation ∈ service.derivations)
    (hfact : resolvedFact (service.factsOf reading) derivation.key = some fact) :
    ∃ operands number,
      derivation.operandKeys.mapM (resolvedFact (service.factsOf reading)) = some operands ∧
      evaluateContextDerivation derivation.operator (operands.map (·.value)) = some number ∧
      service.derivedFact derivation operands number reading.instant = fact := by
  refine derivedFact_of_foldl h service.derivedKeys_nodup ?_ hfact
  intro read hread hderived
  obtain ⟨key,hkey,hmem⟩ := mem_flatMap.1 hread
  rw [service.key_of_mem_readFacts hmem] at hderived
  exact service.not_mem_derivedKeys hkey hderived

theorem mem_requestedKeys {requirement : ContextRequirement}
    (h : requirement ∈ service.declaration.requirements)
    (hread : requirement.key ∉ service.derivedKeys) : requirement.key ∈ service.requestedKeys := by
  unfold requestedKeys sortTexts
  rw [(perm_insertionSort _ _).mem_iff,mem_filter,mem_dedup]
  exact ⟨mem_map_of_mem h,by simpa using hread⟩

/-- The bounds `maxAgeFor` takes the strictest of. -/
def applicableBounds (service : ContextResolutionService P) (key : String)
    (observation : ContextFactObservation) : List ℚ :=
  let attested : Option ℚ := (service.sourceOf observation.sourceId).bind fun source =>
    (contextSourceAttestationFor source key).bind fun attestation =>
      attestation.maxAgeSeconds.map fun bound => (bound : ℚ)
  let declared := (service.requirementOf key).bind (·.maxAgeSeconds)
  let observed := observation.maxAgeSeconds.map fun bound => if 0 < bound then bound else 0
  attested.toList ++ declared.toList ++ observed.toList

theorem applicableBounds_nonneg : ∀ bound ∈ service.applicableBounds key observation, 0 ≤ bound := by
  intro bound hbound
  simp only [applicableBounds,mem_append,mem_toList] at hbound
  rcases hbound with (hattested | hdeclared) | hobserved
  · obtain ⟨source,hsource,hattests⟩ := bind_eq_some_iff.1 hattested
    obtain ⟨attestation,hattestation,hsome⟩ := bind_eq_some_iff.1 hattests
    obtain ⟨own,hown,rfl⟩ : ∃ own, attestation.maxAgeSeconds = some own ∧ (own : ℚ) = bound := by
      simpa [bind_eq_some_iff] using hsome
    have hattestation := mem_of_find?_eq_some hattestation
    unfold sourceOf at hsource
    split_ifs at hsource
    · cases hsource
      cases hattestation
    · have hvalid := all_eq_true.1 service.sources_valid source
        (mem_of_find?_eq_some hsource)
      simp only [isValidContextSource,Bool.and_eq_true,List.all_eq_true] at hvalid
      have hrange := (hvalid.1.1.2 attestation hattestation).2
      rw [hown] at hrange
      have hone := (of_decide_eq_true hrange).1
      exact_mod_cast (by omega : 0 ≤ own)
  · obtain ⟨requirement,hrequirement,hown⟩ := Option.bind_eq_some_iff.1 hdeclared
    have hvalid := service.declaration_valid
    simp only [isValidContextDeclaration,Bool.and_eq_true,List.all_eq_true] at hvalid
    have hone := hvalid.1.1.1.1.1.1 requirement (List.mem_of_find?_eq_some hrequirement)
    simp only [isValidContextRequirement,hown,Bool.and_eq_true,all_some, decide_eq_true_eq] at hone
    exact hone.1.2.le
  · obtain ⟨own,-,rfl⟩ := map_eq_some_iff.1 hobserved
    split_ifs with hpos
    · exact hpos.le
    · exact le_rfl

/-- A reading that is current is fresh under every bound that applies to it. -/
theorem fresh_of_current (h : service.freshnessStatus observation reading.instant = .resolved) :
    ∀ bound ∈ service.applicableBounds observation.key observation,
      isFreshAt P observation.observedAt bound reading.instant = true := by
  intro bound hbound
  rw [service.freshnessStatus_eq_resolved_iff] at h
  have hleast : service.maxAgeFor observation.key observation =
    (service.applicableBounds observation.key observation).min? := rfl
  obtain ⟨least,hmin⟩ := isSome_iff_exists.1
    (isSome_min?_of_mem (l := service.applicableBounds observation.key observation) hbound)
  rw [hleast,hmin] at h
  obtain ⟨hmem,hle⟩ := List.min?_eq_some_iff.1 hmin
  exact isFreshAt_mono (applicableBounds_nonneg least hmem) (hle bound hbound) h

/-- Admitted readings of a requested key that the deduplication takes for one have one value. -/
def TellsApart (service : ContextResolutionService P) (reading : Reading) : Prop :=
  ∀ key ∈ service.requestedKeys, ∀ left ∈ service.admitted reading key,
    ∀ right ∈ service.admitted reading key, left.identity = right.identity → left.value = right.value

theorem value_of_current (hapart : service.TellsApart reading) (hkey : key ∈ service.requestedKeys)
    {winner : ContextFactObservation} (h : service.currentReading reading key = some winner) :
    ∀ observation ∈ service.admitted reading key, observation.value = winner.value := by
  intro observation hobservation
  obtain ⟨hwinner,hagree,-⟩ := service.currentReading_eq_some h
  obtain ⟨kept,hkept,hsame⟩ := exists_identity_of_deduplicated (P := P) hobservation
  rw [← hapart key hkey kept (service.mem_usable hkept) observation hobservation hsame]
  by_contra hne
  exact Bool.eq_false_iff.1 hagree (disagree_iff.2 ⟨kept,hkept,winner,hwinner,hne⟩)

theorem rank_le_of_chain (hfact : resolvedFact (service.factsOf reading) key = some fact)
    {other : String} (hother : other ∈ service.requestedKeys)
    (h : Relation.ReflTransGen service.IsOperand key other)
    (hcurrent : service.currentReading reading other = some observation) :
    fact.effectiveTrustClass.rank ≤ (service.trustClassOf observation).rank := by
  induction h using Relation.ReflTransGen.head_induction_on generalizing fact with
  | refl =>
    rw [resolvedFact_read hother,hcurrent] at hfact
    cases hfact
    rw [effectiveTrustClass_toFact (service.currentReading_eq_some hcurrent).1]
  | head hstep _ ih =>
    obtain ⟨derivation,hderivation,rfl,hoperand⟩ := hstep
    obtain ⟨operands,number,hoperands,-,rfl⟩ :=
      derivedFact_of_resolvedFact hderivation hfact
    obtain ⟨operand,hmem,hresolved⟩ := exists_operand hoperands hoperand
    exact (rank_minimumContextTrustClass_le (mem_map_of_mem hmem)).trans (ih hresolved)

theorem factsOf_congr {others : List ContextFactObservation}
    (h : ∀ key ∈ service.requestedKeys,
      service.admitted { reading with observations := others } key = service.admitted reading key) :
    service.factsOf { reading with observations := others } = service.factsOf reading := by
  have hread : ∀ key ∈ service.requestedKeys,
      service.readFacts { reading with observations := others } key = service.readFacts reading key := by
    intro key hkey
    unfold readFacts usable
    rw [h key hkey]
  unfold factsOf
  rw [flatMap_congr hread]

/-- What the facts of a resolution rest on. -/
structure Grounded (service : ContextResolutionService P) (reading : Reading)
    (resolution : ContextResolution) : Prop where
  read : ∀ requirement ∈ service.declaration.requirements, ∀ value, requirement.key ∉ service.derivedKeys →
    (readContextFact resolution requirement).status = .satisfied →
    (readContextFact resolution requirement).value = some value →
    (∀ observation ∈ service.admitted reading requirement.key, observation.value = value) ∧
      ∃ observation ∈ service.admitted reading requirement.key,
        contextTrustClassSatisfies (service.trustClassOf observation)
            requirement.minimumTrustClass = true ∧
          ∀ bound ∈ service.applicableBounds requirement.key observation,
            isFreshAt P observation.observedAt bound reading.instant = true
  derived : ∀ requirement ∈ service.declaration.requirements, ∀ value,
    ∀ derivation ∈ service.derivations, derivation.key = requirement.key →
    (readContextFact resolution requirement).status = .satisfied →
    (readContextFact resolution requirement).value = some value → ∃ operands number,
      derivation.operandKeys.mapM (resolvedFact resolution.facts) = some operands ∧
        evaluateContextDerivation derivation.operator (operands.map (·.value)) = some number ∧
        value = .number number ∧ ∀ operand ∈ derivation.operandKeys,
          (operand ∈ service.requestedKeys ∨ operand ∈ service.derivedKeys) ∧
            resolution.conflicted.contains operand = false
  trust : ∀ key fact, resolvedFact resolution.facts key = some fact →
    ∀ other ∈ service.requestedKeys, Relation.ReflTransGen service.IsOperand key other →
    ∀ observation, service.currentReading reading other = some observation →
      fact.effectiveTrustClass.rank ≤ (service.trustClassOf observation).rank
  ignored : ∀ others : List ContextFactObservation, (∀ key ∈ service.requestedKeys,
      service.admitted { reading with observations := others } key = service.admitted reading key) →
    (service.classify { reading with observations := others }).map (·.facts) = some resolution.facts

/-- Where the deduplication tells the admitted readings apart, a satisfied key has the value of all
its admitted readings, or what its resolved operands give, at no higher trust than any reading it
comes from. -/
theorem facts_grounded (service : ContextResolutionService P) {reading : Reading}
    (hapart : service.TellsApart reading) {resolution : ContextResolution}
    (h : service.classify reading = some resolution) : service.Grounded reading resolution := by
  have hresolved : resolvedFact resolution.facts = resolvedFact (service.factsOf reading) :=
    funext (service.resolvedFact_of_classify h)
  refine ⟨?_,?_,?_,?_⟩
  · intro requirement hreq value hread hstatus hvalue
    have hkey := mem_requestedKeys hreq hread
    obtain ⟨fact,hfact,rfl,haccepts⟩ :=
      (service.readContextFact_satisfied_iff h hreq).1 ⟨hstatus,hvalue⟩
    rw [resolvedFact_read hkey] at hfact
    obtain ⟨winner,hwinner,rfl⟩ := Option.map_eq_some_iff.1 hfact
    obtain ⟨husable,-,-,hfresh⟩ := service.currentReading_eq_some hwinner
    have hadmitted := service.mem_usable husable
    refine ⟨value_of_current hapart hkey hwinner,winner,hadmitted,?_,?_⟩
    · rw [← effectiveTrustClass_toFact husable .resolved []]
      exact haccepts.1
    · have hown := fresh_of_current hfresh
      rwa [(service.mem_admitted.1 hadmitted).2.1] at hown
  · intro requirement hreq value derivation hderivation hkey hstatus hvalue
    obtain ⟨fact,hfact,rfl,-⟩ :=
      (service.readContextFact_satisfied_iff h hreq).1 ⟨hstatus,hvalue⟩
    rw [← hkey] at hfact
    obtain ⟨operands,number,hoperands,hnumber,rfl⟩ :=
      derivedFact_of_resolvedFact hderivation hfact
    refine ⟨operands,number,hresolved ▸ hoperands,hnumber,rfl,fun operand hoperand => ?_⟩
    obtain ⟨operandFact,-,hoperandFact⟩ := exists_operand hoperands hoperand
    refine ⟨?_,(service.clear_of_resolvedFact h hoperandFact).1⟩
    by_cases hderived : operand ∈ service.derivedKeys
    · exact .inr hderived
    · have hvalid := service.declaration_valid
      simp only [isValidContextDeclaration,Bool.and_eq_true,List.all_eq_true] at hvalid
      have hdeclared := hvalid.1.1.2 derivation hderivation operand hoperand
      obtain ⟨declared,hmem,rfl⟩ := List.mem_map.1 (List.contains_iff_mem.1 hdeclared)
      exact .inl (mem_requestedKeys hmem hderived)
  · intro key fact hfact other hother hchain observation hcurrent
    rw [hresolved] at hfact
    exact rank_le_of_chain hfact hother hchain hcurrent
  · intro others hothers
    unfold classify at h ⊢
    rw [factsOf_congr hothers]
    dsimp only at h ⊢
    split_ifs at h ⊢
    cases h
    rfl

end ContextResolutionService

/-- Two sources whose ids the separator of the deduplication confuses. -/
def nulService : ContextResolutionService contextPlatform where
  dates := contextDates
  sources := [⟨"a",.request,"A",.asserted,[⟨"vendor.blocked",none⟩],none,none⟩,
    ⟨"a\x00string",.request,"B",.asserted,[⟨"vendor.blocked",none⟩],none,none⟩]
  declaration := { requirements := [vendorBlocked] }
  declaration_valid := vendorService.declaration_valid
  sources_valid := by decide
  sources_once := by decide

def nulReadings : List ContextFactObservation :=
  [{ vendorReading "a" sampleInstant with value := .text "string\x00v" },
    { vendorReading "a\x00string" sampleInstant with value := .text "v" }]

/-- One source says one thing, another something else, and the key is satisfied with the first. -/
theorem nul_readings_merged :
    ∃ resolution, nulService.classify ⟨nulReadings,sampleInstant,none⟩ = some resolution ∧
      ¬nulService.Grounded ⟨nulReadings,sampleInstant,none⟩ resolution := by
  have hread : (nulService.classify ⟨nulReadings,sampleInstant,none⟩).any (fun resolution =>
      (readContextFact resolution vendorBlocked).status == .satisfied &&
        (readContextFact resolution vendorBlocked).value == some (.text "string\x00v")) = true := by
    decide +kernel
  have hadmitted : (nulService.admitted ⟨nulReadings,sampleInstant,none⟩ "vendor.blocked").any
      (fun observation => observation.value == .text "v") = true := by decide +kernel
  obtain ⟨resolution,hresolution,hvalue⟩ := (Option.any_eq_true _ _).1 hread
  rw [Bool.and_eq_true,beq_iff_eq,beq_iff_eq] at hvalue
  obtain ⟨observation,hobservation,hother⟩ := List.any_eq_true.1 hadmitted
  refine ⟨resolution,hresolution,fun hgrounded => ?_⟩
  have hsame := (hgrounded.read vendorBlocked mem_cons_self _ (by decide) hvalue.1 hvalue.2).1
    observation hobservation
  rw [beq_iff_eq.1 hother] at hsame
  exact absurd hsame (by decide)

theorem vendor_facts_grounded : ∃ resolution,
    vendorService.classify ⟨[vendorReading "agent" sampleInstant],sampleInstant,none⟩ = some resolution ∧
      vendorService.Grounded ⟨[vendorReading "agent" sampleInstant],sampleInstant,none⟩
        resolution := by
  obtain ⟨resolution,hresolution⟩ := Option.isSome_iff_exists.1 (show (vendorService.classify
    ⟨[vendorReading "agent" sampleInstant],sampleInstant,none⟩).isSome = true by decide +kernel)
  refine ⟨resolution,hresolution,vendorService.facts_grounded ?_ hresolution⟩
  intro key _ left hleft right hright _
  rw [List.mem_singleton.1 (vendorService.mem_admitted.1 hleft).1,
    List.mem_singleton.1 (vendorService.mem_admitted.1 hright).1]

end Frontera.Context
