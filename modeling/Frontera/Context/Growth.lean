import Frontera.Context.Classification

/-! Two classifications of one service, the second over at least the admitted readings of the first.
A key that both resolve has one value, at no lower a trust class; whether the second resolves it is
decided by the instants of the readings it prefers. -/

namespace Frontera.Context

open List Option

namespace ContextResolutionService

variable {P : Platform} (service : ContextResolutionService P)

/-- The preferred reading, where the readings agree and that one is fresh. -/
def currentReading (reading : Reading) (key : String) : Option ContextFactObservation :=
  match service.usable reading key with
  | [] => none
  | first :: rest =>
      if !disagree (first :: rest) &&
          service.freshnessStatus (service.preferred first rest) reading.instant = .resolved then
        some (service.preferred first rest)
      else none

def knownInstant (known : List (String × String)) (key : String) : Option String :=
  (known.find? fun entry => entry.1 == key).map (·.2)

/-- The instant of a derived key, where its operands are current and the oldest is fresh. -/
def currentDerivation (instant : String) (known : List (String × String))
    (derivation : ContextDerivation) : Option String :=
  (derivation.operandKeys.mapM (knownInstant known)).bind fun instants =>
    let observedAt := oldestInstant P instant instants
    if ((service.requirementOf derivation.key).bind (·.maxAgeSeconds)).all fun bound =>
        isFreshAt P observedAt bound instant then some observedAt
    else none

def currentNext (instant : String) (known : List (String × String))
    (derivation : ContextDerivation) : List (String × String) :=
  known ++ ((service.currentDerivation instant known derivation).map (derivation.key, ·)).toList

/-- The keys whose readings are current, with the instant each is as old as. -/
def currentInstants (reading : Reading) : List (String × String) :=
  service.derivations.foldl (service.currentNext reading.instant)
    (service.requestedKeys.filterMap fun key =>
      (service.currentReading reading key).map fun winner => (key, winner.observedAt))

def isCurrent (reading : Reading) (key : String) : Bool :=
  (knownInstant (service.currentInstants reading) key).isSome

variable {key : String} {facts : List ContextFact} {instant : String}
  {derivation : ContextDerivation} {known : List (String × String)} {later : List ContextFact}
  {keys : List String} {operands : List ContextFact} {fact : ContextFact} {reading : Reading}
  {observation : ContextFactObservation} {more : Reading} {requirement : ContextRequirement}

theorem resolvedFact_append {front back : List ContextFact} :
    resolvedFact (front ++ back) key = (resolvedFact front key).or (resolvedFact back key) :=
  List.find?_append ..

theorem resolvedFact_eq_none (h : ∀ fact ∈ facts, fact.key ≠ key) : resolvedFact facts key = none :=
  List.find?_eq_none.2 fun fact hfact => by simp [h fact hfact]

theorem resolvedFact_deriveNext (h : ∀ fact ∈ facts, fact.key ≠ derivation.key) (key : String) :
    resolvedFact (service.deriveNext instant facts derivation) key = if key = derivation.key then
        (service.derive derivation facts instant).filter fun fact => fact.resolution == .resolved
      else resolvedFact facts key := by
  unfold deriveNext
  rw [resolvedFact_append]
  cases hderive : service.derive derivation facts instant with
  | none =>
    split_ifs with hkey
    · rw [hkey,resolvedFact_eq_none h]
      rfl
    · exact or_none
  | some fact =>
    have hfact := service.key_of_derive hderive
    split_ifs with hkey
    · rw [hkey,resolvedFact_eq_none h]
      simp [resolvedFact,hfact,Option.filter,List.find?_singleton]
    · have hother : resolvedFact [fact] key = none :=
        resolvedFact_eq_none (by simpa [hfact] using Ne.symm hkey)
      simp [hother]

theorem knownInstant_append {front back : List (String × String)} :
    knownInstant (front ++ back) key = (knownInstant front key).or (knownInstant back key) := by
  unfold knownInstant
  rw [List.find?_append,map_or]

theorem knownInstant_eq_none (h : ∀ entry ∈ known, entry.1 ≠ key) : knownInstant known key = none := by
  unfold knownInstant
  rw [List.find?_eq_none.2 fun entry hentry => by simp [h entry hentry],map_none]

theorem knownInstant_currentNext (h : ∀ entry ∈ known, entry.1 ≠ derivation.key) (key : String) :
    knownInstant (service.currentNext instant known derivation) key =
      if key = derivation.key then service.currentDerivation instant known derivation
      else knownInstant known key := by
  unfold currentNext
  rw [knownInstant_append]
  split_ifs with hkey
  · rw [hkey,knownInstant_eq_none h]
    cases service.currentDerivation instant known derivation <;> simp [knownInstant]
  · cases service.currentDerivation instant known derivation <;>
      simp [knownInstant,Ne.symm hkey]

theorem minimumContextTrustClass_mono {left right : List TerminalContextTrustClass}
    (h : List.Forall₂ (fun a b => a.rank ≤ b.rank) left right) :
    (minimumContextTrustClass left).rank ≤ (minimumContextTrustClass right).rank := by
  have hfold : ∀ a b : TerminalContextTrustClass, a.rank ≤ b.rank → (left.foldl (fun lowest trustClass =>
        if trustClass.rank < lowest.rank then trustClass else lowest) a).rank ≤
      (right.foldl (fun lowest trustClass =>
        if trustClass.rank < lowest.rank then trustClass else lowest) b).rank := by
    induction h with
    | nil => exact fun _ _ hab => hab
    | cons hhead _ ih =>
      intro a b hab
      apply ih
      dsimp only
      split_ifs <;> omega
  unfold minimumContextTrustClass
  cases h with
  | nil => exact le_rfl
  | cons hhead htail => exact hfold .attested .attested le_rfl

/-- Facts of a classification beside those of a second and the current keys of the second. -/
structure Compared (facts later : List ContextFact) (known : List (String × String)) : Prop where
  same : ∀ key fact laterFact, resolvedFact facts key = some fact →
    resolvedFact later key = some laterFact → laterFact.value = fact.value ∧
      fact.effectiveTrustClass.rank ≤ laterFact.effectiveTrustClass.rank
  current : ∀ key fact, resolvedFact facts key = some fact →
    knownInstant known key = (resolvedFact later key).map (·.observedAt)

section

variable (h : Compared facts later known)
include h

theorem Compared.mapM_known (hoperands : keys.mapM (resolvedFact facts) = some operands) :
    keys.mapM (knownInstant known) = (keys.mapM (resolvedFact later)).map (List.map (·.observedAt)) := by
  induction keys generalizing operands with
  | nil => rfl
  | cons key keys ih =>
    simp only [mapM_cons,bind_eq_bind,Option.pure_def,bind_eq_some_iff] at *
    obtain ⟨fact,hfact,rest,hrest,-⟩ := hoperands
    rw [h.current key fact hfact,ih hrest]
    cases resolvedFact later key <;> cases keys.mapM (resolvedFact later) <;> rfl

theorem Compared.mapM_same {laterOperands : List ContextFact}
    (hoperands : keys.mapM (resolvedFact facts) = some operands)
    (hlater : keys.mapM (resolvedFact later) = some laterOperands) :
    laterOperands.map (·.value) = operands.map (·.value) ∧
      List.Forall₂ (fun a b => a.rank ≤ b.rank) (operands.map (·.effectiveTrustClass))
        (laterOperands.map (·.effectiveTrustClass)) := by
  induction keys generalizing operands laterOperands with
  | nil =>
    cases hoperands
    cases hlater
    exact ⟨rfl,.nil⟩
  | cons key keys ih =>
    simp only [mapM_cons,bind_eq_bind,Option.pure_def,bind_eq_some_iff,Option.some.injEq] at *
    obtain ⟨fact,hfact,rest,hrest,rfl⟩ := hoperands
    obtain ⟨laterFact,hlaterFact,laterRest,hlaterRest,rfl⟩ := hlater
    obtain ⟨hvalue,hrank⟩ := h.same key fact laterFact hfact hlaterFact
    obtain ⟨hvalues,hranks⟩ := ih hrest hlaterRest
    exact ⟨by simp [hvalue,hvalues],.cons hrank hranks⟩

/-- Over comparable facts, a derivation of the first results in the second exactly where its key
is current. -/
theorem Compared.derive {laterInstant : String}
    (hfact : service.derive derivation facts instant = some fact) :
    service.currentDerivation laterInstant known derivation =
        ((service.derive derivation later laterInstant).filter fun laterFact =>
          laterFact.resolution == .resolved).map (·.observedAt) ∧
      ∀ laterFact, service.derive derivation later laterInstant = some laterFact →
        laterFact.value = fact.value ∧
          fact.effectiveTrustClass.rank ≤ laterFact.effectiveTrustClass.rank := by
  obtain ⟨operands,number,hoperands,hnumber,hadmissible,rfl⟩ :=
    service.derive_eq_some_iff.1 hfact
  unfold currentDerivation
  rw [h.mapM_known hoperands]
  cases hlater : derivation.operandKeys.mapM (resolvedFact later) with
  | none =>
    have hnone : service.derive derivation later laterInstant = none := by
      simp [ContextResolutionService.derive,hlater]
    rw [hnone]
    exact ⟨rfl,fun _ hlaterFact => by cases hlaterFact⟩
  | some laterOperands =>
    obtain ⟨hvalues,hranks⟩ := h.mapM_same hoperands hlater
    have hsome : service.derive derivation later laterInstant =
        some (service.derivedFact derivation laterOperands number laterInstant) :=
      service.derive_eq_some_iff.2 ⟨laterOperands,number,hlater,hvalues ▸ hnumber,hadmissible,rfl⟩
    rw [hsome]
    refine ⟨?_,?_⟩
    · simp only [map_some,bind_some,filter_some,derivedFact]
      split_ifs <;> simp_all
    · rintro laterFact hlaterFact
      cases hlaterFact
      exact ⟨rfl,minimumContextTrustClass_mono hranks⟩

theorem Compared.next (instant laterInstant : String)
    (hfacts : ∀ fact ∈ facts, fact.key ≠ derivation.key)
    (hlater : ∀ fact ∈ later, fact.key ≠ derivation.key)
    (hknown : ∀ entry ∈ known, entry.1 ≠ derivation.key) :
    Compared (service.deriveNext instant facts derivation)
      (service.deriveNext laterInstant later derivation)
      (service.currentNext laterInstant known derivation) := by
  refine ⟨?_,?_⟩
  · intro key fact laterFact hfact hlaterFact
    rw [service.resolvedFact_deriveNext hfacts] at hfact
    rw [service.resolvedFact_deriveNext hlater] at hlaterFact
    split_ifs at hfact hlaterFact with hkey
    · obtain ⟨hderive,-⟩ := filter_eq_some_iff.1 hfact
      obtain ⟨hlaterDerive,-⟩ := filter_eq_some_iff.1 hlaterFact
      exact (h.derive service hderive).2 laterFact hlaterDerive
    · exact h.same key fact laterFact hfact hlaterFact
  · intro key fact hfact
    rw [service.resolvedFact_deriveNext hfacts] at hfact
    rw [service.knownInstant_currentNext hknown,service.resolvedFact_deriveNext hlater]
    split_ifs at hfact ⊢ with hkey
    · obtain ⟨hderive,-⟩ := filter_eq_some_iff.1 hfact
      exact (h.derive service hderive).1
    · exact h.current key fact hfact

end

theorem key_of_mem_deriveNext (h : fact ∈ service.deriveNext instant facts derivation) :
    fact ∈ facts ∨ fact.key = derivation.key := by
  rcases mem_append.1 h with hfact | hfact
  · exact .inl hfact
  · exact .inr (service.key_of_derive (mem_toList.1 hfact))

theorem key_of_mem_currentNext {entry : String × String}
    (h : entry ∈ service.currentNext instant known derivation) :
    entry ∈ known ∨ entry.1 = derivation.key := by
  rcases mem_append.1 h with hentry | hentry
  · exact .inl hentry
  · obtain ⟨observedAt,-,rfl⟩ := map_eq_some_iff.1 (mem_toList.1 hentry)
    exact .inr rfl

theorem Compared.foldl {derivations : List ContextDerivation} (instant laterInstant : String)
    (hnodup : (derivations.map (·.key)).Nodup) (h : Compared facts later known)
    (hfacts : ∀ fact ∈ facts, fact.key ∉ derivations.map (·.key))
    (hlater : ∀ fact ∈ later, fact.key ∉ derivations.map (·.key))
    (hknown : ∀ entry ∈ known, entry.1 ∉ derivations.map (·.key)) :
    Compared (derivations.foldl (service.deriveNext instant) facts)
      (derivations.foldl (service.deriveNext laterInstant) later)
      (derivations.foldl (service.currentNext laterInstant) known) := by
  induction derivations generalizing facts later known with
  | nil => exact h
  | cons derivation derivations ih =>
    simp only [map_cons,nodup_cons,mem_cons,not_or] at hnodup hfacts hlater hknown
    rw [foldl_cons,foldl_cons,foldl_cons]
    apply ih hnodup.2
    · exact h.next service instant laterInstant (fun fact hfact => (hfacts fact hfact).1)
        (fun fact hfact => (hlater fact hfact).1) (fun entry hentry => (hknown entry hentry).1)
    · intro fact hfact
      rcases service.key_of_mem_deriveNext hfact with hold | hkey
      · exact (hfacts fact hold).2
      · rw [hkey]
        exact hnodup.1
    · intro fact hfact
      rcases service.key_of_mem_deriveNext hfact with hold | hkey
      · exact (hlater fact hold).2
      · rw [hkey]
        exact hnodup.1
    · intro entry hentry
      rcases service.key_of_mem_currentNext hentry with hold | hkey
      · exact (hknown entry hold).2
      · rw [hkey]
        exact hnodup.1

theorem resolvedFact_readFacts (reading : Reading) (key : String) :
    resolvedFact (service.readFacts reading key) key =
      (service.currentReading reading key).map fun winner => service.toFact winner .resolved [] := by
  have hkey : ∀ fact ∈ service.readFacts reading key, fact.key = key := fun fact hfact =>
    service.key_of_mem_readFacts hfact
  unfold readFacts currentReading at *
  split at hkey
  · next husable => simp [husable,resolvedFact]
  · next first rest husable =>
    simp only [husable]
    cases hdisagree : disagree (first :: rest) with
    | true =>
      simp only [if_true,Bool.not_true,Bool.false_and,Bool.false_eq_true,if_false,map_none]
      apply List.find?_eq_none.2
      intro fact hfact
      obtain ⟨observation,-,rfl⟩ := mem_map.1 hfact
      simp [toFact]
    | false =>
      simp only [hdisagree,Bool.false_eq_true,if_false,mem_singleton,forall_eq] at hkey
      simp only [Bool.false_eq_true,if_false,Bool.not_false,Bool.true_and,decide_eq_true_eq]
      unfold resolvedFact
      rw [List.find?_singleton,hkey]
      cases hstatus : service.freshnessStatus (service.preferred first rest) reading.instant <;>
        simp [toFact]

theorem currentReading_eq_some {winner : ContextFactObservation}
    (h : service.currentReading reading key = some winner) :
    winner ∈ service.usable reading key ∧ disagree (service.usable reading key) = false ∧
      (∀ observation ∈ service.usable reading key,
        (service.trustClassOf observation).rank ≤ (service.trustClassOf winner).rank) ∧
      service.freshnessStatus winner reading.instant = .resolved := by
  unfold currentReading at h
  split at h
  · cases h
  · next first rest husable =>
    split_ifs at h with hcurrent
    simp only [Bool.and_eq_true,Bool.not_eq_true',decide_eq_true_eq] at hcurrent
    cases h
    rw [husable]
    exact ⟨service.preferred_mem first rest,hcurrent.1,
      fun observation hmem => service.rank_le_preferred first rest hmem,hcurrent.2⟩

theorem resolvedFact_requested (reading : Reading) (key : String) :
    resolvedFact (service.requestedKeys.flatMap (service.readFacts reading)) key =
      if key ∈ service.requestedKeys then
        (service.currentReading reading key).map fun winner => service.toFact winner .resolved []
      else none := by
  rw [resolvedFact_eq,service.answers_flatMap_readFacts reading _ service.requestedKeys_nodup]
  split_ifs with hkey
  · have hown : answers (service.readFacts reading key) key = service.readFacts reading key :=
      filter_eq_self.2 fun fact hfact => by simpa using service.key_of_mem_readFacts hfact
    rw [← service.resolvedFact_readFacts,resolvedFact_eq,hown]
  · rfl

theorem knownInstant_requested (reading : Reading) (keys : List String) (key : String) :
    knownInstant (keys.filterMap fun key =>
        (service.currentReading reading key).map fun winner => (key, winner.observedAt)) key =
      if key ∈ keys then (service.currentReading reading key).map (·.observedAt) else none := by
  induction keys with
  | nil => rfl
  | cons other keys ih =>
    rw [filterMap_cons]
    by_cases hkey : key = other
    · subst hkey
      cases hcurrent : service.currentReading reading key with
      | none =>
        rw [map_none,ih,hcurrent]
        simp
      | some winner => simp [knownInstant]
    · have hcons : (key ∈ other :: keys) ↔ key ∈ keys := by simp [hkey]
      simp only [hcons]
      rw [← ih]
      cases service.currentReading reading other with
      | none => rfl
      | some winner => simp [knownInstant,Ne.symm hkey]

/-- The second reading admits what the first does. -/
def Extends (reading more : Reading) : Prop :=
  ∀ key, ∀ observation ∈ service.admitted reading key, observation ∈ service.admitted more key

/-- No source is configured with a NUL in its id. -/
def PlainSources : Prop := ∀ source ∈ service.sources, '\x00' ∉ source.id.toList

variable {service}

theorem admitted_plain (hplain : service.PlainSources)
    (h : observation ∈ service.admitted reading key) :
    isAdmissibleContextFactValue observation.value = true ∧ '\x00' ∉ observation.sourceId.toList := by
  obtain ⟨⟨source,hsource,-,hid⟩,-,hvalue⟩ :=
    service.refusalOf_eq_none (service.mem_admitted.1 h).2.2
  exact ⟨hvalue,hid ▸ hplain source hsource⟩

/-- Every source that answered with a value still answers with it. -/
def Covers (service : ContextResolutionService P) (reading more : Reading) : Prop :=
  ∀ key, ∀ observation ∈ service.usable reading key, ∃ current ∈ service.usable more key,
    current.sourceId = observation.sourceId ∧ current.value = observation.value

theorem Extends.covers (hplain : service.PlainSources) (h : service.Extends reading more) :
    service.Covers reading more := by
  intro key observation hmem
  have hadmitted := h key observation (service.mem_usable hmem)
  obtain ⟨current,hcurrent,hsame⟩ := exists_identity_of_deduplicated (P := P) hadmitted
  obtain ⟨hvalue,hid⟩ := admitted_plain hplain hadmitted
  obtain ⟨hcurrentValue,hcurrentId⟩ := admitted_plain hplain (service.mem_usable hcurrent)
  exact ⟨current,hcurrent, ContextFactObservation.eq_of_identity hcurrentValue hvalue hcurrentId hid hsame⟩

theorem Covers.disagree (h : service.Covers reading more)
    (hdisagree : Context.disagree (service.usable reading key) = true) :
    Context.disagree (service.usable more key) = true := by
  obtain ⟨left,hleft,right,hright,hne⟩ := disagree_iff.1 hdisagree
  obtain ⟨left',hleft',-,hleftValue⟩ := h key left hleft
  obtain ⟨right',hright',-,hrightValue⟩ := h key right hright
  exact disagree_iff.2 ⟨left',hleft',right',hright',by rwa [hleftValue,hrightValue]⟩

theorem effectiveTrustClass_toFact (h : observation ∈ service.usable reading key)
    (status : ResolvedContextFactStatus) (conflicting : List String) :
    (service.toFact observation status conflicting).effectiveTrustClass =
      service.trustClassOf observation := by
  obtain ⟨⟨source,-,hsource,-⟩,-⟩ :=
    service.refusalOf_eq_none (service.mem_admitted.1 (service.mem_usable h)).2.2
  simp [toFact,trustClassOf,hsource]

theorem Covers.compared (h : service.Covers reading more) :
    Compared (service.requestedKeys.flatMap (service.readFacts reading))
      (service.requestedKeys.flatMap (service.readFacts more))
      (service.requestedKeys.filterMap fun key =>
        (service.currentReading more key).map fun winner => (key, winner.observedAt)) := by
  refine ⟨?_,?_⟩
  · intro key fact laterFact hfact hlater
    rw [service.resolvedFact_requested] at hfact hlater
    split_ifs at hfact hlater with hkey
    obtain ⟨winner,hwinner,rfl⟩ := map_eq_some_iff.1 hfact
    obtain ⟨laterWinner,hlaterWinner,rfl⟩ := map_eq_some_iff.1 hlater
    obtain ⟨hmem,-,-,-⟩ := service.currentReading_eq_some hwinner
    obtain ⟨hlaterMem,hagree,hrank,-⟩ := service.currentReading_eq_some hlaterWinner
    obtain ⟨current,hcurrent,hsource,hvalue⟩ := h key winner hmem
    refine ⟨?_,?_⟩
    · have hsame : laterWinner.value = current.value := by
        by_contra hne
        have hdisagree := disagree_iff.2 ⟨laterWinner,hlaterMem,current,hcurrent,hne⟩
        rw [hagree] at hdisagree
        cases hdisagree
      exact hsame.trans hvalue
    · rw [effectiveTrustClass_toFact hmem,effectiveTrustClass_toFact hlaterMem]
      have hclass : service.trustClassOf current = service.trustClassOf winner := by
        unfold trustClassOf
        rw [hsource]
      rw [← hclass]
      exact hrank current hcurrent
  · intro key fact hfact
    rw [service.knownInstant_requested,service.resolvedFact_requested]
    split_ifs
    · rw [Option.map_map]
      rfl
    · rfl

theorem Covers.compared_factsOf (h : service.Covers reading more) :
    Compared (service.factsOf reading) (service.factsOf more) (service.currentInstants more) := by
  have hrequested : ∀ reading : Reading, ∀ fact ∈ service.requestedKeys.flatMap (service.readFacts reading),
        fact.key ∉ service.derivations.map (·.key) := by
    intro reading fact hfact
    obtain ⟨key,hkey,hread⟩ := mem_flatMap.1 hfact
    rw [service.key_of_mem_readFacts hread]
    exact service.not_mem_derivedKeys hkey
  apply h.compared.foldl service _ _ service.derivedKeys_nodup (hrequested reading)
    (hrequested more)
  intro entry hentry
  obtain ⟨key,hkey,hcurrent⟩ := mem_filterMap.1 hentry
  obtain ⟨winner,-,rfl⟩ := map_eq_some_iff.1 hcurrent
  exact service.not_mem_derivedKeys hkey

theorem accepts_of_rank_le {laterFact : ContextFact} (h : service.accepts requirement fact)
    (hrank : fact.effectiveTrustClass.rank ≤ laterFact.effectiveTrustClass.rank) :
    service.accepts requirement laterFact := by
  refine ⟨?_,?_⟩
  · have htrust := h.1
    simp only [contextTrustClassSatisfies,decide_eq_true_eq] at htrust ⊢
    omega
  · rintro ⟨hasserted,hposture⟩
    refine h.2 ⟨?_,hposture⟩
    rw [hasserted] at hrank
    cases hclass : fact.effectiveTrustClass <;>
      simp [hclass,TerminalContextTrustClass.rank] at hrank ⊢

/-- A read that was satisfied is satisfied over more readings, with the same value, if and only if
its key is current there. -/
theorem Covers.satisfied_iff (h : service.Covers reading more)
    {resolution moreResolution : ContextResolution}
    (hresolution : service.classify reading = some resolution)
    (hmore : service.classify more = some moreResolution)
    (hreq : requirement ∈ service.declaration.requirements) {value : ContextFactValue}
    (hsatisfied : (readContextFact resolution requirement).status = .satisfied ∧ (readContextFact resolution requirement).value = some value) :
    ((readContextFact moreResolution requirement).status = .satisfied ∧
        (readContextFact moreResolution requirement).value = some value) ↔
      service.isCurrent more requirement.key = true := by
  obtain ⟨fact,hfact,hvalue,haccepts⟩ :=
    (service.readContextFact_satisfied_iff hresolution hreq).1 hsatisfied
  have hcompared := h.compared_factsOf
  rw [service.readContextFact_satisfied_iff hmore hreq,isCurrent,
    hcompared.current requirement.key fact hfact,isSome_map]
  constructor
  · rintro ⟨laterFact,hlater,-⟩
    rw [hlater]
    rfl
  · intro hsome
    obtain ⟨laterFact,hlater⟩ := isSome_iff_exists.1 hsome
    obtain ⟨hsame,hrank⟩ := hcompared.same requirement.key fact laterFact hfact hlater
    exact ⟨laterFact,hlater,hsame.trans hvalue,accepts_of_rank_le haccepts hrank⟩

end ContextResolutionService

/-- The instants of the samples, as the host writes and reads them. -/
def contextInstants : List (String × Int) :=
  [(sampleInstant, 1767225600000), (sampleLaterInstant, 1767225601000),
    ("2025-12-31T23:00:00.000Z", 1767222000000), ("2025-12-31T23:01:00.000Z", 1767222060000)]

def unaryInstant (n : Int) : String :=
  String.ofList ((if n < 0 then '-' else '+') :: List.replicate n.natAbs 'x')

def readUnaryInstant (text : String) : Option Int :=
  let count : Int := text.toList.length - 1
  if count ≤ maxTime then
    match text.toList with
    | '-' :: _ => some (-count)
    | '+' :: _ => some count
    | _ => none
  else none

def contextPlatform : Platform :=
  { tabulatedPlatform [] with
    dateParse := fun text =>
      ((contextInstants.find? fun entry => entry.1 == text).map (·.2)).or (readUnaryInstant text) }

def contextToISOString (n : Int) : String :=
  ((contextInstants.find? fun entry => entry.2 == n).map (·.1)).getD (unaryInstant n)

theorem readUnaryInstant_unaryInstant {n : Int} (h : |n| ≤ maxTime) :
    readUnaryInstant (unaryInstant n) = some n := by
  have hcount : ((unaryInstant n).toList.length : Int) - 1 = |n| := by
    simp [unaryInstant]
  unfold readUnaryInstant
  rw [hcount,if_pos h]
  unfold unaryInstant
  rw [String.toList_ofList]
  split_ifs with hsign
  · simp [abs_of_neg hsign]
  · simp [abs_of_nonneg (not_lt.1 hsign)]

theorem dateParse_contextToISOString {n : Int} (h : |n| ≤ maxTime) :
    contextPlatform.dateParse (contextToISOString n) = some n := by
  have htable : ∀ entry ∈ contextInstants, contextPlatform.dateParse entry.1 = some entry.2 := by
    decide
  unfold contextToISOString
  cases hfind : contextInstants.find? fun entry => entry.2 == n with
  | some entry =>
    have hn : entry.2 = n := by simpa using List.find?_some hfind
    rw [← hn]
    exact htable entry (mem_of_find?_eq_some hfind)
  | none =>
    have hother : (contextInstants.find? fun entry => entry.1 == unaryInstant n) = none := by
      apply List.find?_eq_none.2
      intro entry hentry heq
      have hdigit : ∀ entry ∈ contextInstants, entry.1.toList.head? = some '2' := by decide
      have hhead := hdigit entry hentry
      rw [beq_iff_eq.1 heq,unaryInstant,String.toList_ofList,List.head?_cons] at hhead
      split_ifs at hhead <;> simp at hhead
    simp only [contextPlatform,map_none,getD_none,hother,none_or]
    exact readUnaryInstant_unaryInstant h

def contextDates : Dates contextPlatform where
  toISOString := contextToISOString
  dateParse_toISOString _ h := dateParse_contextToISOString h
  dateParse_range := by
    intro text n h
    simp only [contextPlatform,or_eq_some_iff] at h
    rcases h with h | ⟨-,h⟩
    · obtain ⟨entry,hentry,rfl⟩ := map_eq_some_iff.1 h
      have htable : ∀ entry ∈ contextInstants, |entry.2| ≤ maxTime := by decide
      exact htable entry (mem_of_find?_eq_some hentry)
    · unfold readUnaryInstant at h
      dsimp only at h
      split_ifs at h with hcount
      split at h
      · next heq =>
        cases h
        rw [heq] at hcount ⊢
        simp only [length_cons] at hcount ⊢
        rw [abs_le]
        push_cast at hcount ⊢
        omega
      · next heq =>
        cases h
        rw [heq] at hcount ⊢
        simp only [length_cons] at hcount ⊢
        rw [abs_le]
        push_cast at hcount ⊢
        omega
      · cases h

def vendorBlocked : ContextRequirement where
  key := "vendor.blocked"
  minimumTrustClass := .asserted
  required := false
  restrictive := true

/-- One restrict-only fact class, which the requester and an ERP may report. -/
def vendorService : ContextResolutionService contextPlatform where
  dates := contextDates
  sources := [⟨"agent",.request,"Requester",.asserted,[⟨"vendor.blocked",none⟩],none,none⟩,
    ⟨"erp",.erp,"ERP",.authoritative,[⟨"vendor.blocked",some 60⟩],none,none⟩]
  declaration := { requirements := [vendorBlocked] }
  declaration_valid := by decide
  sources_valid := by decide
  sources_once := by decide

def vendorReading (sourceId observedAt : String) : ContextFactObservation where
  key := "vendor.blocked"
  value := .boolean true
  sourceId := sourceId
  observedAt := observedAt

/-- What policy reads of the vendor, and whether the request is denied for it. -/
def vendorRead (observations : List ContextFactObservation) :
    Option (ContextFactReadStatus × Option ContextFactValue × Bool) := do
  let resolution ← vendorService.classify ⟨observations,sampleInstant,none⟩
  let facts ← resolveKernelContextFacts ⟨vendorService,none⟩ resolution
  let read := readContextFact resolution vendorBlocked
  return (read.status, read.value, facts.deniesBy "vendor.blocked")

end Frontera.Context
