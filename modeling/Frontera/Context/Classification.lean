import Frontera.Context.Evaluation

/-! A requested key is answered by its admitted readings alone, a derived key by at most one fact,
so a read of a resolution is decided by the facts of its key. -/

namespace Frontera.Context

open Frontera.Data List Option

variable {P : Platform} {kept : List ContextFactObservation} {candidate : ContextFactObservation}
  {observations : List ContextFactObservation}

theorem mem_of_mem_keepLater {observation : ContextFactObservation}
    (h : candidate ∈ keepLater P kept observation) :
    candidate ∈ kept ∨ candidate = observation := by
  unfold keepLater at h
  split_ifs at h
  · obtain ⟨current,hcurrent,heq⟩ := mem_map.1 h
    split_ifs at heq
    · exact .inr heq.symm
    · exact .inl (heq ▸ hcurrent)
  · simpa using h

theorem exists_identity_of_keepLater (observation : ContextFactObservation)
    (h : candidate ∈ kept ∨ candidate = observation) :
    ∃ current ∈ keepLater P kept observation, current.identity = candidate.identity := by
  unfold keepLater
  split_ifs with hany
  · rcases h with h | rfl
    · refine ⟨_,mem_map_of_mem h,?_⟩
      split_ifs with hlater
      · exact hlater.1.symm
      · rfl
    · obtain ⟨current,hcurrent,hsame⟩ := any_eq_true.1 hany
      refine ⟨_,mem_map_of_mem hcurrent,?_⟩
      split_ifs with hlater
      · rfl
      · simpa using hsame
  · exact ⟨candidate,by simpa using h,rfl⟩

theorem mem_of_mem_foldl_keepLater (h : candidate ∈ observations.foldl (keepLater P) kept) :
    candidate ∈ kept ∨ candidate ∈ observations := by
  induction observations generalizing kept with
  | nil => exact .inl h
  | cons observation observations ih =>
    rcases ih h with hkept | hrest
    · rcases mem_of_mem_keepLater hkept with hkept | rfl
      · exact .inl hkept
      · exact .inr mem_cons_self
    · exact .inr (mem_cons_of_mem _ hrest)

theorem exists_identity_of_foldl_keepLater
    (h : (∃ current ∈ kept, current.identity = candidate.identity) ∨ candidate ∈ observations) :
    ∃ current ∈ observations.foldl (keepLater P) kept, current.identity = candidate.identity := by
  induction observations generalizing kept with
  | nil => simpa using h
  | cons observation observations ih =>
    apply ih
    rcases h with ⟨current,hcurrent,hsame⟩ | hmem
    · obtain ⟨next,hnext,hidentity⟩ := exists_identity_of_keepLater observation (.inl hcurrent)
      exact .inl ⟨next,hnext,hidentity.trans hsame⟩
    · rcases mem_cons.1 hmem with rfl | hrest
      · exact .inl (exists_identity_of_keepLater candidate (.inr rfl))
      · exact .inr hrest

theorem mem_of_mem_deduplicated (h : candidate ∈ deduplicated P observations) :
    candidate ∈ observations := by
  have hmem := (perm_insertionSort _ _).mem_iff.1 h
  simpa using mem_of_mem_foldl_keepLater hmem

theorem exists_identity_of_deduplicated (h : candidate ∈ observations) :
    ∃ current ∈ deduplicated P observations, current.identity = candidate.identity := by
  obtain ⟨current,hcurrent,hsame⟩ :=
    exists_identity_of_foldl_keepLater (P := P) (.inr h)
  exact ⟨current,(perm_insertionSort _ _).mem_iff.2 hcurrent,hsame⟩

theorem disagree_iff : disagree observations = true ↔
      ∃ left ∈ observations, ∃ right ∈ observations, left.value ≠ right.value := by
  unfold disagree
  rw [decide_eq_true_iff]
  constructor
  · intro h
    obtain ⟨first,second,rest,heq⟩ : ∃ first second rest,
        (observations.map (·.value)).dedup = first :: second :: rest := by
      match hdedup : (observations.map (·.value)).dedup with
      | [] => simp [hdedup] at h
      | [_] => simp [hdedup] at h
      | first :: second :: rest => exact ⟨first,second,rest,hdedup⟩
    have hnodup := nodup_dedup (observations.map (·.value))
    have hmem : ∀ value ∈ [first, second], ∃ observation ∈ observations, observation.value = value := by
      intro value hvalue
      have hin : value ∈ (observations.map (·.value)).dedup := by
        rw [heq]
        simp only [mem_cons,not_mem_nil,or_false] at hvalue ⊢
        tauto
      simpa using mem_dedup.1 hin
    obtain ⟨left,hleft,rfl⟩ := hmem first (by simp)
    obtain ⟨right,hright,rfl⟩ := hmem second (by simp)
    rw [heq] at hnodup
    refine ⟨left,hleft,right,hright,?_⟩
    intro hsame
    simp [hsame] at hnodup
  · rintro ⟨left,hleft,right,hright,hne⟩
    by_contra hle
    have hleftIn := mem_dedup.2 (mem_map_of_mem (f := (·.value)) hleft)
    have hrightIn := mem_dedup.2 (mem_map_of_mem (f := (·.value)) hright)
    match hdedup : (observations.map (·.value)).dedup with
    | [] => simp [hdedup] at hleftIn
    | [only] =>
      rw [hdedup,mem_singleton] at hleftIn hrightIn
      exact hne (hleftIn.trans hrightIn.symm)
    | first :: second :: rest => simp [hdedup] at hle

theorem Number.eq_of_num_eq {left right : Number} (hleft : left.isPlainInteger = true)
    (hright : right.isPlainInteger = true) (h : left.value.num = right.value.num) :
    left = right := by
  obtain ⟨leftValue,leftNegative,leftSign⟩ := left
  obtain ⟨rightValue,rightNegative,rightSign⟩ := right
  simp only [Number.isPlainInteger,Bool.and_eq_true,decide_eq_true_eq] at hleft hright
  have hvalue : leftValue = rightValue := Rat.ext h (hleft.1.1.trans hright.1.1.symm)
  subst hvalue
  have hsign : leftNegative = rightNegative := by
    by_cases hzero : leftValue = 0
    · have hl : leftNegative = false := by simpa [hzero] using hleft.2
      have hr : rightNegative = false := by simpa [hzero] using hright.2
      rw [hl,hr]
    · rw [leftSign hzero,rightSign hzero]
  subst hsign
  rfl

theorem ContextFactValue.eq_of_spelling {left right : ContextFactValue}
    (hleft : isAdmissibleContextFactValue left = true)
    (hright : isAdmissibleContextFactValue right = true) (htype : left.typeName = right.typeName)
    (h : left.spelling = right.spelling) : left = right := by
  cases left <;> cases right <;> simp only [ContextFactValue.typeName] at htype <;>
    try exact absurd htype (by decide)
  · exact congrArg ContextFactValue.text h
  · exact congrArg ContextFactValue.number
      (Number.eq_of_num_eq hleft hright (Text.integer_toString_injective h))
  · rename_i left right
    cases left <;> cases right <;> first | rfl | exact absurd h (by decide)

theorem ContextFactValue.typeName_noNul (value : ContextFactValue) : '\x00' ∉ value.typeName.toList := by
  cases value <;> simp only [ContextFactValue.typeName] <;> decide

theorem append_nul_inj {left right leftRest rightRest : List Char} (hleft : '\x00' ∉ left)
    (hright : '\x00' ∉ right) (h : left ++ '\x00' :: leftRest = right ++ '\x00' :: rightRest) :
    left = right ∧ leftRest = rightRest := by
  have hother : ∀ {text : List Char}, '\x00' ∉ text → ∀ c ∈ text, (c != '\x00') = true := by
    intro text htext c hc
    rw [bne_iff_ne]
    rintro rfl
    exact htext hc
  have hstops : ∀ rest : List Char, Text.Stops (fun c => c != '\x00') ('\x00' :: rest) := by
    intro rest c tail heq
    rw [← (List.cons.inj heq).1]
    rfl
  obtain ⟨hsame,hrest⟩ := Text.run_append_inj (hother hleft) (hother hright) (hstops _) (hstops _) h
  exact ⟨hsame,(List.cons.inj hrest).2⟩

theorem ContextFactObservation.eq_of_identity {left right : ContextFactObservation}
    (hleft : isAdmissibleContextFactValue left.value = true)
    (hright : isAdmissibleContextFactValue right.value = true)
    (hleftId : '\x00' ∉ left.sourceId.toList) (hrightId : '\x00' ∉ right.sourceId.toList)
    (h : left.identity = right.identity) :
    left.sourceId = right.sourceId ∧ left.value = right.value := by
  have hlist := congrArg String.toList h
  simp only [ContextFactObservation.identity,String.toList_append] at hlist
  have hnul : "\x00".toList = ['\x00'] := rfl
  simp only [hnul,append_assoc,cons_append,nil_append] at hlist
  obtain ⟨hid,hrest⟩ := append_nul_inj hleftId hrightId hlist
  obtain ⟨htype,hspelling⟩ := append_nul_inj left.value.typeName_noNul
    right.value.typeName_noNul hrest
  exact ⟨String.toList_injective hid,ContextFactValue.eq_of_spelling hleft hright
    (String.toList_injective htype) (String.toList_injective hspelling)⟩

namespace ContextResolutionService

variable {P : Platform} (service : ContextResolutionService P)

theorem preferred_mem (first : ContextFactObservation) (rest : List ContextFactObservation) :
    service.preferred first rest ∈ first :: rest := by
  unfold preferred
  induction rest generalizing first with
  | nil => exact mem_cons_self
  | cons candidate rest ih =>
    rw [foldl_cons]
    rcases mem_cons.1 (ih _) with heq | hrest
    · rw [heq]
      split_ifs <;> simp
    · exact mem_cons_of_mem _ (mem_cons_of_mem _ hrest)

variable {candidate best observation : ContextFactObservation} {key instant : String}
  {fact : ContextFact} {facts : List ContextFact} {derivation : ContextDerivation}
  {derivations : List ContextDerivation} {left right : List ContextFact} {value : ContextFactValue}

theorem rank_le_of_isPreferredTo (h : service.isPreferredTo candidate best = true) :
    (service.trustClassOf best).rank ≤ (service.trustClassOf candidate).rank := by
  unfold isPreferredTo at h
  simp only [contextTrustClassSatisfies,Bool.and_eq_true,Bool.not_eq_true',
    decide_eq_true_eq,decide_eq_false_iff_not] at h
  split_ifs at h <;> omega

theorem rank_le_of_not_isPreferredTo (h : service.isPreferredTo candidate best = false) :
    (service.trustClassOf candidate).rank ≤ (service.trustClassOf best).rank := by
  unfold isPreferredTo at h
  simp only [contextTrustClassSatisfies,Bool.and_eq_true,Bool.not_eq_true',
    decide_eq_true_eq,decide_eq_false_iff_not] at h
  split_ifs at h <;> omega

theorem rank_le_preferred (first : ContextFactObservation) (rest : List ContextFactObservation)
    (h : observation ∈ first :: rest) :
    (service.trustClassOf observation).rank ≤
      (service.trustClassOf (service.preferred first rest)).rank := by
  unfold preferred
  induction rest generalizing first observation with
  | nil => rw [mem_singleton.1 h,foldl_nil]
  | cons candidate rest ih =>
    rw [foldl_cons]
    cases hpreferred : service.isPreferredTo candidate first with
    | true =>
      simp only [if_true]
      rcases mem_cons.1 h with rfl | htail
      · exact (service.rank_le_of_isPreferredTo hpreferred).trans (ih _ mem_cons_self)
      · exact ih _ htail
    | false =>
      simp only [Bool.false_eq_true,if_false]
      rcases mem_cons.1 h with rfl | htail
      · exact ih _ mem_cons_self
      · rcases mem_cons.1 htail with rfl | hrest
        · exact (service.rank_le_of_not_isPreferredTo hpreferred).trans (ih _ mem_cons_self)
        · exact ih _ (mem_cons_of_mem _ hrest)

theorem mem_admitted {reading : Reading} : observation ∈ service.admitted reading key ↔
      observation ∈ reading.observations ∧ observation.key = key ∧
        service.refusalOf observation reading.instant reading.organizationId = none := by
  simp [admitted]

theorem refusalOf_eq_none {organizationId : Option String}
    (h : service.refusalOf observation instant organizationId = none) :
    (∃ source ∈ service.sources, service.sourceOf observation.sourceId = some source ∧
        source.id = observation.sourceId) ∧
      (P.dateParse observation.observedAt).isSome ∧
      isAdmissibleContextFactValue observation.value = true := by
  unfold refusalOf at h
  cases hsource : service.sourceOf observation.sourceId with
  | none => simp [hsource] at h
  | some source =>
    simp only [hsource,or_eq_none_iff] at h
    obtain ⟨hbefore,hafter⟩ := h
    unfold refusalBeforeTime at hbefore
    split_ifs at hbefore with hderived _ _ _ hparse
    split_ifs at hafter
    unfold refusalAfterTime at hafter
    split_ifs at hafter with hvalue
    refine ⟨?_,by simpa [isSome_iff_ne_none] using hparse,by simpa using hvalue⟩
    unfold sourceOf at hsource
    split_ifs at hsource with hreserved
    · cases hsource
      exact absurd rfl hderived
    · exact ⟨source,mem_of_find?_eq_some hsource,rfl,by simpa using List.find?_some hsource⟩

theorem mem_usable {reading : Reading} (h : observation ∈ service.usable reading key) :
    observation ∈ service.admitted reading key :=
  mem_of_mem_deduplicated h

theorem key_of_mem_readFacts {reading : Reading} (h : fact ∈ service.readFacts reading key) :
    fact.key = key := by
  have hkey : ∀ observation ∈ service.usable reading key, observation.key = key := fun observation hmem =>
    (service.mem_admitted.1 (service.mem_usable hmem)).2.1
  unfold readFacts at h
  split at h
  · cases h
  · next first rest husable =>
    rw [husable] at hkey
    split_ifs at h
    · obtain ⟨observation,hmem,rfl⟩ := mem_map.1 h
      exact hkey observation hmem
    · rw [mem_singleton.1 h]
      exact hkey _ (service.preferred_mem first rest)

def answers (facts : List ContextFact) (key : String) : List ContextFact :=
  facts.filter fun fact => fact.key = key

theorem resolvedFact_eq (facts : List ContextFact) (key : String) :
    resolvedFact facts key = (answers facts key).find? fun fact => fact.resolution == .resolved := by
  unfold resolvedFact answers
  rw [List.find?_filter]
  congr 1
  funext fact
  by_cases hkey : fact.key = key
  · cases fact.resolution <;> simp [hkey]
  · simp [hkey]

theorem answers_eq_nil (h : ∀ fact ∈ facts, fact.key ≠ key) : answers facts key = [] :=
  filter_eq_nil_iff.2 fun fact hfact => by simpa using h fact hfact

theorem answers_append (front back : List ContextFact) (key : String) :
    answers (front ++ back) key = answers front key ++ answers back key :=
  filter_append ..

theorem requestedKeys_nodup : service.requestedKeys.Nodup :=
  (perm_insertionSort _ _).nodup_iff.2 ((nodup_dedup _).filter _)

theorem not_mem_derivedKeys (h : key ∈ service.requestedKeys) : key ∉ service.derivedKeys := by
  have hmem := (perm_insertionSort _ _).mem_iff.1 h
  simpa using (mem_filter.1 hmem).2

theorem derivedKeys_nodup : service.derivedKeys.Nodup := by
  have hvalid := service.declaration_valid
  simp only [isValidContextDeclaration,Bool.and_eq_true,decide_eq_true_eq] at hvalid
  exact hvalid.1.1.1.2

theorem answers_flatMap_readFacts (reading : Reading) (keys : List String) (hkeys : keys.Nodup)
    (key : String) :
    answers (keys.flatMap (service.readFacts reading)) key =
      if key ∈ keys then service.readFacts reading key else [] := by
  induction keys with
  | nil => rfl
  | cons other keys ih =>
    rw [flatMap_cons,answers_append,ih (nodup_cons.1 hkeys).2]
    by_cases hkey : key = other
    · subst hkey
      have hown : answers (service.readFacts reading key) key = service.readFacts reading key :=
        filter_eq_self.2 fun fact hfact => by simpa using service.key_of_mem_readFacts hfact
      rw [hown,if_neg (nodup_cons.1 hkeys).1,if_pos mem_cons_self,append_nil]
    · have hother : answers (service.readFacts reading other) key = [] :=
        answers_eq_nil fun fact hfact heq =>
          hkey (heq.symm.trans (service.key_of_mem_readFacts hfact))
      rw [hother,nil_append]
      simp [hkey]

theorem derive_eq_some_iff : service.derive derivation facts instant = some fact ↔
      ∃ operands number, derivation.operandKeys.mapM (resolvedFact facts) = some operands ∧
          evaluateContextDerivation derivation.operator (operands.map (·.value)) = some number ∧
          isAdmissibleContextFactValue (.number number) = true ∧
          service.derivedFact derivation operands number instant = fact := by
  simp only [derive,bind_eq_bind,bind_eq_some_iff,ite_none_right_eq_some,some.injEq]
  tauto

theorem key_of_derive (h : service.derive derivation facts instant = some fact) :
    fact.key = derivation.key := by
  obtain ⟨_,_,_,_,_,rfl⟩ := service.derive_eq_some_iff.1 h
  rfl

theorem answers_deriveNext_of_ne (h : derivation.key ≠ key) :
    answers (service.deriveNext instant facts derivation) key = answers facts key := by
  have hnone : answers (service.derive derivation facts instant).toList key = [] :=
    answers_eq_nil fun fact hfact heq =>
      h ((service.key_of_derive (mem_toList.1 hfact)).symm.trans heq)
  rw [deriveNext,answers_append,hnone,append_nil]

theorem answers_foldl_deriveNext_of_not_mem (h : key ∉ derivations.map (·.key)) :
    answers (derivations.foldl (service.deriveNext instant) facts) key = answers facts key := by
  induction derivations generalizing facts with
  | nil => rfl
  | cons derivation derivations ih =>
    rw [map_cons,mem_cons,not_or] at h
    rw [foldl_cons,ih h.2,service.answers_deriveNext_of_ne (Ne.symm h.1)]

/-- The facts of a key: disagreeing readings, or one fact at most. -/
def OneAnswer (facts : List ContextFact) : Prop :=
  (∀ fact ∈ facts, fact.resolution = .conflicted) ∨ ∃ fact, facts = [fact] ∧ fact.resolution ≠ .conflicted

theorem oneAnswer_derive (derivation : ContextDerivation) (facts : List ContextFact)
    (instant : String) : OneAnswer (service.derive derivation facts instant).toList := by
  cases hderive : service.derive derivation facts instant with
  | none => exact .inl (by simp)
  | some fact =>
    refine .inr ⟨fact,rfl,?_⟩
    obtain ⟨_,_,_,_,_,rfl⟩ := service.derive_eq_some_iff.1 hderive
    simp only [derivedFact]
    split_ifs <;> simp

theorem oneAnswer_foldl_deriveNext (h : (derivations.map (·.key)).Nodup)
    (hfacts : answers facts key = []) :
    OneAnswer (answers (derivations.foldl (service.deriveNext instant) facts) key) := by
  induction derivations generalizing facts with
  | nil => exact .inl (by simp [hfacts])
  | cons derivation derivations ih =>
    rw [map_cons,nodup_cons] at h
    rw [foldl_cons]
    by_cases hkey : derivation.key = key
    · rw [service.answers_foldl_deriveNext_of_not_mem (hkey ▸ h.1),deriveNext,answers_append,
        hfacts,nil_append]
      have hown : answers (service.derive derivation facts instant).toList key =
          (service.derive derivation facts instant).toList :=
        filter_eq_self.2 fun fact hfact => by
          simpa using (service.key_of_derive (mem_toList.1 hfact)).trans hkey
      rw [hown]
      exact service.oneAnswer_derive derivation facts instant
    · apply ih h.2
      rw [service.answers_deriveNext_of_ne hkey,hfacts]

theorem freshnessStatus_ne_conflicted (observation : ContextFactObservation) (instant : String) :
    service.freshnessStatus observation instant ≠ .conflicted := by
  unfold freshnessStatus
  split
  · simp
  · split_ifs <;> simp

theorem oneAnswer_readFacts (reading : Reading) (key : String) :
    OneAnswer (service.readFacts reading key) := by
  unfold readFacts
  split
  · exact .inl (by simp)
  · split_ifs
    · exact .inl (by simp [toFact])
    · exact .inr ⟨_,rfl,service.freshnessStatus_ne_conflicted _ _⟩

theorem answers_factsOf_requested (reading : Reading) (h : key ∈ service.requestedKeys) :
    answers (service.factsOf reading) key = service.readFacts reading key := by
  unfold factsOf
  rw [service.answers_foldl_deriveNext_of_not_mem (service.not_mem_derivedKeys h),
    service.answers_flatMap_readFacts reading _ service.requestedKeys_nodup,if_pos h]

theorem oneAnswer_factsOf (reading : Reading) (key : String) :
    OneAnswer (answers (service.factsOf reading) key) := by
  by_cases hkey : key ∈ service.requestedKeys
  · rw [service.answers_factsOf_requested reading hkey]
    exact service.oneAnswer_readFacts reading key
  · apply service.oneAnswer_foldl_deriveNext service.derivedKeys_nodup
    rw [service.answers_flatMap_readFacts reading _ service.requestedKeys_nodup,if_neg hkey]

theorem mem_or_not_conflicted (h : fact ∈ derivations.foldl (service.deriveNext instant) facts) :
    fact ∈ facts ∨ fact.resolution ≠ .conflicted := by
  induction derivations generalizing facts with
  | nil => exact .inl h
  | cons derivation derivations ih =>
    rcases ih h with hnext | hother
    · rcases mem_append.1 hnext with hfacts | hderived
      · exact .inl hfacts
      · obtain ⟨_,_,_,_,_,rfl⟩ := service.derive_eq_some_iff.1 (mem_toList.1 hderived)
        right
        simp only [derivedFact]
        split_ifs <;> simp
    · exact .inr hother

theorem exists_conflicted_iff (reading : Reading) (key : String) :
    (∃ fact ∈ answers (service.factsOf reading) key, fact.resolution = .conflicted) ↔
      key ∈ service.requestedKeys ∧ disagree (service.usable reading key) = true := by
  by_cases hkey : key ∈ service.requestedKeys
  · rw [service.answers_factsOf_requested reading hkey,and_iff_right hkey]
    unfold readFacts
    split
    · next husable => simp [husable,disagree]
    · next first rest husable =>
      rw [husable]
      split_ifs with hdisagree
      · exact ⟨fun _ => hdisagree,fun _ => ⟨_,mem_map_of_mem mem_cons_self,rfl⟩⟩
      · constructor
        · rintro ⟨fact,hfact,hconflicted⟩
          rw [mem_singleton.1 hfact] at hconflicted
          exact absurd hconflicted (service.freshnessStatus_ne_conflicted _ _)
        · exact fun h => absurd h hdisagree
  · refine ⟨?_,fun h => absurd h.1 hkey⟩
    rintro ⟨fact,hfact,hconflicted⟩
    obtain ⟨hmem,hown⟩ := mem_filter.1 hfact
    rcases service.mem_or_not_conflicted hmem with hrequested | hother
    · have hnone : answers (service.requestedKeys.flatMap (service.readFacts reading)) key = [] := by
        rw [service.answers_flatMap_readFacts reading _ service.requestedKeys_nodup,if_neg hkey]
      have hin : fact ∈ answers (service.requestedKeys.flatMap (service.readFacts reading)) key :=
        mem_filter.2 ⟨hrequested,hown⟩
      rw [hnone] at hin
      cases hin
    · exact absurd hconflicted hother

theorem mem_uniqueSortedKeys {status : ResolvedContextFactStatus} :
    key ∈ uniqueSortedKeys facts status ↔ ∃ fact ∈ answers facts key, fact.resolution = status := by
  unfold uniqueSortedKeys sortedSet sortTexts answers
  rw [(perm_insertionSort _ _).mem_iff,mem_dedup]
  simp only [List.mem_map,mem_filter,decide_eq_true_eq]
  constructor
  · rintro ⟨fact,⟨hfact,hstatus⟩,hkey⟩
    exact ⟨fact,⟨hfact,hkey⟩,hstatus⟩
  · rintro ⟨fact,⟨hfact,hkey⟩,hstatus⟩
    exact ⟨fact,⟨hfact,hstatus⟩,hkey⟩

theorem resolvedFact_eq_some (h : OneAnswer (answers facts key)) : resolvedFact facts key = some fact ↔
      answers facts key = [fact] ∧ fact.resolution = .resolved := by
  rw [resolvedFact_eq]
  rcases h with hconflicted | ⟨only,honly,_⟩
  · constructor
    · intro hfind
      have hmem := hconflicted fact (mem_of_find?_eq_some hfind)
      have hresolved := List.find?_some hfind
      simp [hmem] at hresolved
    · rintro ⟨heq,hresolved⟩
      have hmem := hconflicted fact (by rw [heq]; exact mem_cons_self)
      rw [hmem] at hresolved
      cases hresolved
  · rw [honly,List.find?_singleton]
    simp only [List.cons.injEq,and_true]
    constructor
    · intro h
      split_ifs at h with hresolved
      cases h
      exact ⟨rfl,by simpa using hresolved⟩
    · rintro ⟨rfl,hresolved⟩
      simp [hresolved]

theorem classify_facts {reading : Reading} {resolution : ContextResolution}
    (h : service.classify reading = some resolution) :
    resolution.facts.Perm (service.factsOf reading) ∧ resolution.resolved = true ∧
      resolution.declaredKeys = service.declaredKeys ∧
      resolution.stale = uniqueSortedKeys resolution.facts .stale ∧
      resolution.conflicted = uniqueSortedKeys resolution.facts .conflicted ∧
      resolution.assertedFactPolicy = service.declaration.assertedFactPolicy ∧
      resolution.assertableKeys = service.assertableKeys ∧
      ∀ fact ∈ service.factsOf reading, isDated fact = true := by
  unfold classify at h
  dsimp only at h
  split_ifs at h with hdated
  cases h
  exact ⟨perm_insertionSort _ _,rfl,rfl,rfl,rfl,rfl,rfl,all_eq_true.1 hdated⟩

theorem answers_perm (h : left.Perm right) (key : String) :
    (answers left key).Perm (answers right key) := h.filter _

theorem OneAnswer.perm (h : OneAnswer right) (hperm : left.Perm right) : OneAnswer left := by
  rcases h with hconflicted | ⟨only,rfl,hother⟩
  · exact .inl fun fact hfact => hconflicted fact (hperm.mem_iff.1 hfact)
  · exact .inr ⟨only,perm_singleton.1 hperm,hother⟩

theorem resolvedFact_of_classify {reading : Reading} {resolution : ContextResolution}
    (h : service.classify reading = some resolution) (key : String) :
    resolvedFact resolution.facts key = resolvedFact (service.factsOf reading) key := by
  have hperm := answers_perm (service.classify_facts h).1 key
  have hone := service.oneAnswer_factsOf reading key
  ext fact
  rw [resolvedFact_eq_some (hone.perm hperm),resolvedFact_eq_some hone]
  have hsame : answers resolution.facts key = [fact] ↔ answers (service.factsOf reading) key = [fact] := by
    constructor
    · intro heq
      rw [heq] at hperm
      exact perm_singleton.1 hperm.symm
    · intro heq
      rw [heq] at hperm
      exact perm_singleton.1 hperm
  rw [hsame]

/-- A resolved fact meets the declared class and the asserted-fact posture. -/
def accepts (requirement : ContextRequirement) (fact : ContextFact) : Prop :=
  contextTrustClassSatisfies fact.effectiveTrustClass requirement.minimumTrustClass = true ∧
    ¬(fact.effectiveTrustClass = .asserted ∧ service.declaration.assertedFactPolicy = .requireDeclaration ∧
      service.assertableKeys.contains requirement.key = false)

theorem mem_declaredKeys {requirement : ContextRequirement}
    (h : requirement ∈ service.declaration.requirements) : requirement.key ∈ service.declaredKeys := by
  unfold declaredKeys sortedSet sortTexts
  rw [(perm_insertionSort _ _).mem_iff,mem_dedup]
  exact mem_append_left _ (mem_map_of_mem h)

variable {reading : Reading} {resolution : ContextResolution} {requirement : ContextRequirement}

theorem contains_conflicted (h : service.classify reading = some resolution) (key : String) :
    resolution.conflicted.contains key = true ↔
      key ∈ service.requestedKeys ∧ disagree (service.usable reading key) = true := by
  obtain ⟨hperm,-,-,-,hconflicted,-⟩ := service.classify_facts h
  rw [contains_iff_mem,hconflicted,mem_uniqueSortedKeys,← service.exists_conflicted_iff]
  simp only [(answers_perm hperm key).mem_iff]

theorem readContextFact_eq (h : service.classify reading = some resolution)
    (hreq : requirement ∈ service.declaration.requirements) :
    readContextFact resolution requirement = if resolution.conflicted.contains requirement.key then
        { key := requirement.key, status := .conflicted }
      else if resolution.stale.contains requirement.key then
        { key := requirement.key, status := .stale }
      else
        match resolvedFact (service.factsOf reading) requirement.key with
        | none => { key := requirement.key, status := .unresolved }
        | some fact => readResolvedFact resolution requirement fact := by
  obtain ⟨-,hresolved,hdeclared,-⟩ := service.classify_facts h
  have hkey : service.declaredKeys.contains requirement.key = true :=
    contains_iff_mem.2 (service.mem_declaredKeys hreq)
  unfold readContextFact
  rw [hresolved,hdeclared,hkey,service.resolvedFact_of_classify h]
  rfl

theorem readResolvedFact_key (resolution : ContextResolution) (requirement : ContextRequirement)
    (fact : ContextFact) : (readResolvedFact resolution requirement fact).key = requirement.key := by
  unfold readResolvedFact
  dsimp only
  split_ifs <;> rfl

theorem readResolvedFact_status (resolution : ContextResolution) (requirement : ContextRequirement)
    (fact : ContextFact) :
    (readResolvedFact resolution requirement fact).status ≠ .conflicted ∧
      (readResolvedFact resolution requirement fact).status ≠ .contextNotResolved := by
  unfold readResolvedFact
  dsimp only
  split_ifs <;> simp

theorem readContextFact_key (resolution : ContextResolution) (requirement : ContextRequirement) :
    (readContextFact resolution requirement).key = requirement.key := by
  unfold readContextFact
  split_ifs
  · rfl
  · rfl
  · rfl
  · rfl
  · split
    · rfl
    · exact readResolvedFact_key _ _ _

section

variable (h : service.classify reading = some resolution)
include h

theorem readContextFact_resolved (hreq : requirement ∈ service.declaration.requirements) :
    (readContextFact resolution requirement).status ≠ .contextNotResolved := by
  rw [service.readContextFact_eq h hreq]
  split_ifs
  · simp
  · simp
  · split
    · simp
    · exact (readResolvedFact_status _ _ _).2

theorem readContextFact_conflicted_iff (hreq : requirement ∈ service.declaration.requirements) :
    (readContextFact resolution requirement).status = .conflicted ↔
      requirement.key ∈ service.requestedKeys ∧
        disagree (service.usable reading requirement.key) = true := by
  rw [← service.contains_conflicted h,service.readContextFact_eq h hreq]
  split_ifs with hconflicted
  · exact iff_of_true rfl hconflicted
  · exact iff_of_false (by simp) hconflicted
  · refine iff_of_false ?_ hconflicted
    split
    · simp
    · exact (readResolvedFact_status _ _ _).1

theorem readResolvedFact_satisfied_iff :
    ((readResolvedFact resolution requirement fact).status = .satisfied ∧
        (readResolvedFact resolution requirement fact).value = some value) ↔
      fact.value = value ∧ service.accepts requirement fact := by
  obtain ⟨-,-,-,-,-,hpolicy,hassertable,-⟩ := service.classify_facts h
  unfold readResolvedFact accepts
  rw [hpolicy,hassertable]
  dsimp only
  cases contextTrustClassSatisfies fact.effectiveTrustClass requirement.minimumTrustClass with
  | false => simp
  | true =>
    simp only [Bool.not_true,Bool.false_eq_true,if_false,true_and]
    split_ifs with hasserted
    · simp only [false_and,false_iff,not_and_not_right]
      exact fun _ => hasserted
    · simp only [some.injEq,true_and]
      exact ⟨fun hvalue => ⟨hvalue,hasserted⟩,fun hboth => hboth.1⟩

theorem clear_of_resolvedFact (hfact : resolvedFact (service.factsOf reading) key = some fact) :
    resolution.conflicted.contains key = false ∧ resolution.stale.contains key = false := by
  obtain ⟨hperm,-,-,hstale,hconflicted,-⟩ := service.classify_facts h
  obtain ⟨honly,hstatus⟩ :=
    (resolvedFact_eq_some (service.oneAnswer_factsOf reading key)).1 hfact
  have hanswers := answers_perm hperm key
  rw [honly] at hanswers
  have hlisted : answers resolution.facts key = [fact] := perm_singleton.1 hanswers
  simp only [← Bool.not_eq_true,contains_iff_mem]
  rw [hconflicted,hstale,mem_uniqueSortedKeys,mem_uniqueSortedKeys,hlisted]
  simp [hstatus]

theorem readContextFact_satisfied_iff (hreq : requirement ∈ service.declaration.requirements) :
    ((readContextFact resolution requirement).status = .satisfied ∧
        (readContextFact resolution requirement).value = some value) ↔
      ∃ fact, resolvedFact (service.factsOf reading) requirement.key = some fact ∧
        fact.value = value ∧ service.accepts requirement fact := by
  rw [service.readContextFact_eq h hreq]
  cases hfind : resolvedFact (service.factsOf reading) requirement.key with
  | none => split_ifs <;> simp
  | some fact =>
    obtain ⟨hconflicted,hstale⟩ := service.clear_of_resolvedFact h hfind
    simp only [hconflicted,hstale,Bool.false_eq_true,if_false,some.injEq, exists_eq_left']
    exact service.readResolvedFact_satisfied_iff h

end

theorem requirement_unique {left right : ContextRequirement}
    (hleft : left ∈ service.declaration.requirements)
    (hright : right ∈ service.declaration.requirements) (h : left.key = right.key) : left = right := by
  have hvalid := service.declaration_valid
  simp only [isValidContextDeclaration,Bool.and_eq_true,decide_eq_true_eq] at hvalid
  exact inj_on_of_nodup_map hvalid.1.1.1.1.1.2 hleft hright h

theorem restrictive_not_required (hreq : requirement ∈ service.declaration.requirements)
    (hrestrictive : requirement.restrictive = true) : requirement.required = false := by
  have hvalid := service.declaration_valid
  simp only [isValidContextDeclaration,Bool.and_eq_true,List.all_eq_true] at hvalid
  have hone := hvalid.1.1.1.1.1.1 requirement hreq
  simp only [isValidContextRequirement,Bool.and_eq_true,hrestrictive,Bool.true_and,
    Bool.not_eq_true'] at hone
  exact hone.2

end ContextResolutionService

open ContextResolutionService

variable {P : Platform} {selection : KernelContextSelection P} {reading : Reading}
  {resolution : ContextResolution} {facts : KernelContextFacts} {requirement : ContextRequirement}

section

variable (h : resolveKernelContextFacts selection resolution = some facts)
include h

theorem resolveKernelContextFacts_evaluation :
    toContextEvaluation resolution selection (readContextFacts resolution selection.requirements) =
      some facts.evaluation := by
  unfold resolveKernelContextFacts at h
  simp only [bind_eq_bind,bind_eq_some_iff] at h
  obtain ⟨evaluation,hevaluation,hfacts⟩ := h
  split_ifs at hfacts <;> cases hfacts <;> exact hevaluation

theorem resolveKernelContextFacts_unsatisfied : facts.evaluation.unsatisfiedRequirements =
      ((readContextFacts resolution selection.requirements).filter
        (isUnsatisfied selection.requirements)).map
          (unsatisfiedRequirementOf resolution selection.requirements) := by
  have hevaluation := resolveKernelContextFacts_evaluation h
  unfold toContextEvaluation at hevaluation
  split_ifs at hevaluation <;> rw [← some.inj hevaluation]

end

theorem isUnsatisfied_restrictive (resolution : ContextResolution) (hreq : requirement ∈ selection.requirements)
    (hrestrictive : requirement.restrictive = true) :
    isUnsatisfied selection.requirements (readContextFact resolution requirement) = true ↔
      (readContextFact resolution requirement).status = .conflicted ∨
        (readContextFact resolution requirement).status = .contextNotResolved := by
  have hrequired : (requiredKeys selection.requirements).contains requirement.key = false := by
    rw [← Bool.not_eq_true,contains_iff_mem]
    intro hmem
    obtain ⟨other,hother,hkey⟩ := mem_map.1 hmem
    obtain ⟨hlisted,hother⟩ := mem_filter.1 hother
    rw [selection.service.requirement_unique hlisted hreq hkey,
      selection.service.restrictive_not_required hreq hrestrictive] at hother
    cases hother
  have hkeys : (restrictiveKeys selection.requirements).contains requirement.key = true :=
    contains_iff_mem.2 (mem_map_of_mem (mem_filter.2 ⟨hreq,hrestrictive⟩))
  unfold isUnsatisfied
  rw [readContextFact_key,hrequired,hkeys]
  simp

theorem foldl_codes_ne_nil {codes found : List AocKernelReasonCode} (h : found ≠ []) :
    codes.foldl (fun codes code => if codes.contains code then codes else codes ++ [code]) found ≠ [] := by
  induction codes generalizing found with
  | nil => exact h
  | cons code codes ih =>
    rw [foldl_cons]
    apply ih
    split_ifs
    · exact h
    · simp

theorem reasonCodesOf_ne_nil (requirements : List ContextRequirement)
    {unsatisfied : List ContextRequirementEvaluation} (h : unsatisfied ≠ []) :
    reasonCodesOf requirements unsatisfied ≠ [] := by
  obtain ⟨entry,entries,rfl⟩ := exists_cons_of_ne_nil h
  have hcodes : ∃ code codes, (if (restrictiveKeys requirements).contains entry.key then
        [AocKernelReasonCode.contextRestrictiveFactAmbiguous]
      else if entry.refusalReasons.isEmpty then [entry.status.reasonCode]
      else entry.refusalReasons.map (·.reasonCode)) = code :: codes := by
    split_ifs with _ hempty
    · exact ⟨_,_,rfl⟩
    · exact ⟨_,_,rfl⟩
    · cases hreasons : entry.refusalReasons with
      | nil => simp [hreasons] at hempty
      | cons reason reasons => exact ⟨_,_,rfl⟩
  obtain ⟨code,codes,hcons⟩ := hcodes
  unfold reasonCodesOf
  rw [flatMap_cons,hcons,cons_append,foldl_cons]
  apply foldl_codes_ne_nil
  simp

theorem deniesBy_eq_any (h : resolveKernelContextFacts selection resolution = some facts)
    (key : String) :
    facts.deniesBy key = facts.evaluation.unsatisfiedRequirements.any fun entry => entry.key == key := by
  unfold resolveKernelContextFacts at h
  simp only [bind_eq_bind,bind_eq_some_iff] at h
  obtain ⟨evaluation,-,hfacts⟩ := h
  unfold KernelContextFacts.deniesBy
  split_ifs at hfacts with hempty
  · cases hfacts
    rw [List.isEmpty_iff] at hempty
    simp [hempty]
  · cases hfacts
    have hcodes := reasonCodesOf_ne_nil selection.requirements
      (isEmpty_iff.not.1 hempty)
    simp [isEmpty_eq_false_iff.2 hcodes]

theorem deniesBy_iff (h : selection.service.classify reading = some resolution)
    (hfacts : resolveKernelContextFacts selection resolution = some facts)
    (hreq : requirement ∈ selection.requirements) (hrestrictive : requirement.restrictive = true) :
    facts.deniesBy requirement.key = true ↔ requirement.key ∈ selection.service.requestedKeys ∧
        disagree (selection.service.usable reading requirement.key) = true := by
  rw [← selection.service.readContextFact_conflicted_iff h hreq]
  have hresolved := selection.service.readContextFact_resolved h hreq
  have hunsatisfied := isUnsatisfied_restrictive resolution hreq hrestrictive
  rw [deniesBy_eq_any hfacts,resolveKernelContextFacts_unsatisfied hfacts,List.any_map,List.any_filter,readContextFacts,
    List.any_map,List.any_eq_true]
  constructor
  · rintro ⟨other,hother,hentry⟩
    simp only [Function.comp_apply,Bool.and_eq_true,unsatisfiedRequirementOf,beq_iff_eq,
      readContextFact_key] at hentry
    rw [selection.service.requirement_unique hother hreq hentry.2] at hentry
    exact (hunsatisfied.1 hentry.1).resolve_right hresolved
  · intro hconflicted
    refine ⟨requirement,hreq,?_⟩
    simp only [Function.comp_apply,Bool.and_eq_true,unsatisfiedRequirementOf,beq_iff_eq,
      readContextFact_key,and_true]
    exact hunsatisfied.2 (.inl hconflicted)

end Frontera.Context
