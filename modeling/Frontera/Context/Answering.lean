import Frontera.Context.Growth

/-! The admitted-context digest, and when a list of readings is answered at all: every bound that a
reported reading or a computed derivation carries leaves a date and a safe integer. -/

namespace Frontera.Context

open Frontera.Data Frontera.Text List

def TerminalContextTrustClass.text : TerminalContextTrustClass → String
  | .asserted => "asserted"
  | .authoritative => "authoritative"
  | .attested => "attested"

def ContextTrustClass.text : ContextTrustClass → String
  | .terminal trustClass => trustClass.text
  | .derived => "derived"

def ContextSourceKind.text : ContextSourceKind → String
  | .request => "request"
  | .internalStore => "internal_store"
  | .erp => "erp"
  | .crm => "crm"
  | .externalApi => "external_api"
  | .ledger => "ledger"
  | .identityProvider => "identity_provider"
  | .approvalSystem => "approval_system"
  | .riskEngine => "risk_engine"
  | .signedAttestation => "signed_attestation"

def ResolvedContextFactStatus.text : ResolvedContextFactStatus → String
  | .resolved => "resolved"
  | .stale => "stale"
  | .conflicted => "conflicted"

def ContextDerivationOperator.text : ContextDerivationOperator → String
  | .sum => "sum"
  | .difference => "difference"
  | .product => "product"
  | .quotient => "quotient"
  | .min => "min"
  | .max => "max"
  | .count => "count"

def ContextAssertedFactPolicy.text : ContextAssertedFactPolicy → String
  | .permit => "permit"
  | .report => "report"
  | .requireDeclaration => "require-declaration"

def texts (values : List String) : Json String := .arr (values.map .str)

def factSnapshot (fact : ContextFact) : Json String :=
  .obj ([("key", .str fact.key), ("value", fact.value.json), ("sourceId", .str fact.sourceId),
      ("sourceKind", .str fact.sourceKind.text), ("observedAt", .str fact.observedAt),
      ("trustClass", .str fact.trustClass.text),
      ("effectiveTrustClass", .str fact.effectiveTrustClass.text),
      ("resolution", .str fact.resolution.text)] ++
    textField "staleAt" (fact.freshness.bind (·.staleAt)) ++
    numberField "maxAgeSeconds" (fact.freshness.map (·.maxAgeSeconds)) ++
    textField "attestationRef" fact.attestationRef ++ textField "reference" fact.reference ++
    textField "provenanceDigest" fact.provenanceDigest ++ (if fact.conflictingSourceIds = [] then []
      else [("conflictingSourceIds", texts fact.conflictingSourceIds)]) ++
    fact.derivation.toList.map fun derivation =>
      ("derivation", .obj [("operator", .str derivation.1.text), ("operandKeys", texts derivation.2)]))

def RefusedContextObservation.json (refusal : RefusedContextObservation) : Json String :=
  .obj [("key", .str refusal.key), ("sourceId", .str refusal.sourceId),
    ("reason", .str refusal.reason.text)]

/-- The numbers of a snapshot that `canonical` does not throw on. -/
def ContextFact.isCanonical (fact : ContextFact) : Bool :=
  (fact.value.toNumber.all Number.isPlainInteger) &&
    fact.freshness.all fun freshness => isCanonicalNumber freshness.maxAgeSeconds

/-- `none`: a number of a fact is no safe integer, and `canonical` throws. -/
def contextResolutionDigest (P : Platform) (resolution : ContextResolution) : Option String :=
  if resolution.facts.all ContextFact.isCanonical then
    some (P.digestOf (Json.canonicalSerialize keyLe (.obj
      [("format", .str "frontera.admitted-context.v1"), ("resolved", .bool resolution.resolved),
        ("resolvedAt", .str resolution.resolvedAt), ("declaredKeys", texts resolution.declaredKeys),
        ("facts", .arr (resolution.facts.map factSnapshot)),
        ("unresolved", texts resolution.unresolved), ("stale", texts resolution.stale),
        ("conflicted", texts resolution.conflicted),
        ("refused", .arr (resolution.refused.map RefusedContextObservation.json)),
        ("assertedFactPolicy", .str resolution.assertedFactPolicy.text),
        ("assertableKeys", texts resolution.assertableKeys)])))
  else none

/-- A bound that leaves a stale date and that the digest admits. -/
def BoundHolds (P : Platform) (observedAt : String) (bound : Option ℚ) : Prop :=
  ∀ maxAgeSeconds ∈ bound, ∀ observed ∈ P.dateParse observedAt,
    isCanonicalNumber maxAgeSeconds = true ∧ (staleInstant observed maxAgeSeconds).isSome = true

namespace ContextResolutionService

variable {P : Platform} (service : ContextResolutionService P)

/-- The readings a requested key is answered with: the preferred one, or all that disagree. -/
def reported (reading : Reading) (key : String) : List ContextFactObservation :=
  match service.usable reading key with
  | [] => []
  | first :: rest =>
      if disagree (first :: rest) then first :: rest else [service.preferred first rest]

/-- The facts once these derivations are computed. -/
def factsAfter (reading : Reading) (derivations : List ContextDerivation) : List ContextFact :=
  derivations.foldl (service.deriveNext reading.instant)
    (service.requestedKeys.flatMap (service.readFacts reading))

def declaredBound (key : String) : Option ℚ := (service.requirementOf key).bind (·.maxAgeSeconds)

/-- Every reported reading's strictest bound holds, and so does the declared bound of every
derivation that is computed, from the oldest of its operands. -/
structure Answerable (reading : Reading) : Prop where
  read : ∀ key ∈ service.requestedKeys, ∀ observation ∈ service.reported reading key,
    BoundHolds P observation.observedAt (service.maxAgeFor observation.key observation)
  derived : ∀ front derivation back, service.derivations = front ++ derivation :: back → ∀ operands number,
      derivation.operandKeys.mapM (resolvedFact (service.factsAfter reading front)) = some operands →
      evaluateContextDerivation derivation.operator (operands.map (·.value)) = some number →
      isAdmissibleContextFactValue (.number number) = true →
      BoundHolds P (oldestInstant P reading.instant (operands.map (·.observedAt)))
        (service.declaredBound derivation.key)

/-- The freshness is written: its stale instant is a date, its bound a safe integer. -/
def isWritten (freshness : Option ContextFactFreshness) : Bool :=
  freshness.all fun freshness => freshness.staleAt.isSome && isCanonicalNumber freshness.maxAgeSeconds

theorem isWritten_toFreshness {observedAt : String} {bound : Option ℚ} :
    isWritten (service.toFreshness observedAt bound) = true ↔ BoundHolds P observedAt bound := by
  unfold toFreshness BoundHolds
  cases bound with
  | none => simp [isWritten]
  | some maxAgeSeconds =>
    cases P.dateParse observedAt with
    | none => simp [isWritten]
    | some observed => simp [isWritten,and_comm]

variable {reading : Reading} {instant : String} {facts : List ContextFact}

theorem forall_readFacts_iff {key : String} :
    (∀ fact ∈ service.readFacts reading key, isWritten fact.freshness = true) ↔
      ∀ observation ∈ service.reported reading key,
        BoundHolds P observation.observedAt (service.maxAgeFor observation.key observation) := by
  have hfact : ∀ observation status sources,
      isWritten (service.toFact observation status sources).freshness = true ↔
        BoundHolds P observation.observedAt (service.maxAgeFor observation.key observation) :=
    fun _ _ _ => service.isWritten_toFreshness
  unfold readFacts reported
  cases service.usable reading key with
  | nil => simp
  | cons first rest =>
    dsimp only
    split_ifs
    · simp only [forall_mem_map,hfact]
    · simp only [forall_mem_singleton,hfact]

theorem forall_foldl_deriveNext_iff {Q : ContextFact → Prop}
    {derivations : List ContextDerivation} :
    (∀ fact ∈ derivations.foldl (service.deriveNext instant) facts, Q fact) ↔
      (∀ fact ∈ facts, Q fact) ∧ ∀ front derivation back, derivations = front ++ derivation :: back →
        ∀ fact, service.derive derivation (front.foldl (service.deriveNext instant) facts) instant =
          some fact → Q fact := by
  induction derivations generalizing facts with
  | nil => simp
  | cons next derivations ih =>
    rw [foldl_cons,ih]
    have hnext : (∀ fact ∈ service.deriveNext instant facts next, Q fact) ↔ (∀ fact ∈ facts, Q fact) ∧
          ∀ fact, service.derive next facts instant = some fact → Q fact := by
      simp only [deriveNext,forall_mem_append,Option.mem_toList]
    rw [hnext,and_assoc]
    refine and_congr_right fun _ => ?_
    constructor
    · rintro ⟨hhead,htail⟩ front derivation back hsplit
      cases front with
      | nil =>
        obtain ⟨rfl,-⟩ := List.cons.inj hsplit
        exact hhead
      | cons first front =>
        obtain ⟨rfl,hrest⟩ := List.cons.inj hsplit
        exact htail front derivation back hrest
    · intro h
      exact ⟨h [] next derivations rfl,fun front derivation back hsplit =>
        h (next :: front) derivation back (congrArg (next :: ·) hsplit)⟩

theorem forall_factsOf_iff : (∀ fact ∈ service.factsOf reading, isWritten fact.freshness = true) ↔
    service.Answerable reading := by
  unfold factsOf
  rw [forall_foldl_deriveNext_iff]
  simp only [mem_flatMap,forall_exists_index,and_imp,derive_eq_some_iff]
  constructor
  · rintro ⟨hread,hderived⟩
    constructor
    · intro key hkey
      exact service.forall_readFacts_iff.1 fun fact hfact => hread fact key hkey hfact
    · intro front derivation back hsplit operands number hoperands hnumber hadmissible
      exact service.isWritten_toFreshness.1
        (hderived front derivation back hsplit _ operands number hoperands hnumber hadmissible rfl)
  · intro h
    constructor
    · intro fact key hkey hfact
      exact service.forall_readFacts_iff.2 (h.read key hkey) fact hfact
    · rintro front derivation back hsplit _ operands number hoperands hnumber hadmissible rfl
      exact service.isWritten_toFreshness.2
        (h.derived front derivation back hsplit operands number hoperands hnumber hadmissible)

theorem canonical_of_admissible {value : ContextFactValue}
    (h : isAdmissibleContextFactValue value = true) :
    value.toNumber.all Number.isPlainInteger = true := by
  cases value with
  | number value => exact h
  | _ => rfl

theorem value_of_mem_factsOf {fact : ContextFact} (h : fact ∈ service.factsOf reading) :
    fact.value.toNumber.all Number.isPlainInteger = true := by
  revert fact
  unfold factsOf
  rw [forall_foldl_deriveNext_iff]
  constructor
  · intro fact hfact
    obtain ⟨key,-,hread⟩ := mem_flatMap.1 hfact
    have hvalue : ∀ observation ∈ service.usable reading key,
        observation.value.toNumber.all Number.isPlainInteger = true := fun observation hmem =>
      canonical_of_admissible (service.refusalOf_eq_none
        (service.mem_admitted.1 (service.mem_usable hmem)).2.2).2.2
    unfold readFacts at hread
    split at hread
    · cases hread
    · next first rest husable =>
      rw [husable] at hvalue
      split_ifs at hread
      · obtain ⟨observation,hmem,rfl⟩ := mem_map.1 hread
        exact hvalue observation hmem
      · rw [mem_singleton.1 hread]
        exact hvalue _ (service.preferred_mem first rest)
  · intro front derivation back _ fact hfact
    obtain ⟨_,_,_,_,hadmissible,rfl⟩ := service.derive_eq_some_iff.1 hfact
    exact hadmissible

end ContextResolutionService

open ContextResolutionService

/-- Classification, evaluation and digest all return exactly when every bound that is reported
leaves a date and a safe integer. -/
theorem context_returns_iff {P : Platform} (selection : KernelContextSelection P)
    (reading : Reading) :
    (∃ resolution evaluation digest, selection.service.classify reading = some resolution ∧
        toContextEvaluation resolution selection
          (readContextFacts resolution selection.requirements) = some evaluation ∧
        contextResolutionDigest P resolution = some digest) ↔
      selection.service.Answerable reading := by
  rw [← selection.service.forall_factsOf_iff]
  simp only [isWritten]
  constructor
  · rintro ⟨resolution,-,digest,hresolution,-,hdigest⟩ fact hfact
    obtain ⟨hperm,-,-,-,-,-,-,hdated⟩ := selection.service.classify_facts hresolution
    unfold contextResolutionDigest at hdigest
    split_ifs at hdigest with hcanonical
    have hdate := hdated fact hfact
    have hnumber := List.all_eq_true.1 hcanonical fact (hperm.mem_iff.2 hfact)
    unfold isDated at hdate
    simp only [ContextFact.isCanonical,Bool.and_eq_true] at hnumber
    cases hfreshness : fact.freshness with
    | none => rfl
    | some freshness =>
      rw [hfreshness] at hdate hnumber
      exact Bool.and_eq_true_iff.2 ⟨hdate,hnumber.2⟩
  · intro hwritten
    have hdated : (selection.service.factsOf reading).all isDated = true := by
      rw [all_eq_true]
      intro fact hfact
      have hone := hwritten fact hfact
      unfold isDated
      cases hfreshness : fact.freshness with
      | none => rfl
      | some freshness =>
        rw [hfreshness] at hone
        exact (Bool.and_eq_true_iff.1 hone).1
    obtain ⟨resolution,hresolution⟩ :
        ∃ resolution, selection.service.classify reading = some resolution := by
      unfold classify
      exact ⟨_,if_pos hdated⟩
    obtain ⟨hperm,-⟩ := selection.service.classify_facts hresolution
    have hnumber : ∀ fact ∈ resolution.facts, fact.isCanonical = true := by
      intro fact hfact
      have hmem := hperm.mem_iff.1 hfact
      have hone := hwritten fact hmem
      unfold ContextFact.isCanonical
      rw [selection.service.value_of_mem_factsOf hmem,Bool.true_and]
      cases hfreshness : fact.freshness with
      | none => rfl
      | some freshness =>
        rw [hfreshness] at hone
        exact (Bool.and_eq_true_iff.1 hone).2
    have hdigestible : isDigestible resolution = true := by
      unfold isDigestible
      rw [all_eq_true]
      exact fun fact hfact => (Bool.and_eq_true_iff.1 (hnumber fact hfact)).2
    obtain ⟨evaluation,hevaluation⟩ : ∃ evaluation, toContextEvaluation resolution selection
        (readContextFacts resolution selection.requirements) = some evaluation := by
      unfold toContextEvaluation
      exact ⟨_,if_neg fun h => by simp [hdigestible] at h⟩
    exact ⟨resolution,evaluation,_,hresolution,hevaluation,if_pos (List.all_eq_true.2 hnumber)⟩

/-- A requester's reading whose bound reaches past the last date stops the classification, and
one whose bound is a fraction stops the digest. -/
theorem context_stopped_by_a_bound : vendorService.classify ⟨[{ vendorReading "agent" sampleInstant with
        maxAgeSeconds := some (10 ^ 300) }],sampleInstant,none⟩ = none ∧
      ∃ resolution, vendorService.classify ⟨[{ vendorReading "agent" sampleInstant with
          maxAgeSeconds := some (1 / 2) }],sampleInstant,none⟩ = some resolution ∧
        contextResolutionDigest contextPlatform resolution = none := by
  constructor
  · decide +kernel
  · have hstops : (vendorService.classify ⟨[{ vendorReading "agent" sampleInstant with
        maxAgeSeconds := some (1 / 2) }],sampleInstant,none⟩).any
          (fun resolution => !resolution.facts.all ContextFact.isCanonical) = true := by
      decide +kernel
    obtain ⟨resolution,hresolution,hfacts⟩ := (Option.any_eq_true _ _).1 hstops
    refine ⟨resolution,hresolution,if_neg ?_⟩
    simpa using hfacts

end Frontera.Context
