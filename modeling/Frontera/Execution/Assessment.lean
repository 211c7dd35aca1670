import Frontera.Grant.BoundedGrant

/-! `assessBoundedGrantExercise`: whether one attempted action is covered by one trusted grant at
one instant. Every failing reason is reported, in a fixed order. -/

namespace Frontera.Execution

open Frontera.Grant Frontera.Monetary

structure GrantExerciseRequest where
  (boundedGrantId subject action resource : String)
  counterparty : Option String := none
  organization : Option String := none
  amount : Option MonetaryAmount := none
  governanceProfile : Option String := none
  actionClass : Option String := none
  resourceClass : Option String := none
  parameters : Option (List GovernedParameter) := none
  correlation : GrantCorrelation
  executionId : String

/-- Non-empty, well formed, and strictly ascending by dimension. -/
def isWellFormedExerciseParameters (parameters : List GovernedParameter) : Bool :=
  !parameters.isEmpty && parameters.all isWellFormedGovernedParameter &&
    strictlyAscending (parameters.map (·.dimension))

/-- An optional field, checked only when it is stated. -/
def whenStated {α : Type} (check : α → Bool) (field : Option α) : Bool :=
  match field with
  | none => true
  | some value => check value

def isWellFormedGrantExerciseRequest (request : GrantExerciseRequest) : Bool :=
  request.boundedGrantId != "" && request.subject != "" && request.action != "" &&
    request.resource != "" && request.executionId != "" &&
    whenStated (· != "") request.counterparty && whenStated (· != "") request.organization &&
    whenStated isWellFormedMonetaryAmount request.amount &&
    whenStated (· != "") request.governanceProfile && whenStated (· != "") request.actionClass &&
    whenStated (· != "") request.resourceClass &&
    whenStated isWellFormedExerciseParameters request.parameters &&
    isWellFormedGrantCorrelation request.correlation

inductive GrantExerciseReasonCode where
  | requestMalformed | notFound | integrityInvalid | expired | revoked | subjectMismatch
  | correlationInvalid | actionOutOfScope | resourceOutOfScope | counterpartyOutOfScope
  | organizationOutOfScope | amountExceeded | governanceProfileMismatch | parameterOutOfScope
  | semanticClassMismatch
deriving DecidableEq

structure BoundedGrantExerciseAssessment where
  usable : Bool
  reasonCodes : List GrantExerciseReasonCode
  boundedGrantId : String
  correlation : GrantCorrelation
  executionId : String

variable (P : Platform)

def attemptIsWithin (granted attempted : Option GrantBound) : Bool :=
  match granted, attempted with
  | some granted, some attempted => (compareGrantBound P granted attempted).permits
  | _, _ => false

/-- An optional axis: agreed when neither side states it. -/
def axisAgrees (granted attempted : Option GrantBound) : Bool :=
  match granted, attempted with
  | none, none => true
  | granted, attempted => attemptIsWithin P granted attempted

def parametersAgree (granted : Option GrantParameterBounds)
    (attempted : Option (List GovernedParameter)) : Bool :=
  match granted, attempted with
  | none, none => true
  | some granted, some attempted =>
      attempted.length == granted.length &&
        attempted.all fun parameter =>
          match grantParameterBound granted parameter.dimension with
          | none => false
          | some entry => governedParameterBoundAdmits entry.bound parameter.value
  | _, _ => false

/-- The bound an attempt states on an axis. -/
def attemptedBound (request : GrantExerciseRequest) : GrantBoundKey → Option GrantBound
  | .action => some (.identity request.action)
  | .resources => some (.set [request.resource])
  | .counterparty => request.counterparty.map .identity
  | .organization => request.organization.map .identity
  | .amount => request.amount.map fun amount => .ceiling amount.value amount.unit
  | .governanceProfile => request.governanceProfile.map .identity
  | .actionClass => request.actionClass.map .identity
  | .resourceClass => request.resourceClass.map .identity

/-- One check of the report. -/
def reportUnless (condition : Bool) (code : GrantExerciseReasonCode) : List GrantExerciseReasonCode :=
  if condition then [] else [code]

/-- The attempt against the bounds, axis by axis. -/
def scopeReasonCodes (scope : GrantScope) (request : GrantExerciseRequest) : List GrantExerciseReasonCode :=
  let agrees := fun key => axisAgrees P (grantScopeBound scope key) (attemptedBound request key)
  reportUnless (attemptIsWithin P scope.action (attemptedBound request .action)) .actionOutOfScope ++
    reportUnless (attemptIsWithin P scope.resources (attemptedBound request .resources))
      .resourceOutOfScope ++
    reportUnless (agrees .counterparty) .counterpartyOutOfScope ++
    reportUnless (agrees .organization) .organizationOutOfScope ++
    reportUnless (agrees .amount) .amountExceeded ++
    reportUnless (agrees .governanceProfile) .governanceProfileMismatch ++
    reportUnless (agrees .actionClass && agrees .resourceClass) .semanticClassMismatch ++
    reportUnless (parametersAgree scope.parameters request.parameters) .parameterOutOfScope

/-- Expired, or not provably unexpired, at the instant. -/
def isExpiredAt (expiresAt at' : String) : Bool :=
  match P.dateParse expiresAt, P.dateParse at' with
  | some expiry, some now => decide (now ≥ expiry)
  | _, _ => true

def exerciseReasonCodes (grant : BoundedGrant) (revocation : Option GrantRevocation)
    (request : GrantExerciseRequest) (at' : String) : List GrantExerciseReasonCode :=
  reportUnless (boundedGrantDigestMatches P grant &&
      isWellFormedBoundedGrantSemantics grant.scope grant.semanticsFormat) .integrityInvalid ++
    reportUnless revocation.isNone .revoked ++ reportUnless (!isExpiredAt P grant.expiresAt at') .expired ++
    reportUnless (request.subject == grant.subject) .subjectMismatch ++
    reportUnless (grantCorrelationMatches grant.correlation request.correlation) .correlationInvalid ++
    scopeReasonCodes P grant.scope request

def assessBoundedGrantExercise (grant : BoundedGrant) (revocation : Option GrantRevocation)
    (request : GrantExerciseRequest) (at' : String) : BoundedGrantExerciseAssessment :=
  let reasonCodes :=
    if !isWellFormedGrantExerciseRequest request then [.requestMalformed]
    else exerciseReasonCodes P grant revocation request at'
  ⟨reasonCodes.isEmpty,reasonCodes,request.boundedGrantId,request.correlation, request.executionId⟩

/-- The scope checks of the assessment report nothing. -/
def scopeAdmits (scope : GrantScope) (request : GrantExerciseRequest) : Prop :=
  scopeReasonCodes P scope request = []

variable {P}

@[simp] theorem reportUnless_eq_nil {condition : Bool} {code : GrantExerciseReasonCode} :
    reportUnless condition code = [] ↔ condition = true := by
  unfold reportUnless
  split_ifs with h <;> simp [h]

theorem axisAgrees_some {granted : Option GrantBound} {attempted : GrantBound} :
    axisAgrees P granted (some attempted) = attemptIsWithin P granted (some attempted) := by
  cases granted <;> rfl

theorem scopeAdmits_iff {scope : GrantScope} {request : GrantExerciseRequest} :
    scopeAdmits P scope request ↔
      (∀ key, axisAgrees P (grantScopeBound scope key) (attemptedBound request key) = true) ∧
        parametersAgree scope.parameters request.parameters = true := by
  simp only [scopeAdmits,scopeReasonCodes,List.append_eq_nil_iff,reportUnless_eq_nil, Bool.and_eq_true]
  constructor
  · rintro ⟨⟨⟨⟨⟨⟨⟨haction,hresources⟩,hcounterparty⟩,horganization⟩,hamount⟩,hprofile⟩,
      hactionClass,hresourceClass⟩,hparameters⟩
    refine ⟨fun key => ?_,hparameters⟩
    cases key with
    | action => exact axisAgrees_some.trans haction
    | resources => exact axisAgrees_some.trans hresources
    | counterparty => exact hcounterparty
    | organization => exact horganization
    | amount => exact hamount
    | governanceProfile => exact hprofile
    | actionClass => exact hactionClass
    | resourceClass => exact hresourceClass
  · rintro ⟨haxes,hparameters⟩
    exact ⟨⟨⟨⟨⟨⟨⟨axisAgrees_some.symm.trans (haxes .action),
      axisAgrees_some.symm.trans (haxes .resources)⟩,haxes .counterparty⟩,haxes .organization⟩,
      haxes .amount⟩,haxes .governanceProfile⟩,haxes .actionClass,haxes .resourceClass⟩, hparameters⟩

theorem scopeAdmits_of_usable {grant : BoundedGrant} {revocation : Option GrantRevocation}
    {request : GrantExerciseRequest} {at' : String}
    (h : (assessBoundedGrantExercise P grant revocation request at').usable = true) :
    scopeAdmits P grant.scope request := by
  simp only [assessBoundedGrantExercise,List.isEmpty_iff] at h
  split_ifs at h
  simp only [exerciseReasonCodes,List.append_eq_nil_iff] at h
  exact h.2

end Frontera.Execution
