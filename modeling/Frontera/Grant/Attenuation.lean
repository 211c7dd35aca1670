import Frontera.Grant.Scope

/-! `attenuateGrantScope` derives the bounds a grant would carry, axis by axis and dimension by
dimension, and reports every comparison. `grantScopeIsWithin` re-derives containment of the finished
scope by rules of its own. -/

namespace Frontera.Grant

inductive GrantAttenuationKey where
  | axis (key : GrantBoundKey)
  | parameters
  | dimension (name : String)
deriving DecidableEq

structure GrantBoundAttenuation where
  key : GrantAttenuationKey
  comparison : BoundComparison
  (narrowingRequested permitted : Bool)
deriving DecidableEq

inductive GrantReasonCode where
  | authorizationNotPermitted | obligationsUnsatisfied | sourceBoundsIncomplete | scopeBroadening
  | boundIncomparable | subjectInvalid | correlationInvalid | validityInvalid | eligibilityChanged
  | revoked | notFound | semanticsFormatInvalid
deriving DecidableEq

structure GrantAttenuationViolation where
  key : GrantAttenuationKey
  reasonCode : GrantReasonCode
  comparison : BoundComparison
deriving DecidableEq

inductive GrantAttenuationOutcome where
  | attenuated (scope : GrantScope) (bounds : List GrantBoundAttenuation)
  | refused (violations : List GrantAttenuationViolation) (bounds : List GrantBoundAttenuation)
deriving DecidableEq

/-- A requested narrowing has the shape of a scope. -/
abbrev RequestedGrantBounds := GrantScope

def violationFor (key : GrantAttenuationKey) (comparison : BoundComparison) :
    GrantAttenuationViolation where
  key := key
  comparison := comparison
  reasonCode := if comparison = .broader then .scopeBroadening else .boundIncomparable

/-- What one turn of either loop adds: a report, a violation, a derived bound. -/
structure AttenuationStep (α : Type) where
  report : Option GrantBoundAttenuation := none
  violation : Option GrantAttenuationViolation := none
  derived : Option α := none

/-- The turn that refuses. -/
def AttenuationStep.refuse {α : Type} (key : GrantAttenuationKey) (comparison : BoundComparison)
    (narrowingRequested : Bool) : AttenuationStep α where
  report := some ⟨key,comparison,narrowingRequested,false⟩
  violation := some (violationFor key comparison)

/-- The turn that inherits the source bound. -/
def AttenuationStep.inherit {α : Type} (key : GrantAttenuationKey) (bound : α) : AttenuationStep α where
  report := some ⟨key,.equal,false,true⟩
  derived := some bound

/-- The turn that compares a requested bound. -/
def AttenuationStep.compare {α : Type} (key : GrantAttenuationKey) (comparison : BoundComparison)
    (bound : α) : AttenuationStep α :=
  if comparison.permits then
    { report := some ⟨key,comparison,true,true⟩, derived := some bound }
  else refuse key comparison true

variable (P : Platform)

/-- One axis of `attenuateGrantScope`. -/
def attenuateAxis (source requested : GrantScope) (key : GrantBoundKey) : AttenuationStep GrantBound :=
  match grantScopeBound requested key, grantScopeBound source key with
  | none, none => {}
  | none, some sourceBound =>
      if !isWellFormedGrantBound P sourceBound || sourceBound.kind ≠ grantBoundKindsByKey key then
        .refuse (.axis key) .incomparable false
      else .inherit (.axis key) sourceBound
  | some _, none => .refuse (.axis key) .incomparable true
  | some requestedBound, some sourceBound =>
      if requestedBound.kind ≠ grantBoundKindsByKey key ∨ sourceBound.kind ≠ grantBoundKindsByKey key then
        .refuse (.axis key) .incomparable true
      else .compare (.axis key) (compareGrantBound P sourceBound requestedBound) requestedBound

/-- One dimension of `attenuateParameterBounds`. -/
def attenuateDimension (source requested : GrantParameterBounds) (dimension : String) :
    AttenuationStep GrantParameterBound :=
  match grantParameterBound requested dimension, grantParameterBound source dimension with
  | none, none => {}
  | none, some sourceBound => .inherit (.dimension dimension) sourceBound
  | some _, none => .refuse (.dimension dimension) .incomparable true
  | some requestedBound, some sourceBound =>
      .compare (.dimension dimension)
        (compareGovernedParameterBound sourceBound.bound requestedBound.bound) requestedBound

/-- The dimensions either list names, each once, in canonical order. -/
def attenuatedDimensions (source requested : GrantParameterBounds) : List String :=
  ((source ++ requested).map (·.dimension)).dedup.insertionSort fun a b => stringLt b a = false

/-- The turns of `attenuateParameterBounds`; an unusable list is refused as a whole. -/
def attenuateParameterBounds (source requested : Option GrantParameterBounds) :
    List (AttenuationStep GrantParameterBound) :=
  if source.isNone && requested.isNone then []
  else if (source.any fun list => !isWellFormedGrantParameterBounds list) ||
      (requested.any fun list => !isWellFormedGrantParameterBounds list) then
    [.refuse .parameters .incomparable requested.isSome]
  else
    (attenuatedDimensions (source.getD []) (requested.getD [])).map
      (attenuateDimension (source.getD []) (requested.getD []))

/-- The derived list, absent when it would be empty. -/
def derivedParameters (steps : List (AttenuationStep GrantParameterBound)) : Option GrantParameterBounds :=
  let derived := steps.filterMap (·.derived)
  if derived.isEmpty then none else some derived

def attenuateGrantScope (source : GrantScope) (requested : RequestedGrantBounds) :
    GrantAttenuationOutcome :=
  let axes := grantBoundKeys.map (attenuateAxis P source requested)
  let parameters := attenuateParameterBounds source.parameters requested.parameters
  let bounds := axes.filterMap (·.report) ++ parameters.filterMap (·.report)
  let violations := axes.filterMap (·.violation) ++ parameters.filterMap (·.violation)
  if !violations.isEmpty then .refused violations bounds
  else .attenuated (canonicalGrantScope (.ofBounds
    (fun key => (attenuateAxis P source requested key).derived) (derivedParameters parameters)))
    bounds

/-- The child bounds every dimension the parent bounds, and no other. -/
def parameterBoundsAreWithin (parent child : Option GrantParameterBounds) : Bool :=
  match parent, child with
  | none, none => true
  | some _, none => false
  | none, some _ => false
  | some parent, some child =>
      isWellFormedGrantParameterBounds parent && isWellFormedGrantParameterBounds child &&
        child.length == parent.length &&
        parent.all fun parentBound =>
          match grantParameterBound child parentBound.dimension with
          | none => false
          | some childBound =>
              (compareGovernedParameterBound parentBound.bound childBound.bound).permits

/-- An axis the child omits passes; one the parent omits does not. -/
def axisIsWithin (parent child : Option GrantBound) : Bool :=
  match child, parent with
  | none, _ => true
  | some _, none => false
  | some childBound, some parentBound => (compareGrantBound P parentBound childBound).permits

def grantScopeIsWithin (parent child : GrantScope) : Bool :=
  (grantBoundKeys.all fun key =>
    axisIsWithin P (grantScopeBound parent key) (grantScopeBound child key)) &&
    parameterBoundsAreWithin parent.parameters child.parameters

end Frontera.Grant
