import Frontera.Grant.Bound
import Frontera.Text.Json

/-! At most one bound on each of eight axes, beside typed bounds over declared parameter dimensions.
An axis a scope leaves unstated is absent, never unbounded. -/

namespace Frontera.Grant

open Frontera.Text

inductive GrantBoundKey where
  | action | actionClass | amount | counterparty | governanceProfile | organization | resourceClass
  | resources
deriving DecidableEq

def GrantBoundKey.text : GrantBoundKey → String
  | .action => "action"
  | .actionClass => "actionClass"
  | .amount => "amount"
  | .counterparty => "counterparty"
  | .governanceProfile => "governanceProfile"
  | .organization => "organization"
  | .resourceClass => "resourceClass"
  | .resources => "resources"

def grantBoundKeys : List GrantBoundKey :=
  [.action, .actionClass, .amount, .counterparty, .governanceProfile, .organization,
    .resourceClass, .resources]

theorem mem_grantBoundKeys (key : GrantBoundKey) : key ∈ grantBoundKeys := by
  cases key <;> simp [grantBoundKeys]

def grantBoundKindsByKey : GrantBoundKey → GrantBoundKind
  | .amount => .ceiling
  | .resources => .set
  | _ => .identity

structure GrantScope where
  action : Option GrantBound := none
  actionClass : Option GrantBound := none
  amount : Option GrantBound := none
  counterparty : Option GrantBound := none
  governanceProfile : Option GrantBound := none
  organization : Option GrantBound := none
  parameters : Option GrantParameterBounds := none
  resourceClass : Option GrantBound := none
  resources : Option GrantBound := none
deriving DecidableEq

def grantScopeBound (scope : GrantScope) : GrantBoundKey → Option GrantBound
  | .action => scope.action
  | .actionClass => scope.actionClass
  | .amount => scope.amount
  | .counterparty => scope.counterparty
  | .governanceProfile => scope.governanceProfile
  | .organization => scope.organization
  | .resourceClass => scope.resourceClass
  | .resources => scope.resources

/-- The scope that states these bounds. -/
def GrantScope.ofBounds (bound : GrantBoundKey → Option GrantBound)
    (parameters : Option GrantParameterBounds) : GrantScope where
  action := bound .action
  actionClass := bound .actionClass
  amount := bound .amount
  counterparty := bound .counterparty
  governanceProfile := bound .governanceProfile
  organization := bound .organization
  parameters := parameters
  resourceClass := bound .resourceClass
  resources := bound .resources

@[simp] theorem grantScopeBound_ofBounds (bound : GrantBoundKey → Option GrantBound)
    (parameters : Option GrantParameterBounds) (key : GrantBoundKey) :
    grantScopeBound (.ofBounds bound parameters) key = bound key := by
  cases key <;> rfl

@[simp] theorem parameters_ofBounds (bound : GrantBoundKey → Option GrantBound)
    (parameters : Option GrantParameterBounds) :
    (GrantScope.ofBounds bound parameters).parameters = parameters := rfl

def grantSemanticsFormatV1 : String := "frontera.grant-semantics.v1"

def grantSemanticAxes : List GrantBoundKey := [.actionClass, .governanceProfile, .resourceClass]

def grantScopeCarriesSemantics (scope : GrantScope) : Bool :=
  (grantSemanticAxes.any fun key => (grantScopeBound scope key).isSome) || scope.parameters.isSome

def hasCompleteGrantSemantics (scope : GrantScope) : Bool :=
  let stated := (grantSemanticAxes.filter fun key => (grantScopeBound scope key).isSome).length
  if stated = 0 then scope.parameters.isNone else stated == grantSemanticAxes.length

def isConsistentGrantSemantics (scope : GrantScope) (semanticsFormat : Option String) : Bool :=
  match semanticsFormat with
  | none => !grantScopeCarriesSemantics scope
  | some format => format == grantSemanticsFormatV1 && grantScopeCarriesSemantics scope &&
      hasCompleteGrantSemantics scope

def statedGrantBoundKeys (scope : GrantScope) : List GrantBoundKey :=
  grantBoundKeys.filter fun key => (grantScopeBound scope key).isSome

def isWellFormedGrantScope (P : Platform) (scope : GrantScope) : Bool :=
  (grantBoundKeys.all fun key =>
    match grantScopeBound scope key with
    | none => true
    | some bound => bound.kind == grantBoundKindsByKey key && isWellFormedGrantBound P bound) &&
    hasCompleteGrantSemantics scope &&
    match scope.parameters with
    | none => true
    | some parameters => isWellFormedGrantParameterBounds parameters

/-- Sorted by dimension; the entries have no field beyond the declared ones. -/
def canonicalGrantParameterBounds (parameters : GrantParameterBounds) : GrantParameterBounds :=
  parameters.insertionSort fun a b => stringLt b.dimension a.dimension = false

def canonicalGrantScope (scope : GrantScope) : GrantScope :=
  .ofBounds (fun key => (grantScopeBound scope key).map canonicalGrantBound)
    (scope.parameters.map canonicalGrantParameterBounds)

@[simp] theorem grantScopeBound_canonical (scope : GrantScope) (key : GrantBoundKey) :
    grantScopeBound (canonicalGrantScope scope) key = (grantScopeBound scope key).map canonicalGrantBound :=
  grantScopeBound_ofBounds _ _ key

@[simp] theorem parameters_canonical (scope : GrantScope) : (canonicalGrantScope scope).parameters =
      scope.parameters.map canonicalGrantParameterBounds := rfl

def serializeBound : GrantBound → String
  | .identity value => "\x7b\"kind\":\"identity\",\"value\":" ++ stringify value ++ "\x7d"
  | .set values => "\x7b\"kind\":\"set\",\"values\":[" ++ join "," (values.map stringify) ++ "]\x7d"
  | .ceiling limit unit => "\x7b\"kind\":\"ceiling\",\"limit\":" ++ stringify limit ++
      ",\"unit\":" ++ stringify unit ++ "\x7d"
  | .window notAfter => "\x7b\"kind\":\"window\",\"notAfter\":" ++ stringify notAfter ++ "\x7d"

def serializeGovernedParameterValue : GovernedParameterValue → String
  | .integer value => toString value
  | .token value => stringify value
  | .boolean value => if value then "true" else "false"

def GovernedParameterValue.typeText : GovernedParameterValue → String
  | .integer _ => "integer"
  | .token _ => "token"
  | .boolean _ => "boolean"

def serializeGovernedParameterBound : GovernedParameterBound → String
  | .maximum limit => "\x7b\"kind\":\"maximum\",\"limit\":" ++ toString limit ++
      ",\"type\":\"integer\"\x7d"
  | .exact value => "\x7b\"kind\":\"exact\",\"type\":" ++ stringify value.typeText ++
      ",\"value\":" ++ serializeGovernedParameterValue value ++ "\x7d"

/-- The bound's own keys follow the dimension: `bound.slice(1)`. -/
def serializeGrantParameterBound (entry : GrantParameterBound) : String :=
  "\x7b\"dimension\":" ++ stringify entry.dimension ++ "," ++
    String.ofList ((serializeGovernedParameterBound entry.bound).toList.drop 1)

/-- One stated axis of a serialized scope. -/
def serializeAxis (scope : GrantScope) (key : GrantBoundKey) : List String :=
  match grantScopeBound scope key with
  | none => []
  | some bound => [stringify key.text ++ ":" ++ serializeBound bound]

def serializeParameters (scope : GrantScope) : List String :=
  match scope.parameters with
  | none => []
  | some parameters =>
      ["\"parameters\":[" ++ join "," (parameters.map serializeGrantParameterBound) ++ "]"]

def serializeGrantScope (scope : GrantScope) : String :=
  let canonical := canonicalGrantScope scope
  "\x7b" ++ join "," (serializeAxis canonical .action ++ serializeAxis canonical .actionClass ++
    serializeAxis canonical .amount ++ serializeAxis canonical .counterparty ++
    serializeAxis canonical .governanceProfile ++ serializeAxis canonical .organization ++
    serializeParameters canonical ++ serializeAxis canonical .resourceClass ++
    serializeAxis canonical .resources) ++ "\x7d"

end Frontera.Grant
