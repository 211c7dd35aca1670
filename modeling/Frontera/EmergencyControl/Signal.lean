import Frontera.Execution.Service

/-! What an operator can stop, what a caller asks, and the three answers, with the process-local
store that keeps the active controls in a map. -/

namespace Frontera.EmergencyControl

open Frontera.Data Frontera.Execution Frontera.Text

def scopeText : EmergencyControlScope → String
  | .global => "global"
  | .organization => "organization"
  | .actor => "actor"
  | .workflow => "workflow"
  | .adapter => "adapter"
  | .resource => "resource"

/-- The scope a text names, as `isEmergencyControlScope` narrows it. -/
def isEmergencyControlScope : String → Option EmergencyControlScope
  | "global" => some .global
  | "organization" => some .organization
  | "actor" => some .actor
  | "workflow" => some .workflow
  | "adapter" => some .adapter
  | "resource" => some .resource
  | _ => none

@[simp] theorem isEmergencyControlScope_scopeText (scope : EmergencyControlScope) :
    isEmergencyControlScope (scopeText scope) = some scope := by
  cases scope <;> rfl

theorem scopeText_inj {a b : EmergencyControlScope} : scopeText a = scopeText b ↔ a = b :=
  ⟨fun h => by simpa using congrArg isEmergencyControlScope h,fun h => by rw [h]⟩

theorem scopeText_of_isEmergencyControlScope {text : String} {scope : EmergencyControlScope}
    (h : isEmergencyControlScope text = some scope) : scopeText scope = text := by
  unfold isEmergencyControlScope at h
  split at h <;> cases h <;> rfl

/-- A stated field of a query is not blank. -/
def statedWell : Option String → Bool
  | none => true
  | some value => value != ""

def isWellFormedEmergencyControlQuery (query : EmergencyControlQuery) : Bool :=
  [query.organizationId, query.actorId, query.workflowId, query.adapterId, query.resource].all
    statedWell

/-- The control of one axis, when the query states it. -/
def statedScope (scope : EmergencyControlScope) (value : Option String) : List EmergencyControlScopeMatch :=
  match value with
  | none => []
  | some value => [⟨scope,some value⟩]

def applicableEmergencyControlScopes (query : EmergencyControlQuery) : List EmergencyControlScopeMatch :=
  [⟨.global,none⟩] ++ statedScope .organization query.organizationId ++
    statedScope .actor query.actorId ++ statedScope .workflow query.workflowId ++
    statedScope .adapter query.adapterId ++ statedScope .resource query.resource

def emergencyControlKey (scope : EmergencyControlScope) (value : Option String) : String :=
  if scope = .global then "global" else scopeText scope ++ ":" ++ value.getD ""

def matchKey (applicable : EmergencyControlScopeMatch) : String :=
  emergencyControlKey applicable.scope applicable.value

/-- What an operator states to activate or to release a control. -/
structure EmergencyControlDeclaration where
  scope : String
  value : Option String
  issuerRef : String
  /-- `declaredAt` of a declaration, `releasedAt` of a release. -/
  instant : String

/-- A value stands with every scope but `global`, and is not blank. -/
def valueStated (scope : EmergencyControlScope) (value : Option String) : Bool :=
  if scope = .global then value.isNone else value.any (· != "")

/-- `isWellFormedEmergencyControlDeclaration`, and the same rule for a release: the scope
the declaration names, when it states what that scope requires. -/
def isWellFormedEmergencyControlDeclaration (declaration : EmergencyControlDeclaration) :
    Option EmergencyControlScope :=
  match isEmergencyControlScope declaration.scope with
  | none => none
  | some scope =>
    if valueStated scope declaration.value && declaration.issuerRef != "" &&
      declaration.instant != "" then some scope
    else none

theorem isWellFormedEmergencyControlDeclaration_some {declaration : EmergencyControlDeclaration}
    {scope : EmergencyControlScope}
    (h : isWellFormedEmergencyControlDeclaration declaration = some scope) :
    valueStated scope declaration.value = true ∧ declaration.issuerRef ≠ "" ∧ declaration.instant ≠ "" := by
  unfold isWellFormedEmergencyControlDeclaration at h
  split at h
  · cases h
  · rename_i named _
    split_ifs at h with hstated
    cases h
    simpa [and_assoc] using hstated

inductive EmergencyControlError
  | rangeError | storeUnavailable | storeStateCorrupt | declarationInvalid
  /-- The driver raised. -/
  | sqliteError

structure InMemoryStore where
  controls : OrderedMap String EmergencyControlScopeMatch
  unavailable : Bool

/-- `createInMemoryEmergencyControlStore` -/
def createInMemoryEmergencyControlStore : InMemoryStore := ⟨.empty,false⟩

namespace InMemoryStore

def read (store : InMemoryStore) (query : EmergencyControlQuery) : EmergencyControlAssessment :=
  if store.unavailable then .unavailable
  else if !isWellFormedEmergencyControlQuery query then .unavailable
  else
    let matched := (applicableEmergencyControlScopes query).filter fun applicable =>
      (store.controls.get (matchKey applicable)).isSome
    if matched.isEmpty then .clear else .blocked matched

def activate (store : InMemoryStore) (declaration : EmergencyControlDeclaration) :
    Except EmergencyControlError InMemoryStore :=
  match isWellFormedEmergencyControlDeclaration declaration with
  | none => .error .rangeError
  | some scope =>
    let key := emergencyControlKey scope declaration.value
    if (store.controls.get key).isSome then .ok store
    else .ok { store with
      controls := store.controls.set key
        (if scope = .global then ⟨.global,none⟩ else ⟨scope,declaration.value⟩) }

def release (store : InMemoryStore) (release : EmergencyControlDeclaration) :
    Except EmergencyControlError InMemoryStore :=
  match isWellFormedEmergencyControlDeclaration release with
  | none => .error .rangeError
  | some scope =>
    .ok { store with controls := store.controls.delete (emergencyControlKey scope release.value) }

def active (store : InMemoryStore) : List EmergencyControlScopeMatch := store.controls.values

end InMemoryStore

end Frontera.EmergencyControl
