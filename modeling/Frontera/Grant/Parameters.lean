import Frontera.Monetary.MonetaryAmount

/-! Typed values of the declared parameter dimensions and their bounds. A number that is not an
integer is malformed wherever it is read, so values and limits are integers here and well-formedness
asks for safe ones. -/

namespace Frontera.Grant

open Frontera.Monetary

def semanticIdentifierMaxLength : Nat := 64

/-- What may follow the first letter: no separator is last or follows another. -/
def isIdentifierTail (afterSeparator : Bool) : List Char → Bool
  | [] => !afterSeparator
  | c :: rest =>
      if isAsciiAlphanumeric c then isIdentifierTail false rest
      else ['.', '_', '-'].contains c && !afterSeparator && isIdentifierTail true rest

/-- `^[a-z][A-Za-z0-9]*(?:[._-][A-Za-z0-9]+)*$`, at most 64 characters. -/
def isSemanticIdentifier (value : String) : Bool :=
  match value.toList with
  | [] => false
  | first :: rest =>
      decide ((codeUnits value).length ≤ semanticIdentifierMaxLength) &&
        ('a' ≤ first && first ≤ 'z') && isIdentifierTail false rest

def governedParameterTokenMaxLength : Nat := 128

/-- `^[A-Za-z0-9][A-Za-z0-9._:@-]*$`, at most 128 characters. -/
def isGovernedParameterToken (value : String) : Bool :=
  match value.toList with
  | [] => false
  | first :: rest =>
      decide ((codeUnits value).length ≤ governedParameterTokenMaxLength) &&
        isAsciiAlphanumeric first &&
        rest.all fun c => isAsciiAlphanumeric c || ['.', '_', ':', '@', '-'].contains c

inductive GovernedParameterValue where
  | integer (value : Int)
  | token (value : String)
  | boolean (value : Bool)
deriving DecidableEq

def isWellFormedGovernedParameterValue : GovernedParameterValue → Bool
  | .integer value => isSafeInteger value
  | .token value => isGovernedParameterToken value
  | .boolean _ => true

structure GovernedParameter where
  dimension : String
  value : GovernedParameterValue

def isWellFormedGovernedParameter (parameter : GovernedParameter) : Bool :=
  isSemanticIdentifier parameter.dimension && isWellFormedGovernedParameterValue parameter.value

inductive GovernedParameterBound where
  | exact (value : GovernedParameterValue)
  | maximum (limit : Int)
deriving DecidableEq

def isWellFormedGovernedParameterBound : GovernedParameterBound → Bool
  | .exact value => isWellFormedGovernedParameterValue value
  | .maximum limit => isSafeInteger limit

/-- How a requested bound stands to the bound it derives from. -/
inductive BoundComparison where
  | equal | narrower | broader | incomparable
deriving DecidableEq

/-- `equal` and `narrower` permit; the other two are the fail-closed pair. -/
def BoundComparison.permits : BoundComparison → Bool
  | .equal | .narrower => true
  | .broader | .incomparable => false

def compareGovernedParameterBound (source requested : GovernedParameterBound) : BoundComparison :=
  if !isWellFormedGovernedParameterBound source || !isWellFormedGovernedParameterBound requested
  then .incomparable
  else
    match source, requested with
    | .exact value, .exact value' => if value = value' then .equal else .incomparable
    | .maximum limit, .maximum limit' =>
        if limit' > limit then .broader else if limit' = limit then .equal else .narrower
    | _, _ => .incomparable

def governedParameterBoundAdmits (bound : GovernedParameterBound)
    (value : GovernedParameterValue) : Bool :=
  if !isWellFormedGovernedParameterBound bound || !isWellFormedGovernedParameterValue value
  then false
  else
    match bound, value with
    | .exact expected, value => expected == value
    | .maximum limit, .integer value => decide (value ≤ limit)
    | .maximum _, _ => false

variable {source requested : GovernedParameterBound} {dimension : String}

section

variable (h : (compareGovernedParameterBound source requested).permits = true)
include h

theorem compareGovernedParameterBound_wellFormed : isWellFormedGovernedParameterBound source = true ∧
      isWellFormedGovernedParameterBound requested = true := by
  unfold compareGovernedParameterBound at h
  split_ifs at h with hmalformed
  · cases h
  · simpa using hmalformed

theorem governedParameterBoundAdmits_of_permits {value : GovernedParameterValue}
    (hadmits : governedParameterBoundAdmits requested value = true) :
    governedParameterBoundAdmits source value = true := by
  obtain ⟨hsource,hrequested⟩ := compareGovernedParameterBound_wellFormed h
  have hvalue : isWellFormedGovernedParameterValue value = true := by
    unfold governedParameterBoundAdmits at hadmits
    split_ifs at hadmits with hmalformed
    simp only [Bool.or_eq_true,not_or,Bool.not_eq_true,Bool.not_eq_false'] at hmalformed
    exact hmalformed.2
  simp only [compareGovernedParameterBound,hsource,hrequested,Bool.not_true,Bool.or_self,
    Bool.false_eq_true,if_false] at h
  simp only [governedParameterBoundAdmits,hsource,hrequested,hvalue,Bool.not_true,
    Bool.or_self,Bool.false_eq_true,if_false] at hadmits ⊢
  cases source with
  | exact expected =>
    cases requested with
    | exact expected' =>
      simp only at h hadmits ⊢
      split_ifs at h with hsame
      · rw [hsame]
        exact hadmits
      · cases h
    | maximum limit' => cases h
  | maximum limit =>
    cases requested with
    | exact expected' => cases h
    | maximum limit' =>
      cases value with
      | integer n =>
        simp only [decide_eq_true_eq] at h hadmits ⊢
        split_ifs at h with hbroader hsame
        · cases h
        · omega
        · omega
      | token text => cases hadmits
      | boolean b => cases hadmits

end

/-- The largest value a bound admits. -/
def GovernedParameterBound.largest : GovernedParameterBound → GovernedParameterValue
  | .exact value => value
  | .maximum limit => .integer limit

theorem admits_largest {bound : GovernedParameterBound}
    (h : isWellFormedGovernedParameterBound bound = true) :
    isWellFormedGovernedParameterValue bound.largest = true ∧
      governedParameterBoundAdmits bound bound.largest = true := by
  have hvalue : isWellFormedGovernedParameterValue bound.largest = true := by
    cases bound <;> exact h
  refine ⟨hvalue,?_⟩
  cases bound with
  | exact value =>
    have hexact : isWellFormedGovernedParameterValue value = true := h
    simp [governedParameterBoundAdmits,h,hexact,GovernedParameterBound.largest]
  | maximum limit =>
    simp only [governedParameterBoundAdmits,h,hvalue,Bool.not_true,Bool.or_self,
      Bool.false_eq_true,if_false]
    simp [GovernedParameterBound.largest]

structure GrantParameterBound where
  dimension : String
  bound : GovernedParameterBound
deriving DecidableEq

abbrev GrantParameterBounds := List GrantParameterBound

def grantParameterBoundsMax : Nat := 64

/-- Each dimension comes strictly before the next, by code unit. -/
def strictlyAscending : List String → Bool
  | first :: second :: rest => stringLt first second && strictlyAscending (second :: rest)
  | _ => true

theorem strictlyAscending_head {first : String} {rest : List String}
    (h : strictlyAscending (first :: rest) = true) :
    ∀ other ∈ rest, stringLt first other = true := by
  induction rest generalizing first with
  | nil => simp
  | cons second rest ih =>
    simp only [strictlyAscending,Bool.and_eq_true] at h
    intro other hother
    rcases List.mem_cons.1 hother with rfl | htail
    · exact h.1
    · exact stringLt_trans h.1 (ih h.2 other htail)

theorem strictlyAscending_nodup {names : List String} (h : strictlyAscending names = true) :
    names.Nodup := by
  induction names with
  | nil => exact List.nodup_nil
  | cons first rest ih =>
    refine List.nodup_cons.2 ⟨?_,ih ?_⟩
    · intro hmem
      have hlt := strictlyAscending_head h first hmem
      rw [stringLt_irrefl] at hlt
      cases hlt
    · cases rest with
      | nil => rfl
      | cons second rest =>
        simp only [strictlyAscending,Bool.and_eq_true] at h
        exact h.2

def isWellFormedGrantParameterBounds (parameters : GrantParameterBounds) : Bool :=
  !parameters.isEmpty && decide (parameters.length ≤ grantParameterBoundsMax) &&
    parameters.all (fun entry => isSemanticIdentifier entry.dimension &&
      isWellFormedGovernedParameterBound entry.bound) &&
    strictlyAscending (parameters.map (·.dimension))

def grantParameterBound (parameters : GrantParameterBounds) (dimension : String) :
    Option GrantParameterBound :=
  parameters.find? fun entry => entry.dimension == dimension

variable {parameters : GrantParameterBounds} {entry : GrantParameterBound}

theorem wellFormed_parameters (h : isWellFormedGrantParameterBounds parameters = true) :
    parameters ≠ [] ∧ (parameters.map (·.dimension)).Nodup ∧
      ∀ entry ∈ parameters, isSemanticIdentifier entry.dimension = true ∧
        isWellFormedGovernedParameterBound entry.bound = true := by
  simp only [isWellFormedGrantParameterBounds,Bool.and_eq_true,Bool.not_eq_true',
    List.isEmpty_eq_false_iff,List.all_eq_true] at h
  exact ⟨h.1.1.1,strictlyAscending_nodup h.2,h.1.2⟩

theorem grantParameterBound_dimension (h : grantParameterBound parameters dimension = some entry) :
    entry ∈ parameters ∧ entry.dimension = dimension :=
  ⟨List.mem_of_find?_eq_some h,by simpa using List.find?_some h⟩

theorem grantParameterBound_of_mem (hnodup : (parameters.map (·.dimension)).Nodup)
    (hmem : entry ∈ parameters) : grantParameterBound parameters entry.dimension = some entry := by
  have hsome : (grantParameterBound parameters entry.dimension).isSome = true := by
    rw [grantParameterBound,List.find?_isSome]
    exact ⟨entry,hmem,by simp⟩
  obtain ⟨found,hfound⟩ := Option.isSome_iff_exists.1 hsome
  obtain ⟨hfoundMem,hdimension⟩ := grantParameterBound_dimension hfound
  rw [hfound,List.inj_on_of_nodup_map hnodup hfoundMem hmem hdimension]

theorem grantParameterBound_isSome : (grantParameterBound parameters dimension).isSome = true ↔
      dimension ∈ parameters.map (·.dimension) := by
  simp [grantParameterBound,List.find?_isSome]

end Frontera.Grant
