import Frontera.Grant.Parameters
import Mathlib.Data.List.Sort

/-! Four shapes of bound and their comparison. A comparison permits exactly when both bounds are
well formed and the requested one says no more than its source, so permitted comparisons compose and
a bound may be replaced by its canonical form. -/

namespace Frontera.Grant

open Frontera.Monetary List BoundComparison

inductive GrantBound where
  | identity (value : String)
  | set (values : List String)
  | ceiling (limit unit : String)
  | window (notAfter : String)
deriving DecidableEq

inductive GrantBoundKind where
  | identity | set | ceiling | window
deriving DecidableEq

def GrantBound.kind : GrantBound → GrantBoundKind
  | .identity _ => .identity
  | .set _ => .set
  | .ceiling _ _ => .ceiling
  | .window _ => .window

/-- `[...new Set(values)].sort()` -/
def canonicalGrantSetValues (values : List String) : List String :=
  values.dedup.insertionSort fun a b => stringLt b a = false

def canonicalGrantBound : GrantBound → GrantBound
  | .set values => .set (canonicalGrantSetValues values)
  | bound => bound

section Compare

variable (P : Platform)

def isWellFormedGrantBound : GrantBound → Bool
  | .identity value => value != ""
  | .set values => !values.isEmpty && values.all (· != "")
  | .ceiling limit unit => isWellFormedMonetaryAmount ⟨limit,unit⟩
  | .window notAfter => (P.dateParse notAfter).isSome

def compareGrantBound (source requested : GrantBound) : BoundComparison :=
  if !isWellFormedGrantBound P source || !isWellFormedGrantBound P requested then .incomparable
  else
    match source, requested with
    | .identity value, .identity child => if value = child then .equal else .incomparable
    | .set values, .set child =>
        let parentValues := canonicalGrantSetValues values
        let childValues := canonicalGrantSetValues child
        if !(childValues.all fun value => parentValues.contains value) then .broader
        else if parentValues = childValues then .equal else .narrower
    | .ceiling limit unit, .ceiling childLimit childUnit =>
        match compareMonetaryAmounts ⟨childLimit,childUnit⟩ ⟨limit,unit⟩ with
        | .incomparable => .incomparable
        | .ordered .gt => .broader
        | .ordered .eq => .equal
        | .ordered .lt => .narrower
    | .window notAfter, .window child =>
        match P.dateParse notAfter, P.dateParse child with
        | some parentInstant, some childInstant =>
            if childInstant > parentInstant then .broader
            else if childInstant = parentInstant then .equal else .narrower
        | _, _ => .incomparable
    | _, _ => .incomparable

/-- The requested bound says no more than its source. -/
def GrantBound.Covers : GrantBound → GrantBound → Prop
  | .identity value, .identity child => value = child
  | .set values, .set child => ∀ value ∈ child, value ∈ values
  | .ceiling limit unit, .ceiling childLimit childUnit =>
      childUnit = unit ∧ decimalValue childLimit ≤ decimalValue limit
  | .window notAfter, .window child => ∃ parentInstant childInstant,
      P.dateParse notAfter = some parentInstant ∧ P.dateParse child = some childInstant ∧
        childInstant ≤ parentInstant
  | _, _ => False

variable {P}

theorem mem_canonicalGrantSetValues {values : List String} {value : String} :
    value ∈ canonicalGrantSetValues values ↔ value ∈ values := by
  rw [canonicalGrantSetValues,mem_insertionSort,mem_dedup]

variable {source middle child bound : GrantBound}

theorem compareGrantBound_permits_iff {requested : GrantBound} :
    (compareGrantBound P source requested).permits = true ↔
      isWellFormedGrantBound P source = true ∧ isWellFormedGrantBound P requested = true ∧
        source.Covers P requested := by
  by_cases hsource : isWellFormedGrantBound P source = true
  · by_cases hrequested : isWellFormedGrantBound P requested = true
    · simp only [compareGrantBound,hsource,hrequested,Bool.not_true,Bool.or_self,
        Bool.false_eq_true,if_false,true_and]
      cases source with
      | identity value =>
        cases requested with
        | identity child => by_cases h : value = child <;>
            simp [h,permits,GrantBound.Covers]
        | _ => simp [permits,GrantBound.Covers]
      | set values =>
        cases requested with
        | set child =>
          simp only [GrantBound.Covers]
          have hall : ((canonicalGrantSetValues child).all fun value =>
              (canonicalGrantSetValues values).contains value) = true ↔
                ∀ value ∈ child, value ∈ values := by
            simp [all_eq_true,mem_canonicalGrantSetValues]
          rw [← hall]
          cases (canonicalGrantSetValues child).all fun value =>
              (canonicalGrantSetValues values).contains value with
          | false => simp [permits]
          | true =>
            simp only [Bool.not_true,Bool.false_eq_true,if_false,iff_true]
            split_ifs <;> rfl
        | _ => simp [permits,GrantBound.Covers]
      | ceiling limit unit =>
        cases requested with
        | ceiling childLimit childUnit =>
          have horder := @compareMonetaryAmounts_isLE ⟨childLimit,childUnit⟩
            ⟨limit,unit⟩ hrequested hsource
          simp only [GrantBound.Covers]
          rw [← horder]
          cases compareMonetaryAmounts ⟨childLimit,childUnit⟩ ⟨limit,unit⟩ with
          | incomparable => simp [permits]
          | ordered order => cases order <;> simp [permits]
        | _ => simp [permits,GrantBound.Covers]
      | window notAfter =>
        cases requested with
        | window child =>
          simp only [GrantBound.Covers]
          cases P.dateParse notAfter with
          | none => simp [permits]
          | some parentInstant =>
            cases P.dateParse child with
            | none => simp [permits]
            | some childInstant =>
              simp only [Option.some.injEq,exists_and_left,exists_eq_left']
              split_ifs with hbroader hsame
              · simp [permits,hbroader]
              · simp [permits,hsame]
              · simp only [permits,true_iff]
                omega
        | _ => simp [permits,GrantBound.Covers]
    · simp [compareGrantBound,hrequested,permits]
  · simp [compareGrantBound,hsource,permits]

theorem GrantBound.Covers.trans (h : source.Covers P middle) (h' : middle.Covers P child) :
    source.Covers P child := by
  cases source <;> cases middle <;> try exact h.elim
  all_goals cases child <;> try exact h'.elim
  · exact Eq.trans h h'
  · exact fun value hvalue => h value (h' value hvalue)
  · exact ⟨h'.1.trans h.1,h'.2.trans h.2⟩
  · obtain ⟨a,b,ha,hb,hba⟩ := h
    obtain ⟨b',c,hb',hc,hcb⟩ := h'
    obtain rfl : b = b' := by simpa [hb] using hb'
    exact ⟨a,c,ha,hc,hcb.trans hba⟩

theorem permits_trans (h : (compareGrantBound P source middle).permits = true)
    (h' : (compareGrantBound P middle child).permits = true) :
    (compareGrantBound P source child).permits = true := by
  rw [compareGrantBound_permits_iff] at h h' ⊢
  exact ⟨h.1,h'.2.1,h.2.2.trans h'.2.2⟩

theorem permits_self (h : isWellFormedGrantBound P bound = true) :
    (compareGrantBound P bound bound).permits = true := by
  refine compareGrantBound_permits_iff.2 ⟨h,h,?_⟩
  cases bound with
  | identity value => exact rfl
  | set values => exact fun _ hvalue => hvalue
  | ceiling limit unit => exact ⟨rfl,le_refl _⟩
  | window notAfter =>
    obtain ⟨instant,hinstant⟩ := Option.isSome_iff_exists.1 h
    exact ⟨instant,instant,hinstant,hinstant,le_refl _⟩

theorem isWellFormedGrantBound_canonical (bound : GrantBound) :
    isWellFormedGrantBound P (canonicalGrantBound bound) = isWellFormedGrantBound P bound := by
  cases bound with
  | set values =>
    rw [Bool.eq_iff_iff]
    simp only [canonicalGrantBound,isWellFormedGrantBound,Bool.and_eq_true,Bool.not_eq_true',
      isEmpty_eq_false_iff_exists_mem,all_eq_true,mem_canonicalGrantSetValues]
  | _ => rfl

@[simp] theorem canonicalGrantBound_kind (bound : GrantBound) :
    (canonicalGrantBound bound).kind = bound.kind := by
  cases bound <;> rfl

theorem covers_canonical_left : (canonicalGrantBound bound).Covers P child ↔ bound.Covers P child := by
  cases bound with
  | set values =>
    cases child <;> simp [canonicalGrantBound,GrantBound.Covers,mem_canonicalGrantSetValues]
  | _ => rfl

theorem permits_canonical : (compareGrantBound P (canonicalGrantBound bound) child).permits =
      (compareGrantBound P bound child).permits := by
  rw [Bool.eq_iff_iff,compareGrantBound_permits_iff,compareGrantBound_permits_iff,
    isWellFormedGrantBound_canonical,covers_canonical_left]

end Compare

end Frontera.Grant
