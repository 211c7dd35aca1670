import Frontera.Monetary.CanonicalDecimal
import Frontera.Platform

/-! Canonical decimal text beside an asset identifier. Amounts in different assets, and malformed
amounts, are never compared. -/

namespace Frontera.Monetary

def isAsciiLetter (c : Char) : Bool := ('a' ≤ c && c ≤ 'z') || ('A' ≤ c && c ≤ 'Z')

def isAsciiAlphanumeric (c : Char) : Bool := isAsciiLetter c || ('0' ≤ c && c ≤ '9')

/-- `MONETARY_ASSET_ID_PATTERN`: a letter or digit, then at most 127 letters, digits, dots,
underscores, colons, slashes and dashes. -/
def isCanonicalMonetaryAssetId (value : String) : Bool :=
  match value.toList with
  | [] => false
  | first :: rest =>
      isAsciiAlphanumeric first && decide (rest.length ≤ 127) &&
        rest.all fun c => isAsciiAlphanumeric c || ['.', '_', ':', '/', '-'].contains c

structure MonetaryAmount where
  (value unit : String)
deriving DecidableEq

def isWellFormedMonetaryAmount (amount : MonetaryAmount) : Bool :=
  isCanonicalDecimal amount.value monetaryDecimalMaximumDigits &&
    isCanonicalMonetaryAssetId amount.unit

inductive MonetaryComparison where
  | ordered (order : Ordering)
  | incomparable

def compareMonetaryAmounts (left right : MonetaryAmount) : MonetaryComparison :=
  if !isWellFormedMonetaryAmount left || !isWellFormedMonetaryAmount right then .incomparable
  else if left.unit ≠ right.unit then .incomparable
  else
    match compareCanonicalDecimals left.value right.value with
    | .ok order => .ordered order
    -- both operands are canonical here, so nothing is raised
    | .error _ => .incomparable

theorem matches_of_wellFormed {amount : MonetaryAmount}
    (h : isWellFormedMonetaryAmount amount = true) :
    matchesCanonicalDecimal amount.value = true := by
  simp only [isWellFormedMonetaryAmount,isCanonicalDecimal,Bool.and_eq_true] at h
  exact h.1.1

theorem compareMonetaryAmounts_isLE {left right : MonetaryAmount}
    (hleft : isWellFormedMonetaryAmount left = true)
    (hright : isWellFormedMonetaryAmount right = true) :
    (∃ order, compareMonetaryAmounts left right = .ordered order ∧ order.isLE = true) ↔
      left.unit = right.unit ∧ decimalValue left.value ≤ decimalValue right.value := by
  obtain ⟨order,horder,hle⟩ := compareCanonicalDecimals_spec (matches_of_wellFormed hleft)
    (matches_of_wellFormed hright)
  unfold compareMonetaryAmounts
  rw [if_neg (by simp [hleft,hright])]
  by_cases hunit : left.unit = right.unit
  · simp [hunit,horder,hle]
  · simp [hunit]

end Frontera.Monetary
