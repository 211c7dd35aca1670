import Mathlib.Algebra.Order.Field.Rat
import Mathlib.Data.List.TakeWhile
import Mathlib.Tactic.FieldSimp
import Mathlib.Tactic.Positivity
import Mathlib.Tactic.Ring

/-! The grammar, parser, formatter and arithmetic of `monetary-runtime/domain/canonical-decimal.ts`.
A text is read as a coefficient and a scale; its value is the rational `coefficient / 10 ^ scale`,
and addition and comparison of texts are addition and comparison of these values. -/

namespace Frontera.Monetary

open List

/-- The `RangeError` of an operand outside the grammar. -/
structure RangeError where
  message : String
deriving DecidableEq

def monetaryDecimalMaximumDigits : Nat := 128

def isNonZeroDigit (c : Char) : Bool := c.isDigit && c != '0'

/-- `0|[1-9][0-9]*` -/
def isCanonicalInteger : List Char → Bool
  | [] => false
  | c :: rest => (c == '0' && rest.isEmpty) || (isNonZeroDigit c && rest.all Char.isDigit)

/-- `[0-9]*[1-9]` -/
def isCanonicalFraction (fraction : List Char) : Bool :=
  fraction.all Char.isDigit && (fraction.getLast?.any isNonZeroDigit)

/-- What stands before the first `.` and, when there is one, what stands after it. -/
def splitPoint (text : List Char) : List Char × Option (List Char) :=
  match text.dropWhile (· != '.') with
  | [] => (text, none)
  | _ :: fraction => (text.takeWhile (· != '.'), some fraction)

/-- `CANONICAL_DECIMAL.test` -/
def matchesCanonicalDecimal (text : String) : Bool :=
  match splitPoint text.toList with
  | (integer, none) => isCanonicalInteger integer
  | (integer, some fraction) => isCanonicalInteger integer && isCanonicalFraction fraction

/-- Only the first point is dropped: `text.replace('.', '').length`. -/
def digitCount (text : String) : Nat :=
  match splitPoint text.toList with
  | (integer, none) => integer.length
  | (integer, some fraction) => integer.length + fraction.length

def isCanonicalDecimal (value : String) (maximumDigits : Nat) : Bool :=
  matchesCanonicalDecimal value && decide (digitCount value ≤ maximumDigits)

structure ExactDecimal where
  (coefficient scale : Nat)
deriving DecidableEq

def ExactDecimal.value (d : ExactDecimal) : ℚ := d.coefficient / 10 ^ d.scale

def parse (text : String) : ExactDecimal :=
  match splitPoint text.toList with
  | (integer, none) => ⟨Nat.ofDigitChars 10 integer 0,0⟩
  | (integer, some fraction) => ⟨Nat.ofDigitChars 10 (integer ++ fraction) 0,fraction.length⟩

/-- The loop of `format` that drops trailing fractional zeros. -/
def dropTrailingZeros (coefficient : Nat) : Nat → ExactDecimal
  | 0 => ⟨coefficient,0⟩
  | scale + 1 =>
      if coefficient % 10 = 0 then dropTrailingZeros (coefficient / 10) scale
      else ⟨coefficient,scale + 1⟩

def padStart (digits : List Char) (length : Nat) : List Char :=
  List.replicate (length - digits.length) '0' ++ digits

def format (value : ExactDecimal) : String :=
  let d := dropTrailingZeros value.coefficient value.scale
  let digits := Nat.toDigits 10 d.coefficient
  if d.coefficient = 0 then "0"
  else if d.scale = 0 then String.ofList digits
  else
    let padded := padStart digits (d.scale + 1)
    String.ofList (padded.take (padded.length - d.scale) ++ '.' :: padded.drop (padded.length - d.scale))

structure Aligned where
  (left right scale : Nat)

def align (left right : ExactDecimal) : Aligned :=
  let scale := max left.scale right.scale
  { left := left.coefficient * 10 ^ (scale - left.scale)
    right := right.coefficient * 10 ^ (scale - right.scale)
    scale := scale }

/-- The digit bound passed here is `Number.MAX_SAFE_INTEGER`, which the length of
no string exceeds, so only the grammar decides. -/
def requireCanonical (value label : String) : Except RangeError Unit :=
  if matchesCanonicalDecimal value then .ok ()
  else .error ⟨label ++ " is not a canonical decimal."⟩

def addCanonicalDecimals (left right : String) : Except RangeError String := do
  requireCanonical left "left operand"
  requireCanonical right "right operand"
  let aligned := align (parse left) (parse right)
  return format ⟨aligned.left + aligned.right,aligned.scale⟩

def subtractCanonicalDecimals (left right : String) : Except RangeError String := do
  requireCanonical left "left operand"
  requireCanonical right "right operand"
  let aligned := align (parse left) (parse right)
  if aligned.left < aligned.right then
    throw ⟨"The difference of two canonical decimals would be negative."⟩
  return format ⟨aligned.left - aligned.right,aligned.scale⟩

/-- `-1`, `0` and `1` are the three orderings. -/
def compareCanonicalDecimals (left right : String) : Except RangeError Ordering := do
  requireCanonical left "left operand"
  requireCanonical right "right operand"
  let aligned := align (parse left) (parse right)
  return compare aligned.left aligned.right

/-- The quantity a decimal text denotes. -/
def decimalValue (text : String) : ℚ := (parse text).value

theorem decimalValue_zero : decimalValue "0" = 0 := by
  have hparse : parse "0" = ⟨0,0⟩ := by decide
  simp [decimalValue,hparse,ExactDecimal.value]

theorem decimalValue_nonneg (text : String) : 0 ≤ decimalValue text := by
  unfold decimalValue ExactDecimal.value
  positivity

theorem splitPoint_of_noPoint (text : List Char) (h : ∀ c ∈ text, c ≠ '.') :
    splitPoint text = (text, none) := by
  have hdrop : text.dropWhile (· != '.') = [] := by
    rw [dropWhile_eq_nil_iff]
    intro c hc
    simpa using h c hc
  simp [splitPoint,hdrop]

theorem splitPoint_point (integer : List Char) (h : ∀ c ∈ integer, c ≠ '.')
    (fraction : List Char) :
    splitPoint (integer ++ '.' :: fraction) = (integer, some fraction) := by
  have hall : ∀ c ∈ integer, (c != '.') = true := fun c hc => by simpa using h c hc
  have htake : (integer ++ '.' :: fraction).takeWhile (· != '.') = integer := by
    rw [takeWhile_append_of_pos hall]
    simp
  have hdrop : (integer ++ '.' :: fraction).dropWhile (· != '.') = '.' :: fraction := by
    rw [dropWhile_append_of_pos hall]
    simp
  simp [splitPoint,htake,hdrop]

private theorem digit_ne_point {c : Char} (h : c.isDigit = true) : c ≠ '.' := by
  rintro rfl
  revert h
  decide

theorem toDigits_isDigit (n : Nat) : ∀ c ∈ Nat.toDigits 10 n, c.isDigit = true :=
  fun _ hc => Nat.isDigit_of_mem_toDigits (by decide) (by decide) hc

private theorem digitChar_nonZero : ∀ n : Fin 10, n.val ≠ 0 →
    isNonZeroDigit (Nat.digitChar n.val) = true := by
  decide

variable {n scale : Nat} {left right : String}

theorem toDigits_head (hn : 0 < n) : ∃ c rest, Nat.toDigits 10 n = c :: rest ∧ isNonZeroDigit c = true := by
  induction n using Nat.strong_induction_on with
  | _ n ih =>
    by_cases hlt : n < 10
    · refine ⟨_,[],Nat.toDigits_of_lt_base hlt,?_⟩
      exact digitChar_nonZero ⟨n,hlt⟩ (Nat.pos_iff_ne_zero.1 hn)
    · obtain ⟨c,rest,hdigits,hc⟩ := ih (n / 10) (by omega) (by omega)
      refine ⟨c,rest ++ [Nat.digitChar (n % 10)],?_,hc⟩
      rw [Nat.toDigits_of_base_le (by decide) (by omega),hdigits,cons_append]

private theorem toDigits_last (hn : n % 10 ≠ 0) :
    ∃ rest c, Nat.toDigits 10 n = rest ++ [c] ∧ isNonZeroDigit c = true := by
  have hlast : isNonZeroDigit (Nat.digitChar (n % 10)) = true :=
    digitChar_nonZero ⟨n % 10,Nat.mod_lt _ (by decide)⟩ hn
  by_cases hlt : n < 10
  · refine ⟨[],Nat.digitChar (n % 10),?_,hlast⟩
    rw [Nat.toDigits_of_lt_base hlt,Nat.mod_eq_of_lt hlt,nil_append]
  · exact ⟨_,_,Nat.toDigits_of_base_le (by decide) (by omega),hlast⟩

theorem dropTrailingZeros_value (coefficient scale : Nat) :
    (dropTrailingZeros coefficient scale).value = (ExactDecimal.mk coefficient scale).value := by
  induction scale generalizing coefficient with
  | zero => rfl
  | succ scale ih =>
    unfold dropTrailingZeros
    split_ifs with hzero
    · rw [ih]
      have hten : (coefficient : ℚ) = 10 * ((coefficient / 10 : Nat) : ℚ) := by
        exact_mod_cast (by omega : coefficient = 10 * (coefficient / 10))
      simp only [ExactDecimal.value]
      rw [hten,pow_succ]
      field_simp
    · rfl

private theorem dropTrailingZeros_reduced (coefficient scale : Nat) :
    (dropTrailingZeros coefficient scale).scale = 0 ∨
      (dropTrailingZeros coefficient scale).coefficient % 10 ≠ 0 := by
  induction scale generalizing coefficient with
  | zero => exact .inl rfl
  | succ scale ih =>
    unfold dropTrailingZeros
    split_ifs with hzero
    · exact ih _
    · exact .inr hzero

private theorem ofDigitChars_padStart (n length : Nat) :
    Nat.ofDigitChars 10 (padStart (Nat.toDigits 10 n) length) 0 = n := by
  simp [padStart,Nat.ofDigitChars_append,Nat.ofDigitChars_replicate_zero, Nat.ofDigitChars_ten_toDigits]

private theorem padStart_isDigit (n length : Nat) :
    ∀ c ∈ padStart (Nat.toDigits 10 n) length, c.isDigit = true := by
  intro c hc
  simp only [padStart,mem_append,mem_replicate] at hc
  rcases hc with ⟨-,rfl⟩ | hc
  · decide
  · exact toDigits_isDigit n c hc

private theorem padStart_length (digits : List Char) (length : Nat) :
    (padStart digits length).length = max length digits.length := by
  simp only [padStart,length_append,length_replicate]
  omega

/-- The part of a padded coefficient before the point is an integer without a
leading zero: either the padding is the single zero before the point, or there
is no padding at all. -/
private theorem padStart_take_integer (hn : 0 < n) :
    isCanonicalInteger ((padStart (Nat.toDigits 10 n) (scale + 1)).take
      ((padStart (Nat.toDigits 10 n) (scale + 1)).length - scale)) = true := by
  obtain ⟨c,rest,hdigits,hc⟩ := toDigits_head hn
  have hrest : ∀ d ∈ rest, d.isDigit = true := by
    intro d hd
    exact toDigits_isDigit n d (by rw [hdigits]; simp [hd])
  rw [padStart_length]
  by_cases hlong : (Nat.toDigits 10 n).length ≤ scale
  · obtain ⟨k,hk⟩ : ∃ k, scale + 1 - (Nat.toDigits 10 n).length = k + 1 :=
      ⟨scale - (Nat.toDigits 10 n).length,by omega⟩
    have hone : max (scale + 1) (Nat.toDigits 10 n).length - scale = 1 := by omega
    rw [hone,padStart,hk,replicate_succ]
    rfl
  · have hnone : scale + 1 - (Nat.toDigits 10 n).length = 0 := by omega
    obtain ⟨k,hk⟩ : ∃ k, max (scale + 1) (Nat.toDigits 10 n).length - scale = k + 1 :=
      ⟨(Nat.toDigits 10 n).length - scale - 1,by omega⟩
    rw [hk,padStart,hnone,hdigits]
    have hall : (rest.take k).all Char.isDigit = true := by
      rw [all_eq_true]
      exact fun d hd => hrest d (mem_of_mem_take hd)
    simp [isCanonicalInteger,hc,hall]

private theorem padStart_drop_fraction (hscale : 0 < scale) (hn : n % 10 ≠ 0) :
    isCanonicalFraction ((padStart (Nat.toDigits 10 n) (scale + 1)).drop
      ((padStart (Nat.toDigits 10 n) (scale + 1)).length - scale)) = true := by
  obtain ⟨rest,c,hdigits,hc⟩ := toDigits_last hn
  have hsplit : padStart (Nat.toDigits 10 n) (scale + 1) =
      (List.replicate (scale + 1 - (Nat.toDigits 10 n).length) '0' ++ rest) ++ [c] := by
    simp only [padStart]
    rw [hdigits,append_assoc]
  have hall := padStart_isDigit n (scale + 1)
  have hlength : (padStart (Nat.toDigits 10 n) (scale + 1)).length - scale ≤
      (List.replicate (scale + 1 - (Nat.toDigits 10 n).length) '0' ++ rest).length := by
    have htotal := congrArg List.length hsplit
    simp only [length_append,length_singleton] at htotal
    simp only [length_append]
    omega
  have hlast : ((padStart (Nat.toDigits 10 n) (scale + 1)).drop
      ((padStart (Nat.toDigits 10 n) (scale + 1)).length - scale)).getLast? = some c := by
    generalize hk : (padStart (Nat.toDigits 10 n) (scale + 1)).length - scale = k at hlength ⊢
    rw [hsplit,drop_append_of_le_length hlength,List.getLast?_concat]
  simp only [isCanonicalFraction,hlast,Option.any_some,hc,Bool.and_true,all_eq_true]
  exact fun d hd => hall d (mem_of_mem_drop hd)

private theorem canonicalInteger_toDigits (hn : 0 < n) : isCanonicalInteger (Nat.toDigits 10 n) = true := by
  obtain ⟨c,rest,hdigits,hc⟩ := toDigits_head hn
  have hrest : rest.all Char.isDigit = true := by
    rw [all_eq_true]
    exact fun d hd => toDigits_isDigit n d (by rw [hdigits]; simp [hd])
  simp [hdigits,isCanonicalInteger,hc,hrest]

theorem format_spec (d : ExactDecimal) :
    matchesCanonicalDecimal (format d) = true ∧ decimalValue (format d) = d.value := by
  have hvalue := dropTrailingZeros_value d.coefficient d.scale
  have hreduced := dropTrailingZeros_reduced d.coefficient d.scale
  unfold format
  generalize dropTrailingZeros d.coefficient d.scale = e at hvalue hreduced ⊢
  obtain ⟨n,scale⟩ := e
  change ExactDecimal.value ⟨n,scale⟩ = d.value at hvalue
  simp only at hreduced ⊢
  rw [← hvalue]
  split_ifs with hzero hinteger
  · subst hzero
    refine ⟨by decide,?_⟩
    have hparse : parse "0" = ⟨0,0⟩ := by decide
    simp [decimalValue,hparse,ExactDecimal.value]
  · subst hinteger
    have hsplit := splitPoint_of_noPoint (Nat.toDigits 10 n)
      fun c hc => digit_ne_point (toDigits_isDigit n c hc)
    constructor
    · simp [matchesCanonicalDecimal,String.toList_ofList,hsplit,
        canonicalInteger_toDigits (Nat.pos_of_ne_zero hzero)]
    · simp [decimalValue,parse,String.toList_ofList,hsplit,Nat.ofDigitChars_ten_toDigits]
  · have hmod : n % 10 ≠ 0 := hreduced.resolve_left hinteger
    have hdigits := padStart_isDigit n (scale + 1)
    have hsplit := splitPoint_point ((padStart (Nat.toDigits 10 n) (scale + 1)).take
        ((padStart (Nat.toDigits 10 n) (scale + 1)).length - scale))
      (fun c hc => digit_ne_point (hdigits c (mem_of_mem_take hc)))
      ((padStart (Nat.toDigits 10 n) (scale + 1)).drop
        ((padStart (Nat.toDigits 10 n) (scale + 1)).length - scale))
    constructor
    · simp only [matchesCanonicalDecimal,String.toList_ofList,hsplit,
        padStart_take_integer (Nat.pos_of_ne_zero hzero),
        padStart_drop_fraction (Nat.pos_of_ne_zero hinteger) hmod,Bool.and_self]
    · simp only [decimalValue,parse,String.toList_ofList,hsplit,take_append_drop,
        ofDigitChars_padStart,length_drop]
      have hlength : (padStart (Nat.toDigits 10 n) (scale + 1)).length -
          ((padStart (Nat.toDigits 10 n) (scale + 1)).length - scale) = scale := by
        rw [padStart_length]
        omega
      rw [hlength]

private theorem scaled_value (d : ExactDecimal) (h : d.scale ≤ scale) :
    ((d.coefficient * 10 ^ (scale - d.scale) : Nat) : ℚ) / 10 ^ scale = d.value := by
  have hpow : (10 : ℚ) ^ scale = 10 ^ (scale - d.scale) * 10 ^ d.scale := by
    rw [← pow_add,Nat.sub_add_cancel h]
  rw [ExactDecimal.value,hpow]
  push_cast
  field_simp

theorem align_left_value (a b : ExactDecimal) : ((align a b).left : ℚ) / 10 ^ (align a b).scale = a.value :=
  scaled_value a (le_max_left _ _)

theorem align_right_value (a b : ExactDecimal) :
    ((align a b).right : ℚ) / 10 ^ (align a b).scale = b.value :=
  scaled_value b (le_max_right _ _)

@[simp] theorem requireCanonical_ok {value label : String}
    (h : matchesCanonicalDecimal value = true) : requireCanonical value label = .ok () := by
  simp [requireCanonical,h]

section

variable (hleft : matchesCanonicalDecimal left = true)
  (hright : matchesCanonicalDecimal right = true)
include hleft hright

theorem addCanonicalDecimals_spec :
    ∃ sum, addCanonicalDecimals left right = .ok sum ∧ matchesCanonicalDecimal sum = true ∧
      decimalValue sum = decimalValue left + decimalValue right := by
  obtain ⟨hcanonical,hvalue⟩ := format_spec
    ⟨(align (parse left) (parse right)).left + (align (parse left) (parse right)).right,
      (align (parse left) (parse right)).scale⟩
  refine ⟨_,?_,hcanonical,?_⟩
  · simp [addCanonicalDecimals,hleft,hright,bind,Except.bind,pure,Except.pure]
  · rw [hvalue,ExactDecimal.value]
    push_cast
    rw [add_div,align_left_value,align_right_value,decimalValue,decimalValue]

theorem compareCanonicalDecimals_spec : ∃ order, compareCanonicalDecimals left right = .ok order ∧
      (order.isLE = true ↔ decimalValue left ≤ decimalValue right) := by
  refine ⟨compare (align (parse left) (parse right)).left
    (align (parse left) (parse right)).right,?_,?_⟩
  · simp [compareCanonicalDecimals,hleft,hright,bind,Except.bind,pure,Except.pure]
  · rw [Nat.isLE_compare]
    have hpow : (0 : ℚ) < 10 ^ (align (parse left) (parse right)).scale := by positivity
    rw [decimalValue,decimalValue,← align_left_value (parse left) (parse right),
      ← align_right_value (parse left) (parse right),div_le_div_iff_of_pos_right hpow,Nat.cast_le]

end

end Frontera.Monetary
