import Mathlib.Data.Nat.Cast.Field
import Mathlib.Data.Nat.Prime.Basic
import Frontera.Monetary.CanonicalDecimal

/-! The arithmetic of `trade-risk-exact.ts`: non-negative rationals in lowest terms, and the decimal
text of one whose denominator is made of twos and fives (`decimalOf` of `trade-exposure.ts`). -/

namespace Frontera.Trade

open Frontera.Monetary Nat

/-- A non-negative rational. -/
structure TradeRational where
  (numerator denominator : Nat)
  denominator_pos : 0 < denominator

namespace TradeRational

def value (r : TradeRational) : ℚ := r.numerator / r.denominator

/-- In lowest terms. -/
def Lowest (r : TradeRational) : Prop := Nat.Coprime r.numerator r.denominator

/-- Its value is that of a decimal. -/
def Decimal (r : TradeRational) : Prop := ∃ scale, r.denominator ∣ 10 ^ scale

theorem denominator_ne_zero (r : TradeRational) : (r.denominator : ℚ) ≠ 0 :=
  cast_ne_zero.2 r.denominator_pos.ne'

theorem Lowest.eq_of_value {r s : TradeRational} (hr : r.Lowest) (hs : s.Lowest)
    (h : r.value = s.value) : r = s := by
  obtain ⟨n,d,hd⟩ := r
  obtain ⟨m,e,he⟩ := s
  have hd' : (d : ℚ) ≠ 0 := cast_ne_zero.2 hd.ne'
  have he' : (e : ℚ) ≠ 0 := cast_ne_zero.2 he.ne'
  have hcross : n * e = m * d := by
    rw [value,value,div_eq_div_iff hd' he'] at h
    exact_mod_cast h
  have hde : d ∣ e := (Nat.Coprime.symm hr).dvd_of_dvd_mul_left ⟨m,by rw [hcross,mul_comm]⟩
  have hed : e ∣ d := (Nat.Coprime.symm hs).dvd_of_dvd_mul_left ⟨n,by rw [← hcross,mul_comm]⟩
  obtain rfl : d = e := dvd_antisymm hde hed
  obtain rfl : n = m := eq_of_mul_eq_mul_right hd hcross
  rfl

end TradeRational

/-- The throw of a denominator that is not positive is excluded by its type. -/
def reduced (numerator denominator : Nat) (h : 0 < denominator) : TradeRational :=
  if numerator = 0 then ⟨0,1,Nat.one_pos⟩
  else ⟨numerator / Nat.gcd numerator denominator,denominator / Nat.gcd numerator denominator,
    Nat.div_pos (Nat.gcd_le_right _ h) (Nat.gcd_pos_of_pos_right _ h)⟩

def zeroRational : TradeRational := ⟨0,1,Nat.one_pos⟩

def rationalOfQuantity (quantity : ExactDecimal) : TradeRational :=
  reduced quantity.coefficient (10 ^ quantity.scale) (Nat.pow_pos (by decide))

/-- A canonical decimal of the default length. -/
abbrev RiskDecimal := { text : String // isCanonicalDecimal text monetaryDecimalMaximumDigits = true }

def rationalOfDecimal (canonical : RiskDecimal) : TradeRational :=
  rationalOfQuantity (parse canonical.val)

def addRationals (left right : TradeRational) : TradeRational :=
  reduced (left.numerator * right.denominator + right.numerator * left.denominator)
    (left.denominator * right.denominator)
    (Nat.mul_pos left.denominator_pos right.denominator_pos)

variable {numerator denominator : Nat} {h : 0 < denominator}

theorem reduced_lowest : (reduced numerator denominator h).Lowest := by
  unfold reduced
  split_ifs with hzero
  · exact coprime_one_right 0
  · exact coprime_div_gcd_div_gcd (gcd_pos_of_pos_right _ h)

theorem reduced_value : (reduced numerator denominator h).value = numerator / denominator := by
  unfold reduced
  split_ifs with hzero
  · simp [TradeRational.value,hzero]
  · have hgcd : ((Nat.gcd numerator denominator : Nat) : ℚ) ≠ 0 :=
      cast_ne_zero.2 (gcd_pos_of_pos_right _ h).ne'
    rw [TradeRational.value,cast_div (Nat.gcd_dvd_left _ _) hgcd,
      cast_div (Nat.gcd_dvd_right _ _) hgcd,div_div_div_cancel_right₀ hgcd]

theorem reduced_decimal (hdecimal : ∃ scale, denominator ∣ 10 ^ scale) :
    (reduced numerator denominator h).Decimal := by
  obtain ⟨scale,hscale⟩ := hdecimal
  unfold reduced
  split_ifs with hzero
  · exact ⟨0,one_dvd _⟩
  · exact ⟨scale,(div_dvd_of_dvd (Nat.gcd_dvd_right _ _)).trans hscale⟩

theorem zeroRational_value : zeroRational.value = 0 := by simp [zeroRational,TradeRational.value]

theorem zeroRational_lowest : zeroRational.Lowest := coprime_one_right 0

theorem zeroRational_decimal : zeroRational.Decimal := ⟨0,one_dvd _⟩

theorem rationalOfDecimal_value (canonical : RiskDecimal) :
    (rationalOfDecimal canonical).value = decimalValue canonical.val := by
  rw [rationalOfDecimal,rationalOfQuantity,reduced_value,decimalValue,ExactDecimal.value]
  push_cast
  rfl

theorem rationalOfDecimal_decimal (canonical : RiskDecimal) : (rationalOfDecimal canonical).Decimal :=
  reduced_decimal (h := Nat.pow_pos (by decide)) ⟨_,dvd_refl _⟩

theorem mul_decimal {d e : Nat} (hd : ∃ scale, d ∣ 10 ^ scale) (he : ∃ scale, e ∣ 10 ^ scale) :
    ∃ scale, d * e ∣ 10 ^ scale := by
  obtain ⟨i,hi⟩ := hd
  obtain ⟨j,hj⟩ := he
  exact ⟨i + j,by rw [pow_add]; exact mul_dvd_mul hi hj⟩

theorem addRationals_value (left right : TradeRational) :
    (addRationals left right).value = left.value + right.value := by
  have hl := left.denominator_ne_zero
  have hr := right.denominator_ne_zero
  rw [addRationals,reduced_value,TradeRational.value,TradeRational.value]
  push_cast
  field_simp

theorem addRationals_lowest (left right : TradeRational) : (addRationals left right).Lowest :=
  reduced_lowest

theorem addRationals_decimal {left right : TradeRational} (hl : left.Decimal) (hr : right.Decimal) :
    (addRationals left right).Decimal :=
  reduced_decimal (mul_decimal hl hr)

/-- The loop that divides by `p` while it can: what is left, and how often it divided. A division
at least halves, so the number itself is fuel enough. -/
def divideOut (p : Nat) : Nat → Nat → Nat × Nat
  | 0, rest => (rest, 0)
  | fuel + 1, rest =>
      if rest % p = 0 then
        let divided := divideOut p fuel (rest / p)
        (divided.1, divided.2 + 1)
      else (rest, 0)

def formatTradeRational (value : TradeRational) : String :=
  toString value.numerator ++ "/" ++ toString value.denominator

/-- Statement by statement the formatter of canonical decimals. -/
def formatTradeExactQuantity (quantity : ExactDecimal) : String := format quantity

def decimalOf (value : TradeRational) : String :=
  let twos := divideOut 2 value.denominator value.denominator
  let fives := divideOut 5 value.denominator twos.1
  if fives.1 ≠ 1 then formatTradeRational value
  else
    let scale := max twos.2 fives.2
    formatTradeExactQuantity ⟨value.numerator * (10 ^ scale / value.denominator),scale⟩

theorem divideOut_spec {p fuel rest : Nat} (hp : 2 ≤ p) (hrest : 0 < rest) (hfuel : rest ≤ fuel) :
    rest = p ^ (divideOut p fuel rest).2 * (divideOut p fuel rest).1 ∧
      ¬p ∣ (divideOut p fuel rest).1 ∧ 0 < (divideOut p fuel rest).1 := by
  induction fuel generalizing rest with
  | zero => omega
  | succ fuel ih =>
    rw [divideOut]
    split_ifs with hdivides
    · have hdvd : p ∣ rest := dvd_of_mod_eq_zero hdivides
      have hsplit : p * (rest / p) = rest := Nat.mul_div_cancel' hdvd
      have hpos : 0 < rest / p := div_pos (le_of_dvd hrest hdvd) (by omega)
      have hless : rest / p < rest := div_lt_self hrest (by omega)
      obtain ⟨hvalue,hleft,hleftpos⟩ := ih hpos (by omega)
      refine ⟨?_,hleft,hleftpos⟩
      calc rest = p * (rest / p) := hsplit.symm
        _ = p * (p ^ (divideOut p fuel (rest / p)).2 * (divideOut p fuel (rest / p)).1) := by
            rw [← hvalue]
        _ = p ^ ((divideOut p fuel (rest / p)).2 + 1) * (divideOut p fuel (rest / p)).1 := by
            rw [pow_succ]
            ring
    · exact ⟨by simp,fun hdvd => hdivides (mod_eq_zero_of_dvd hdvd),hrest⟩

theorem eq_one_of_dvd_pow_ten {n scale : Nat} (h : n ∣ 10 ^ scale) (htwo : ¬2 ∣ n) (hfive : ¬5 ∣ n) :
    n = 1 := by
  have hten : (10 : Nat) ^ scale = 2 ^ scale * 5 ^ scale := by rw [← Nat.mul_pow]
  have hcoprime : Nat.Coprime n (2 ^ scale) :=
    Nat.Coprime.pow_right _ ((Nat.Prime.coprime_iff_not_dvd prime_two).2 htwo).symm
  have hcoprime' : Nat.Coprime n (5 ^ scale) :=
    Nat.Coprime.pow_right _ ((Nat.Prime.coprime_iff_not_dvd prime_five).2 hfive).symm
  rw [hten] at h
  exact Nat.Coprime.eq_one_of_dvd (hcoprime.mul_right hcoprime') h

theorem decimalOf_spec {r : TradeRational} (h : r.Decimal) :
    matchesCanonicalDecimal (decimalOf r) = true ∧ decimalValue (decimalOf r) = r.value := by
  obtain ⟨scale,hscale⟩ := h
  obtain ⟨htwos,htwo,hleft⟩ := divideOut_spec (p := 2) (by omega) r.denominator_pos (le_refl _)
  have hless : (divideOut 2 r.denominator r.denominator).1 ≤ r.denominator :=
    le_of_dvd r.denominator_pos ⟨_,by rw [mul_comm]; exact htwos⟩
  obtain ⟨hfives,hfive,-⟩ := divideOut_spec (p := 5) (by omega) hleft hless
  generalize htwosname : divideOut 2 r.denominator r.denominator = twos at *
  generalize hfivesname : divideOut 5 r.denominator twos.1 = fives at *
  have hrest : fives.1 ∣ twos.1 := ⟨_,by rw [mul_comm]; exact hfives⟩
  have hdenominator : twos.1 ∣ r.denominator := ⟨_,by rw [mul_comm]; exact htwos⟩
  have hone : fives.1 = 1 := eq_one_of_dvd_pow_ten ((hrest.trans hdenominator).trans hscale)
    (fun hdvd => htwo (hdvd.trans hrest)) hfive
  have hfactors : r.denominator = 2 ^ twos.2 * 5 ^ fives.2 := by
    rw [htwos,hfives,hone,mul_one]
  have hdvd : r.denominator ∣ 10 ^ max twos.2 fives.2 := by
    have hten : (10 : Nat) ^ max twos.2 fives.2 = 2 ^ max twos.2 fives.2 * 5 ^ max twos.2 fives.2 := by
      rw [← Nat.mul_pow]
    rw [hfactors,hten]
    exact mul_dvd_mul (pow_dvd_pow _ (le_max_left _ _))
      (pow_dvd_pow _ (le_max_right _ _))
  have htext : decimalOf r = format ⟨r.numerator * (10 ^ max twos.2 fives.2 / r.denominator),
      max twos.2 fives.2⟩ := by
    simp only [decimalOf,htwosname,hfivesname,hone,ne_eq,not_true_eq_false,if_false,
      formatTradeExactQuantity]
  obtain ⟨hmatches,hvalue⟩ := format_spec
    ⟨r.numerator * (10 ^ max twos.2 fives.2 / r.denominator),max twos.2 fives.2⟩
  rw [htext]
  refine ⟨hmatches,hvalue.trans ?_⟩
  have hpower : (10 : ℚ) ^ max twos.2 fives.2 ≠ 0 := pow_ne_zero _ (by decide)
  rw [ExactDecimal.value,TradeRational.value]
  push_cast [cast_div hdvd r.denominator_ne_zero]
  have hne := r.denominator_ne_zero
  field_simp

end Frontera.Trade
