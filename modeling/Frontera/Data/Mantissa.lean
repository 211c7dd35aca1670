import Mathlib.Algebra.Order.Field.Basic
import Mathlib.Algebra.Order.Field.Rat
import Mathlib.Data.List.Induction
import Mathlib.Tactic.FieldSimp
import Mathlib.Tactic.Ring

/-! The digits of a numeral bound its value, and a value `S * 10 ^ p`, where `S` has no factor ten,
is a mantissa of a given length times a power of ten in at most one way. -/

namespace Frontera.Data

open List Nat

variable {c : Char} {digits : List Char}

theorem digit_lt_ten (h : c.isDigit = true) : c.toNat - '0'.toNat < 10 := by
  rw [Char.isDigit,Bool.and_eq_true,decide_eq_true_eq,decide_eq_true_eq] at h
  have hle : c.toNat ≤ 57 := h.2
  have hzero : '0'.toNat = 48 := rfl
  omega

theorem digit_pos (h : c.isDigit = true) (hne : c ≠ '0') : 0 < c.toNat - '0'.toNat := by
  rw [Char.isDigit,Bool.and_eq_true,decide_eq_true_eq,decide_eq_true_eq] at h
  have hge : 48 ≤ c.toNat := h.1
  have hzero : '0'.toNat = 48 := rfl
  have hdiffers : c.toNat ≠ 48 := fun heq => hne (Char.toNat_inj.1 (heq.trans hzero.symm))
  omega

theorem ofDigitChars_cons_eq (c : Char) (digits : List Char) : Nat.ofDigitChars 10 (c :: digits) 0 =
      10 ^ digits.length * (c.toNat - '0'.toNat) + Nat.ofDigitChars 10 digits 0 := by
  rw [ofDigitChars_cons,ofDigitChars_eq_ofDigitChars_zero,mul_zero,zero_add]

theorem ofDigitChars_append_eq (front digits : List Char) : Nat.ofDigitChars 10 (front ++ digits) 0 =
      10 ^ digits.length * Nat.ofDigitChars 10 front 0 + Nat.ofDigitChars 10 digits 0 := by
  rw [ofDigitChars_append,ofDigitChars_eq_ofDigitChars_zero]

theorem digitChar_digit (h : c.isDigit = true) : Nat.digitChar (c.toNat - '0'.toNat) = c := by
  have hlt := digit_lt_ten h
  rw [Char.isDigit,Bool.and_eq_true,decide_eq_true_eq,decide_eq_true_eq] at h
  have hge : 48 ≤ c.toNat := h.1
  have hzero : '0'.toNat = 48 := rfl
  have hvalues : ∀ n : Fin 10, (Nat.digitChar n.val).toNat = 48 + n.val := by decide
  have hvalue := hvalues ⟨c.toNat - '0'.toNat,hlt⟩
  simp only at hvalue
  apply Char.toNat_inj.1
  rw [hvalue]
  omega

theorem toDigits_ofDigitChars (hc : c.isDigit = true) (hne : c ≠ '0')
    (hdigits : ∀ d ∈ digits, d.isDigit = true) :
    Nat.toDigits 10 (Nat.ofDigitChars 10 (c :: digits) 0) = c :: digits := by
  induction digits using List.reverseRecOn with
  | nil =>
    rw [ofDigitChars_cons,ofDigitChars_nil,mul_zero,zero_add,
      toDigits_of_lt_base (digit_lt_ten hc),digitChar_digit hc]
  | append_singleton digits d ih =>
    have hd := hdigits d (by simp)
    have hlt := digit_lt_ten hd
    have hfront := ih fun e he => hdigits e (mem_append_left _ he)
    have hpos : 0 < Nat.ofDigitChars 10 (c :: digits) 0 := by
      rw [ofDigitChars_cons_eq]
      exact Nat.add_pos_left (Nat.mul_pos (Nat.pow_pos (by decide)) (digit_pos hc hne)) _
    have hvalue : Nat.ofDigitChars 10 (c :: (digits ++ [d])) 0 =
        10 * Nat.ofDigitChars 10 (c :: digits) 0 + (d.toNat - '0'.toNat) := by
      rw [← cons_append,ofDigitChars_append,ofDigitChars_cons,ofDigitChars_nil]
    have hdiv : (10 * Nat.ofDigitChars 10 (c :: digits) 0 + (d.toNat - '0'.toNat)) / 10 =
        Nat.ofDigitChars 10 (c :: digits) 0 := by omega
    have hmod : (10 * Nat.ofDigitChars 10 (c :: digits) 0 + (d.toNat - '0'.toNat)) % 10 =
        d.toNat - '0'.toNat := by omega
    rw [hvalue,toDigits_of_base_le (by decide) (by omega),hdiv,hmod,hfront,
      digitChar_digit hd,cons_append]

theorem ofDigitChars_lt (h : ∀ c ∈ digits, c.isDigit = true) :
    Nat.ofDigitChars 10 digits 0 < 10 ^ digits.length := by
  induction digits with
  | nil => decide
  | cons c digits ih =>
    have hrest := ih fun d hd => h d (mem_cons_of_mem _ hd)
    have hdigit := digit_lt_ten (h c mem_cons_self)
    rw [ofDigitChars_cons_eq,length_cons,pow_succ]
    calc 10 ^ digits.length * (c.toNat - '0'.toNat) + Nat.ofDigitChars 10 digits 0
        < 10 ^ digits.length * (c.toNat - '0'.toNat) + 10 ^ digits.length := by omega
      _ = 10 ^ digits.length * (c.toNat - '0'.toNat + 1) := by ring
      _ ≤ 10 ^ digits.length * 10 := mul_le_mul_left _ hdigit

theorem le_ofDigitChars_cons (hc : c.isDigit = true) (hne : c ≠ '0') (digits : List Char) :
    10 ^ digits.length ≤ Nat.ofDigitChars 10 (c :: digits) 0 := by
  rw [ofDigitChars_cons_eq]
  calc 10 ^ digits.length = 10 ^ digits.length * 1 := (mul_one _).symm
    _ ≤ 10 ^ digits.length * (c.toNat - '0'.toNat) := mul_le_mul_left _ (digit_pos hc hne)
    _ ≤ _ := le_add_right _ _

theorem ofDigitChars_concat_mod (hc : c.isDigit = true) (hne : c ≠ '0') (digits : List Char) :
    Nat.ofDigitChars 10 (digits ++ [c]) 0 % 10 ≠ 0 := by
  have hpos := digit_pos hc hne
  have hlt := digit_lt_ten hc
  rw [ofDigitChars_append,ofDigitChars_cons,ofDigitChars_nil]
  omega

/-- Zeros behind a numeral, up to a length. -/
def padEnd (digits : List Char) (length : Nat) : List Char :=
  digits ++ List.replicate (length - digits.length) '0'

theorem length_padEnd {length : Nat} (h : digits.length ≤ length) :
    (padEnd digits length).length = length := by
  rw [padEnd,length_append,length_replicate]
  omega

theorem isDigit_padEnd (h : ∀ c ∈ digits, c.isDigit = true) (length : Nat) :
    ∀ c ∈ padEnd digits length, c.isDigit = true := by
  intro c hc
  rcases mem_append.1 hc with hc | hc
  · exact h c hc
  · rw [eq_of_mem_replicate hc]
    rfl

theorem ofDigitChars_padEnd (digits : List Char) (length : Nat) :
    Nat.ofDigitChars 10 (padEnd digits length) 0 =
      10 ^ (length - digits.length) * Nat.ofDigitChars 10 digits 0 := by
  rw [padEnd,ofDigitChars_append,ofDigitChars_replicate_zero]

/-- A value whose digits without outer zeros number `d + 1` is a mantissa of `k + 1` digits times a
power of ten between two bounds exactly when it has not more digits and the power falls there. -/
theorem exists_mantissa_iff {S d k : Nat} {p lo hi : ℤ} (hle : 10 ^ d ≤ S) (hlt : S < 10 ^ (d + 1))
    (hmod : S % 10 ≠ 0) :
    (d ≤ k ∧ lo ≤ p - (k - d) ∧ p - (k - d) ≤ hi) ↔
      ∃ (m : Nat) (e : ℤ), 10 ^ k ≤ m ∧ m < 10 ^ (k + 1) ∧ lo ≤ e ∧ e ≤ hi ∧
        (S : ℚ) * 10 ^ p = m * 10 ^ e := by
  have hten : (10 : ℚ) ≠ 0 := by decide
  constructor
  · rintro ⟨hdk,hlo,hhi⟩
    have hsplit : (k : ℤ) - d = ((k - d : Nat) : ℤ) := by omega
    refine ⟨S * 10 ^ (k - d),p - (k - d),?_,?_,hlo,hhi,?_⟩
    · calc 10 ^ k = 10 ^ d * 10 ^ (k - d) := by rw [← pow_add,Nat.add_sub_cancel' hdk]
        _ ≤ S * 10 ^ (k - d) := Nat.mul_le_mul_right _ hle
    · calc S * 10 ^ (k - d) < 10 ^ (d + 1) * 10 ^ (k - d) :=
            Nat.mul_lt_mul_of_pos_right hlt (Nat.pow_pos (by decide))
        _ = 10 ^ (k + 1) := by
            rw [← pow_add]
            congr 1
            omega
    · push_cast
      rw [hsplit,zpow_sub₀ hten,zpow_natCast]
      field_simp
  · rintro ⟨m,e,hk,hk',hlo,hhi,hvalue⟩
    by_cases hep : e ≤ p
    · obtain ⟨j,hj⟩ := Int.eq_ofNat_of_zero_le (Int.sub_nonneg.2 hep)
      have hp : p = e + j := by omega
      have hm : S * 10 ^ j = m := by
        rw [hp,zpow_add₀ hten,zpow_natCast,mul_comm ((10 : ℚ) ^ e),← mul_assoc] at hvalue
        have hcancel := mul_right_cancel₀ (zpow_ne_zero e hten) hvalue
        exact_mod_cast hcancel
      have hlower : 10 ^ (d + j) ≤ m := by
        rw [pow_add,← hm]
        exact mul_le_mul_right _ hle
      have hupper : m < 10 ^ (d + 1 + j) := by
        rw [pow_add,← hm]
        exact Nat.mul_lt_mul_of_pos_right hlt (Nat.pow_pos (by decide))
      have hle' : d + j < k + 1 := (Nat.pow_lt_pow_iff_right (by decide)).1 (hlower.trans_lt hk')
      have hge' : k < d + 1 + j := (Nat.pow_lt_pow_iff_right (by decide)).1 (hk.trans_lt hupper)
      omega
    · obtain ⟨j,hj⟩ := Int.eq_ofNat_of_zero_le (a := e - p - 1) (by omega)
      have he : e = p + (j + 1 : Nat) := by omega
      have hs : S = m * 10 ^ (j + 1) := by
        rw [he,zpow_add₀ hten,zpow_natCast,mul_comm ((10 : ℚ) ^ p),← mul_assoc] at hvalue
        have hcancel := mul_right_cancel₀ (zpow_ne_zero p hten) hvalue
        exact_mod_cast hcancel
      rw [hs,pow_succ,← mul_assoc] at hmod
      exact absurd (mul_mod_left _ 10) hmod

end Frontera.Data
