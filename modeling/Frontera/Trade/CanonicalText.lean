import Frontera.Trade.AmountExactness

/-! Every canonical decimal is a spelled integer and fraction, and canonical decimals that denote
one quantity are one text. -/

namespace Frontera.Trade

open Frontera.Data Frontera.Monetary Frontera.Xrpl List Nat

theorem ofDigitChars_inj {digits other : List Char} (h : ∀ c ∈ digits, c.isDigit = true)
    (h' : ∀ c ∈ other, c.isDigit = true) (hlength : digits.length = other.length)
    (hvalue : Nat.ofDigitChars 10 digits 0 = Nat.ofDigitChars 10 other 0) : digits = other := by
  induction digits generalizing other with
  | nil => exact (eq_nil_of_length_eq_zero hlength.symm).symm
  | cons c digits ih =>
    obtain ⟨d,other,rfl⟩ := exists_cons_of_length_pos
      (by rw [← hlength,length_cons]; exact succ_pos _ : 0 < other.length)
    rw [length_cons,length_cons,add_right_cancel_iff] at hlength
    have hrest : ∀ e ∈ digits, e.isDigit = true := fun e he => h e (mem_cons_of_mem _ he)
    have hrest' : ∀ e ∈ other, e.isDigit = true := fun e he => h' e (mem_cons_of_mem _ he)
    have hlt := ofDigitChars_lt hrest
    have hlt' := ofDigitChars_lt hrest'
    rw [ofDigitChars_cons_eq,ofDigitChars_cons_eq,hlength] at hvalue
    rw [hlength] at hlt
    -- the head is the quotient by the power of the rest, and the rest the remainder
    have hquotient := congrArg (· / 10 ^ other.length) hvalue
    have hremainder := congrArg (· % 10 ^ other.length) hvalue
    simp only [Nat.mul_add_div (Nat.pow_pos (by decide : 0 < 10)),Nat.div_eq_of_lt hlt,
      Nat.div_eq_of_lt hlt',Nat.add_zero] at hquotient
    simp only [mul_add_mod,mod_eq_of_lt hlt,mod_eq_of_lt hlt'] at hremainder
    have hhead : c = d := by
      rw [← digitChar_digit (h c mem_cons_self),hquotient,digitChar_digit (h' d mem_cons_self)]
    rw [hhead,ih hrest hrest' hlength hremainder]

theorem toDigits_canonicalInteger {integer : List Char}
    (h : isCanonicalInteger integer = true) :
    Nat.toDigits 10 (Nat.ofDigitChars 10 integer 0) = integer := by
  rcases canonicalInteger_cases h with rfl | ⟨c,rest,rfl,hdigit,hne,hrest⟩
  · decide
  · exact toDigits_ofDigitChars hdigit hne hrest

theorem spelled_of_canonical {text : String} (h : matchesCanonicalDecimal text = true) :
    ∃ integer fraction, Spelled integer fraction ∧ text = spell integer fraction := by
  rw [matchesCanonicalDecimal] at h
  rcases hsplit : splitPoint text.toList with ⟨integer,_ | fraction⟩
  · rw [hsplit] at h
    refine ⟨integer,[],⟨h,by simp,by simp⟩,?_⟩
    rw [spell,if_pos rfl,splitPoint_none hsplit,String.ofList_toList]
  · rw [hsplit] at h
    simp only [Bool.and_eq_true,isCanonicalFraction] at h
    obtain ⟨hinteger,hdigits,hlast⟩ := h
    have hends : fraction.getLast? ≠ some '0' := by
      intro hzero
      rw [hzero] at hlast
      exact absurd hlast (by decide)
    have hne : fraction ≠ [] := by
      rintro rfl
      cases hlast
    refine ⟨integer,fraction,⟨hinteger,all_eq_true.1 hdigits,hends⟩,?_⟩
    rw [spell,if_neg hne,← (splitPoint_some hsplit).1,String.ofList_toList]

namespace Spelled

variable {integer fraction integer' fraction' : List Char}

theorem fraction_mod (h : Spelled integer fraction) (hne : fraction ≠ []) :
    Nat.ofDigitChars 10 fraction 0 % 10 ≠ 0 := by
  obtain ⟨front,last,rfl⟩ : ∃ front last, fraction = front ++ [last] :=
    ⟨_,_,(dropLast_append_getLast hne).symm⟩
  have hlast : last ≠ '0' := by
    rintro rfl
    exact h.last (by simp)
  exact ofDigitChars_concat_mod (h.digits last (by simp)) hlast front

theorem cross (h : Spelled integer fraction) (h' : Spelled integer' fraction')
    (hvalue : decimalValue (spell integer fraction) = decimalValue (spell integer' fraction')) :
    (10 ^ fraction.length * Nat.ofDigitChars 10 integer 0 + Nat.ofDigitChars 10 fraction 0) *
        10 ^ fraction'.length =
      (10 ^ fraction'.length * Nat.ofDigitChars 10 integer' 0 + Nat.ofDigitChars 10 fraction' 0) *
        10 ^ fraction.length := by
  rw [h.value,h'.value,div_eq_div_iff (by positivity) (by positivity),
    ofDigitChars_append_eq,ofDigitChars_append_eq] at hvalue
  exact_mod_cast hvalue

theorem fraction_length_le (h' : Spelled integer' fraction')
    (hcross : Nat.ofDigitChars 10 fraction 0 * 10 ^ fraction'.length =
      Nat.ofDigitChars 10 fraction' 0 * 10 ^ fraction.length) :
    fraction'.length ≤ fraction.length := by
  by_contra hlt
  have hne : fraction' ≠ [] := by
    rintro rfl
    exact hlt (zero_le _)
  obtain ⟨k,hk⟩ : ∃ k, fraction'.length = fraction.length + (k + 1) :=
    ⟨fraction'.length - fraction.length - 1,by omega⟩
  rw [hk,pow_add,← mul_assoc,mul_right_comm] at hcross
  have hmultiple := Nat.eq_of_mul_eq_mul_right (Nat.pow_pos (by decide)) hcross
  apply h'.fraction_mod hne
  rw [← hmultiple,pow_succ,← mul_assoc,Nat.mul_mod_left]

theorem unique (h : Spelled integer fraction) (h' : Spelled integer' fraction')
    (hvalue : decimalValue (spell integer fraction) = decimalValue (spell integer' fraction')) :
    integer = integer' ∧ fraction = fraction' := by
  have hcross := h.cross h' hvalue
  have hlt := ofDigitChars_lt h.digits
  have hlt' := ofDigitChars_lt h'.digits
  have hinteger : Nat.ofDigitChars 10 integer 0 = Nat.ofDigitChars 10 integer' 0 := by
    have hpos : ∀ k, 0 < 10 ^ k := fun k => Nat.pow_pos (by decide)
    have hleft : (10 ^ fraction.length * Nat.ofDigitChars 10 integer 0 +
        Nat.ofDigitChars 10 fraction 0) * 10 ^ fraction'.length /
          (10 ^ fraction.length * 10 ^ fraction'.length) = Nat.ofDigitChars 10 integer 0 := by
      rw [Nat.mul_div_mul_right _ _ (hpos _),Nat.mul_add_div (hpos _),Nat.div_eq_of_lt hlt, Nat.add_zero]
    have hright : (10 ^ fraction'.length * Nat.ofDigitChars 10 integer' 0 +
        Nat.ofDigitChars 10 fraction' 0) * 10 ^ fraction.length /
          (10 ^ fraction'.length * 10 ^ fraction.length) = Nat.ofDigitChars 10 integer' 0 := by
      rw [Nat.mul_div_mul_right _ _ (hpos _),Nat.mul_add_div (hpos _),Nat.div_eq_of_lt hlt', Nat.add_zero]
    rw [← hleft,hcross,Nat.mul_comm (10 ^ fraction.length) (10 ^ fraction'.length),hright]
  have hfractions : Nat.ofDigitChars 10 fraction 0 * 10 ^ fraction'.length =
      Nat.ofDigitChars 10 fraction' 0 * 10 ^ fraction.length := by
    rw [hinteger] at hcross
    linarith
  have hlength : fraction.length = fraction'.length :=
    le_antisymm (h.fraction_length_le hfractions.symm) (h'.fraction_length_le hfractions)
  refine ⟨?_,ofDigitChars_inj h.digits h'.digits hlength ?_⟩
  · rw [← toDigits_canonicalInteger h.integer,hinteger,toDigits_canonicalInteger h'.integer]
  · rw [hlength] at hfractions
    exact Nat.eq_of_mul_eq_mul_right (Nat.pow_pos (by decide)) hfractions

end Spelled

theorem canonicalDecimal_ext {text other : String} (h : matchesCanonicalDecimal text = true)
    (h' : matchesCanonicalDecimal other = true) (hvalue : decimalValue text = decimalValue other) :
    text = other := by
  obtain ⟨integer,fraction,hspelled,rfl⟩ := spelled_of_canonical h
  obtain ⟨integer',fraction',hspelled',rfl⟩ := spelled_of_canonical h'
  obtain ⟨rfl,rfl⟩ := hspelled.unique hspelled' hvalue
  rfl

end Frontera.Trade
