import Frontera.Trade.CanonicalText

/-! Sums, differences and comparisons of canonical texts are those of the quantities they spell. -/

namespace Frontera.Monetary

open Frontera.Data Frontera.Trade

variable {left right : String}

theorem decimalValue_spelled {text : String} (h : matchesCanonicalDecimal text = true) :
    ∃ integer fraction, Spelled integer fraction ∧ text = spell integer fraction ∧
      decimalValue text = Nat.ofDigitChars 10 integer 0 +
        Nat.ofDigitChars 10 fraction 0 / 10 ^ fraction.length := by
  obtain ⟨integer,fraction,hspelled,rfl⟩ := spelled_of_canonical h
  refine ⟨integer,fraction,hspelled,rfl,?_⟩
  rw [hspelled.value,ofDigitChars_append_eq]
  push_cast
  field_simp

theorem aligned_le_iff (a b : ExactDecimal) : (align a b).left ≤ (align a b).right ↔ a.value ≤ b.value := by
  have hpow : (0 : ℚ) < 10 ^ (align a b).scale := by positivity
  rw [← align_left_value a b,← align_right_value a b,div_le_div_iff_of_pos_right hpow, Nat.cast_le]

theorem aligned_lt_iff (a b : ExactDecimal) : (align a b).left < (align a b).right ↔ a.value < b.value := by
  have hpow : (0 : ℚ) < 10 ^ (align a b).scale := by positivity
  rw [← align_left_value a b,← align_right_value a b,div_lt_div_iff_of_pos_right hpow, Nat.cast_lt]

theorem subtractCanonicalDecimals_eq (hleft : matchesCanonicalDecimal left = true)
    (hright : matchesCanonicalDecimal right = true) :
    subtractCanonicalDecimals left right = if decimalValue left < decimalValue right then
        .error ⟨"The difference of two canonical decimals would be negative."⟩
      else .ok (format ⟨(align (parse left) (parse right)).left -
        (align (parse left) (parse right)).right,(align (parse left) (parse right)).scale⟩) := by
  simp only [subtractCanonicalDecimals,requireCanonical_ok hleft,requireCanonical_ok hright,
    decimalValue,← aligned_lt_iff]
  by_cases hlt : (align (parse left) (parse right)).left < (align (parse left) (parse right)).right
  · rw [if_pos hlt,if_pos hlt]
    rfl
  · rw [if_neg hlt,if_neg hlt]
    rfl

theorem subtractCanonicalDecimals_spec (hleft : matchesCanonicalDecimal left = true)
    (hright : matchesCanonicalDecimal right = true) (h : decimalValue right ≤ decimalValue left) :
    ∃ difference, subtractCanonicalDecimals left right = .ok difference ∧
      matchesCanonicalDecimal difference = true ∧
      decimalValue difference = decimalValue left - decimalValue right := by
  obtain ⟨hcanonical,hvalue⟩ := format_spec
    ⟨(align (parse left) (parse right)).left - (align (parse left) (parse right)).right,
      (align (parse left) (parse right)).scale⟩
  refine ⟨_,?_,hcanonical,?_⟩
  · rw [subtractCanonicalDecimals_eq hleft hright,if_neg (not_lt.2 h)]
  · have hle : (align (parse left) (parse right)).right ≤ (align (parse left) (parse right)).left :=
      not_lt.1 fun hlt => not_lt.2 h ((aligned_lt_iff _ _).1 hlt)
    rw [hvalue,ExactDecimal.value,Nat.cast_sub hle,sub_div,align_left_value,align_right_value]
    rfl

theorem compareCanonicalDecimals_eq (hleft : matchesCanonicalDecimal left = true)
    (hright : matchesCanonicalDecimal right = true) :
    compareCanonicalDecimals left right = .ok (compare (decimalValue left) (decimalValue right)) := by
  have hsame : compare (align (parse left) (parse right)).left
      (align (parse left) (parse right)).right =
      compare (decimalValue left) (decimalValue right) := by
    rcases lt_trichotomy (decimalValue left) (decimalValue right) with h | h | h
    · rw [compare_lt_iff_lt.2 h,compare_lt_iff_lt.2 ((aligned_lt_iff _ _).2 h)]
    · rw [compare_eq_iff_eq.2 h]
      have hle := (aligned_le_iff (parse left) (parse right)).2 h.le
      have hnot := mt (aligned_lt_iff (parse left) (parse right)).1 (not_lt.2 h.ge)
      exact compare_eq_iff_eq.2 (by omega)
    · rw [compare_gt_iff_gt.2 h]
      have hnot := mt (aligned_le_iff (parse left) (parse right)).1 (not_le.2 h)
      exact compare_gt_iff_gt.2 (by omega)
  simp only [compareCanonicalDecimals,requireCanonical_ok hleft,requireCanonical_ok hright,hsame]
  rfl

/-- A canonical text spells its value digit by digit; sums and differences are canonical and exact,
a difference is refused exactly when it would be negative, a comparison is that of the values, and
equal values have one text. -/
theorem canonical_decimals_exact :
    (∀ text, matchesCanonicalDecimal text = true → ∃ integer fraction, Spelled integer fraction ∧
      text = spell integer fraction ∧ decimalValue text = Nat.ofDigitChars 10 integer 0 +
        Nat.ofDigitChars 10 fraction 0 / 10 ^ fraction.length) ∧
    ∀ left right, matchesCanonicalDecimal left = true → matchesCanonicalDecimal right = true →
      (∃ sum, addCanonicalDecimals left right = .ok sum ∧ matchesCanonicalDecimal sum = true ∧
        decimalValue sum = decimalValue left + decimalValue right) ∧
      (decimalValue right ≤ decimalValue left → ∃ difference,
        subtractCanonicalDecimals left right = .ok difference ∧ matchesCanonicalDecimal difference = true ∧
          decimalValue difference = decimalValue left - decimalValue right) ∧
      ((∃ error, subtractCanonicalDecimals left right = .error error) ↔
        decimalValue left < decimalValue right) ∧
      compareCanonicalDecimals left right = .ok (compare (decimalValue left) (decimalValue right)) ∧
      (decimalValue left = decimalValue right → left = right) := by
  refine ⟨fun text => decimalValue_spelled,fun left right hleft hright => ⟨?_,?_,?_,?_,?_⟩⟩
  · exact addCanonicalDecimals_spec hleft hright
  · exact subtractCanonicalDecimals_spec hleft hright
  · rw [subtractCanonicalDecimals_eq hleft hright]
    split_ifs with h
    · exact iff_of_true ⟨_,rfl⟩ h
    · exact iff_of_false (fun ⟨_,herror⟩ => by cases herror) h
  · exact compareCanonicalDecimals_eq hleft hright
  · exact canonicalDecimal_ext hleft hright

end Frontera.Monetary
