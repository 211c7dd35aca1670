import Frontera.Xrpl.Payment

/-! The text a ledger reports for an issued value, brought to canonical form, still denotes the
quantity the ledger holds. -/

namespace Frontera.Xrpl

open Frontera.Monetary Frontera.Payment Frontera.Text List

/-- The quantity a ledger's text denotes. -/
def LedgerValue.quantity (value : LedgerValue) : ℚ :=
  Nat.ofDigitChars 10 (value.integer ++ value.fraction) 0 *
    (10 : ℚ) ^ (value.exponent - value.fraction.length)

theorem dropWhile_zeros (digits : List Char) :
    ∃ zeros, digits = List.replicate zeros '0' ++ withoutLeadingZeros digits := by
  induction digits with
  | nil => exact ⟨0,rfl⟩
  | cons c rest ih =>
    obtain ⟨zeros,hrest⟩ := ih
    by_cases hc : c = '0'
    · refine ⟨zeros + 1,?_⟩
      subst hc
      simp only [withoutLeadingZeros,dropWhile_cons,beq_self_eq_true,if_true,
        replicate_succ,cons_append,List.cons.injEq,true_and]
      exact hrest
    · exact ⟨0,by simp [withoutLeadingZeros,hc]⟩

@[simp] theorem ofDigitChars_withoutLeadingZeros (digits : List Char) :
    Nat.ofDigitChars 10 (withoutLeadingZeros digits) 0 = Nat.ofDigitChars 10 digits 0 := by
  obtain ⟨zeros,hdigits⟩ := dropWhile_zeros digits
  conv_rhs => rw [hdigits]
  simp [Nat.ofDigitChars_append,Nat.ofDigitChars_replicate_zero]

theorem withoutTrailingZeros_append (digits : List Char) :
    ∃ zeros, digits = withoutTrailingZeros digits ++ List.replicate zeros '0' := by
  obtain ⟨zeros,hdigits⟩ := dropWhile_zeros digits.reverse
  have hreversed := congrArg List.reverse hdigits
  rw [reverse_reverse,reverse_append,reverse_replicate] at hreversed
  exact ⟨zeros,hreversed⟩

theorem ofDigitChars_append_zeros (digits : List Char) (zeros : Nat) :
    Nat.ofDigitChars 10 (digits ++ List.replicate zeros '0') 0 =
      10 ^ zeros * Nat.ofDigitChars 10 digits 0 := by
  rw [Nat.ofDigitChars_append,Nat.ofDigitChars_replicate_zero]

theorem ofDigitChars_withoutRedundantZeros (digits rest : List Char) :
    Nat.ofDigitChars 10 (withoutRedundantZeros digits ++ rest) 0 =
      Nat.ofDigitChars 10 (digits ++ rest) 0 := by
  have hsame : Nat.ofDigitChars 10 (withoutRedundantZeros digits) 0 = Nat.ofDigitChars 10 digits 0 := by
    unfold withoutRedundantZeros
    split_ifs with hzero
    · obtain ⟨zeros,hdigits⟩ := dropWhile_zeros digits
      rw [hzero,append_nil] at hdigits
      rw [hdigits,drop_replicate]
      simp [Nat.ofDigitChars_replicate_zero]
    · exact ofDigitChars_withoutLeadingZeros digits
  rw [Nat.ofDigitChars_append,Nat.ofDigitChars_append,hsame]

variable {c : Char} {digits : List Char}

theorem isAsciiDigit_ne_point (h : isAsciiDigit c = true) : c ≠ '.' := by
  rintro rfl
  revert h
  decide

theorem mem_withoutTrailingZeros (h : c ∈ withoutTrailingZeros digits) : c ∈ digits := by
  obtain ⟨zeros,hdigits⟩ := withoutTrailingZeros_append digits
  rw [hdigits]
  exact mem_append_left _ h

theorem mem_withoutRedundantZeros (h : c ∈ withoutRedundantZeros digits) : c ∈ digits := by
  unfold withoutRedundantZeros at h
  split_ifs at h
  · exact mem_of_mem_drop h
  · exact (dropWhile_sublist _).mem h

theorem readLedgerValue_digits {text : List Char} {value : LedgerValue}
    (h : readLedgerValue text = some value) :
    ∀ c ∈ value.integer ++ value.fraction, isAsciiDigit c = true := by
  have htake : ∀ l : List Char, ∀ c ∈ l.takeWhile isAsciiDigit, isAsciiDigit c = true :=
    fun l c hc => mem_takeWhile_imp hc
  intro c hc
  unfold readLedgerValue at h
  simp only at h
  split_ifs at h
  split at h
  · split_ifs at h
    obtain ⟨e,-,rfl⟩ := Option.map_eq_some_iff.1 h
    rcases mem_append.1 hc with hc | hc
    · exact htake _ c hc
    · exact htake _ c hc
  · obtain ⟨e,-,rfl⟩ := Option.map_eq_some_iff.1 h
    rw [append_nil] at hc
    exact htake _ c hc

theorem decimalValue_integer (h : ∀ c ∈ digits, c ≠ '.') :
    decimalValue (String.ofList digits) = Nat.ofDigitChars 10 digits 0 := by
  simp [decimalValue,parse,splitPoint_of_noPoint digits h,ExactDecimal.value]

theorem decimalValue_fraction {whole part : List Char} (h : ∀ c ∈ whole, c ≠ '.') :
    decimalValue (String.ofList (whole ++ '.' :: part)) =
      Nat.ofDigitChars 10 (whole ++ part) 0 / 10 ^ part.length := by
  simp [decimalValue,parse,splitPoint_point whole h part,ExactDecimal.value]

theorem decimalValue_places {padded : List Char} (hdigits : ∀ c ∈ padded, isAsciiDigit c = true)
    {places : Nat} (hplaces : places < padded.length) :
    decimalValue (String.ofList
      (if withoutTrailingZeros (padded.drop (padded.length - places)) = [] then
        withoutRedundantZeros (padded.take (padded.length - places))
      else withoutRedundantZeros (padded.take (padded.length - places)) ++
        '.' :: withoutTrailingZeros (padded.drop (padded.length - places)))) =
      Nat.ofDigitChars 10 padded 0 / 10 ^ places := by
  generalize hwhole : padded.take (padded.length - places) = whole
  generalize hpart : padded.drop (padded.length - places) = part
  have hsplit : padded = whole ++ part := by
    rw [← hwhole,← hpart,take_append_drop]
  have hlength : part.length = places := by
    rw [← hpart,length_drop]
    omega
  have hpoint : ∀ c ∈ withoutRedundantZeros whole, c ≠ '.' := by
    intro c hc
    apply isAsciiDigit_ne_point
    apply hdigits
    rw [hsplit]
    exact mem_append_left _ (mem_withoutRedundantZeros hc)
  obtain ⟨zeros,hzeros⟩ := withoutTrailingZeros_append part
  have hlengths : part.length = (withoutTrailingZeros part).length + zeros := by
    conv_lhs => rw [hzeros]
    simp
  have hvalue : Nat.ofDigitChars 10 padded 0 =
      10 ^ zeros * Nat.ofDigitChars 10 (whole ++ withoutTrailingZeros part) 0 := by
    rw [hsplit]
    conv_lhs => rw [hzeros]
    rw [← append_assoc,ofDigitChars_append_zeros]
  have hquotient : (Nat.ofDigitChars 10 padded 0 : ℚ) / 10 ^ places =
      Nat.ofDigitChars 10 (whole ++ withoutTrailingZeros part) 0 /
        10 ^ (withoutTrailingZeros part).length := by
    rw [hvalue,← hlength,hlengths,pow_add]
    push_cast
    field_simp
  rw [hquotient]
  split_ifs with hnone
  · rw [decimalValue_integer hpoint,hnone]
    have hsame := ofDigitChars_withoutRedundantZeros whole []
    simp only [append_nil] at hsame
    simp [hsame]
  · rw [decimalValue_fraction hpoint,ofDigitChars_withoutRedundantZeros]

theorem canonicalDecimalOfLedgerValue_quantity {value decimal : String}
    (h : canonicalDecimalOfLedgerValue value = some decimal) :
    ∃ parsed, readLedgerValue value.toList = some parsed ∧ decimalValue decimal = parsed.quantity := by
  unfold canonicalDecimalOfLedgerValue at h
  split_ifs at h
  obtain ⟨parsed,hparsed,rfl⟩ := Option.map_eq_some_iff.1 h
  refine ⟨parsed,hparsed,?_⟩
  have hall := readLedgerValue_digits hparsed
  have hvalue := ofDigitChars_withoutLeadingZeros (parsed.integer ++ parsed.fraction)
  generalize hdigits : withoutLeadingZeros (parsed.integer ++ parsed.fraction) = digits at hvalue
  have hasciiDigits : ∀ c ∈ digits, isAsciiDigit c = true := by
    intro c hc
    rw [← hdigits] at hc
    exact hall c ((dropWhile_sublist _).mem hc)
  simp only [LedgerValue.quantity,← hvalue]
  by_cases hzero : digits = []
  · rw [if_pos hzero]
    subst hzero
    have hnone : decimalValue "0" = 0 := by
      have htext : "0" = String.ofList ['0'] := rfl
      rw [htext,decimalValue_integer (by simp)]
      decide
    simp [hnone]
  rw [if_neg hzero]
  by_cases hshift : 0 ≤ parsed.exponent - parsed.fraction.length
  · rw [if_pos hshift]
    have hnoPoint : ∀ c ∈ digits ++ List.replicate
        (parsed.exponent - parsed.fraction.length).toNat '0', c ≠ '.' := by
      intro c hc
      rcases mem_append.1 hc with hc | hc
      · exact isAsciiDigit_ne_point (hasciiDigits c hc)
      · rw [eq_of_mem_replicate hc]
        decide
    rw [decimalValue_integer hnoPoint,ofDigitChars_append_zeros]
    obtain ⟨shift,hnat⟩ := Int.eq_ofNat_of_zero_le hshift
    rw [hnat]
    push_cast
    simp [mul_comm]
  · rw [if_neg hshift]
    obtain ⟨places,hnat⟩ := Int.eq_ofNat_of_zero_le
      (a := -(parsed.exponent - parsed.fraction.length)) (by omega)
    have hexponent : parsed.exponent - parsed.fraction.length = -(places : ℤ) := by omega
    have hplaces : (-(parsed.exponent - parsed.fraction.length)).toNat = places := by omega
    rw [hplaces,decimalValue_places ?_ ?_,hexponent]
    · rw [Nat.ofDigitChars_append,Nat.ofDigitChars_replicate_zero,mul_zero,zpow_neg,
        zpow_natCast,div_eq_mul_inv]
    · intro c hc
      rcases mem_append.1 hc with hc | hc
      · rw [eq_of_mem_replicate hc]
        decide
      · exact hasciiDigits c hc
    · rw [length_append,length_replicate]
      omega

end Frontera.Xrpl
