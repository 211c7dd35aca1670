import Frontera.Lightning.Amount
import Frontera.Trade.CanonicalText

/-! Canonical decimals of bitcoin and the millisatoshis they are worth, exactly and in both
directions; and the amounts of the human-readable part without a bound on their digits. -/

namespace Frontera.Lightning

open Frontera.Data Frontera.Monetary Frontera.Trade Frontera.Xrpl List

def lightningBtcMaximumScale : Nat := 11

/-- `CANONICAL_DECIMAL`, whose integers have at most sixteen digits. -/
def matchesBtcDecimal (text : String) : Bool :=
  match splitPoint text.toList with
  | (integer, none) => isCanonicalInteger integer && decide (integer.length ≤ 16)
  | (integer, some fraction) =>
      (isCanonicalInteger integer && decide (integer.length ≤ 16)) && isCanonicalFraction fraction

def msatOfBtcDecimal (decimal : String) : Option Nat :=
  if !matchesBtcDecimal decimal then none
  else
    let parts := splitPoint decimal.toList
    let fraction := parts.2.getD []
    if fraction.length > lightningBtcMaximumScale then none
    else
      let msat := Nat.ofDigitChars 10 parts.1 0 * msatPerBtc +
        Nat.ofDigitChars 10 (padEnd fraction lightningBtcMaximumScale) 0
      if 0 < msat ∧ msat ≤ lightningMaximumMsat then some msat else none

def btcDecimalOfMsat (msat : Int) : Option String :=
  if msat ≤ 0 ∨ lightningMaximumMsat < msat then none
  else
    let whole := Nat.toDigits 10 (msat.toNat / msatPerBtc)
    let fraction := withoutTrailingZeros
      (padStart (Nat.toDigits 10 (msat.toNat % msatPerBtc)) lightningBtcMaximumScale)
    some (if fraction.length = 0 then String.ofList whole
      else String.ofList (whole ++ '.' :: fraction))

variable {integer fraction : List Char}

theorem matchesBtcDecimal_spell (h : Spelled integer fraction) :
    matchesBtcDecimal (spell integer fraction) = decide (integer.length ≤ 16) := by
  rw [matchesBtcDecimal,h.splitPoint_spell]
  split_ifs with hnil
  · simp [h.integer]
  · simp [h.integer,h.fraction_canonical hnil]

theorem matchesCanonicalDecimal_of_btc {text : String} (h : matchesBtcDecimal text = true) :
    matchesCanonicalDecimal text = true := by
  unfold matchesBtcDecimal at h
  unfold matchesCanonicalDecimal
  split at h <;> simp_all

theorem spelled_msat (h : Spelled integer fraction)
    (hscale : fraction.length ≤ lightningBtcMaximumScale) :
    ((Nat.ofDigitChars 10 integer 0 * msatPerBtc +
      Nat.ofDigitChars 10 (padEnd fraction lightningBtcMaximumScale) 0 : Nat) : ℚ) =
        decimalValue (spell integer fraction) * msatPerBtc := by
  obtain ⟨zeros,hzeros⟩ : ∃ zeros, lightningBtcMaximumScale = fraction.length + zeros :=
    ⟨lightningBtcMaximumScale - fraction.length,by omega⟩
  have hunit : msatPerBtc = 10 ^ fraction.length * 10 ^ zeros := by
    rw [← pow_add,← hzeros]
    rfl
  have hpad : lightningBtcMaximumScale - fraction.length = zeros := by omega
  rw [h.value,ofDigitChars_padEnd,hpad,hunit,ofDigitChars_append_eq]
  push_cast
  field_simp

theorem scale_le (h : Spelled integer fraction) {msat : Nat}
    (hvalue : decimalValue (spell integer fraction) * msatPerBtc = msat) :
    fraction.length ≤ lightningBtcMaximumScale := by
  by_contra hlt
  have hne : fraction ≠ [] := by
    rintro rfl
    exact hlt (Nat.zero_le _)
  obtain ⟨k,hk⟩ : ∃ k, fraction.length = lightningBtcMaximumScale + (k + 1) :=
    ⟨fraction.length - lightningBtcMaximumScale - 1,by omega⟩
  have hunit : (msatPerBtc : ℚ) = 10 ^ lightningBtcMaximumScale := by
    norm_num [msatPerBtc,lightningBtcMaximumScale]
  rw [h.value,hk,pow_add,hunit,ofDigitChars_append_eq,hk] at hvalue
  field_simp at hvalue
  have hwhole : 10 ^ (lightningBtcMaximumScale + (k + 1)) * Nat.ofDigitChars 10 integer 0 +
      Nat.ofDigitChars 10 fraction 0 = 10 ^ (k + 1) * msat := by exact_mod_cast hvalue
  apply h.fraction_mod hne
  have hleft : 10 ^ (lightningBtcMaximumScale + (k + 1)) * Nat.ofDigitChars 10 integer 0 =
      10 * (10 ^ (lightningBtcMaximumScale + k) * Nat.ofDigitChars 10 integer 0) := by
    rw [← add_assoc,pow_succ]
    ring
  have hright : 10 ^ (k + 1) * msat = 10 * (10 ^ k * msat) := by
    rw [pow_succ]
    ring
  omega

theorem integer_length_le (h : Spelled integer fraction) {msat : Nat}
    (hvalue : decimalValue (spell integer fraction) * msatPerBtc = msat)
    (hle : msat ≤ lightningMaximumMsat) : integer.length ≤ 16 := by
  rcases canonicalInteger_cases h.integer with rfl | ⟨c,rest,rfl,hdigit,hne,-⟩
  · decide
  · have hlow := le_ofDigitChars_cons hdigit hne rest
    have hscale := scale_le h hvalue
    have hworth := spelled_msat h hscale
    rw [hvalue] at hworth
    have hnat : Nat.ofDigitChars 10 (c :: rest) 0 * msatPerBtc ≤ msat := by
      have hexact : Nat.ofDigitChars 10 (c :: rest) 0 * msatPerBtc +
          Nat.ofDigitChars 10 (padEnd fraction lightningBtcMaximumScale) 0 = msat := by
        exact_mod_cast hworth
      omega
    have hbound : Nat.ofDigitChars 10 (c :: rest) 0 ≤ 21000000 := by
      rw [lightningMaximumMsat] at hle
      exact Nat.le_of_mul_le_mul_right (hnat.trans hle) (by decide)
    by_contra hlong
    rw [length_cons] at hlong
    have hpow : 10 ^ 16 ≤ 10 ^ rest.length := Nat.pow_le_pow_right (by decide) (by omega)
    omega

theorem msatOfBtcDecimal_eq_some_iff {decimal : String} {msat : Nat} :
    msatOfBtcDecimal decimal = some msat ↔ matchesCanonicalDecimal decimal = true ∧
      decimalValue decimal * msatPerBtc = msat ∧ 0 < msat ∧ msat ≤ lightningMaximumMsat := by
  have hread : ∀ integer fraction, Spelled integer fraction →
      (splitPoint (spell integer fraction).toList).1 = integer ∧
        (splitPoint (spell integer fraction).toList).2.getD [] = fraction := by
    intro integer fraction h
    rw [h.splitPoint_spell]
    refine ⟨rfl,?_⟩
    split_ifs with hnil
    · exact hnil.symm
    · rfl
  constructor
  · intro h
    rw [msatOfBtcDecimal] at h
    split_ifs at h with hmatches
    have hcanonical := matchesCanonicalDecimal_of_btc (by simpa using hmatches)
    obtain ⟨integer,fraction,hspelled,rfl⟩ := spelled_of_canonical hcanonical
    obtain ⟨hinteger,hfraction⟩ := hread integer fraction hspelled
    simp only [hinteger,hfraction] at h
    split_ifs at h with hscale hrange
    have hworth := spelled_msat hspelled (Nat.not_lt.1 hscale)
    cases h
    exact ⟨hcanonical,hworth.symm,hrange⟩
  · rintro ⟨hcanonical,hvalue,hrange⟩
    obtain ⟨integer,fraction,hspelled,rfl⟩ := spelled_of_canonical hcanonical
    obtain ⟨hinteger,hfraction⟩ := hread integer fraction hspelled
    have hscale := scale_le hspelled hvalue
    have hlength := integer_length_le hspelled hvalue hrange.2
    have hworth := spelled_msat hspelled hscale
    rw [hvalue] at hworth
    have hexact : Nat.ofDigitChars 10 integer 0 * msatPerBtc +
        Nat.ofDigitChars 10 (padEnd fraction lightningBtcMaximumScale) 0 = msat := by
      exact_mod_cast hworth
    rw [msatOfBtcDecimal,matchesBtcDecimal_spell hspelled]
    simp only [hlength,decide_true,Bool.not_true,Bool.false_eq_true,if_false,hinteger,
      hfraction,if_neg (Nat.not_lt.2 hscale),hexact]
    rw [if_pos hrange]

theorem canonicalInteger_of_toDigits (n : Nat) : isCanonicalInteger (Nat.toDigits 10 n) = true := by
  rcases Nat.eq_zero_or_pos n with rfl | hpos
  · decide
  · obtain ⟨c,rest,hdigits,hc⟩ := toDigits_head hpos
    have hrest : rest.all Char.isDigit = true := by
      rw [all_eq_true]
      exact fun d hd => toDigits_isDigit n d (by rw [hdigits]; exact mem_cons_of_mem c hd)
    simp [hdigits,isCanonicalInteger,hc,hrest]

theorem padStart_remainder {n : Nat} (h : n < msatPerBtc) :
    (padStart (Nat.toDigits 10 n) lightningBtcMaximumScale).length = lightningBtcMaximumScale ∧
      (∀ c ∈ padStart (Nat.toDigits 10 n) lightningBtcMaximumScale, c.isDigit = true) ∧
      Nat.ofDigitChars 10 (padStart (Nat.toDigits 10 n) lightningBtcMaximumScale) 0 = n := by
  have hlength : (Nat.toDigits 10 n).length ≤ lightningBtcMaximumScale :=
    (Nat.length_toDigits_le_iff (by decide) (by decide)).2 h
  refine ⟨?_,?_,?_⟩
  · rw [padStart,length_append,length_replicate]
    omega
  · intro c hc
    rcases mem_append.1 hc with hc | hc
    · rw [eq_of_mem_replicate hc]
      rfl
    · exact toDigits_isDigit n c hc
  · rw [padStart,ofDigitChars_append_eq,Nat.ofDigitChars_ten_toDigits,
      Nat.ofDigitChars_replicate_zero,Nat.mul_zero,Nat.mul_zero,Nat.zero_add]

theorem btcDecimalOfMsat_spec {msat : Nat} (hpos : 0 < msat) (hle : msat ≤ lightningMaximumMsat) :
    ∃ text, btcDecimalOfMsat msat = some text ∧ matchesCanonicalDecimal text = true ∧
      decimalValue text * msatPerBtc = msat := by
  have hunit : 0 < msatPerBtc := by decide
  obtain ⟨hlength,hdigits,hvalue⟩ := padStart_remainder (Nat.mod_lt msat hunit)
  generalize hplaces : padStart (Nat.toDigits 10 (msat % msatPerBtc)) lightningBtcMaximumScale =
    places at hlength hdigits hvalue
  have hspelled : Spelled (Nat.toDigits 10 (msat / msatPerBtc)) (withoutTrailingZeros places) :=
    ⟨canonicalInteger_of_toDigits _,fun c hc => hdigits c (mem_withoutTrailingZeros hc),
      getLast?_withoutTrailingZeros places⟩
  refine ⟨spell (Nat.toDigits 10 (msat / msatPerBtc)) (withoutTrailingZeros places),?_,
    hspelled.canonical,?_⟩
  · have hrange : ¬ ((msat : Int) ≤ 0 ∨ (lightningMaximumMsat : Int) < msat) := by omega
    rw [btcDecimalOfMsat,if_neg hrange,spell,Int.toNat_natCast,hplaces]
    simp only [length_eq_zero_iff]
  · obtain ⟨zeros,hzeros⟩ := withoutTrailingZeros_append places
    have hcount := congrArg List.length hzeros
    rw [hlength,length_append,length_replicate] at hcount
    have hpadded : padEnd (withoutTrailingZeros places) lightningBtcMaximumScale = places := by
      have hmissing : lightningBtcMaximumScale - (withoutTrailingZeros places).length = zeros := by
        omega
      rw [padEnd,hmissing,← hzeros]
    have hworth := spelled_msat hspelled (by omega)
    rw [hpadded,hvalue,Nat.ofDigitChars_ten_toDigits] at hworth
    rw [← hworth]
    exact_mod_cast Nat.div_add_mod' msat msatPerBtc

/-- A positive integer without leading zero and an optional multiplier, worth whole millisatoshis
within the supply bound. -/
def WorthMsat (text : List Char) (msat : Nat) : Prop :=
  ∃ (n : Nat) (multiplier : Option Char), 0 < n ∧ text = Nat.toDigits 10 n ++ multiplier.toList ∧
    (∀ c ∈ multiplier, c = 'm' ∨ c = 'u' ∨ c = 'n' ∨ c = 'p') ∧
    10 * msat = n * unitTenths multiplier ∧ 0 < msat ∧ msat ≤ lightningMaximumMsat

theorem isMultiplier_iff {c : Char} : isMultiplier c = true ↔ c = 'm' ∨ c = 'u' ∨ c = 'n' ∨ c = 'p' := by
  simp [isMultiplier]

theorem one_le_unitTenths {multiplier : Option Char}
    (h : ∀ c ∈ multiplier, c = 'm' ∨ c = 'u' ∨ c = 'n' ∨ c = 'p') : 1 ≤ unitTenths multiplier := by
  cases multiplier with
  | none => decide
  | some c =>
    rcases h c rfl with rfl | rfl | rfl | rfl <;> decide

theorem statesAmount_iff {text : List Char} {msat : Nat} :
    StatesAmount text msat ↔ WorthMsat text msat := by
  constructor
  · rintro ⟨digits,multiplier,rfl,hdigits,hmultiplier,hvalue,hpos,hle⟩
    obtain ⟨c,rest,rfl⟩ := exists_cons_of_ne_nil (isAmountDigits_ne_nil hdigits)
    have hall := isAmountDigits_isDigit hdigits
    have hne : c ≠ '0' := by
      rw [isAmountDigits] at hdigits
      simp only [Bool.and_eq_true,bne_iff_ne] at hdigits
      exact hdigits.1.1.2
    have hdigit := hall c mem_cons_self
    have hrest : ∀ d ∈ rest, d.isDigit = true := fun d hd => hall d (mem_cons_of_mem _ hd)
    have hlow := le_ofDigitChars_cons hdigit hne rest
    refine ⟨_,multiplier,?_,?_,fun d hd => isMultiplier_iff.1 (hmultiplier d hd),hvalue,hpos, hle⟩
    · exact lt_of_lt_of_le (Nat.pow_pos (by decide)) hlow
    · rw [toDigits_ofDigitChars hdigit hne hrest]
  · rintro ⟨n,multiplier,hn,rfl,hmultiplier,hvalue,hpos,hle⟩
    obtain ⟨c,rest,htext,hc⟩ := toDigits_head hn
    have hrest : ∀ d ∈ rest, d.isDigit = true :=
      fun d hd => toDigits_isDigit n d (by rw [htext]; exact mem_cons_of_mem c hd)
    have hnumber : Nat.ofDigitChars 10 (Nat.toDigits 10 n) 0 = n := Nat.ofDigitChars_ten_toDigits
    have hunit := one_le_unitTenths hmultiplier
    have hbound : n ≤ 10 * lightningMaximumMsat := by
      calc n = n * 1 := (Nat.mul_one n).symm
        _ ≤ n * unitTenths multiplier := Nat.mul_le_mul_left n hunit
        _ = 10 * msat := hvalue.symm
        _ ≤ 10 * lightningMaximumMsat := Nat.mul_le_mul_left 10 hle
    have hlength : (Nat.toDigits 10 n).length ≤ 20 := by
      refine (Nat.length_toDigits_le_iff (by decide) (by decide)).2 (lt_of_le_of_lt hbound ?_)
      norm_num [lightningMaximumMsat,msatPerBtc]
    refine ⟨Nat.toDigits 10 n,multiplier,rfl,?_,
      fun d hd => isMultiplier_iff.2 (hmultiplier d hd),by rw [hnumber]; exact hvalue,hpos,hle⟩
    have hdigit := isNonZeroDigit_iff.1 hc
    rw [htext,length_cons] at hlength
    have hshort : rest.length ≤ 19 := by omega
    rw [htext,isAmountDigits]
    simp [hdigit.1,hdigit.2,all_eq_true.2 hrest,hshort]

/-- Lightning money is exact: every amount in range has one canonical decimal, a decimal is read
exactly when it is canonical and worth whole millisatoshis in range, and an amount of the
human-readable part exactly when it states such a number. -/
theorem lightning_money_exact : (∀ msat : Nat, 0 < msat → msat ≤ lightningMaximumMsat → ∃ text,
      btcDecimalOfMsat msat = some text ∧ matchesCanonicalDecimal text = true ∧
        msatOfBtcDecimal text = some msat) ∧
    (∀ (decimal : String) (msat : Nat), msatOfBtcDecimal decimal = some msat ↔
      matchesCanonicalDecimal decimal = true ∧ decimalValue decimal * 10 ^ 11 = msat ∧ 0 < msat ∧
        msat ≤ 21000000 * 10 ^ 11) ∧
    (∀ (decimal : String) (msat : Nat), msatOfBtcDecimal decimal = some msat →
      btcDecimalOfMsat msat = some decimal) ∧
    ∀ (text : List Char) (msat : Nat), msatOfBolt11Amount text = some msat ↔ WorthMsat text msat := by
  have hunit : (msatPerBtc : ℚ) = 10 ^ 11 := by norm_num [msatPerBtc]
  have hmaximum : lightningMaximumMsat = 21000000 * 10 ^ 11 := by
    norm_num [lightningMaximumMsat,msatPerBtc]
  refine ⟨?_,?_,?_,?_⟩
  · intro msat hpos hle
    obtain ⟨text,htext,hcanonical,hvalue⟩ := btcDecimalOfMsat_spec hpos hle
    exact ⟨text,htext,hcanonical,msatOfBtcDecimal_eq_some_iff.2 ⟨hcanonical,hvalue,hpos,hle⟩⟩
  · intro decimal msat
    rw [msatOfBtcDecimal_eq_some_iff,hunit,hmaximum]
  · intro decimal msat h
    obtain ⟨hcanonical,hvalue,hpos,hle⟩ := msatOfBtcDecimal_eq_some_iff.1 h
    obtain ⟨text,htext,hcanonical',hvalue'⟩ := btcDecimalOfMsat_spec hpos hle
    have hne : (msatPerBtc : ℚ) ≠ 0 := by norm_num [msatPerBtc]
    have hsame : decimalValue text = decimalValue decimal :=
      mul_right_cancel₀ hne (hvalue'.trans hvalue.symm)
    rw [htext,canonicalDecimal_ext hcanonical' hcanonical hsame]
  · intro text msat
    rw [msatOfBolt11Amount_eq_some_iff,statesAmount_iff]

end Frontera.Lightning
