import Frontera.Trade.CanonicalText

/-! What a ledger may report for an issued value is read as the canonical decimal of the quantity it
spells, and a canonical decimal is sent as it stands exactly when the ledger holds its quantity. So
a report compares equal to an amount exactly when it spells that amount. -/

namespace Frontera.Xrpl

open Frontera.Data Frontera.Monetary Frontera.Payment Frontera.Trade List Option Bool

/-- No exponent, or a mark, a sign that may be left out and one to three digits. -/
inductive ExponentSpelling : List Char → ℤ → Prop
  | none : ExponentSpelling [] 0
  | unsigned {mark : Char} {digits : List Char} (hmark : mark = 'e' ∨ mark = 'E')
      (hne : digits ≠ []) (hlength : digits.length ≤ 3) (hdigits : ∀ c ∈ digits, c.isDigit = true) :
      ExponentSpelling (mark :: digits) (Nat.ofDigitChars 10 digits 0)
  | plus {mark : Char} {digits : List Char} (hmark : mark = 'e' ∨ mark = 'E')
      (hne : digits ≠ []) (hlength : digits.length ≤ 3) (hdigits : ∀ c ∈ digits, c.isDigit = true) :
      ExponentSpelling (mark :: '+' :: digits) (Nat.ofDigitChars 10 digits 0)
  | minus {mark : Char} {digits : List Char} (hmark : mark = 'e' ∨ mark = 'E')
      (hne : digits ≠ []) (hlength : digits.length ≤ 3) (hdigits : ∀ c ∈ digits, c.isDigit = true) :
      ExponentSpelling (mark :: '-' :: digits) (-Nat.ofDigitChars 10 digits 0)

/-- An unsigned text and the quantity it spells: digits, a fraction that may be left out, and an
exponent. -/
inductive LedgerSpelling : List Char → ℚ → Prop
  | integer {digits exponent : List Char} {power : ℤ} (hne : digits ≠ [])
      (hdigits : ∀ c ∈ digits, c.isDigit = true) (hexponent : ExponentSpelling exponent power) :
      LedgerSpelling (digits ++ exponent) (Nat.ofDigitChars 10 digits 0 * 10 ^ power)
  | fraction {digits fraction exponent : List Char} {power : ℤ} (hne : digits ≠ [])
      (hdigits : ∀ c ∈ digits, c.isDigit = true) (hne' : fraction ≠ [])
      (hdigits' : ∀ c ∈ fraction, c.isDigit = true) (hexponent : ExponentSpelling exponent power) :
      LedgerSpelling (digits ++ '.' :: (fraction ++ exponent))
        ((Nat.ofDigitChars 10 digits 0 + Nat.ofDigitChars 10 fraction 0 / 10 ^ fraction.length) *
          10 ^ power)

variable {power : ℤ} {text digits rest : List Char} {quantity : ℚ} {value decimal : String}

theorem ExponentSpelling.head {exponent : List Char} (h : ExponentSpelling exponent power) :
    ∀ c ∈ exponent.head?, isAsciiDigit c = false ∧ c ≠ '.' := by
  have hmark {mark : Char} (h : mark = 'e' ∨ mark = 'E') : isAsciiDigit mark = false ∧ mark ≠ '.' := by
    rcases h with rfl | rfl <;> decide
  intro c hc
  cases h with
  | none => cases hc
  | unsigned h => exact some.inj hc ▸ hmark h
  | plus h => exact some.inj hc ▸ hmark h
  | minus h => exact some.inj hc ▸ hmark h

theorem readExponent_eq_some_iff : readExponent text = some power ↔ ExponentSpelling text power := by
  constructor
  · intro h
    cases text with
    | nil =>
      cases h
      exact .none
    | cons mark rest =>
      simp only [readExponent] at h
      split_ifs at h with hform hminus
      · cases h
        obtain ⟨digits,rfl⟩ : ∃ digits, rest = '-' :: digits := by
          cases rest with
          | nil => cases hminus
          | cons c digits => exact ⟨digits,by rw [some.inj hminus]⟩
        simp only [and_eq_true,or_eq_true,beq_iff_eq,decide_eq_true_eq] at hform
        exact .minus hform.1.1 (ne_nil_of_length_pos hform.1.2.1) hform.1.2.2
          (all_eq_true.1 hform.2)
      · cases h
        split at hform
        · exact absurd rfl hminus
        · simp only [and_eq_true,or_eq_true,beq_iff_eq,decide_eq_true_eq] at hform
          exact .plus hform.1.1 (ne_nil_of_length_pos hform.1.2.1) hform.1.2.2
            (all_eq_true.1 hform.2)
        · simp only [and_eq_true,or_eq_true,beq_iff_eq,decide_eq_true_eq] at hform
          exact .unsigned hform.1.1 (ne_nil_of_length_pos hform.1.2.1) hform.1.2.2
            (all_eq_true.1 hform.2)
  · intro h
    have hread {mark : Char} {digits : List Char} (hmark : mark = 'e' ∨ mark = 'E')
        (hne : digits ≠ []) (hlength : digits.length ≤ 3) (hdigits : ∀ c ∈ digits, c.isDigit = true) :
        ((mark == 'e' || mark == 'E') && decide (1 ≤ digits.length ∧ digits.length ≤ 3) &&
          digits.all isAsciiDigit) = true := by
      have hpos := length_pos_iff.2 hne
      simp only [and_eq_true,or_eq_true,beq_iff_eq,decide_eq_true_eq]
      exact ⟨⟨hmark,hpos,hlength⟩,all_eq_true.2 hdigits⟩
    cases h with
    | none => rfl
    | plus hmark hne hlength hdigits =>
      simp only [readExponent]
      rw [if_pos (hread hmark hne hlength hdigits),if_neg (by simp)]
      rfl
    | minus hmark hne hlength hdigits =>
      simp only [readExponent]
      rw [if_pos (hread hmark hne hlength hdigits),if_pos (by rfl)]
      rfl
    | @unsigned mark digits hmark hne hlength hdigits =>
      obtain ⟨c,rest,rfl⟩ := exists_cons_of_ne_nil hne
      have hc := hdigits c mem_cons_self
      have hminus : c ≠ '-' := by
        rintro rfl
        cases hc
      have hplus : c ≠ '+' := by
        rintro rfl
        cases hc
      have hform := hread hmark hne hlength hdigits
      simp only [readExponent]
      split
      · rename_i heq
        exact absurd (List.cons.inj heq).1 hminus
      · rename_i heq
        exact absurd (List.cons.inj heq).1 hplus
      · rw [if_pos hform,if_neg (by simpa using hminus)]
        rfl

theorem readLedgerValue_spelling {value : LedgerValue} (h : readLedgerValue text = some value) :
    LedgerSpelling text value.quantity := by
  have htake (l : List Char) : ∀ c ∈ l.takeWhile isAsciiDigit, c.isDigit = true :=
    fun c hc => mem_takeWhile_imp hc
  have htext := takeWhile_append_dropWhile (p := isAsciiDigit) (l := text)
  unfold readLedgerValue at h
  simp only at h
  split_ifs at h with hnone
  split at h
  · rename_i rest hrest
    split_ifs at h with hempty
    obtain ⟨power,hpower,rfl⟩ := map_eq_some_iff.1 h
    have hspelling := LedgerSpelling.fraction hnone (htake text) hempty (htake rest)
      (readExponent_eq_some_iff.1 hpower)
    rw [takeWhile_append_dropWhile,← hrest,htext] at hspelling
    rw [LedgerValue.quantity,ofDigitChars_append_eq,zpow_sub₀ (by decide),zpow_natCast]
    convert hspelling using 1
    push_cast
    field_simp
  · obtain ⟨power,hpower,rfl⟩ := map_eq_some_iff.1 h
    have hspelling := LedgerSpelling.integer hnone (htake text) (readExponent_eq_some_iff.1 hpower)
    rw [htext] at hspelling
    simpa [LedgerValue.quantity] using hspelling

theorem takeWhile_digits (hdigits : ∀ c ∈ digits, isAsciiDigit c = true)
    (hrest : ∀ c ∈ rest.head?, isAsciiDigit c = false) :
    (digits ++ rest).takeWhile isAsciiDigit = digits ∧ (digits ++ rest).dropWhile isAsciiDigit = rest := by
  rw [takeWhile_append_of_pos hdigits,dropWhile_append_of_pos hdigits]
  cases rest with
  | nil => exact ⟨append_nil _,rfl⟩
  | cons c rest =>
    have hc := eq_false_iff.1 (hrest c rfl)
    rw [takeWhile_cons_of_neg hc,dropWhile_cons_of_neg hc]
    exact ⟨append_nil _,rfl⟩

theorem LedgerSpelling.read (h : LedgerSpelling text quantity) :
    ∃ value, readLedgerValue text = some value ∧ value.quantity = quantity := by
  cases h with
  | @integer digits exponent power hne hdigits hexponent =>
    obtain ⟨htake,hdrop⟩ := takeWhile_digits hdigits fun c hc => (hexponent.head c hc).1
    refine ⟨⟨digits,[],power⟩,?_,by simp [LedgerValue.quantity]⟩
    simp only [readLedgerValue,htake,hdrop,if_neg hne]
    split
    · rename_i rest
      exact absurd rfl (hexponent.head '.' rfl).2
    · rw [readExponent_eq_some_iff.2 hexponent,map_some]
  | @fraction digits fraction exponent power hne hdigits hne' hdigits' hexponent =>
    obtain ⟨htake,hdrop⟩ := @takeWhile_digits digits ('.' :: (fraction ++ exponent)) hdigits
      fun c hc => some.inj hc ▸ rfl
    obtain ⟨htake',hdrop'⟩ := takeWhile_digits hdigits' fun c hc => (hexponent.head c hc).1
    refine ⟨⟨digits,fraction,power⟩,?_,?_⟩
    · simp only [readLedgerValue,htake,hdrop,if_neg hne,htake',hdrop',if_neg hne',
        readExponent_eq_some_iff.2 hexponent,map_some]
    · rw [LedgerValue.quantity,ofDigitChars_append_eq,zpow_sub₀ (by decide),zpow_natCast]
      push_cast
      field_simp

theorem canonicalInteger_leading (hdigits : ∀ c ∈ digits ++ rest, c.isDigit = true)
    (hne : withoutLeadingZeros digits ≠ []) :
    isCanonicalInteger (withoutLeadingZeros digits ++ rest) = true := by
  obtain ⟨zeros,hzeros⟩ := dropWhile_zeros digits
  have hstop := List.head?_dropWhile_not (· == '0') digits
  rw [← withoutLeadingZeros] at hstop
  generalize withoutLeadingZeros digits = kept at *
  obtain ⟨c,kept,rfl⟩ := exists_cons_of_ne_nil hne
  have hmem : ∀ d ∈ c :: kept ++ rest, d.isDigit = true := by
    intro d hd
    apply hdigits
    rw [hzeros,append_assoc]
    exact mem_append_right _ hd
  rw [cons_append,isCanonicalInteger,or_eq_true,and_eq_true,and_eq_true,
    List.all_eq_true,isNonZeroDigit_iff]
  refine .inr ⟨⟨hmem c mem_cons_self,?_⟩,fun d hd => hmem d (mem_cons_of_mem _ hd)⟩
  simpa using hstop

theorem canonicalInteger_withoutRedundantZeros (hdigits : ∀ c ∈ digits, c.isDigit = true)
    (hne : digits ≠ []) : isCanonicalInteger (withoutRedundantZeros digits) = true := by
  rw [withoutRedundantZeros]
  split_ifs with hzero
  · obtain ⟨zeros,hzeros⟩ := dropWhile_zeros digits
    rw [hzero,append_nil] at hzeros
    obtain ⟨zeros,rfl⟩ : ∃ n, zeros = n + 1 :=
      Nat.exists_eq_add_one_of_ne_zero fun h => hne (by rw [hzeros,h]; rfl)
    rw [hzeros,drop_replicate,length_replicate,Nat.add_sub_cancel,Nat.add_sub_cancel_left]
    rfl
  · have hcanonical := @canonicalInteger_leading _ [] (by simpa using hdigits) hzero
    rwa [append_nil] at hcanonical

theorem canonical_places {padded : List Char} (hdigits : ∀ c ∈ padded, c.isDigit = true)
    {places : Nat} (hplaces : places < padded.length) :
    matchesCanonicalDecimal (String.ofList
      (if withoutTrailingZeros (padded.drop (padded.length - places)) = [] then
        withoutRedundantZeros (padded.take (padded.length - places))
      else withoutRedundantZeros (padded.take (padded.length - places)) ++
        '.' :: withoutTrailingZeros (padded.drop (padded.length - places)))) = true := by
  have hwhole : padded.take (padded.length - places) ≠ [] := by
    apply ne_nil_of_length_pos
    rw [length_take]
    omega
  have hspelled : Spelled (withoutRedundantZeros (padded.take (padded.length - places)))
      (withoutTrailingZeros (padded.drop (padded.length - places))) :=
    ⟨canonicalInteger_withoutRedundantZeros (fun c hc => hdigits c (mem_of_mem_take hc)) hwhole,
      fun c hc => hdigits c (mem_of_mem_drop (mem_withoutTrailingZeros hc)),
      getLast?_withoutTrailingZeros _⟩
  have hcanonical := hspelled.canonical
  rw [spell] at hcanonical
  split_ifs at hcanonical ⊢ with hpart
  · exact hcanonical
  · exact hcanonical

theorem canonicalDecimalOfLedgerValue_canonical
    (h : canonicalDecimalOfLedgerValue value = some decimal) :
    matchesCanonicalDecimal decimal = true := by
  unfold canonicalDecimalOfLedgerValue at h
  split_ifs at h
  obtain ⟨parsed,hparsed,rfl⟩ := map_eq_some_iff.1 h
  have hdigits : ∀ c ∈ parsed.integer ++ parsed.fraction, c.isDigit = true :=
    readLedgerValue_digits hparsed
  have hkept : ∀ c ∈ withoutLeadingZeros (parsed.integer ++ parsed.fraction), c.isDigit = true :=
    fun c hc => hdigits c ((dropWhile_sublist _).mem hc)
  have hzeros (n : Nat) : ∀ c ∈ List.replicate n '0', c.isDigit = true :=
    fun c hc => eq_of_mem_replicate hc ▸ rfl
  simp only
  by_cases hzero : withoutLeadingZeros (parsed.integer ++ parsed.fraction) = []
  · rw [if_pos hzero]
    rfl
  rw [if_neg hzero]
  by_cases hshift : 0 ≤ parsed.exponent - parsed.fraction.length
  · rw [if_pos hshift]
    have hall := forall_mem_append.2 ⟨hdigits, hzeros (parsed.exponent - parsed.fraction.length).toNat⟩
    have hspelled : Spelled (withoutLeadingZeros (parsed.integer ++ parsed.fraction) ++
        List.replicate (parsed.exponent - parsed.fraction.length).toNat '0') [] :=
      ⟨canonicalInteger_leading hall hzero,by simp,by simp⟩
    have hcanonical := hspelled.canonical
    rwa [spell,if_pos rfl] at hcanonical
  · rw [if_neg hshift]
    refine canonical_places (forall_mem_append.2 ⟨hzeros _,hkept⟩) ?_
    rw [length_append,length_replicate]
    omega

/-- A mantissa of sixteen digits whose last is zero, and an exponent within the ledger's bounds. -/
def HeldExactly (quantity : ℚ) : Prop :=
  ∃ (m : Nat) (e : ℤ), 10 ^ 15 ≤ m ∧ m < 10 ^ 16 ∧ 10 ∣ m ∧ -96 ≤ e ∧ e ≤ 80 ∧ quantity = m * 10 ^ e

theorem heldExactly_iff :
    HeldExactly quantity ↔ ∃ (m : Nat) (e : ℤ), 10 ^ 14 ≤ m ∧ m < 10 ^ (14 + 1) ∧ -95 ≤ e ∧ e ≤ 81 ∧
      quantity = m * 10 ^ e := by
  have hten : (10 : ℚ) ≠ 0 := by decide
  constructor
  · rintro ⟨m,e,hle,hlt,⟨n,rfl⟩,hmin,hmax,rfl⟩
    refine ⟨n,e + 1,by omega,by omega,by omega,by omega,?_⟩
    rw [zpow_add_one₀ hten]
    push_cast
    ring
  · rintro ⟨m,e,hle,hlt,hmin,hmax,rfl⟩
    refine ⟨10 * m,e - 1,by omega,by omega,Nat.dvd_mul_right 10 m,by omega,by omega,?_⟩
    rw [zpow_sub_one₀ hten]
    push_cast
    field_simp

theorem xrplIssuedValueOf_isSome_iff (h : matchesCanonicalDecimal decimal = true) :
    (xrplIssuedValueOf decimal).isSome = true ↔ HeldExactly (decimalValue decimal) := by
  obtain ⟨integer,fraction,hspelled,rfl⟩ := spelled_of_canonical h
  have hparts : (splitPoint (spell integer fraction).toList).1 = integer ∧
      (splitPoint (spell integer fraction).toList).2.getD [] = fraction := by
    rw [hspelled.splitPoint_spell]
    split_ifs with hnil
    · exact ⟨rfl,hnil.symm⟩
    · exact ⟨rfl,rfl⟩
  simp only [xrplIssuedValueOf,h,hparts.1,hparts.2,Bool.not_true,Bool.false_eq_true,if_false]
  by_cases hzero : withoutLeadingZeros (integer ++ fraction) = []
  · rw [if_pos hzero]
    have htext : spell integer fraction = "0" := by
      by_contra hne
      exact hspelled.leading_ne_nil hne hzero
    rw [htext,decimalValue_zero]
    constructor
    · intro hnone
      cases hnone
    · rintro ⟨m,e,hle,-,-,-,-,hvalue⟩
      have hm : (0 : ℚ) < m := by
        exact_mod_cast (Nat.pow_pos (by decide)).trans_le hle
      exact absurd hvalue.symm (mul_pos hm (zpow_pos (by decide) e)).ne'
  · obtain ⟨d,zeros,hd,hlength,hvalue,hle,hlt,hmod⟩ :=
      significant_spec hspelled.all_digits hzero
    have hpower : decimalValue (spell integer fraction) = (Nat.ofDigitChars 10
          (withoutTrailingZeros (withoutLeadingZeros (integer ++ fraction))) 0 : ℚ) *
            10 ^ ((zeros : ℤ) - fraction.length) := by
      rw [hspelled.value,hvalue,zpow_sub₀ (by decide),zpow_natCast,zpow_natCast]
      push_cast
      ring
    rw [heldExactly_iff,hpower,← exists_mantissa_iff hle hlt hmod,if_neg hzero,hd,hlength]
    split_ifs with hdigits hrange
    · simp only [isSome_none,false_eq_true,false_iff]
      omega
    · simp only [isSome_none,Bool.false_eq_true,false_iff]
      push_cast at hrange ⊢
      omega
    · simp only [isSome_some,true_iff]
      push_cast at hrange ⊢
      omega

theorem xrplIssuedValueOf_canonical (h : xrplIssuedValueOf decimal = some value) :
    value = decimal ∧ matchesCanonicalDecimal decimal = true := by
  refine ⟨xrplIssuedValueOf_eq h,?_⟩
  by_contra hcanonical
  rw [xrplIssuedValueOf,if_pos (by simpa using hcanonical)] at h
  cases h

theorem LedgerSpelling.canonicalDecimal {text : String} (h : LedgerSpelling text.toList quantity)
    (hlength : (codeUnits text).length ≤ 64) :
    ∃ decimal, canonicalDecimalOfLedgerValue text = some decimal ∧
      matchesCanonicalDecimal decimal = true ∧ decimalValue decimal = quantity := by
  obtain ⟨value,hread,hquantity⟩ := h.read
  obtain ⟨decimal,hdecimal⟩ : ∃ decimal, canonicalDecimalOfLedgerValue text = some decimal := by
    rw [canonicalDecimalOfLedgerValue,if_neg (Nat.not_lt.2 hlength),hread]
    exact ⟨_,rfl⟩
  obtain ⟨parsed,hparsed,hvalue⟩ := canonicalDecimalOfLedgerValue_quantity hdecimal
  obtain rfl := some.inj (hread.symm.trans hparsed)
  exact ⟨decimal,hdecimal,canonicalDecimalOfLedgerValue_canonical hdecimal,hvalue.trans hquantity⟩

theorem canonicalDecimalOfLedgerValue_spelling {text : String}
    (h : canonicalDecimalOfLedgerValue text = some decimal) :
    (codeUnits text).length ≤ 64 ∧ LedgerSpelling text.toList (decimalValue decimal) := by
  obtain ⟨parsed,hparsed,hvalue⟩ := canonicalDecimalOfLedgerValue_quantity h
  rw [hvalue]
  refine ⟨?_,readLedgerValue_spelling hparsed⟩
  by_contra hlong
  rw [canonicalDecimalOfLedgerValue,if_pos (Nat.lt_of_not_le hlong)] at h
  cases h

/-- A report is read as the canonical decimal of what it spells, every unsigned spelling within the
bound is read, a canonical decimal is sent unchanged exactly when the ledger holds its quantity, and
a report compares equal to a sent amount exactly when it spells the same quantity. -/
theorem issued_values_exact : (∀ text decimal, canonicalDecimalOfLedgerValue text = some decimal →
      matchesCanonicalDecimal decimal = true ∧ LedgerSpelling text.toList (decimalValue decimal)) ∧
    (∀ text quantity, LedgerSpelling text.toList quantity → (codeUnits text).length ≤ 64 →
      ∃ decimal, canonicalDecimalOfLedgerValue text = some decimal ∧ decimalValue decimal = quantity) ∧
    (∀ decimal, matchesCanonicalDecimal decimal = true →
      (xrplIssuedValueOf decimal = some decimal ↔ HeldExactly (decimalValue decimal))) ∧
    (∀ decimal value, xrplIssuedValueOf decimal = some value →
      value = decimal ∧ matchesCanonicalDecimal decimal = true) ∧
    ∀ amount, xrplIssuedValueOf amount = some amount →
      ∀ text quantity, LedgerSpelling text.toList quantity →
        (canonicalDecimalOfLedgerValue text = some amount ↔
          (codeUnits text).length ≤ 64 ∧ quantity = decimalValue amount) := by
  refine ⟨fun text decimal h => ⟨canonicalDecimalOfLedgerValue_canonical h,
    (canonicalDecimalOfLedgerValue_spelling h).2⟩,?_,?_,
    fun decimal value h => xrplIssuedValueOf_canonical h,?_⟩
  · intro text quantity hspelling hlength
    obtain ⟨decimal,hdecimal,-,hvalue⟩ := hspelling.canonicalDecimal hlength
    exact ⟨decimal,hdecimal,hvalue⟩
  · intro decimal hcanonical
    rw [← xrplIssuedValueOf_isSome_iff hcanonical,isSome_iff_exists]
    constructor
    · exact fun h => ⟨decimal,h⟩
    · rintro ⟨value,hvalue⟩
      rw [hvalue,xrplIssuedValueOf_eq hvalue]
  · intro amount hamount text quantity hspelling
    obtain ⟨-,hcanonical⟩ := xrplIssuedValueOf_canonical hamount
    constructor
    · intro h
      obtain ⟨hlength,-⟩ := canonicalDecimalOfLedgerValue_spelling h
      obtain ⟨decimal,hdecimal,-,hvalue⟩ := hspelling.canonicalDecimal hlength
      obtain rfl := Option.some.inj (h.symm.trans hdecimal)
      exact ⟨hlength,hvalue.symm⟩
    · rintro ⟨hlength,rfl⟩
      obtain ⟨decimal,hdecimal,hcanonical',hvalue⟩ := hspelling.canonicalDecimal hlength
      rw [hdecimal,canonicalDecimal_ext hcanonical' hcanonical hvalue]

end Frontera.Xrpl
