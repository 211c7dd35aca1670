import Frontera.Data.Mantissa
import Frontera.Data.Throwing
import Frontera.Trade.Amount

/-! An issued value is accepted exactly when the ledger can hold what its text denotes, drops
exactly when they are a whole number of them within the supply, and the exact quantity of either
denotes what the text does. -/

namespace Frontera.Trade

open Frontera.Data Frontera.Monetary List
open Frontera.Payment (canonicalizeDecimalText isPlainDecimal)
open Frontera.Xrpl (withoutLeadingZeros withoutTrailingZeros dropWhile_zeros
  withoutTrailingZeros_append decimalValue_integer decimalValue_fraction)

/-- A canonical decimal of this integer and this fraction. -/
def spell (integer fraction : List Char) : String :=
  if fraction = [] then String.ofList integer else String.ofList (integer ++ '.' :: fraction)

/-- An integer without leading zeros, and a fraction without trailing ones. -/
structure Spelled (integer fraction : List Char) : Prop where
  integer : isCanonicalInteger integer = true
  digits : ∀ c ∈ fraction, c.isDigit = true
  last : fraction.getLast? ≠ some '0'

variable {c : Char} {integer fraction : List Char} {text : String} {digits : List Char}
  {raw : RawValue} {drops : String} {sha256 : List UInt8 → List UInt8} {field : String}

theorem isNonZeroDigit_iff : isNonZeroDigit c = true ↔ c.isDigit = true ∧ c ≠ '0' := by
  simp [isNonZeroDigit]

theorem canonicalInteger_cases (h : isCanonicalInteger integer = true) :
    integer = ['0'] ∨ ∃ c rest, integer = c :: rest ∧ c.isDigit = true ∧ c ≠ '0' ∧
      ∀ d ∈ rest, d.isDigit = true := by
  cases integer with
  | nil => cases h
  | cons c rest =>
    rw [isCanonicalInteger,Bool.or_eq_true,Bool.and_eq_true,Bool.and_eq_true,isNonZeroDigit_iff,
      List.isEmpty_iff,all_eq_true,beq_iff_eq] at h
    rcases h with ⟨rfl,rfl⟩ | ⟨⟨hdigit,hne⟩,hrest⟩
    · exact .inl rfl
    · exact .inr ⟨c,rest,rfl,hdigit,hne,hrest⟩

theorem canonicalInteger_digits (h : isCanonicalInteger integer = true) :
    ∀ c ∈ integer, c.isDigit = true := by
  rcases canonicalInteger_cases h with rfl | ⟨c,rest,rfl,hdigit,-,hrest⟩
  · intro c hc
    rw [mem_singleton.1 hc]
    decide
  · intro d hd
    rcases mem_cons.1 hd with rfl | hd
    · exact hdigit
    · exact hrest d hd

theorem isDigit_ne_point (h : c.isDigit = true) : c ≠ '.' := by
  rintro rfl
  revert h
  decide

namespace Spelled

variable {integer fraction : List Char}

section

variable (h : Spelled integer fraction)
include h

theorem noPoint : ∀ c ∈ integer, c ≠ '.' :=
  fun c hc => isDigit_ne_point (canonicalInteger_digits h.integer c hc)

theorem splitPoint_spell : splitPoint (spell integer fraction).toList =
      (integer, if fraction = [] then none else some fraction) := by
  unfold spell
  split_ifs with hnil
  · rw [String.toList_ofList,splitPoint_of_noPoint _ h.noPoint]
  · rw [String.toList_ofList,splitPoint_point _ h.noPoint]

theorem value : decimalValue (spell integer fraction) =
      Nat.ofDigitChars 10 (integer ++ fraction) 0 / 10 ^ fraction.length := by
  unfold spell
  split_ifs with hnil
  · rw [decimalValue_integer h.noPoint,hnil]
    simp
  · rw [decimalValue_fraction h.noPoint]

theorem fraction_canonical (hne : fraction ≠ []) : isCanonicalFraction fraction = true := by
  obtain ⟨front,last,rfl⟩ : ∃ front last, fraction = front ++ [last] :=
    ⟨_,_,(dropLast_append_getLast hne).symm⟩
  have hlast : last ≠ '0' := by
    have hends := h.last
    rw [List.getLast?_concat] at hends
    exact fun heq => hends (by rw [heq])
  rw [isCanonicalFraction,List.getLast?_concat,Option.any_some,Bool.and_eq_true,
    all_eq_true,isNonZeroDigit_iff]
  exact ⟨h.digits,h.digits _ (by simp),hlast⟩

theorem canonical : matchesCanonicalDecimal (spell integer fraction) = true := by
  rw [matchesCanonicalDecimal,h.splitPoint_spell]
  split_ifs with hnil
  · exact h.integer
  · simp only [h.integer,h.fraction_canonical hnil,Bool.and_self]

theorem isCanonicalDecimal_spell (maximum : Nat) : isCanonicalDecimal (spell integer fraction) maximum =
      decide (integer.length + fraction.length ≤ maximum) := by
  have hcount : digitCount (spell integer fraction) = integer.length + fraction.length := by
    rw [digitCount,h.splitPoint_spell]
    split_ifs with hnil
    · rw [hnil]
      rfl
    · rfl
  rw [isCanonicalDecimal,h.canonical,hcount,Bool.true_and]

theorem issuedShape_spell : issuedShape (spell integer fraction) = shapeOf integer fraction := by
  rw [issuedShape,h.splitPoint_spell]
  split_ifs with hnil
  · rw [hnil]
  · rfl

end

end Spelled

theorem splitPoint_some {text : List Char} (h : splitPoint text = (integer, some fraction)) :
    text = integer ++ '.' :: fraction ∧ ∀ c ∈ integer, c ≠ '.' := by
  unfold splitPoint at h
  have hsplit := takeWhile_append_dropWhile (p := (· != '.')) (l := text)
  cases hdrop : text.dropWhile (· != '.') with
  | nil =>
    rw [hdrop] at h
    cases h
  | cons c rest =>
    rw [hdrop] at h hsplit
    cases h
    have hstop := List.head?_dropWhile_not (· != '.') text
    rw [hdrop] at hstop
    obtain rfl : c = '.' := by simpa using hstop
    exact ⟨hsplit.symm,fun d hd => by simpa using mem_takeWhile_imp hd⟩

theorem splitPoint_none {text : List Char} (h : splitPoint text = (integer, none)) : integer = text := by
  unfold splitPoint at h
  split at h
  · exact (Prod.mk.inj h).1.symm
  · cases (Prod.mk.inj h).2

theorem getLast?_withoutTrailingZeros (digits : List Char) :
    (withoutTrailingZeros digits).getLast? ≠ some '0' := by
  intro hlast
  have hstop := List.head?_dropWhile_not (· == '0') digits.reverse
  rw [withoutTrailingZeros,List.getLast?_reverse] at hlast
  rw [hlast] at hstop
  simp at hstop

theorem canonicalizeDecimalText_plain (h : isPlainDecimal text.toList = true)
    (hlength : (codeUnits text).length ≤ 256) :
    ∃ integer fraction, Spelled integer fraction ∧
      decimalValue text = decimalValue (spell integer fraction) ∧ canonicalizeDecimalText text =
        if integer.length + fraction.length ≤ 128 then some (spell integer fraction) else none := by
  have hne : text ≠ "" := by
    rintro rfl
    revert h
    decide
  have hguard : (decide (text = "") || decide ((codeUnits text).length > 256)) = false := by
    simp [hne,hlength]
  unfold isPlainDecimal at h
  cases hsplit : splitPoint text.toList with
  | mk integer point =>
    rw [hsplit] at h
    cases point with
    | none =>
      have hspelled : Spelled integer [] := ⟨h,by simp,by simp⟩
      have htext : spell integer [] = text := by
        rw [spell,if_pos rfl,splitPoint_none hsplit,String.ofList_toList]
      refine ⟨integer,[],hspelled,by rw [htext],?_⟩
      have hcanonical := hspelled.isCanonicalDecimal_spell 128
      rw [htext] at hcanonical
      rw [canonicalizeDecimalText,hguard,isPlainDecimal,hsplit]
      simp only [h,Bool.not_true,Bool.false_eq_true,if_false,monetaryDecimalMaximumDigits,
        hcanonical,decide_eq_true_eq,htext]
    | some fraction =>
      simp only [Bool.and_eq_true,all_eq_true] at h
      obtain ⟨⟨hinteger,hfraction⟩,hdigits⟩ := h
      obtain ⟨htext,hpoint⟩ := splitPoint_some hsplit
      obtain ⟨zeros,hzeros⟩ := withoutTrailingZeros_append fraction
      have hmem : ∀ c ∈ withoutTrailingZeros fraction, c.isDigit = true := by
        intro c hc
        apply hdigits
        rw [hzeros]
        exact mem_append_left _ hc
      have hspelled : Spelled integer (withoutTrailingZeros fraction) :=
        ⟨hinteger,hmem,getLast?_withoutTrailingZeros fraction⟩
      refine ⟨integer,withoutTrailingZeros fraction,hspelled,?_,?_⟩
      · have htext' : text = String.ofList (integer ++ '.' :: fraction) := by
          rw [← htext,String.ofList_toList]
        have hlengths : fraction.length = (withoutTrailingZeros fraction).length + zeros := by
          conv_lhs => rw [hzeros]
          simp
        have hnumeral : Nat.ofDigitChars 10 (integer ++ fraction) 0 =
            10 ^ zeros * Nat.ofDigitChars 10 (integer ++ withoutTrailingZeros fraction) 0 := by
          conv_lhs => rw [hzeros]
          rw [← append_assoc,Xrpl.ofDigitChars_append_zeros]
        rw [hspelled.value,htext',decimalValue_fraction hpoint,hnumeral,hlengths,pow_add]
        push_cast
        field_simp
      · have hcanonical := hspelled.isCanonicalDecimal_spell 128
        have hall : fraction.all Char.isDigit = true := all_eq_true.2 hdigits
        have hkept : (fraction.reverse.dropWhile (· == '0')).reverse = withoutTrailingZeros fraction := rfl
        rw [canonicalizeDecimalText,hguard,isPlainDecimal,hsplit]
        simp only [hinteger,hfraction,hall,Bool.and_self,Bool.not_true,Bool.false_eq_true,
          if_false,hkept,monetaryDecimalMaximumDigits]
        cases hcase : withoutTrailingZeros fraction with
        | nil =>
          rw [hcase,spell,if_pos rfl] at hcanonical
          simp only [hcanonical,decide_eq_true_eq,spell,if_true]
        | cons c rest =>
          rw [hcase,spell,if_neg (cons_ne_nil _ _)] at hcanonical
          simp only [hcanonical,decide_eq_true_eq,spell,if_neg (cons_ne_nil c rest)]

theorem canonicalizeDecimalText_not_plain (h : isPlainDecimal text.toList = false) :
    canonicalizeDecimalText text = none := by
  rw [canonicalizeDecimalText]
  split
  · rfl
  · rw [h]
    rfl

theorem significant_spec (hdigits : ∀ c ∈ digits, c.isDigit = true)
    (hne : withoutLeadingZeros digits ≠ []) :
    ∃ d zeros, (withoutTrailingZeros (withoutLeadingZeros digits)).length = d + 1 ∧
      (withoutLeadingZeros digits).length = d + 1 + zeros ∧ Nat.ofDigitChars 10 digits 0 = 10 ^ zeros *
        Nat.ofDigitChars 10 (withoutTrailingZeros (withoutLeadingZeros digits)) 0 ∧
      10 ^ d ≤ Nat.ofDigitChars 10 (withoutTrailingZeros (withoutLeadingZeros digits)) 0 ∧
      Nat.ofDigitChars 10 (withoutTrailingZeros (withoutLeadingZeros digits)) 0 < 10 ^ (d + 1) ∧
      Nat.ofDigitChars 10 (withoutTrailingZeros (withoutLeadingZeros digits)) 0 % 10 ≠ 0 := by
  have hvalue := Xrpl.ofDigitChars_withoutLeadingZeros digits
  have hhead : (withoutLeadingZeros digits).head? ≠ some '0' := by
    intro hhead
    have hstop := List.head?_dropWhile_not (· == '0') digits
    rw [withoutLeadingZeros] at hhead
    rw [hhead] at hstop
    simp at hstop
  have hmem : ∀ c ∈ withoutLeadingZeros digits, c.isDigit = true :=
    fun c hc => hdigits c ((dropWhile_sublist _).mem hc)
  have hlast := getLast?_withoutTrailingZeros (withoutLeadingZeros digits)
  obtain ⟨zeros,hzeros⟩ := withoutTrailingZeros_append (withoutLeadingZeros digits)
  generalize withoutLeadingZeros digits = D at *
  generalize withoutTrailingZeros D = T at *
  cases T with
  | nil =>
    rw [nil_append] at hzeros
    cases zeros with
    | zero => exact absurd hzeros hne
    | succ zeros => exact absurd (by rw [hzeros]; rfl) hhead
  | cons c rest =>
    have hT : ∀ d ∈ c :: rest, d.isDigit = true := by
      intro d hd
      apply hmem
      rw [hzeros]
      exact mem_append_left _ hd
    have hc : c ≠ '0' := by
      rintro rfl
      exact hhead (by rw [hzeros]; rfl)
    obtain ⟨front,last,hfront⟩ : ∃ front last, c :: rest = front ++ [last] :=
      ⟨_,_,(dropLast_append_getLast (cons_ne_nil c rest)).symm⟩
    have hlast' : last ≠ '0' := by
      rw [hfront,List.getLast?_concat] at hlast
      exact fun heq => hlast (by rw [heq])
    refine ⟨rest.length,zeros,rfl,?_,?_,?_,?_,?_⟩
    · rw [hzeros,length_append,length_cons,length_replicate]
    · rw [← hvalue,hzeros,Xrpl.ofDigitChars_append_zeros]
    · exact le_ofDigitChars_cons (hT c mem_cons_self) hc rest
    · exact ofDigitChars_lt hT
    · rw [hfront]
      exact ofDigitChars_concat_mod (hT last (by rw [hfront]; simp)) hlast' front

/-- An accepted shape. -/
def IssuedShape.accepted (shape : IssuedShape) : Prop :=
  shape.significantDigits ≤ tradeIssuedMaximumSignificantDigits ∧
    tradeIssuedMinimumExponent ≤ shape.exponent ∧ shape.exponent ≤ tradeIssuedMaximumExponent

/-- The ledger can hold the value exactly. -/
def Representable (value : ℚ) : Prop :=
  ∃ (m : Nat) (e : ℤ), 10 ^ 15 ≤ m ∧ m < 10 ^ 16 ∧ -96 ≤ e ∧ e ≤ 80 ∧ value = m * 10 ^ e

namespace Spelled

variable {integer fraction : List Char}

section

variable (h : Spelled integer fraction)
include h

theorem all_digits : ∀ c ∈ integer ++ fraction, c.isDigit = true := by
  intro c hc
  rcases mem_append.1 hc with hc | hc
  · exact canonicalInteger_digits h.integer c hc
  · exact h.digits c hc

theorem leading_ne_nil (hzero : spell integer fraction ≠ "0") :
    withoutLeadingZeros (integer ++ fraction) ≠ [] := by
  intro hnil
  rw [withoutLeadingZeros,dropWhile_eq_nil_iff] at hnil
  rcases canonicalInteger_cases h.integer with rfl | ⟨c,rest,rfl,-,hne,-⟩
  · by_cases hfraction : fraction = []
    · rw [hfraction] at hzero
      exact hzero rfl
    · have hlast := List.getLast?_eq_some_getLast hfraction
      have hmem := hnil (fraction.getLast hfraction)
        (mem_append_right _ (getLast_mem hfraction))
      rw [eq_of_beq hmem] at hlast
      exact h.last hlast
  · have hmem := hnil c (mem_append_left _ mem_cons_self)
    exact hne (eq_of_beq hmem)

theorem accepted_iff (hzero : spell integer fraction ≠ "0") :
    (shapeOf integer fraction).accepted ↔ Representable (decimalValue (spell integer fraction)) := by
  obtain ⟨d,zeros,hd,hlength,hvalue,hle,hlt,hmod⟩ :=
    significant_spec h.all_digits (h.leading_ne_nil hzero)
  have hpower : decimalValue (spell integer fraction) =
      (Nat.ofDigitChars 10 (withoutTrailingZeros (withoutLeadingZeros (integer ++ fraction))) 0 : ℚ) *
        10 ^ ((zeros : ℤ) - fraction.length) := by
    rw [h.value,hvalue,zpow_sub₀ (by decide),zpow_natCast,zpow_natCast]
    push_cast
    ring
  rw [Representable,hpower,← exists_mantissa_iff hle hlt hmod]
  simp only [IssuedShape.accepted,shapeOf,hd,hlength,tradeIssuedMaximumSignificantDigits,
    tradeIssuedMinimumExponent,tradeIssuedMaximumExponent]
  push_cast
  omega

theorem no_trailing_zeros (hzero : spell integer fraction ≠ "0") (hne : fraction ≠ []) :
    withoutTrailingZeros (withoutLeadingZeros (integer ++ fraction)) =
      withoutLeadingZeros (integer ++ fraction) := by
  have hnil := h.leading_ne_nil hzero
  obtain ⟨leading,hleading⟩ := dropWhile_zeros (integer ++ fraction)
  have hlast : (withoutLeadingZeros (integer ++ fraction)).getLast? ≠ some '0' := by
    have hends := congrArg List.getLast? hleading
    rw [List.getLast?_append_of_ne_nil _ hne,List.getLast?_append_of_ne_nil _ hnil] at hends
    rw [← hends]
    exact h.last
  obtain ⟨zeros,hzeros⟩ :=
    withoutTrailingZeros_append (withoutLeadingZeros (integer ++ fraction))
  cases zeros with
  | zero => simpa using hzeros.symm
  | succ zeros =>
    rw [hzeros,replicate_succ',← append_assoc,List.getLast?_concat] at hlast
    exact absurd rfl hlast

theorem length_le (hzero : spell integer fraction ≠ "0")
    (haccepted : (shapeOf integer fraction).accepted) : integer.length + fraction.length ≤ 128 := by
  obtain ⟨d,zeros,hd,hlength,-,-,-,-⟩ :=
    significant_spec h.all_digits (h.leading_ne_nil hzero)
  obtain ⟨hdigits,hmin,hmax⟩ := haccepted
  simp only [shapeOf,hd,hlength,tradeIssuedMaximumSignificantDigits,tradeIssuedMinimumExponent,
    tradeIssuedMaximumExponent] at hdigits hmin hmax
  push_cast at hmin hmax
  have hnone (hne : fraction ≠ []) : zeros = 0 := by
    rw [h.no_trailing_zeros hzero hne,hlength] at hd
    omega
  rcases canonicalInteger_cases h.integer with rfl | ⟨c,rest,rfl,-,hne,-⟩
  · -- below one, the power bounds the fraction
    have hfraction : fraction ≠ [] := by
      rintro rfl
      exact hzero rfl
    have hzeros := hnone hfraction
    rw [length_singleton]
    omega
  · have hall : withoutLeadingZeros (c :: rest ++ fraction) = c :: rest ++ fraction := by
      rw [withoutLeadingZeros,cons_append,dropWhile_cons_of_neg (by simpa using hne)]
    rw [hall,length_append] at hlength
    by_cases hfraction : fraction = []
    · rw [hfraction] at hlength hmax ⊢
      simp only [length_nil] at hlength hmax ⊢
      omega
    · have hzeros := hnone hfraction
      omega

end

end Spelled

/-- The accepted decimal grammar. -/
def IssuedSpelling (text : String) : Prop :=
  (codeUnits text).length ≤ amountTextMaximumLength ∧ isPlainDecimal text.toList = true

theorem isPlainDecimal_chars {text : List Char} (h : isPlainDecimal text = true) :
    ∀ c ∈ text, c.isDigit = true ∨ c = '.' := by
  unfold isPlainDecimal at h
  cases hsplit : splitPoint text with
  | mk integer point =>
    rw [hsplit] at h
    cases point with
    | none =>
      rw [← splitPoint_none hsplit]
      exact fun c hc => .inl (canonicalInteger_digits h c hc)
    | some fraction =>
      simp only [Bool.and_eq_true,all_eq_true] at h
      rw [(splitPoint_some hsplit).1]
      intro c hc
      rcases mem_append.1 hc with hc | hc
      · exact .inl (canonicalInteger_digits h.1.1 c hc)
      · rcases mem_cons.1 hc with rfl | hc
        · exact .inr rfl
        · exact .inl (h.2 c hc)

theorem refuseQuantityText_ok (hne : text ≠ "")
    (hlength : (codeUnits text).length ≤ amountTextMaximumLength)
    (hchars : ∀ c ∈ text.toList, c.isDigit = true ∨ c = '.') :
    refuseQuantityText (.str text) = .ok text := by
  have hminus : text.toList.head? ≠ some '-' := by
    intro hhead
    rcases hchars '-' (mem_of_head? hhead) with h | h
    · revert h
      decide
    · revert h
      decide
  have hexponent : (text.toList.any fun c => c == 'e' || c == 'E') = false := by
    rw [any_eq_false]
    intro c hc he
    rw [Bool.or_eq_true,beq_iff_eq,beq_iff_eq] at he
    rcases hchars c hc with h | h
    · rcases he with rfl | rfl <;> revert h <;> decide
    · rcases he with rfl | rfl <;> revert h <;> decide
  have hguard : ¬(text = "" ∨ (codeUnits text).length > amountTextMaximumLength) := by
    rintro (hempty | hlong)
    · exact hne hempty
    · omega
  rw [refuseQuantityText,if_neg hguard,if_neg hminus,hexponent]
  rfl

theorem refuseQuantityText_eq_ok (h : refuseQuantityText raw = .ok text) :
    raw = .str text ∧ (codeUnits text).length ≤ amountTextMaximumLength := by
  unfold refuseQuantityText at h
  split at h
  · simp only [guard_eq_ok] at h
    obtain ⟨hguard,-,-,h⟩ := h
    cases h
    exact ⟨rfl,by omega⟩
  · cases h

theorem decimalValue_pos_iff (h : Spelled integer fraction) :
    0 < decimalValue (spell integer fraction) ↔ spell integer fraction ≠ "0" := by
  constructor
  · intro hpos hzero
    rw [hzero,decimalValue_zero] at hpos
    exact lt_irrefl _ hpos
  · intro hzero
    obtain ⟨d,zeros,-,-,hvalue,hle,-,-⟩ :=
      significant_spec h.all_digits (h.leading_ne_nil hzero)
    have hpos : 0 < Nat.ofDigitChars 10 (integer ++ fraction) 0 := by
      rw [hvalue]
      exact Nat.mul_pos (Nat.pow_pos (by decide)) ((Nat.pow_pos (by decide)).trans_le hle)
    rw [h.value]
    exact div_pos (Nat.cast_pos.2 hpos) (pow_pos (by decide) _)

theorem parseIssuedValue_spelling {value : String} (h : parseIssuedValue raw = .ok value) :
    ∃ text, raw = .str text ∧ IssuedSpelling text := by
  unfold parseIssuedValue at h
  cases htext : refuseQuantityText raw with
  | error violation =>
    rw [htext] at h
    cases h
  | ok text =>
    obtain ⟨rfl,hlength⟩ := refuseQuantityText_eq_ok htext
    refine ⟨text,rfl,hlength,?_⟩
    by_contra hplain
    rw [Bool.not_eq_true] at hplain
    simp only [htext,canonicalizeDecimalText_not_plain hplain] at h
    cases h

/-- Text in the grammar is accepted, in its canonical spelling, exactly when its value is positive and
the ledger can hold it. -/
theorem parseIssuedValue_plain (h : IssuedSpelling text) : ∃ integer fraction, Spelled integer fraction ∧
      decimalValue text = decimalValue (spell integer fraction) ∧
      ∀ value, parseIssuedValue (.str text) = .ok value ↔
        value = spell integer fraction ∧ 0 < decimalValue text ∧ Representable (decimalValue text) := by
  obtain ⟨hlength,hplain⟩ := h
  obtain ⟨integer,fraction,hspelled,hsame,hcanonical⟩ :=
    canonicalizeDecimalText_plain hplain hlength
  have hne : text ≠ "" := by
    rintro rfl
    revert hplain
    decide
  have htext := refuseQuantityText_ok hne hlength (isPlainDecimal_chars hplain)
  refine ⟨integer,fraction,hspelled,hsame,fun value => ?_⟩
  rw [hsame,decimalValue_pos_iff hspelled,parseIssuedValue,htext]
  simp only [hcanonical]
  by_cases hzero : spell integer fraction = "0"
  · constructor
    · intro hok
      split at hok
      · cases hok
      · rename_i canonical hsome
        split at hsome
        · cases hsome
          rw [if_pos hzero] at hok
          cases hok
        · cases hsome
    · rintro ⟨-,hpos,-⟩
      exact absurd hzero hpos
  · rw [← hspelled.accepted_iff hzero]
    by_cases hshort : integer.length + fraction.length ≤ 128
    · simp only [if_pos hshort,if_neg hzero,hspelled.issuedShape_spell,guard_eq_ok,
        IssuedShape.accepted,not_lt,not_or,Except.ok.injEq]
      constructor
      · rintro ⟨hdigits,hrange,rfl⟩
        exact ⟨rfl,hzero,hdigits,hrange.1,hrange.2⟩
      · rintro ⟨rfl,-,hdigits,hmin,hmax⟩
        exact ⟨hdigits,⟨hmin,hmax⟩,rfl⟩
    · simp only [if_neg hshort]
      constructor
      · intro hok
        cases hok
      · rintro ⟨-,-,haccepted⟩
        exact absurd (hspelled.length_le hzero haccepted) hshort

theorem isPositiveInteger_iff {text : List Char} :
    isPositiveInteger text = true ↔ ∃ n, 0 < n ∧ text = Nat.toDigits 10 n := by
  constructor
  · intro h
    cases text with
    | nil => cases h
    | cons c rest =>
      rw [isPositiveInteger,Bool.and_eq_true,isNonZeroDigit_iff,all_eq_true] at h
      obtain ⟨⟨hdigit,hne⟩,hrest⟩ := h
      refine ⟨_,?_,(toDigits_ofDigitChars hdigit hne hrest).symm⟩
      exact (Nat.pow_pos (by decide)).trans_le (le_ofDigitChars_cons hdigit hne rest)
  · rintro ⟨n,hn,rfl⟩
    obtain ⟨c,rest,hdigits,hc⟩ := toDigits_head hn
    rw [hdigits,isPositiveInteger,hc,Bool.true_and,all_eq_true]
    exact fun d hd => toDigits_isDigit n d (by rw [hdigits]; exact mem_cons_of_mem _ hd)

/-- The text counts drops: a whole number of them, within the supply. -/
def CountsDrops (text : String) : Prop :=
  ∃ n : Nat, text = String.ofList (Nat.toDigits 10 n) ∧ 0 < n ∧ n ≤ tradeMaximumDrops

theorem length_toDigits_le {n : Nat} (hn : n ≤ tradeMaximumDrops) : (Nat.toDigits 10 n).length ≤ 18 := by
  have hlt : n < 10 ^ 18 := by
    rw [tradeMaximumDrops] at hn
    omega
  exact (Nat.length_toDigits_le_iff (by decide) (by decide)).2 hlt

theorem length_codeUnits_decimal (h : ∀ c ∈ digits, c.isDigit = true ∨ c = '.') :
    (codeUnits (String.ofList digits)).length = digits.length := by
  rw [length_codeUnits_of_ascii,String.toList_ofList]
  intro c hc
  rw [String.toList_ofList] at hc
  rcases h c hc with hdigit | rfl
  · rw [Char.isDigit,Bool.and_eq_true,decide_eq_true_eq,decide_eq_true_eq] at hdigit
    have hle : c.toNat ≤ 57 := hdigit.2
    omega
  · decide

theorem parseDrops_eq_ok : parseDrops raw = .ok drops ↔ raw = .str drops ∧ CountsDrops drops := by
  constructor
  · intro h
    unfold parseDrops at h
    cases htext : refuseQuantityText raw with
    | error violation =>
      rw [htext] at h
      cases h
    | ok text =>
      obtain ⟨rfl,-⟩ := refuseQuantityText_eq_ok htext
      simp only [htext] at h
      split at h
      · rename_i hinteger
        obtain ⟨n,hn,hdigits⟩ := isPositiveInteger_iff.1 hinteger
        split at h
        · rename_i hmaximum
          cases h
          rw [hdigits,Nat.ofDigitChars_ten_toDigits] at hmaximum
          exact ⟨rfl,n,by rw [← hdigits,String.ofList_toList],hn,hmaximum⟩
        · cases h
      · split at h
        · cases h
        · split at h <;> cases h
  · rintro ⟨rfl,n,rfl,hn,hmaximum⟩
    have hdigits := toDigits_isDigit n
    have hshort := length_toDigits_le hmaximum
    have htext : refuseQuantityText (.str (String.ofList (Nat.toDigits 10 n))) =
        .ok (String.ofList (Nat.toDigits 10 n)) := by
      apply refuseQuantityText_ok
      · intro hempty
        have hnil := congrArg String.toList hempty
        rw [String.toList_ofList] at hnil
        exact Nat.toDigits_ne_nil hnil
      · rw [length_codeUnits_decimal fun c hc => .inl (hdigits c hc),amountTextMaximumLength]
        omega
      · rw [String.toList_ofList]
        exact fun c hc => .inl (hdigits c hc)
    have hinteger : isPositiveInteger (Nat.toDigits 10 n) = true :=
      isPositiveInteger_iff.2 ⟨n,hn,rfl⟩
    simp only [parseDrops,htext,String.toList_ofList,hinteger,if_true,
      Nat.ofDigitChars_ten_toDigits,if_pos hmaximum]

theorem tradeDecimalQuantity_value (amount : TradeAmount) :
    decimalValue (tradeDecimalQuantity amount) = (tradeExactQuantity amount).value :=
  (format_spec _).2

theorem parseTradeAmount_issued {currency issuer value : String}
    (h : parseTradeAmount sha256 raw field = .ok (.issued currency issuer value)) :
    ∃ entries stated, snapshotTradeRecord raw 8 = .ok entries ∧
      entries.get "value" = some stated ∧ parseIssuedValue stated = .ok value := by
  unfold parseTradeAmount at h
  split at h
  · cases h
  · rename_i entries hentries
    refine ⟨entries,?_⟩
    split at h
    · unfold parseXrpAmount at h
      repeat' (split at h)
      all_goals cases h
    · unfold parseIssuedAmount at h
      split at h
      · cases h
      · split at h
        · cases h
        · split at h
          · cases h
          · split at h
            · cases h
            · rename_i stated hstated
              split at h
              · cases h
              · split at h
                · cases h
                · rename_i hvalue
                  cases h
                  exact ⟨stated,hentries,hstated,hvalue⟩
              · cases h

theorem parseTradeAmount_xrp (h : parseTradeAmount sha256 raw field = .ok (.xrp drops)) :
    ∃ entries stated, snapshotTradeRecord raw 8 = .ok entries ∧
      entries.get "drops" = some stated ∧ parseDrops stated = .ok drops := by
  unfold parseTradeAmount at h
  split at h
  · cases h
  · rename_i entries hentries
    refine ⟨entries,?_⟩
    split at h
    · unfold parseXrpAmount at h
      split at h
      · cases h
      · split at h
        · cases h
        · split at h
          · cases h
          · rename_i stated hstated
            split at h
            · cases h
            · rename_i hdrops
              cases h
              exact ⟨stated,hentries,hstated,hdrops⟩
    · unfold parseIssuedAmount at h
      repeat' (split at h)
      all_goals cases h

/-- Texts are accepted exactly when what they denote can be held, and an accepted amount's exact
quantity, and the text it is formatted as, denote what was stated. -/
theorem amounts_exact : (∀ text, (∃ value, parseIssuedValue (.str text) = .ok value) ↔
      IssuedSpelling text ∧ 0 < decimalValue text ∧ Representable (decimalValue text)) ∧
    (∀ text, (∃ drops, parseDrops (.str text) = .ok drops) ↔ CountsDrops text) ∧
    (∀ sha256 raw field currency issuer value,
      parseTradeAmount sha256 raw field = .ok (.issued currency issuer value) →
      ∃ entries text, snapshotTradeRecord raw 8 = .ok entries ∧ entries.get "value" = some (.str text) ∧
        (tradeExactQuantity (.issued currency issuer value)).value = decimalValue text ∧
        decimalValue (tradeDecimalQuantity (.issued currency issuer value)) = decimalValue text) ∧
    ∀ sha256 raw field drops, parseTradeAmount sha256 raw field = .ok (.xrp drops) →
      ∃ entries n, snapshotTradeRecord raw 8 = .ok entries ∧
        entries.get "drops" = some (.str (String.ofList (Nat.toDigits 10 n))) ∧
        (tradeExactQuantity (.xrp drops)).value = n / 10 ^ 6 ∧
        decimalValue (tradeDecimalQuantity (.xrp drops)) = n / 10 ^ 6 := by
  refine ⟨fun text => ⟨?_,?_⟩,fun text => ⟨?_,?_⟩,?_,?_⟩
  · rintro ⟨value,h⟩
    obtain ⟨text',hraw,hspelling⟩ := parseIssuedValue_spelling h
    obtain rfl := RawValue.str.inj hraw
    obtain ⟨integer,fraction,-,-,hparse⟩ := parseIssuedValue_plain hspelling
    obtain ⟨-,hpos,hrepresentable⟩ := (hparse value).1 h
    exact ⟨hspelling,hpos,hrepresentable⟩
  · rintro ⟨hspelling,hpos,hrepresentable⟩
    obtain ⟨integer,fraction,-,-,hparse⟩ := parseIssuedValue_plain hspelling
    exact ⟨_,(hparse _).2 ⟨rfl,hpos,hrepresentable⟩⟩
  · rintro ⟨drops,h⟩
    obtain ⟨hraw,hcounts⟩ := parseDrops_eq_ok.1 h
    obtain rfl := RawValue.str.inj hraw
    exact hcounts
  · intro hcounts
    exact ⟨text,parseDrops_eq_ok.2 ⟨rfl,hcounts⟩⟩
  · intro sha256 raw field currency issuer value h
    obtain ⟨entries,stated,hentries,hstated,hvalue⟩ := parseTradeAmount_issued h
    obtain ⟨text,rfl,hspelling⟩ := parseIssuedValue_spelling hvalue
    obtain ⟨integer,fraction,-,hsame,hparse⟩ := parseIssuedValue_plain hspelling
    obtain ⟨rfl,-,-⟩ := (hparse value).1 hvalue
    have hexact : (tradeExactQuantity (.issued currency issuer (spell integer fraction))).value =
        decimalValue text := hsame.symm
    exact ⟨entries,text,hentries,hstated,hexact,(tradeDecimalQuantity_value _).trans hexact⟩
  · intro sha256 raw field drops h
    obtain ⟨entries,stated,hentries,hstated,hdrops⟩ := parseTradeAmount_xrp h
    obtain ⟨rfl,n,rfl,-,-⟩ := parseDrops_eq_ok.1 hdrops
    have hexact : (tradeExactQuantity (.xrp (String.ofList (Nat.toDigits 10 n)))).value = n / 10 ^ 6 := by
      rw [tradeExactQuantity,String.toList_ofList,Nat.ofDigitChars_ten_toDigits]
      rfl
    exact ⟨entries,n,hentries,hstated,hexact,(tradeDecimalQuantity_value _).trans hexact⟩

def sampleDrops : RawValue :=
  .record true [(.name "currency", some (.str "XRP")), (.name "drops", some (.str "1500000"))]

def sampleIssued : RawValue :=
  .record true [(.name "currency", some (.str "USD")), (.name "issuer", some (.str sampleAddress)),
    (.name "value", some (.str "0.0500"))]

theorem sampleDrops_parsed :
    parseTradeAmount sampleSha256 sampleDrops "takerGets" = .ok (.xrp "1500000") := by
  rfl

theorem sampleIssued_parsed : parseTradeAmount sampleSha256 sampleIssued "takerPays" =
    .ok (.issued "USD" sampleAddress "0.05") := by
  have haccount : checkAccount sampleSha256 (.str sampleAddress) = .valid := sampleAddress_valid
  have hvalue : parseIssuedValue (.str "0.0500") = .ok "0.05" := rfl
  have hcurrency : parseTradeCurrencyCode (.str "USD") = some "USD" := rfl
  simp [parseTradeAmount,sampleIssued,snapshotTradeRecord,readProperties,dangerousKeys,Except.map,
    parseIssuedAmount,RecordEntries.get,hcurrency,haccount,hvalue]

theorem sampleAmounts_exact : (∃ value, parseIssuedValue (.str "0.0500") = .ok value) ∧
    (IssuedSpelling "0.0500" ∧ 0 < decimalValue "0.0500" ∧ Representable (decimalValue "0.0500")) ∧
    (∃ entries text, snapshotTradeRecord sampleIssued 8 = .ok entries ∧
      entries.get "value" = some (.str text) ∧
      (tradeExactQuantity (.issued "USD" sampleAddress "0.05")).value = decimalValue text ∧
      decimalValue (tradeDecimalQuantity (.issued "USD" sampleAddress "0.05")) = decimalValue text) ∧
    ∃ entries n, snapshotTradeRecord sampleDrops 8 = .ok entries ∧
      entries.get "drops" = some (.str (String.ofList (Nat.toDigits 10 n))) ∧
      (tradeExactQuantity (.xrp "1500000")).value = n / 10 ^ 6 ∧
      decimalValue (tradeDecimalQuantity (.xrp "1500000")) = n / 10 ^ 6 := by
  obtain ⟨hissued,-,hvalues,hdrops⟩ := amounts_exact
  have haccepted : ∃ value, parseIssuedValue (.str "0.0500") = .ok value := ⟨"0.05",rfl⟩
  exact ⟨haccepted,(hissued _).1 haccepted,hvalues _ _ _ _ _ _ sampleIssued_parsed,
    hdrops _ _ _ _ sampleDrops_parsed⟩

end Frontera.Trade
