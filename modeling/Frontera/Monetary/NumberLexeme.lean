import Frontera.Xrpl.IssuedValues

/-! A JSON number lexeme becomes the canonical decimal of the number it denotes: its exponent moves
the point through the digits, and nothing is rounded. -/

namespace Frontera.Monetary

open Frontera.Data Frontera.Trade Frontera.Xrpl List Option
open Frontera.Payment (canonicalizeDecimalText isPlainDecimal isAsciiDigit)

/-- What `JSON_NUMBER_LEXEME` captures. -/
structure NumberLexeme where
  negative : Bool
  integer : List Char
  (fraction exponentText : Option (List Char))

/-- `exponentText.replace(/^[+-]/, '')` -/
def withoutSign : List Char → List Char
  | '+' :: digits => digits
  | '-' :: digits => digits
  | digits => digits

/-- `(-?)` -/
def readSign : List Char → Bool × List Char
  | '-' :: rest => (true, rest)
  | rest => (false, rest)

/-- `(?:\.([0-9]+))?` -/
def readFraction : List Char → Option (Option (List Char) × List Char)
  | '.' :: rest =>
      if rest.takeWhile isAsciiDigit = [] then none
      else some (some (rest.takeWhile isAsciiDigit), rest.dropWhile isAsciiDigit)
  | rest => some (none, rest)

/-- `(?:[eE]([+-]?[0-9]{1,4}))?$` -/
def readExponentText : List Char → Option (Option (List Char))
  | [] => some none
  | mark :: text =>
      if (mark = 'e' ∨ mark = 'E') ∧ withoutSign text ≠ [] ∧ (withoutSign text).length ≤ 4 ∧
          (withoutSign text).all isAsciiDigit = true then some (some text)
      else none

/-- `JSON_NUMBER_LEXEME.exec` -/
def execNumberLexeme (lexeme : List Char) : Option NumberLexeme :=
  let unsigned := (readSign lexeme).2
  let integer := unsigned.takeWhile isAsciiDigit
  if !isCanonicalInteger integer then none
  else
    (readFraction (unsigned.dropWhile isAsciiDigit)).bind fun (fraction, rest) =>
      (readExponentText rest).map fun exponentText =>
        ⟨(readSign lexeme).1,integer,fraction,exponentText⟩

namespace NumberLexeme

variable (n : NumberLexeme)

def digits : List Char := n.integer ++ n.fraction.getD []

def exponent : ℤ :=
  let exponentText := n.exponentText.getD ['0']
  let exponentMagnitude : ℤ := Nat.ofDigitChars 10 (withoutSign exponentText) 0
  if exponentText.head? = some '-' then -exponentMagnitude else exponentMagnitude

/-- Where the point stands in the digits. -/
def point : ℤ := n.integer.length + n.exponent

def plain : List Char :=
  if n.point ≤ 0 then '0' :: '.' :: (List.replicate (-n.point).toNat '0' ++ n.digits)
  else if n.digits.length ≤ n.point then
    n.digits ++ List.replicate (n.point - n.digits.length).toNat '0'
  else n.digits.take n.point.toNat ++ '.' :: n.digits.drop n.point.toNat

/-- The plain spelling, its whole part without redundant zeros. -/
def expanded : List Char :=
  match splitPoint n.plain with
  | (whole, none) => withoutRedundantZeros whole
  | (whole, some rest) => withoutRedundantZeros whole ++ '.' :: rest

end NumberLexeme

def canonicalDecimalFromJsonNumberLexeme (lexeme : String) : Option String :=
  if lexeme = "" ∨ 256 < (codeUnits lexeme).length then none
  else
    (execNumberLexeme lexeme.toList).bind fun n =>
      if 256 < n.point ∨ n.point < -256 then none
      else
        (canonicalizeDecimalText (String.ofList n.expanded)).bind fun canonical =>
          if n.negative then if canonical = "0" then some "0" else none else some canonical

/-- `frac = decimal-point 1*DIGIT`, or none. -/
inductive FractionPart : List Char → Option (List Char) → Prop
  | absent : FractionPart [] none
  | present {digits : List Char} (hne : digits ≠ []) (hdigits : ∀ c ∈ digits, c.isDigit = true) :
      FractionPart ('.' :: digits) (some digits)

/-- `exp = e [ minus / plus ] 1*DIGIT`, or none. -/
inductive ExponentPart : List Char → Option (List Char) → Prop
  | absent : ExponentPart [] none
  | present {mark : Char} {text : List Char} (hmark : mark = 'e' ∨ mark = 'E')
      (hne : withoutSign text ≠ []) (hdigits : ∀ c ∈ withoutSign text, c.isDigit = true) :
      ExponentPart (mark :: text) (some text)

/-- `number = [ minus ] int [ frac ] [ exp ]`, as RFC 8259 has it, and its parts. -/
inductive JsonNumber : List Char → NumberLexeme → Prop
  | mk {negative : Bool} {integer fraction exponent : List Char}
      {fractionDigits exponentText : Option (List Char)}
      (hinteger : isCanonicalInteger integer = true) (hfraction : FractionPart fraction fractionDigits)
      (hexponent : ExponentPart exponent exponentText) :
      JsonNumber ((if negative then ['-'] else []) ++ (integer ++ (fraction ++ exponent)))
        ⟨negative,integer,fractionDigits,exponentText⟩

/-- The number denoted. -/
def NumberLexeme.value (n : NumberLexeme) : ℚ :=
  (if n.negative then -1 else 1) * ((Nat.ofDigitChars 10 n.integer 0 +
    Nat.ofDigitChars 10 (n.fraction.getD []) 0 / 10 ^ (n.fraction.getD []).length) * 10 ^ n.exponent)

def NumberLexeme.exponentDigits (n : NumberLexeme) : Nat :=
  (n.exponentText.elim [] withoutSign).length

variable {n : NumberLexeme} {text rest lexeme : List Char} {captured : Option (List Char)}

theorem FractionPart.digits (h : FractionPart text captured) :
    ∀ c ∈ captured.getD [], c.isDigit = true := by
  cases h with
  | absent => exact fun _ hc => absurd hc not_mem_nil
  | present _ hdigits => exact hdigits

theorem ExponentPart.head (h : ExponentPart text captured) :
    ∀ c ∈ text.head?, isAsciiDigit c = false ∧ c ≠ '.' := by
  intro c hc
  cases h with
  | absent => cases hc
  | present hmark =>
    obtain rfl := some.inj hc
    rcases hmark with rfl | rfl
    · decide
    · decide

theorem FractionPart.append_head {exponent : List Char} {exponentText : Option (List Char)}
    (h : FractionPart text captured) (hexponent : ExponentPart exponent exponentText) :
    ∀ c ∈ (text ++ exponent).head?, isAsciiDigit c = false := by
  intro c hc
  cases h with
  | absent => exact (hexponent.head c hc).1
  | present => exact some.inj hc ▸ rfl

theorem readFraction_sound (h : readFraction text = some (captured, rest)) :
    ∃ part, text = part ++ rest ∧ FractionPart part captured := by
  unfold readFraction at h
  split at h
  · rename_i rest'
    split_ifs at h with hne
    cases h
    refine ⟨_,?_,.present hne fun c hc => mem_takeWhile_imp hc⟩
    rw [cons_append,takeWhile_append_dropWhile]
  · cases h
    exact ⟨[],rfl,.absent⟩

theorem FractionPart.read (h : FractionPart text captured)
    (hrest : ∀ c ∈ rest.head?, isAsciiDigit c = false ∧ c ≠ '.') :
    readFraction (text ++ rest) = some (captured, rest) := by
  cases h with
  | absent =>
    rw [nil_append,readFraction]
    rintro tail rfl
    exact (hrest '.' rfl).2 rfl
  | present hne hdigits =>
    obtain ⟨htake,hdrop⟩ := takeWhile_digits hdigits fun c hc => (hrest c hc).1
    rw [cons_append,readFraction,htake,hdrop,if_neg hne]

theorem readExponentText_iff : readExponentText text = some captured ↔
    ExponentPart text captured ∧ (captured.elim [] withoutSign).length ≤ 4 := by
  constructor
  · intro h
    cases text with
    | nil =>
      cases h
      exact ⟨.absent,Nat.zero_le _⟩
    | cons mark text =>
      rw [readExponentText] at h
      split_ifs at h with hform
      cases h
      obtain ⟨hmark,hne,hlength,hdigits⟩ := hform
      exact ⟨.present hmark hne (all_eq_true.1 hdigits),hlength⟩
  · rintro ⟨hpart,hlength⟩
    cases hpart with
    | absent => rfl
    | present hmark hne hdigits =>
      rw [readExponentText,if_pos ⟨hmark,hne,hlength,all_eq_true.2 hdigits⟩]

theorem execNumberLexeme_sound (h : execNumberLexeme lexeme = some n) :
    JsonNumber lexeme n ∧ n.exponentDigits ≤ 4 := by
  unfold execNumberLexeme at h
  simp only at h
  split_ifs at h with hinteger
  obtain ⟨⟨fraction,rest⟩,hread,h⟩ := bind_eq_some_iff.1 h
  obtain ⟨exponentText,hread',rfl⟩ := map_eq_some_iff.1 h
  obtain ⟨part,hpart,hfraction⟩ := readFraction_sound hread
  obtain ⟨hexponent,hlength⟩ := readExponentText_iff.1 hread'
  have hunsigned := takeWhile_append_dropWhile (p := isAsciiDigit) (l := (readSign lexeme).2)
  have hlexeme : lexeme = (if (readSign lexeme).1 then ['-'] else []) ++ (readSign lexeme).2 := by
    unfold readSign
    split
    · rfl
    · rfl
  have hnumber := @JsonNumber.mk (readSign lexeme).1 _ _ _ _ _ (by simpa using hinteger) hfraction
    hexponent
  rw [← hpart,hunsigned,← hlexeme] at hnumber
  exact ⟨hnumber,hlength⟩

theorem JsonNumber.exec (h : JsonNumber lexeme n) (hlength : n.exponentDigits ≤ 4) :
    execNumberLexeme lexeme = some n := by
  cases h with
  | @mk negative integer fraction exponent fractionDigits exponentText hinteger hfraction hexponent =>
    have hdigits := canonicalInteger_digits hinteger
    have hsign : readSign ((if negative then ['-'] else []) ++
        (integer ++ (fraction ++ exponent))) = (negative, integer ++ (fraction ++ exponent)) := by
      cases negative with
      | true => rfl
      | false =>
        simp only [Bool.false_eq_true,if_false,nil_append]
        rw [readSign]
        intro rest heq
        rcases canonicalInteger_cases hinteger with rfl | ⟨c,tail,rfl,hdigit,-,-⟩
        · cases heq
        · obtain ⟨rfl,-⟩ := List.cons.inj heq
          exact absurd hdigit (by decide)
    obtain ⟨htake,hdrop⟩ := takeWhile_digits hdigits (hfraction.append_head hexponent)
    rw [execNumberLexeme,hsign]
    simp only [htake,hdrop,hinteger,Bool.not_true,Bool.false_eq_true,if_false,
      hfraction.read hexponent.head,bind_some,readExponentText_iff.2 ⟨hexponent,hlength⟩, map_some]

theorem JsonNumber.integer (h : JsonNumber lexeme n) : isCanonicalInteger n.integer = true := by
  cases h
  assumption

theorem JsonNumber.fraction (h : JsonNumber lexeme n) : ∀ c ∈ n.fraction.getD [], c.isDigit = true := by
  cases h with
  | mk _ hfraction => exact hfraction.digits

theorem JsonNumber.digits (h : JsonNumber lexeme n) : ∀ c ∈ n.digits, c.isDigit = true :=
  forall_mem_append.2 ⟨canonicalInteger_digits h.integer,h.fraction⟩

theorem JsonNumber.value_eq (n : NumberLexeme) : n.value = (if n.negative then -1 else 1) *
    (Nat.ofDigitChars 10 n.digits 0 * (10 : ℚ) ^ (n.point - n.digits.length)) := by
  have hpower : n.point - n.digits.length = n.exponent - (n.fraction.getD []).length := by
    rw [NumberLexeme.point,NumberLexeme.digits,length_append]
    push_cast
    omega
  rw [NumberLexeme.value,hpower,NumberLexeme.digits,ofDigitChars_append_eq,
    zpow_sub₀ (by decide),zpow_natCast]
  push_cast
  field_simp

theorem ofDigitChars_zeros_append (zeros : Nat) (digits : List Char) :
    Nat.ofDigitChars 10 (List.replicate zeros '0' ++ digits) 0 = Nat.ofDigitChars 10 digits 0 := by
  rw [Nat.ofDigitChars_append,Nat.ofDigitChars_replicate_zero,Nat.mul_zero]

/-- The point stands before the digits, behind them, or between them. -/
theorem splitPoint_plain (hne : n.digits ≠ []) (hdigits : ∀ c ∈ n.digits, c.isDigit = true) :
    ∃ whole rest, splitPoint n.plain = (whole, rest) ∧ whole ≠ [] ∧
      (∀ c ∈ whole, c.isDigit = true) ∧ (∀ tail ∈ rest, tail ≠ [] ∧ ∀ c ∈ tail, c.isDigit = true) ∧
      (Nat.ofDigitChars 10 (whole ++ rest.getD []) 0 : ℚ) / 10 ^ (rest.getD []).length =
        Nat.ofDigitChars 10 n.digits 0 * (10 : ℚ) ^ (n.point - n.digits.length) := by
  have hzeros (k : Nat) : ∀ c ∈ List.replicate k '0', c.isDigit = true :=
    fun c hc => eq_of_mem_replicate hc ▸ rfl
  have hpoint {whole : List Char} (h : ∀ c ∈ whole, c.isDigit = true) : ∀ c ∈ whole, c ≠ '.' :=
    fun c hc => isDigit_ne_point (h c hc)
  have hdivide {places : Nat} {power : ℤ} (h : power = -(places : ℤ)) (digits : Nat) :
      (digits : ℚ) / 10 ^ places = digits * (10 : ℚ) ^ power := by
    rw [h,zpow_neg,zpow_natCast,div_eq_mul_inv]
  unfold NumberLexeme.plain
  generalize n.digits = digits at *
  generalize n.point = point
  split_ifs with hbefore hbehind
  · have hone : ∀ c ∈ ['0'], c.isDigit = true := hzeros 1
    refine ⟨['0'],some (List.replicate (-point).toNat '0' ++ digits),
      splitPoint_point ['0'] (hpoint hone) _,cons_ne_nil _ _,hone,?_,?_⟩
    · intro tail htail
      obtain rfl := some.inj htail
      exact ⟨append_ne_nil_of_right_ne_nil _ hne,forall_mem_append.2 ⟨hzeros _,hdigits⟩⟩
    · rw [getD_some,← replicate_one,ofDigitChars_zeros_append,ofDigitChars_zeros_append]
      apply hdivide
      rw [length_append,length_replicate]
      push_cast
      omega
  · have hall := forall_mem_append.2 ⟨hdigits,hzeros (point - digits.length).toNat⟩
    refine ⟨_,none,splitPoint_of_noPoint _ (hpoint hall),append_ne_nil_of_left_ne_nil hne _,
      hall,by simp,?_⟩
    obtain ⟨zeros,hshift⟩ := Int.eq_ofNat_of_zero_le (sub_nonneg.2 hbehind)
    rw [getD_none,append_nil,ofDigitChars_append_zeros,hshift,Int.toNat_natCast,zpow_natCast]
    push_cast
    rw [length_nil,pow_zero,div_one,mul_comm]
  · have htake : ∀ c ∈ digits.take point.toNat, c.isDigit = true :=
      fun c hc => hdigits c (mem_of_mem_take hc)
    refine ⟨_,_,splitPoint_point _ (hpoint htake) _,?_,htake,?_,?_⟩
    · apply ne_nil_of_length_pos
      rw [length_take]
      omega
    · intro tail htail
      obtain rfl := some.inj htail
      refine ⟨?_,fun c hc => hdigits c (mem_of_mem_drop hc)⟩
      apply ne_nil_of_length_pos
      rw [length_drop]
      omega
    · rw [getD_some,take_append_drop]
      apply hdivide
      rw [length_drop]
      omega

theorem expanded_spec (h : JsonNumber lexeme n) : isPlainDecimal n.expanded = true ∧
    decimalValue (String.ofList n.expanded) =
      Nat.ofDigitChars 10 n.digits 0 * (10 : ℚ) ^ (n.point - n.digits.length) := by
  have hne : n.digits ≠ [] := by
    intro hnil
    have hinteger := h.integer
    rw [(append_eq_nil_iff.1 hnil).1] at hinteger
    cases hinteger
  obtain ⟨whole,rest,hsplit,hwhole,hdigits,hrest,hvalue⟩ := splitPoint_plain hne h.digits
  have hkept : ∀ c ∈ withoutRedundantZeros whole, c ≠ '.' :=
    fun c hc => isDigit_ne_point (hdigits c (mem_withoutRedundantZeros hc))
  have hinteger := canonicalInteger_withoutRedundantZeros hdigits hwhole
  rw [← hvalue,NumberLexeme.expanded,hsplit]
  cases rest with
  | none =>
    refine ⟨?_,?_⟩
    · rw [isPlainDecimal,splitPoint_of_noPoint _ hkept]
      exact hinteger
    · have hsame := ofDigitChars_withoutRedundantZeros whole []
      rw [append_nil] at hsame
      simp [decimalValue_integer hkept,hsame]
  | some tail =>
    obtain ⟨htail,hdigits'⟩ := hrest tail rfl
    refine ⟨?_,?_⟩
    · rw [isPlainDecimal,splitPoint_point _ hkept]
      simp only [hinteger,all_eq_true.2 hdigits',isEmpty_eq_false_iff.2 htail,
        Bool.not_false,Bool.and_self]
    · rw [decimalValue_fraction hkept,ofDigitChars_withoutRedundantZeros,getD_some]

theorem canonicalize_expanded (h : JsonNumber lexeme n) (hlength : n.expanded.length ≤ 256) :
    ∃ integer fraction, Spelled integer fraction ∧
      n.value = (if n.negative then -1 else 1) * decimalValue (spell integer fraction) ∧
      canonicalizeDecimalText (String.ofList n.expanded) =
        if integer.length + fraction.length ≤ 128 then some (spell integer fraction) else none := by
  obtain ⟨hplain,hvalue⟩ := expanded_spec h
  obtain ⟨integer,fraction,hspelled,hsame,hcanonical⟩ := canonicalizeDecimalText_plain
    (by rwa [String.toList_ofList])
    (by rwa [length_codeUnits_decimal (isPlainDecimal_chars hplain)])
  exact ⟨integer,fraction,hspelled,by rw [JsonNumber.value_eq,← hvalue,hsame],hcanonical⟩

theorem expanded_length (h : JsonNumber lexeme n) {decimal : String}
    (hdecimal : canonicalizeDecimalText (String.ofList n.expanded) = some decimal) :
    n.expanded.length ≤ 256 := by
  by_contra hlong
  have hchars := isPlainDecimal_chars (expanded_spec h).1
  rw [canonicalizeDecimalText,if_pos] at hdecimal
  · cases hdecimal
  · rw [length_codeUnits_decimal hchars]
    simp only [Bool.or_eq_true,decide_eq_true_eq]
    exact .inr (by omega)

theorem canonicalDecimalFromJsonNumberLexeme_sound {lexeme decimal : String}
    (h : canonicalDecimalFromJsonNumberLexeme lexeme = some decimal) :
    ∃ n, JsonNumber lexeme.toList n ∧ n.exponentDigits ≤ 4 ∧
      isCanonicalDecimal decimal 128 = true ∧ decimalValue decimal = n.value := by
  unfold canonicalDecimalFromJsonNumberLexeme at h
  split_ifs at h
  obtain ⟨n,hexec,h⟩ := bind_eq_some_iff.1 h
  by_cases hrange : 256 < n.point ∨ n.point < -256
  · rw [if_pos hrange] at h
    cases h
  rw [if_neg hrange] at h
  obtain ⟨canonical,hcanonical,h⟩ := bind_eq_some_iff.1 h
  obtain ⟨hnumber,hshort⟩ := execNumberLexeme_sound hexec
  obtain ⟨integer,fraction,hspelled,hvalue,hcase⟩ :=
    canonicalize_expanded hnumber (expanded_length hnumber hcanonical)
  rw [hcanonical] at hcase
  split_ifs at hcase with hdigits
  obtain rfl := some.inj hcase
  have hbounded := hspelled.isCanonicalDecimal_spell 128
  rw [decide_eq_true hdigits] at hbounded
  refine ⟨n,hnumber,hshort,?_⟩
  rw [hvalue]
  split_ifs at h ⊢ with hnegative hzero
  · obtain rfl := some.inj h
    rw [hzero] at hbounded ⊢
    exact ⟨hbounded,by rw [decimalValue_zero,mul_zero]⟩
  · obtain rfl := some.inj h
    exact ⟨hbounded,(one_mul _).symm⟩

theorem canonicalDecimalFromJsonNumberLexeme_complete {lexeme : String}
    (h : JsonNumber lexeme.toList n) (hlexeme : (codeUnits lexeme).length ≤ 256)
    (hvalue : 0 ≤ n.value) (hshort : n.exponentDigits ≤ 4) (hpoint : -256 ≤ n.point ∧ n.point ≤ 256)
    (hlength : n.expanded.length ≤ 256) :
    ∃ decimal, matchesCanonicalDecimal decimal = true ∧ decimalValue decimal = n.value ∧
      canonicalDecimalFromJsonNumberLexeme lexeme =
        if digitCount decimal ≤ 128 then some decimal else none := by
  obtain ⟨integer,fraction,hspelled,hsame,hcanonical⟩ := canonicalize_expanded h hlength
  have hne : lexeme ≠ "" := by
    rintro rfl
    have hexec := h.exec hshort
    cases hexec
  have hcount : digitCount (spell integer fraction) = integer.length + fraction.length := by
    rw [digitCount,hspelled.splitPoint_spell]
    split_ifs with hnil
    · rw [hnil]
      rfl
    · rfl
  have hrange : ¬(256 < n.point ∨ n.point < -256) := by omega
  have hguard : ¬(lexeme = "" ∨ 256 < (codeUnits lexeme).length) := by
    rw [not_or,not_lt]
    exact ⟨hne,hlexeme⟩
  rw [canonicalDecimalFromJsonNumberLexeme,if_neg hguard,h.exec hshort,bind_some, if_neg hrange,hcanonical]
  have hzero (hnegative : n.negative = true) : spell integer fraction = "0" := by
    rw [hnegative,if_pos rfl] at hsame
    have hnonneg := decimalValue_nonneg (spell integer fraction)
    exact canonicalDecimal_ext hspelled.canonical (by decide) (by rw [decimalValue_zero]; linarith)
  refine ⟨spell integer fraction,hspelled.canonical,?_,?_⟩
  · rw [hsame]
    split_ifs with hnegative
    · rw [hzero hnegative,decimalValue_zero,mul_zero]
    · exact (one_mul _).symm
  · rw [hcount]
    by_cases hdigits : integer.length + fraction.length ≤ 128
    · rw [if_pos hdigits,bind_some]
      split_ifs with hnegative htext
      · rw [htext]
      · exact absurd (hzero hnegative) htext
      · rfl
    · rw [if_neg hdigits]
      rfl

end Frontera.Monetary
