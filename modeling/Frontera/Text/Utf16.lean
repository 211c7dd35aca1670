import Mathlib.Data.List.Basic

/-! A text of the host language is any sequence of 16-bit units, a lone surrogate included.
`JSON.stringify` writes such a text with the lone ones escaped, so that no two texts have the same
literal. -/

namespace Frontera.Text

open List

abbrev Utf16 := List UInt16

/-- The code unit of a character of the basic plane. -/
def unit (c : Char) : UInt16 := UInt16.ofNat c.toNat

/-- A text of characters of the basic plane. -/
def utf16 (s : String) : Utf16 := s.toList.map unit

namespace Utf16

def isHighSurrogate (u : UInt16) : Bool := 0xD800 ≤ u && u ≤ 0xDBFF

def isLowSurrogate (u : UInt16) : Bool := 0xDC00 ≤ u && u ≤ 0xDFFF

/-- The lower-case hexadecimal digit of `n % 16`. -/
def hexUnit (n : Nat) : UInt16 := unit (Nat.digitChar (n % 16))

def hexValue (u : UInt16) : Nat :=
  if u ≤ unit '9' then u.toNat - (unit '0').toNat else u.toNat - (unit 'a').toNat + 10

/-- `\uXXXX` -/
def unicodeEscape (u : UInt16) : Utf16 :=
  [unit '\\', unit 'u', hexUnit (u.toNat / 4096), hexUnit (u.toNat / 256), hexUnit (u.toNat / 16),
    hexUnit u.toNat]

/-- The letter behind the backslash in the escapes of two units. -/
def shortEscapes : List (UInt16 × UInt16) :=
  [(unit '"', unit '"'), (unit '\\', unit '\\'), (8, unit 'b'), (12, unit 'f'), (10, unit 'n'),
    (13, unit 'r'), (9, unit 't')]

/-- One unit that is no part of a surrogate pair, as it stands inside a literal. -/
def escapeUnit (u : UInt16) : Utf16 :=
  match shortEscapes.find? fun escape => escape.1 == u with
  | some escape => [unit '\\', escape.2]
  | none => if u < 32 || isHighSurrogate u || isLowSurrogate u then unicodeEscape u else [u]

/-- `QuoteJSONString`, without the quotation marks. -/
def escapeUnits : Utf16 → Utf16
  | [] => []
  | [u] => escapeUnit u
  | u :: v :: rest =>
      if isHighSurrogate u && isLowSurrogate v then u :: v :: escapeUnits rest
      else escapeUnit u ++ escapeUnits (v :: rest)

/-- `JSON.stringify` of a string. -/
def quote (s : Utf16) : Utf16 := unit '"' :: (escapeUnits s ++ [unit '"'])

/-- The units of a literal after its opening quotation mark, up to its closing one. -/
def readUnits : Utf16 → Option (Utf16 × Utf16)
  | [] => none
  | u :: rest =>
      if u = unit '"' then some ([], rest)
      else if u = unit '\\' then
        match rest with
        | [] => none
        | e :: rest =>
            if e = unit 'u' then
              match rest with
              | a :: b :: c :: d :: rest =>
                  (readUnits rest).map fun p => (UInt16.ofNat (4096 * hexValue a +
                    256 * hexValue b + 16 * hexValue c + hexValue d) :: p.1, p.2)
              | _ => none
            else
              match shortEscapes.find? fun escape => escape.2 == e with
              | some escape => (readUnits rest).map fun p => (escape.1 :: p.1, p.2)
              | none => none
      else (readUnits rest).map fun p => (u :: p.1, p.2)

private theorem hexValue_hexUnit (n : Nat) : hexValue (hexUnit n) = n % 16 := by
  have hall : ∀ n : Fin 16, hexValue (hexUnit n) = n := by decide
  have hn := hall ⟨n % 16,Nat.mod_lt _ (by decide)⟩
  rwa [hexUnit,Nat.mod_mod] at hn

private theorem readUnits_quote (rest : Utf16) : readUnits (unit '"' :: rest) = some ([], rest) := by
  rw [readUnits.eq_def]
  exact if_pos rfl

private theorem readUnits_raw {u : UInt16} (hquote : u ≠ unit '"') (hslash : u ≠ unit '\\')
    (text : Utf16) : readUnits (u :: text) = (readUnits text).map fun p => (u :: p.1, p.2) := by
  rw [readUnits.eq_def]
  exact (if_neg hquote).trans (if_neg hslash)

private theorem readUnits_unicodeEscape (u : UInt16) (text : Utf16) :
    readUnits (unicodeEscape u ++ text) = (readUnits text).map fun p => (u :: p.1, p.2) := by
  have hu := u.toNat_lt
  have hvalue : UInt16.ofNat (4096 * (u.toNat / 4096 % 16) + 256 * (u.toNat / 256 % 16) +
      16 * (u.toNat / 16 % 16) + u.toNat % 16) = u := by
    have hsum : 4096 * (u.toNat / 4096 % 16) + 256 * (u.toNat / 256 % 16) +
      16 * (u.toNat / 16 % 16) + u.toNat % 16 = u.toNat := by omega
    rw [hsum,UInt16.ofNat_toNat]
  simp only [unicodeEscape,cons_append,nil_append]
  rw [readUnits.eq_def]
  refine (if_neg (by decide)).trans ((if_pos rfl).trans ?_)
  simp only [if_true,hexValue_hexUnit,hvalue]

private theorem readUnits_escapeUnit (u : UInt16) (text : Utf16) :
    readUnits (escapeUnit u ++ text) = (readUnits text).map fun p => (u :: p.1, p.2) := by
  rw [escapeUnit]
  cases hfind : shortEscapes.find? fun escape => escape.1 == u with
  | some escape =>
    have hmem := mem_of_find?_eq_some hfind
    obtain rfl : escape.1 = u := by simpa using List.find?_some hfind
    have hback : (shortEscapes.all fun escape => decide (escape.2 ≠ unit 'u' ∧
        shortEscapes.find? (fun other => other.2 == escape.2) = some escape)) = true := by decide
    obtain ⟨hu,hfound⟩ := of_decide_eq_true (all_eq_true.1 hback escape hmem)
    simp only [cons_append,nil_append]
    rw [readUnits.eq_def]
    refine (if_neg (by decide)).trans ((if_pos rfl).trans ?_)
    simp only [hu,if_false,hfound]
  | none =>
    have hnone : ∀ escape ∈ shortEscapes, escape.1 ≠ u := by
      simpa using List.find?_eq_none.1 hfind
    simp only
    split_ifs
    · exact readUnits_unicodeEscape u text
    · have hquote := hnone (unit '"', unit '"') (by decide)
      have hslash := hnone (unit '\\', unit '\\') (by decide)
      exact readUnits_raw hquote.symm hslash.symm text

theorem surrogate_ne {u v : UInt16} (hu : isHighSurrogate u = true ∨ isLowSurrogate u = true)
    (hv : v < 128) : u ≠ v := by
  rintro rfl
  simp only [isHighSurrogate,isLowSurrogate,Bool.and_eq_true,decide_eq_true_eq,
    UInt16.le_iff_toNat_le] at hu
  rw [UInt16.lt_iff_toNat_lt] at hv
  simp at hu hv
  omega

theorem readUnits_escapeUnits (s rest : Utf16) :
    readUnits (escapeUnits s ++ unit '"' :: rest) = some (s, rest) := by
  induction s using escapeUnits.induct with
  | case1 => rw [escapeUnits,nil_append,readUnits_quote]
  | case2 u =>
    rw [escapeUnits,readUnits_escapeUnit,readUnits_quote]
    rfl
  | case3 u v s hpair ih =>
    have hsurrogates := Bool.and_eq_true_iff.1 hpair
    rw [escapeUnits,if_pos hpair,cons_append,cons_append,
      readUnits_raw (surrogate_ne (Or.inl hsurrogates.1) (by decide))
        (surrogate_ne (Or.inl hsurrogates.1) (by decide)),
      readUnits_raw (surrogate_ne (Or.inr hsurrogates.2) (by decide))
        (surrogate_ne (Or.inr hsurrogates.2) (by decide)),ih]
    rfl
  | case4 u v s hpair ih =>
    rw [escapeUnits,if_neg hpair,append_assoc,readUnits_escapeUnit,ih]
    rfl

end Utf16

end Frontera.Text
