import Frontera.Text.SelfDelimiting

/-! `JSON.stringify` of a string and `String` of a safe integer, with the facts that let a
serialization built from them be read back: a string literal is prefix-free, an integer ends where
the digits end. -/

namespace Frontera.Text

open List

/-- The lower-case hexadecimal digit of `n % 16`. -/
def hexDigit (n : Nat) : Char := Nat.digitChar (n % 16)

/-- One character as `JSON.stringify` writes it inside a string literal. -/
def escapeChar (c : Char) : List Char :=
  if c = '"' then ['\\', '"']
  else if c = '\\' then ['\\', '\\']
  else if c = '\x08' then ['\\', 'b']
  else if c = '\x0c' then ['\\', 'f']
  else if c = '\n' then ['\\', 'n']
  else if c = '\r' then ['\\', 'r']
  else if c = '\t' then ['\\', 't']
  else if c.toNat < 32 then ['\\', 'u', '0', '0', hexDigit (c.toNat / 16), hexDigit c.toNat]
  else [c]

/-- `JSON.stringify` of a string. -/
def stringify (s : String) : String :=
  String.ofList ('"' :: (s.toList.flatMap escapeChar ++ ['"']))

private def hexValue (c : Char) : Nat :=
  if c.isDigit then c.toNat - '0'.toNat else c.toNat - 'a'.toNat + 10

private def unescape : List Char → Option (Char × List Char)
  | '\\' :: '"' :: rest => some ('"', rest)
  | '\\' :: '\\' :: rest => some ('\\', rest)
  | '\\' :: 'b' :: rest => some ('\x08', rest)
  | '\\' :: 'f' :: rest => some ('\x0c', rest)
  | '\\' :: 'n' :: rest => some ('\n', rest)
  | '\\' :: 'r' :: rest => some ('\r', rest)
  | '\\' :: 't' :: rest => some ('\t', rest)
  | '\\' :: 'u' :: _ :: _ :: high :: low :: rest =>
      some (Char.ofNat (16 * hexValue high + hexValue low), rest)
  | c :: rest => some (c, rest)
  | [] => none

private theorem hexValue_pair : ∀ n : Fin 32,
    16 * hexValue (hexDigit (n.val / 16)) + hexValue (hexDigit n.val) = n.val := by
  decide

/-- The escapes of two characters. -/
def shortEscapes : List (Char × Char) :=
  [('"', '"'), ('\\', '\\'), ('\x08', 'b'), ('\x0c', 'f'), ('\n', 'n'), ('\r', 'r'), ('\t', 't')]

theorem escapeChar_cases (c : Char) : (∃ d, (c, d) ∈ shortEscapes ∧ escapeChar c = ['\\', d]) ∨
      (c.toNat < 32 ∧ escapeChar c = ['\\', 'u', '0', '0', hexDigit (c.toNat / 16), hexDigit c.toNat]) ∨
      (c ≠ '"' ∧ c ≠ '\\' ∧ escapeChar c = [c]) := by
  by_cases hshort : ∃ d, (c, d) ∈ shortEscapes
  · obtain ⟨d,hd⟩ := hshort
    refine .inl ⟨d,hd,?_⟩
    simp only [shortEscapes,mem_cons,Prod.mk.injEq,not_mem_nil,or_false] at hd
    obtain ⟨rfl,rfl⟩ | ⟨rfl,rfl⟩ | ⟨rfl,rfl⟩ | ⟨rfl,rfl⟩ | ⟨rfl,rfl⟩ | ⟨rfl,rfl⟩ |
      ⟨rfl,rfl⟩ := hd <;> rfl
  · have hne : ∀ p ∈ shortEscapes, c ≠ p.1 := by
      rintro p hp rfl
      exact hshort ⟨p.2,hp⟩
    simp only [shortEscapes,forall_mem_cons,not_mem_nil] at hne
    obtain ⟨hquote,hslash,hb,hf,hn,hr,ht,-⟩ := hne
    have hescape : escapeChar c = if c.toNat < 32 then
        ['\\', 'u', '0', '0', hexDigit (c.toNat / 16), hexDigit c.toNat] else [c] := by
      rw [escapeChar,if_neg hquote,if_neg hslash,if_neg hb,if_neg hf,if_neg hn,if_neg hr, if_neg ht]
    by_cases hcontrol : c.toNat < 32
    · rw [if_pos hcontrol] at hescape
      exact .inr (.inl ⟨hcontrol,hescape⟩)
    · rw [if_neg hcontrol] at hescape
      exact .inr (.inr ⟨hquote,hslash,hescape⟩)

private theorem unescape_escapeChar (c : Char) (rest : List Char) :
    unescape (escapeChar c ++ rest) = some (c, rest) := by
  obtain ⟨d,hd,hescape⟩ | ⟨hcontrol,hescape⟩ | ⟨-,hslash,hescape⟩ := escapeChar_cases c
  · rw [hescape]
    simp only [shortEscapes,mem_cons,Prod.mk.injEq,not_mem_nil,or_false] at hd
    obtain ⟨rfl,rfl⟩ | ⟨rfl,rfl⟩ | ⟨rfl,rfl⟩ | ⟨rfl,rfl⟩ | ⟨rfl,rfl⟩ | ⟨rfl,rfl⟩ |
      ⟨rfl,rfl⟩ := hd <;> rfl
  · have hvalue := hexValue_pair ⟨c.toNat,hcontrol⟩
    have hread : unescape (escapeChar c ++ rest) =
        some (Char.ofNat (16 * hexValue (hexDigit (c.toNat / 16)) + hexValue (hexDigit c.toNat)),
          rest) := by
      rw [hescape]
      rfl
    simp only at hvalue
    rw [hread,hvalue,Char.ofNat_toNat]
  · rw [hescape,singleton_append,unescape]
    all_goals
      intros
      exact absurd ‹c = '\\'› hslash

private theorem escapeChar_start (c : Char) : ∃ d rest, escapeChar c = d :: rest ∧ d ≠ '"' := by
  obtain ⟨d,-,hescape⟩ | ⟨-,hescape⟩ | ⟨hquote,-,hescape⟩ := escapeChar_cases c
  · exact ⟨'\\',[d],hescape,by decide⟩
  · exact ⟨'\\',_,hescape,by decide⟩
  · exact ⟨c,[],hescape,hquote⟩

theorem escapeChar_prefixFree : PrefixFree escapeChar :=
  PrefixFree.of_decode unescape unescape_escapeChar

theorem stringify_prefixFree : PrefixFree fun s => (stringify s).toList := by
  intro a b r s heq
  simp only [stringify,String.toList_ofList,cons_append,List.cons.injEq,true_and] at heq
  obtain ⟨hword,hrest⟩ :=
    escapeChar_prefixFree.flatMap_stop '"' escapeChar_start a.toList b.toList r s heq
  exact ⟨String.toList_injective hword,hrest⟩

variable {a b r s lit : String} {m n : Int}

@[simp] theorem stringify_append_inj : stringify a ++ r = stringify b ++ s ↔ a = b ∧ r = s :=
  prefixFree_string stringify_prefixFree

@[simp] theorem stringify_inj : stringify a = stringify b ↔ a = b := by
  simpa using stringify_append_inj (r := "") (s := "")

theorem stringify_injective : Function.Injective stringify := fun _ _ => stringify_inj.1

theorem toList_stringify (s : String) :
    (stringify s).toList = '"' :: (s.toList.flatMap escapeChar ++ ['"']) := by
  simp [stringify]

/-- The text begins, and not with a quotation mark. -/
def opensUnquoted (text : String) : Bool :=
  match text.toList with
  | [] => false
  | c :: _ => c != '"'

theorem stringify_ne_unquoted (h : opensUnquoted lit = true) (r s : String) :
    stringify a ++ r ≠ lit ++ s := by
  intro heq
  have hlist : (stringify a).toList ++ r.toList = lit.toList ++ s.toList := by
    rw [← String.toList_append,← String.toList_append,heq]
  unfold opensUnquoted at h
  cases hcase : lit.toList with
  | nil => simp [hcase] at h
  | cons c rest =>
    rw [hcase,toList_stringify] at hlist
    simp only [cons_append,List.cons.injEq] at hlist
    rw [hcase,← hlist.1] at h
    cases h

/-- The characters of the decimal text of an integer. -/
def isIntegerChar (c : Char) : Bool := c.isDigit || c == '-'

private theorem nat_toString_chars (n : Nat) : ∀ c ∈ (toString n).toList, c.isDigit = true := by
  intro c hc
  rw [Nat.toString_eq_repr,Nat.toList_repr] at hc
  exact Nat.isDigit_of_mem_toDigits (by decide) (by decide) hc

theorem integer_toString_chars (n : Int) : ∀ c ∈ (toString n).toList, isIntegerChar c = true := by
  intro c hc
  cases n with
  | ofNat n =>
    have hdigit := nat_toString_chars n c hc
    simp [isIntegerChar,hdigit]
  | negSucc n =>
    have htext : toString (Int.negSucc n) = "-" ++ toString (n + 1) := rfl
    rw [htext,String.toList_append,mem_append] at hc
    rcases hc with hminus | hdigits
    · have : c = '-' := by simpa using hminus
      simp [isIntegerChar,this]
    · simp [isIntegerChar,nat_toString_chars _ c hdigits]

private theorem nat_toString_injective {m n : Nat} (h : toString m = toString n) : m = n := by
  have hdigits : Nat.toDigits 10 m = Nat.toDigits 10 n := by
    rw [← Nat.toList_repr,← Nat.toList_repr,← Nat.toString_eq_repr,← Nat.toString_eq_repr,h]
  rw [← Nat.ofDigitChars_ten_toDigits (n := m),hdigits,Nat.ofDigitChars_ten_toDigits]

private theorem nat_toString_ne_minus (m n : Nat) : toString m ≠ "-" ++ toString n := by
  intro h
  have hminus := nat_toString_chars m '-' (by rw [h]; simp)
  revert hminus
  decide

theorem integer_toString_injective (h : toString m = toString n) : m = n := by
  cases m with
  | ofNat m =>
    cases n with
    | ofNat n => exact congrArg Int.ofNat (nat_toString_injective h)
    | negSucc n => exact absurd h (nat_toString_ne_minus m (n + 1))
  | negSucc m =>
    cases n with
    | ofNat n => exact absurd h.symm (nat_toString_ne_minus n (m + 1))
    | negSucc n =>
      have htail : toString (m + 1) = toString (n + 1) := (String.append_right_inj "-").1 h
      have hsucc := nat_toString_injective htail
      exact congrArg Int.negSucc (by omega)

/-- The text does not begin with a character that could continue an integer. -/
def endsInteger (text : String) : Bool :=
  match text.toList with
  | [] => false
  | c :: _ => !isIntegerChar c

theorem integer_append_inj {lit' : String} (hlit : endsInteger lit = true)
    (hlit' : endsInteger lit' = true) (heq : toString n ++ (lit ++ r) = toString m ++ (lit' ++ s)) :
    n = m ∧ lit ++ r = lit' ++ s := by
  have hstops : ∀ {l t : String}, endsInteger l = true → Stops isIntegerChar (l.toList ++ t.toList) := by
    intro l t hl c rest hc
    unfold endsInteger at hl
    cases hcase : l.toList with
    | nil => simp [hcase] at hl
    | cons d tail =>
      simp only [hcase,cons_append,List.cons.injEq] at hc hl
      rw [← hc.1]
      simpa using hl
  have hlist : (toString n).toList ++ (lit.toList ++ r.toList) =
      (toString m).toList ++ (lit'.toList ++ s.toList) := by
    simpa [String.toList_append] using congrArg String.toList heq
  obtain ⟨hnum,hrest⟩ := run_append_inj (integer_toString_chars n) (integer_toString_chars m)
    (hstops hlit) (hstops hlit') hlist
  refine ⟨integer_toString_injective (String.toList_injective hnum),String.toList_injective ?_⟩
  simpa [String.toList_append] using hrest

theorem integer_comma_inj : toString n ++ ("," ++ r) = toString m ++ ("," ++ s) ↔ n = m ∧ r = s := by
  constructor
  · intro h
    obtain ⟨hnm,hrest⟩ := integer_append_inj (by decide) (by decide) h
    exact ⟨hnm,(String.append_right_inj _).1 hrest⟩
  · rintro ⟨rfl,rfl⟩
    rfl

theorem integer_brace_inj : toString n ++ ("\x7d" ++ r) = toString m ++ ("\x7d" ++ s) ↔ n = m ∧ r = s := by
  constructor
  · intro h
    obtain ⟨hnm,hrest⟩ := integer_append_inj (by decide) (by decide) h
    exact ⟨hnm,(String.append_right_inj _).1 hrest⟩
  · rintro ⟨rfl,rfl⟩
    rfl

theorem integer_ne_stringify (n : Int) (a r s : String) : toString n ++ r ≠ stringify a ++ s := by
  intro heq
  have hlist : (toString n).toList ++ r.toList = (stringify a).toList ++ s.toList := by
    rw [← String.toList_append,← String.toList_append,heq]
  rw [toList_stringify] at hlist
  cases hdigits : (toString n).toList with
  | nil =>
    have hempty : toString n = "" := String.toList_injective (by simpa using hdigits)
    have hne : ∀ k : Nat, (toString k : String) ≠ "" := by
      intro k hk
      have : (Nat.toDigits 10 k) = [] := by
        rw [← Nat.toList_repr,← Nat.toString_eq_repr,hk]; rfl
      exact Nat.toDigits_ne_nil this
    cases n with
    | ofNat k => exact hne k hempty
    | negSucc k =>
      have htext : toString (Int.negSucc k) = "-" ++ toString (k + 1) := rfl
      rw [htext] at hempty
      simpa using congrArg String.toList hempty
  | cons c rest =>
    rw [hdigits] at hlist
    simp only [cons_append,List.cons.injEq] at hlist
    have hc := integer_toString_chars n c (by rw [hdigits]; simp)
    rw [hlist.1] at hc
    revert hc
    decide

end Frontera.Text
