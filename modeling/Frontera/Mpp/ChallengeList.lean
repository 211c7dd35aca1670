import Mathlib.Data.List.TakeWhile
import Frontera.Mpp.Challenges

/-! A list of challenges is read back from any of its spellings, and the values of two fields joined
by a comma are read as the challenges of the one and then those of the other. -/

namespace Frontera.Mpp

open List

def isLowerTchar (c : Char) : Bool := isTchar c && c.toLower == c

/-- Latin-1 without control characters except the tab. -/
def isValueChar (c : Char) : Bool := isQuotedPairChar c

/-- A value with its quotation marks and backslashes escaped. -/
def escapeValue (value : List Char) : List Char :=
  value.flatMap fun c => if c = '"' ∨ c = '\\' then ['\\', c] else [c]

/-- A parameter as a quoted string. -/
inductive SpellsParam : List Char × List Char → List Char → Prop
  | mk {name value before after : List Char} (hname : name ≠ [])
      (hlower : ∀ c ∈ name, isLowerTchar c = true) (hvalue : ∀ c ∈ value, isValueChar c = true)
      (hbefore : ∀ c ∈ before, isOws c = true) (hafter : ∀ c ∈ after, isOws c = true) :
      SpellsParam (name, value)
        (name ++ (before ++ '=' :: (after ++ '"' :: (escapeValue value ++ ['"']))))

/-- Parameters with white space and empty elements between them. -/
inductive SpellsParams : List (List Char × List Char) → List Char → Prop
  | one {param : List Char × List Char} {text : List Char} (h : SpellsParam param text) :
      SpellsParams [param] text
  | cons {param : List Char × List Char} {params : List (List Char × List Char)}
      {text before between rest : List Char} (h : SpellsParam param text)
      (hbefore : ∀ c ∈ before, isOws c = true) (hbetween : ∀ c ∈ between, isElementChar c = true)
      (hrest : SpellsParams params rest) :
      SpellsParams (param :: params) (text ++ (before ++ ',' :: (between ++ rest)))

inductive SpellsChallenge : RawAuthChallenge → List Char → Prop
  | bare {scheme : List Char} (hne : scheme ≠ []) (hscheme : ∀ c ∈ scheme, isTchar c = true) :
      SpellsChallenge ⟨scheme,[],none⟩ scheme
  | token68 {scheme space token : List Char} (padding : Nat) (hne : scheme ≠ [])
      (hscheme : ∀ c ∈ scheme, isTchar c = true) (hspace : ∀ c ∈ space, isOws c = true)
      (htoken : token ≠ []) (hchars : ∀ c ∈ token, isToken68Char c = true) :
      SpellsChallenge ⟨scheme,[],some (token ++ List.replicate padding '=')⟩
        (scheme ++ ' ' :: (space ++ (token ++ List.replicate padding '=')))
  | params {scheme space text : List Char} {params : List (List Char × List Char)}
      (hne : scheme ≠ []) (hscheme : ∀ c ∈ scheme, isTchar c = true)
      (hspace : ∀ c ∈ space, isOws c = true) (hparams : SpellsParams params text) :
      SpellsChallenge ⟨scheme,params,none⟩ (scheme ++ ' ' :: (space ++ text))

/-- Challenges with white space and empty elements around them, and a comma between any two. -/
inductive SpellsChallenges : List RawAuthChallenge → List Char → Prop
  | nil {elements : List Char} (h : ∀ c ∈ elements, isElementChar c = true) : SpellsChallenges [] elements
  | cons {challenge : RawAuthChallenge} {challenges : List RawAuthChallenge}
      {before text after rest : List Char} (hbefore : ∀ c ∈ before, isElementChar c = true)
      (h : SpellsChallenge challenge text) (hafter : ∀ c ∈ after, isOws c = true)
      (hend : atEnd rest = true) (hrest : SpellsChallenges challenges rest) :
      SpellsChallenges (challenge :: challenges) (before ++ (text ++ (after ++ rest)))

/-- The limits on one challenge. -/
def RawAuthChallenge.WithinLimits (challenge : RawAuthChallenge) : Prop :=
  challenge.params.length ≤ maxParams ∧ ∀ param ∈ challenge.params, param.2.length ≤ maxParamValueLength

variable {p : Char → Bool} {c : Char}

theorem run_append {text rest : List Char} (hrest : ∀ c ∈ rest.head?, p c = false) :
    (text ++ rest).takeWhile p = text.takeWhile p ∧
      (text ++ rest).dropWhile p = text.dropWhile p ++ rest := by
  induction text with
  | nil =>
    cases rest with
    | nil => exact ⟨rfl,rfl⟩
    | cons d rest =>
      have hd : ¬ p d = true := Bool.eq_false_iff.1 (hrest d rfl)
      rw [nil_append,takeWhile_cons_of_neg hd,dropWhile_cons_of_neg hd]
      exact ⟨rfl,rfl⟩
  | cons d text ih =>
    rw [cons_append]
    by_cases hd : p d = true
    · rw [takeWhile_cons_of_pos hd,takeWhile_cons_of_pos hd,
        dropWhile_cons_of_pos hd,dropWhile_cons_of_pos hd,ih.1,ih.2]
      exact ⟨rfl,rfl⟩
    · rw [takeWhile_cons_of_neg hd,takeWhile_cons_of_neg hd,
        dropWhile_cons_of_neg hd,dropWhile_cons_of_neg hd]
      exact ⟨rfl,rfl⟩

theorem run_stop (hc : p c = false) (text rest : List Char) :
    (text ++ c :: rest).takeWhile p = text.takeWhile p ∧
      (text ++ c :: rest).dropWhile p = text.dropWhile p ++ c :: rest :=
  run_append fun d hd => by rwa [← Option.some.inj hd]

theorem takeWhile_block {block rest : List Char} (h : ∀ c ∈ block, p c = true)
    (hrest : ∀ c ∈ rest.head?, p c = false) :
    (block ++ rest).takeWhile p = block ∧ (block ++ rest).dropWhile p = rest := by
  obtain ⟨htake,hdrop⟩ := @run_append p block rest hrest
  rw [htake,hdrop,takeWhile_eq_self_iff.2 h,dropWhile_eq_nil_iff.2 h]
  exact ⟨rfl,rfl⟩

theorem takeWhile_block_stop {block : List Char} (h : ∀ c ∈ block, p c = true) (hc : p c = false)
    (rest : List Char) :
    (block ++ c :: rest).takeWhile p = block ∧ (block ++ c :: rest).dropWhile p = c :: rest :=
  takeWhile_block h fun d hd => by rwa [← Option.some.inj hd]

theorem isTchar_ows {c : Char} (h : isOws c = true) : isTchar c = false := by
  simp only [isOws,Bool.or_eq_true,beq_iff_eq] at h
  rcases h with rfl | rfl <;> decide

theorem isElementChar_tchar {c : Char} (h : isTchar c = true) : isElementChar c = false := by
  cases helement : isElementChar c with
  | false => rfl
  | true =>
    simp only [isElementChar,isOws,Bool.or_eq_true,beq_iff_eq] at helement
    rcases helement with (rfl | rfl) | rfl <;> revert h <;> decide

theorem atEnd_cases {rest : List Char} (h : atEnd rest = true) :
    rest = [] ∨ ∃ more, rest = ',' :: more := by
  cases rest with
  | nil => exact .inl rfl
  | cons c more =>
    rw [atEnd,beq_iff_eq] at h
    exact .inr ⟨more,by rw [h]⟩

theorem readQuoted_quote (rest text : List Char) : readQuoted ('"' :: rest) text = .ok (text, rest) := by
  rw [readQuoted.eq_def]
  simp only [if_true]

theorem readQuoted_pair (next : Char) (rest text : List Char) : readQuoted ('\\' :: next :: rest) text =
      if isQuotedPairChar next = false then .error "invalid quoted-pair"
      else if (text ++ [next]).length > maxParamValueLength then .error "parameter value too long"
      else readQuoted rest (text ++ [next]) := by
  rw [readQuoted.eq_def]
  simp only [if_neg (by decide : ¬ '\\' = '"'),if_true]

theorem readQuoted_qdtext {c : Char} (hquote : c ≠ '"') (hpair : c ≠ '\\') (rest text : List Char) :
    readQuoted (c :: rest) text = if isQdtext c = false then .error "invalid qdtext"
      else if (text ++ [c]).length > maxParamValueLength then .error "parameter value too long"
      else readQuoted rest (text ++ [c]) := by
  rw [readQuoted.eq_def]
  simp only [if_neg hquote,if_neg hpair]

theorem isQdtext_value {c : Char} (h : isValueChar c = true) (hquote : c ≠ '"') (hpair : c ≠ '\\') :
    isQdtext c = true := by
  have hquote' : c.toNat ≠ 0x22 := fun heq => hquote (Char.toNat_inj.1 heq)
  have hpair' : c.toNat ≠ 0x5c := fun heq => hpair (Char.toNat_inj.1 heq)
  simp only [isValueChar,isQuotedPairChar,Bool.or_eq_true,beq_iff_eq,decide_eq_true_eq] at h
  simp only [isQdtext,Bool.or_eq_true,beq_iff_eq,decide_eq_true_eq]
  omega

theorem readQuoted_escapeValue {value : List Char} (hvalue : ∀ c ∈ value, isValueChar c = true)
    (rest : List Char) : ∀ text : List Char, (text ++ value).length ≤ maxParamValueLength →
      readQuoted (escapeValue value ++ '"' :: rest) text = .ok (text ++ value, rest) := by
  induction value with
  | nil =>
    intro text _
    rw [escapeValue,flatMap_nil,nil_append,readQuoted_quote,append_nil]
  | cons c value ih =>
    intro text hlength
    have hc := hvalue c mem_cons_self
    have hvalue' : ∀ d ∈ value, isValueChar d = true :=
      fun d hd => hvalue d (mem_cons_of_mem _ hd)
    have happend : text ++ c :: value = text ++ [c] ++ value := by simp
    rw [happend] at hlength ⊢
    have hrest := ih hvalue' (text ++ [c]) hlength
    have hshort : ¬ (text ++ [c]).length > maxParamValueLength := by
      rw [length_append] at hlength
      omega
    rw [escapeValue,flatMap_cons,← escapeValue]
    by_cases hescaped : c = '"' ∨ c = '\\'
    · have hpair : ¬ isQuotedPairChar c = false := by simpa [isValueChar] using hc
      rw [if_pos hescaped,cons_append,cons_append,singleton_append,
        cons_append,readQuoted_pair,if_neg hpair,if_neg hshort,hrest]
    · rw [not_or] at hescaped
      rw [if_neg (not_or.2 hescaped),singleton_append,cons_append, readQuoted_qdtext hescaped.1 hescaped.2,
        if_neg (by rw [isQdtext_value hc hescaped.1 hescaped.2]; decide),if_neg hshort,hrest]

theorem isTchar_lower {c : Char} (h : isLowerTchar c = true) : isTchar c = true ∧ c.toLower = c := by
  rw [isLowerTchar,Bool.and_eq_true,beq_iff_eq] at h
  exact h

theorem SpellsParam.split {param : List Char × List Char} {text : List Char}
    (h : SpellsParam param text) (rest : List Char) :
    (text ++ rest).takeWhile isTchar = param.1 ∧ ∃ after, (∀ c ∈ after, isOws c = true) ∧
      skipOws ((text ++ rest).dropWhile isTchar) =
        '=' :: (after ++ '"' :: (escapeValue param.2 ++ '"' :: rest)) := by
  cases h with
  | @mk name value before after hname hlower hvalue hbefore hafter =>
    have htchar : ∀ c ∈ name, isTchar c = true := fun c hc => (isTchar_lower (hlower c hc)).1
    have htext : name ++ (before ++ '=' :: (after ++ '"' :: (escapeValue value ++ ['"']))) ++ rest =
        name ++ (before ++ '=' :: (after ++ '"' :: (escapeValue value ++ '"' :: rest))) := by simp
    have hblock := @takeWhile_block isTchar name (before ++ '=' :: (after ++ '"' ::
      (escapeValue value ++ '"' :: rest))) htchar (by
        intro c hc
        cases before with
        | nil =>
          rw [← Option.some.inj hc]
          rfl
        | cons d before =>
          rw [← Option.some.inj hc]
          exact isTchar_ows (hbefore d mem_cons_self))
    rw [htext,hblock.1,hblock.2]
    exact ⟨rfl,after,hafter,(takeWhile_block_stop hbefore rfl _).2⟩

theorem SpellsParam.name_ne {param : List Char × List Char} {text : List Char}
    (h : SpellsParam param text) : param.1 ≠ [] ∧ param.1.map Char.toLower = param.1 ∧
      ∀ c ∈ param.2, isValueChar c = true := by
  cases h with
  | mk hname hlower hvalue _ _ =>
    refine ⟨hname,?_,hvalue⟩
    rw [map_congr_left fun c hc => (isTchar_lower (hlower c hc)).2,map_id']

theorem SpellsParam.starts {param : List Char × List Char} {text : List Char}
    (h : SpellsParam param text) (rest : List Char) : paramStartsAt (text ++ rest) = true := by
  obtain ⟨htake,after,hafter,hdrop⟩ := h.split rest
  have hskip : skipOws (after ++ '"' :: (escapeValue param.2 ++ '"' :: rest)) =
      '"' :: (escapeValue param.2 ++ '"' :: rest) := (takeWhile_block_stop hafter rfl _).2
  rw [paramStartsAt,htake,if_neg h.name_ne.1,hdrop]
  simp only [hskip]
  rfl

theorem SpellsParam.read {param : List Char × List Char} {text : List Char}
    (h : SpellsParam param text) (hlength : param.2.length ≤ maxParamValueLength)
    (rest : List Char) : readParam (text ++ rest) = .ok (param, rest) := by
  obtain ⟨htake,after,hafter,hdrop⟩ := h.split rest
  obtain ⟨-,hlower,hvalue⟩ := h.name_ne
  have hskip : skipOws (after ++ '"' :: (escapeValue param.2 ++ '"' :: rest)) =
      '"' :: (escapeValue param.2 ++ '"' :: rest) := (takeWhile_block_stop hafter rfl _).2
  have hquoted := readQuoted_escapeValue hvalue rest [] (by simpa using hlength)
  rw [readParam,hdrop,htake,hlower]
  simp only [hskip,readParamValue,hquoted,nil_append]
  rw [if_neg (Nat.not_lt.2 hlength)]

theorem SpellsParam.head {param : List Char × List Char} {text : List Char}
    (h : SpellsParam param text) : ∃ c rest, text = c :: rest ∧ isTchar c = true := by
  cases h with
  | @mk name value before after hname hlower _ _ _ =>
    obtain ⟨c,name,rfl⟩ := exists_cons_of_ne_nil hname
    exact ⟨c,_,rfl,(isTchar_lower (hlower c mem_cons_self)).1⟩

theorem SpellsParams.head {params : List (List Char × List Char)} {text : List Char}
    (h : SpellsParams params text) :
    (∃ c rest, text = c :: rest ∧ isTchar c = true) ∧ ∀ rest, paramStartsAt (text ++ rest) = true := by
  cases h with
  | one h => exact ⟨h.head,h.starts⟩
  | cons h _ _ _ =>
    obtain ⟨c,text,rfl,hc⟩ := h.head
    refine ⟨⟨c,_,rfl,hc⟩,fun rest => ?_⟩
    rw [append_assoc]
    exact h.starts _

theorem skipElements_block {block rest : List Char} {c : Char}
    (h : ∀ d ∈ block, isElementChar d = true) (hc : isTchar c = true) :
    skipElements (block ++ c :: rest) = c :: rest :=
  (takeWhile_block_stop h (isElementChar_tchar hc) rest).2

theorem SpellsParams.read {params : List (List Char × List Char)} {text : List Char}
    (h : SpellsParams params text) {after rest : List Char} (hafter : ∀ c ∈ after, isOws c = true)
    (hend : atEnd rest = true) (hnext : paramStartsAt (skipElements rest) = false) :
    ∀ (room : Nat) (out : List (List Char × List Char)), params.length ≤ room →
      (∀ param ∈ params, param.2.length ≤ maxParamValueLength) →
      readParams room (text ++ (after ++ rest)) out = .ok (out ++ params, rest) := by
  induction h with
  | @one param text h =>
    intro room out hroom hlength
    obtain ⟨room,rfl⟩ : ∃ n, room = n + 1 := ⟨room - 1,by simp at hroom; omega⟩
    rw [readParams,h.read (hlength param (by simp))]
    simp only
    rcases atEnd_cases hend with rfl | ⟨more,rfl⟩
    · have hskip : skipOws (after ++ []) = [] := (takeWhile_block hafter (by simp)).2
      rw [hskip]
    · have hskip : skipOws (after ++ ',' :: more) = ',' :: more :=
        (takeWhile_block_stop hafter rfl _).2
      rw [hskip]
      simp only [hnext,Bool.false_eq_true,if_false]
  | @cons param params text before between rest' h hbefore hbetween hrest ih =>
    intro room out hroom hlength
    obtain ⟨room,rfl⟩ : ∃ n, room = n + 1 := ⟨room - 1,by simp at hroom; omega⟩
    obtain ⟨⟨c,tail,rfl,hc⟩,hstarts⟩ := hrest.head
    have htext : text ++ (before ++ ',' :: (between ++ c :: tail)) ++ (after ++ rest) =
        text ++ (before ++ ',' :: (between ++ (c :: tail ++ (after ++ rest)))) := by simp
    have hskip : skipOws (before ++ ',' :: (between ++ (c :: tail ++ (after ++ rest)))) =
        ',' :: (between ++ (c :: tail ++ (after ++ rest))) := (takeWhile_block_stop hbefore rfl _).2
    have hlookahead : skipElements (',' :: (between ++ (c :: tail ++ (after ++ rest)))) =
        c :: tail ++ (after ++ rest) :=
      @skipElements_block (',' :: between) _ c
        (forall_mem_cons.2 ⟨rfl,hbetween⟩) hc
    rw [htext,readParams,h.read (hlength param mem_cons_self)]
    simp only [hskip,hlookahead,hstarts,if_true]
    rw [ih room (out ++ [param]) (by simpa using hroom)
      fun p hp => hlength p (mem_cons_of_mem _ hp),append_assoc,singleton_append]

theorem skipOws_after {after rest : List Char} (hafter : ∀ c ∈ after, isOws c = true)
    (hend : atEnd rest = true) : skipOws (after ++ rest) = rest := by
  refine (takeWhile_block hafter fun c hc => ?_).2
  rcases atEnd_cases hend with rfl | ⟨more,rfl⟩
  · cases hc
  · rw [← Option.some.inj hc]
    rfl

theorem after_head {after rest : List Char} (hafter : ∀ c ∈ after, isOws c = true)
    (hend : atEnd rest = true) : ∀ c ∈ (after ++ rest).head?, isElementChar c = true := by
  intro c hc
  cases after with
  | cons d after =>
    rw [← Option.some.inj hc,isElementChar,hafter d mem_cons_self]
    rfl
  | nil =>
    rcases atEnd_cases hend with rfl | ⟨more,rfl⟩
    · cases hc
    · rw [← Option.some.inj hc]
      rfl

theorem isTchar_element {c : Char} (h : isElementChar c = true) : isTchar c = false := by
  cases htchar : isTchar c with
  | false => rfl
  | true =>
    rw [isElementChar_tchar htchar] at h
    cases h

theorem isToken68Char_ne {c : Char} (h : isToken68Char c = true) : isElementChar c = false ∧ c ≠ '=' := by
  constructor
  · cases helement : isElementChar c with
    | false => rfl
    | true =>
      simp only [isElementChar,isOws,Bool.or_eq_true,beq_iff_eq] at helement
      rcases helement with (rfl | rfl) | rfl <;> revert h <;> decide
  · rintro rfl
    revert h
    decide

theorem skipOws_of_head {text : List Char} (h : ∀ c ∈ text.head?, isOws c = false) : skipOws text = text :=
  (@takeWhile_block isOws [] text (by simp) h).2

theorem not_paramStartsAt_token68 {token after rest : List Char} (padding : Nat)
    (hchars : ∀ c ∈ token, isToken68Char c = true) (hafter : ∀ c ∈ after, isOws c = true)
    (hend : atEnd rest = true) :
    paramStartsAt (token ++ (List.replicate padding '=' ++ (after ++ rest))) = false := by
  have htoken : ∀ c ∈ token.dropWhile isTchar, isToken68Char c = true :=
    fun c hc => hchars c ((dropWhile_sublist _).mem hc)
  have hdrop : (token ++ (List.replicate padding '=' ++ (after ++ rest))).dropWhile isTchar =
      token.dropWhile isTchar ++ (List.replicate padding '=' ++ (after ++ rest)) := by
    refine (run_append fun c hc => ?_).2
    cases padding with
    | zero => exact isTchar_element (after_head hafter hend c hc)
    | succ padding =>
      rw [← Option.some.inj hc]
      rfl
  rw [paramStartsAt,hdrop]
  split_ifs
  · rfl
  cases hbehind : token.dropWhile isTchar with
  | cons c behind =>
    obtain ⟨helement,hne⟩ := isToken68Char_ne (htoken c (by rw [hbehind]; exact mem_cons_self))
    rw [isElementChar,Bool.or_eq_false_iff] at helement
    rw [cons_append,skipOws_of_head fun d hd => by rw [← Option.some.inj hd]; exact helement.1]
    split
    · rename_i heq
      exact absurd (List.cons.inj heq).1 hne
    · rfl
  | nil =>
    rw [nil_append]
    match padding with
    | 0 =>
      rw [replicate_zero,nil_append,skipOws_after hafter hend]
      rcases atEnd_cases hend with rfl | ⟨more,rfl⟩ <;> rfl
    | 1 =>
      have hskip : skipOws (List.replicate 1 '=' ++ (after ++ rest)) = '=' :: (after ++ rest) :=
        skipOws_of_head fun d hd => by rw [← Option.some.inj hd]; rfl
      rw [hskip]
      simp only [skipOws_after hafter hend]
      rcases atEnd_cases hend with rfl | ⟨more,rfl⟩ <;> rfl
    | padding + 2 =>
      rfl

theorem readToken68_spelled {token after rest : List Char} (padding : Nat) (hne : token ≠ [])
    (hchars : ∀ c ∈ token, isToken68Char c = true) (hafter : ∀ c ∈ after, isOws c = true)
    (hend : atEnd rest = true) :
    readToken68 (token ++ (List.replicate padding '=' ++ (after ++ rest))) =
      .ok (token ++ List.replicate padding '=', rest) := by
  have hpadding : ∀ c ∈ (after ++ rest).head?, (c == '=') = false := by
    intro c hc
    have helement := after_head hafter hend c hc
    rw [beq_eq_false_iff_ne]
    rintro rfl
    cases helement
  have hblock := @takeWhile_block isToken68Char token
      (List.replicate padding '=' ++ (after ++ rest)) hchars (by
    intro c hc
    cases padding with
    | zero =>
      have helement := after_head hafter hend c hc
      cases htoken : isToken68Char c with
      | false => rfl
      | true =>
        rw [(isToken68Char_ne htoken).1] at helement
        cases helement
    | succ padding =>
      rw [← Option.some.inj hc]
      rfl)
  have hpad := @takeWhile_block (· == '=') (List.replicate padding '=') _
    (fun c hc => by rw [eq_of_mem_replicate hc]; rfl) hpadding
  rw [readToken68,hblock.1,hblock.2,if_neg hne]
  simp only [hpad,skipOws_after hafter hend,hend,if_true]

theorem readChallenge_spaced {scheme space text : List Char} {c : Char} (hne : scheme ≠ [])
    (hscheme : ∀ c ∈ scheme, isTchar c = true) (hspace : ∀ c ∈ space, isOws c = true)
    (hc : isElementChar c = false) :
    readChallenge (scheme ++ ' ' :: (space ++ c :: text)) = if paramStartsAt (c :: text) then
        match readParams maxParams (c :: text) [] with
        | .error violation => .error violation
        | .ok (params, rest) => .ok (⟨scheme,params,none⟩, rest)
      else
        match readToken68 (c :: text) with
        | .error violation => .error violation
        | .ok (token68, rest) => .ok (⟨scheme,[],some token68⟩, rest) := by
  rw [isElementChar,Bool.or_eq_false_iff] at hc
  obtain ⟨htake,hdrop⟩ := takeWhile_block_stop (p := isTchar) (c := ' ') hscheme rfl
    (space ++ c :: text)
  have hskip : skipOws (' ' :: (space ++ c :: text)) = c :: text :=
    (@takeWhile_block_stop _ c (' ' :: space) (forall_mem_cons.2 ⟨rfl,hspace⟩) hc.1 text).2
  have hend : atEnd (c :: text) = false := hc.2
  rw [readChallenge]
  cases hparam : paramStartsAt (c :: text) <;>
    simp only [htake,hdrop,if_neg hne,hskip,hend,hparam,List.head?_cons,ne_eq,
      not_true_eq_false,Bool.false_eq_true,if_false,if_true] <;> rfl

theorem SpellsChallenge.read {challenge : RawAuthChallenge} {text after rest : List Char}
    (h : SpellsChallenge challenge text) (hlimits : challenge.WithinLimits)
    (hafter : ∀ c ∈ after, isOws c = true) (hend : atEnd rest = true)
    (hnext : paramStartsAt (skipElements rest) = false) :
    readChallenge (text ++ (after ++ rest)) = .ok (challenge, rest) := by
  cases h with
  | @bare scheme hne hscheme =>
    obtain ⟨htake,hdrop⟩ := takeWhile_block hscheme
      fun c hc => isTchar_element (after_head hafter hend c hc)
    rw [readChallenge]
    simp only [htake,hdrop,if_neg hne,skipOws_after hafter hend,hend,if_true]
  | @token68 scheme space token padding hne hscheme hspace htoken hchars =>
    have hstart := not_paramStartsAt_token68 padding hchars hafter hend
    have hread := readToken68_spelled padding htoken hchars hafter hend
    obtain ⟨c,token,rfl⟩ := exists_cons_of_ne_nil htoken
    have htext : scheme ++ ' ' :: (space ++ (c :: token ++ List.replicate padding '=')) ++
        (after ++ rest) = scheme ++ ' ' :: (space ++ c :: (token ++ (List.replicate padding '=' ++
          (after ++ rest)))) := by simp
    rw [cons_append] at hstart hread
    rw [htext,readChallenge_spaced hne hscheme hspace
      (isToken68Char_ne (hchars c mem_cons_self)).1,hstart,if_neg Bool.false_ne_true,hread]
  | @params scheme space ptext params hne hscheme hspace hparams =>
    have hread := hparams.read hafter hend hnext maxParams [] hlimits.1 hlimits.2
    obtain ⟨⟨c,tail,rfl,hc⟩,hstarts⟩ := hparams.head
    have hstart := hstarts (after ++ rest)
    have htext : scheme ++ ' ' :: (space ++ c :: tail) ++ (after ++ rest) =
        scheme ++ ' ' :: (space ++ c :: (tail ++ (after ++ rest))) := by simp
    rw [cons_append] at hstart hread
    rw [htext,readChallenge_spaced hne hscheme hspace (isElementChar_tchar hc),hstart,if_pos rfl,
      hread,nil_append]

theorem SpellsChallenge.head {challenge : RawAuthChallenge} {text : List Char}
    (h : SpellsChallenge challenge text) : ∃ c rest, text = c :: rest ∧ isTchar c = true := by
  have hhead {scheme : List Char} (hne : scheme ≠ []) (hscheme : ∀ c ∈ scheme, isTchar c = true)
      (rest : List Char) : ∃ c more, scheme ++ rest = c :: more ∧ isTchar c = true := by
    obtain ⟨c,scheme,rfl⟩ := exists_cons_of_ne_nil hne
    exact ⟨c,_,rfl,hscheme c mem_cons_self⟩
  cases h with
  | bare hne hscheme =>
    obtain ⟨c,more,htext,hc⟩ := hhead hne hscheme []
    exact ⟨c,more,by rwa [append_nil] at htext,hc⟩
  | token68 padding hne hscheme _ _ _ => exact hhead hne hscheme _
  | params hne hscheme _ _ => exact hhead hne hscheme _

theorem not_paramStartsAt_of_readChallenge {text rest : List Char} {challenge : RawAuthChallenge}
    (h : readChallenge text = .ok (challenge, rest)) : paramStartsAt text = false := by
  by_contra hstart
  rw [Bool.not_eq_false] at hstart
  unfold paramStartsAt at hstart
  split_ifs at hstart with hscheme
  split at hstart
  · rename_i more hmore
    have hnone : paramStartsAt ('=' :: more) = false := rfl
    unfold readChallenge at h
    simp only [hmore] at h
    have htoken : readToken68 ('=' :: more) = .error "expected token68 or auth-params" := rfl
    have hend : ¬ atEnd ('=' :: more) = true := Bool.false_ne_true
    rw [if_neg hscheme,if_neg hend,hnone,if_neg Bool.false_ne_true,htoken] at h
    split_ifs at h
  · cases hstart

/-- The challenges read from a text, one after the other. -/
inductive ReadsChallenges : List Char → List RawAuthChallenge → Prop
  | nil {text : List Char} (hnil : skipElements text = []) : ReadsChallenges text []
  | cons {text rest : List Char} {challenge : RawAuthChallenge}
      {challenges : List RawAuthChallenge} (hne : skipElements text ≠ [])
      (h : readChallenge (skipElements text) = .ok (challenge, rest))
      (hrest : ReadsChallenges rest challenges) : ReadsChallenges text (challenge :: challenges)

theorem tokenizeFrom_eq_ok_iff (room : Nat) : ∀ {text : List Char} {out result : List RawAuthChallenge},
    tokenizeFrom room text out = .ok result ↔
      ∃ challenges, result = out ++ challenges ∧ challenges.length ≤ room ∧
        ReadsChallenges text challenges := by
  have hdone {text : List Char} {out result : List RawAuthChallenge} {room : Nat}
      (hnil : skipElements text = []) : (.ok out = (.ok result : Except String _)) ↔
      ∃ challenges, result = out ++ challenges ∧ challenges.length ≤ room ∧
        ReadsChallenges text challenges := by
    constructor
    · intro h
      cases h
      exact ⟨[],(append_nil _).symm,Nat.zero_le _,.nil hnil⟩
    · rintro ⟨challenges,rfl,-,hreads⟩
      cases hreads with
      | nil _ => rw [append_nil]
      | cons hne _ _ => exact absurd hnil hne
  induction room with
  | zero =>
    intro text out result
    rw [tokenizeFrom.eq_def]
    split_ifs with hnil
    · exact hdone hnil
    · constructor
      · intro h
        split at h <;> cases h
      · rintro ⟨challenges,-,hlength,hreads⟩
        cases hreads with
        | nil h => exact absurd h hnil
        | cons _ _ _ => cases hlength
  | succ room ih =>
    intro text out result
    rw [tokenizeFrom.eq_def]
    split_ifs with hnil
    · exact hdone hnil
    · constructor
      · intro h
        split at h
        · cases h
        · rename_i challenge rest hread
          obtain ⟨challenges,rfl,hlength,hreads⟩ := ih.1 h
          exact ⟨challenge :: challenges,by simp,Nat.succ_le_succ hlength,.cons hnil hread hreads⟩
      · rintro ⟨challenges,rfl,hlength,hreads⟩
        cases hreads with
        | nil h => exact absurd h hnil
        | @cons _ rest challenge challenges _ hread hrest =>
          rw [hread]
          exact ih.2 ⟨challenges,by simp,Nat.le_of_succ_le_succ hlength,hrest⟩

theorem ReadsChallenges.not_paramStartsAt {text : List Char} {challenges : List RawAuthChallenge}
    (h : ReadsChallenges text challenges) : paramStartsAt (skipElements text) = false := by
  cases h with
  | nil hnil =>
    rw [hnil]
    rfl
  | cons _ h _ => exact not_paramStartsAt_of_readChallenge h

theorem SpellsChallenges.reads {challenges : List RawAuthChallenge} {text : List Char}
    (h : SpellsChallenges challenges text)
    (hlimits : ∀ challenge ∈ challenges, challenge.WithinLimits) :
    ReadsChallenges text challenges := by
  induction h with
  | nil helements => exact .nil (dropWhile_eq_nil_iff.2 helements)
  | @cons challenge challenges before text after rest hbefore h hafter hend hrest ih =>
    have htail := ih fun c hc => hlimits c (mem_cons_of_mem _ hc)
    have hread := h.read (hlimits challenge mem_cons_self) hafter hend htail.not_paramStartsAt
    obtain ⟨c,tail,rfl,hc⟩ := h.head
    have hskip : skipElements (before ++ (c :: tail ++ (after ++ rest))) =
        c :: tail ++ (after ++ rest) := skipElements_block hbefore hc
    exact .cons (by rw [hskip]; exact cons_ne_nil _ _) (by rw [hskip]; exact hread) htail

theorem takeWhile_tchar_append (text more : List Char) :
    (text ++ ',' :: more).takeWhile isTchar = text.takeWhile isTchar ∧
      (text ++ ',' :: more).dropWhile isTchar = text.dropWhile isTchar ++ ',' :: more :=
  run_stop rfl text more

theorem skipOws_append (text more : List Char) :
    skipOws (text ++ ',' :: more) = skipOws text ++ ',' :: more :=
  (run_stop rfl text more).2

theorem paramStartsAt_append (text more : List Char) :
    paramStartsAt (text ++ ',' :: more) = paramStartsAt text := by
  obtain ⟨htake,hdrop⟩ := takeWhile_tchar_append text more
  rw [paramStartsAt,paramStartsAt,htake,hdrop,skipOws_append]
  split_ifs
  · rfl
  · cases skipOws (text.dropWhile isTchar) with
    | nil => rfl
    | cons c rest =>
      by_cases hc : c = '='
      · subst hc
        rw [cons_append]
        simp only [skipOws_append]
        cases skipOws rest <;> rfl
      · rw [cons_append]
        split
        · exact absurd (List.cons.inj ‹_›).1 hc
        · split
          · exact absurd (List.cons.inj ‹_›).1 hc
          · rfl

theorem readQuoted_append {text : List Char} : ∀ {value result rest : List Char},
    readQuoted text value = .ok (result, rest) → ∀ more,
      readQuoted (text ++ more) value = .ok (result, rest ++ more) := by
  -- one unit is read, or two behind a backslash
  induction hlength : text.length using Nat.strong_induction_on generalizing text with
  | h length ih =>
    intro value result rest h more
    cases text with
    | nil => cases h
    | cons c text =>
      rw [cons_append]
      rw [length_cons] at hlength
      by_cases hquote : c = '"'
      · subst hquote
        rw [readQuoted_quote] at h ⊢
        cases h
        rfl
      by_cases hpair : c = '\\'
      · subst hpair
        cases text with
        | nil => cases h
        | cons d text =>
          rw [length_cons] at hlength
          rw [cons_append,readQuoted_pair]
          rw [readQuoted_pair] at h
          split_ifs at h ⊢
          exact ih text.length (by omega) rfl h more
      · rw [readQuoted_qdtext hquote hpair] at h ⊢
        split_ifs at h ⊢
        exact ih text.length (by omega) rfl h more

theorem readParamValue_token {text : List Char} (h : text.head? ≠ some '"') : readParamValue text =
      if text.takeWhile isTchar = [] then .error "expected a token or quoted-string"
      else .ok (text.takeWhile isTchar, text.dropWhile isTchar) := by
  unfold readParamValue
  split
  · exact absurd rfl h
  · rfl

theorem readParamValue_append {text value rest : List Char}
    (h : readParamValue text = .ok (value, rest)) (more : List Char) :
    readParamValue (text ++ ',' :: more) = .ok (value, rest ++ ',' :: more) := by
  obtain ⟨htake,hdrop⟩ := takeWhile_tchar_append text more
  cases text with
  | nil => cases h
  | cons c text =>
    by_cases hquote : c = '"'
    · subst hquote
      exact readQuoted_append h _
    · have hhead {text : List Char} : (c :: text).head? ≠ some '"' := by simpa using hquote
      rw [readParamValue_token hhead] at h
      split_ifs at h with hne
      cases h
      rw [cons_append,readParamValue_token hhead,← cons_append,htake,hdrop,if_neg hne]

theorem readParam_append {text rest : List Char} {param : List Char × List Char}
    (h : readParam text = .ok (param, rest)) (more : List Char) :
    readParam (text ++ ',' :: more) = .ok (param, rest ++ ',' :: more) := by
  obtain ⟨htake,hdrop⟩ := takeWhile_tchar_append text more
  unfold readParam at h
  simp only at h
  split at h
  · rename_i behind hbehind
    split at h
    · cases h
    · rename_i value after hvalue
      split_ifs at h with hlong
      cases h
      rw [readParam,htake,hdrop,skipOws_append,hbehind]
      simp only [cons_append,skipOws_append,readParamValue_append hvalue more,if_neg hlong]
  · cases h

theorem skipElements_comma (more : List Char) : skipElements (',' :: more) = skipElements more :=
  dropWhile_cons_of_pos rfl

theorem paramStartsAt_elements {more : List Char} (hmore : paramStartsAt (skipElements more) = false)
    (text : List Char) :
    paramStartsAt (skipElements (text ++ ',' :: more)) = paramStartsAt (skipElements text) ∧
      (paramStartsAt (skipElements text) = true →
        skipElements (text ++ ',' :: more) = skipElements text ++ ',' :: more) := by
  by_cases hnil : skipElements text = []
  · have hall : ∀ c ∈ text, isElementChar c = true := dropWhile_eq_nil_iff.1 hnil
    have hskip : skipElements (text ++ ',' :: more) = skipElements more := by
      rw [skipElements,dropWhile_append_of_pos hall]
      exact skipElements_comma more
    rw [hskip,hnil,hmore]
    refine ⟨rfl,fun h => ?_⟩
    cases h
  · have hskip : skipElements (text ++ ',' :: more) = skipElements text ++ ',' :: more := by
      rw [skipElements,dropWhile_append,if_neg (by simpa [skipElements] using hnil)]
      rfl
    exact ⟨by rw [hskip,paramStartsAt_append],fun _ => hskip⟩

theorem readParams_append {more : List Char} (hmore : paramStartsAt (skipElements more) = false)
    (room : Nat) : ∀ {text rest : List Char} {out params : List (List Char × List Char)},
    readParams room text out = .ok (params, rest) →
      readParams room (text ++ ',' :: more) out = .ok (params, rest ++ ',' :: more) := by
  induction room with
  | zero =>
    intro text rest out params h
    rw [readParams] at h
    split at h <;> cases h
  | succ room ih =>
    intro text rest out params h
    rw [readParams] at h ⊢
    split at h
    · cases h
    · rename_i param behind hparam
      rw [readParam_append hparam more]
      simp only [skipOws_append] at h ⊢
      split at h
      · rename_i hbehind
        cases h
        rw [hbehind,nil_append]
        simp only [skipElements_comma,hmore,Bool.false_eq_true,if_false]
      · rename_i after hbehind
        rw [hbehind]
        obtain ⟨hsame,hskip⟩ := paramStartsAt_elements hmore (',' :: after)
        simp only [cons_append] at hsame hskip ⊢
        rw [hsame]
        split_ifs at h ⊢ with hstart
        · rw [hskip hstart]
          exact ih h
        · cases h
          rfl
      · cases h

theorem atEnd_append (rest more : List Char) : atEnd (rest ++ ',' :: more) = atEnd rest := by
  cases rest <;> rfl

theorem readToken68_append {text token68 rest : List Char}
    (h : readToken68 text = .ok (token68, rest)) (more : List Char) :
    readToken68 (text ++ ',' :: more) = .ok (token68, rest ++ ',' :: more) := by
  obtain ⟨htake,hdrop⟩ := run_stop (p := isToken68Char) (c := ',') rfl text more
  obtain ⟨htake',hdrop'⟩ := run_stop (p := (· == '=')) (c := ',') rfl
    (text.dropWhile isToken68Char) more
  unfold readToken68 at h ⊢
  simp only [htake,hdrop,htake',hdrop',skipOws_append,atEnd_append] at h ⊢
  split_ifs at h ⊢
  cases h
  rfl

theorem readChallenge_append {more : List Char} (hmore : paramStartsAt (skipElements more) = false)
    {text rest : List Char} {challenge : RawAuthChallenge}
    (h : readChallenge text = .ok (challenge, rest)) :
    readChallenge (text ++ ',' :: more) = .ok (challenge, rest ++ ',' :: more) := by
  obtain ⟨htake,hdrop⟩ := takeWhile_tchar_append text more
  unfold readChallenge at h ⊢
  simp only [htake,hdrop,skipOws_append,atEnd_append,paramStartsAt_append] at h ⊢
  split_ifs at h with hscheme hend hspaced hstart
  · cases h
    rw [if_neg hscheme,if_pos hend]
  all_goals
    rw [not_not] at hspaced
    have hspaced' : (text.dropWhile isTchar ++ ',' :: more).head? = some ' ' := by
      rw [List.head?_append,hspaced]
      rfl
    rw [if_neg hscheme,if_neg hend,if_neg (not_not.2 hspaced')]
    split at h
    · cases h
  · rename_i params after hread
    cases h
    rw [if_pos hstart,readParams_append hmore maxParams hread]
  · rename_i token68 after hread
    cases h
    rw [if_neg hstart,readToken68_append hread more]

theorem ReadsChallenges.append {text more : List Char} {challenges challenges' : List RawAuthChallenge}
    (h : ReadsChallenges text challenges) (h' : ReadsChallenges more challenges') :
    ReadsChallenges (text ++ ',' :: more) (challenges ++ challenges') := by
  induction h with
  | @nil text hnil =>
    have hskip : skipElements (text ++ ',' :: more) = skipElements more := by
      rw [skipElements,dropWhile_append_of_pos (dropWhile_eq_nil_iff.1 hnil)]
      exact skipElements_comma more
    rw [nil_append]
    cases h' with
    | nil hnil' => exact .nil (hskip.trans hnil')
    | cons hne hread hrest => exact .cons (by rwa [hskip]) (by rwa [hskip]) hrest
  | @cons text rest challenge challenges hne hread hrest ih =>
    have hskip : skipElements (text ++ ',' :: more) = skipElements text ++ ',' :: more := by
      rw [skipElements,dropWhile_append,if_neg (by simpa [skipElements] using hne)]
      rfl
    exact .cons (by rw [hskip]; simp) (by
      rw [hskip]
      exact readChallenge_append h'.not_paramStartsAt hread) ih

/-- A field value is accepted when it is not too long, holds no control or foreign character, and
spells no more challenges than are admitted. -/
theorem parseWwwAuthenticate_text_iff {value : String} {challenges : List RawAuthChallenge} :
    parseWwwAuthenticate (.text value) = .ok challenges ↔
      (codeUnits value).length ≤ maxHeaderLength ∧ value.toList.any isForbiddenChar = false ∧
        challenges.length ≤ maxChallenges ∧ ReadsChallenges value.toList challenges := by
  have hlist : ¬ ([FieldValue.text value] = [] ∨ maxHeaderValues < [FieldValue.text value].length) := by
    rintro (h | h)
    · cases h
    · rw [length_singleton] at h
      revert h
      decide
  have hparse : parseWwwAuthenticate (.text value) = parseFieldValues [.text value] 0 [] := by
    rw [parseWwwAuthenticate,fieldValueList]
    simp only [if_neg hlist]
  rw [hparse,parseFieldValues]
  simp only [Nat.zero_add,or_self]
  have hroom : maxChallenges - ([] : List RawAuthChallenge).length = maxChallenges := rfl
  constructor
  · intro h
    split_ifs at h with hlong hforbidden
    split at h
    · cases h
    · rename_i result hresult
      cases h
      rw [tokenizeFieldValue,hroom,tokenizeFrom_eq_ok_iff] at hresult
      obtain ⟨read,rfl,hlength,hreads⟩ := hresult
      exact ⟨Nat.le_of_not_lt hlong,Bool.eq_false_iff.2 hforbidden,hlength,hreads⟩
  · rintro ⟨hlong,hforbidden,hlength,hreads⟩
    have htokenize : tokenizeFieldValue value.toList [] = .ok challenges := by
      rw [tokenizeFieldValue,hroom,tokenizeFrom_eq_ok_iff]
      exact ⟨challenges,rfl,hlength,hreads⟩
    rw [if_neg (Nat.not_lt.2 hlong),if_neg (Bool.eq_false_iff.1 hforbidden),htokenize]
    rfl

theorem isForbiddenChar_eq (c : Char) : isForbiddenChar c = !isQuotedPairChar c := by
  rw [Bool.eq_iff_iff]
  simp only [isForbiddenChar,isQuotedPairChar,Bool.or_eq_true,Bool.not_eq_true',
    Bool.or_eq_false_iff,beq_iff_eq,beq_eq_false_iff_ne,decide_eq_true_eq,decide_eq_false_iff_not]
  omega

theorem isQuotedPairChar_tchar {c : Char} (h : isTchar c = true ∨ isToken68Char c = true) :
    isQuotedPairChar c = true := by
  simp only [isTchar,isToken68Char,Bool.or_eq_true,beq_iff_eq,decide_eq_true_eq] at h
  simp only [isQuotedPairChar,Bool.or_eq_true,beq_iff_eq,decide_eq_true_eq]
  omega

theorem isQuotedPairChar_element {c : Char} (h : isElementChar c = true) : isQuotedPairChar c = true := by
  simp only [isElementChar,isOws,Bool.or_eq_true,beq_iff_eq] at h
  rcases h with (rfl | rfl) | rfl <;> decide

theorem isElementChar_ows {c : Char} (h : isOws c = true) : isElementChar c = true := by
  rw [isElementChar,h,Bool.true_or]

/-- What stands in a field value. -/
def FieldText (text : List Char) : Prop := ∀ c ∈ text, isQuotedPairChar c = true

theorem FieldText.append {text text' : List Char} (h : FieldText text) (h' : FieldText text') :
    FieldText (text ++ text') := forall_mem_append.2 ⟨h,h'⟩

theorem FieldText.cons {c : Char} {text : List Char} (hc : isQuotedPairChar c = true)
    (h : FieldText text) : FieldText (c :: text) := forall_mem_cons.2 ⟨hc,h⟩

theorem FieldText.ows {text : List Char} (h : ∀ c ∈ text, isOws c = true) : FieldText text :=
  fun c hc => isQuotedPairChar_element (isElementChar_ows (h c hc))

theorem FieldText.elements {text : List Char} (h : ∀ c ∈ text, isElementChar c = true) :
    FieldText text := fun c hc => isQuotedPairChar_element (h c hc)

theorem FieldText.scheme {text : List Char} (h : ∀ c ∈ text, isTchar c = true) : FieldText text :=
  fun c hc => isQuotedPairChar_tchar (.inl (h c hc))

theorem FieldText.escapeValue {value : List Char} (h : ∀ c ∈ value, isValueChar c = true) :
    FieldText (escapeValue value) := by
  intro c hc
  obtain ⟨d,hd,hc⟩ := mem_flatMap.1 hc
  split_ifs at hc
  · rcases mem_cons.1 hc with rfl | hc
    · decide
    · rw [mem_singleton.1 hc]
      exact h d hd
  · rw [mem_singleton.1 hc]
    exact h d hd

theorem SpellsParam.fieldText {param : List Char × List Char} {text : List Char}
    (h : SpellsParam param text) : FieldText text := by
  cases h with
  | mk _ hlower hvalue hbefore hafter =>
    have hname := FieldText.scheme fun c hc => (isTchar_lower (hlower c hc)).1
    have hclose : FieldText ['"'] := fun c hc => mem_singleton.1 hc ▸ rfl
    have hquoted := (FieldText.escapeValue hvalue).append hclose
    exact hname.append ((FieldText.ows hbefore).append (.cons (by decide)
      ((FieldText.ows hafter).append (.cons (by decide) hquoted))))

theorem SpellsParams.fieldText {params : List (List Char × List Char)} {text : List Char}
    (h : SpellsParams params text) : FieldText text := by
  induction h with
  | one h => exact h.fieldText
  | cons h hbefore hbetween _ ih =>
    exact h.fieldText.append ((FieldText.ows hbefore).append (.cons (by decide)
      ((FieldText.elements hbetween).append ih)))

theorem SpellsChallenge.fieldText {challenge : RawAuthChallenge} {text : List Char}
    (h : SpellsChallenge challenge text) : FieldText text := by
  cases h with
  | bare _ hscheme => exact .scheme hscheme
  | token68 padding _ hscheme hspace _ hchars =>
    have htoken : FieldText _ := fun c hc => isQuotedPairChar_tchar (.inr (hchars c hc))
    have hpadding : FieldText (List.replicate padding '=') :=
      fun c hc => eq_of_mem_replicate hc ▸ rfl
    exact (FieldText.scheme hscheme).append (.cons (by decide)
      ((FieldText.ows hspace).append (htoken.append hpadding)))
  | params _ hscheme hspace hparams =>
    exact (FieldText.scheme hscheme).append (.cons (by decide)
      ((FieldText.ows hspace).append hparams.fieldText))

theorem SpellsChallenges.fieldText {challenges : List RawAuthChallenge} {text : List Char}
    (h : SpellsChallenges challenges text) : FieldText text := by
  induction h with
  | nil helements => exact .elements helements
  | cons hbefore h hafter _ _ ih =>
    exact (FieldText.elements hbefore).append (h.fieldText.append ((FieldText.ows hafter).append ih))

/-- A spelled list within the limits is read back, and two accepted field values are accepted as one,
with the challenges of both. -/
theorem challenge_lists_lossless : (∀ (challenges : List RawAuthChallenge) (value : String),
      SpellsChallenges challenges value.toList →
      (∀ challenge ∈ challenges, challenge.WithinLimits) → challenges.length ≤ maxChallenges →
      (codeUnits value).length ≤ maxHeaderLength → parseWwwAuthenticate (.text value) = .ok challenges) ∧
    ∀ (value value' : String) (challenges challenges' : List RawAuthChallenge),
      parseWwwAuthenticate (.text value) = .ok challenges →
      parseWwwAuthenticate (.text value') = .ok challenges' →
      (codeUnits (value ++ ", " ++ value')).length ≤ maxHeaderLength →
      (challenges ++ challenges').length ≤ maxChallenges →
      parseWwwAuthenticate (.text (value ++ ", " ++ value')) = .ok (challenges ++ challenges') := by
  constructor
  · intro challenges value hspells hlimits hlength hlong
    refine parseWwwAuthenticate_text_iff.2 ⟨hlong,?_,hlength,hspells.reads hlimits⟩
    rw [any_eq_false]
    intro c hc
    rw [isForbiddenChar_eq,hspells.fieldText c hc]
    decide
  · intro value value' challenges challenges' h h' hlong hlength
    obtain ⟨-,hforbidden,-,hreads⟩ := parseWwwAuthenticate_text_iff.1 h
    obtain ⟨-,hforbidden',-,hreads'⟩ := parseWwwAuthenticate_text_iff.1 h'
    have htext : (value ++ ", " ++ value').toList = value.toList ++ ',' :: (' ' :: value'.toList) := by
      simp
    have hspace : ReadsChallenges (' ' :: value'.toList) challenges' := by
      have hskip : skipElements (' ' :: value'.toList) = skipElements value'.toList :=
        dropWhile_cons_of_pos rfl
      cases hreads' with
      | nil hnil => exact .nil (hskip.trans hnil)
      | cons hne hread hrest => exact .cons (by rwa [hskip]) (by rwa [hskip]) hrest
    refine parseWwwAuthenticate_text_iff.2 ⟨hlong,?_,hlength,?_⟩
    · rw [htext,any_append,any_cons,any_cons,hforbidden,hforbidden']
      rfl
    · rw [htext]
      exact hreads.append hspace

example : (parseWwwAuthenticate (.text "Basic abc==, Payment id=\"a, b\"")).toOption =
    some [⟨"Basic".toList,[],some "abc==".toList⟩,
      ⟨"Payment".toList,[("id".toList, "a, b".toList)],none⟩] := by
  decide +kernel

end Frontera.Mpp
