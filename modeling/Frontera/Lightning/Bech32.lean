import Mathlib.Data.List.Induction
import Mathlib.Data.List.TakeWhile
import Mathlib.Tactic.Ring
import Frontera.Data.BitGroups
import Frontera.Platform

/-! The checksummed spelling of a human-readable part and five-bit data words, and the regrouping of
the words into bytes. -/

namespace Frontera.Lightning

open Frontera.Data List Option

/-- `qpzry9x8gf2tvdw0s3jn54khce6mua7l` -/
def charset : List Char :=
  ['q', 'p', 'z', 'r', 'y', '9', 'x', '8', 'g', 'f', '2', 't', 'v', 'd', 'w', '0',
    's', '3', 'j', 'n', '5', '4', 'k', 'h', 'c', 'e', '6', 'm', 'u', 'a', '7', 'l']

def generators : List Nat := [0x3b6a57b2, 0x26508e6d, 0x1ea119fa, 0x3d4233dd, 0x2a1462b3]

def checksumWords : Nat := 6

/-- The word that a character stands for. -/
def wordOf (c : Char) : Option Nat := charset.idxOf? c

def polymodStep (checksum value : Nat) : Nat :=
  let top := checksum >>> 25
  (List.range 5).foldl
    (fun checksum bit =>
      if (top >>> bit) &&& 1 = 1 then checksum ^^^ generators.getD bit 0 else checksum)
    (((checksum &&& 0x1ffffff) <<< 5) ^^^ value)

def polymod (values : List Nat) : Nat := values.foldl polymodStep 1

/-- The values that the human-readable part adds to the checksum. -/
def expandedPrefix (hrp : List Char) : List Nat :=
  hrp.map (fun c => c.toNat >>> 5) ++ [0] ++ hrp.map (fun c => c.toNat &&& 31)

structure Bech32Decoding where
  /-- `prefix` -/
  hrp : List Char
  words : List Nat
  canonical : List Char
deriving DecidableEq

def isLower (c : Char) : Bool := decide (97 ≤ c.toNat ∧ c.toNat ≤ 122)

def isUpper (c : Char) : Bool := decide (65 ≤ c.toNat ∧ c.toNat ≤ 90)

def isPrintable (c : Char) : Bool := decide (33 ≤ c.toNat ∧ c.toNat ≤ 126)

/-- `toLowerCase` of a printable character. -/
def lowered (c : Char) : Char := if isUpper c then Char.ofNat (c.toNat + 32) else c

/-- The text before and behind the last `1`. -/
def splitAtSeparator (text : List Char) : Option (List Char × List Char) :=
  let behind := (text.reverse.takeWhile (· ≠ '1')).reverse
  match text.reverse.dropWhile (· ≠ '1') with
  | [] => none
  | _ :: before => some (before.reverse, behind)

def decodeBech32 (text : String) (maximumLength : Nat) : Option Bech32Decoding :=
  let length := (codeUnits text).length
  if length < 8 ∨ maximumLength < length then none
  else if !text.toList.all isPrintable then none
  else if text.toList.any isLower && text.toList.any isUpper then none
  else
    let canonical := text.toList.map lowered
    match splitAtSeparator canonical with
    | none => none
    | some (hrp, data) =>
        if hrp = [] ∨ data.length < checksumWords then none
        else
          match data.mapM wordOf with
          | none => none
          | some words =>
              if polymod (expandedPrefix hrp ++ words) ≠ 1 then none
              else some ⟨hrp,words.take (words.length - checksumWords),canonical⟩

/-- The character of a word. -/
def symbol (word : Nat) : Char := charset.getD word 'q'

variable {word : Nat} {data : List Char} {words : List Nat} {text : String}

theorem wordOf_eq_some_iff {c : Char} : wordOf c = some word ↔ word < 32 ∧ symbol word = c := by
  have hlength : charset.length = 32 := rfl
  have hnodup : charset.Nodup := by decide
  have hget : ∀ (h : word < charset.length), symbol word = charset[word] := by
    intro h
    rw [symbol,getD_eq_getElem?_getD,List.getElem?_eq_getElem h,getD_some]
  rw [wordOf,List.idxOf?_eq_some_iff]
  constructor
  · rintro ⟨hlt,heq,-⟩
    exact ⟨hlt,(hget hlt).trans heq⟩
  · rintro ⟨hlt,rfl⟩
    have hlt' : word < charset.length := by omega
    refine ⟨hlt',(hget hlt').symm,fun j hj heq => ?_⟩
    rw [hget hlt'] at heq
    exact absurd (hnodup.getElem_inj_iff.1 heq) (by omega)

theorem symbol_ne_separator : ∀ word < 32, symbol word ≠ '1' := by decide

theorem mapM_wordOf_eq_some_iff :
    data.mapM wordOf = some words ↔ (∀ w ∈ words, w < 32) ∧ data = words.map symbol := by
  induction data generalizing words with
  | nil =>
    cases words with
    | nil => simp
    | cons w words => simp
  | cons c data ih =>
    rw [mapM_cons]
    cases words with
    | nil => simp [bind_eq_some_iff]
    | cons w words =>
      simp only [bind_eq_bind,bind_eq_some_iff,Option.pure_def,some_inj,
        List.cons.injEq,wordOf_eq_some_iff,ih,map_cons,forall_mem_cons]
      constructor
      · rintro ⟨w',⟨hw,hc⟩,words',⟨hwords,hdata⟩,rfl,rfl⟩
        exact ⟨⟨hw,hwords⟩,hc.symm,hdata⟩
      · rintro ⟨⟨hw,hwords⟩,hc,hdata⟩
        exact ⟨w,⟨hw,hc.symm⟩,words,⟨hwords,hdata⟩,rfl,rfl⟩

theorem splitAtSeparator_eq_some_iff {text hrp : List Char} :
    splitAtSeparator text = some (hrp, data) ↔ text = hrp ++ '1' :: data ∧ '1' ∉ data := by
  have hsplit := takeWhile_append_dropWhile (p := fun c => decide (c ≠ '1')) (l := text.reverse)
  rw [splitAtSeparator]
  constructor
  · intro h
    split at h
    · cases h
    · next c before hdrop =>
      cases h
      have hc : c = '1' := by
        have hhead := List.head?_dropWhile_not (fun c => decide (c ≠ '1')) text.reverse
        rw [hdrop] at hhead
        simpa using hhead
      rw [hdrop,hc] at hsplit
      refine ⟨?_,fun hmem => ?_⟩
      · have hreverse := congrArg List.reverse hsplit
        rw [reverse_reverse,reverse_append,reverse_cons,append_assoc, singleton_append] at hreverse
        exact hreverse.symm
      · have hne := mem_takeWhile_imp (mem_reverse.1 hmem)
        simp at hne
  · rintro ⟨rfl,hdata⟩
    have hreverse : (hrp ++ '1' :: data).reverse = data.reverse ++ '1' :: hrp.reverse := by simp
    have hbehind : ∀ c ∈ data.reverse, decide (c ≠ '1') = true := by
      rintro c hc
      refine decide_eq_true ?_
      rintro rfl
      exact hdata (mem_reverse.1 hc)
    have htake : (data.reverse ++ '1' :: hrp.reverse).takeWhile (fun c => decide (c ≠ '1')) =
        data.reverse := by
      rw [takeWhile_append_of_pos hbehind,takeWhile_cons_of_neg (by simp),append_nil]
    have hdrop : (data.reverse ++ '1' :: hrp.reverse).dropWhile (fun c => decide (c ≠ '1')) =
        '1' :: hrp.reverse := by
      rw [dropWhile_append_of_pos hbehind,dropWhile_cons_of_neg (by simp)]
    rw [hreverse,hdrop,htake]
    simp

/-- The spelling of a human-readable part and data words, with its checksum. -/
structure Spells (text : String) (hrp : List Char) (words checksum : List Nat) : Prop where
  printable : text.toList.all isPrintable = true
  oneCase : (text.toList.any isLower && text.toList.any isUpper) = false
  nonempty : hrp ≠ []
  words_lt : ∀ w ∈ words ++ checksum, w < 32
  checksum_length : checksum.length = checksumWords
  spelled : text.toList.map lowered = hrp ++ '1' :: (words ++ checksum).map symbol
  verified : polymod (expandedPrefix hrp ++ (words ++ checksum)) = 1

theorem length_codeUnits_of_printable (h : text.toList.all isPrintable = true) :
    (codeUnits text).length = text.toList.length := by
  apply length_codeUnits_of_ascii
  intro c hc
  have hrange := of_decide_eq_true (all_eq_true.1 h c hc)
  omega

theorem decodeBech32_eq_some_iff {maximumLength : Nat} {d : Bech32Decoding}
    (hlength : (codeUnits text).length ≤ maximumLength) :
    decodeBech32 text maximumLength = some d ↔
      d.canonical = text.toList.map lowered ∧ ∃ checksum, Spells text d.hrp d.words checksum := by
  constructor
  · intro h
    rw [decodeBech32] at h
    simp only at h
    split at h
    · cases h
    split at h
    · cases h
    next hprintable =>
    split at h
    · cases h
    next hcase =>
    split at h
    · cases h
    next hrp data hsplit =>
    split at h
    · cases h
    next hparts =>
    split at h
    · cases h
    next words hwords =>
    split at h
    · cases h
    next hverified =>
    cases h
    obtain ⟨hspelled,-⟩ := splitAtSeparator_eq_some_iff.1 hsplit
    obtain ⟨hlt,hdata⟩ := mapM_wordOf_eq_some_iff.1 hwords
    have hcount : words.length = data.length := by rw [hdata,length_map]
    have hjoin : words.take (words.length - checksumWords) ++
        words.drop (words.length - checksumWords) = words := take_append_drop _ _
    refine ⟨rfl,words.drop (words.length - checksumWords),?_⟩
    exact {
      printable := by simpa using hprintable
      oneCase := by simpa using hcase
      nonempty := fun hnil => hparts (.inl hnil)
      words_lt := by rwa [hjoin]
      checksum_length := by
        rw [length_drop]
        have hlong : ¬ data.length < checksumWords := fun hlt => hparts (.inr hlt)
        omega
      spelled := by rw [hjoin,← hdata,hspelled]
      verified := by
        rw [hjoin]
        exact not_not.1 hverified }
  · rintro ⟨hcanonical,checksum,h⟩
    have hsix : checksum.length = 6 := h.checksum_length
    have hchars := congrArg List.length h.spelled
    simp only [length_map,length_append,length_cons] at hchars
    have hhrp : 0 < d.hrp.length := length_pos_iff.2 h.nonempty
    have hbounds : ¬ ((codeUnits text).length < 8 ∨ maximumLength < (codeUnits text).length) := by
      rw [length_codeUnits_of_printable h.printable] at hlength ⊢
      omega
    have hsplit : splitAtSeparator (text.toList.map lowered) =
        some (d.hrp, (d.words ++ checksum).map symbol) := by
      refine splitAtSeparator_eq_some_iff.2 ⟨h.spelled,fun hmem => ?_⟩
      obtain ⟨w,hw,heq⟩ := mem_map.1 hmem
      exact symbol_ne_separator w (h.words_lt w hw) heq
    have hwords : ((d.words ++ checksum).map symbol).mapM wordOf = some (d.words ++ checksum) :=
      mapM_wordOf_eq_some_iff.2 ⟨h.words_lt,rfl⟩
    have hparts : ¬ (d.hrp = [] ∨ ((d.words ++ checksum).map symbol).length < checksumWords) := by
      rintro (hnil | hshort)
      · exact h.nonempty hnil
      · rw [length_map,length_append,hsix,checksumWords] at hshort
        omega
    have htake : (d.words ++ checksum).take ((d.words ++ checksum).length - checksumWords) = d.words := by
      rw [length_append,hsix,checksumWords,Nat.add_sub_cancel,take_left]
    rw [decodeBech32]
    simp only [if_neg hbounds,h.printable,h.oneCase,hsplit,if_neg hparts,hwords,h.verified, htake]
    rw [← hcanonical]
    simp

/-- The bits that fill up no byte yet, and the bytes so far. -/
structure Regrouping where
  (accumulator bits : Nat)
  out : List UInt8

def Regrouping.push (state : Regrouping) (word : Nat) : Regrouping :=
  let accumulator := (state.accumulator <<< 5 ||| word) &&& 0xfff
  let bits := state.bits + 5
  -- fewer than 16 bits are pending, so the inner loop takes at most one byte
  if 8 ≤ bits then
    ⟨accumulator,bits - 8,state.out ++ [UInt8.ofNat (accumulator >>> (bits - 8))]⟩
  else ⟨accumulator,bits,state.out⟩

def Regrouping.start : Regrouping := ⟨0,0,[]⟩

inductive Padding where
  | allowed | forbidden
deriving DecidableEq

def wordsToBytes (words : List Nat) (padding : Padding) : Option (List UInt8) :=
  if !words.all (· ≤ 31) then none
  else
    let state := words.foldl Regrouping.push Regrouping.start
    if 0 < state.bits ∧ (padding = .forbidden ∨ 5 ≤ state.bits) then none
    else if 0 < state.bits ∧ state.accumulator &&& (1 <<< state.bits - 1) ≠ 0 then none
    else some state.out

/-- Zero bits appended to a byte boundary. -/
def wordsToPaddedBytes (words : List Nat) : List UInt8 :=
  let state := words.foldl (fun state word => state.push (word &&& 31)) Regrouping.start
  if 0 < state.bits then
    state.out ++ [UInt8.ofNat (state.accumulator <<< (8 - state.bits))]
  else state.out

/-- The number that words spell, from the most significant one down. -/
def wordsValue (words : List Nat) : Nat := words.foldl (fun value word => value * 32 + word) 0

def wordsToSafeInteger (words : List Nat) : Option Nat :=
  if 10 < words.length then none
  else if isSafeInteger (wordsValue words) then some (wordsValue words)
  else none

def byteBits (bytes : List UInt8) : List Bool := groupBits 8 (bytes.map UInt8.toNat)

theorem byteBits_injective : Function.Injective byteBits := by
  intro bytes bytes' h
  have hlt : ∀ bytes : List UInt8, ∀ n ∈ bytes.map UInt8.toNat, n < 2 ^ 8 := by
    intro bytes n hn
    obtain ⟨byte,-,rfl⟩ := mem_map.1 hn
    exact byte.toNat_lt
  have hmap := groupBits_injective (by omega) (hlt bytes) (hlt bytes') h
  exact (map_injective_iff.2 fun a b hab => UInt8.toNat_inj.1 hab) hmap

theorem byteBits_append (bytes bytes' : List UInt8) :
    byteBits (bytes ++ bytes') = byteBits bytes ++ byteBits bytes' := by
  rw [byteBits,map_append,groupBits_append]
  rfl

theorem byteBits_singleton (n : Nat) : byteBits [UInt8.ofNat n] = bitsOf 8 n := by
  have hbyte : (UInt8.ofNat n).toNat = n % 2 ^ 8 := UInt8.toNat_ofNat'
  rw [byteBits,map_singleton,hbyte,groupBits_cons,groupBits_nil,append_nil, bitsOf_mod (Nat.le_refl 8)]

theorem length_byteBits (bytes : List UInt8) : (byteBits bytes).length = 8 * bytes.length := by
  rw [byteBits,length_groupBits,length_map]

/-- What is pending, and what is out already. -/
structure Regrouping.Holds (state : Regrouping) (bits : List Bool) : Prop where
  few : state.bits < 8
  eq : bits = byteBits state.out ++ bitsOf state.bits state.accumulator

theorem Regrouping.start_holds : Regrouping.start.Holds [] := ⟨by decide,rfl⟩

private theorem bitsOf_pushed {accumulator bits : Nat} (hword : word < 32) (hbits : bits < 8) :
    bitsOf (bits + 5) ((accumulator <<< 5 ||| word) &&& 0xfff) =
      bitsOf bits accumulator ++ bitsOf 5 word := by
  have hor : accumulator <<< 5 ||| word = accumulator * 2 ^ 5 + word := by
    rw [← Nat.shiftLeft_add_eq_or_of_lt hword,Nat.shiftLeft_eq]
  have hand : ∀ n : Nat, n &&& 0xfff = n % 2 ^ 12 := fun n => Nat.and_two_pow_sub_one_eq_mod n 12
  have hdiv : (accumulator * 2 ^ 5 + word) / 2 ^ 5 = accumulator := by omega
  have hlow : (accumulator * 2 ^ 5 + word) % 2 ^ 5 = word % 2 ^ 5 := by omega
  rw [hor,hand,bitsOf_mod (by omega),bitsOf_append,hdiv,← bitsOf_mod (Nat.le_refl 5),hlow,
    bitsOf_mod (Nat.le_refl 5)]

theorem Regrouping.Holds.push {state : Regrouping} {bits : List Bool} (h : state.Holds bits)
    (hword : word < 32) : (state.push word).Holds (bits ++ bitsOf 5 word) := by
  have hfew := h.few
  have hbits : bits ++ bitsOf 5 word = byteBits state.out ++
      bitsOf (state.bits + 5) ((state.accumulator <<< 5 ||| word) &&& 0xfff) := by
    rw [h.eq,bitsOf_pushed hword hfew,append_assoc]
  rw [Regrouping.push]
  generalize (state.accumulator <<< 5 ||| word) &&& 0xfff = accumulator at hbits ⊢
  by_cases hfull : 8 ≤ state.bits + 5
  · rw [if_pos hfull]
    refine ⟨by simp only; omega,?_⟩
    have hsplit : state.bits + 5 = 8 + (state.bits + 5 - 8) := by omega
    rw [hsplit,bitsOf_append] at hbits
    rw [hbits,byteBits_append,byteBits_singleton,Nat.shiftRight_eq_div_pow,append_assoc]
  · rw [if_neg hfull]
    exact ⟨by simp only; omega,hbits⟩

theorem Regrouping.foldl_holds (hwords : ∀ w ∈ words, w < 32) :
    ∀ {state : Regrouping} {bits : List Bool}, state.Holds bits →
      (words.foldl Regrouping.push state).Holds (bits ++ groupBits 5 words) := by
  induction words with
  | nil =>
    intro state bits h
    rwa [groupBits_nil,append_nil]
  | cons word words ih =>
    intro state bits h
    rw [groupBits_cons,← append_assoc]
    exact ih (fun w hw => hwords w (mem_cons_of_mem _ hw))
      (h.push (hwords word mem_cons_self))

/-- Words that carry the bits of some bytes, filled up with fewer than five zero bits. -/
def Carries (words : List Nat) (bytes : List UInt8) : Prop :=
  ∃ pad : List Bool, pad.length < 5 ∧ (∀ b ∈ pad, b = false) ∧ groupBits 5 words = byteBits bytes ++ pad

theorem low_bits_zero_iff {n width : Nat} :
    n &&& (1 <<< width - 1) = 0 ↔ ∀ b ∈ bitsOf width n, b = false := by
  rw [Nat.one_shiftLeft,Nat.and_two_pow_sub_one_eq_mod,← bitsOf_mod (Nat.le_refl width)]
  constructor
  · intro h b hb
    rw [h,bitsOf_zero] at hb
    exact eq_of_mem_replicate hb
  · exact eq_zero_of_bitsOf (Nat.mod_lt _ (Nat.two_pow_pos width))

theorem wordsToBytes_eq_some_iff {bytes : List UInt8} (hwords : ∀ w ∈ words, w < 32) :
    wordsToBytes words .allowed = some bytes ↔ Carries words bytes := by
  have hall : words.all (· ≤ 31) = true := by
    rw [List.all_eq_true]
    intro w hw
    have hlt := hwords w hw
    exact decide_eq_true (by omega)
  have hholds := Regrouping.foldl_holds hwords Regrouping.start_holds
  rw [nil_append] at hholds
  rw [wordsToBytes,hall]
  simp only [Bool.not_true,Bool.false_eq_true,if_false]
  generalize words.foldl Regrouping.push Regrouping.start = state at hholds
  have hfew := hholds.few
  constructor
  · intro h
    split at h
    · cases h
    · next hleft =>
      split at h
      · cases h
      · next hzero =>
        cases h
        refine ⟨bitsOf state.bits state.accumulator,?_,?_,hholds.eq⟩
        · rw [length_bitsOf]
          by_contra hmany
          exact hleft ⟨by omega,.inr (by omega)⟩
        · by_cases hpending : 0 < state.bits
          · exact low_bits_zero_iff.1 (by_contra fun hne => hzero ⟨hpending,hne⟩)
          · have hnone : state.bits = 0 := by omega
            rw [hnone]
            exact fun b hb => absurd hb not_mem_nil
  · rintro ⟨pad,hpad,hzeros,hbits⟩
    have heq := hholds.eq.symm.trans hbits
    have hlength := congrArg List.length heq
    simp only [length_append,length_byteBits,length_bitsOf] at hlength
    obtain ⟨hout,hrest⟩ := append_inj heq (by
      rw [length_byteBits,length_byteBits]
      omega)
    rw [if_neg (by rintro ⟨-,h | h⟩ <;> [cases h; omega]),if_neg]
    · exact congrArg some (byteBits_injective hout)
    · rintro ⟨-,hne⟩
      refine hne (low_bits_zero_iff.2 ?_)
      rw [hrest]
      exact hzeros

theorem wordsToPaddedBytes_bits (hwords : ∀ w ∈ words, w < 32) :
    ∃ zeros : List Bool, zeros.length < 8 ∧ (∀ b ∈ zeros, b = false) ∧
      byteBits (wordsToPaddedBytes words) = groupBits 5 words ++ zeros := by
  have hmask : words.foldl (fun state word => state.push (word &&& 31)) Regrouping.start =
      words.foldl Regrouping.push Regrouping.start := by
    refine foldl_ext _ _ _ fun state word hword => ?_
    have hand : word &&& 31 = word % 2 ^ 5 := Nat.and_two_pow_sub_one_eq_mod word 5
    have hmod : word % 2 ^ 5 = word := Nat.mod_eq_of_lt (hwords word hword)
    rw [hand,hmod]
  have hholds := Regrouping.foldl_holds hwords Regrouping.start_holds
  rw [nil_append] at hholds
  rw [wordsToPaddedBytes,hmask]
  generalize words.foldl Regrouping.push Regrouping.start = state at hholds
  have hfew := hholds.few
  by_cases hpending : 0 < state.bits
  · refine ⟨bitsOf (8 - state.bits) 0,?_,?_,?_⟩
    · rw [length_bitsOf]
      omega
    · rw [bitsOf_zero]
      exact fun b hb => eq_of_mem_replicate hb
    · have hwidth : bitsOf 8 (state.accumulator <<< (8 - state.bits)) =
          bitsOf state.bits state.accumulator ++ bitsOf (8 - state.bits) 0 := by
        have hsum : 8 = state.bits + (8 - state.bits) := by omega
        have happend := bitsOf_append state.bits (8 - state.bits)
          (state.accumulator <<< (8 - state.bits))
        rw [← hsum,Nat.shiftLeft_eq,Nat.mul_div_cancel _ (Nat.two_pow_pos _)] at happend
        rw [Nat.shiftLeft_eq,happend,← bitsOf_mod (Nat.le_refl (8 - state.bits)), Nat.mul_mod_left]
      rw [if_pos hpending,byteBits_append,byteBits_singleton,hwidth,hholds.eq,append_assoc]
  · refine ⟨[],by decide,fun b hb => absurd hb not_mem_nil,?_⟩
    have hnone : state.bits = 0 := by omega
    rw [if_neg hpending,hholds.eq,hnone,bitsOf,append_nil,append_nil]

theorem wordsValue_append (words words' : List Nat) :
    wordsValue (words ++ words') = wordsValue words * 32 ^ words'.length + wordsValue words' := by
  have hfold : ∀ (words : List Nat) (start : Nat), words.foldl (fun value word => value * 32 + word) start =
        start * 32 ^ words.length + wordsValue words := by
    intro words
    induction words with
    | nil =>
      intro start
      simp [wordsValue]
    | cons word words ih =>
      intro start
      have hcons : wordsValue (word :: words) = word * 32 ^ words.length + wordsValue words := by
        rw [wordsValue,foldl_cons,ih,Nat.zero_mul,Nat.zero_add]
      rw [foldl_cons,ih,hcons,length_cons,Nat.pow_succ]
      ring
  have happend : wordsValue (words ++ words') =
      words'.foldl (fun value word => value * 32 + word) (wordsValue words) := foldl_append
  rw [happend,hfold]

theorem wordsValue_lt (hwords : ∀ w ∈ words, w < 32) : wordsValue words < 32 ^ words.length := by
  induction words using List.reverseRecOn with
  | nil => exact Nat.one_pos
  | append_singleton words word ih =>
    have hlast := hwords word (mem_append_right _ (mem_singleton_self _))
    have hlt := ih fun w hw => hwords w (mem_append_left _ hw)
    have hvalue : wordsValue [word] = word := by simp [wordsValue]
    rw [wordsValue_append,hvalue,length_append,length_singleton,Nat.pow_one,Nat.pow_succ]
    omega

theorem wordsToSafeInteger_eq_some_iff {value : Nat} (hwords : ∀ w ∈ words, w < 32) :
    wordsToSafeInteger words = some value ↔ words.length ≤ 10 ∧ wordsValue words = value := by
  rw [wordsToSafeInteger]
  by_cases hlength : 10 < words.length
  · rw [if_pos hlength]
    constructor
    · intro h
      cases h
    · intro h
      omega
  · have hlt := wordsValue_lt hwords
    have hpow : 32 ^ words.length ≤ 32 ^ 10 := Nat.pow_le_pow_right (by omega) (by omega)
    have hsafe : isSafeInteger (wordsValue words) = true := isSafeInteger_iff.2 (by omega)
    rw [if_neg hlength,hsafe,if_pos rfl,some_inj]
    exact ⟨fun h => ⟨by omega,h⟩,fun h => h.2⟩

end Frontera.Lightning
