import Frontera.Data.LinearChecksum
import Frontera.Lightning.Bech32

/-! Encoding, its round trip with decoding, and that no changed data character passes the checksum.
-/

namespace Frontera.Lightning

open Frontera.Data List Nat

def encodeBech32 (hrp : List Char) (words : List Nat) : String :=
  let values := expandedPrefix hrp ++ words ++ [0, 0, 0, 0, 0, 0]
  let mod := polymod values ^^^ 1
  let checksum := (List.range checksumWords).map fun index => (mod >>> (5 * (5 - index))) &&& 31
  String.ofList (hrp ++ '1' :: (words ++ checksum).map symbol)

/-- What the five bits that leave the remainder feed back into it. -/
def feedback (top start : Nat) (bits : List Nat) : Nat :=
  bits.foldl
    (fun checksum bit =>
      if (top >>> bit) &&& 1 = 1 then checksum ^^^ generators.getD bit 0 else checksum) start

theorem feedback_xor (top top' : Nat) (bits : List Nat) (start start' : Nat) :
    feedback (top ^^^ top') (start ^^^ start') bits =
      feedback top start bits ^^^ feedback top' start' bits := by
  induction bits generalizing start start' with
  | nil => rfl
  | cons bit bits ih =>
    have hbit (n : Nat) : ((n >>> bit) &&& 1 = 1) = (n.testBit bit = true) := by
      rw [and_one_is_mod,shiftRight_eq_div_pow,testBit_eq_decide_div_mod_eq, decide_eq_true_eq]
    have hstart : (if (top ^^^ top').testBit bit = true then
          start ^^^ start' ^^^ generators.getD bit 0 else start ^^^ start') =
        (if top.testBit bit = true then start ^^^ generators.getD bit 0 else start) ^^^
          (if top'.testBit bit = true then start' ^^^ generators.getD bit 0 else start') := by
      rw [testBit_xor]
      cases top.testBit bit <;> cases top'.testBit bit
      · rfl
      · exact Nat.xor_assoc _ _ _
      · simp only [Bool.xor_false,Bool.false_eq_true,if_true,if_false]
        ac_rfl
      · -- both bits feed the generator back, and the two cancel
        simp only [Bool.xor_self,Bool.false_eq_true,if_true,if_false]
        rw [Nat.xor_assoc,Nat.xor_comm start',← Nat.xor_assoc (generators.getD bit 0),
          Nat.xor_self,Nat.zero_xor]
    have hcons (n start : Nat) : feedback n start (bit :: bits) =
        feedback n (if n.testBit bit = true then start ^^^ generators.getD bit 0 else start) bits := by
      simp only [feedback,foldl_cons,hbit]
    rw [hcons,hcons,hcons,hstart,ih]

theorem polymodStep_eq (checksum value : Nat) : polymodStep checksum value =
      feedback (checksum >>> 25) (((checksum &&& 0x1ffffff) <<< 5) ^^^ value) (List.range 5) := rfl

theorem polymodStep_split (checksum value : Nat) : polymodStep checksum value =
      (((checksum &&& 0x1ffffff) <<< 5) ^^^ value) ^^^
        feedback (checksum >>> 25) 0 (List.range 5) := by
  have hnone (start : Nat) : feedback 0 start (List.range 5) = start := rfl
  have hsplit := feedback_xor 0 (checksum >>> 25) (List.range 5)
    (((checksum &&& 0x1ffffff) <<< 5) ^^^ value) 0
  rwa [Nat.zero_xor,Nat.xor_zero,hnone] at hsplit

theorem polymodStep_xor (a b v w : Nat) :
    polymodStep (a ^^^ b) (v ^^^ w) = polymodStep a v ^^^ polymodStep b w := by
  have hlow : (((a ^^^ b) &&& 0x1ffffff) <<< 5) ^^^ (v ^^^ w) =
      (((a &&& 0x1ffffff) <<< 5) ^^^ v) ^^^ (((b &&& 0x1ffffff) <<< 5) ^^^ w) := by
    rw [and_xor_distrib_right,shiftLeft_xor_distrib]
    ac_rfl
  rw [polymodStep_eq,polymodStep_eq,polymodStep_eq,shiftRight_xor_distrib,hlow, feedback_xor]

variable {value : Nat} {checksum : List Nat} {hrp : List Char} {words : List Nat} {c : Char}
  {text : List Char} {maximumLength : Nat} {d : Bech32Decoding} {before : List Char}

theorem polymodStep_small {checksum : Nat} (h : checksum < 2 ^ 25) (hvalue : value < 32) :
    polymodStep checksum value = checksum * 32 + value := by
  have htop : checksum >>> 25 = 0 := by
    rw [shiftRight_eq_div_pow,div_eq_of_lt h]
  have hmask : checksum &&& 0x1ffffff = checksum := by
    have hand : checksum &&& 0x1ffffff = checksum % 2 ^ 25 := and_two_pow_sub_one_eq_mod _ 25
    rw [hand,mod_eq_of_lt h]
  have hxor : (checksum <<< 5) ^^^ value = checksum * 32 + value := by
    have hmod : ((checksum <<< 5) ^^^ value) % 2 ^ 5 = value := by
      rw [xor_mod_two_pow,shiftLeft_eq,mul_mod_left,zero_xor, mod_eq_of_lt hvalue]
    have hdiv : ((checksum <<< 5) ^^^ value) / 2 ^ 5 = checksum := by
      rw [Nat.xor_div_two_pow,Nat.shiftLeft_eq,Nat.mul_div_cancel _ (by decide),
        Nat.div_eq_of_lt hvalue,Nat.xor_zero]
    omega
  rw [polymodStep_split,htop,hmask,hxor]
  exact Nat.xor_zero _

theorem polymodStep_low (checksum : Nat) :
    polymodStep checksum 0 % 32 = feedback (checksum >>> 25) 0 (List.range 5) % 32 := by
  have hlow : ((checksum &&& 0x1ffffff) <<< 5) % 2 ^ 5 = 0 := by
    rw [shiftLeft_eq,mul_mod_left]
  have hxor := xor_mod_two_pow (a := (checksum &&& 0x1ffffff) <<< 5)
    (b := feedback (checksum >>> 25) 0 (List.range 5)) (n := 5)
  rw [hlow,zero_xor] at hxor
  rwa [polymodStep_split,Nat.xor_zero]

theorem feedback_low : ∀ top < 32, feedback top 0 (List.range 5) % 32 = 0 → top = 0 := by decide

theorem polymodStep_lossless {checksum : Nat} (h : checksum < 2 ^ 30)
    (hzero : polymodStep checksum 0 = 0) : checksum = 0 := by
  have htop : checksum >>> 25 < 32 := by
    rw [shiftRight_eq_div_pow]
    omega
  have hnone := feedback_low _ htop (by rw [← polymodStep_low,hzero])
  rw [shiftRight_eq_div_pow] at hnone
  rw [polymodStep_small (by omega) (by decide)] at hzero
  omega

theorem feedback_lt (top : Nat) (bits : List Nat) {start : Nat} (hstart : start < 2 ^ 30) :
    feedback top start bits < 2 ^ 30 := by
  have hgenerators (bit : Nat) : generators.getD bit 0 < 2 ^ 30 := by
    rw [getD_eq_getElem?_getD]
    cases hget : generators[bit]? with
    | none => decide
    | some generator =>
      have hall : generators.all (· < 2 ^ 30) = true := by decide
      exact of_decide_eq_true (all_eq_true.1 hall _ (mem_of_getElem? hget))
  induction bits generalizing start with
  | nil => exact hstart
  | cons bit bits ih =>
    rw [feedback,foldl_cons]
    split
    · exact ih (xor_lt_two_pow hstart (hgenerators bit))
    · exact ih hstart

theorem polymodStep_lt {checksum : Nat} (hvalue : value < 2 ^ 30) :
    polymodStep checksum value < 2 ^ 30 := by
  have hshift : (checksum &&& 0x1ffffff) <<< 5 < 2 ^ 30 := by
    have hand : checksum &&& 0x1ffffff = checksum % 2 ^ 25 := and_two_pow_sub_one_eq_mod _ 25
    rw [hand,shiftLeft_eq]
    omega
  rw [polymodStep_eq]
  exact feedback_lt _ _ (xor_lt_two_pow hshift hvalue)

theorem polymod_linear : LinearChecksum polymodStep 30 5 where
  xor := polymodStep_xor
  symbol v hv := by
    rw [polymodStep_small (by decide) hv,zero_mul,zero_add]
  lossless a ha hzero := polymodStep_lossless ha hzero
  lt a ha := polymodStep_lt (by decide)
  fits := by decide

/-- A number of thirty bits as six words, from the most significant one down. -/
def sixWords (n : Nat) : List Nat :=
  (List.range checksumWords).map fun index => (n >>> (5 * (5 - index))) &&& 31

/-- The six words that encoding appends. -/
def checksumOf (hrp : List Char) (words : List Nat) : List Nat :=
  sixWords (polymod (expandedPrefix hrp ++ words ++ [0, 0, 0, 0, 0, 0]) ^^^ 1)

theorem encodeBech32_eq (hrp : List Char) (words : List Nat) : encodeBech32 hrp words =
      String.ofList (hrp ++ '1' :: (words ++ checksumOf hrp words).map symbol) := rfl

theorem sixWords_eq (n : Nat) :
    sixWords n = [n / 32 ^ 5 % 32, n / 32 ^ 4 % 32, n / 32 ^ 3 % 32, n / 32 ^ 2 % 32, n / 32 % 32,
      n % 32] := by
  have hword (shift : Nat) : (n >>> shift) &&& 31 = n / 2 ^ shift % 32 := by
    have hand : (n >>> shift) &&& 31 = (n >>> shift) % 2 ^ 5 := and_two_pow_sub_one_eq_mod _ 5
    rw [hand,shiftRight_eq_div_pow]
    rfl
  simp only [sixWords,checksumWords,hword,range_succ,range_zero,nil_append, map_cons,map_nil,cons_append]
  norm_num

theorem sixWords_lt (n : Nat) : ∀ w ∈ sixWords n, w < 32 := by
  intro w hw
  obtain ⟨index,-,rfl⟩ := mem_map.1 hw
  exact lt_succ_of_le and_le_right

theorem length_sixWords (n : Nat) : (sixWords n).length = checksumWords := by
  rw [sixWords,length_map,length_range]

theorem foldl_six {a b c d e f : Nat} (h : ∀ w ∈ [a, b, c, d, e, f], w < 32) :
    [a, b, c, d, e, f].foldl polymodStep 0 = ((((a * 32 + b) * 32 + c) * 32 + d) * 32 + e) * 32 + f := by
  simp only [forall_mem_cons] at h
  obtain ⟨ha,hb,hc,hd,he,hf,-⟩ := h
  simp only [foldl_cons,foldl_nil]
  rw [polymodStep_small (by decide) ha,polymodStep_small (by omega) hb,
    polymodStep_small (by omega) hc,polymodStep_small (by omega) hd,
    polymodStep_small (by omega) he,polymodStep_small (by omega) hf]
  omega

theorem foldl_sixWords {n : Nat} (hn : n < 2 ^ 30) : (sixWords n).foldl polymodStep 0 = n := by
  have hlt := sixWords_lt n
  rw [sixWords_eq] at hlt ⊢
  rw [foldl_six hlt]
  omega

theorem sixWords_foldl (hlength : checksum.length = checksumWords) (hlt : ∀ w ∈ checksum, w < 32) :
    sixWords (checksum.foldl polymodStep 0) = checksum := by
  obtain ⟨a,b,c,d,e,f,rfl⟩ : ∃ a b c d e f, checksum = [a, b, c, d, e, f] := by
    match checksum, hlength with
    | [a, b, c, d, e, f], _ => exact ⟨a,b,c,d,e,f,rfl⟩
  rw [foldl_six hlt,sixWords_eq]
  simp only [forall_mem_cons] at hlt
  obtain ⟨ha,hb,hc,hd,he,hf,-⟩ := hlt
  simp only [List.cons.injEq,and_true]
  omega

theorem polymod_zeros_lt (values : List Nat) : polymod (values ++ [0, 0, 0, 0, 0, 0]) < 2 ^ 30 := by
  rw [polymod,foldl_append]
  simp only [foldl_cons,foldl_nil]
  exact polymodStep_lt (by decide)

theorem polymod_append (values : List Nat) (hlength : checksum.length = checksumWords) :
    polymod (values ++ checksum) =
      polymod (values ++ [0, 0, 0, 0, 0, 0]) ^^^ checksum.foldl polymodStep 0 := by
  have hxor := polymod_linear.foldl_xor checksum (polymod values) 0
  rw [Nat.xor_zero,hlength] at hxor
  rw [polymod,polymod,foldl_append,foldl_append]
  exact hxor

theorem polymod_eq_one_iff (hlength : checksum.length = checksumWords)
    (hlt : ∀ w ∈ checksum, w < 32) :
    polymod (expandedPrefix hrp ++ (words ++ checksum)) = 1 ↔ checksum = checksumOf hrp words := by
  have hbound : polymod (expandedPrefix hrp ++ words ++ [0, 0, 0, 0, 0, 0]) ^^^ 1 < 2 ^ 30 :=
    xor_lt_two_pow (polymod_zeros_lt _) (by decide)
  rw [← append_assoc,polymod_append _ hlength,checksumOf]
  generalize polymod (expandedPrefix hrp ++ words ++ [0, 0, 0, 0, 0, 0]) = remainder at hbound ⊢
  constructor
  · intro h
    have hfold : checksum.foldl polymodStep 0 = remainder ^^^ 1 := by
      rw [← h,← Nat.xor_assoc,Nat.xor_self,Nat.zero_xor]
    rw [← hfold,sixWords_foldl hlength hlt]
  · rintro rfl
    rw [foldl_sixWords hbound,← Nat.xor_assoc,Nat.xor_self,Nat.zero_xor]

theorem isPrintable_symbol : ∀ word < 32, isPrintable (symbol word) = true := by decide

theorem isUpper_symbol : ∀ word < 32, isUpper (symbol word) = false := by decide

theorem lowered_eq (h : isUpper c = false) : lowered c = c := by
  rw [lowered,h,if_neg Bool.false_ne_true]

theorem map_lowered (h : text.any isUpper = false) : text.map lowered = text := by
  rw [any_eq_false] at h
  rw [map_congr_left fun c hc => lowered_eq (Bool.eq_false_iff.2 (h c hc)),map_id']

theorem Spells.encode {text : String} (h : Spells text hrp words checksum)
    (hlower : text.toList.any isUpper = false) : encodeBech32 hrp words = text := by
  have hchecksum := (polymod_eq_one_iff h.checksum_length
    fun w hw => h.words_lt w (mem_append_right _ hw)).1 h.verified
  rw [encodeBech32_eq,← hchecksum,← h.spelled,map_lowered hlower,String.ofList_toList]

theorem spells_encodeBech32 (hne : hrp ≠ [])
    (hhrp : ∀ c ∈ hrp, isPrintable c = true ∧ isUpper c = false) (hwords : ∀ w ∈ words, w < 32) :
    Spells (encodeBech32 hrp words) hrp words (checksumOf hrp words) ∧
      (encodeBech32 hrp words).toList.any isUpper = false := by
  have hall : ∀ w ∈ words ++ checksumOf hrp words, w < 32 :=
    forall_mem_append.2 ⟨hwords,sixWords_lt _⟩
  have hchars : ∀ c ∈ (encodeBech32 hrp words).toList, isPrintable c = true ∧ isUpper c = false := by
    rw [encodeBech32_eq,String.toList_ofList,forall_mem_append,forall_mem_cons]
    refine ⟨hhrp,⟨by decide,by decide⟩,fun c hc => ?_⟩
    obtain ⟨w,hw,rfl⟩ := mem_map.1 hc
    exact ⟨isPrintable_symbol w (hall w hw),isUpper_symbol w (hall w hw)⟩
  have hlower : (encodeBech32 hrp words).toList.any isUpper = false :=
    any_eq_false.2 fun c hc => Bool.eq_false_iff.1 (hchars c hc).2
  refine ⟨?_,hlower⟩
  exact {
    printable := all_eq_true.2 fun c hc => (hchars c hc).1
    oneCase := by rw [hlower,Bool.and_false]
    nonempty := hne
    words_lt := hall
    checksum_length := length_sixWords _
    spelled := by rw [map_lowered hlower,encodeBech32_eq,String.toList_ofList]
    verified := (polymod_eq_one_iff (length_sixWords _) (sixWords_lt _)).2 rfl }

theorem decodeBech32_length {text : String} (h : decodeBech32 text maximumLength = some d) :
    (codeUnits text).length ≤ maximumLength := by
  by_contra hlong
  rw [decodeBech32] at h
  simp only at h
  rw [if_pos (.inr (Nat.lt_of_not_le hlong))] at h
  cases h

theorem decodeBech32_encodeBech32 (hne : hrp ≠ [])
    (hhrp : ∀ c ∈ hrp, isPrintable c = true ∧ isUpper c = false) (hwords : ∀ w ∈ words, w < 32)
    (hlength : hrp.length + 1 + words.length + checksumWords ≤ maximumLength) :
    decodeBech32 (encodeBech32 hrp words) maximumLength =
      some ⟨hrp,words,(encodeBech32 hrp words).toList⟩ := by
  obtain ⟨hspells,hlower⟩ := spells_encodeBech32 hne hhrp hwords
  refine (decodeBech32_eq_some_iff ?_).2 ⟨(map_lowered hlower).symm,_,hspells⟩
  rw [length_codeUnits_of_printable hspells.printable,encodeBech32_eq,String.toList_ofList,
    length_append,length_cons,length_map,length_append,checksumOf,length_sixWords]
  omega

theorem lowered_eq_separator : lowered c = '1' ↔ c = '1' := by
  constructor
  · intro h
    rw [lowered] at h
    split_ifs at h with hupper
    · have hrange := of_decide_eq_true hupper
      have hcode : (Char.ofNat (c.toNat + 32)).toNat = c.toNat + 32 := by
        rw [Char.ofNat,dif_pos (.inl (by omega))]
        rfl
      have hone : '1'.toNat = 49 := rfl
      rw [h] at hcode
      omega
    · exact h
  · rintro rfl
    rfl

theorem decodeBech32_verified {data : List Char}
    (h : decodeBech32 (String.ofList text) maximumLength = some d)
    (htext : text = before ++ '1' :: data) (hdata : '1' ∉ data) :
    ∃ words, (∀ w ∈ words, w < 32) ∧ data.map lowered = words.map symbol ∧
      polymod (expandedPrefix (before.map lowered) ++ words) = 1 := by
  obtain ⟨-,checksum,hspells⟩ :=
    (decodeBech32_eq_some_iff (decodeBech32_length h)).1 h
  have hspelled := hspells.spelled
  rw [String.toList_ofList,htext,map_append,map_cons,lowered_eq_separator.2 rfl] at hspelled
  have hnone : '1' ∉ data.map lowered := by
    intro hmem
    obtain ⟨c,hc,hone⟩ := mem_map.1 hmem
    exact hdata (lowered_eq_separator.1 hone ▸ hc)
  have hnone' : '1' ∉ (d.words ++ checksum).map symbol := by
    intro hmem
    obtain ⟨w,hw,hone⟩ := mem_map.1 hmem
    exact symbol_ne_separator w (hspells.words_lt w hw) hone
  have hsplit := splitAtSeparator_eq_some_iff.2 ⟨hspelled,hnone'⟩
  rw [splitAtSeparator_eq_some_iff.2 ⟨rfl,hnone⟩] at hsplit
  obtain ⟨hhrp,hwords⟩ := Prod.mk.inj (Option.some.inj hsplit)
  refine ⟨d.words ++ checksum,hspells.words_lt,hwords,?_⟩
  rw [hhrp]
  exact hspells.verified

theorem symbol_inj {words' : List Nat} (h : ∀ w ∈ words, w < 32) (h' : ∀ w ∈ words', w < 32)
    (heq : words.map symbol = words'.map symbol) : words = words' := by
  have hread := mapM_wordOf_eq_some_iff.2 ⟨h,rfl⟩
  rw [heq,mapM_wordOf_eq_some_iff.2 ⟨h',rfl⟩] at hread
  exact (Option.some.inj hread).symm

theorem decodeBech32_changed {front behind : List Char} {c' : Char}
    (h : decodeBech32 (String.ofList (before ++ '1' :: (front ++ c :: behind))) maximumLength = some d)
    (hlast : '1' ∉ front ++ c :: behind) (hword : (wordOf (lowered c')).isSome = true)
    (hne : lowered c' ≠ lowered c) (maximumLength' : Nat) :
    decodeBech32 (String.ofList (before ++ '1' :: (front ++ c' :: behind))) maximumLength' = none := by
  by_contra haccepted
  obtain ⟨d',h'⟩ := Option.ne_none_iff_exists'.1 haccepted
  have hlast' : '1' ∉ front ++ c' :: behind := by
    intro hmem
    rcases mem_append.1 hmem with hmem | hmem
    · exact hlast (mem_append_left _ hmem)
    · rcases mem_cons.1 hmem with rfl | hmem
      · cases hword
      · exact hlast (mem_append_right _ (mem_cons_of_mem _ hmem))
  obtain ⟨words,hlt,hwords,hverified⟩ := decodeBech32_verified h rfl hlast
  obtain ⟨words',hlt',hwords',hverified'⟩ := decodeBech32_verified h' rfl hlast'
  rw [map_append,map_cons] at hwords hwords'
  obtain ⟨wfront,wrest,rfl,hfront,hrest⟩ := map_eq_append_iff.1 hwords.symm
  obtain ⟨w,wbehind,rfl,hw,hbehind⟩ := map_eq_cons_iff.1 hrest
  obtain ⟨wfront',wrest',rfl,hfront',hrest'⟩ := map_eq_append_iff.1 hwords'.symm
  obtain ⟨w',wbehind',rfl,hw',hbehind'⟩ := map_eq_cons_iff.1 hrest'
  simp only [forall_mem_append,forall_mem_cons] at hlt hlt'
  obtain rfl := symbol_inj hlt.1 hlt'.1 (hfront.trans hfront'.symm)
  obtain rfl := symbol_inj hlt.2.2 hlt'.2.2 (hbehind.trans hbehind'.symm)
  have hdiffer : w ≠ w' := by
    rintro rfl
    exact hne (hw'.symm.trans hw)
  rw [← append_assoc] at hverified hverified'
  exact polymod_linear.foldl_ne 1 _ wbehind hlt.2.1 hlt'.2.1 hdiffer (hverified.trans hverified'.symm)

/-- Encodings decode to what they encode, lower-case text decodes to what encodes it, and accepted
text with another data character in one place is refused. -/
theorem bech32_exact : (∀ hrp words maximumLength, hrp ≠ [] →
      (∀ c ∈ hrp, isPrintable c = true ∧ isUpper c = false) → (∀ w ∈ words, w < 32) →
      hrp.length + 1 + words.length + checksumWords ≤ maximumLength →
      decodeBech32 (encodeBech32 hrp words) maximumLength =
        some ⟨hrp,words,(encodeBech32 hrp words).toList⟩) ∧
    (∀ text maximumLength d, decodeBech32 text maximumLength = some d →
      text.toList.any isUpper = false → encodeBech32 d.hrp d.words = text) ∧
    ∀ before front behind c c' maximumLength d,
      decodeBech32 (String.ofList (before ++ '1' :: (front ++ c :: behind))) maximumLength = some d →
      '1' ∉ front ++ c :: behind → (wordOf (lowered c')).isSome = true → lowered c' ≠ lowered c →
      ∀ maximumLength',
        decodeBech32 (String.ofList (before ++ '1' :: (front ++ c' :: behind))) maximumLength' = none := by
  refine ⟨fun hrp words maximumLength hne hhrp hwords hlength =>
    decodeBech32_encodeBech32 hne hhrp hwords hlength,?_,
    fun before front behind c c' maximumLength d h hlast hword hne maximumLength' =>
      decodeBech32_changed h hlast hword hne maximumLength'⟩
  intro text maximumLength d h hlower
  obtain ⟨-,checksum,hspells⟩ := (decodeBech32_eq_some_iff (decodeBech32_length h)).1 h
  exact hspells.encode hlower

/-- Text is read in lower case, so the other case of its only letter is no other data character. -/
theorem other_case_accepted : ¬ ∀ before front behind c c' maximumLength d,
      decodeBech32 (String.ofList (before ++ '1' :: (front ++ c :: behind))) maximumLength = some d →
      '1' ∉ front ++ c :: behind → c' ∈ charset → c' ≠ c →
      decodeBech32 (String.ofList (before ++ '1' :: (front ++ c' :: behind))) maximumLength = none := by
  intro h
  have hrefused := h ['2'] ['9', '4', '6', '0'] ['3', '7', '3'] 'F' 'f' 90
    ⟨['2'],[5, 21],['2', '1', '9', '4', '6', '0', 'f', '3', '7', '3']⟩
    (by decide) (by decide) (by decide) (by decide)
  revert hrefused
  decide

end Frontera.Lightning
