import Frontera.Data.OrderedMap
import Frontera.Data.Sorting
import Frontera.Payment.Grammar
import Frontera.Text.Base64
import Frontera.Text.CodeUnitOrder

/-! The `Content-Digest` of a protected request: a dictionary of byte strings in base64, of which
the recognized algorithms are kept, sorted, as the text a business operation commits to. -/

namespace Frontera.Payment

open Frontera.Data Frontera.Monetary Frontera.Text List Option Base64

/-- `[A-Za-z0-9+/]` -/
def isBase64Char (c : Char) : Bool := isAsciiAlphanumeric c || c == '+' || c == '/'

/-- `BASE64` -/
def isBase64 (text : String) : Bool :=
  let rest := text.toList.dropWhile isBase64Char
  rest == [] || rest == ['='] || rest == ['=', '=']

/-- Decoded length of canonical padded base64, or `none`. -/
def canonicalBase64ByteLength (text : String) : Option Nat :=
  if text = "" || (codeUnits text).length % 4 != 0 || !isBase64 text then none
  else
    let chars := text.toList
    let padding := if ['=', '='].isSuffixOf chars then 2 else if ['='].isSuffixOf chars then 1 else 0
    let last := standard.sextet (chars.getD (chars.length - 1 - padding) '=')
    if 0 < padding && (last == 64 || last % (if padding = 2 then 16 else 4) != 0) then none
    else some (chars.length / 4 * 3 - padding)

variable {c : Char} {text : String} {data : List Char} {p n : Nat} {member : String × String}
  {raw : List Char} {raws texts : List (List Char)}

theorem isBase64Char_lt (h : isBase64Char c = true) : c.toNat < 128 := by
  simp only [isBase64Char,isAsciiAlphanumeric,isAsciiLetter,Bool.or_eq_true,
    Bool.and_eq_true,decide_eq_true_eq,Char.le_def,UInt32.le_iff_toNat_le,beq_iff_eq] at h
  rcases h with (((h | h) | h) | rfl) | rfl
  all_goals first | (change _ ≤ c.toNat ∧ c.toNat ≤ _ at h; simp at h; omega) | decide

theorem isBase64Char_iff : isBase64Char c = true ↔ c ∈ standard.symbols := by
  constructor
  · intro h
    have hall : ∀ n : Fin 128, isBase64Char (Char.ofNat n) = true →
        Char.ofNat n ∈ standard.symbols := by decide +kernel
    have hc := hall ⟨c.toNat,isBase64Char_lt h⟩
    rw [Char.ofNat_toNat] at hc
    exact hc h
  · intro h
    have hall : standard.symbols.all isBase64Char = true := by decide +kernel
    exact all_eq_true.1 hall c h

theorem isBase64_iff : isBase64 text = true ↔ ∃ data p, text.toList = data ++ List.replicate p '=' ∧ p < 3 ∧
      ∀ c ∈ data, c ∈ standard.symbols := by
  constructor
  · intro h
    have hsplit := takeWhile_append_dropWhile (p := isBase64Char) (l := text.toList)
    have hdata : ∀ c ∈ text.toList.takeWhile isBase64Char, c ∈ standard.symbols :=
      fun c hc => isBase64Char_iff.1 (mem_takeWhile_imp hc)
    simp only [isBase64,Bool.or_eq_true,beq_iff_eq] at h
    rcases h with (h | h) | h
    · exact ⟨_,0,hsplit.symm.trans (by rw [h]; simp),by decide,hdata⟩
    · exact ⟨_,1,hsplit.symm.trans (by rw [h]; rfl),by decide,hdata⟩
    · exact ⟨_,2,hsplit.symm.trans (by rw [h]; rfl),by decide,hdata⟩
  · rintro ⟨data,p,htext,hp,hdata⟩
    have hdrop : text.toList.dropWhile isBase64Char = List.replicate p '=' := by
      rw [htext,dropWhile_append_of_pos fun c hc => isBase64Char_iff.2 (hdata c hc)]
      cases p with
      | zero => rfl
      | succ p => rw [replicate_succ,dropWhile_cons_of_neg (by decide)]
    simp only [isBase64,hdrop,Bool.or_eq_true,beq_iff_eq]
    have hcases : p = 0 ∨ p = 1 ∨ p = 2 := by omega
    rcases hcases with rfl | rfl | rfl
    · exact Or.inl (Or.inl rfl)
    · exact Or.inl (Or.inr rfl)
    · exact Or.inr rfl

private theorem suffix_padding {q : Nat} (hdata : ∀ c ∈ data, c ∈ standard.symbols) :
    (List.replicate q '=').isSuffixOf (data ++ List.replicate p '=') = decide (q ≤ p) := by
  rw [Bool.eq_iff_iff,isSuffixOf_iff_suffix,decide_eq_true_eq]
  constructor
  · rintro ⟨front,hsuffix⟩
    by_contra hlt
    obtain ⟨k,rfl⟩ := Nat.exists_eq_add_of_lt (Nat.lt_of_not_le hlt)
    have hfront : front ++ List.replicate (k + 1) '=' = data := by
      rw [show p + k + 1 = (k + 1) + p by omega,← replicate_append_replicate, ← append_assoc] at hsuffix
      exact append_cancel_right hsuffix
    have hmem : '=' ∈ data := by
      rw [← hfront]
      exact mem_append_right _ (by simp)
    exact standard.unpadded (hdata _ hmem)
  · intro hle
    obtain ⟨k,rfl⟩ := Nat.exists_eq_add_of_le' hle
    refine ⟨data ++ List.replicate k '=',?_⟩
    rw [append_assoc,replicate_append_replicate]

theorem canonicalBase64ByteLength_iff_data (htext : text.toList = data ++ List.replicate p '=')
    (hp : p < 3) (hdata : ∀ c ∈ data, c ∈ standard.symbols) :
    canonicalBase64ByteLength text = some n ↔ text ≠ "" ∧ (data.length + p) % 4 = 0 ∧
      (p ≠ 0 → standard.sextet (data.getLastD '=') % (if p = 2 then 16 else 4) = 0) ∧
      n = (data.length + p) / 4 * 3 - p := by
  have hbase : isBase64 text = true := isBase64_iff.2 ⟨data,p,htext,hp,hdata⟩
  have hlength : (codeUnits text).length = data.length + p := by
    rw [length_codeUnits_of_ascii,htext,length_append,length_replicate]
    intro c hc
    rw [htext,mem_append,mem_replicate] at hc
    rcases hc with hc | ⟨-,rfl⟩
    · exact isBase64Char_lt (isBase64Char_iff.2 (hdata c hc))
    · decide
  have hpadding : (if ['=', '='].isSuffixOf text.toList then 2
      else if ['='].isSuffixOf text.toList then 1 else 0) = p := by
    have htwo := suffix_padding (p := p) (q := 2) hdata
    have hone := suffix_padding (p := p) (q := 1) hdata
    rw [← htext] at htwo hone
    simp only [List.replicate] at htwo hone
    rw [htwo,hone]
    simp only [decide_eq_true_eq]
    split_ifs <;> omega
  have hlast (h : data ≠ []) : text.toList.getD (text.toList.length - 1 - p) '=' = data.getLastD '=' := by
    rw [htext,length_append,length_replicate,getLastD_eq_getLast?,
      List.getLast?_eq_getElem?,getD_eq_getElem?_getD,List.getElem?_append_left]
    · congr 2
      omega
    · have hpos := length_pos_of_ne_nil h
      omega
  have htotal : text.toList.length = data.length + p := by simp [htext]
  rw [canonicalBase64ByteLength]
  simp only [hlength,hbase,hpadding,htotal,Bool.not_true,Bool.or_false]
  by_cases hempty : text = ""
  · simp [hempty]
  by_cases hquanta : (data.length + p) % 4 = 0
  · have hrefused : (decide (0 < p) && (standard.sextet
        (text.toList.getD (data.length + p - 1 - p) '=') == 64 || standard.sextet
        (text.toList.getD (data.length + p - 1 - p) '=') % (if p = 2 then 16 else 4) != 0)) = true ↔
        ¬ (p ≠ 0 → standard.sextet (data.getLastD '=') % (if p = 2 then 16 else 4) = 0) := by
      by_cases hp0 : p = 0
      · simp [hp0]
      · have hne : data ≠ [] := by
          rintro rfl
          rw [length_nil] at hquanta
          omega
        have hbits := hlast hne
        rw [htotal] at hbits
        have hlt : standard.sextet (data.getLastD '=') < 64 := by
          apply sextet_lt
          apply hdata
          rw [getLastD_eq_getLast?,List.getLast?_eq_some_getLast hne]
          exact getLast_mem hne
        rw [hbits]
        generalize standard.sextet (data.getLastD '=') = last at hlt
        have hlisted : last ≠ 64 := by omega
        simp [hp0,hlisted,Nat.pos_of_ne_zero hp0]
    rw [if_neg (by simp [hempty,hquanta])]
    by_cases hbits : p ≠ 0 → standard.sextet (data.getLastD '=') % (if p = 2 then 16 else 4) = 0
    · rw [if_neg (fun h => hrefused.1 h hbits),some_inj]
      exact ⟨fun h => ⟨hempty,hquanta,hbits,h.symm⟩,fun h => h.2.2.2.symm⟩
    · rw [if_pos (hrefused.2 hbits)]
      exact ⟨fun h => (nomatch h),fun h => absurd h.2.2.1 hbits⟩
  · simp [hempty,hquanta]

/-- A text is accepted exactly when it is the padded base64 of some byte string that is not
empty, and its length is then that of the byte string. -/
theorem canonicalBase64ByteLength_iff :
    canonicalBase64ByteLength text = some n ↔ ∃ bytes : List UInt8, bytes ≠ [] ∧
      text.toList = standard.encode bytes ∧ n = bytes.length := by
  constructor
  · intro h
    have hbase : isBase64 text = true := by
      rw [canonicalBase64ByteLength] at h
      split_ifs at h with hrefused
      simp only [Bool.or_eq_true,not_or,Bool.not_eq_true,Bool.not_eq_false'] at hrefused
      exact hrefused.2
    obtain ⟨data,p,htext,hp,hdata⟩ := isBase64_iff.1 hbase
    obtain ⟨hempty,hlength,hlast,hn⟩ := (canonicalBase64ByteLength_iff_data htext hp hdata).1 h
    obtain ⟨bytes,hencode,hbytes⟩ := (exists_encode_iff hdata hp).2 ⟨hlength,hlast,hn⟩
    refine ⟨bytes,?_,htext.trans hencode.symm,hbytes.symm⟩
    rintro rfl
    apply hempty
    apply String.toList_injective
    rw [htext,← hencode]
    rfl
  · rintro ⟨bytes,hne,htext,rfl⟩
    have hdata := symbols_mem (A := standard) bytes
    have hp : Base64.padding bytes.length < 3 := by
      rw [Base64.padding]
      omega
    obtain ⟨hlength,hlast,hn⟩ := (exists_encode_iff hdata hp).1 ⟨bytes,rfl,rfl⟩
    refine (canonicalBase64ByteLength_iff_data htext hp hdata).2 ⟨?_,hlength,hlast,hn⟩
    rintro rfl
    apply hne
    rw [← decode_encode (A := standard) bytes,← htext]
    rfl

structure PaymentContentDigest where
  /-- Recognized algorithms only, sorted. -/
  canonical : String
  algorithms : OrderedMap String String

def paymentContentDigestMaximumLength : Nat := 512

/-- `DIGEST_ALGORITHMS` -/
def digestAlgorithms : List (String × Nat) := [("sha-256", 32), ("sha-512", 64)]

/-- `DIGEST_KEY` -/
def isDigestKey (key : List Char) : Bool :=
  match key with
  | [] => false
  | first :: rest =>
      (isAsciiLowercase first || first == '*') &&
        rest.all fun c => isAsciiLowercase c || isAsciiDigit c || ['_', '.', '*', '-'].contains c

def isBlank (c : Char) : Bool := c == ' ' || c == '\t'

/-- `rawMember.replace(/^[ \t]+|[ \t]+$/g, '')` -/
def trimBlanks (text : List Char) : List Char :=
  ((text.dropWhile isBlank).reverse.dropWhile isBlank).reverse

/-- The keys met so far and the recognized members among them. -/
structure DigestMembers where
  seen : List String
  recognized : List (String × String)

/-- The value of a member, measured against its algorithm where that is recognized. -/
def DigestMembers.measure (members : DigestMembers) (name encoded : String) : Option DigestMembers :=
  match canonicalBase64ByteLength encoded with
  | none => none
  | some length =>
      match digestAlgorithms.find? fun algorithm => algorithm.1 == name with
      | none => some { members with seen := members.seen ++ [name] }
      | some algorithm =>
          if length != algorithm.2 then none
          else some ⟨members.seen ++ [name],members.recognized ++ [(name, encoded)]⟩

/-- One member of the dictionary. -/
def readMember (members : DigestMembers) (rawMember : List Char) : Option DigestMembers :=
  let member := trimBlanks rawMember
  match member.dropWhile (· != '=') with
  | [] => none
  | _ :: item =>
      let key := member.takeWhile (· != '=')
      let name := String.ofList key
      if key = [] || !isDigestKey key || members.seen.contains name then none
      else if item.length < 2 || item.head? != some ':' || item.getLast? != some ':' then none
      else members.measure name (String.ofList (item.drop 1).dropLast)

/-- `${key}=:${encoded}:` -/
def memberText (member : String × String) : List Char :=
  member.1.toList ++ '=' :: ':' :: (member.2.toList ++ [':'])

/-- `left < right ? -1 : left > right ? 1 : 0`, on the keys -/
def memberLe (left right : String × String) : Prop := stringLt right.1 left.1 = false

instance : DecidableRel memberLe := fun left right =>
  inferInstanceAs (Decidable (stringLt right.1 left.1 = false))

def digestOfMembers (recognized : List (String × String)) : PaymentContentDigest :=
  let sorted := recognized.insertionSort memberLe
  { canonical := String.ofList ([',', ' '].intercalate (sorted.map memberText))
    algorithms := sorted.foldl (fun algorithms member => algorithms.set member.1 member.2)
      OrderedMap.empty }

def parsePaymentContentDigest (value : String) : Option PaymentContentDigest :=
  if value = "" || paymentContentDigestMaximumLength < (codeUnits value).length ||
      value.toList.any isControlCharacter then none
  else
    match (value.toList.splitOn ',').foldlM readMember ⟨[],[]⟩ with
    | none => none
    | some members =>
        if members.recognized = [] then none else some (digestOfMembers members.recognized)

/-- The loop of `paymentContentDigestsAgree` over the algorithms left to compare. -/
def agreeOn (right : PaymentContentDigest) : List (String × String) → Nat → Bool
  | [], shared => decide (0 < shared)
  | (algorithm, encoded) :: rest, shared =>
      match right.algorithms.get algorithm with
      | none => agreeOn right rest shared
      | some other => if other != encoded then false else agreeOn right rest (shared + 1)

/-- Whether two digests share an algorithm and agree on every shared one. -/
def paymentContentDigestsAgree (left right : PaymentContentDigest) : Bool :=
  agreeOn right left.algorithms.entries 0

/-- A member of a recognized algorithm, in canonical base64 of its exact length. -/
def Recognized (member : String × String) : Prop :=
  ∃ algorithm ∈ digestAlgorithms,
    algorithm.1 = member.1 ∧ canonicalBase64ByteLength member.2 = some algorithm.2

/-- The text of some member that is no duplicate may stand in a dictionary. -/
def WellFormed (member : String × String) : Prop :=
  isDigestKey member.1.toList = true ∧ ∃ length, canonicalBase64ByteLength member.2 = some length ∧
    ∀ algorithm ∈ digestAlgorithms, algorithm.1 = member.1 → algorithm.2 = length

def isRecognizedName (name : String) : Bool := digestAlgorithms.any fun a => a.1 == name

theorem isDigestKey_of_name {name : String} (h : isRecognizedName name = true) :
    isDigestKey name.toList = true := by
  obtain ⟨algorithm,hmem,hname⟩ := any_eq_true.1 h
  have hall : ∀ algorithm ∈ digestAlgorithms, isDigestKey algorithm.1.toList = true := by decide
  rw [← beq_iff_eq.1 hname]
  exact hall algorithm hmem

theorem Recognized.name (h : Recognized member) : isRecognizedName member.1 = true := by
  obtain ⟨algorithm,hmem,hname,-⟩ := h
  exact any_eq_true.2 ⟨algorithm,hmem,beq_iff_eq.2 hname⟩

theorem Recognized.wellFormed (h : Recognized member) : WellFormed member := by
  have hkey := isDigestKey_of_name h.name
  obtain ⟨algorithm,hmem,hname,hlength⟩ := h
  have hall : ∀ a ∈ digestAlgorithms, ∀ b ∈ digestAlgorithms, a.1 = b.1 → a.2 = b.2 := by decide
  exact ⟨hkey,algorithm.2,hlength,
    fun other hother hsame => hall other hother algorithm hmem (hsame.trans hname.symm)⟩

theorem isDigestKey_chars {key : List Char} (h : isDigestKey key = true) :
    key ≠ [] ∧ ∀ c ∈ key, c ≠ '=' ∧ c ≠ ' ' ∧ c ≠ '\t' ∧ c ≠ ',' := by
  cases key with
  | nil => cases h
  | cons first rest =>
    refine ⟨cons_ne_nil _ _,?_⟩
    rw [isDigestKey,Bool.and_eq_true,List.all_eq_true] at h
    intro c hc
    rcases mem_cons.1 hc with rfl | hc
    · have hfirst := h.1
      refine ⟨?_,?_,?_,?_⟩ <;> rintro rfl <;> revert hfirst <;> decide
    · have hrest := h.2 c hc
      refine ⟨?_,?_,?_,?_⟩ <;> rintro rfl <;> revert hrest <;> decide

theorem trimBlanks_memberText (h : isDigestKey member.1.toList = true) :
    trimBlanks (memberText member) = memberText member := by
  obtain ⟨hne,hchars⟩ := isDigestKey_chars h
  obtain ⟨first,rest,hkey⟩ := exists_cons_of_ne_nil hne
  obtain ⟨-,hspace,htab,-⟩ := hchars first (by rw [hkey]; exact mem_cons_self)
  have hopens : memberText member = first :: (rest ++ '=' :: ':' :: (member.2.toList ++ [':'])) := by
    rw [memberText,hkey,cons_append]
  have hcloses : memberText member = member.1.toList ++ '=' :: ':' :: member.2.toList ++ [':'] := by
    rw [memberText]
    simp
  have hfront : (memberText member).dropWhile isBlank = memberText member := by
    rw [hopens]
    exact dropWhile_cons_of_neg (by simp [isBlank,hspace,htab])
  have hback : (memberText member).reverse.dropWhile isBlank = (memberText member).reverse := by
    rw [hcloses,reverse_append,reverse_singleton,singleton_append]
    exact dropWhile_cons_of_neg (by decide)
  rw [trimBlanks,hfront,hback,reverse_reverse]

theorem WellFormed.recognized (h : WellFormed member) (hname : isRecognizedName member.1 = true) :
    Recognized member := by
  obtain ⟨-,length,hlength,halgorithm⟩ := h
  obtain ⟨algorithm,hmem,hname⟩ := any_eq_true.1 hname
  rw [beq_iff_eq] at hname
  refine ⟨algorithm,hmem,hname,?_⟩
  rw [hlength,halgorithm algorithm hmem hname]

/-- A member joins the keys met, and the recognized members when its algorithm is one. -/
def DigestMembers.add (members : DigestMembers) (member : String × String) : DigestMembers where
  seen := members.seen ++ [member.1]
  recognized :=
    if isRecognizedName member.1 then members.recognized ++ [member] else members.recognized

variable {members members' : DigestMembers}

theorem measure_eq_some_iff {name encoded : String} : members.measure name encoded = some members' ↔
      (∃ length, canonicalBase64ByteLength encoded = some length ∧
        ∀ algorithm ∈ digestAlgorithms, algorithm.1 = name → algorithm.2 = length) ∧
      members' = members.add (name, encoded) := by
  rw [DigestMembers.measure]
  cases hlength : canonicalBase64ByteLength encoded with
  | none => simp
  | some length =>
    cases hfind : digestAlgorithms.find? fun algorithm => algorithm.1 == name with
    | none =>
      rw [List.find?_eq_none] at hfind
      have hname : isRecognizedName name = false := by
        rw [isRecognizedName,List.any_eq_false]
        exact hfind
      have hno : ∀ algorithm ∈ digestAlgorithms, algorithm.1 = name → algorithm.2 = length :=
        fun algorithm hmem heq => absurd (beq_iff_eq.2 heq) (hfind algorithm hmem)
      simp only [some_inj,DigestMembers.add,hname]
      constructor
      · rintro rfl
        exact ⟨⟨length,rfl,hno⟩,rfl⟩
      · rintro ⟨-,rfl⟩
        rfl
    | some algorithm =>
      have hmem := mem_of_find?_eq_some hfind
      have heq : algorithm.1 = name := by simpa using List.find?_some hfind
      have hname : isRecognizedName name = true :=
        any_eq_true.2 ⟨algorithm,hmem,beq_iff_eq.2 heq⟩
      have hunique : ∀ a ∈ digestAlgorithms, ∀ b ∈ digestAlgorithms, a.1 = b.1 → a.2 = b.2 := by
        decide
      simp only [DigestMembers.add,hname,if_true,bne_iff_ne,ite_not,some_inj,exists_eq_left']
      by_cases hfits : length = algorithm.2
      · rw [if_pos hfits,some_inj]
        have hall : ∀ other ∈ digestAlgorithms, other.1 = name → other.2 = length :=
          fun other hother hsame => by
            rw [hfits]
            exact hunique other hother algorithm hmem (hsame.trans heq.symm)
        exact ⟨fun h => ⟨hall,h.symm⟩,fun h => h.2.symm⟩
      · rw [if_neg hfits]
        exact ⟨fun h => (nomatch h),fun h => absurd (h.1 algorithm hmem heq).symm hfits⟩

private theorem memberText_item {item : List Char} (hlength : ¬ item.length < 2)
    (hhead : item.head? = some ':') (hlast : item.getLast? = some ':') :
    item = ':' :: ((item.drop 1).dropLast ++ [':']) := by
  match item with
  | [] => simp at hlength
  | [c] => simp at hlength
  | c :: d :: rest =>
    obtain rfl : c = ':' := by simpa using hhead
    have hclosed := dropLast_append_getLast? ':' (l := d :: rest) (by simpa using hlast)
    rw [drop_one,tail_cons,hclosed]

theorem readMember_eq_some_iff :
    readMember members raw = some members' ↔ ∃ member, trimBlanks raw = memberText member ∧
      WellFormed member ∧ member.1 ∉ members.seen ∧ members' = members.add member := by
  constructor
  · intro h
    rw [readMember] at h
    have hsplit := takeWhile_append_dropWhile (p := (· != '=')) (l := trimBlanks raw)
    cases hrest : (trimBlanks raw).dropWhile (· != '=') with
    | nil => simp [hrest] at h
    | cons c item =>
      have hc : c = '=' := by
        have hhead := List.head?_dropWhile_not (· != '=') (trimBlanks raw)
        rw [hrest] at hhead
        simpa using hhead
      rw [hrest] at h hsplit
      simp only at h
      split_ifs at h with hkey hitem
      simp only [Bool.or_eq_true,decide_eq_true_eq,bne_iff_ne,not_or,not_not,
        Bool.not_eq_true,Bool.not_eq_false',contains_eq_mem] at hkey hitem
      obtain ⟨⟨-,hdigestKey⟩,hseen⟩ := hkey
      obtain ⟨⟨hitemLength,hhead⟩,hlast⟩ := hitem
      have hitem := memberText_item (by omega) hhead hlast
      set key := (trimBlanks raw).takeWhile (· != '=')
      set encoded := (item.drop 1).dropLast
      have htext : trimBlanks raw = memberText (String.ofList key, String.ofList encoded) := by
        rw [memberText,String.toList_ofList,String.toList_ofList,← hsplit,hc,← hitem]
      obtain ⟨hmeasured,rfl⟩ := measure_eq_some_iff.1 h
      refine ⟨_,htext,⟨?_,hmeasured⟩,by simpa using hseen,rfl⟩
      rw [String.toList_ofList]
      exact hdigestKey
  · rintro ⟨member,htext,⟨hkey,hmeasured⟩,hseen,rfl⟩
    obtain ⟨hne,hchars⟩ := isDigestKey_chars hkey
    have hbefore : ∀ c ∈ member.1.toList, (c != '=') = true := fun c hc => by
      simpa using (hchars c hc).1
    have htake : (trimBlanks raw).takeWhile (· != '=') = member.1.toList := by
      rw [htext,memberText,takeWhile_append_of_pos hbefore]
      simp
    have hdrop : (trimBlanks raw).dropWhile (· != '=') = '=' :: ':' :: (member.2.toList ++ [':']) := by
      rw [htext,memberText,dropWhile_append_of_pos hbefore]
      rfl
    rw [readMember,hdrop,htake]
    simp only [String.ofList_toList]
    rw [if_neg,if_neg]
    · have hencoded : ((':' :: (member.2.toList ++ [':'])).drop 1).dropLast = member.2.toList := by
        simp
      rw [hencoded,String.ofList_toList]
      exact measure_eq_some_iff.2 ⟨hmeasured,rfl⟩
    · simp [List.getLast?_cons]
    · have hname : member.1 ≠ "" := fun h => hne (by rw [h]; rfl)
      simp [hkey,hname,hseen]

/-- What reading the members `raws` established. -/
structure Reads (raws : List (List Char)) (members : DigestMembers) : Prop where
  recognized : ∀ member ∈ members.recognized, Recognized member
  seen : ∀ member ∈ members.recognized, member.1 ∈ members.seen
  nodup : (members.recognized.map Prod.fst).Nodup
  listed : ∀ member, member ∈ members.recognized ↔
    isRecognizedName member.1 = true ∧ ∃ raw ∈ raws, trimBlanks raw = memberText member

theorem memberText_injective {other : String × String} (h : isDigestKey member.1.toList = true)
    (h' : isDigestKey other.1.toList = true) (htext : memberText member = memberText other) :
    member = other := by
  have hbefore {m : String × String} (hm : isDigestKey m.1.toList = true) :
      (memberText m).takeWhile (· != '=') = m.1.toList := by
    rw [memberText,takeWhile_append_of_pos fun c hc => by
      simpa using ((isDigestKey_chars hm).2 c hc).1]
    simp
  have hkey : member.1 = other.1 := by
    apply String.toList_injective
    rw [← hbefore h,htext,hbefore h']
  rw [memberText,memberText,hkey,append_right_inj] at htext
  simp only [List.cons.injEq,true_and,append_left_inj] at htext
  exact Prod.ext hkey (String.toList_injective htext)

theorem Reads.step (h : Reads raws members) (hread : readMember members raw = some members') :
    Reads (raws ++ [raw]) members' := by
  obtain ⟨member,htext,hwell,hseen,rfl⟩ := readMember_eq_some_iff.1 hread
  by_cases hname : isRecognizedName member.1 = true
  · have hadd : members.add member = ⟨members.seen ++ [member.1],members.recognized ++ [member]⟩ := by
      rw [DigestMembers.add,if_pos hname]
    rw [hadd]
    refine ⟨?_,?_,?_,?_⟩
    · intro other hother
      rcases mem_append.1 hother with hother | hother
      · exact h.recognized other hother
      · rw [mem_singleton.1 hother]
        exact hwell.recognized hname
    · intro other hother
      rcases mem_append.1 hother with hother | hother
      · exact mem_append_left _ (h.seen other hother)
      · rw [mem_singleton.1 hother]
        exact mem_append_right _ (mem_singleton_self _)
    · rw [map_append,nodup_append]
      refine ⟨h.nodup,by simp,?_⟩
      intro key hkey other hother
      obtain ⟨earlier,hearlier,rfl⟩ := mem_map.1 hkey
      rw [map_singleton,mem_singleton] at hother
      rintro rfl
      exact hseen (hother ▸ h.seen earlier hearlier)
    · intro other
      rw [mem_append,mem_singleton,h.listed other]
      constructor
      · rintro (⟨hother,earlier,hearlier,hsame⟩ | rfl)
        · exact ⟨hother,earlier,mem_append_left _ hearlier,hsame⟩
        · exact ⟨hname,raw,by simp,htext⟩
      · rintro ⟨hother,earlier,hearlier,hsame⟩
        rcases mem_append.1 hearlier with hearlier | hearlier
        · exact Or.inl ⟨hother,earlier,hearlier,hsame⟩
        · rw [mem_singleton.1 hearlier,htext] at hsame
          right
          exact (memberText_injective hwell.1 (isDigestKey_of_name hother) hsame).symm
  · have hadd : members.add member = ⟨members.seen ++ [member.1],members.recognized⟩ := by
      rw [DigestMembers.add,if_neg hname]
    rw [hadd]
    refine ⟨h.recognized,fun other hother => mem_append_left _ (h.seen other hother),h.nodup,?_⟩
    intro other
    rw [h.listed other]
    constructor
    · rintro ⟨hother,earlier,hearlier,hsame⟩
      exact ⟨hother,earlier,mem_append_left _ hearlier,hsame⟩
    · rintro ⟨hother,earlier,hearlier,hsame⟩
      rcases mem_append.1 hearlier with hearlier | hearlier
      · exact ⟨hother,earlier,hearlier,hsame⟩
      · rw [mem_singleton.1 hearlier,htext] at hsame
        have heq := memberText_injective hwell.1 (isDigestKey_of_name hother) hsame
        rw [← heq] at hother
        exact absurd hother hname

theorem reads_foldlM {earlier : List (List Char)} (h : Reads earlier members)
    (hread : raws.foldlM readMember members = some members') :
    Reads (earlier ++ raws) members' := by
  induction raws generalizing earlier members with
  | nil =>
    rw [foldlM_nil] at hread
    cases hread
    rwa [append_nil]
  | cons raw raws ih =>
    rw [foldlM_cons] at hread
    obtain ⟨next,hnext,hrest⟩ := bind_eq_some_iff.1 hread
    have hreads := ih (h.step hnext) hrest
    rwa [append_assoc,singleton_append] at hreads

theorem parsePaymentContentDigest_eq_some {value : String} {digest : PaymentContentDigest}
    (h : parsePaymentContentDigest value = some digest) :
    ∃ members, Reads (value.toList.splitOn ',') members ∧ members.recognized ≠ [] ∧
      digest = digestOfMembers members.recognized := by
  rw [parsePaymentContentDigest] at h
  split_ifs at h
  cases hread : (value.toList.splitOn ',').foldlM readMember ⟨[],[]⟩ with
  | none => simp [hread] at h
  | some members =>
    simp only [hread] at h
    split_ifs at h with hnone
    have hstart : Reads [] ⟨[],[]⟩ := by
      refine ⟨by simp,by simp,by simp,by simp⟩
    exact ⟨members,reads_foldlM hstart hread,hnone,(some_inj.1 h).symm⟩

instance : Std.Total memberLe := ⟨fun a b => stringLe_total a.1 b.1⟩

instance : IsTrans (String × String) memberLe := ⟨fun _ _ _ h h' => stringLe_trans h h'⟩

theorem memberLe_antisymm {members : List (String × String)}
    (h : (members.map Prod.fst).Nodup) : ∀ a ∈ members, ∀ b ∈ members,
      memberLe a b → memberLe b a → a = b := by
  intro a ha b hb hab hba
  apply inj_on_of_nodup_map h ha hb
  by_contra hne
  rcases stringLt_total hne with hlt | hlt
  · rw [memberLe,hlt] at hba
    cases hba
  · rw [memberLe,hlt] at hab
    cases hab

theorem digestOfMembers_eq {members others : List (String × String)}
    (h : (members.map Prod.fst).Nodup) (h' : (others.map Prod.fst).Nodup)
    (hsame : ∀ member, member ∈ members ↔ member ∈ others) :
    digestOfMembers members = digestOfMembers others := by
  have hperm : members.Perm others :=
    (perm_ext_iff_of_nodup h.of_map h'.of_map).2 hsame
  rw [digestOfMembers,digestOfMembers,insertionSort_eq_of_perm hperm (memberLe_antisymm h)]

theorem splitOn_canonical (text : List Char) (texts : List (List Char))
    (h : ∀ t ∈ text :: texts, ',' ∉ t) :
    ([',', ' '].intercalate (text :: texts)).splitOn ',' = text :: texts.map (' ' :: ·) := by
  induction texts generalizing text with
  | nil =>
    rw [intercalate_singleton]
    exact splitOn_eq_singleton (h text (by simp))
  | cons next texts ih =>
    have hrest := ih next fun t ht => h t (mem_cons_of_mem _ ht)
    rw [intercalate_cons_cons,append_assoc,cons_append,cons_append,
      nil_append,splitOn_append_cons_self_of_not_mem (h text (by simp)),
      splitOn_cons_eq_if_modifyHead,hrest]
    rfl

theorem foldlM_blank (texts : List (List Char)) (members : DigestMembers) :
    (texts.map (' ' :: ·)).foldlM readMember members = texts.foldlM readMember members := by
  rw [foldlM_map]
  rfl

theorem foldlM_memberText {recognized : List (String × String)}
    (h : ∀ member ∈ recognized, Recognized member) (hnodup : (recognized.map Prod.fst).Nodup)
    (hfresh : ∀ member ∈ recognized, member.1 ∉ members.seen) :
    (recognized.map memberText).foldlM readMember members =
      some ⟨members.seen ++ recognized.map Prod.fst,members.recognized ++ recognized⟩ := by
  induction recognized generalizing members with
  | nil => simp
  | cons member recognized ih =>
    have hmember := h member (by simp)
    have hread : readMember members (memberText member) = some (members.add member) :=
      readMember_eq_some_iff.2 ⟨member,trimBlanks_memberText hmember.wellFormed.1,
        hmember.wellFormed,hfresh member (by simp),rfl⟩
    rw [map_cons,nodup_cons] at hnodup
    have hfresh' : ∀ other ∈ recognized, other.1 ∉ (members.add member).seen := by
      intro other hother hseen
      rcases mem_append.1 hseen with hseen | hseen
      · exact hfresh other (mem_cons_of_mem _ hother) hseen
      · rw [mem_singleton] at hseen
        exact hnodup.1 (mem_map.2 ⟨other,hother,hseen⟩)
    have hrest := ih (fun other hother => h other (mem_cons_of_mem _ hother)) hnodup.2 hfresh'
    rw [map_cons,foldlM_cons,hread]
    refine hrest.trans ?_
    rw [DigestMembers.add,if_pos hmember.name]
    simp

theorem Recognized.length_encoded (h : Recognized member) : member.2.toList.length ≤ 88 := by
  obtain ⟨algorithm,hmem,-,hlength⟩ := h
  obtain ⟨bytes,-,htext,hbytes⟩ := canonicalBase64ByteLength_iff.1 hlength
  have hall : ∀ algorithm ∈ digestAlgorithms, algorithm.2 ≤ 64 := by decide
  have hle := hall algorithm hmem
  rw [htext,Base64.Alphabet.encode,length_append,length_map,length_sextets, length_replicate,Base64.padding]
  omega

theorem Recognized.length_name (h : Recognized member) : member.1.toList.length ≤ 7 := by
  obtain ⟨algorithm,hmem,hname,-⟩ := h
  have hall : ∀ algorithm ∈ digestAlgorithms, algorithm.1.toList.length ≤ 7 := by decide
  rw [← hname]
  exact hall algorithm hmem

/-- Printable, and no separator of members. -/
def isMemberChar (c : Char) : Bool :=
  c != ',' && decide (c.toNat < 128) && !isControlCharacter c

theorem Recognized.memberText_chars (h : Recognized member) :
    ∀ c ∈ memberText member, isMemberChar c = true := by
  obtain ⟨algorithm,hmem,hname,hlength⟩ := h
  obtain ⟨bytes,-,htext,-⟩ := canonicalBase64ByteLength_iff.1 hlength
  have hnames : (digestAlgorithms.all fun algorithm => algorithm.1.toList.all isMemberChar) =
      true := by decide
  have hsymbols : standard.symbols.all isMemberChar = true := by decide +kernel
  intro c hc
  rw [memberText,← hname,htext,Base64.Alphabet.encode] at hc
  simp only [mem_append,mem_cons,not_mem_nil,or_false,mem_replicate] at hc
  rcases hc with hc | rfl | rfl | (hc | ⟨-,rfl⟩) | rfl
  · exact all_eq_true.1 (all_eq_true.1 hnames algorithm hmem) c hc
  · decide
  · decide
  · exact all_eq_true.1 hsymbols c (symbols_mem bytes c hc)
  · decide
  · decide

theorem length_intercalate_le {k : Nat} (h : ∀ text ∈ texts, text.length ≤ k) :
    ([',', ' '].intercalate texts).length ≤ texts.length * (k + 2) := by
  induction texts with
  | nil => simp
  | cons text texts ih =>
    have hrest := ih fun t ht => h t (mem_cons_of_mem _ ht)
    have htext := h text (by simp)
    cases texts with
    | nil =>
      rw [intercalate_singleton,length_singleton]
      omega
    | cons next texts =>
      have hcount : (text :: next :: texts).length * (k + 2) =
          (next :: texts).length * (k + 2) + (k + 2) := by rw [length_cons,Nat.succ_mul]
      rw [intercalate_cons_cons,length_append,length_append,hcount]
      simp only [length_cons,length_nil] at hrest ⊢
      omega

theorem mem_intercalate (h : c ∈ [',', ' '].intercalate texts) :
    c = ',' ∨ c = ' ' ∨ ∃ text ∈ texts, c ∈ text := by
  induction texts with
  | nil => simp at h
  | cons text texts ih =>
    cases texts with
    | nil =>
      rw [intercalate_singleton] at h
      exact Or.inr (Or.inr ⟨text,by simp,h⟩)
    | cons next texts =>
      rw [intercalate_cons_cons,append_assoc,mem_append,mem_append] at h
      rcases h with h | h | h
      · exact Or.inr (Or.inr ⟨text,by simp,h⟩)
      · simp only [mem_cons,not_mem_nil,or_false] at h
        rcases h with h | h
        · exact Or.inl h
        · exact Or.inr (Or.inl h)
      · rcases ih h with h | h | ⟨other,hother,hmem⟩
        · exact Or.inl h
        · exact Or.inr (Or.inl h)
        · exact Or.inr (Or.inr ⟨other,mem_cons_of_mem _ hother,hmem⟩)

theorem parse_canonical {recognized : List (String × String)} (hne : recognized ≠ [])
    (h : ∀ member ∈ recognized, Recognized member) (hnodup : (recognized.map Prod.fst).Nodup) :
    parsePaymentContentDigest (digestOfMembers recognized).canonical =
      some (digestOfMembers recognized) := by
  have hperm := perm_insertionSort memberLe recognized
  have hsame := digestOfMembers_eq ((hperm.map _).nodup_iff.2 hnodup) hnodup
    fun member => hperm.mem_iff
  generalize hsorted : recognized.insertionSort memberLe = sorted at hperm hsame
  have hsortedNodup : (sorted.map Prod.fst).Nodup := (hperm.map _).nodup_iff.2 hnodup
  have hvalid : ∀ member ∈ sorted, Recognized member := fun m hm => h m (hperm.mem_iff.1 hm)
  have hcanonical : (digestOfMembers recognized).canonical.toList =
      [',', ' '].intercalate (sorted.map memberText) := by
    rw [digestOfMembers,hsorted,String.toList_ofList]
  have hchars : ∀ c ∈ (digestOfMembers recognized).canonical.toList,
      c.toNat < 128 ∧ isControlCharacter c = false := by
    intro c hc
    rw [hcanonical] at hc
    rcases mem_intercalate hc with rfl | rfl | ⟨text,htext,hmem⟩
    · decide
    · decide
    · obtain ⟨member,hmember,rfl⟩ := mem_map.1 htext
      have hchar := (hvalid member hmember).memberText_chars c hmem
      simp only [isMemberChar,Bool.and_eq_true,decide_eq_true_eq,Bool.not_eq_true'] at hchar
      exact ⟨hchar.1.2,hchar.2⟩
  have hcount : sorted.length ≤ 2 := by
    have hsub : sorted.map Prod.fst ⊆ digestAlgorithms.map Prod.fst := by
      intro name hname
      obtain ⟨member,hmember,rfl⟩ := mem_map.1 hname
      obtain ⟨algorithm,hmem,hname,-⟩ := hvalid member hmember
      exact mem_map.2 ⟨algorithm,hmem,hname⟩
    simpa [digestAlgorithms] using (subperm_of_subset hsortedNodup hsub).length_le
  have hlength : (codeUnits (digestOfMembers recognized).canonical).length ≤
      paymentContentDigestMaximumLength := by
    rw [length_codeUnits_of_ascii fun c hc => (hchars c hc).1,hcanonical]
    have htexts : ∀ text ∈ sorted.map memberText, text.length ≤ 98 := by
      intro text htext
      obtain ⟨member,hmember,rfl⟩ := mem_map.1 htext
      have hname := (hvalid member hmember).length_name
      have hencoded := (hvalid member hmember).length_encoded
      simp only [memberText,length_append,length_cons,length_nil]
      omega
    have hbound := length_intercalate_le htexts
    rw [length_map] at hbound
    rw [paymentContentDigestMaximumLength]
    omega
  have hsortedNe : sorted ≠ [] := by
    rintro rfl
    exact hne (nil_perm.1 hperm)
  obtain ⟨first,rest,rfl⟩ := exists_cons_of_ne_nil hsortedNe
  have hsplit : (digestOfMembers recognized).canonical.toList.splitOn ',' =
      memberText first :: (rest.map memberText).map (' ' :: ·) := by
    rw [hcanonical,map_cons]
    refine splitOn_canonical _ _ fun text htext => ?_
    rw [← map_cons] at htext
    obtain ⟨member,hmember,rfl⟩ := mem_map.1 htext
    intro hcomma
    have hchar := (hvalid member hmember).memberText_chars ',' hcomma
    revert hchar
    decide
  have hread : ((digestOfMembers recognized).canonical.toList.splitOn ',').foldlM readMember
      ⟨[],[]⟩ = some ⟨(first :: rest).map Prod.fst,first :: rest⟩ := by
    have hfold : ((first :: rest).map memberText).foldlM readMember ⟨[],[]⟩ =
        some ⟨(first :: rest).map Prod.fst,first :: rest⟩ :=
      foldlM_memberText hvalid hsortedNodup (by simp)
    rw [hsplit,foldlM_cons]
    simp only [foldlM_blank]
    rwa [map_cons,foldlM_cons] at hfold
  have hempty : (digestOfMembers recognized).canonical ≠ "" := by
    intro h
    rw [h] at hsplit
    have hfirst : [] = memberText first := (List.cons.inj hsplit).1
    simp [memberText] at hfirst
  have hcontrol : (digestOfMembers recognized).canonical.toList.any isControlCharacter = false := by
    rw [List.any_eq_false]
    intro c hc
    rw [(hchars c hc).2]
    decide
  rw [parsePaymentContentDigest,if_neg,hread]
  · simp only [reduceCtorEq,if_false,hsame]
  · simp [hempty,hcontrol,hlength]

/-- The text names the value for a recognized algorithm. -/
def Names (value algorithm encoded : String) : Prop :=
  isRecognizedName algorithm = true ∧
    ∃ raw ∈ value.toList.splitOn ',', trimBlanks raw = memberText (algorithm, encoded)

theorem agreeOn_iff (right : PaymentContentDigest) (entries : List (String × String))
    (shared : Nat) :
    agreeOn right entries shared = true ↔ (0 < shared ∨ ∃ e ∈ entries, e ∈ right.algorithms.entries) ∧
        ∀ e ∈ entries, ∀ other, (e.1, other) ∈ right.algorithms.entries → other = e.2 := by
  induction entries generalizing shared with
  | nil => simp [agreeOn]
  | cons entry entries ih =>
    obtain ⟨algorithm,encoded⟩ := entry
    rw [agreeOn]
    cases hget : right.algorithms.get algorithm with
    | none =>
      have hout : ∀ other, (algorithm, other) ∉ right.algorithms.entries := fun other hmem => by
        rw [OrderedMap.get_eq_some_iff.2 hmem] at hget
        cases hget
      simp only [ih,mem_cons,forall_eq_or_imp,exists_eq_or_imp]
      simp [hout]
    | some other =>
      have hmem := OrderedMap.get_eq_some_iff.1 hget
      have hunique : ∀ value, (algorithm, value) ∈ right.algorithms.entries ↔ value = other := by
        intro value
        rw [← OrderedMap.get_eq_some_iff,hget,some_inj,eq_comm]
      simp only [bne_iff_ne,ite_not,mem_cons,forall_eq_or_imp,exists_eq_or_imp,hunique, forall_eq]
      by_cases heq : other = encoded
      · simp [heq,ih]
      · simp [heq]

theorem paymentContentDigestsAgree_iff {left right : PaymentContentDigest} :
    paymentContentDigestsAgree left right = true ↔
      (∃ e ∈ left.algorithms.entries, e ∈ right.algorithms.entries) ∧
        ∀ algorithm mine other, (algorithm, mine) ∈ left.algorithms.entries →
          (algorithm, other) ∈ right.algorithms.entries → mine = other := by
  rw [paymentContentDigestsAgree,agreeOn_iff]
  constructor
  · rintro ⟨hshared,hagree⟩
    exact ⟨hshared.resolve_left (lt_irrefl 0),
      fun algorithm mine other hmine hother => (hagree _ hmine other hother).symm⟩
  · rintro ⟨hshared,hagree⟩
    exact ⟨Or.inr hshared,fun e he other hother => (hagree e.1 e.2 other he hother).symm⟩

theorem paymentContentDigestsAgree_comm (left right : PaymentContentDigest) :
    paymentContentDigestsAgree left right = paymentContentDigestsAgree right left := by
  rw [Bool.eq_iff_iff,paymentContentDigestsAgree_iff,paymentContentDigestsAgree_iff]
  constructor
  · rintro ⟨⟨e,he,he'⟩,hagree⟩
    exact ⟨⟨e,he',he⟩,fun a mine other hmine hother => (hagree a other mine hother hmine).symm⟩
  · rintro ⟨⟨e,he,he'⟩,hagree⟩
    exact ⟨⟨e,he',he⟩,fun a mine other hmine hother => (hagree a other mine hother hmine).symm⟩

/-- The canonical text parses to its own digest, two texts that name the same recognized values
have the same canonical text, base64 is accepted in one spelling, and agreement is symmetric. -/
theorem contentDigest_canonical : (∀ value digest, parsePaymentContentDigest value = some digest →
      parsePaymentContentDigest digest.canonical = some digest) ∧
    (∀ value other digest digest', parsePaymentContentDigest value = some digest →
      parsePaymentContentDigest other = some digest' →
      (∀ algorithm encoded, Names value algorithm encoded ↔ Names other algorithm encoded) →
      digest.canonical = digest'.canonical) ∧
    (∀ text n, canonicalBase64ByteLength text = some n ↔ ∃ bytes : List UInt8, bytes ≠ [] ∧
      text.toList = standard.encode bytes ∧ n = bytes.length) ∧
    (∀ text other n m, canonicalBase64ByteLength text = some n →
      canonicalBase64ByteLength other = some m → text ≠ other →
      standard.decode text.toList ≠ standard.decode other.toList) ∧
    ∀ left right, paymentContentDigestsAgree left right = paymentContentDigestsAgree right left := by
  refine ⟨?_,?_,fun text n => canonicalBase64ByteLength_iff,?_,paymentContentDigestsAgree_comm⟩
  · intro value digest hparse
    obtain ⟨members,hreads,hne,rfl⟩ := parsePaymentContentDigest_eq_some hparse
    exact parse_canonical hne hreads.recognized hreads.nodup
  · intro value other digest digest' hparse hparse' hnames
    obtain ⟨members,hreads,-,rfl⟩ := parsePaymentContentDigest_eq_some hparse
    obtain ⟨members',hreads',-,rfl⟩ := parsePaymentContentDigest_eq_some hparse'
    rw [digestOfMembers_eq hreads.nodup hreads'.nodup]
    rintro ⟨algorithm,encoded⟩
    rw [hreads.listed,hreads'.listed]
    exact hnames algorithm encoded
  · intro text other n m htext hother hne heq
    obtain ⟨bytes,-,hbytes,-⟩ := canonicalBase64ByteLength_iff.1 htext
    obtain ⟨bytes',-,hbytes',-⟩ := canonicalBase64ByteLength_iff.1 hother
    rw [hbytes,hbytes',decode_encode,decode_encode] at heq
    apply hne
    apply String.toList_injective
    rw [hbytes,hbytes',heq]

def sampleContentDigest : String :=
  "other=:AAA=:, sha-256=:AAAAAAAAAAAAAAAAAAAAAAAAAAAAAAAAAAAAAAAAAAA=:"

theorem sampleContentDigest_canonical :
    ∃ digest, parsePaymentContentDigest sampleContentDigest = some digest ∧
      parsePaymentContentDigest digest.canonical = some digest := by
  have hparse : (parsePaymentContentDigest sampleContentDigest).isSome = true := by decide +kernel
  obtain ⟨digest,hdigest⟩ := Option.isSome_iff_exists.1 hparse
  exact ⟨digest,hdigest,contentDigest_canonical.1 _ _ hdigest⟩

end Frontera.Payment
