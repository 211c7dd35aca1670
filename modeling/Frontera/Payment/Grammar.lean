import Frontera.Grant.Parameters
import Frontera.Text.Literals
import Frontera.Text.Pattern

/-! The texts a payment, an execution and a settlement may carry: opaque identifiers, canonical
instants, digests, payment references, and the provider references that are shaped like no
credential and no destination. -/

namespace Frontera.Payment

open Frontera.Monetary Frontera.Text List
open Frontera.Grant (isSemanticIdentifier isGovernedParameterToken)

def isOpaqueIdentifierChar (c : Char) : Bool :=
  isAsciiAlphanumeric c || ['.', '_', ':', '@', '/', '-'].contains c

/-- `OPAQUE_ID` -/
def isOpaqueExecutionIdentifier (value : String) : Bool :=
  match value.toList with
  | [] => false
  | first :: rest =>
      isAsciiAlphanumeric first && decide (rest.length ≤ 255) && rest.all isOpaqueIdentifierChar

theorem isOpaqueExecutionIdentifier_literal {value : String} {first : Char} {rest : List Char}
    (h : value = String.ofList (first :: rest)) (hfirst : isAsciiAlphanumeric first = true)
    (hlength : rest.length ≤ 255) (hrest : rest.all isOpaqueIdentifierChar = true) :
    isOpaqueExecutionIdentifier value = true := by
  rw [isOpaqueExecutionIdentifier,toList_literal h]
  simp [hfirst,hlength,hrest]

def isAsciiDigit (c : Char) : Bool := '0' ≤ c && c ≤ '9'

def isLowercaseHex (c : Char) : Bool := isAsciiDigit c || ('a' ≤ c && c ≤ 'f')

/-- `DIGEST_PATTERN` -/
def isWellFormedDigest (value : String) : Bool :=
  value.toList.take 7 == "sha256:".toList && decide ((value.toList.drop 7).length = 64) &&
    (value.toList.drop 7).all isLowercaseHex

theorem isWellFormedDigest_literal {value : String} {hex : List Char}
    (h : value = String.ofList ("sha256:".toList ++ hex)) (hlength : hex.length = 64)
    (hhex : hex.all isLowercaseHex = true) : isWellFormedDigest value = true := by
  have htag : "sha256:".toList.length = 7 := by decide
  rw [isWellFormedDigest,toList_literal h,← htag,take_left,drop_left]
  simp [hlength,hhex]

def isPrintable (c : Char) : Bool := decide (0x20 ≤ c.toNat) && decide (c.toNat ≤ 0x7e)

/-- `PRINTABLE_TRIMMED`: printable characters, neither end a space. -/
def isPrintableTrimmed (value : String) : Bool :=
  value != "" && value.toList.all isPrintable && value.toList.head? != some ' ' &&
    value.toList.getLast? != some ' '

def isWordChar (c : Char) : Bool := isAsciiAlphanumeric c || c == '_'

private def space : Pattern := .one isTrimmed

private def base64Url : Pattern := .one fun c => isAsciiAlphanumeric c || c == '_' || c == '-'

/-- The shapes that are never a reference: a bearer or basic credential, a JWT, a PEM block,
a URL, a cookie pair, an authorization header. -/
def unsafeReferencePatterns : List Pattern :=
  [ .atWord isWordChar (.concat [.literalFold "bearer", space]),
    .atWord isWordChar (.concat [.literalFold "basic", .atLeast 1 space,
      .atLeast 8 (.one fun c => isAsciiAlphanumeric c || ['+', '/', '='].contains c)]),
    .concat [.literal "eyJ", .atLeast 4 base64Url, .literal ".", .atLeast 4 base64Url, .many .any],
    .anywhere (.concat [.literal "-----BEGIN ", .many (.one fun c => ('A' ≤ c && c ≤ 'Z') || c == ' '),
      .alt (.literal "PRIVATE KEY") (.literal "CERTIFICATE"), .literal "-----"]),
    .anywhere (.concat [.one isAsciiLetter,
      .many (.one fun c => isAsciiAlphanumeric c || ['+', '.', '-'].contains c), .literal "://"]),
    .concat [.option (.seq (.many .any) (.one fun c => c == ';' || isTrimmed c)),
      .option (.literalFold "set-"), .literalFold "cookie", .many space, .chars [':', '='], .many .any],
    .atWord isWordChar (.concat [.literalFold "authorization", .many space, .chars [':', '=']]) ]

def isRecordableProviderRef (value : String) : Bool :=
  decide ((codeUnits value).length ≤ 512) && isPrintableTrimmed value &&
    unsafeReferencePatterns.all fun pattern => !pattern.matchesText value

/-- Letters, digits and dashes: no credential is written with these alone. -/
def isPlainReferenceChar (c : Char) : Bool := isAsciiAlphanumeric c || c == '-'

theorem isPlainReferenceChar_range {c : Char} (h : isPlainReferenceChar c = true) :
    45 ≤ c.toNat ∧ c.toNat ≤ 122 ∧ c.toNat ≠ 46 ∧ c.toNat ≠ 58 ∧ c.toNat ≠ 61 ∧ c.toNat ≠ 59 := by
  have hranges : (65 ≤ c.toNat ∧ c.toNat ≤ 90) ∨ (97 ≤ c.toNat ∧ c.toNat ≤ 122) ∨
      (48 ≤ c.toNat ∧ c.toNat ≤ 57) ∨ c.toNat = 45 := by
    simp only [isPlainReferenceChar,isAsciiAlphanumeric,isAsciiLetter,Bool.or_eq_true,
      Bool.and_eq_true,decide_eq_true_eq,Char.le_def,UInt32.le_iff_toNat_le,beq_iff_eq] at h
    rcases h with ((h | h) | h) | rfl
    all_goals first | (change _ ≤ c.toNat ∧ c.toNat ≤ _ at h; simp at h; omega) | simp
  omega

theorem isTrimmed_of_isPlainReferenceChar {c : Char} (h : isPlainReferenceChar c = true) :
    isTrimmed c = false := by
  have hrange := isPlainReferenceChar_range h
  simp only [isTrimmed,mem_cons,not_mem_nil,or_false,Bool.or_eq_false_iff,
    decide_eq_false_iff_not,Bool.and_eq_false_iff]
  omega

theorem unsafeReferencePatterns_needs {pattern : Pattern} (h : pattern ∈ unsafeReferencePatterns) :
    pattern.Needs fun c => isPlainReferenceChar c = false := by
  have htrimmed : ∀ c, isTrimmed c = true → isPlainReferenceChar c = false := by
    intro c hc
    by_contra hplain
    rw [isTrimmed_of_isPlainReferenceChar (by simpa using hplain)] at hc
    cases hc
  have hmarks : ∀ c, [':', '='].contains c = true → isPlainReferenceChar c = false := by
    intro c hc
    simp only [contains_cons,contains_nil,Bool.or_false,Bool.or_eq_true,beq_iff_eq] at hc
    rcases hc with rfl | rfl <;> decide
  simp only [unsafeReferencePatterns,mem_cons,not_mem_nil,or_false] at h
  rcases h with rfl | rfl | rfl | rfl | rfl | rfl | rfl
  · exact Pattern.Needs.concat (.tail _ (.head _)) (Pattern.Needs.concat (.tail _ (.head _)) htrimmed)
  · refine Pattern.Needs.concat (.tail _ (.head _)) (Pattern.Needs.concat (.tail _ (.head _)) ?_)
    exact Pattern.Needs.followedBy (.inl (Pattern.Needs.followedBy (.inl htrimmed)))
  · exact Pattern.Needs.concat (.tail _ (.tail _ (.head _)))
      (Pattern.Needs.literal (by rw [toList_literal rfl]; exact .head _) (c := '.') rfl)
  · exact Pattern.Needs.concat (.tail _ (.head _)) (Pattern.Needs.concat (.head _)
      (Pattern.Needs.literal (c := ' ') (by rw [toList_literal rfl]; decide) rfl))
  · exact Pattern.Needs.concat (.tail _ (.head _)) (Pattern.Needs.concat (.tail _ (.tail _ (.head _)))
      (Pattern.Needs.literal (c := ':') (by rw [toList_literal rfl]; decide) rfl))
  · exact Pattern.Needs.concat (.tail _ (.tail _ (.tail _ (.tail _ (.head _))))) hmarks
  · exact Pattern.Needs.concat (.tail _ (.head _)) (Pattern.Needs.concat (.tail _ (.tail _ (.head _)))
      hmarks)

variable {value : String} {chars : List Char}

theorem codeUnits_of_plain (h : value = String.ofList chars)
    (hplain : chars.all isPlainReferenceChar = true) : codeUnits value = chars.map Char.toNat := by
  rw [all_eq_true] at hplain
  rw [codeUnits,toList_literal h,map_eq_flatMap]
  refine flatMap_congr fun c hc => ?_
  have hrange := isPlainReferenceChar_range (hplain c hc)
  rw [charCodeUnits,if_pos (by omega)]

theorem isRecordableProviderRef_of_plain (h : value = String.ofList chars) (hopens : chars ≠ [])
    (hlength : chars.length ≤ 512) (hplain : chars.all isPlainReferenceChar = true) :
    isRecordableProviderRef value = true := by
  have hunits := codeUnits_of_plain h hplain
  rw [all_eq_true] at hplain
  have hspace : ∀ c ∈ chars, c ≠ ' ' := by
    rintro c hc rfl
    exact absurd (hplain _ hc) (by decide)
  have htrimmed : isPrintableTrimmed value = true := by
    have hempty : value ≠ "" := by
      rintro rfl
      exact hopens (by simpa using (toList_literal h).symm)
    simp only [isPrintableTrimmed,toList_literal h,Bool.and_eq_true,bne_iff_ne,ne_eq,hempty,
      not_false_eq_true,all_eq_true,true_and]
    refine ⟨⟨fun c hc => ?_,fun hhead => ?_⟩,fun hlast => ?_⟩
    · have hrange := isPlainReferenceChar_range (hplain c hc)
      simp only [isPrintable,Bool.and_eq_true,decide_eq_true_eq]
      omega
    · exact hspace _ (mem_of_head? hhead) rfl
    · exact hspace _ (mem_of_getLast? hlast) rfl
  have hunsafe : (unsafeReferencePatterns.all fun pattern => !pattern.matchesText value) = true := by
    rw [all_eq_true]
    intro pattern hpattern
    rw [Pattern.matchesText,toList_literal h,
      (unsafeReferencePatterns_needs hpattern).matchesChars_eq_false]
    · rfl
    · intro c hc
      simp [hplain c hc]
  simp [isRecordableProviderRef,hunits,hlength,htrimmed, hunsafe]

private def opensAlphanumeric (rest : Char → Bool) (value : String) : Bool :=
  match value.toList with
  | [] => false
  | first :: tail => isAsciiAlphanumeric first && tail.all rest

def isPaymentReference (value : String) : Bool :=
  decide ((codeUnits value).length ≤ 200) &&
    opensAlphanumeric
      (fun c => isAsciiAlphanumeric c || ['.', '_', ':', '@', '+', '=', '-'].contains c) value &&
    isRecordableProviderRef value

def isPaymentBusinessReference (value : String) : Bool :=
  isGovernedParameterToken value && isRecordableProviderRef value

def isAsciiLowercase (c : Char) : Bool := 'a' ≤ c && c ≤ 'z'

/-- Words of `inner` characters behind a lower-case letter, joined by single separators. -/
private def separatedWords (inner separators : Char → Bool) : Pattern :=
  .concat [.one isAsciiLowercase, .many (.one inner),
    .many (.seq (.one separators) (.atLeast 1 (.one inner)))]

def isPaymentRailId (value : String) : Bool :=
  isSemanticIdentifier value && isRecordableProviderRef value

private def isLowercaseAlphanumeric (c : Char) : Bool := isAsciiLowercase c || isAsciiDigit c

def isPaymentDestinationKind (value : String) : Bool :=
  decide ((codeUnits value).length ≤ 32) &&
    (separatedWords isLowercaseAlphanumeric fun c => c == '-').matchesText value

def isPaymentEnvelopeIdentifier (value : String) : Bool :=
  value != "" && decide ((codeUnits value).length ≤ 256) && value == trim value &&
    !value.toList.any isControlCharacter && isRecordableProviderRef value

variable {value : String} {chars : List Char}

theorem trim_of_plain (h : value = String.ofList chars)
    (hplain : chars.all isPlainReferenceChar = true) : trim value = value := by
  have hdrop : ∀ text : List Char, text.all isPlainReferenceChar = true →
      text.dropWhile isTrimmed = text := by
    intro text htext
    cases text with
    | nil => rfl
    | cons c rest =>
      rw [all_cons,Bool.and_eq_true] at htext
      exact dropWhile_cons_of_neg (by simp [isTrimmed_of_isPlainReferenceChar htext.1])
  rw [trim,toList_literal h,hdrop chars hplain,hdrop _ (by rw [all_reverse,hplain]), reverse_reverse,h]

theorem isPaymentEnvelopeIdentifier_of_plain (h : value = String.ofList chars) (hopens : chars ≠ [])
    (hlength : chars.length ≤ 256) (hplain : chars.all isPlainReferenceChar = true) :
    isPaymentEnvelopeIdentifier value = true := by
  have hrecordable := isRecordableProviderRef_of_plain h hopens (by omega) hplain
  have hcontrol : chars.any isControlCharacter = false := by
    rw [any_eq_false]
    intro c hc
    have hrange := isPlainReferenceChar_range (all_eq_true.1 hplain c hc)
    simp only [isControlCharacter,Bool.or_eq_true,Bool.and_eq_true,decide_eq_true_eq]
    omega
  have hempty : value ≠ "" := by
    rintro rfl
    exact hopens (by simpa using (toList_literal h).symm)
  simp [isPaymentEnvelopeIdentifier,hrecordable,codeUnits_of_plain h hplain,hlength,hcontrol,
    hempty,toList_literal h,trim_of_plain h hplain]

theorem isPaymentReference_of_plain {first : Char} {rest : List Char}
    (h : value = String.ofList (first :: rest)) (hfirst : isAsciiAlphanumeric first = true)
    (hlength : rest.length ≤ 199) (hrest : rest.all isPlainReferenceChar = true) :
    isPaymentReference value = true := by
  have hplain : (first :: rest).all isPlainReferenceChar = true := by
    rw [all_cons,hrest,Bool.and_true,isPlainReferenceChar,hfirst,Bool.true_or]
  have hrecordable := isRecordableProviderRef_of_plain h (cons_ne_nil _ _)
    (by simp only [length_cons]; omega) hplain
  have hopens : opensAlphanumeric (fun c => isAsciiAlphanumeric c ||
      ['.', '_', ':', '@', '+', '=', '-'].contains c) value = true := by
    rw [opensAlphanumeric,toList_literal h]
    simp only [hfirst,Bool.true_and]
    rw [all_eq_true] at hrest ⊢
    intro c hc
    have hplain' := hrest c hc
    rw [isPlainReferenceChar,Bool.or_eq_true,beq_iff_eq] at hplain'
    rcases hplain' with halnum | rfl
    · rw [halnum,Bool.true_or]
    · rfl
  rw [isPaymentReference,hopens,hrecordable,codeUnits_of_plain h hplain]
  simp only [length_map,length_cons,Bool.and_true,decide_eq_true_eq]
  omega

theorem isPaymentBusinessReference_of_plain {first : Char} {rest : List Char}
    (h : value = String.ofList (first :: rest)) (hfirst : isAsciiAlphanumeric first = true)
    (hlength : rest.length ≤ 127) (hrest : rest.all isPlainReferenceChar = true) :
    isPaymentBusinessReference value = true := by
  have hplain : (first :: rest).all isPlainReferenceChar = true := by
    rw [all_cons,hrest,Bool.and_true,isPlainReferenceChar,hfirst,Bool.true_or]
  have hrecordable := isRecordableProviderRef_of_plain h (cons_ne_nil _ _)
    (by simp only [length_cons]; omega) hplain
  have htoken : isGovernedParameterToken value = true := by
    have hall : (rest.all fun c => isAsciiAlphanumeric c ||
        ['.', '_', ':', '@', '-'].contains c) = true := by
      rw [all_eq_true] at hrest ⊢
      intro c hc
      have hplain' := hrest c hc
      rw [isPlainReferenceChar,Bool.or_eq_true,beq_iff_eq] at hplain'
      rcases hplain' with halphanumeric | rfl
      · rw [halphanumeric,Bool.true_or]
      · decide
    rw [isGovernedParameterToken,toList_literal h]
    simp only [codeUnits_of_plain h hplain,hfirst,hall,Grant.governedParameterTokenMaxLength,
      length_map,length_cons,Bool.and_true,decide_eq_true_eq]
    omega
  simp [isPaymentBusinessReference,htoken,hrecordable]

end Frontera.Payment
