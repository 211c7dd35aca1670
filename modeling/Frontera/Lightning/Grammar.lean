import Frontera.Lightning.FieldLoop

/-! The parts an invoice is written from, what each must be, and what they state. Parsing accepts
exactly the texts that are written so, and reads what they state. -/

namespace Frontera.Lightning

open Frontera.Data List FieldState

/-- The currency of a network as BOLT11 spells it behind `ln`. -/
def LightningNetwork.currency : LightningNetwork → List Char
  | .mainnet => ['b', 'c']
  | .testnet => ['t', 'b']
  | .signet => ['t', 'b', 's']
  | .regtest => ['b', 'c', 'r', 't']

theorem behind_eq_some_iff {beginning text rest : List Char} :
    behind beginning text = some rest ↔ text = beginning ++ rest := by
  induction beginning generalizing text with
  | nil => simp [behind]
  | cons b beginning ih =>
    cases text with
    | nil => simp [behind]
    | cons c text =>
      rw [behind]
      by_cases heq : b = c
      · rw [if_pos heq,ih,heq,cons_append,List.cons.injEq]
        simp
      · rw [if_neg heq,cons_append,List.cons.injEq]
        simp [Ne.symm heq]

variable {amount : List Char} {network : LightningNetwork} {fields : List TaggedField}
  {parsed : Parsed}

theorem matchCurrency_sound {hrp : List Char} (h : matchCurrency hrp = some (network, amount)) :
    hrp = 'l' :: 'n' :: network.currency ++ amount := by
  obtain ⟨currency,hmem,hmatch⟩ := exists_of_findSome?_eq_some h
  have hcurrency : currency.2 = currency.1.currency := by
    simp only [currencies,mem_cons,not_mem_nil,or_false] at hmem
    rcases hmem with rfl | rfl | rfl | rfl <;> rfl
  split at hmatch
  · cases hmatch
  · next rest hbehind =>
    split at hmatch
    · cases hmatch
      rw [behind_eq_some_iff.1 hbehind,hcurrency]
      rfl
    · cases hmatch

theorem matchCurrency_complete (hchars : amount.all isAmountChar = true)
    (hhead : ∀ c ∈ amount.head?, c.isDigit = true) :
    matchCurrency ('l' :: 'n' :: network.currency ++ amount) = some (network, amount) := by
  have hfirst : ∀ c : Char, c.isDigit = false → ∀ rest, amount ≠ c :: rest := by
    rintro c hc rest rfl
    have hdigit := hhead c rfl
    rw [hc] at hdigit
    cases hdigit
  have hnot : ∀ (c : Char) (beginning : List Char), c.isDigit = false →
      behind (c :: beginning) amount = none := by
    intro c beginning hc
    cases hbehind : behind (c :: beginning) amount with
    | none => rfl
    | some rest => exact absurd (behind_eq_some_iff.1 hbehind) (hfirst c hc _)
  have hr := hnot 'r' ['t'] (by decide)
  have hs := hnot 's' [] (by decide)
  cases network <;>
    simp [matchCurrency,currencies,LightningNetwork.currency,behind,List.findSome?,hr,hs,
      hchars,-all_eq_true]

theorem StatesAmount.amountChars {msat : Nat} (h : StatesAmount amount msat) :
    amount.all isAmountChar = true ∧ ∀ c ∈ amount.head?, c.isDigit = true := by
  obtain ⟨digits,multiplier,rfl,hdigits,hmultiplier,-⟩ := h
  have hall := isAmountDigits_isDigit hdigits
  constructor
  · rw [all_eq_true]
    intro c hc
    rcases mem_append.1 hc with hc | hc
    · rw [isAmountChar,hall c hc,Bool.true_or]
    · have hm := hmultiplier c (Option.mem_toList.1 hc)
      rw [isMultiplier,contains_iff_mem] at hm
      simp only [mem_cons,not_mem_nil,or_false] at hm
      rcases hm with rfl | rfl | rfl | rfl <;> decide
  · intro c hc
    cases digits with
    | nil => cases hdigits
    | cons d digits =>
      rw [cons_append,List.head?_cons] at hc
      rw [← Option.some_inj.1 hc]
      exact hall d mem_cons_self

/-- What an amount states: nothing when it is empty. -/
def AmountStates (amount : List Char) : Option Nat → Prop
  | none => amount = []
  | some msat => StatesAmount amount msat

theorem readPrefix_eq_ok {hrp : List Char} {msat : Option Nat} : readPrefix hrp = .ok (network, msat) ↔
      ∃ amount, hrp = 'l' :: 'n' :: network.currency ++ amount ∧ AmountStates amount msat := by
  have hread : readPrefix hrp = .ok (network, msat) ↔ ∃ amount,
      matchCurrency hrp = some (network, amount) ∧ AmountStates amount msat := by
    rw [readPrefix,bind_eq_ok]
    constructor
    · rintro ⟨⟨network',amount⟩,hmatch,hrest⟩
      simp only at hrest
      split at hrest
      · next hnil =>
        cases hrest
        exact ⟨amount,orRefuse_eq_ok.1 hmatch,hnil⟩
      · obtain ⟨value,hvalue,hsome⟩ := bind_eq_ok.1 hrest
        cases hsome
        exact ⟨amount,orRefuse_eq_ok.1 hmatch, msatOfBolt11Amount_eq_some_iff.1 (orRefuse_eq_ok.1 hvalue)⟩
    · rintro ⟨amount,hmatch,hstates⟩
      refine ⟨(network, amount),orRefuse_eq_ok.2 hmatch,?_⟩
      cases msat with
      | none =>
        obtain rfl : amount = [] := hstates
        rfl
      | some value =>
        have hne : amount ≠ [] := by
          rintro rfl
          obtain ⟨digits,multiplier,htext,hdigits,-⟩ := hstates
          exact isAmountDigits_ne_nil hdigits (append_eq_nil_iff.1 htext.symm).1
        simp only
        rw [if_neg hne]
        exact bind_eq_ok.2 ⟨value,orRefuse_eq_ok.2 (msatOfBolt11Amount_eq_some_iff.2 hstates),rfl⟩
  rw [hread]
  constructor
  · rintro ⟨amount,hmatch,hstates⟩
    exact ⟨amount,matchCurrency_sound hmatch,hstates⟩
  · rintro ⟨amount,rfl,hstates⟩
    refine ⟨amount,?_,hstates⟩
    cases msat with
    | none =>
      obtain rfl : amount = [] := hstates
      exact matchCurrency_complete rfl fun c hc => nomatch hc
    | some value =>
      obtain ⟨hchars,hhead⟩ := StatesAmount.amountChars hstates
      exact matchCurrency_complete hchars hhead

/-- Exactly one payment hash and one payment secret, and exactly one of a description and a
description hash. -/
structure InvoiceTable (fields : List TaggedField) : Prop extends FieldTable fields where
  paymentHash : countTag (some .p) fields = 1
  paymentSecret : countTag (some .s) fields = 1
  description : countTag (some .d) fields + countTag (some .h) fields = 1

/-- The parts an invoice is written from. -/
structure InvoiceText where
  network : LightningNetwork
  amount : List Char
  timestamp : List Nat
  fields : List TaggedField
  (signature checksum : List Nat)

namespace InvoiceText

def hrp (i : InvoiceText) : List Char := 'l' :: 'n' :: i.network.currency ++ i.amount

def dataWords (i : InvoiceText) : List Nat := i.timestamp ++ i.fields.flatMap TaggedField.words

/-- A text that is written from these parts. -/
structure WrittenAs (i : InvoiceText) (text : String) : Prop where
  spelled : Spells text i.hrp (i.dataWords ++ i.signature) i.checksum
  amount : ∃ msat, AmountStates i.amount msat
  timestamp : i.timestamp.length = timestampWords
  signature : i.signature.length = signatureWords
  wellFormed : ∀ field ∈ i.fields, field.WellFormed
  table : InvoiceTable i.fields

/-- A reading that says what the parts state. The conditions on fields name no position, so they
hold in whatever order the fields stand. -/
structure States (i : InvoiceText) (text : String) (parsed : Parsed) : Prop where
  canonical : parsed.invoice.canonical = text.toList.map lowered
  network : parsed.invoice.network = i.network
  amount : AmountStates i.amount parsed.invoice.amountMsat
  timestamp : parsed.invoice.timestamp = wordsValue i.timestamp
  expiry : ∀ field ∈ i.fields, field.tag = some .x → parsed.invoice.expirySeconds = wordsValue field.data
  defaultExpiry : countTag (some .x) i.fields = 0 →
    parsed.invoice.expirySeconds = bolt11DefaultExpirySeconds
  paymentHash : ∀ field ∈ i.fields, field.tag = some .p → ∀ bytes, Carries field.data bytes →
    parsed.invoice.paymentHash = hex bytes
  descriptionHash : ∀ field ∈ i.fields, field.tag = some .h → ∀ bytes, Carries field.data bytes →
    parsed.invoice.descriptionHash = some (hex bytes)
  noDescriptionHash : countTag (some .h) i.fields = 0 → parsed.invoice.descriptionHash = none
  cltvDelta : ∀ field ∈ i.fields, field.tag = some .c →
    parsed.invoice.minFinalCltvExpiryDelta = wordsValue field.data
  defaultCltvDelta : countTag (some .c) i.fields = 0 →
    parsed.invoice.minFinalCltvExpiryDelta = bolt11DefaultMinFinalCltvExpiryDelta
  requiredFeatures : ∀ field ∈ i.fields, field.tag = some .nine → ∀ bit,
    bit ∈ parsed.invoice.requiredFeatures ↔ (wordsValue field.data).testBit bit = true ∧ bit % 2 = 0
  ascendingFeatures : parsed.invoice.requiredFeatures.Pairwise (· < ·)
  noFeatures : countTag (some .nine) i.fields = 0 → parsed.invoice.requiredFeatures = []
  routeHintCount : parsed.invoice.routeHintCount =
    (i.fields.map fun field => if field.tag = some .r then hopsOf field.data else 0).sum
  fallbackCount : parsed.invoice.fallbackCount = countTag (some .f) i.fields
  message : parsed.message = i.hrp.map (fun c => UInt8.ofNat c.toNat) ++ wordsToPaddedBytes i.dataWords
  signature : Carries i.signature parsed.signature
  payee : ∀ field ∈ i.fields, field.tag = some .n → ∀ bytes, Carries field.data bytes →
    parsed.explicitPayee = some bytes
  noPayee : countTag (some .n) i.fields = 0 → parsed.explicitPayee = none

end InvoiceText

theorem countTag_eq_zero_iff {tag : Option Tag} :
    countTag tag fields = 0 ↔ ∀ field ∈ fields, field.tag ≠ tag := by
  rw [countTag,countP_eq_zero]
  simp only [decide_eq_true_eq,ne_eq]

theorem Sets.flag {β : Type} {read : FieldState → β} {tag : Tag} {value : List Nat → β}
    (h : Sets read tag value) (given : β → Bool) (hvalue : ∀ data, given (value data) = true)
    (hstart : given (read start) = false) (hone : countTag (some tag) fields ≤ 1) :
    given (read (fields.foldl FieldState.after start)) = true ↔ countTag (some tag) fields = 1 := by
  by_cases hzero : countTag (some tag) fields = 0
  · rw [h.unset (countTag_eq_zero_iff.1 hzero),hstart,hzero]
    decide
  · obtain ⟨field,hfield,htag⟩ := countTag_pos_iff.1 (Nat.pos_of_ne_zero hzero)
    rw [h.set hone hfield htag,hvalue]
    simp only [true_iff]
    omega

theorem description_eq (fields : List TaggedField) : (fields.foldl FieldState.after start).description =
      countTag (some .d) fields + countTag (some .h) fields := by
  have hsum : ∀ fields : List TaggedField,
      (fields.map fun field => if field.tag = some .d ∨ field.tag = some .h then 1 else 0).sum =
        countTag (some .d) fields + countTag (some .h) fields := by
    intro fields
    induction fields with
    | nil => rfl
    | cons field fields ih =>
      rw [map_cons,sum_cons,ih,countTag_cons,countTag_cons]
      by_cases hd : field.tag = some .d
      · have hh : field.tag ≠ some .h := by
          rw [hd]
          decide
        rw [if_pos (.inl hd),if_pos hd,if_neg hh]
        omega
      · by_cases hh : field.tag = some .h
        · rw [if_pos (.inr hh),if_neg hd,if_pos hh]
          omega
        · rw [if_neg (by rintro (h | h) <;> contradiction),if_neg hd,if_neg hh]
          omega
  rw [counts_description.total,hsum]
  exact Nat.zero_add _

/-- The reading of an invoice whose loop ended with all that must be there. -/
def readingOf (decoded : Bech32Decoding) (network : LightningNetwork) (amountMsat : Option Nat)
    (timestamp : Nat) (dataWords : List Nat) (signature : List UInt8) (paymentHash : String)
    (state : FieldState) : Parsed where
  invoice := {
    canonical := decoded.canonical
    network
    amountMsat
    timestamp
    expirySeconds := state.expirySeconds
    paymentHash
    descriptionHash := state.descriptionHash
    minFinalCltvExpiryDelta := state.minFinalCltvExpiryDelta
    requiredFeatures := state.requiredFeatures
    routeHintCount := state.routeHintCount
    fallbackCount := state.fallbackCount }
  message := decoded.hrp.map (fun c => UInt8.ofNat c.toNat) ++ wordsToPaddedBytes dataWords
  signature
  explicitPayee := state.explicitPayee

theorem finish_eq_ok {decoded : Bech32Decoding} {amountMsat : Option Nat} {timestamp : Nat}
    {dataWords : List Nat} {signature : List UInt8} (htable : FieldTable fields) :
    finish decoded network amountMsat timestamp dataWords signature
        (fields.foldl FieldState.after start) = .ok parsed ↔
      InvoiceTable fields ∧ ∃ paymentHash,
        (fields.foldl FieldState.after start).paymentHash = some paymentHash ∧
        parsed = readingOf decoded network amountMsat timestamp dataWords signature paymentHash
          (fields.foldl FieldState.after start) := by
  have hhash : ((fields.foldl FieldState.after start).paymentHash).isSome = true ↔
      countTag (some .p) fields = 1 :=
    sets_paymentHash.flag Option.isSome (fun _ => rfl) rfl (htable.single .p (by decide))
  have hsecret : (fields.foldl FieldState.after start).paymentSecret = true ↔
      countTag (some .s) fields = 1 :=
    sets_paymentSecret.flag id (fun _ => rfl) rfl (htable.single .s (by decide))
  have hdescription := description_eq fields
  generalize fields.foldl FieldState.after start = state at *
  rw [finish,bind_eq_ok]
  simp only [orRefuse_eq_ok,guard_eq_ok,Bool.not_eq_false,hsecret,hdescription,ne_eq,not_not, pure_eq_ok]
  constructor
  · rintro ⟨paymentHash,hsome,hsecretOne,hone,rfl⟩
    refine ⟨⟨htable,hhash.1 (by rw [hsome]; rfl),hsecretOne,hone⟩,paymentHash,hsome,rfl⟩
  · rintro ⟨hinvoice,paymentHash,hsome,rfl⟩
    exact ⟨paymentHash,hsome,hinvoice.paymentSecret,hinvoice.description,rfl⟩

theorem parse_eq_ok {text : String} {maximumLength : Nat}
    (hlength : (codeUnits text).length ≤ maximumLength) :
    parse text maximumLength = .ok parsed ↔ ∃ decoded, decodeBech32 text maximumLength = some decoded ∧
      ∃ network amountMsat, readPrefix decoded.hrp = .ok (network, amountMsat) ∧
      ∃ (stamp data : List Nat) (last : List Nat), decoded.words = stamp ++ data ++ last ∧
        stamp.length = timestampWords ∧ last.length = signatureWords ∧
      ∃ signature, wordsToBytes last .allowed = some signature ∧ signature.length = 65 ∧
      ∃ timestamp, wordsToSafeInteger stamp = some timestamp ∧
      ∃ state, readFields (stamp ++ data).length data start = .ok state ∧
        finish decoded network amountMsat timestamp (stamp ++ data) signature state = .ok parsed := by
  rw [parse,if_neg (by omega),bind_eq_ok]
  refine exists_congr fun decoded => ?_
  rw [orRefuse_eq_ok,bind_eq_ok]
  refine and_congr_right fun _ => ?_
  constructor
  · rintro ⟨⟨network,amountMsat⟩, hprefix,h⟩
    simp only [guard_eq_ok,bind_eq_ok,orRefuse_eq_ok] at h
    obtain ⟨hlong,signature,hsignature,hbytes,timestamp,htimestamp,state,hstate,hfinish⟩ := h
    have hseven : timestampWords = 7 := rfl
    have hmany : signatureWords = 104 := rfl
    refine ⟨network,amountMsat, hprefix,
      (decoded.words.take (decoded.words.length - signatureWords)).take timestampWords,
      (decoded.words.take (decoded.words.length - signatureWords)).drop timestampWords,
      decoded.words.drop (decoded.words.length - signatureWords),?_,?_,?_,signature,hsignature,
      by omega,timestamp,htimestamp,state,?_,?_⟩
    · rw [take_append_drop,take_append_drop]
    · rw [length_take,length_take]
      omega
    · rw [length_drop]
      omega
    · rw [take_append_drop]
      exact hstate
    · rw [take_append_drop]
      exact hfinish
  · rintro ⟨network,amountMsat, hprefix,stamp,data,last,hwords,hstamp,hlast,signature,
      hsignature,hbytes,timestamp,htimestamp,state,hstate,hfinish⟩
    refine ⟨(network, amountMsat), hprefix,?_⟩
    have hcount : decoded.words.length - signatureWords = (stamp ++ data).length := by
      rw [hwords,length_append,hlast,Nat.add_sub_cancel]
    have htake : decoded.words.take (decoded.words.length - signatureWords) = stamp ++ data := by
      rw [hcount,hwords,take_left]
    have hdrop : decoded.words.drop (decoded.words.length - signatureWords) = last := by
      rw [hcount,hwords,drop_left]
    have hlong : ¬ decoded.words.length < timestampWords + signatureWords := by
      rw [hwords,length_append,length_append,hstamp,hlast]
      omega
    simp only [guard_eq_ok,bind_eq_ok,orRefuse_eq_ok,htake,hdrop]
    refine ⟨hlong,signature,hsignature,by omega,timestamp,?_,state,?_,hfinish⟩
    · rw [← hstamp,take_left]
      exact htimestamp
    · rw [← hstamp,drop_left]
      exact hstate

theorem exists_carries {words : List Nat} (hwords : ∀ w ∈ words, w < 32)
    (hwhole : 5 * words.length % 8 = 0) : ∃ bytes, Carries words bytes := by
  have hholds := Regrouping.foldl_holds hwords Regrouping.start_holds
  rw [nil_append] at hholds
  generalize words.foldl Regrouping.push Regrouping.start = state at hholds
  have hlength := congrArg List.length hholds.eq
  rw [length_groupBits,length_append,length_byteBits,length_bitsOf] at hlength
  have hfew := hholds.few
  have hnone : state.bits = 0 := by omega
  refine ⟨state.out,[],by decide,fun b hb => absurd hb not_mem_nil,?_⟩
  rw [hholds.eq,hnone]
  rfl

namespace InvoiceText

variable {i : InvoiceText} {text : String}

/-- The loop's variables behind the fields of an invoice. -/
def finalState (i : InvoiceText) : FieldState := i.fields.foldl FieldState.after start

/-- What decoding gives for a text written from these parts. -/
def decoding (i : InvoiceText) (text : String) : Bech32Decoding where
  hrp := i.hrp
  words := i.dataWords ++ i.signature
  canonical := text.toList.map lowered

theorem decodes {maximumLength : Nat} (hlength : (codeUnits text).length ≤ maximumLength)
    (h : Spells text i.hrp (i.dataWords ++ i.signature) i.checksum) :
    decodeBech32 text maximumLength = some (i.decoding text) :=
  (decodeBech32_eq_some_iff hlength).2 ⟨rfl,i.checksum,h⟩

theorem WrittenAs.words_lt (h : i.WrittenAs text) :
    (∀ w ∈ i.timestamp, w < 32) ∧ (∀ w ∈ i.fields.flatMap TaggedField.words, w < 32) ∧
      ∀ w ∈ i.signature, w < 32 := by
  have hall := h.spelled.words_lt
  rw [dataWords] at hall
  simp only [mem_append] at hall
  exact ⟨fun w hw => hall w (.inl (.inl (.inl hw))),fun w hw => hall w (.inl (.inl (.inr hw))),
    fun w hw => hall w (.inl (.inr hw))⟩

theorem WrittenAs.parse_eq (h : i.WrittenAs text) {maximumLength : Nat}
    (hlength : (codeUnits text).length ≤ maximumLength) :
    ∃ amountMsat signature paymentHash, AmountStates i.amount amountMsat ∧
      Carries i.signature signature ∧ i.finalState.paymentHash = some paymentHash ∧
      parse text maximumLength = .ok (readingOf (i.decoding text) i.network amountMsat
        (wordsValue i.timestamp) i.dataWords signature paymentHash i.finalState) := by
  obtain ⟨hstamp,hfields,hlast⟩ := h.words_lt
  have hseven : i.timestamp.length = 7 := h.timestamp
  have hmany : i.signature.length = 104 := h.signature
  obtain ⟨amountMsat,hamount⟩ := h.amount
  obtain ⟨signature,hsignature⟩ := exists_carries hlast (by rw [hmany])
  have hbytes := hsignature.length_le
  obtain ⟨paymentHash,hpayment⟩ := Option.isSome_iff_exists.1
    ((sets_paymentHash.flag Option.isSome (fun _ => rfl) rfl
      (h.table.single .p (by decide))).2 h.table.paymentHash)
  refine ⟨amountMsat,signature,paymentHash,hamount,hsignature,hpayment,?_⟩
  rw [parse_eq_ok hlength]
  refine ⟨i.decoding text,decodes hlength h.spelled,i.network,amountMsat,readPrefix_eq_ok.2 ⟨i.amount,rfl,hamount⟩,i.timestamp,
    i.fields.flatMap TaggedField.words,i.signature,rfl,h.timestamp,h.signature,signature,
    (wordsToBytes_eq_some_iff hlast).2 hsignature,by omega,wordsValue i.timestamp,
    (wordsToSafeInteger_eq_some_iff hstamp).2 ⟨by omega,rfl⟩,i.finalState,?_,?_⟩
  · refine (readFields_eq_ok _ hfields ?_).2
      ⟨i.fields,h.wellFormed,rfl,run_start_iff.2 ⟨h.table.toFieldTable,rfl⟩⟩
    rw [length_append]
    omega
  · exact (finish_eq_ok h.table.toFieldTable).2 ⟨h.table,paymentHash,hpayment,rfl⟩

theorem exists_writtenAs {maximumLength : Nat} {parsed : Parsed}
    (hlength : (codeUnits text).length ≤ maximumLength)
    (h : parse text maximumLength = .ok parsed) : ∃ i : InvoiceText, i.WrittenAs text := by
  obtain ⟨decoded,hdecoded,network,amountMsat, hprefix,stamp,data,last,hwords,hstamp,
    hlast,signature,hsignature,-,timestamp,htimestamp,state,hstate,hfinish⟩ :=
    (parse_eq_ok hlength).1 h
  obtain ⟨hcanonical,checksum,hspells⟩ := (decodeBech32_eq_some_iff hlength).1 hdecoded
  obtain ⟨amount,hhrp,hamount⟩ := readPrefix_eq_ok.1 hprefix
  have hlt : ∀ w ∈ data, w < 32 := fun w hw => hspells.words_lt w (by
    rw [hwords]
    simp [hw])
  obtain ⟨fields,hwell,hdata,hrun⟩ := (readFields_eq_ok _ hlt (by
    rw [length_append]
    omega)).1 hstate
  obtain ⟨htable,rfl⟩ := run_start_iff.1 hrun
  obtain ⟨hinvoice,-⟩ := (finish_eq_ok htable).1 hfinish
  refine ⟨⟨network,amount,stamp,fields,last,checksum⟩,?_,⟨amountMsat,hamount⟩,hstamp, hlast,hwell,hinvoice⟩
  have hspelled : Spells text decoded.hrp decoded.words checksum := hspells
  rw [hhrp,hwords,hdata] at hspelled
  exact hspelled

theorem WrittenAs.states (h : i.WrittenAs text) {amountMsat : Option Nat} {signature : List UInt8}
    {paymentHash : String} (hamount : AmountStates i.amount amountMsat)
    (hsignature : Carries i.signature signature)
    (hpayment : i.finalState.paymentHash = some paymentHash) :
    i.States text (readingOf (i.decoding text) i.network amountMsat (wordsValue i.timestamp)
      i.dataWords signature paymentHash i.finalState) := by
  have hsingle : ∀ tag ∈ singleTags, countTag (some tag) i.fields ≤ 1 := h.table.single
  have hdata : ∀ field ∈ i.fields, ∀ w ∈ field.data, w < 32 :=
    fun field hfield => (h.wellFormed field hfield).data_lt
  exact {
    canonical := rfl
    network := rfl
    amount := hamount
    timestamp := rfl
    expiry := fun field hfield htag =>
      sets_expirySeconds.set (hsingle .x (by decide)) hfield htag start
    defaultExpiry := fun hnone =>
      sets_expirySeconds.unset (countTag_eq_zero_iff.1 hnone) start
    paymentHash := fun field hfield htag bytes hbytes => by
      have hset := sets_paymentHash.set (hsingle .p (by decide)) hfield htag start
      rw [← finalState,hpayment,bytesOf_eq (hdata field hfield) hbytes] at hset
      exact Option.some_inj.1 hset
    descriptionHash := fun field hfield htag bytes hbytes => by
      have hset := sets_descriptionHash.set (hsingle .h (by decide)) hfield htag start
      rw [bytesOf_eq (hdata field hfield) hbytes] at hset
      exact hset
    noDescriptionHash := fun hnone =>
      sets_descriptionHash.unset (countTag_eq_zero_iff.1 hnone) start
    cltvDelta := fun field hfield htag =>
      sets_minFinalCltvExpiryDelta.set (hsingle .c (by decide)) hfield htag start
    defaultCltvDelta := fun hnone =>
      sets_minFinalCltvExpiryDelta.unset (countTag_eq_zero_iff.1 hnone) start
    requiredFeatures := fun field hfield htag bit => by
      have hset := sets_requiredFeatures.set (hsingle .nine (by decide)) hfield htag
        start
      rw [← mem_requiredOf (hdata field hfield),← hset]
      rfl
    ascendingFeatures := by
      by_cases hnone : countTag (some .nine) i.fields = 0
      · have hunset := sets_requiredFeatures.unset (countTag_eq_zero_iff.1 hnone) start
        have hnil : i.finalState.requiredFeatures = [] := hunset
        rw [readingOf,hnil]
        exact List.Pairwise.nil
      · obtain ⟨field,hfield,htag⟩ := countTag_pos_iff.1 (Nat.pos_of_ne_zero hnone)
        have hset := sets_requiredFeatures.set (hsingle .nine (by decide)) hfield htag
          start
        have hrequired : i.finalState.requiredFeatures = requiredOf field.data := hset
        rw [readingOf,hrequired]
        exact requiredOf_ascending field.data
    noFeatures := fun hnone =>
      sets_requiredFeatures.unset (countTag_eq_zero_iff.1 hnone) start
    routeHintCount := (counts_routeHintCount.total i.fields start).trans
      (Nat.zero_add _)
    fallbackCount := by
      have hcounts : Counts FieldState.fallbackCount
          (fun field => if field.tag = some .f then 1 else 0) := fun _ _ => after_fallbackCount
      have htotal := hcounts.total i.fields start
      rw [sum_tag] at htotal
      exact htotal.trans (Nat.zero_add _)
    message := rfl
    signature := hsignature
    payee := fun field hfield htag bytes hbytes => by
      have hset := sets_explicitPayee.set (hsingle .n (by decide)) hfield htag start
      rw [bytesOf_eq (hdata field hfield) hbytes] at hset
      exact hset
    noPayee := fun hnone =>
      sets_explicitPayee.unset (countTag_eq_zero_iff.1 hnone) start }

end InvoiceText

/-- Within the length bound, parsing accepts exactly the texts of the grammar, and what it reads
is what the parts of the text state. -/
theorem parse_exact (text : String) (maximumLength : Nat)
    (hlength : (codeUnits text).length ≤ maximumLength) :
    ((∃ parsed, parse text maximumLength = .ok parsed) ↔ ∃ i : InvoiceText, i.WrittenAs text) ∧
    ∀ parsed, parse text maximumLength = .ok parsed →
      ∀ i : InvoiceText, i.WrittenAs text → i.States text parsed := by
  refine ⟨⟨?_,?_⟩,?_⟩
  · rintro ⟨parsed,hparse⟩
    exact InvoiceText.exists_writtenAs hlength hparse
  · rintro ⟨i,h⟩
    obtain ⟨amountMsat,signature,paymentHash,-,-,-,hparse⟩ := h.parse_eq hlength
    exact ⟨_,hparse⟩
  · intro parsed hparse i h
    obtain ⟨amountMsat,signature,paymentHash,hamount,hsignature,hpayment,hparse'⟩ :=
      h.parse_eq hlength
    cases hparse.symm.trans hparse'
    exact h.states hamount hsignature hpayment

/-- An invoice over ten nano-bitcoins with an expiry of a minute. -/
def sampleInvoice : InvoiceText where
  network := .mainnet
  amount := ['1', '0', 'n']
  timestamp := List.replicate 7 0
  fields := [⟨1,List.replicate 52 0⟩, ⟨16,List.replicate 52 0⟩, ⟨23,List.replicate 52 0⟩,
    ⟨9,[17]⟩, ⟨6,[1, 28]⟩]
  signature := List.replicate 104 0
  checksum := [30, 16, 4, 26, 23, 31]

def InvoiceText.chars (i : InvoiceText) : List Char :=
  i.hrp ++ '1' :: (i.dataWords ++ i.signature ++ i.checksum).map symbol

def InvoiceText.text (i : InvoiceText) : String := String.ofList i.chars

/-- Whether the parts spell a text with a checksum that verifies. -/
def InvoiceText.wellSpelled (i : InvoiceText) : Bool :=
  i.chars.all isPrintable && !(i.chars.any isLower && i.chars.any isUpper) &&
    (i.dataWords ++ i.signature ++ i.checksum).all (fun w => decide (w < 32)) &&
    decide (i.checksum.length = checksumWords) && decide (i.chars.map lowered = i.chars) &&
    decide (polymod (expandedPrefix i.hrp ++ (i.dataWords ++ i.signature ++ i.checksum)) = 1) &&
    decide (i.chars.length ≤ 7089)

theorem InvoiceText.spells_of_wellSpelled {i : InvoiceText} (h : i.wellSpelled = true) :
    Spells i.text i.hrp (i.dataWords ++ i.signature) i.checksum ∧ (codeUnits i.text).length ≤ 7089 := by
  rw [InvoiceText.wellSpelled] at h
  simp only [Bool.and_eq_true,decide_eq_true_eq,all_eq_true,Bool.not_eq_true'] at h
  obtain ⟨⟨⟨⟨⟨⟨hprintable,hcase⟩,hwords⟩,hsix⟩,hlower⟩,hchecksum⟩,hlength⟩ := h
  have htext : i.text.toList = i.chars := String.toList_ofList
  have hall : i.text.toList.all isPrintable = true := by
    rw [htext,all_eq_true]
    exact hprintable
  refine ⟨⟨hall,by rw [htext]; exact hcase,cons_ne_nil _ _,hwords,hsix,?_,hchecksum⟩,?_⟩
  · rw [htext,hlower]
    rfl
  · rw [length_codeUnits_of_printable hall,htext]
    exact hlength

theorem sampleInvoice_wellSpelled : sampleInvoice.wellSpelled = true := by decide +kernel

theorem sampleInvoice_exact : ((∃ parsed, parse sampleInvoice.text 7089 = .ok parsed) ↔
      ∃ i : InvoiceText, i.WrittenAs sampleInvoice.text) ∧
    ∀ parsed, parse sampleInvoice.text 7089 = .ok parsed →
      ∀ i : InvoiceText, i.WrittenAs sampleInvoice.text → i.States sampleInvoice.text parsed :=
  parse_exact sampleInvoice.text 7089
    (InvoiceText.spells_of_wellSpelled sampleInvoice_wellSpelled).2

/-- What the table of the module asks of a field of each tag. -/
def Tag.Listed (data : List Nat) : Tag → Prop
  | .p | .s | .h => data.length = 52 ∧ ∃ bytes, Carries data bytes
  | .n => data.length = 53 ∧ ∃ bytes, Carries data bytes
  | .d => ∃ bytes, Carries data bytes ∧ isUtf8 bytes = true
  | .x | .c => data ≠ [] ∧ data.head? ≠ some 0
  | .nine => data ≠ [] ∧ data.head? ≠ some 0 ∧ FeaturesSupported (wordsValue data)
  | .r => ∃ bytes, Carries data bytes ∧ Hops bytes
  | .f | .m => True

/-- A text that the table of the module describes. -/
structure InvoiceText.ListedAs (i : InvoiceText) (text : String) : Prop where
  spelled : Spells text i.hrp (i.dataWords ++ i.signature) i.checksum
  amount : ∃ msat, AmountStates i.amount msat
  timestamp : i.timestamp.length = timestampWords
  signature : i.signature.length = signatureWords
  wellFormed : ∀ field ∈ i.fields, field.WellFormed
  listed : ∀ field ∈ i.fields, ∀ tag ∈ field.tag, tag.Listed field.data
  single : ∀ tag ∈ singleTags, countTag (some tag) i.fields ≤ 1
  routeHints : countTag (some .r) i.fields ≤ maximumRouteHintFields
  fallbacks : countTag (some .f) i.fields ≤ maximumFallbackFields
  unknown : countTag none i.fields ≤ maximumUnknownFields
  paymentHash : countTag (some .p) i.fields = 1
  paymentSecret : countTag (some .s) i.fields = 1
  description : countTag (some .d) i.fields + countTag (some .h) i.fields = 1

def emptyMetadataInvoice : InvoiceText where
  network := .mainnet
  amount := ['1', '0', 'n']
  timestamp := List.replicate 7 0
  fields := [⟨1,List.replicate 52 0⟩, ⟨16,List.replicate 52 0⟩, ⟨23,List.replicate 52 0⟩, ⟨27,[]⟩]
  signature := List.replicate 104 0
  checksum := [19, 4, 8, 24, 18, 28]

theorem emptyMetadataInvoice_wellSpelled : emptyMetadataInvoice.wellSpelled = true := by
  decide +kernel

theorem emptyMetadataInvoice_spelled : Spells emptyMetadataInvoice.text emptyMetadataInvoice.hrp
      (emptyMetadataInvoice.dataWords ++ emptyMetadataInvoice.signature)
      emptyMetadataInvoice.checksum :=
  (InvoiceText.spells_of_wellSpelled emptyMetadataInvoice_wellSpelled).1

theorem emptyMetadataInvoice_length : (codeUnits emptyMetadataInvoice.text).length ≤ 7089 :=
  (InvoiceText.spells_of_wellSpelled emptyMetadataInvoice_wellSpelled).2

theorem zeros_carried : Carries (List.replicate 52 0) (List.replicate 32 0) := by
  refine ⟨List.replicate 4 false,by decide,fun b hb => eq_of_mem_replicate hb,?_⟩
  have hbytes : (List.replicate 32 (0 : UInt8)).map UInt8.toNat = List.replicate 32 0 :=
    map_replicate
  rw [byteBits,hbytes,groupBits_replicate_zero,groupBits_replicate_zero, replicate_append_replicate]

theorem emptyMetadataInvoice_listed : emptyMetadataInvoice.ListedAs emptyMetadataInvoice.text where
  spelled := emptyMetadataInvoice_spelled
  amount := ⟨some 1000,['1', '0'],some 'n',rfl,by decide,by simp [isMultiplier],by decide,
    by decide,by decide⟩
  timestamp := rfl
  signature := rfl
  wellFormed := by
    have hzero : ∀ w ∈ List.replicate 52 0, w < 32 := fun w hw => by
      rw [eq_of_mem_replicate hw]
      decide
    intro field hfield
    simp only [emptyMetadataInvoice,mem_cons,not_mem_nil,or_false] at hfield
    rcases hfield with rfl | rfl | rfl | rfl
    · exact ⟨by decide,hzero,by decide⟩
    · exact ⟨by decide,hzero,by decide⟩
    · exact ⟨by decide,hzero,by decide⟩
    · exact ⟨by decide,fun w hw => absurd hw not_mem_nil,by decide⟩
  listed := by
    intro field hfield tag htag
    simp only [emptyMetadataInvoice,mem_cons,not_mem_nil,or_false] at hfield
    rcases hfield with rfl | rfl | rfl | rfl
    · cases htag
      exact ⟨rfl,_,zeros_carried⟩
    · cases htag
      exact ⟨rfl,_,zeros_carried⟩
    · cases htag
      exact ⟨rfl,_,zeros_carried⟩
    · cases htag
      trivial
  single := by decide
  routeHints := by decide
  fallbacks := by decide
  unknown := by decide
  paymentHash := by decide
  paymentSecret := by decide
  description := by decide

/-- The table describes a text that parsing refuses. -/
theorem listed_text_refused :
    ¬ ∀ (text : String) (maximumLength : Nat), (codeUnits text).length ≤ maximumLength →
      ((∃ parsed, parse text maximumLength = .ok parsed) ↔ ∃ i : InvoiceText, i.ListedAs text) := by
  intro hall
  obtain ⟨parsed,hparse⟩ := (hall emptyMetadataInvoice.text 7089 emptyMetadataInvoice_length).2
    ⟨_,emptyMetadataInvoice_listed⟩
  obtain ⟨decoded,hdecoded,network,amountMsat, hprefix,stamp,data,last,hwords,hstamp,
    hlast,signature,hsignature,-,timestamp,htimestamp,state,hstate,-⟩ :=
    (parse_eq_ok emptyMetadataInvoice_length).1 hparse
  have hdecoding := InvoiceText.decodes emptyMetadataInvoice_length emptyMetadataInvoice_spelled
  have heq : decoded.words = emptyMetadataInvoice.dataWords ++ emptyMetadataInvoice.signature := by
    rw [Option.some_inj.1 (hdecoded.symm.trans hdecoding),InvoiceText.decoding]
  rw [heq] at hwords
  obtain ⟨hdata,-⟩ := append_inj' hwords (by rw [hlast]; rfl)
  obtain ⟨-,hfields⟩ := append_inj hdata (by rw [hstamp]; rfl)
  have hrefused : readFields emptyMetadataInvoice.dataWords.length
      (emptyMetadataInvoice.fields.flatMap TaggedField.words) start = .error .structureInvalid := by
    decide +kernel
  rw [← hdata,← hfields,hrefused] at hstate
  cases hstate

end Frontera.Lightning
