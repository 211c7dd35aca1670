import Frontera.Lightning.Grammar

/-! The message that the signature of an invoice is over is its human-readable part and its data
words, filled up to a byte, with nothing between them. While the timestamp keeps the first byte of
the data below the digits, and since the field loop takes no word left over, the message determines
both. -/

namespace Frontera.Lightning

open Frontera.Data List

variable {words stamp data : List Nat} {network : LightningNetwork} {decoded : Bech32Decoding}
  {amountMsat : Option Nat} {timestamp : Nat} {signature : List UInt8} {state : FieldState}
  {parsed : Parsed} {state' : FieldState}

theorem groupBits_eq_bitsOf (hwords : ∀ w ∈ words, w < 32) :
    groupBits 5 words = bitsOf (5 * words.length) (wordsValue words) := by
  induction words using List.reverseRecOn with
  | nil => rfl
  | append_singleton words word ih =>
    have hword : word < 32 := hwords word (by simp)
    have hvalue : wordsValue (words ++ [word]) = wordsValue words * 2 ^ 5 + word := by
      rw [wordsValue_append]
      simp [wordsValue]
    have hdiv : (wordsValue words * 2 ^ 5 + word) / 2 ^ 5 = wordsValue words := by omega
    have hlow : bitsOf 5 (wordsValue words * 2 ^ 5 + word) = bitsOf 5 word := by
      rw [← bitsOf_mod (Nat.le_refl 5),← bitsOf_mod (Nat.le_refl 5) (n := word)]
      congr 1
      omega
    rw [groupBits_append,ih fun w hw => hwords w (mem_append_left _ hw),hvalue,
      length_append,length_singleton,Nat.mul_add,Nat.mul_one,bitsOf_append,hdiv,hlow,
      groupBits_cons,groupBits_nil,append_nil]

theorem first_byte (hstamp : stamp.length = timestampWords) (hwords : ∀ w ∈ stamp ++ data, w < 32) :
    ∃ byte rest, wordsToPaddedBytes (stamp ++ data) = byte :: rest ∧
      byte.toNat = wordsValue stamp / 2 ^ 27 := by
  have hlt : ∀ w ∈ stamp, w < 32 := fun w hw => hwords w (mem_append_left _ hw)
  have hvalue : wordsValue stamp < 2 ^ 35 := by
    have h := wordsValue_lt hlt
    rw [hstamp,timestampWords] at h
    omega
  obtain ⟨zeros,-,-,hbits⟩ := wordsToPaddedBytes_bits hwords
  have hseven : 5 * stamp.length = 8 + 27 := by rw [hstamp,timestampWords]
  rw [groupBits_append,groupBits_eq_bitsOf hlt,hseven,bitsOf_append,append_assoc, append_assoc] at hbits
  cases hbytes : wordsToPaddedBytes (stamp ++ data) with
  | nil =>
    rw [hbytes] at hbits
    have hlength := congrArg List.length hbits
    rw [length_byteBits,length_append,length_bitsOf,length_nil] at hlength
    omega
  | cons byte rest =>
    refine ⟨byte,rest,rfl,?_⟩
    rw [hbytes,byteBits,map_cons,groupBits_cons] at hbits
    obtain ⟨hfirst,-⟩ := append_inj hbits (by rw [length_bitsOf,length_bitsOf])
    exact bitsOf_injective byte.toNat_lt (by omega) hfirst

theorem append_boundary {α : Type} {p : α → Bool} {left left' right right' : List α} {a a' : α}
    (hleft : ∀ x ∈ left, p x = true) (hleft' : ∀ x ∈ left', p x = true) (ha : p a = false)
    (ha' : p a' = false) (h : left ++ a :: right = left' ++ a' :: right') :
    left = left' ∧ a :: right = a' :: right' := by
  have htake := congrArg (List.takeWhile p) h
  rw [takeWhile_append_of_pos hleft,takeWhile_append_of_pos hleft',
    takeWhile_cons_of_neg (by rw [ha]; decide),
    takeWhile_cons_of_neg (by rw [ha']; decide),append_nil,append_nil] at htake
  refine ⟨htake,?_⟩
  rw [htake] at h
  exact append_cancel_left h

theorem hrp_chars {hrp : List Char} {msat : Option Nat} (h : readPrefix hrp = .ok (network, msat)) :
    ∀ c ∈ hrp, 48 ≤ c.toNat ∧ c.toNat ≤ 122 := by
  obtain ⟨amount,rfl,hamount⟩ := readPrefix_eq_ok.1 h
  have hdigit : ∀ c : Char, c.isDigit = true → 48 ≤ c.toNat ∧ c.toNat ≤ 122 := by
    intro c hc
    rw [Char.isDigit,Bool.and_eq_true,decide_eq_true_eq,decide_eq_true_eq] at hc
    have hle : c.toNat ≤ 57 := hc.2
    exact ⟨hc.1,by omega⟩
  have hamountChars : ∀ c ∈ amount, 48 ≤ c.toNat ∧ c.toNat ≤ 122 := by
    cases msat with
    | none =>
      obtain rfl : amount = [] := hamount
      exact fun c hc => absurd hc not_mem_nil
    | some value =>
      intro c hc
      have hall := all_eq_true.1 (StatesAmount.amountChars hamount).1 c hc
      rw [isAmountChar,Bool.or_eq_true] at hall
      rcases hall with hd | hl
      · exact hdigit c hd
      · have hrange := of_decide_eq_true hl
        omega
  intro c hc
  rw [cons_append,cons_append,mem_cons,mem_cons,mem_append] at hc
  rcases hc with rfl | rfl | hcurrency | hrest
  · decide
  · decide
  · have hall : ∀ network : LightningNetwork, (network.currency.all fun c =>
        decide (48 ≤ c.toNat ∧ c.toNat ≤ 122)) = true := by
      intro network
      cases network <;> decide
    exact of_decide_eq_true (all_eq_true.1 (hall network) c hcurrency)
  · exact hamountChars c hrest

theorem flatMap_words_ne_snoc (fields : List TaggedField) : ∀ (fields' : List TaggedField) (word : Nat),
      fields'.flatMap TaggedField.words ≠ fields.flatMap TaggedField.words ++ [word] := by
  induction fields with
  | nil =>
    intro fields' word h
    have hlength := congrArg List.length h
    cases fields' with
    | nil => cases h
    | cons field' fields' =>
      rw [flatMap_cons,length_append,TaggedField.words_length] at hlength
      simp only [flatMap_nil,nil_append,length_singleton] at hlength
      omega
  | cons field fields ih =>
    intro fields' word h
    cases fields' with
    | nil => cases h
    | cons field' fields' =>
      rw [flatMap_cons,flatMap_cons,append_assoc] at h
      have hhead : field'.number = field.number ∧ field'.data.length / 32 = field.data.length / 32 ∧
          field'.data.length % 32 = field.data.length % 32 := by
        simp only [TaggedField.words,cons_append,List.cons.injEq] at h
        exact ⟨h.1,h.2.1,h.2.2.1⟩
      obtain ⟨-,hrest⟩ := append_inj h (by
        rw [TaggedField.words_length,TaggedField.words_length]
        omega)
      exact ih fields' word hrest

/-- The data words of a decoding: all but the signature. -/
def Bech32Decoding.dataWords (d : Bech32Decoding) : List Nat :=
  d.words.take (d.words.length - signatureWords)

theorem finish_reading {dataWords : List Nat}
    (h : finish decoded network amountMsat timestamp dataWords signature state = .ok parsed) :
    ∃ paymentHash, state.paymentHash = some paymentHash ∧
      parsed = readingOf decoded network amountMsat timestamp dataWords signature paymentHash
        state := by
  rw [finish,bind_eq_ok] at h
  simp only [orRefuse_eq_ok,guard_eq_ok,pure_eq_ok] at h
  obtain ⟨paymentHash,hsome,-,-,rfl⟩ := h
  exact ⟨paymentHash,hsome,rfl⟩

/-- What parsing read of a text, before the spelling of its signature. -/
structure Read (text : String) (maximumLength : Nat) (parsed : Parsed) where
  decoded : Bech32Decoding
  network : LightningNetwork
  amountMsat : Option Nat
  (stamp data : List Nat)
  signature : List UInt8
  paymentHash : String
  state : FieldState
  decodes : decodeBech32 text maximumLength = some decoded
  reads : readPrefix decoded.hrp = .ok (network, amountMsat)
  dataWords : decoded.dataWords = stamp ++ data
  stamp_length : stamp.length = timestampWords
  words_lt : ∀ w ∈ stamp ++ data, w < 32
  loop : readFields (stamp ++ data).length data FieldState.start = .ok state
  hash : state.paymentHash = some paymentHash
  reading : parsed = readingOf decoded network amountMsat (wordsValue stamp) (stamp ++ data)
    signature paymentHash state

theorem exists_read {text : String} {maximumLength : Nat}
    (h : parse text maximumLength = .ok parsed) : Nonempty (Read text maximumLength parsed) := by
  have hlength : (codeUnits text).length ≤ maximumLength := by
    by_contra hlong
    rw [parse,if_pos (by omega)] at h
    cases h
  obtain ⟨decoded,hdecoded,network,amountMsat, hprefix,stamp,data,last,hwords,hstamp,
    hlast,signature,-,-,timestamp,htimestamp,state,hstate,hfinish⟩ :=
    (parse_eq_ok hlength).1 h
  obtain ⟨-,checksum,hspells⟩ := (decodeBech32_eq_some_iff hlength).1 hdecoded
  have hlt : ∀ w ∈ stamp ++ data, w < 32 := fun w hw => hspells.words_lt w (by
    rw [hwords]
    exact mem_append_left _ (mem_append_left _ hw))
  obtain ⟨-,rfl⟩ := (wordsToSafeInteger_eq_some_iff fun w hw =>
    hlt w (mem_append_left _ hw)).1 htimestamp
  obtain ⟨paymentHash,hhash,hreading⟩ := finish_reading hfinish
  have hcount : decoded.words.length - signatureWords = (stamp ++ data).length := by
    rw [hwords,length_append,hlast,Nat.add_sub_cancel]
  exact ⟨⟨decoded,network,amountMsat,stamp,data,signature,paymentHash,state,hdecoded,
    hprefix,by rw [Bech32Decoding.dataWords,hcount,hwords,take_left],hstamp,hlt,hstate, hhash,hreading⟩⟩

theorem exists_fields {fuel : Nat} {final : FieldState} (hwords : ∀ w ∈ words, w < 32)
    (hfuel : words.length ≤ fuel) (h : readFields fuel words state = .ok final) :
    ∃ fields : List TaggedField, words = fields.flatMap TaggedField.words := by
  obtain ⟨fields,-,hfields,-⟩ := (readFields_eq_ok fuel hwords hfuel).1 h
  exact ⟨fields,hfields⟩

theorem dataWords_unique {stamp' data' : List Nat} (hstamp : stamp.length = stamp'.length)
    (hwords : ∀ w ∈ stamp ++ data, w < 32) (hwords' : ∀ w ∈ stamp' ++ data', w < 32)
    (hloop : readFields (stamp ++ data).length data FieldState.start = .ok state)
    (hloop' : readFields (stamp' ++ data').length data' FieldState.start = .ok state')
    (hle : (stamp' ++ data').length ≤ (stamp ++ data).length)
    (hbytes : wordsToPaddedBytes (stamp ++ data) = wordsToPaddedBytes (stamp' ++ data')) :
    stamp = stamp' ∧ data = data' := by
  obtain ⟨zeros,-,-,hbits⟩ := wordsToPaddedBytes_bits hwords
  obtain ⟨zeros',hshort,hzeros',hbits'⟩ := wordsToPaddedBytes_bits hwords'
  have hpadded : groupBits 5 (stamp ++ data) ++ zeros = groupBits 5 (stamp' ++ data') ++ zeros' := by
    rw [← hbits,← hbits',hbytes]
  obtain ⟨fields,hfields⟩ := exists_fields (fun w hw => hwords w (mem_append_right _ hw))
    (by rw [length_append]; omega) hloop
  obtain ⟨fields',hfields'⟩ := exists_fields (fun w hw => hwords' w (mem_append_right _ hw))
    (by rw [length_append]; omega) hloop'
  rcases groups_of_padded (by decide) hwords hwords' hzeros' (by omega) hle hpadded with heq | heq
  · exact append_inj heq hstamp
  · rw [append_assoc] at heq
    obtain ⟨-,hdata⟩ := append_inj heq hstamp
    rw [hfields,hfields'] at hdata
    exact absurd hdata (flatMap_words_ne_snoc fields' fields 0)

/-- Two texts with the same signed message have the same human-readable part and data words, and
the same reading but for the spelling of the signature. -/
theorem signedMessage_one_reading (text text' : String) (maximumLength maximumLength' : Nat)
    (parsed parsed' : Parsed) (h : parse text maximumLength = .ok parsed)
    (h' : parse text' maximumLength' = .ok parsed')
    (htimestamp : parsed.invoice.timestamp < 48 * 2 ^ 27)
    (htimestamp' : parsed'.invoice.timestamp < 48 * 2 ^ 27)
    (hmessage : parsed.message = parsed'.message) :
    ∃ decoded decoded' : Bech32Decoding, decodeBech32 text maximumLength = some decoded ∧
      decodeBech32 text' maximumLength' = some decoded' ∧ decoded.hrp = decoded'.hrp ∧
      decoded.dataWords = decoded'.dataWords ∧
      parsed.invoice = { parsed'.invoice with canonical := parsed.invoice.canonical } ∧
      parsed.explicitPayee = parsed'.explicitPayee := by
  obtain ⟨r⟩ := exists_read h
  obtain ⟨r'⟩ := exists_read h'
  have hstamps : r.stamp.length = r'.stamp.length := r.stamp_length.trans r'.stamp_length.symm
  rw [r.reading] at hmessage htimestamp
  rw [r'.reading] at hmessage htimestamp'
  obtain ⟨byte,rest,hfirst,hbyte⟩ := first_byte r.stamp_length r.words_lt
  obtain ⟨byte',rest',hfirst',hbyte'⟩ := first_byte r'.stamp_length r'.words_lt
  have hsmall : byte.toNat < 48 := by
    have hlt : wordsValue r.stamp < 48 * 2 ^ 27 := htimestamp
    omega
  have hsmall' : byte'.toNat < 48 := by
    have hlt : wordsValue r'.stamp < 48 * 2 ^ 27 := htimestamp'
    omega
  have hchars := hrp_chars r.reads
  have hchars' := hrp_chars r'.reads
  have hbytes : r.decoded.hrp.map (fun c => UInt8.ofNat c.toNat) ++ byte :: rest =
      r'.decoded.hrp.map (fun c => UInt8.ofNat c.toNat) ++ byte' :: rest' := by
    rw [← hfirst,← hfirst']
    exact hmessage
  have hdigit : ∀ hrp : List Char, (∀ c ∈ hrp, 48 ≤ c.toNat ∧ c.toNat ≤ 122) →
      ∀ b ∈ hrp.map (fun c => UInt8.ofNat c.toNat), decide (48 ≤ b.toNat) = true := by
    intro hrp hall b hb
    obtain ⟨c,hc,rfl⟩ := List.mem_map.1 hb
    have hrange := hall c hc
    have hvalue : (UInt8.ofNat c.toNat).toNat = c.toNat % 2 ^ 8 := UInt8.toNat_ofNat'
    rw [hvalue]
    exact decide_eq_true (by omega)
  obtain ⟨hhrpBytes,hdataBytes⟩ := append_boundary (hdigit _ hchars) (hdigit _ hchars')
    (decide_eq_false (by omega)) (decide_eq_false (by omega)) hbytes
  have hback : ∀ hrp : List Char, (∀ c ∈ hrp, 48 ≤ c.toNat ∧ c.toNat ≤ 122) →
      (hrp.map fun c => UInt8.ofNat c.toNat).map (fun b => Char.ofNat b.toNat) = hrp := by
    intro hrp hall
    have hid : ∀ c ∈ hrp, Char.ofNat (UInt8.ofNat c.toNat).toNat = c := by
      intro c hc
      have hrange := hall c hc
      have hvalue : (UInt8.ofNat c.toNat).toNat = c.toNat % 2 ^ 8 := UInt8.toNat_ofNat'
      have hmod : c.toNat % 2 ^ 8 = c.toNat := Nat.mod_eq_of_lt (by omega)
      rw [hvalue,hmod,Char.ofNat_toNat]
    rw [map_map]
    exact (map_congr_left hid).trans (map_id hrp)
  have hhrp : r.decoded.hrp = r'.decoded.hrp := by
    rw [← hback _ hchars,← hback _ hchars',hhrpBytes]
  have hpadded : wordsToPaddedBytes (r.stamp ++ r.data) = wordsToPaddedBytes (r'.stamp ++ r'.data) := by
    rw [hfirst,hfirst',hdataBytes]
  have hwords : r.stamp = r'.stamp ∧ r.data = r'.data := by
    rcases Nat.le_total (r'.stamp ++ r'.data).length (r.stamp ++ r.data).length with hle | hle
    · exact dataWords_unique hstamps r.words_lt r'.words_lt r.loop r'.loop hle hpadded
    · obtain ⟨hs,hd⟩ := dataWords_unique hstamps.symm r'.words_lt r.words_lt r'.loop r.loop hle
        hpadded.symm
      exact ⟨hs.symm,hd.symm⟩
  have hreads := r.reads
  rw [hhrp,r'.reads,Except.ok.injEq,Prod.mk.injEq] at hreads
  have hloop := r.loop
  rw [hwords.1,hwords.2,r'.loop,Except.ok.injEq] at hloop
  have hhash := r.hash
  rw [← hloop,r'.hash,Option.some_inj] at hhash
  refine ⟨r.decoded,r'.decoded,r.decodes,r'.decodes,hhrp,?_,?_,?_⟩
  · rw [r.dataWords,r'.dataWords,hwords.1,hwords.2]
  · rw [r.reading,r'.reading,readingOf,readingOf,hreads.1,hreads.2,hwords.1,hloop,hhash]
  · rw [r.reading,r'.reading,readingOf,readingOf,hloop]

def resignedInvoice : InvoiceText :=
  { sampleInvoice with
    signature := 1 :: List.replicate 103 0
    checksum := [14, 7, 31, 18, 11, 3] }

theorem sampleInvoice_table : InvoiceTable sampleInvoice.fields where
  valid := by
    intro field hfield tag htag
    simp only [sampleInvoice,mem_cons,not_mem_nil,or_false] at hfield
    rcases hfield with rfl | rfl | rfl | rfl | rfl
    · cases htag
      exact ⟨rfl,_,zeros_carried⟩
    · cases htag
      exact ⟨rfl,_,zeros_carried⟩
    · cases htag
      exact ⟨rfl,_,zeros_carried⟩
    · cases htag
      exact cons_ne_nil _ _
    · cases htag
      exact ⟨cons_ne_nil _ _,by decide,by decide⟩
  single := by decide
  routeHints := by decide
  fallbacks := by decide
  unknown := by decide
  paymentHash := by decide
  paymentSecret := by decide
  description := by decide

theorem sampleInvoice_wellFormed : ∀ field ∈ sampleInvoice.fields, field.WellFormed := by
  have hzero : ∀ w ∈ List.replicate 52 0, w < 32 := fun w hw => by
    rw [eq_of_mem_replicate hw]
    decide
  intro field hfield
  simp only [sampleInvoice,mem_cons,not_mem_nil,or_false] at hfield
  rcases hfield with rfl | rfl | rfl | rfl | rfl
  · exact ⟨by decide,hzero,by decide⟩
  · exact ⟨by decide,hzero,by decide⟩
  · exact ⟨by decide,hzero,by decide⟩
  · exact ⟨by decide,by decide,by decide⟩
  · exact ⟨by decide,by decide,by decide⟩

theorem sampleInvoice_writtenAs : sampleInvoice.WrittenAs sampleInvoice.text where
  spelled := (InvoiceText.spells_of_wellSpelled sampleInvoice_wellSpelled).1
  amount := ⟨some 1000,['1', '0'],some 'n',rfl,by decide,by simp [isMultiplier],by decide,
    by decide,by decide⟩
  timestamp := rfl
  signature := rfl
  wellFormed := sampleInvoice_wellFormed
  table := sampleInvoice_table

theorem resignedInvoice_wellSpelled : resignedInvoice.wellSpelled = true := by decide +kernel

theorem resignedInvoice_writtenAs : resignedInvoice.WrittenAs resignedInvoice.text where
  spelled := (InvoiceText.spells_of_wellSpelled resignedInvoice_wellSpelled).1
  amount := sampleInvoice_writtenAs.amount
  timestamp := rfl
  signature := rfl
  wellFormed := sampleInvoice_wellFormed
  table := sampleInvoice_table

theorem resignedInvoice_dataWords : resignedInvoice.dataWords = sampleInvoice.dataWords := rfl

theorem resignedInvoice_hrp : resignedInvoice.hrp = sampleInvoice.hrp := rfl

theorem readingOf_message {decoded' : Bech32Decoding} {network' : LightningNetwork}
    {amountMsat' : Option Nat} {timestamp' : Nat} {words' : List Nat} {signature' : List UInt8}
    {paymentHash paymentHash' : String} (hhrp : decoded.hrp = decoded'.hrp)
    (hwords : words = words') :
    (readingOf decoded network amountMsat timestamp words signature paymentHash state).message =
      (readingOf decoded' network' amountMsat' timestamp' words' signature' paymentHash'
        state').message := by
  rw [readingOf,readingOf,hhrp,hwords]

/-- The two spellings are read alike. -/
theorem resignedInvoice_one_reading : ∃ parsed parsed', parse sampleInvoice.text 7089 = .ok parsed ∧
      parse resignedInvoice.text 7089 = .ok parsed' ∧
      ∃ decoded decoded' : Bech32Decoding, decodeBech32 sampleInvoice.text 7089 = some decoded ∧
        decodeBech32 resignedInvoice.text 7089 = some decoded' ∧ decoded.hrp = decoded'.hrp ∧
        decoded.dataWords = decoded'.dataWords ∧
        parsed.invoice = { parsed'.invoice with canonical := parsed.invoice.canonical } ∧
        parsed.explicitPayee = parsed'.explicitPayee := by
  obtain ⟨amountMsat,signature,paymentHash,-,-,-,hparse⟩ :=
    sampleInvoice_writtenAs.parse_eq
      (InvoiceText.spells_of_wellSpelled sampleInvoice_wellSpelled).2
  obtain ⟨amountMsat',signature',paymentHash',-,-,-,hparse'⟩ :=
    resignedInvoice_writtenAs.parse_eq
      (InvoiceText.spells_of_wellSpelled resignedInvoice_wellSpelled).2
  have hstamp : wordsValue sampleInvoice.timestamp < 48 * 2 ^ 27 := by decide
  exact ⟨_,_,hparse,hparse',signedMessage_one_reading sampleInvoice.text resignedInvoice.text
    7089 7089 _ _ hparse hparse' hstamp hstamp
    (readingOf_message resignedInvoice_hrp.symm resignedInvoice_dataWords.symm)⟩

end Frontera.Lightning
