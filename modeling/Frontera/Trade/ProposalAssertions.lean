import Frontera.Trade.ProposalCanonical

/-! What it is for a pair, a side or a limit price to agree with the amounts, in the terms of the
amounts and not of the reader; and that an agreeing assertion changes nothing. -/

namespace Frontera.Trade

open Frontera.Data Frontera.Text List Option
open Frontera.Monetary (RangeError toDigits_isDigit)

/-- The record states exactly these entries, in some order. -/
def RawValue.States (raw : RawValue) (entries : RecordEntries) : Prop :=
  ∃ stated : RecordEntries, stated.Perm entries ∧ raw = stated.raw

/-- An asset in a spelling of its own: the currency is any text with that canonical code. -/
inductive SpellsAsset : RawValue → TradeAsset → Prop where
  | xrp {raw : RawValue} (h : raw.States [("currency", .str "XRP")]) : SpellsAsset raw .xrp
  | issued {raw code : RawValue} {currency issuer : String}
      (hcode : parseTradeCurrencyCode code = some currency)
      (h : raw.States [("currency", code), ("issuer", .str issuer)]) :
      SpellsAsset raw (.issued currency issuer)

/-- An assertion of what the terms say, under the field it is made in. A price need not be in lowest
terms, but its terms are within their length. -/
inductive CorrectAssertion (terms : OrderLegs) : String → RawValue → Prop where
  | undefined {field : String} : CorrectAssertion terms field .undefined
  | pair {raw base quote : RawValue} (hbase : SpellsAsset base terms.base)
      (hquote : SpellsAsset quote terms.quote) (h : raw.States [("base", base), ("quote", quote)]) :
      CorrectAssertion terms "pair" raw
  | side : CorrectAssertion terms "side" (.str terms.side.text)
  | price {raw : RawValue} {n d : Nat} (hn : 0 < n) (hd : 0 < d)
      (hlengths : (Nat.toDigits 10 n).length ≤ tradePriceMaximumDigits ∧
        (Nat.toDigits 10 d).length ≤ tradePriceMaximumDigits)
      (hvalue : (n / d : ℚ) = terms.limitPrice.value)
      (h : raw.States [("numerator", .str (priceTerm n)), ("denominator", .str (priceTerm d))]) :
      CorrectAssertion terms "limitPrice" raw

/-- The same entries but for the assertions, which are correct. -/
structure RecordEntries.Restates (entries' entries : RecordEntries) (terms : OrderLegs) : Prop where
  nodup : (entries'.map Prod.fst).Nodup
  others : ∀ entry, entry.1 ∉ assertionFields → (entry ∈ entries' ↔ entry ∈ entries)
  correct : ∀ entry ∈ entries', entry.1 ∈ assertionFields → CorrectAssertion terms entry.1 entry.2

variable {raw : RawValue} {gets pays : TradeAmount} {terms : OrderLegs} {field : String}

theorem RawValue.States.snapshot {entries : RecordEntries} (h : raw.States entries)
    (maximum : Nat) (hlength : entries.length ≤ maximum) (hnodup : (entries.map Prod.fst).Nodup)
    (hkeys : ∀ entry ∈ entries, entry.1 ∉ dangerousKeys) :
    ∃ stated : RecordEntries, snapshotTradeRecord raw maximum = .ok stated ∧
      stated.length = entries.length ∧ ∀ key, stated.get key = entries.get key := by
  obtain ⟨stated,hperm,rfl⟩ := h
  refine ⟨stated,snapshotTradeRecord_eq_ok.2 ⟨rfl,?_,?_⟩,hperm.length_eq,?_⟩
  · rw [hperm.length_eq]
    exact hlength
  · exact fun entry hentry => hkeys entry (hperm.mem_iff.1 hentry)
  · exact fun key => (RecordEntries.get_perm hperm.symm hnodup key).symm

theorem RawValue.States.snapshot_pair {first second : RawValue} {name name' : String}
    (h : raw.States [(name, first), (name', second)]) (hne : name ≠ name')
    (hname : name ∉ dangerousKeys) (hname' : name' ∉ dangerousKeys) :
    ∃ stated : RecordEntries, snapshotTradeRecord raw 4 = .ok stated ∧ stated.length = 2 ∧
      stated.get name = some first ∧ stated.get name' = some second := by
  have hnodup : ([(name, first), (name', second)].map Prod.fst).Nodup := by simpa using hne
  obtain ⟨stated,hsnapshot,hlength,hget⟩ := h.snapshot 4
    (Nat.le_of_ble_eq_true rfl) hnodup (by simp [hname,hname'])
  refine ⟨stated,hsnapshot,hlength,?_,?_⟩
  · rw [hget]
    simp [RecordEntries.get]
  · rw [hget]
    simp [RecordEntries.get,hne]

theorem parseIssuedValue_one : parseIssuedValue (.str "1") = .ok "1" := rfl

theorem parseAssetAssertion_of_spells {sha256 : List UInt8 → List UInt8} {asset : TradeAsset}
    (h : SpellsAsset raw asset)
    (hvalid : ∀ currency issuer, asset = .issued currency issuer → checkTradeAccountAddress sha256 issuer = .valid) :
    parseAssetAssertion sha256 raw = some asset := by
  cases h with
  | xrp h =>
    obtain ⟨stated,hsnapshot,hlength,hget⟩ := h.snapshot 4
      (Nat.le_of_ble_eq_true rfl) (by simp) (by simp [dangerousKeys])
    have hcurrency : stated.value "currency" = .str "XRP" := by
      rw [RecordEntries.value,hget]
      rfl
    rw [parseAssetAssertion,hsnapshot]
    simp only [hcurrency,RawValue.isText,beq_self_eq_true,if_true,hlength,length_singleton]
  | issued hcode h =>
    rename_i code currency issuer
    obtain ⟨stated,hsnapshot,hlength,hcurrency,hissuer⟩ :=
      h.snapshot_pair (by decide) (by decide) (by decide)
    have hvalue : stated.value "currency" = code ∧ stated.value "issuer" = .str issuer := by
      rw [RecordEntries.value,RecordEntries.value,hcurrency,hissuer]
      exact ⟨rfl,rfl⟩
    have hxrp : code.isText "XRP" = false := by
      rw [← Bool.not_eq_true,isText_iff]
      rintro rfl
      revert hcode
      have hnone : parseTradeCurrencyCode (.str "XRP") = none := rfl
      rw [hnone]
      simp
    have haccount : checkAccount sha256 (.str issuer) = .valid := hvalid currency issuer rfl
    have hrecord : snapshotTradeRecord (.record true [(.name "currency", some code),
        (.name "issuer", some (.str issuer)), (.name "value", some (.str "1"))]) 8 =
        .ok [("currency", code), ("issuer", .str issuer), ("value", .str "1")] :=
      snapshotTradeRecord_eq_ok.2 ⟨rfl,Nat.le_of_ble_eq_true rfl,by simp [dangerousKeys]⟩
    have hamount : parseTradeAmount sha256 (.record true [(.name "currency", some code),
        (.name "issuer", some (.str issuer)), (.name "value", some (.str "1"))]) "pair" =
        .ok (.issued currency issuer "1") := by
      rw [parseTradeAmount,hrecord]
      simp only [RecordEntries.get,List.find?_cons,decide_true,map_some]
      split
      · rename_i heq
        rw [some_inj] at heq
        rw [heq] at hxrp
        cases hxrp
      · simp [RecordEntries.get,parseIssuedAmount,hcode,haccount,parseIssuedValue_one]
    rw [parseAssetAssertion,hsnapshot]
    simp only [hvalue.1,hvalue.2,hxrp,Bool.false_eq_true,if_false,hamount,hlength,ne_eq, not_true_eq_false]
    rfl

theorem parsePriceTerm_priceTerm {n : Nat} (hn : 0 < n)
    (hlength : (Nat.toDigits 10 n).length ≤ tradePriceMaximumDigits) :
    parsePriceTerm (.str (priceTerm n)) = some n := by
  have hunits : (codeUnits (priceTerm n)).length ≤ tradePriceMaximumDigits := by
    rw [priceTerm,length_codeUnits_decimal fun c hc => .inl (toDigits_isDigit n c hc)]
    exact hlength
  have hinteger : isPositiveInteger (priceTerm n).toList = true := by
    rw [priceTerm,String.toList_ofList]
    exact isPositiveInteger_iff.2 ⟨n,hn,rfl⟩
  rw [parsePriceTerm,if_pos ⟨hunits,hinteger⟩,priceTerm,String.toList_ofList, Nat.ofDigitChars_ten_toDigits]

theorem compareTradePrices_eq {left right : TradePrice} (h : left.value = right.value) :
    compareTradePrices left right = .eq := by
  rw [TradeRational.value,TradeRational.value,
    div_eq_div_iff left.denominator_ne_zero right.denominator_ne_zero] at h
  rw [compareTradePrices,compare_eq_iff_eq]
  exact_mod_cast h

variable {sha256 : List UInt8 → List UInt8} {legs : OrderLegs} {raw : RawValue}

theorem pairViolations_of_correct (h : CorrectAssertion legs "pair" raw)
    (hbase : ∀ currency issuer, legs.base = .issued currency issuer →
      checkTradeAccountAddress sha256 issuer = .valid)
    (hquote : ∀ currency issuer, legs.quote = .issued currency issuer →
      checkTradeAccountAddress sha256 issuer = .valid) : pairViolations sha256 legs raw = [] := by
  generalize hfield : "pair" = field at h
  cases h with
  | side => exact absurd hfield (by decide)
  | price => exact absurd hfield (by decide)
  | undefined => rfl
  | pair hspellsBase hspellsQuote h =>
    rename_i base quote
    obtain ⟨stated,hsnapshot,hlength,hstatedBase,hstatedQuote⟩ :=
      h.snapshot_pair (by decide) (by decide) (by decide)
    have hvalue : stated.value "base" = base ∧ stated.value "quote" = quote := by
      rw [RecordEntries.value,RecordEntries.value,hstatedBase,hstatedQuote]
      exact ⟨rfl,rfl⟩
    have hpair : parsePairAssertion sha256 raw = some ⟨legs.base,legs.quote⟩ := by
      rw [parsePairAssertion,hsnapshot]
      simp only [hlength,ne_eq,not_true_eq_false,if_false,hvalue.1,hvalue.2,
        parseAssetAssertion_of_spells hspellsBase hbase, parseAssetAssertion_of_spells hspellsQuote hquote]
      rfl
    rw [pairViolations,hpair]
    simp [tradeAssetsEqual]

theorem sideViolations_of_correct (h : CorrectAssertion legs "side" raw) :
    sideViolations legs raw = [] := by
  generalize hfield : "side" = field at h
  cases h with
  | pair => exact absurd hfield (by decide)
  | price => exact absurd hfield (by decide)
  | undefined => rfl
  | side =>
    rw [sideViolations]
    cases legs.side <;> rfl

theorem priceViolations_of_correct (h : CorrectAssertion legs "limitPrice" raw) :
    priceViolations legs raw = [] := by
  generalize hfield : "limitPrice" = field at h
  cases h with
  | pair => exact absurd hfield (by decide)
  | side => exact absurd hfield (by decide)
  | undefined => rfl
  | price hn hd hlengths hvalue h =>
    rename_i n d
    obtain ⟨stated,hsnapshot,hlength,hnumerator,hdenominator⟩ :=
      h.snapshot_pair (by decide) (by decide) (by decide)
    have hparsed : parseTradePriceAssertion raw = some (reduced n d hd) := by
      rw [parseTradePriceAssertion,hsnapshot]
      simp only [hlength,ne_eq,not_true_eq_false,if_false,hnumerator,hdenominator,
        bind_some,parsePriceTerm_priceTerm hn hlengths.1,
        parsePriceTerm_priceTerm hd hlengths.2,bind_eq_bind,dif_pos hd]
    have hequal : compareTradePrices (reduced n d hd) legs.limitPrice = .eq :=
      compareTradePrices_eq (reduced_value.trans hvalue)
    rw [priceViolations,hparsed]
    simp [hequal]

theorem orderLegs_assets {legs : OrderLegs} (h : orderLegs gets pays = .ok legs) :
    (legs.base = tradeAssetOf gets ∨ legs.base = tradeAssetOf pays) ∧
      (legs.quote = tradeAssetOf gets ∨ legs.quote = tradeAssetOf pays) := by
  unfold orderLegs at h
  obtain ⟨price,-,rfl⟩ := map_eq_ok.1 h
  rcases canonicalTradePair_cases (tradeAssetOf gets) (tradeAssetOf pays) with hpair | hpair
  · simp [hpair]
  · simp [hpair]

variable {H : TradeHashes} {entries entries' : RecordEntries}

theorem issuer_valid {amount : TradeAmount} {currency issuer : String}
    (h : amount.WellFormed H.sha256) (hasset : tradeAssetOf amount = .issued currency issuer) :
    checkTradeAccountAddress H.sha256 issuer = .valid := by
  cases h with
  | xrp => cases hasset
  | issued hcurrency hissuer hvalue =>
    cases hasset
    exact hissuer

theorem RecordEntries.Restates.value_eq (h : entries'.Restates entries terms)
    (hfield : field ∉ assertionFields) : entries'.value field = entries.value field := by
  have hget : entries'.get field = entries.get field := by
    cases hstated : entries.get field with
    | none =>
      have hnone := RecordEntries.get_eq_none.1 hstated
      exact RecordEntries.get_eq_none.2 fun value hmem => hnone value ((h.others _ hfield).1 hmem)
    | some value =>
      exact RecordEntries.get_of_mem h.nodup ((h.others _ hfield).2 (entries.mem_of_get hstated))
  rw [RecordEntries.value,RecordEntries.value,hget]

theorem RecordEntries.Restates.correct_value (h : entries'.Restates entries terms)
    (hfield : field ∈ assertionFields) : CorrectAssertion terms field (entries'.value field) := by
  rw [RecordEntries.value]
  cases hstated : entries'.get field with
  | none => exact .undefined
  | some value => exact h.correct _ (entries'.mem_of_get hstated) hfield

theorem validate_restated {accepted : AcceptedTradeProposal}
    (h : validateTradeProposal H raw = .ok (.ok accepted)) :
    ∃ entries : RecordEntries, raw = entries.raw ∧ ∀ entries' : RecordEntries,
      entries'.Restates entries accepted.terms.toOrderLegs →
      validateTradeProposal H entries'.raw = .ok (.ok accepted) := by
  obtain ⟨entries,rfl,hlength,hdeclared,hrequired,hentries⟩ := validateTradeProposal_eq_ok.1 h
  refine ⟨entries,rfl,?_⟩
  intro entries' hrestates
  obtain ⟨network,gets,pays,flags,legs,hreads,-,haccepted⟩ :=
    validateEntries_eq_ok.1 hentries
  have hlegs : accepted.terms.toOrderLegs = legs := by
    rw [haccepted]
    rfl
  have hdeclared' : ∀ entry ∈ entries', isDeclared entry.1 = true := by
    intro entry hentry
    by_cases hassertion : entry.1 ∈ assertionFields
    · have hall : ∀ field ∈ assertionFields, isDeclared field = true := by decide
      exact hall _ hassertion
    · exact hdeclared entry ((hrestates.others entry hassertion).1 hentry)
  have hplain : ∀ field, field ∉ assertionFields → entries'.value field = entries.value field :=
    fun field hfield => hrestates.value_eq hfield
  have hvalid : ∀ asset, asset = tradeAssetOf gets ∨ asset = tradeAssetOf pays →
      ∀ currency issuer, asset = .issued currency issuer →
        checkTradeAccountAddress H.sha256 issuer = .valid := by
    rintro asset (rfl | rfl) currency issuer hasset
    · exact issuer_valid (amountField_wellFormed hreads.takerGets) hasset
    · exact issuer_valid (amountField_wellFormed hreads.takerPays) hasset
  refine validateTradeProposal_eq_ok.2 ⟨entries',rfl,?_,hdeclared',?_,?_⟩
  · -- distinct declared names are at most nineteen
    have hsub : entries'.map Prod.fst ⊆ requiredFields ++ optionalFields := by
      intro name hname
      obtain ⟨entry,hentry,rfl⟩ := mem_map.1 hname
      have hname' := hdeclared' entry hentry
      rw [isDeclared,Bool.or_eq_true,decide_eq_true_eq,decide_eq_true_eq] at hname'
      exact mem_append.2 hname'
    have hle := (hrestates.nodup.subperm hsub).length_le
    rw [length_map] at hle
    exact hle.trans (by decide)
  · intro field hfield
    have hnot : ∀ field ∈ requiredFields, field ∉ assertionFields := by decide
    obtain ⟨value,hvalue⟩ := isSome_iff_exists.1 (hrequired field hfield)
    have hmem := (hrestates.others (field, value) (hnot field hfield)).2 (entries.mem_of_get hvalue)
    rw [RecordEntries.has,RecordEntries.get_of_mem hrestates.nodup hmem]
    rfl
  · have hnot : ∀ field ∈ plainFields, field ∉ assertionFields := by decide
    refine validateEntries_of_agree (fun field hfield => hplain field (hnot field hfield)) ?_ ?_ ?_
      ?_ hentries
    · rw [amountField,amountField,hplain "takerGets" (by decide)]
    · rw [amountField,amountField,hplain "takerPays" (by decide)]
    · rw [hplain "flags" (by decide)]
    · obtain ⟨hbase,hquote⟩ := orderLegs_assets hreads.terms
      have hcorrect : ∀ field ∈ assertionFields, CorrectAssertion legs field (entries'.value field) := by
        intro field hfield
        rw [← hlegs]
        exact hrestates.correct_value hfield
      rw [hlegs,assertionViolations,
        pairViolations_of_correct (hcorrect _ (by decide)) (hvalid _ hbase) (hvalid _ hquote),
        sideViolations_of_correct (hcorrect _ (by decide)),
        priceViolations_of_correct (hcorrect _ (by decide))]
      rfl

theorem orderLegs_total (hgets : gets.WellFormed H.sha256) (hpays : pays.WellFormed H.sha256) :
    ∃ legs, orderLegs gets pays = .ok legs := by
  have hpos : ∀ amount, amount = gets ∨ amount = pays → 0 < (tradeExactQuantity amount).coefficient := by
    rintro amount (rfl | rfl)
    · exact quantity_pos hgets
    · exact quantity_pos hpays
  unfold orderLegs
  simp only
  split
  · obtain ⟨price,hprice,-⟩ := tradePriceOf_spec (hpos pays (.inr rfl)) (hpos gets (.inl rfl))
    exact ⟨_,map_eq_ok.2 ⟨price,hprice,rfl⟩⟩
  · obtain ⟨price,hprice,-⟩ := tradePriceOf_spec (hpos gets (.inl rfl)) (hpos pays (.inr rfl))
    exact ⟨_,map_eq_ok.2 ⟨price,hprice,rfl⟩⟩

/-- Canonical proposals are a fixed point of validation, correct assertions do not change what a
proposal is validated to, and proposals with one serialization are one proposal. -/
theorem proposals_canonical (H : TradeHashes) :
    (∀ raw accepted, validateTradeProposal H raw = .ok (.ok accepted) →
      validateTradeProposal H (.ofJson accepted.proposal.json) = .ok (.ok accepted) ∧
      ∃ entries : RecordEntries, raw = entries.raw ∧ ∀ entries' : RecordEntries,
        entries'.Restates entries accepted.terms.toOrderLegs →
        validateTradeProposal H entries'.raw = .ok (.ok accepted)) ∧
    ∀ raw raw' accepted accepted', validateTradeProposal H raw = .ok (.ok accepted) →
      validateTradeProposal H raw' = .ok (.ok accepted') →
      serializeTradeProposal accepted.proposal = serializeTradeProposal accepted'.proposal →
      accepted.proposal = accepted'.proposal := by
  constructor
  · intro raw accepted h
    exact ⟨validate_canonical h,validate_restated h⟩
  · intro raw raw' accepted accepted' _ _ h
    exact serializeTradeProposal_injective h

def sampleDelegate : String := "rB3chnqojHPZvcArcuc6EbLiMQCVXqLkXi"

def sampleDelegateId : List UInt8 :=
  [111, 33, 110, 51, 197, 207, 154, 221, 157, 112, 231, 205, 140, 40, 227, 218, 254, 39, 231, 114]

def sampleDelegateHash : List UInt8 :=
  [151, 248, 18, 50, 37, 53, 76, 200, 30, 21, 139, 70, 57, 53, 91, 106, 118, 116, 154, 231, 96, 79,
    82, 71, 91, 68, 158, 88, 255, 238, 18, 46]

def sampleDelegateSecondHash : List UInt8 :=
  [202, 163, 193, 193, 199, 191, 2, 137, 139, 45, 20, 29, 129, 199, 169, 245, 143, 143, 216, 184,
    172, 31, 104, 137, 147, 181, 12, 169, 114, 96, 238, 214]

/-- SHA-256, at the messages that the checks of the two sample addresses hash. -/
def sampleHashes : TradeHashes where
  platform := tabulatedPlatform []
  sha256 bytes :=
    if bytes = 0 :: sampleDelegateId then sampleDelegateHash
    else if bytes = sampleDelegateHash then sampleDelegateSecondHash
    else sampleSha256 bytes

def sampleProposal : TradeProposal where
  organizationId := "org-1"
  principalId := "engine-1"
  requestId := "request-1"
  idempotencyKey := "order-1"
  network := .xrpLedgerTestnet
  ownerAccount := sampleAddress
  delegateAccount := sampleDelegate
  takerGets := .xrp "1500000"
  takerPays := .issued "USD" sampleAddress "0.05"
  flags := [.immediateOrCancel, .sell]
  expiration := none
  requestedValiditySeconds := 60
  referenceContextId := some "snapshot-1"
  policyContextRef := none

set_option maxRecDepth 4000 in
theorem sampleDelegate_decoded : decodeBase58 sampleDelegate =
    some (0 :: sampleDelegateId ++ sampleDelegateSecondHash.take 4) := by
  rfl

theorem sampleAccounts_valid : checkAccount sampleHashes.sha256 (.str sampleAddress) = .valid ∧
      checkAccount sampleHashes.sha256 (.str sampleDelegate) = .valid := by
  have hlengths : ∀ text, text = sampleAddress ∨ text = sampleDelegate →
      ¬((codeUnits text).length < accountAddressMinimumLength ∨
        (codeUnits text).length > accountAddressMaximumLength) := by
    rintro text (rfl | rfl) <;> decide
  constructor
  · rw [checkAccount,checkTradeAccountAddress,if_neg (hlengths _ (.inl rfl)), sampleAddress_decoded]
    decide
  · rw [checkAccount,checkTradeAccountAddress,if_neg (hlengths _ (.inr rfl)), sampleDelegate_decoded]
    decide

theorem sampleAmounts_wellFormed : sampleProposal.takerGets.WellFormed sampleHashes.sha256 ∧
    sampleProposal.takerPays.WellFormed sampleHashes.sha256 :=
  ⟨.xrp rfl,.issued rfl sampleAccounts_valid.1 rfl⟩

theorem sampleReference_valid : ∀ text ∈ ["org-1", "engine-1", "request-1", "order-1", "snapshot-1"],
    isTradeIdentifier (.str text) = true := by
  intro text htext
  have hplain : ∃ first rest, text = String.ofList (first :: rest) ∧
      Monetary.isAsciiAlphanumeric first = true ∧ rest.length ≤ 127 ∧
      rest.all Payment.isPlainReferenceChar = true := by
    simp only [mem_cons,not_mem_nil,or_false] at htext
    rcases htext with rfl | rfl | rfl | rfl | rfl <;>
      exact ⟨_,_,rfl,by decide,by decide,by decide⟩
  obtain ⟨first,rest,htext',hfirst,hlength,hrest⟩ := hplain
  exact Payment.isPaymentBusinessReference_of_plain htext' hfirst hlength hrest

theorem sampleProposal_reads (legs : OrderLegs)
    (hlegs : orderLegs sampleProposal.takerGets sampleProposal.takerPays = .ok legs) :
    ReadsAs sampleHashes (fieldEntries sampleProposal.fields) .xrpLedgerTestnet
      sampleProposal.takerGets sampleProposal.takerPays sampleProposal.flags legs := by
  have hgets : amountField sampleHashes (fieldEntries sampleProposal.fields) "takerGets" =
      .ok sampleProposal.takerGets :=
    amountField_eq_ok.2 (parseTradeAmount_json sampleAmounts_wellFormed.1 _)
  have hpays : amountField sampleHashes (fieldEntries sampleProposal.fields) "takerPays" =
      .ok sampleProposal.takerPays :=
    amountField_eq_ok.2 (parseTradeAmount_json sampleAmounts_wellFormed.2 _)
  have hflags : parseFlags ((fieldEntries sampleProposal.fields).value "flags") =
      .ok sampleProposal.flags :=
    CanonicalFlags.parse ⟨by decide,by decide,by decide⟩
  refine ⟨hgets,hpays,hflags,rfl,?_,by decide,hlegs⟩
  have hidentity : ∀ field ∈ identityFields,
      isTradeIdentifier ((fieldEntries sampleProposal.fields).value field) = true := by
    intro field hfield
    simp only [identityFields,mem_cons,not_mem_nil,or_false] at hfield
    rcases hfield with rfl | rfl | rfl | rfl
    · exact sampleReference_valid "org-1" (by decide)
    · exact sampleReference_valid "engine-1" (by decide)
    · exact sampleReference_valid "request-1" (by decide)
    · exact sampleReference_valid "order-1" (by decide)
  have howner : accountViolations sampleHashes (fieldEntries sampleProposal.fields) "ownerAccount" =
      [] := by
    have hvalue : (fieldEntries sampleProposal.fields).value "ownerAccount" = .str sampleAddress := rfl
    rw [accountViolations,hvalue,sampleAccounts_valid.1]
  have hdelegate : accountViolations sampleHashes (fieldEntries sampleProposal.fields)
      "delegateAccount" = [] := by
    have hvalue : (fieldEntries sampleProposal.fields).value "delegateAccount" = .str sampleDelegate := rfl
    rw [accountViolations,hvalue,sampleAccounts_valid.2]
  have hreference : referenceViolations (fieldEntries sampleProposal.fields) "referenceContextId" = [] :=
    check_eq_nil.2 (Bool.or_eq_true_iff.2 (.inr (sampleReference_valid "snapshot-1" (by decide))))
  simp only [fieldViolations,append_eq_nil_iff,check_eq_nil,flatMap_eq_nil_iff,hgets,
    hpays,hflags,howner,hdelegate,hreference,violationOf,and_true]
  exact ⟨⟨⟨⟨⟨⟨⟨rfl,hidentity⟩,rfl⟩,by decide⟩,rfl⟩,rfl⟩,rfl⟩,rfl⟩

theorem sampleProposal_accepted : ∃ accepted, accepted.proposal = sampleProposal ∧
    validateTradeProposal sampleHashes (.ofJson sampleProposal.json) = .ok (.ok accepted) := by
  obtain ⟨legs,hlegs⟩ := orderLegs_total sampleAmounts_wellFormed.1 sampleAmounts_wellFormed.2
  refine ⟨acceptTradeProposal sampleHashes.platform sampleProposal legs,rfl,?_⟩
  rw [TradeProposal.json,ofJson_obj]
  refine validateTradeProposal_eq_ok.2 ⟨_,rfl,by decide,by decide,by decide,?_⟩
  exact validateEntries_eq_ok.2 ⟨_,_,_,_,legs,sampleProposal_reads legs hlegs,
    assertionViolations_undefined _ _ fun field hfield => value_undefined _ hfield,rfl⟩

theorem sampleProposal_canonical : ∃ accepted, accepted.proposal = sampleProposal ∧
    validateTradeProposal sampleHashes (.ofJson accepted.proposal.json) = .ok (.ok accepted) ∧
    (∃ entries : RecordEntries, RawValue.ofJson sampleProposal.json = entries.raw ∧
      ∀ entries' : RecordEntries, entries'.Restates entries accepted.terms.toOrderLegs →
        validateTradeProposal sampleHashes entries'.raw = .ok (.ok accepted)) ∧
    ∀ raw' accepted', validateTradeProposal sampleHashes raw' = .ok (.ok accepted') →
      serializeTradeProposal accepted'.proposal = serializeTradeProposal sampleProposal →
      accepted'.proposal = sampleProposal := by
  obtain ⟨accepted,hproposal,haccepted⟩ := sampleProposal_accepted
  obtain ⟨hfixed,hinjective⟩ := proposals_canonical sampleHashes
  obtain ⟨hagain,hrestated⟩ := hfixed _ _ haccepted
  refine ⟨accepted,hproposal,hagain,hrestated,?_⟩
  intro raw' accepted' haccepted' h
  rw [← hproposal] at h ⊢
  exact hinjective _ _ _ _ haccepted' haccepted h

end Frontera.Trade
