import Frontera.Text.CanonicalFields
import Frontera.Trade.ProposalReading

/-! A canonical proposal is validated to itself, whatever correct assertions a proposal carries
beside its amounts, and is told from every other by its serialization. -/

namespace Frontera.Trade

open Frontera.Data Frontera.Text List Option Json
open Frontera.Monetary (RangeError)

/-- The fields whose values a canonical proposal repeats. -/
def plainFields : List String :=
  ["schema", "network", "ownerAccount", "delegateAccount", "permission", "expiration",
    "requestedValiditySeconds", "referenceContextId", "policyContextRef"] ++ identityFields

variable {H : TradeHashes} {entries entries' : RecordEntries}

variable {accepted : AcceptedTradeProposal} {raw : RawValue} {amount : TradeAmount} {field : String}

theorem validateEntries_of_agree
    (hplain : ∀ field ∈ plainFields, entries'.value field = entries.value field)
    (hgets : amountField H entries' "takerGets" = amountField H entries "takerGets")
    (hpays : amountField H entries' "takerPays" = amountField H entries "takerPays")
    (hflags : parseFlags (entries'.value "flags") = parseFlags (entries.value "flags"))
    (hassertions : assertionViolations H.sha256 accepted.terms.toOrderLegs entries' = [])
    (h : validateEntries H entries = .ok (.ok accepted)) :
    validateEntries H entries' = .ok (.ok accepted) := by
  obtain ⟨network,gets,pays,flags,legs,hreads,-,rfl⟩ := validateEntries_eq_ok.1 h
  have hvalue : ∀ field, field ∈ plainFields → entries'.value field = entries.value field := hplain
  have hidentity : ∀ field ∈ identityFields, entries'.value field = entries.value field :=
    fun field hfield => hplain field (mem_append_right _ hfield)
  have hfields : fieldViolations H entries' = fieldViolations H entries := by
    have hids : identityFields.flatMap (fun field =>
          check (isTradeIdentifier (entries'.value field)) .identifierMalformed field) =
        identityFields.flatMap fun field =>
          check (isTradeIdentifier (entries.value field)) .identifierMalformed field :=
      flatMap_congr fun field hfield => by rw [hidentity field hfield]
    simp only [fieldViolations,accountViolations,referenceViolations,hids,hgets,hpays,hflags,
      hvalue "schema" (by decide),hvalue "network" (by decide),
      hvalue "ownerAccount" (by decide),hvalue "delegateAccount" (by decide),
      hvalue "permission" (by decide),hvalue "expiration" (by decide),
      hvalue "requestedValiditySeconds" (by decide),hvalue "referenceContextId" (by decide),
      hvalue "policyContextRef" (by decide)]
  refine validateEntries_eq_ok.2 ⟨network,gets,pays,flags,legs,?_,hassertions,?_⟩
  · exact {
      takerGets := hgets.trans hreads.takerGets
      takerPays := hpays.trans hreads.takerPays
      parsed := hflags.trans hreads.parsed
      ledger := by rw [hvalue "network" (by decide),hreads.ledger]
      fields := hfields.trans hreads.fields
      assets := hreads.assets
      terms := hreads.terms }
  · simp only [proposalOf,hvalue "organizationId" (by decide),hvalue "principalId" (by decide),
      hvalue "requestId" (by decide),hvalue "idempotencyKey" (by decide),
      hvalue "ownerAccount" (by decide),hvalue "delegateAccount" (by decide),
      hvalue "expiration" (by decide),hvalue "requestedValiditySeconds" (by decide),
      hvalue "referenceContextId" (by decide),hvalue "policyContextRef" (by decide)]

theorem parseTradeCurrencyCode_ne_xrp : parseTradeCurrencyCode raw ≠ some "XRP" := by
  intro h
  have hxrp := parseTradeCurrencyCode_canonical h
  revert hxrp
  decide

theorem parseTradeAmount_json {sha256 : List UInt8 → List UInt8} (h : amount.WellFormed sha256)
    (field : String) : parseTradeAmount sha256 (.ofJson amount.json) field = .ok amount := by
  cases h with
  | xrp hdrops =>
    simp [TradeAmount.json,RawValue.ofJson,RawValue.ofFields,parseTradeAmount,
      snapshotTradeRecord,readProperties,dangerousKeys,Except.map,parseXrpAmount,
      RecordEntries.get,RecordEntries.has,hdrops]
  | issued hcurrency hissuer hvalue =>
    rename_i currency issuer value
    have hne : currency ≠ "XRP" := by
      rintro rfl
      exact parseTradeCurrencyCode_ne_xrp hcurrency
    have hsnapshot : snapshotTradeRecord (.ofJson (TradeAmount.issued currency issuer value).json) 8 = .ok
          [("currency", .str currency), ("issuer", .str issuer), ("value", .str value)] := by
      rw [TradeAmount.json,ofJson_obj]
      exact snapshotTradeRecord_eq_ok.2
        ⟨rfl,Nat.le_of_ble_eq_true rfl,by simp [dangerousKeys]⟩
    have haccount : checkAccount sha256 (.str issuer) = .valid := hissuer
    rw [parseTradeAmount,hsnapshot]
    simp only [RecordEntries.get,List.find?_cons,decide_true,map_some]
    split
    · rename_i hxrp
      exact absurd (RawValue.str.inj (some.inj hxrp)) hne
    · simp [RecordEntries.get,parseIssuedAmount,hcurrency,haccount,hvalue]

theorem amountField_wellFormed (h : amountField H entries field = .ok amount) :
    amount.WellFormed H.sha256 := by
  unfold amountField at h
  split at h
  · cases h
  · rename_i parsed hparsed
    cases h
    exact parseTradeAmount_wellFormed hparsed

theorem amountField_eq_ok : amountField H entries field = .ok amount ↔
      parseTradeAmount H.sha256 (entries.value field) field = .ok amount := by
  unfold amountField
  split <;> simp_all

theorem value_fieldEntries (fields : List (String × Json String)) (key : String) :
    (fieldEntries fields).value key = ((Json.lookup fields key).map RawValue.ofJson).getD .undefined := by
  rw [RecordEntries.value,get_fieldEntries]

theorem lookup_append (fields fields' : List (String × Json String)) (key : String) :
    Json.lookup (fields ++ fields') key = (Json.lookup fields key).or (Json.lookup fields' key) := by
  simp only [Json.lookup,List.find?_append]
  cases fields.find? fun f => f.1 = key <;> rfl

theorem lookup_optionalField (name key : String) (value : Option (Json String)) :
    Json.lookup (optionalField name value) key = if name = key then value else none := by
  cases value with
  | none => simp [optionalField,Json.lookup]
  | some value => by_cases h : name = key <;> simp [optionalField,Json.lookup,h]

theorem lookup_cons (name key : String) (value : Json String)
    (fields : List (String × Json String)) :
    Json.lookup ((name, value) :: fields) key =
      if name = key then some value else Json.lookup fields key := by
  by_cases h : name = key <;> simp [Json.lookup,h]

theorem lookup_nil (key : String) : Json.lookup ([] : List (String × Json String)) key = none := rfl

variable {raw : RawValue}

theorem isText_iff {text : String} : raw.isText text = true ↔ raw = .str text := by
  cases raw <;> simp [RawValue.isText]

theorem isUndefined_iff : raw.isUndefined = true ↔ raw = .undefined := by
  cases raw <;> simp [RawValue.isUndefined]

theorem str_of_isTradeIdentifier (h : isTradeIdentifier raw = true) : .str raw.asText = raw := by
  cases raw with
  | str => rfl
  | _ => cases h

theorem str_of_checkAccount {sha256 : List UInt8 → List UInt8}
    (h : checkAccount sha256 raw = .valid) :
    .str raw.asText = raw := by
  cases raw with
  | str => rfl
  | _ => cases h

theorem number_of_isSafeIntegerIn {minimum maximum : Int}
    (h : isSafeIntegerIn minimum maximum raw = true) : .number raw.asInteger = raw := by
  cases raw with
  | number => rfl
  | _ => cases h

theorem str_of_parseTradeNetwork {network : TradeNetwork}
    (h : parseTradeNetwork raw = some network) :
    .str network.text = raw := by
  unfold parseTradeNetwork at h
  split at h
  · cases h
    rfl
  · cases h
    rfl
  · cases h

theorem stated_getD {write : RawValue → RawValue} (h : raw.isUndefined = true ∨ write raw = raw) :
    (raw.stated.map write).getD .undefined = raw := by
  by_cases hundefined : raw.isUndefined = true
  · rw [RawValue.stated,if_pos hundefined]
    exact (isUndefined_iff.1 hundefined).symm
  · rw [RawValue.stated,if_neg hundefined]
    exact h.resolve_left hundefined

theorem value_canonical {network : TradeNetwork} {gets pays : TradeAmount}
    {flags : List TradeOfferFlag} {legs : OrderLegs}
    (h : ReadsAs H entries network gets pays flags legs) : ∀ field ∈ plainFields,
      (fieldEntries (proposalOf entries network gets pays flags).fields).value field =
        entries.value field := by
  have hfields := h.fields
  simp only [fieldViolations,referenceViolations,append_eq_nil_iff,
    check_eq_nil,flatMap_eq_nil_iff,Bool.or_eq_true,isTradeReference] at hfields
  obtain ⟨⟨⟨⟨⟨⟨⟨⟨⟨⟨⟨⟨⟨hschema,hidentity⟩,-⟩,howner⟩,hdelegate⟩,-⟩,hpermission⟩,-⟩,-⟩,-⟩,
    hexpiration⟩,hvalidity⟩,hreference⟩,hpolicy⟩ := hfields
  have haccount : ∀ {field : String}, accountViolations H entries field = [] →
      .str (entries.value field).asText = entries.value field := by
    intro field hchecked
    have hvalid : checkAccount H.sha256 (entries.value field) = .valid := by
      unfold accountViolations at hchecked
      split at hchecked
      · assumption
      · cases hchecked
      · cases hchecked
    exact str_of_checkAccount hvalid
  have hid : ∀ field ∈ identityFields, .str (entries.value field).asText = entries.value field :=
    fun field hfield => str_of_isTradeIdentifier (hidentity field hfield)
  intro field hfield
  rw [value_fieldEntries]
  simp only [plainFields,identityFields,cons_append,nil_append,mem_cons, not_mem_nil,or_false] at hfield
  rcases hfield with rfl | rfl | rfl | rfl | rfl | rfl | rfl | rfl | rfl | rfl | rfl | rfl | rfl <;>
    simp only [TradeProposal.fields,proposalOf,lookup_append,lookup_cons,lookup_optionalField,
      lookup_nil,String.reduceEq,if_true,if_false,or_some,none_or,
      or_none,map_some,getD_some,getD_none,Option.map_map,Function.comp_def,RawValue.ofJson]
  · exact (isText_iff.1 hschema).symm
  · exact str_of_parseTradeNetwork h.ledger
  · exact haccount howner
  · exact haccount hdelegate
  · exact (isText_iff.1 hpermission).symm
  · exact stated_getD (hexpiration.imp_right number_of_isSafeIntegerIn)
  · exact number_of_isSafeIntegerIn hvalidity
  · exact stated_getD (hreference.imp_right str_of_isTradeIdentifier)
  · exact stated_getD (hpolicy.imp_right str_of_isTradeIdentifier)
  · exact hid _ (by decide)
  · exact hid _ (by decide)
  · exact hid _ (by decide)
  · exact hid _ (by decide)

def canonicalNames : List String :=
  ["schema", "organizationId", "principalId", "requestId", "idempotencyKey", "network",
    "ownerAccount", "delegateAccount", "permission", "takerGets", "takerPays", "flags",
    "expiration", "requestedValiditySeconds", "referenceContextId", "policyContextRef"]

theorem names_optionalField (name : String) (value : Option (Json String)) :
    ((optionalField name value).map Prod.fst).Sublist [name] := by
  cases value with
  | none => exact nil_sublist _
  | some value => exact List.Sublist.refl _

theorem names_fields (proposal : TradeProposal) :
    (proposal.fields.map Prod.fst).Sublist canonicalNames := by
  have hsub := (((List.Sublist.refl (canonicalNames.take 12)).append
    (names_optionalField "expiration" (proposal.expiration.map .num))).append
    (List.Sublist.refl ["requestedValiditySeconds"])).append
    (names_optionalField "referenceContextId" (proposal.referenceContextId.map .str))
  rw [TradeProposal.fields]
  simp only [map_append]
  exact hsub.append (names_optionalField "policyContextRef" (proposal.policyContextRef.map .str))

theorem names_nodup (proposal : TradeProposal) : (proposal.fields.map Prod.fst).Nodup :=
  (names_fields proposal).nodup (by decide)

theorem has_fields (proposal : TradeProposal) :
    ∀ field ∈ requiredFields, (fieldEntries proposal.fields).has field = true := by
  intro field hfield
  rw [RecordEntries.has,get_fieldEntries,isSome_map]
  simp only [requiredFields,mem_cons,not_mem_nil,or_false] at hfield
  rcases hfield with rfl | rfl | rfl | rfl | rfl | rfl | rfl | rfl | rfl | rfl | rfl | rfl <;>
    simp [TradeProposal.fields,lookup_append,lookup_cons,lookup_optionalField]

theorem value_undefined (proposal : TradeProposal) (h : field ∈ assertionFields) :
    (fieldEntries proposal.fields).value field = .undefined := by
  rw [value_fieldEntries]
  simp only [assertionFields,mem_cons,not_mem_nil,or_false] at h
  rcases h with rfl | rfl | rfl <;>
    simp [TradeProposal.fields,lookup_append,lookup_cons,lookup_optionalField]

theorem assertionViolations_undefined (sha256 : List UInt8 → List UInt8) (legs : OrderLegs)
    (h : ∀ field ∈ assertionFields, entries.value field = .undefined) :
    assertionViolations sha256 legs entries = [] := by
  rw [assertionViolations,h "pair" (by decide),h "side" (by decide),h "limitPrice" (by decide)]
  rfl

theorem validate_canonical (h : validateTradeProposal H raw = .ok (.ok accepted)) :
    validateTradeProposal H (.ofJson accepted.proposal.json) = .ok (.ok accepted) := by
  obtain ⟨entries,rfl,-,-,-,hentries⟩ := validateTradeProposal_eq_ok.1 h
  obtain ⟨network,gets,pays,flags,legs,hreads,hassertions,rfl⟩ :=
    validateEntries_eq_ok.1 hentries
  have hfixed (field : String) (value : Json String) (hlookup :
      Json.lookup (proposalOf entries network gets pays flags).fields field = some value) :
      (fieldEntries (proposalOf entries network gets pays flags).fields).value field = .ofJson value := by
    rw [value_fieldEntries,hlookup]
    rfl
  have hgets := hfixed "takerGets" gets.json (by
    simp [TradeProposal.fields,proposalOf,lookup_cons])
  have hpays := hfixed "takerPays" pays.json (by
    simp [TradeProposal.fields,proposalOf,lookup_cons])
  have hflags := hfixed "flags" (.arr (flags.map fun flag => .str flag.text)) (by
    simp [TradeProposal.fields,proposalOf,lookup_cons])
  have hnames := names_fields (proposalOf entries network gets pays flags)
  change validateTradeProposal H (.ofJson (proposalOf entries network gets pays flags).json) = _
  rw [TradeProposal.json,ofJson_obj]
  refine validateTradeProposal_eq_ok.2 ⟨_,rfl,?_,?_,has_fields _,?_⟩
  · have hlength := hnames.length_le
    rw [length_map] at hlength
    rw [fieldEntries,length_map]
    exact hlength.trans (by decide)
  · intro entry hentry
    obtain ⟨field,hfield,rfl⟩ := mem_map.1 hentry
    have hdeclared : ∀ name ∈ canonicalNames, isDeclared name = true := by decide
    exact hdeclared _ (hnames.subset (mem_map_of_mem hfield))
  · apply validateEntries_of_agree (value_canonical hreads) _ _ _ _ hentries
    · rw [hreads.takerGets,amountField_eq_ok,hgets]
      exact parseTradeAmount_json (amountField_wellFormed hreads.takerGets) _
    · rw [hreads.takerPays,amountField_eq_ok,hpays]
      exact parseTradeAmount_json (amountField_wellFormed hreads.takerPays) _
    · rw [hflags,(CanonicalFlags.of_parse hreads.parsed).parse,hreads.parsed]
    · exact assertionViolations_undefined _ _ fun field hfield => value_undefined _ hfield

private def tradeKeyLe (a b : String) : Bool := !stringLt b a

theorem TradeOfferFlag.text_injective : Function.Injective TradeOfferFlag.text := by
  intro flag flag' h
  cases flag <;> cases flag' <;> first | rfl | (revert h; decide)

theorem TradeNetwork.text_injective : Function.Injective TradeNetwork.text := by
  intro network network' h
  cases network <;> cases network' <;> first | rfl | (revert h; decide)

theorem TradeAmount.json_canonical_inj {amount' : TradeAmount}
    (h : canonical tradeKeyLe amount.json = canonical tradeKeyLe amount'.json) :
    amount = amount' := by
  have hget (amount : TradeAmount) (key : String) : Json.get (canonical tradeKeyLe amount.json) key =
        (Json.get amount.json key).map (canonical tradeKeyLe) := by
    cases amount with
    | xrp => exact get_canonical tradeKeyLe (by simp) key
    | issued => exact get_canonical tradeKeyLe (by simp) key
  have hkeys (key : String) : (Json.get amount.json key).map (canonical tradeKeyLe) =
      (Json.get amount'.json key).map (canonical tradeKeyLe) := by
    rw [← hget,← hget,h]
  have hdrops := hkeys "drops"
  have hcurrency := hkeys "currency"
  have hissuer := hkeys "issuer"
  have hvalue := hkeys "value"
  cases amount <;> cases amount' <;>
    simp_all [TradeAmount.json,Json.get,Json.lookup,canonical]

theorem serializeTradeProposal_injective : Function.Injective serializeTradeProposal := by
  intro p p' h
  have hparsed : (Json.parse (serializeTradeProposal p) : Option (Json String)) =
      Json.parse (serializeTradeProposal p') := congrArg Json.parse h
  rw [serializeTradeProposal,serializeTradeProposal,canonicalTradeJson,canonicalTradeJson,
    parse_canonicalSerialize,parse_canonicalSerialize,some_inj] at hparsed
  have hlookup (key : String) : (Json.lookup p.fields key).map (canonical tradeKeyLe) =
      (Json.lookup p'.fields key).map (canonical tradeKeyLe) := by
    have hget := congrArg (fun value => Json.get value key) hparsed
    rw [← get_canonical tradeKeyLe (names_nodup p),← get_canonical tradeKeyLe (names_nodup p')]
    exact hget
  have horganization := hlookup "organizationId"
  have hprincipal := hlookup "principalId"
  have hrequest := hlookup "requestId"
  have hidempotency := hlookup "idempotencyKey"
  have hnetwork := hlookup "network"
  have howner := hlookup "ownerAccount"
  have hdelegate := hlookup "delegateAccount"
  have hgets := hlookup "takerGets"
  have hpays := hlookup "takerPays"
  have hflags := hlookup "flags"
  have hexpiration := hlookup "expiration"
  have hvalidity := hlookup "requestedValiditySeconds"
  have hreference := hlookup "referenceContextId"
  have hpolicy := hlookup "policyContextRef"
  simp only [TradeProposal.fields,lookup_append,lookup_cons,lookup_optionalField,lookup_nil,
    String.reduceEq,if_true,if_false,or_some,none_or,or_none,
    map_some,getD_none,Option.map_map,some_inj,canonical,
    Json.str.injEq,num.injEq,arr.injEq,canonicalItems_eq_map,List.map_map]
    at horganization hprincipal hrequest hidempotency hnetwork howner hdelegate hgets hpays hflags
      hexpiration hvalidity hreference hpolicy
  have hflag : Function.Injective
      (canonical tradeKeyLe ∘ fun flag : TradeOfferFlag => Json.str flag.text) :=
    fun flag flag' heq => TradeOfferFlag.text_injective (Json.str.inj heq)
  have htext : Function.Injective (canonical tradeKeyLe ∘ (Json.str : String → Json String)) :=
    fun text text' heq => Json.str.inj heq
  have hnumber : Function.Injective (canonical tradeKeyLe ∘ (num : Int → Json String)) :=
    fun number number' heq => num.inj heq
  have hflags' := List.map_injective_iff.2 hflag hflags
  have hexpiration' := map_injective hnumber hexpiration
  have hreference' := map_injective htext hreference
  have hpolicy' := map_injective htext hpolicy
  have hnetwork' := TradeNetwork.text_injective hnetwork
  have hgets' := TradeAmount.json_canonical_inj hgets
  have hpays' := TradeAmount.json_canonical_inj hpays
  cases p
  cases p'
  simp only at horganization hprincipal hrequest hidempotency howner hdelegate hvalidity
  simp only [TradeProposal.mk.injEq]
  exact ⟨horganization,hprincipal,hrequest,hidempotency,hnetwork',howner,hdelegate,hgets',
    hpays',hflags',hexpiration',hvalidity,hreference',hpolicy'⟩

end Frontera.Trade
