import Frontera.Trade.Proposal

/-! Inversion of the readers of `trade-proposal.ts`: the entries of a record, its flags, and an
accepted proposal with every check it passed. -/

namespace Frontera.Trade

open Frontera.Data Frontera.Text List
open Frontera.Monetary (RangeError)

def entryProperty (entry : String × RawValue) : PropertyKey × Option RawValue :=
  (.name entry.1, some entry.2)

/-- The plain record with these properties. -/
def RecordEntries.raw (entries : RecordEntries) : RawValue :=
  .record true (entries.map entryProperty)

variable {entries : RecordEntries} {key : String} {value : RawValue}
  {seen flags : List TradeOfferFlag} {accepted : AcceptedTradeProposal}

theorem readProperties_eq_ok {properties : List (PropertyKey × Option RawValue)} :
    readProperties properties = .ok entries ↔
      properties = entries.map entryProperty ∧ ∀ entry ∈ entries, entry.1 ∉ dangerousKeys := by
  induction properties generalizing entries with
  | nil =>
    constructor
    · rintro ⟨⟩
      exact ⟨rfl,by simp⟩
    · rintro ⟨hmap,-⟩
      rw [map_eq_nil_iff.1 hmap.symm,readProperties]
  | cons property properties ih =>
    obtain ⟨key,value⟩ := property
    cases key with
    | symbol =>
      constructor
      · intro h
        cases h
      · rintro ⟨hmap,-⟩
        cases entries <;> simp [entryProperty] at hmap
    | name key =>
      constructor
      · intro h
        simp only [readProperties,guard_eq_ok] at h
        obtain ⟨hkey,h⟩ := h
        cases value with
        | none => cases h
        | some value =>
          obtain ⟨rest,hrest,rfl⟩ := map_eq_ok.1 h
          obtain ⟨rfl,hkeys⟩ := ih.1 hrest
          refine ⟨rfl,?_⟩
          intro entry hentry
          rcases mem_cons.1 hentry with rfl | hentry
          · exact hkey
          · exact hkeys entry hentry
      · rintro ⟨hmap,hkeys⟩
        cases entries with
        | nil => cases hmap
        | cons entry entries =>
          obtain ⟨key',value'⟩ := entry
          simp only [map_cons,entryProperty,List.cons.injEq,Prod.mk.injEq, PropertyKey.name.injEq] at hmap
          obtain ⟨⟨rfl,rfl⟩,hmap⟩ := hmap
          have hrest := ih.2 ⟨hmap,fun entry hentry => hkeys entry (.tail _ hentry)⟩
          simp only [readProperties,hrest,if_neg (hkeys _ (.head _)),Except.map]

theorem snapshotTradeRecord_eq_ok {raw : RawValue} {maximum : Nat} :
    snapshotTradeRecord raw maximum = .ok entries ↔ raw = entries.raw ∧ entries.length ≤ maximum ∧
      ∀ entry ∈ entries, entry.1 ∉ dangerousKeys := by
  constructor
  · intro h
    unfold snapshotTradeRecord at h
    split at h
    · rename_i properties
      obtain ⟨hlength,h⟩ := guard_eq_ok.1 h
      obtain ⟨rfl,hkeys⟩ := readProperties_eq_ok.1 h
      rw [length_map] at hlength
      exact ⟨rfl,by omega,hkeys⟩
    · cases h
  · rintro ⟨rfl,hlength,hkeys⟩
    have hread := readProperties_eq_ok.2 ⟨rfl,hkeys⟩
    have hfits : ¬(entries.map entryProperty).length > maximum := by
      rw [length_map]
      omega
    rw [RecordEntries.raw,snapshotTradeRecord,if_neg hfits,hread]

theorem RecordEntries.mem_of_get (h : entries.get key = some value) : (key, value) ∈ entries := by
  obtain ⟨entry,hfind,rfl⟩ := Option.map_eq_some_iff.1 h
  have hkey : entry.1 = key := by simpa using List.find?_some hfind
  rw [← hkey]
  exact mem_of_find?_eq_some hfind

theorem RecordEntries.get_of_mem (hnodup : (entries.map Prod.fst).Nodup)
    (h : (key, value) ∈ entries) : entries.get key = some value := by
  cases hfind : entries.find? fun entry => entry.1 = key with
  | none => exact absurd (by simp) (List.find?_eq_none.1 hfind _ h)
  | some entry =>
    have hkey : entry.1 = key := by simpa using List.find?_some hfind
    have hentry := inj_on_of_nodup_map hnodup (mem_of_find?_eq_some hfind) h hkey
    rw [RecordEntries.get,hfind,hentry]
    rfl

theorem RecordEntries.get_eq_none : entries.get key = none ↔ ∀ value, (key, value) ∉ entries := by
  constructor
  · intro h value hmem
    have hfind := List.find?_eq_none.1 (Option.map_eq_none_iff.1 h) _ hmem
    simp at hfind
  · intro h
    cases hget : entries.get key with
    | none => rfl
    | some value => exact absurd (entries.mem_of_get hget) (h value)

theorem RecordEntries.get_perm {entries' : RecordEntries} (h : entries.Perm entries')
    (hnodup : (entries.map Prod.fst).Nodup) (key : String) :
    entries.get key = entries'.get key := by
  cases hget : entries.get key with
  | none =>
    have hnone := RecordEntries.get_eq_none.1 hget
    exact (RecordEntries.get_eq_none.2 fun value hmem => hnone value (h.mem_iff.2 hmem)).symm
  | some value =>
    have hmem := h.mem_iff.1 (entries.mem_of_get hget)
    exact (RecordEntries.get_of_mem ((h.map _).nodup_iff.1 hnodup) hmem).symm

def fieldEntries (fields : List (String × Json String)) : RecordEntries :=
  fields.map fun field => (field.1, .ofJson field.2)

theorem ofFields_eq (fields : List (String × Json String)) :
    RawValue.ofFields fields = (fieldEntries fields).map entryProperty := by
  induction fields with
  | nil => rfl
  | cons field fields ih =>
    obtain ⟨key,value⟩ := field
    rw [RawValue.ofFields,ih]
    rfl

theorem ofJson_obj (fields : List (String × Json String)) :
    RawValue.ofJson (.obj fields) = (fieldEntries fields).raw := by
  rw [RawValue.ofJson,ofFields_eq,RecordEntries.raw]

theorem ofItems_eq (items : List (Json String)) :
    RawValue.ofItems items = items.map fun item => some (.ofJson item) := by
  induction items with
  | nil => rfl
  | cons item items ih => rw [RawValue.ofItems,ih,map_cons]

theorem get_fieldEntries (fields : List (String × Json String)) (key : String) :
    (fieldEntries fields).get key = (Json.lookup fields key).map RawValue.ofJson := by
  unfold fieldEntries RecordEntries.get Json.lookup
  induction fields with
  | nil => rfl
  | cons field fields ih =>
    by_cases hkey : field.1 = key
    · simp [hkey]
    · simpa [hkey] using ih

theorem parseTradeOfferFlag_text (flag : TradeOfferFlag) :
    parseTradeOfferFlag (.str flag.text) = some flag := by
  cases flag <;> rfl

theorem readFlags_nodup {elements : List (Option RawValue)} {index : Nat} (hseen : seen.Nodup)
    (h : readFlags index seen elements = .ok flags) : flags.Nodup := by
  induction elements generalizing index seen with
  | nil =>
    cases h
    exact hseen
  | cons element elements ih =>
    rw [readFlags] at h
    split at h
    · cases h
    · rename_i flag hflag
      obtain ⟨hnew,h⟩ := guard_eq_ok.1 h
      refine ih ?_ h
      rw [nodup_append]
      refine ⟨hseen,nodup_singleton flag,?_⟩
      rintro a ha b hb rfl
      exact hnew (mem_singleton.1 hb ▸ ha)

theorem readFlags_text (index : Nat) (hnodup : (seen ++ flags).Nodup) :
    readFlags index seen (flags.map fun flag => some (.str flag.text)) = .ok (seen ++ flags) := by
  induction flags generalizing index seen with
  | nil => rw [append_nil,map_nil,readFlags]
  | cons flag flags ih =>
    have hnew : flag ∉ seen := by
      intro hmem
      exact (nodup_append.1 hnodup).2.2 flag hmem flag (.head _) rfl
    have hnext : ((seen ++ [flag]) ++ flags).Nodup := by simpa using hnodup
    rw [map_cons,readFlags,Option.bind_some,parseTradeOfferFlag_text]
    simp only [if_neg hnew]
    rw [ih (index + 1) hnext,append_assoc,singleton_append]

/-- What `parseFlags` makes of a list of flags. -/
structure CanonicalFlags (flags : List TradeOfferFlag) : Prop where
  nodup : flags.Nodup
  consistent : ¬(.immediateOrCancel ∈ flags ∧ .fillOrKill ∈ flags)
  sorted : sortFlags flags = flags

theorem CanonicalFlags.of_parse {raw : RawValue} (h : parseFlags raw = .ok flags) :
    CanonicalFlags flags := by
  unfold parseFlags at h
  split at h
  · cases h
    exact ⟨nodup_nil,by simp,rfl⟩
  · rename_i elements others
    obtain ⟨-,h⟩ := guard_eq_ok.1 h
    obtain ⟨seen,hseen,h⟩ := bind_eq_ok.1 h
    have hperm := perm_insertionSort
      (fun left right : TradeOfferFlag => left.bit ≤ right.bit) seen
    split at h
    · cases h
    · rename_i hconsistent
      cases h
      have hmem : ∀ flag, flag ∈ sortFlags seen ↔ flag ∈ seen := fun flag => hperm.mem_iff
      refine ⟨hperm.nodup_iff.2 (readFlags_nodup nodup_nil hseen),?_,?_⟩
      · rw [hmem,hmem]
        exact hconsistent
      · apply List.Pairwise.insertionSort_eq
        exact pairwise_insertionSort _ _
  · cases h

theorem CanonicalFlags.parse (h : CanonicalFlags flags) :
    parseFlags (.ofJson (.arr (flags.map fun flag => .str flag.text))) = .ok flags := by
  have hlength : flags.length ≤ 4 := by
    have hsub : flags ⊆ [.passive, .immediateOrCancel, .fillOrKill, .sell] := by
      intro flag _
      cases flag <;> decide
    exact (h.nodup.subperm hsub).length_le
  have hnodup : (([] : List TradeOfferFlag) ++ flags).Nodup := h.nodup
  have hread := readFlags_text 0 hnodup
  have hitems : RawValue.ofItems (flags.map fun flag => Json.str flag.text) =
      flags.map fun flag => some (.str flag.text) := by
    rw [ofItems_eq,map_map]
    rfl
  rw [RawValue.ofJson,hitems,parseFlags,length_map,if_neg (by simpa using hlength),hread]
  simp only [nil_append,ok_bind,if_neg h.consistent,h.sorted]
  rfl

variable {H : TradeHashes}

theorem check_eq_nil {accepted : Bool} {code : TradeProposalViolationCode} {field : String} :
    check accepted code field = [] ↔ accepted = true := by
  cases accepted <;> simp [check]

/-- What `validateEntries` has found when it accepts. -/
structure ReadsAs (H : TradeHashes) (entries : RecordEntries) (network : TradeNetwork)
    (gets pays : TradeAmount) (flags : List TradeOfferFlag) (legs : OrderLegs) : Prop where
  takerGets : amountField H entries "takerGets" = .ok gets
  takerPays : amountField H entries "takerPays" = .ok pays
  parsed : parseFlags (entries.value "flags") = .ok flags
  ledger : parseTradeNetwork (entries.value "network") = some network
  fields : fieldViolations H entries = []
  assets : assetViolations (tradeAssetOf gets) (tradeAssetOf pays) = []
  terms : orderLegs gets pays = .ok legs

theorem validateEntries_eq_ok :
    validateEntries H entries = .ok (.ok accepted) ↔ ∃ network gets pays flags legs,
      ReadsAs H entries network gets pays flags legs ∧
      assertionViolations H.sha256 legs entries = [] ∧ accepted =
        acceptTradeProposal H.platform (proposalOf entries network gets pays flags) legs := by
  constructor
  · intro h
    simp only [validateEntries] at h
    split at h
    · rename_i gets pays hgets hpays
      split at h
      · rename_i flags network hflags hnetwork
        split at h
        · cases h
        · rename_i hviolations
          rw [not_not,append_eq_nil_iff] at hviolations
          obtain ⟨legs,hlegs,h⟩ := bind_eq_ok.1 h
          split at h
          · cases h
          · rename_i hassertions
            rw [not_not] at hassertions
            cases h
            have hreads : ReadsAs H entries network gets pays flags legs :=
              ⟨hgets,hpays,hflags,hnetwork,hviolations.1,hviolations.2,hlegs⟩
            exact ⟨network,gets,pays,flags,legs,hreads,hassertions,rfl⟩
      · cases h
    · cases h
  · rintro ⟨network,gets,pays,flags,legs,hreads,hassertions,rfl⟩
    have hviolations : fieldViolations H entries ++
        assetViolations (tradeAssetOf gets) (tradeAssetOf pays) = [] := by
      rw [hreads.fields,hreads.assets,append_nil]
    simp only [validateEntries,hreads.takerGets,hreads.takerPays,hreads.parsed,hreads.ledger,
      hviolations,hreads.terms,hassertions,ne_eq,not_true_eq_false,if_false,ok_bind]
    rfl

theorem declared_not_dangerous {name : String} (h : isDeclared name = true) : name ∉ dangerousKeys := by
  intro hmem
  simp only [dangerousKeys,mem_cons,not_mem_nil,or_false] at hmem
  rcases hmem with rfl | rfl | rfl <;> revert h <;> decide

theorem propertyViolations_eq_nil : propertyViolations entries = [] ↔
    (∀ entry ∈ entries, isDeclared entry.1 = true) ∧
      ∀ field ∈ requiredFields, entries.has field = true := by
  simp [propertyViolations,filter_eq_nil_iff]

theorem validateTradeProposal_eq_ok {raw : RawValue} :
    validateTradeProposal H raw = .ok (.ok accepted) ↔ ∃ entries : RecordEntries,
      raw = entries.raw ∧ entries.length ≤ tradeProposalMaximumProperties ∧
      (∀ entry ∈ entries, isDeclared entry.1 = true) ∧
      (∀ field ∈ requiredFields, entries.has field = true) ∧
      validateEntries H entries = .ok (.ok accepted) := by
  constructor
  · intro h
    unfold validateTradeProposal at h
    split at h
    · cases h
    · rename_i entries hsnapshot
      obtain ⟨rfl,hlength,-⟩ := snapshotTradeRecord_eq_ok.1 hsnapshot
      simp only at h
      split at h
      · cases h
      · rename_i hviolations
        obtain ⟨hdeclared,hrequired⟩ := propertyViolations_eq_nil.1 (not_not.1 hviolations)
        exact ⟨entries,rfl,hlength,hdeclared,hrequired,h⟩
  · rintro ⟨entries,rfl,hlength,hdeclared,hrequired,h⟩
    have hsnapshot := snapshotTradeRecord_eq_ok.2 ⟨rfl,hlength,fun entry hentry =>
      declared_not_dangerous (hdeclared entry hentry)⟩
    have hviolations := propertyViolations_eq_nil.2 ⟨hdeclared,hrequired⟩
    rw [validateTradeProposal,hsnapshot]
    simp only [hviolations,ne_eq,not_true_eq_false,if_false,h]

end Frontera.Trade
