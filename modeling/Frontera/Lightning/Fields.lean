import Mathlib.Algebra.BigOperators.Group.List.Basic
import Frontera.Lightning.Bolt11

/-! What a tagged field must be to be read, and what reading it changes. -/

namespace Frontera.Lightning

open Frontera.Data List Option FieldState

variable {bit : Nat} {bytes : List UInt8} {state next : FieldState}

theorem mem_wordBits {word : Nat} : bit ∈ wordBits word ↔ bit < 5 ∧ word.testBit bit = true := by
  rw [wordBits,mem_filter,mem_range,Nat.testBit,decide_eq_true_eq,bne_iff_ne,Nat.and_comm]
  have hbit : 1 &&& (word >>> bit) = (word >>> bit) % 2 := by
    rw [Nat.and_comm,Nat.and_one_is_mod]
  rw [hbit]
  have hmod := Nat.mod_two_eq_zero_or_one (word >>> bit)
  constructor
  · rintro ⟨hlt,h⟩
    exact ⟨hlt,by omega⟩
  · rintro ⟨hlt,h⟩
    exact ⟨hlt,by omega⟩

theorem mem_featureBits {words : List Nat} (hwords : ∀ w ∈ words, w < 32) :
    bit ∈ featureBits words ↔ (wordsValue words).testBit bit = true := by
  have hspec : ∀ (words : List Nat) (start : Nat), (∀ w ∈ words, w < 32) →
      (bit ∈ (words.zipIdx start).flatMap
          (fun entry => (wordBits entry.1).map fun b => entry.2 * 5 + b) ↔
        start * 5 ≤ bit ∧ (wordsValue words.reverse).testBit (bit - start * 5) = true) := by
    intro words
    induction words with
    | nil =>
      intro start _
      simp [wordsValue]
    | cons word words ih =>
      intro start hlt
      have hword := hlt word mem_cons_self
      have hvalue : wordsValue (word :: words).reverse = wordsValue words.reverse * 2 ^ 5 + word := by
        rw [reverse_cons,wordsValue_append]
        simp [wordsValue]
      have hbits : ∀ i, (wordsValue words.reverse * 2 ^ 5 + word).testBit i =
          if i < 5 then word.testBit i else (wordsValue words.reverse).testBit (i - 5) := by
        intro i
        rw [Nat.mul_comm]
        exact Nat.testBit_two_pow_mul_add _ hword i
      have hrest := ih (start + 1) fun w hw => hlt w (mem_cons_of_mem _ hw)
      rw [zipIdx_cons,flatMap_cons,mem_append,hrest,List.mem_map,hvalue,hbits]
      constructor
      · rintro (⟨b,hb,rfl⟩ | ⟨hle,htest⟩)
        · obtain ⟨hfive,htest⟩ := mem_wordBits.1 hb
          refine ⟨by omega,?_⟩
          rw [Nat.add_sub_cancel_left,if_pos hfive]
          exact htest
        · refine ⟨by omega,?_⟩
          rw [if_neg (by omega)]
          have hshift : bit - start * 5 - 5 = bit - (start + 1) * 5 := by omega
          rw [hshift]
          exact htest
      · rintro ⟨hle,htest⟩
        by_cases hfive : bit - start * 5 < 5
        · rw [if_pos hfive] at htest
          exact .inl ⟨bit - start * 5,mem_wordBits.2 ⟨hfive,htest⟩,by omega⟩
        · rw [if_neg hfive] at htest
          have hshift : bit - start * 5 - 5 = bit - (start + 1) * 5 := by omega
          rw [hshift] at htest
          exact .inr ⟨by omega,htest⟩
  have h := hspec words.reverse 0 fun w hw => hwords w (mem_reverse.1 hw)
  rw [reverse_reverse,Nat.zero_mul,Nat.sub_zero] at h
  rw [featureBits,h]
  exact ⟨fun h => h.2,fun h => ⟨Nat.zero_le _,h⟩⟩

/-- A feature is present when either bit of its pair is set. -/
def Present (features pair : Nat) : Prop :=
  features.testBit pair = true ∨ features.testBit (pair + 1) = true

/-- No required feature that is not supported, and every dependency of a feature present. -/
structure FeaturesSupported (features : Nat) : Prop where
  known : ∀ bit, features.testBit bit = true → bit % 2 = 0 → bit ∈ bolt11SupportedRequiredFeatures
  paymentSecret : Present features 14 → Present features 8
  basicMpp : Present features 16 → Present features 14

theorem featurePresent_iff {words : List Nat} (hwords : ∀ w ∈ words, w < 32) {pair : Nat} :
    featurePresent (featureBits words) pair = true ↔ Present (wordsValue words) pair := by
  rw [featurePresent,Bool.or_eq_true,contains_iff_mem,contains_iff_mem,
    mem_featureBits hwords,mem_featureBits hwords]
  rfl

theorem featureDependenciesSet_iff {words : List Nat} (hwords : ∀ w ∈ words, w < 32) :
    featureDependenciesSet (featureBits words) = true ↔
      (Present (wordsValue words) 14 → Present (wordsValue words) 8) ∧
        (Present (wordsValue words) 16 → Present (wordsValue words) 14) := by
  simp only [featureDependenciesSet,bolt11FeatureDependencies,all_cons,all_nil,
    Bool.and_true,Bool.and_eq_true,Bool.or_eq_true,Bool.not_eq_true']
  rw [← featurePresent_iff hwords,← featurePresent_iff hwords,← featurePresent_iff hwords]
  cases featurePresent (featureBits words) 14 <;> cases featurePresent (featureBits words) 16 <;>
    simp

/-- The required features of some words, in ascending order. -/
def requiredOf (words : List Nat) : List Nat :=
  ((featureBits words).filter fun bit => bit % 2 == 0).mergeSort fun left right =>
    decide (left ≤ right)

theorem mem_requiredOf {words : List Nat} (hwords : ∀ w ∈ words, w < 32) :
    bit ∈ requiredOf words ↔ (wordsValue words).testBit bit = true ∧ bit % 2 = 0 := by
  rw [requiredOf,mem_mergeSort,mem_filter,mem_featureBits hwords,beq_iff_eq]

theorem featureBits_ascending (words : List Nat) : (featureBits words).Pairwise (· < ·) := by
  have hbounds : ∀ (words : List Nat) (start : Nat), ∀ bit ∈ (words.zipIdx start).flatMap
      (fun entry => (wordBits entry.1).map fun b => entry.2 * 5 + b), start * 5 ≤ bit := by
    intro words start bit hbit
    obtain ⟨entry,hentry,hin⟩ := mem_flatMap.1 hbit
    obtain ⟨b,-,rfl⟩ := mem_map.1 hin
    have hle := (mem_zipIdx_iff_le_and_getElem?_sub.1 hentry).1
    omega
  have hascending : ∀ (words : List Nat) (start : Nat), ((words.zipIdx start).flatMap
      (fun entry => (wordBits entry.1).map fun b => entry.2 * 5 + b)).Pairwise (· < ·) := by
    intro words
    induction words with
    | nil => exact fun _ => List.Pairwise.nil
    | cons word words ih =>
      intro start
      rw [zipIdx_cons,flatMap_cons,pairwise_append,pairwise_map]
      refine ⟨?_,ih (start + 1),fun bit hbit bit' hbit' => ?_⟩
      · have hrange : (wordBits word).Pairwise (· < ·) := pairwise_lt_range.filter _
        exact hrange.imp fun {a b} hlt => Nat.add_lt_add_left hlt _
      · obtain ⟨b,hb,rfl⟩ := mem_map.1 hbit
        have hfive := (mem_wordBits.1 hb).1
        have hle := hbounds words (start + 1) bit' hbit'
        omega
  exact hascending words.reverse 0

theorem requiredOf_ascending (words : List Nat) : (requiredOf words).Pairwise (· < ·) := by
  have hfiltered := (featureBits_ascending words).filter fun bit => bit % 2 == 0
  have hsorted : requiredOf words = (featureBits words).filter fun bit => bit % 2 == 0 :=
    mergeSort_of_pairwise (hfiltered.imp fun {a b} hlt => decide_eq_true (Nat.le_of_lt hlt))
  rw [hsorted]
  exact hfiltered

theorem readFeatures_eq_ok {field required : List Nat} (hwords : ∀ w ∈ field, w < 32) :
    readFeatures field = .ok required ↔
      (field ≠ [] ∧ field.head? ≠ some 0 ∧ FeaturesSupported (wordsValue field)) ∧
        required = requiredOf field := by
  have hany : ((featureBits field).filter fun bit => bit % 2 == 0).any
      (fun bit => !bolt11SupportedRequiredFeatures.contains bit) = true ↔
      ¬ ∀ bit, (wordsValue field).testBit bit = true → bit % 2 = 0 →
        bit ∈ bolt11SupportedRequiredFeatures := by
    rw [List.any_eq_true]
    constructor
    · rintro ⟨bit,hbit,hnot⟩ hall
      obtain ⟨hset,heven⟩ := mem_filter.1 hbit
      have hmem := hall bit ((mem_featureBits hwords).1 hset) (beq_iff_eq.1 heven)
      rw [contains_iff_mem.2 hmem] at hnot
      cases hnot
    · intro hnot
      simp only [not_forall] at hnot
      obtain ⟨bit,hset,heven,hmem⟩ := hnot
      refine ⟨bit,mem_filter.2 ⟨(mem_featureBits hwords).2 hset,beq_iff_eq.2 heven⟩,?_⟩
      simpa using hmem
  have hdependencies := featureDependenciesSet_iff hwords
  rw [readFeatures,guard_eq_ok]
  simp only
  rw [guard_eq_ok,guard_eq_ok,hany,not_not,Bool.not_eq_false,hdependencies]
  constructor
  · rintro ⟨hminimal,hknown,⟨hsecret,hmpp⟩,hrequired⟩
    refine ⟨⟨fun h => hminimal (.inl h),fun h => hminimal (.inr h),hknown,hsecret,hmpp⟩,?_⟩
    exact (Except.ok.inj hrequired).symm
  · rintro ⟨⟨hne,hhead,hknown,hsecret,hmpp⟩,rfl⟩
    exact ⟨by rintro (h | h) <;> contradiction,hknown,⟨hsecret,hmpp⟩,rfl⟩

/-- The bytes that the words of a field carry. -/
def bytesOf (data : List Nat) : List UInt8 := (wordsToBytes data .allowed).getD []

/-- How many hops the words of a route hint carry. -/
def hopsOf (data : List Nat) : Nat := (bytesOf data).length / routeHintHopBytes

/-- Whole hops, each of which begins with a compressed node key. -/
structure Hops (bytes : List UInt8) : Prop where
  nonempty : bytes ≠ []
  whole : bytes.length % routeHintHopBytes = 0
  keys : ∀ hop < bytes.length / routeHintHopBytes, keyAt bytes (hop * routeHintHopBytes) = true

/-- What a field of each tag must hold. -/
def Tag.Holds (data : List Nat) : Tag → Prop
  | .p | .s | .h => data.length = 52 ∧ ∃ bytes, Carries data bytes
  | .n => data.length = 53 ∧ ∃ bytes, Carries data bytes ∧ keyAt bytes 0 = true
  | .d => ∃ bytes, Carries data bytes ∧ isUtf8 bytes = true
  | .x | .c => data ≠ [] ∧ data.head? ≠ some 0 ∧ data.length ≤ 10
  | .nine => data ≠ [] ∧ data.head? ≠ some 0 ∧ FeaturesSupported (wordsValue data)
  | .r => ∃ bytes, Carries data bytes ∧ Hops bytes
  | .f | .m => data ≠ []

variable {data : List Nat}

theorem bytesOf_eq (hwords : ∀ w ∈ data, w < 32) (h : Carries data bytes) : bytesOf data = bytes := by
  rw [bytesOf,(wordsToBytes_eq_some_iff hwords).2 h,getD_some]

theorem Carries.length_le (h : Carries data bytes) :
    8 * bytes.length ≤ 5 * data.length ∧ 5 * data.length < 8 * bytes.length + 5 := by
  obtain ⟨pad,hpad,-,hbits⟩ := h
  have hlength := congrArg List.length hbits
  rw [length_groupBits,length_append,length_byteBits] at hlength
  omega

section

variable (hwords : ∀ w ∈ data, w < 32)
include hwords

theorem readHash_eq_ok : readHash data = .ok bytes ↔ data.length = 52 ∧ Carries data bytes := by
  rw [readHash,bind_eq_ok]
  simp only [orRefuse_eq_ok,wordsToBytes_eq_some_iff hwords,guard_eq_ok,pure_eq_ok]
  constructor
  · rintro ⟨bytes',hcarries,hlength,rfl⟩
    have hle := hcarries.length_le
    exact ⟨by omega,hcarries⟩
  · rintro ⟨hlength,hcarries⟩
    have hle := hcarries.length_le
    exact ⟨bytes,hcarries,by omega,rfl⟩

theorem readPayee_eq_ok : readPayee data = .ok bytes ↔
      data.length = 53 ∧ Carries data bytes ∧ keyAt bytes 0 = true := by
  rw [readPayee,bind_eq_ok]
  simp only [orRefuse_eq_ok,wordsToBytes_eq_some_iff hwords,guard_eq_ok,pure_eq_ok,not_or,
    Bool.not_eq_false]
  constructor
  · rintro ⟨bytes',hcarries,⟨hlength,hkey⟩,rfl⟩
    have hle := hcarries.length_le
    exact ⟨by omega,hcarries,hkey⟩
  · rintro ⟨hlength,hcarries,hkey⟩
    have hle := hcarries.length_le
    exact ⟨bytes,hcarries,⟨by omega,hkey⟩,rfl⟩

theorem readDescription_eq_ok {u : Unit} :
    readDescription data = .ok u ↔ ∃ bytes, Carries data bytes ∧ isUtf8 bytes = true := by
  rw [readDescription,bind_eq_ok]
  simp only [orRefuse_eq_ok,wordsToBytes_eq_some_iff hwords,guard_eq_ok,pure_eq_ok,
    Bool.not_eq_false,and_true]

theorem readNumber_eq_ok {value : Nat} : readNumber data = .ok value ↔
      (data ≠ [] ∧ data.head? ≠ some 0 ∧ data.length ≤ 10) ∧ wordsValue data = value := by
  rw [readNumber,guard_eq_ok,orRefuse_eq_ok,wordsToSafeInteger_eq_some_iff hwords,not_or]
  simp only [and_assoc,ne_eq]

theorem readHops_eq_ok {hops : Nat} :
    readHops data = .ok hops ↔ (∃ bytes, Carries data bytes ∧ Hops bytes) ∧ hops = hopsOf data := by
  have hkeys : ∀ bytes : List UInt8, (List.range (bytes.length / routeHintHopBytes)).all
        (fun hop => keyAt bytes (hop * routeHintHopBytes)) = true ↔
      ∀ hop < bytes.length / routeHintHopBytes, keyAt bytes (hop * routeHintHopBytes) = true := by
    intro bytes
    simp only [List.all_eq_true,mem_range]
  rw [readHops,bind_eq_ok]
  simp only [orRefuse_eq_ok,wordsToBytes_eq_some_iff hwords,guard_eq_ok,pure_eq_ok,not_or,
    Bool.not_eq_false,hkeys,ne_eq,not_not,length_eq_zero_iff]
  constructor
  · rintro ⟨bytes,hcarries,⟨hne,hwhole⟩,hall,rfl⟩
    exact ⟨⟨bytes,hcarries,hne,hwhole,hall⟩,by rw [hopsOf,bytesOf_eq hwords hcarries]⟩
  · rintro ⟨⟨bytes,hcarries,hhops⟩,rfl⟩
    exact ⟨bytes,hcarries,⟨hhops.nonempty,hhops.whole⟩,hhops.keys,
      by rw [hopsOf,bytesOf_eq hwords hcarries]⟩

end

structure TaggedField where
  number : Nat
  data : List Nat

def TaggedField.tag (field : TaggedField) : Option Tag := tagOf field.number

/-- The words of a field: its tag, its length and its data. -/
def TaggedField.words (field : TaggedField) : List Nat :=
  field.number :: field.data.length / 32 :: field.data.length % 32 :: field.data

/-- Five-bit words, and no more data than the length can say. -/
structure TaggedField.WellFormed (field : TaggedField) : Prop where
  number_lt : field.number < 32
  data_lt : ∀ w ∈ field.data, w < 32
  length_lt : field.data.length < 1024

/-- A field of a known tag holds what its tag asks for. -/
def TaggedField.Valid (field : TaggedField) : Prop := ∀ tag ∈ field.tag, tag.Holds field.data

/-- The loop's variables behind a field that it read. -/
def FieldState.note (state : FieldState) (data : List Nat) : Tag → FieldState
  | .p => { state with paymentHash := some (hex (bytesOf data)) }
  | .s => { state with paymentSecret := true }
  | .d => { state with description := state.description + 1 }
  | .h => { state with
      descriptionHash := some (hex (bytesOf data))
      description := state.description + 1 }
  | .n => { state with explicitPayee := some (bytesOf data) }
  | .x => { state with expirySeconds := wordsValue data }
  | .c => { state with minFinalCltvExpiryDelta := wordsValue data }
  | .nine => { state with requiredFeatures := requiredOf data }
  | .r => { state with
      routeHintFields := state.routeHintFields + 1
      routeHintCount := state.routeHintCount + hopsOf data }
  | .f => { state with fallbackCount := state.fallbackCount + 1 }
  | .m => state

def FieldState.see (state : FieldState) (tag : Tag) : FieldState :=
  if tag ∈ singleTags then { state with seen := state.seen ++ [tag] } else state

def FieldState.after (state : FieldState) (field : TaggedField) : FieldState :=
  match field.tag with
  | none => { state with unknownFields := state.unknownFields + 1 }
  | some tag => (state.see tag).note field.data tag

/-- There is room for one more field of this tag. -/
def FieldState.Admits (state : FieldState) (field : TaggedField) : Prop :=
  match field.tag with
  | none => state.unknownFields + 1 ≤ maximumUnknownFields
  | some tag => (tag ∈ singleTags → tag ∉ state.seen) ∧
      (tag = .r → state.routeHintFields + 1 ≤ maximumRouteHintFields) ∧
      (tag = .f → state.fallbackCount + 1 ≤ maximumFallbackFields)

theorem noteTag_eq_ok {noted : FieldState} {tag : Tag} : noteTag state tag = .ok noted ↔
      (tag ∈ singleTags → tag ∉ state.seen) ∧ noted = state.see tag := by
  rw [noteTag,see]
  by_cases hsingle : tag ∈ singleTags
  · rw [if_pos hsingle,if_pos hsingle,guard_eq_ok]
    simp only [hsingle,forall_const,Except.ok.injEq,eq_comm]
  · rw [if_neg hsingle,if_neg hsingle]
    simp only [hsingle,false_implies,true_and,Except.ok.injEq,eq_comm]

theorem readTagged_eq_ok (hwords : ∀ w ∈ data, w < 32) {tag : Tag} :
    readTagged state data tag = .ok next ↔ tag.Holds data ∧
      ((tag = .r → state.routeHintFields + 1 ≤ maximumRouteHintFields) ∧
        (tag = .f → state.fallbackCount + 1 ≤ maximumFallbackFields)) ∧
      next = state.note data tag := by
  cases tag with
  | p | h =>
    simp only [readTagged,bind_eq_ok,readHash_eq_ok hwords,pure_eq_ok,Tag.Holds,
      note,reduceCtorEq,false_implies,true_and]
    constructor
    · rintro ⟨bytes,⟨hlength,hcarries⟩,rfl⟩
      exact ⟨⟨hlength,bytes,hcarries⟩,by rw [bytesOf_eq hwords hcarries]⟩
    · rintro ⟨⟨hlength,bytes,hcarries⟩,rfl⟩
      exact ⟨bytes,⟨hlength,hcarries⟩,by rw [bytesOf_eq hwords hcarries]⟩
  | s =>
    simp only [readTagged,bind_eq_ok,readHash_eq_ok hwords,pure_eq_ok,Tag.Holds,
      note,reduceCtorEq,false_implies,true_and]
    constructor
    · rintro ⟨bytes,⟨hlength,hcarries⟩,rfl⟩
      exact ⟨⟨hlength,bytes,hcarries⟩,rfl⟩
    · rintro ⟨⟨hlength,bytes,hcarries⟩,rfl⟩
      exact ⟨bytes,⟨hlength,hcarries⟩,rfl⟩
  | d =>
    simp only [readTagged,bind_eq_ok,readDescription_eq_ok hwords,pure_eq_ok,Tag.Holds,
      note,reduceCtorEq,false_implies,true_and]
    constructor
    · rintro ⟨-,hvalid,rfl⟩
      exact ⟨hvalid,rfl⟩
    · rintro ⟨hvalid,rfl⟩
      exact ⟨(),hvalid,rfl⟩
  | n =>
    simp only [readTagged,bind_eq_ok,readPayee_eq_ok hwords,pure_eq_ok,Tag.Holds,
      note,reduceCtorEq,false_implies,true_and]
    constructor
    · rintro ⟨bytes,⟨hlength,hcarries,hkey⟩,rfl⟩
      exact ⟨⟨hlength,bytes,hcarries,hkey⟩,by rw [bytesOf_eq hwords hcarries]⟩
    · rintro ⟨⟨hlength,bytes,hcarries,hkey⟩,rfl⟩
      exact ⟨bytes,⟨hlength,hcarries,hkey⟩,by rw [bytesOf_eq hwords hcarries]⟩
  | x | c =>
    simp only [readTagged,bind_eq_ok,readNumber_eq_ok hwords,pure_eq_ok,Tag.Holds,
      note,reduceCtorEq,false_implies,true_and]
    constructor
    · rintro ⟨value,⟨hvalid,rfl⟩,rfl⟩
      exact ⟨hvalid,rfl⟩
    · rintro ⟨hvalid,rfl⟩
      exact ⟨_,⟨hvalid,rfl⟩,rfl⟩
  | nine =>
    simp only [readTagged,bind_eq_ok,readFeatures_eq_ok hwords,pure_eq_ok,Tag.Holds,
      note,reduceCtorEq,false_implies,true_and]
    constructor
    · rintro ⟨required,⟨hvalid,rfl⟩,rfl⟩
      exact ⟨hvalid,rfl⟩
    · rintro ⟨hvalid,rfl⟩
      exact ⟨_,⟨hvalid,rfl⟩,rfl⟩
  | r =>
    simp only [readTagged,guard_eq_ok,bind_eq_ok,readHops_eq_ok hwords,pure_eq_ok,Tag.Holds,
      note,reduceCtorEq,false_implies,forall_const,and_true,Nat.not_lt]
    constructor
    · rintro ⟨hroom,hops,⟨hvalid,rfl⟩,rfl⟩
      exact ⟨hvalid,hroom,rfl⟩
    · rintro ⟨hvalid,hroom,rfl⟩
      exact ⟨hroom,_,⟨hvalid,rfl⟩,rfl⟩
  | f =>
    simp only [readTagged,guard_eq_ok,Tag.Holds,note,reduceCtorEq,false_implies,
      forall_const,true_and,not_or,Nat.not_lt,Except.ok.injEq]
    constructor
    · rintro ⟨⟨hroom,hne⟩,rfl⟩
      exact ⟨hne,hroom,rfl⟩
    · rintro ⟨hne,hroom,rfl⟩
      exact ⟨⟨hroom,hne⟩,rfl⟩
  | m =>
    simp only [readTagged,guard_eq_ok,Tag.Holds,note,reduceCtorEq,false_implies,
      true_and,Except.ok.injEq,ne_eq]
    exact and_congr_right fun _ => eq_comm

theorem Tag.Holds.fixedLength {tag : Tag} (h : tag.Holds data) :
    ¬ (Lightning.fixedLength tag).any (· ≠ data.length) = true := by
  cases tag with
  | p | s | h | n => simp [Lightning.fixedLength,h.1]
  | r | nine | x | f | d | c | m => exact Bool.false_ne_true

theorem readField_eq_ok {field : TaggedField} (hwords : ∀ w ∈ field.data, w < 32) :
    readField state field.number field.data = .ok next ↔
      field.Valid ∧ state.Admits field ∧ next = state.after field := by
  rw [readField,TaggedField.Valid,FieldState.Admits,FieldState.after,TaggedField.tag]
  cases tagOf field.number with
  | none =>
    simp only [guard_eq_ok,Nat.not_lt,Except.ok.injEq,mem_def,reduceCtorEq,
      false_implies,implies_true,true_and]
    exact and_congr_right fun _ => eq_comm
  | some tag =>
    have hseen : (state.see tag).routeHintFields = state.routeHintFields ∧
        (state.see tag).fallbackCount = state.fallbackCount := by
      rw [see]
      split <;> exact ⟨rfl,rfl⟩
    simp only [bind_eq_ok,noteTag_eq_ok,guard_eq_ok,readTagged_eq_ok hwords,mem_def, some_inj,forall_eq']
    constructor
    · rintro ⟨noted,⟨hsingle,rfl⟩,-,hholds,⟨hroutes,hfallbacks⟩,rfl⟩
      rw [hseen.1] at hroutes
      rw [hseen.2] at hfallbacks
      exact ⟨hholds,⟨hsingle,hroutes,hfallbacks⟩,rfl⟩
    · rintro ⟨hholds,⟨hsingle,hroutes,hfallbacks⟩,rfl⟩
      refine ⟨_,⟨hsingle,rfl⟩,hholds.fixedLength,hholds,⟨?_,?_⟩,rfl⟩
      · rw [hseen.1]
        exact hroutes
      · rw [hseen.2]
        exact hfallbacks

end Frontera.Lightning
