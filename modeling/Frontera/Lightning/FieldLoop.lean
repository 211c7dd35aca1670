import Frontera.Lightning.Fields

/-! The loop reads a word list exactly when the words are those of a list of fields, each valid in
itself, with no more of a kind than the loop admits. What it ends with is what the list states, in
whatever order its fields stand. -/

namespace Frontera.Lightning

open Frontera.Data List FieldState

/-- The fields read one after another. -/
def Run (final : FieldState) : FieldState → List TaggedField → Prop
  | state, [] => final = state
  | state, field :: fields =>
      field.Valid ∧ state.Admits field ∧ Run final (state.after field) fields

theorem TaggedField.words_length (field : TaggedField) : field.words.length = field.data.length + 3 := rfl

variable {state : FieldState} {fields : List TaggedField} {β : Type} {read : FieldState → β}
  {tag : Tag} {value : List Nat → β} {field : TaggedField} {final : FieldState}

theorem readFields_cons {fuel number high low : Nat} {rest : List Nat} :
    readFields (fuel + 1) (number :: high :: low :: rest) state =
      if rest.length < high * 32 + low then .error .structureInvalid
      else readField state number (rest.take (high * 32 + low)) >>= fun next =>
        readFields fuel (rest.drop (high * 32 + low)) next := rfl

theorem readFields_eq_ok (fuel : Nat) : ∀ {words : List Nat} {state final : FieldState},
    (∀ w ∈ words, w < 32) → words.length ≤ fuel → (readFields fuel words state = .ok final ↔
      ∃ fields : List TaggedField, (∀ field ∈ fields, field.WellFormed) ∧
        words = fields.flatMap TaggedField.words ∧ Run final state fields) := by
  induction fuel with
  | zero =>
    intro words state final _ hfuel
    have hnil : words = [] := length_eq_zero_iff.1 (by omega)
    subst hnil
    constructor
    · intro h
      exact ⟨[],fun _ hf => absurd hf not_mem_nil,rfl,(Except.ok.inj h).symm⟩
    · rintro ⟨fields,-,hwords,hrun⟩
      cases fields with
      | nil => exact congrArg Except.ok hrun.symm
      | cons field fields => cases hwords
  | succ fuel ih =>
    intro words state final hlt hfuel
    match words, hlt, hfuel with
    | [], _, _ =>
      constructor
      · intro h
        exact ⟨[],fun _ hf => absurd hf not_mem_nil,rfl,(Except.ok.inj h).symm⟩
      · rintro ⟨fields,-,hwords,hrun⟩
        cases fields with
        | nil => exact congrArg Except.ok hrun.symm
        | cons field fields => cases hwords
    | [w], _, _ =>
      constructor
      · intro h
        cases h
      · rintro ⟨fields,-,hwords,-⟩
        cases fields with
        | nil => cases hwords
        | cons field fields => cases hwords
    | [w, w'], _, _ =>
      constructor
      · intro h
        cases h
      · rintro ⟨fields,-,hwords,-⟩
        cases fields with
        | nil => cases hwords
        | cons field fields => cases hwords
    | number :: high :: low :: rest, hlt, hfuel =>
      have hnumber : number < 32 := hlt number (by simp)
      have hhigh : high < 32 := hlt high (by simp)
      have hlow : low < 32 := hlt low (by simp)
      have hrest : ∀ w ∈ rest, w < 32 := fun w hw => hlt w (by simp [hw])
      rw [readFields_cons,guard_eq_ok,bind_eq_ok]
      simp only [length_cons] at hfuel
      constructor
      · rintro ⟨hlength,next,hfield,hloop⟩
        have hdata : ∀ w ∈ rest.take (high * 32 + low), w < 32 :=
          fun w hw => hrest w (mem_of_mem_take hw)
        have htaken : (rest.take (high * 32 + low)).length = high * 32 + low :=
          length_take_of_le (by omega)
        have hread : TaggedField.Valid ⟨number,rest.take (high * 32 + low)⟩ ∧
            state.Admits ⟨number,rest.take (high * 32 + low)⟩ ∧
            next = state.after ⟨number,rest.take (high * 32 + low)⟩ :=
          (readField_eq_ok hdata).1 hfield
        obtain ⟨fields,hwell,hwords,hrun⟩ := (ih
          (fun w hw => hrest w (mem_of_mem_drop hw))
          (by rw [length_drop]; omega)).1 hloop
        refine ⟨⟨number,rest.take (high * 32 + low)⟩ :: fields,?_,?_,hread.1,hread.2.1,?_⟩
        · refine forall_mem_cons.2 ⟨⟨hnumber,hdata,?_⟩,hwell⟩
          rw [htaken]
          omega
        · have hdiv : (high * 32 + low) / 32 = high := by omega
          have hmod : (high * 32 + low) % 32 = low := by omega
          rw [flatMap_cons,TaggedField.words,htaken,hdiv,hmod,← hwords]
          simp
        · rw [← hread.2.2]
          exact hrun
      · rintro ⟨fields,hwell,hwords,hrun⟩
        cases fields with
        | nil => cases hwords
        | cons field fields =>
          obtain ⟨hvalid,hadmits,hrun⟩ := hrun
          rw [flatMap_cons,TaggedField.words] at hwords
          simp only [cons_append,List.cons.injEq] at hwords
          obtain ⟨rfl,rfl,rfl,rfl⟩ := hwords
          have hlength : field.data.length / 32 * 32 + field.data.length % 32 =
              field.data.length := Nat.div_add_mod' _ _
          rw [hlength,take_left,drop_left]
          refine ⟨by rw [length_append]; omega,state.after field,?_,?_⟩
          · exact (readField_eq_ok (hwell field mem_cons_self).data_lt).2
              ⟨hvalid,hadmits,rfl⟩
          · refine (ih (fun w hw => hrest w (mem_append_right _ hw)) ?_).2
              ⟨fields,fun f hf => hwell f (mem_cons_of_mem _ hf),rfl,hrun⟩
            rw [length_append] at hfuel
            omega

/-- A variable that the fields of one tag set. -/
def Sets {β : Type} (read : FieldState → β) (tag : Tag) (value : List Nat → β) : Prop :=
  ∀ (state : FieldState) (field : TaggedField),
    read (state.after field) = if field.tag = some tag then value field.data else read state

/-- A variable that every field adds to. -/
def Counts (read : FieldState → Nat) (weight : TaggedField → Nat) : Prop :=
  ∀ (state : FieldState) (field : TaggedField), read (state.after field) = read state + weight field

variable {state : FieldState} {field : TaggedField}

theorem after_seen {tag : Tag} : tag ∈ (state.after field).seen ↔
      tag ∈ state.seen ∨ field.tag = some tag ∧ tag ∈ singleTags := by
  rw [FieldState.after]
  cases field.tag with
  | none => simp
  | some tag' =>
    have hnote : ((state.see tag').note field.data tag').seen = (state.see tag').seen := by
      cases tag' <;> rfl
    simp only
    rw [hnote,see]
    by_cases hsingle : tag' ∈ singleTags
    · rw [if_pos hsingle,mem_append,mem_singleton,Option.some_inj]
      constructor
      · rintro (h | rfl)
        · exact .inl h
        · exact .inr ⟨rfl,hsingle⟩
      · rintro (h | ⟨rfl,-⟩)
        · exact .inl h
        · exact .inr rfl
    · rw [if_neg hsingle,Option.some_inj]
      constructor
      · exact .inl
      · rintro (h | ⟨rfl,h⟩)
        · exact h
        · exact absurd h hsingle

theorem sets_paymentHash : Sets paymentHash .p (fun data => some (hex (bytesOf data))) := by
  intro state field
  rw [FieldState.after]
  rcases field.tag with _ | tag
  · rfl
  · cases tag <;> rfl

theorem sets_descriptionHash : Sets descriptionHash .h (fun data => some (hex (bytesOf data))) := by
  intro state field
  rw [FieldState.after]
  rcases field.tag with _ | tag
  · rfl
  · cases tag <;> rfl

theorem sets_paymentSecret : Sets paymentSecret .s (fun _ => true) := by
  intro state field
  rw [FieldState.after]
  rcases field.tag with _ | tag
  · rfl
  · cases tag <;> rfl

theorem sets_explicitPayee : Sets explicitPayee .n (fun data => some (bytesOf data)) := by
  intro state field
  rw [FieldState.after]
  rcases field.tag with _ | tag
  · rfl
  · cases tag <;> rfl

theorem sets_expirySeconds : Sets expirySeconds .x wordsValue := by
  intro state field
  rw [FieldState.after]
  rcases field.tag with _ | tag
  · rfl
  · cases tag <;> rfl

theorem sets_minFinalCltvExpiryDelta : Sets minFinalCltvExpiryDelta .c wordsValue := by
  intro state field
  rw [FieldState.after]
  rcases field.tag with _ | tag
  · rfl
  · cases tag <;> rfl

theorem sets_requiredFeatures : Sets requiredFeatures .nine requiredOf := by
  intro state field
  rw [FieldState.after]
  rcases field.tag with _ | tag
  · rfl
  · cases tag <;> rfl

theorem counts_description : Counts description
    (fun field => if field.tag = some .d ∨ field.tag = some .h then 1 else 0) := by
  intro state field
  beta_reduce
  rw [FieldState.after]
  rcases field.tag with _ | tag
  · rfl
  · cases tag <;> rfl

theorem counts_routeHintCount : Counts routeHintCount
    (fun field => if field.tag = some .r then hopsOf field.data else 0) := by
  intro state field
  beta_reduce
  rw [FieldState.after]
  rcases field.tag with _ | tag
  · rfl
  · cases tag <;> rfl

theorem after_routeHintFields : (state.after field).routeHintFields =
    state.routeHintFields + if field.tag = some .r then 1 else 0 := by
  rw [FieldState.after]
  rcases field.tag with _ | tag
  · rfl
  · cases tag <;> rfl

theorem after_fallbackCount : (state.after field).fallbackCount =
    state.fallbackCount + if field.tag = some .f then 1 else 0 := by
  rw [FieldState.after]
  rcases field.tag with _ | tag
  · rfl
  · cases tag <;> rfl

theorem after_unknownFields : (state.after field).unknownFields =
    state.unknownFields + if field.tag = none then 1 else 0 := by
  rw [FieldState.after]
  rcases field.tag with _ | tag
  · rfl
  · cases tag <;> rfl

/-- How many fields have a tag. -/
def countTag (tag : Option Tag) (fields : List TaggedField) : Nat :=
  fields.countP fun field => decide (field.tag = tag)

theorem countTag_cons (tag : Option Tag) (field : TaggedField) (fields : List TaggedField) :
    countTag tag (field :: fields) = countTag tag fields + if field.tag = tag then 1 else 0 := by
  rw [countTag,countP_cons]
  simp only [decide_eq_true_eq]
  rfl

theorem countTag_pos_iff {tag : Option Tag} :
    0 < countTag tag fields ↔ ∃ field ∈ fields, field.tag = tag := by
  rw [countTag,countP_pos_iff]
  simp only [decide_eq_true_eq]

theorem Sets.unset (h : Sets read tag value) (hnone : ∀ field ∈ fields, field.tag ≠ some tag) :
    ∀ state, read (fields.foldl FieldState.after state) = read state := by
  induction fields with
  | nil => exact fun _ => rfl
  | cons field fields ih =>
    intro state
    rw [foldl_cons,ih (fun f hf => hnone f (mem_cons_of_mem _ hf)),h, if_neg (hnone field mem_cons_self)]

theorem Sets.set (h : Sets read tag value) (hone : countTag (some tag) fields ≤ 1)
    (hfield : field ∈ fields) (htag : field.tag = some tag) :
    ∀ state, read (fields.foldl FieldState.after state) = value field.data := by
  induction fields with
  | nil => exact absurd hfield not_mem_nil
  | cons first fields ih =>
    intro state
    rw [countTag_cons] at hone
    rw [foldl_cons]
    rcases mem_cons.1 hfield with rfl | hrest
    · rw [if_pos htag] at hone
      have hnone : ∀ f ∈ fields, f.tag ≠ some tag := fun f hf htag' => by
        have hpos := countTag_pos_iff.2 ⟨f,hf,htag'⟩
        omega
      rw [h.unset hnone,h,if_pos htag]
    · exact ih (by omega) hrest _

theorem Counts.total {read : FieldState → Nat} {weight : TaggedField → Nat}
    (h : Counts read weight) (fields : List TaggedField) :
    ∀ state, read (fields.foldl FieldState.after state) = read state + (fields.map weight).sum := by
  induction fields with
  | nil => exact fun _ => rfl
  | cons field fields ih =>
    intro state
    rw [foldl_cons,ih,h,map_cons,sum_cons,Nat.add_assoc]

theorem sum_tag (tag : Option Tag) (fields : List TaggedField) :
    (fields.map fun field => if field.tag = tag then 1 else 0).sum = countTag tag fields := by
  induction fields with
  | nil => rfl
  | cons field fields ih => rw [map_cons,sum_cons,ih,countTag_cons,Nat.add_comm]

/-- The fields an invoice may have, in any order. -/
structure FieldTable (fields : List TaggedField) : Prop where
  valid : ∀ field ∈ fields, field.Valid
  single : ∀ tag ∈ singleTags, countTag (some tag) fields ≤ 1
  routeHints : countTag (some .r) fields ≤ maximumRouteHintFields
  fallbacks : countTag (some .f) fields ≤ maximumFallbackFields
  unknown : countTag none fields ≤ maximumUnknownFields

/-- Fields that there is room for behind those that were read. -/
structure Room (state : FieldState) (fields : List TaggedField) : Prop where
  single : ∀ tag ∈ singleTags, countTag (some tag) fields + (if tag ∈ state.seen then 1 else 0) ≤ 1
  routeHints : state.routeHintFields + countTag (some .r) fields ≤ maximumRouteHintFields
  fallbacks : state.fallbackCount + countTag (some .f) fields ≤ maximumFallbackFields
  unknown : state.unknownFields + countTag none fields ≤ maximumUnknownFields

/-- There is room for a field and those behind it when the loop admits it and there is room for
them afterwards. -/
theorem room_cons :
    Room state (field :: fields) ↔ state.Admits field ∧ Room (state.after field) fields := by
  have hseen : ∀ tag ∈ singleTags,
      (countTag (some tag) (field :: fields) + (if tag ∈ state.seen then 1 else 0) ≤ 1 ↔
        (field.tag = some tag → tag ∉ state.seen) ∧
          countTag (some tag) fields + (if tag ∈ (state.after field).seen then 1 else 0) ≤ 1) := by
    intro tag htag
    have hafter : tag ∈ (state.after field).seen ↔
        tag ∈ state.seen ∨ field.tag = some tag ∧ tag ∈ singleTags := after_seen
    rw [countTag_cons]
    by_cases hown : field.tag = some tag
    · have hin : tag ∈ (state.after field).seen := hafter.2 (.inr ⟨hown,htag⟩)
      rw [if_pos hown,if_pos hin]
      by_cases hbefore : tag ∈ state.seen
      · rw [if_pos hbefore]
        constructor
        · intro h
          omega
        · intro h
          exact absurd hbefore (h.1 hown)
      · rw [if_neg hbefore]
        exact ⟨fun h => ⟨fun _ => hbefore,by omega⟩,fun h => by omega⟩
    · have hsame : tag ∈ (state.after field).seen ↔ tag ∈ state.seen := by
        rw [hafter]
        exact ⟨fun h => h.elim id fun h => absurd h.1 hown,.inl⟩
      rw [if_neg hown,Nat.add_zero]
      simp only [hsame,hown,false_implies,true_and]
  constructor
  · intro h
    have hroutes := h.routeHints
    have hfallbacks := h.fallbacks
    have hunknown := h.unknown
    rw [countTag_cons] at hroutes hfallbacks hunknown
    refine ⟨?_,fun tag htag => ((hseen tag htag).1 (h.single tag htag)).2,?_,?_,?_⟩
    · rw [FieldState.Admits]
      cases hfield : field.tag with
      | none =>
        rw [if_pos hfield] at hunknown
        simp only
        omega
      | some tag =>
        refine ⟨fun htag => ((hseen tag htag).1 (h.single tag htag)).1 hfield,?_,?_⟩
        · rintro rfl
          rw [if_pos hfield] at hroutes
          omega
        · rintro rfl
          rw [if_pos hfield] at hfallbacks
          omega
    · rw [after_routeHintFields]
      omega
    · rw [after_fallbackCount]
      omega
    · rw [after_unknownFields]
      omega
  · rintro ⟨hadmits,hroom⟩
    have hroutes := hroom.routeHints
    have hfallbacks := hroom.fallbacks
    have hunknown := hroom.unknown
    rw [after_routeHintFields] at hroutes
    rw [after_fallbackCount] at hfallbacks
    rw [after_unknownFields] at hunknown
    refine ⟨fun tag htag => (hseen tag htag).2 ⟨fun hown => ?_,hroom.single tag htag⟩,?_,?_,?_⟩
    · rw [FieldState.Admits,hown] at hadmits
      exact hadmits.1 htag
    · rw [countTag_cons]
      omega
    · rw [countTag_cons]
      omega
    · rw [countTag_cons]
      omega

theorem Room.after (h : Room state []) (hadmits : state.Admits field) : Room (state.after field) [] where
  single tag _ := by
    have hnone : countTag (some tag) [] = 0 := rfl
    rw [hnone,Nat.zero_add]
    split <;> omega
  routeHints := by
    have hbefore : state.routeHintFields ≤ maximumRouteHintFields := h.routeHints
    rw [after_routeHintFields]
    rw [FieldState.Admits] at hadmits
    by_cases hr : field.tag = some .r
    · rw [hr] at hadmits
      rw [if_pos hr]
      exact hadmits.2.1 rfl
    · rw [if_neg hr]
      exact hbefore
  fallbacks := by
    have hbefore : state.fallbackCount ≤ maximumFallbackFields := h.fallbacks
    rw [after_fallbackCount]
    rw [FieldState.Admits] at hadmits
    by_cases hf : field.tag = some .f
    · rw [hf] at hadmits
      rw [if_pos hf]
      exact hadmits.2.2 rfl
    · rw [if_neg hf]
      exact hbefore
  unknown := by
    have hbefore : state.unknownFields ≤ maximumUnknownFields := h.unknown
    rw [after_unknownFields]
    rw [FieldState.Admits] at hadmits
    by_cases hnone : field.tag = none
    · rw [hnone] at hadmits
      rw [if_pos hnone]
      exact hadmits
    · rw [if_neg hnone]
      exact hbefore

theorem run_iff : ∀ {state : FieldState}, Room state [] →
      (Run final state fields ↔ (∀ field ∈ fields, field.Valid) ∧ Room state fields ∧
        final = fields.foldl FieldState.after state) := by
  induction fields with
  | nil =>
    intro state hroom
    exact ⟨fun h => ⟨fun _ hf => absurd hf not_mem_nil,hroom,h⟩,fun h => h.2.2⟩
  | cons field fields ih =>
    intro state hstate
    rw [Run,room_cons,forall_mem_cons,foldl_cons]
    constructor
    · rintro ⟨hvalid,hadmits,hrun⟩
      obtain ⟨hvalids,hrest,hfinal⟩ := (ih (hstate.after hadmits)).1 hrun
      exact ⟨⟨hvalid,hvalids⟩,⟨hadmits,hrest⟩,hfinal⟩
    · rintro ⟨⟨hvalid,hvalids⟩,⟨hadmits,hrest⟩,hfinal⟩
      exact ⟨hvalid,hadmits,(ih (hstate.after hadmits)).2 ⟨hvalids,hrest,hfinal⟩⟩

theorem run_start_iff : Run final start fields ↔
      FieldTable fields ∧ final = fields.foldl FieldState.after start := by
  have hstart : Room start [] :=
    ⟨fun _ _ => by simp [countTag,start],by decide,by decide,by decide⟩
  have hunseen : ∀ tag, tag ∉ start.seen := fun _ => not_mem_nil
  have hzero : start.routeHintFields = 0 ∧ start.fallbackCount = 0 ∧
      start.unknownFields = 0 := ⟨rfl,rfl,rfl⟩
  obtain ⟨hroutes,hfallbacks,hunknown⟩ := hzero
  rw [run_iff hstart,← and_assoc]
  refine and_congr_left fun _ => ⟨fun h => ?_,fun h => ?_⟩
  · obtain ⟨hvalid,hroom⟩ := h
    have hr := hroom.routeHints
    have hf := hroom.fallbacks
    have hu := hroom.unknown
    refine ⟨hvalid,fun tag htag => ?_,by omega,by omega,by omega⟩
    have hsingle := hroom.single tag htag
    rw [if_neg (hunseen tag)] at hsingle
    exact hsingle
  · have hr := h.routeHints
    have hf := h.fallbacks
    have hu := h.unknown
    refine ⟨h.valid,fun tag htag => ?_,by omega,by omega,by omega⟩
    rw [if_neg (hunseen tag)]
    exact h.single tag htag

end Frontera.Lightning
