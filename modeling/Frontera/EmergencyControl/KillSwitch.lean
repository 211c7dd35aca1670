import Frontera.EmergencyControl.Runs

/-! While the file is undamaged the durable store answers as the process-local one does. Once it is
damaged no stop it reported can be read as clear, and no history that does not verify is extended.
-/

namespace Frontera.EmergencyControl

open Frontera.Execution Frontera.Data List Option

variable {P : Platform} {openedAt : String} {events : List EmergencyControlEventRecord}

/-- The control of a key, when its latest transition activated it. -/
def activeMatch (events : List EmergencyControlEventRecord) (key : String) :
    Option EmergencyControlScopeMatch :=
  (latest events key).bind fun event =>
    if event.transition = .activated then some ⟨event.scope,event.value⟩ else none

theorem activeMatch_append (events : List EmergencyControlEventRecord)
    (event : EmergencyControlEventRecord) (key : String) :
    activeMatch (events ++ [event]) key = if key = event.controlKey then
        (if event.transition = .activated then some ⟨event.scope,event.value⟩ else none)
      else activeMatch events key := by
  unfold activeMatch
  rw [latest_append]
  by_cases hkey : key = event.controlKey
  · rw [if_pos hkey,if_pos hkey.symm,bind_some]
  · rw [if_neg hkey,if_neg fun h => hkey h.symm]

theorem activeMatch_key (hwell : ∀ event ∈ events, event.WellFormed) {key : String}
    {control : EmergencyControlScopeMatch} (h : activeMatch events key = some control) :
    key = matchKey control ∧ valueStated control.scope control.value = true ∧ latest events key ≠ none := by
  obtain ⟨event,hlatest,hactive⟩ := bind_eq_some_iff.1 h
  obtain ⟨hmem,hkey⟩ := latest_mem hlatest
  split_ifs at hactive
  cases hactive
  refine ⟨?_,(hwell event hmem).valueStated,?_⟩
  · rw [← hkey,(hwell event hmem).keyed]
    rfl
  · rw [hlatest]
    exact some_ne_none event

theorem alreadyInState_stateOf (events : List EmergencyControlEventRecord) (key : String)
    (transition : EmergencyControlTransition) :
    Tables.alreadyInState (stateOf P events key) transition =
      ((activeMatch events key).isSome == decide (transition = .activated)) := by
  unfold stateOf activeMatch
  cases latest events key with
  | none => cases transition <;> rfl
  | some event =>
    rw [bind_some]
    simp only [Tables.alreadyInState,controlOf]
    cases event.transition <;> rfl

/-- The history after a transition that is accepted. -/
def afterTransition (P : Platform) (events : List EmergencyControlEventRecord)
    (scope : EmergencyControlScope) (declaration : EmergencyControlDeclaration)
    (transition : EmergencyControlTransition) : List EmergencyControlEventRecord :=
  if (activeMatch events (emergencyControlKey scope declaration.value)).isSome =
    decide (transition = .activated) then events
  else events ++ [nextEvent P events scope declaration.value transition declaration.issuerRef
    declaration.instant]

theorem afterTransition_length (scope : EmergencyControlScope)
    (declaration : EmergencyControlDeclaration) (transition : EmergencyControlTransition) :
    (afterTransition P events scope declaration transition).length ≤ events.length + 1 := by
  unfold afterTransition
  split_ifs
  · exact Nat.le_succ _
  · rw [length_append,length_singleton]

variable {scope : EmergencyControlScope} {declaration : EmergencyControlDeclaration} {store : Store}
  {tables : Tables} {inMemory : InMemoryStore}

theorem activeMatch_afterTransition {transition : EmergencyControlTransition} (key : String) :
    activeMatch (afterTransition P events scope declaration transition) key =
      if key = emergencyControlKey scope declaration.value then
        (if transition = .activated then
          some ((activeMatch events key).getD ⟨scope,declaration.value⟩) else none)
      else activeMatch events key := by
  unfold afterTransition
  by_cases hkey : key = emergencyControlKey scope declaration.value
  · subst hkey
    rw [if_pos rfl]
    cases hactive : activeMatch events (emergencyControlKey scope declaration.value) with
    | none =>
      cases transition with
      | activated => simp [activeMatch_append,nextEvent]
      | released => simp [hactive]
    | some control =>
      cases transition with
      | activated => simp [hactive]
      | released => simp [activeMatch_append,nextEvent]
  · rw [if_neg hkey]
    split_ifs
    · rfl
    · rw [activeMatch_append,if_neg]
      exact hkey

theorem StoreRecorded.transition_eq (h : StoreRecorded P openedAt events store)
    (hopened : openedAt ≠ "") (hsafe : isSafeInteger events.length = true)
    (transition : EmergencyControlTransition)
    (hscope : isWellFormedEmergencyControlDeclaration declaration = some scope) :
    ∃ store', store.transition P transition declaration = .ok store' ∧
      StoreRecorded P openedAt (afterTransition P events scope declaration transition) store' := by
  obtain ⟨tables,htables,hrecorded⟩ := h.tables
  obtain ⟨hvalue,hissuer,hinstant⟩ := isWellFormedEmergencyControlDeclaration_some hscope
  have hhead := hrecorded.verifiedHead_eq hsafe (hrecorded.lastInstant_ne_empty hopened)
  have hcontrol :=
    hrecorded.verifiedControl_eq hsafe (emergencyControlKey scope declaration.value)
  obtain ⟨tables',hwritten,hafter⟩ :=
    Recorded.recordTransition hrecorded transition hvalue hissuer hinstant
  unfold Store.transition Tables.appendTransition afterTransition
  simp only [h.isOpen,hscope,htables,hhead,hcontrol,alreadyInState_stateOf,hwritten,
    Bool.false_eq_true,if_false,beq_iff_eq]
  split_ifs
  · exact ⟨_,rfl,h.withTables hrecorded⟩
  · exact ⟨_,rfl,h.withTables hafter⟩

section

variable (h : Recorded P openedAt events tables) (hsafe : isSafeInteger events.length = true)
include h hsafe

theorem matchedScopes_eq (applicable : List EmergencyControlScopeMatch) :
    tables.matchedScopes P applicable =
      some (applicable.filter fun scope => (activeMatch events (matchKey scope)).isSome) := by
  induction applicable with
  | nil => rfl
  | cons first rest ih =>
    rw [Tables.matchedScopes,h.verifiedControl_eq hsafe,ih,stateOf]
    cases hlatest : latest events (matchKey first) with
    | none => simp [activeMatch,hlatest]
    | some event =>
      have hmatch : (activeMatch events (matchKey first)).isSome =
          decide (event.transition = .activated) := by
        rw [activeMatch,hlatest,bind_some]
        split_ifs with hactivated <;> simp [hactivated]
      simp only [map_some,controlOf,filter_cons,hmatch]
      by_cases hactivated : event.transition = .activated <;> simp [hactivated]

theorem activeOfKeys_eq {keys : List SqlValue}
    (hkeys : ∀ key ∈ keys, ∃ text, key = .text text ∧ latest events text ≠ none) :
    tables.activeOfKeys P keys = .ok (keys.filterMap fun key => key.text?.bind (activeMatch events)) := by
  induction keys with
  | nil => rfl
  | cons key keys ih =>
    obtain ⟨text,rfl,hlatest⟩ := hkeys key (by simp)
    have hrest := ih fun other hother => hkeys other (by simp [hother])
    rw [Tables.activeOfKeys,h.verifiedControl_eq hsafe,hrest,stateOf]
    obtain ⟨event,hevent⟩ := ne_none_iff_exists'.1 hlatest
    have hmatch : activeMatch events text =
        if event.transition = .activated then some ⟨event.scope,event.value⟩ else none := by
      rw [activeMatch,hevent,bind_some]
    simp only [hevent,Except.map,SqlValue.text?,filterMap_cons,bind_some,hmatch,controlOf]
    by_cases hactivated : event.transition = .activated <;> simp [hactivated]

end

theorem mem_selectKnownKeys (h : Recorded P openedAt events tables) {key : SqlValue} :
    key ∈ tables.selectKnownKeys ↔ ∃ text, key = .text text ∧ latest events text ≠ none := by
  rw [Tables.selectKnownKeys,mem_dedup,mem_append,List.mem_map,List.mem_map]
  constructor
  · rintro (⟨row,hrow,rfl⟩ | ⟨row,hrow,rfl⟩)
    · rw [h.events_eq] at hrow
      obtain ⟨event,hmem,rfl⟩ := List.mem_map.1 hrow
      refine ⟨event.controlKey,rfl,?_⟩
      intro hnone
      exact latest_eq_none.1 hnone event hmem rfl
    · obtain ⟨event,hlatest,rfl⟩ := (h.controls row).1 hrow
      refine ⟨event.controlKey,rfl,?_⟩
      rw [hlatest]
      exact some_ne_none event
  · rintro ⟨text,rfl,hlatest⟩
    obtain ⟨event,hevent⟩ := ne_none_iff_exists'.1 hlatest
    obtain ⟨hmem,hkey⟩ := latest_mem hevent
    refine .inl ⟨eventRow P event,?_,?_⟩
    · rw [h.events_eq]
      exact mem_map_of_mem hmem
    · rw [← hkey]
      rfl

/-- The process-local store holds exactly the controls the history leaves active. -/
structure Agrees (events : List EmergencyControlEventRecord) (store : InMemoryStore) : Prop where
  available : store.unavailable = false
  controls : ∀ key, store.controls.get key = activeMatch events key

theorem Agrees.activate {store : InMemoryStore} (h : Agrees events store)
    (hscope : isWellFormedEmergencyControlDeclaration declaration = some scope) :
    ∃ store', store.activate declaration = .ok store' ∧
      Agrees (afterTransition P events scope declaration .activated) store' := by
  obtain ⟨hvalue,-,-⟩ := isWellFormedEmergencyControlDeclaration_some hscope
  have hstated : (if scope = .global then ⟨.global,none⟩ else ⟨scope,declaration.value⟩ :
      EmergencyControlScopeMatch) = ⟨scope,declaration.value⟩ := by
    split_ifs with hglobal
    · subst hglobal
      rw [valueStated,if_pos rfl,isNone_iff_eq_none] at hvalue
      rw [hvalue]
    · rfl
  unfold InMemoryStore.activate
  simp only [hscope,hstated,h.controls]
  cases hactive : activeMatch events (emergencyControlKey scope declaration.value) with
  | some control =>
    refine ⟨store,rfl,h.available,?_⟩
    intro key
    rw [h.controls,activeMatch_afterTransition]
    by_cases hkey : key = emergencyControlKey scope declaration.value
    · rw [if_pos hkey,hkey,hactive]
      rfl
    · rw [if_neg hkey]
  | none =>
    refine ⟨_,rfl,h.available,?_⟩
    intro key
    rw [OrderedMap.get_set,h.controls,activeMatch_afterTransition]
    by_cases hkey : key = emergencyControlKey scope declaration.value
    · rw [if_pos hkey,if_pos hkey,hkey,hactive]
      rfl
    · rw [if_neg hkey,if_neg hkey]

theorem Agrees.release {store : InMemoryStore} (h : Agrees events store)
    (hscope : isWellFormedEmergencyControlDeclaration declaration = some scope) :
    ∃ store', store.release declaration = .ok store' ∧
      Agrees (afterTransition P events scope declaration .released) store' := by
  unfold InMemoryStore.release
  simp only [hscope]
  refine ⟨_,rfl,h.available,?_⟩
  intro key
  rw [OrderedMap.get_delete,h.controls,activeMatch_afterTransition]
  simp only [reduceCtorEq,if_false]

theorem apply_agrees (h : StoreRecorded P openedAt events store)
    (hagrees : Agrees events inMemory) (hopened : openedAt ≠ "")
    (hsafe : isSafeInteger events.length = true) (call : Call) :
    (∃ store' inMemory' events', store.apply P call = .ok store' ∧
        inMemory.apply call = .ok inMemory' ∧ StoreRecorded P openedAt events' store' ∧
        Agrees events' inMemory' ∧ events'.length ≤ events.length + 1) ∨
      ∃ error error', store.apply P call = .error error ∧ inMemory.apply call = .error error' := by
  cases call with
  | activate declaration =>
    cases hscope : isWellFormedEmergencyControlDeclaration declaration with
    | none =>
      refine .inr ⟨.declarationInvalid,.rangeError,?_,?_⟩
      · simp [Store.apply,Store.activate,Store.transition,h.isOpen,hscope]
      · simp [InMemoryStore.apply,InMemoryStore.activate,hscope]
    | some scope =>
      obtain ⟨store',hstore,hrecorded⟩ := h.transition_eq hopened hsafe .activated hscope
      obtain ⟨inMemory',hinMemory,hafter⟩ := hagrees.activate (P := P) hscope
      exact .inl ⟨store',inMemory',_,hstore,hinMemory,hrecorded,hafter,
        afterTransition_length scope declaration .activated⟩
  | release release =>
    cases hscope : isWellFormedEmergencyControlDeclaration release with
    | none =>
      refine .inr ⟨.declarationInvalid,.rangeError,?_,?_⟩
      · simp [Store.apply,Store.release,Store.transition,h.isOpen,hscope]
      · simp [InMemoryStore.apply,InMemoryStore.release,hscope]
    | some scope =>
      obtain ⟨store',hstore,hrecorded⟩ := h.transition_eq hopened hsafe .released hscope
      obtain ⟨inMemory',hinMemory,hafter⟩ := hagrees.release (P := P) hscope
      exact .inl ⟨store',inMemory',_,hstore,hinMemory,hrecorded,hafter,
        afterTransition_length scope release .released⟩
  | reopen now =>
    exact .inl ⟨store,inMemory,events,h.reopen now,rfl,h,hagrees,Nat.le_succ _⟩

theorem run_agrees (hopened : openedAt ≠ "") {calls : List Call} (hcalls : calls.length < 2 ^ 53) :
    ∃ events, events.length ≤ calls.length ∧
      StoreRecorded P openedAt events ((Store.created P openedAt).run P calls) ∧
      Agrees events (createInMemoryEmergencyControlStore.run calls) := by
  induction calls using List.reverseRecOn with
  | nil =>
    refine ⟨[],le_refl 0,created_recorded P openedAt,rfl,?_⟩
    intro key
    rfl
  | append_singleton calls call ih =>
    rw [length_append,length_singleton] at hcalls ⊢
    obtain ⟨events,hlength,hrecorded,hagrees⟩ := ih (by omega)
    have hsafe : isSafeInteger events.length = true := by
      rw [isSafeInteger_iff]
      omega
    rw [Store.run,InMemoryStore.run,foldl_append,foldl_append,foldl_cons,
      foldl_cons,foldl_nil,foldl_nil,Store.next,InMemoryStore.next]
    rw [Store.run] at hrecorded
    rw [InMemoryStore.run] at hagrees
    rcases apply_agrees hrecorded hagrees hopened hsafe call with
      ⟨store',inMemory',events',hstore,hinMemory,hrecorded',hagrees',hlength'⟩ |
        ⟨error,error',hstore,hinMemory⟩
    · rw [hstore,hinMemory]
      exact ⟨events',by omega,hrecorded',hagrees'⟩
    · rw [hstore,hinMemory]
      exact ⟨events,by omega,hrecorded,hagrees⟩

section

variable (h : StoreRecorded P openedAt events store) (hagrees : Agrees events inMemory)
  (hopened : openedAt ≠ "") (hsafe : isSafeInteger events.length = true)
include h hagrees hopened hsafe

theorem read_agrees (query : EmergencyControlQuery) : store.read P query = inMemory.read query := by
  obtain ⟨tables,htables,hrecorded⟩ := h.tables
  have hhead := hrecorded.verifiedHead_eq hsafe (hrecorded.lastInstant_ne_empty hopened)
  unfold Store.read InMemoryStore.read Tables.runRead
  simp only [h.isOpen,htables,hhead,matchedScopes_eq hrecorded hsafe,hagrees.available, hagrees.controls]

theorem active_agrees : ∃ listed, store.active P = .ok listed ∧ listed.Perm inMemory.active := by
  obtain ⟨tables,htables,hrecorded⟩ := h.tables
  have hhead := hrecorded.verifiedHead_eq hsafe (hrecorded.lastInstant_ne_empty hopened)
  have hkeys := activeOfKeys_eq hrecorded hsafe fun key hkey =>
    (mem_selectKnownKeys hrecorded).1 hkey
  refine ⟨tables.selectKnownKeys.filterMap fun key => key.text?.bind (activeMatch events),?_,?_⟩
  · unfold Store.active Tables.runActive
    simp only [h.isOpen,htables,hhead,hkeys,Bool.false_eq_true,if_false]
  · have hlisted : (tables.selectKnownKeys.filterMap fun key =>
        key.text?.bind (activeMatch events)).Nodup := by
      apply (nodup_dedup _).filterMap
      intro a b control ha hb
      obtain ⟨text,htext,hactive⟩ := bind_eq_some_iff.1 ha
      obtain ⟨text',htext',hactive'⟩ := bind_eq_some_iff.1 hb
      cases a <;> cases htext
      cases b <;> cases htext'
      rw [(activeMatch_key hrecorded.wellFormed hactive).1,
        (activeMatch_key hrecorded.wellFormed hactive').1]
    have hvalues : inMemory.active.Nodup := by
      apply List.Nodup.of_map matchKey
      have hkeyed : inMemory.active.map matchKey = inMemory.controls.keys := by
        unfold InMemoryStore.active OrderedMap.values OrderedMap.keys
        rw [List.map_map]
        refine map_congr_left fun entry hentry => ?_
        have hactive := OrderedMap.get_of_mem_entries hentry
        rw [hagrees.controls] at hactive
        exact (activeMatch_key hrecorded.wellFormed hactive).1.symm
      rw [hkeyed]
      exact inMemory.controls.nodup
    rw [perm_ext_iff_of_nodup hlisted hvalues]
    intro control
    rw [mem_filterMap,InMemoryStore.active,OrderedMap.mem_values_iff]
    constructor
    · rintro ⟨key,-,hkey⟩
      obtain ⟨text,-,hactive⟩ := bind_eq_some_iff.1 hkey
      exact ⟨text,by rw [hagrees.controls,hactive]⟩
    · rintro ⟨text,hactive⟩
      rw [hagrees.controls] at hactive
      obtain ⟨-,-,hlatest⟩ := activeMatch_key hrecorded.wellFormed hactive
      exact ⟨.text text,(mem_selectKnownKeys hrecorded).2 ⟨text,rfl,hlatest⟩,hactive⟩

end

/-- The history a handle finds verifies under its head. -/
def Store.headVerifies (P : Platform) (store : Store) : Bool :=
  (store.tables?.bind (Tables.verifiedHead P)).isSome

theorem transition_unverified (h : store.headVerifies P = false)
    (transition : EmergencyControlTransition) (declaration : EmergencyControlDeclaration) :
    ∃ error, store.transition P transition declaration = .error error := by
  unfold Store.transition
  split_ifs
  · exact ⟨_,rfl⟩
  · cases isWellFormedEmergencyControlDeclaration declaration with
    | none => exact ⟨_,rfl⟩
    | some scope =>
      cases htables : store.tables? with
      | none => exact ⟨_,rfl⟩
      | some tables =>
        rw [Store.headVerifies,htables,bind_some,isSome_eq_false_iff,isNone_iff_eq_none] at h
        refine ⟨.storeStateCorrupt,?_⟩
        simp [Tables.appendTransition,h,Except.map]

/-- A stop cannot be switched off by damaging the file it is kept in. -/
theorem killSwitch_survives_damage (hsha : Function.Injective P.sha256)
    (hopened : openedAt ≠ "") :
    (∀ (calls : List Call) (store' : Store),
      Damaged ((Store.created P openedAt).run P calls).file store'.file →
      ∀ (openings : List String) (query : EmergencyControlQuery)
        (matched : List EmergencyControlScopeMatch),
        ((Store.created P openedAt).run P calls).read P query = .blocked matched →
        (store'.run P (openings.map .reopen)).read P query = .unavailable ∨
          (store'.run P (openings.map .reopen)).read P query = .blocked matched) ∧
    (∀ (store : Store), store.headVerifies P = false → ∀ declaration : EmergencyControlDeclaration,
        (∃ error, store.activate P declaration = .error error) ∧
          (∃ error, store.release P declaration = .error error) ∧
          store.next P (.activate declaration) = store ∧ store.next P (.release declaration) = store) ∧
    (∀ calls : List Call, calls.length < 2 ^ 53 → let store := (Store.created P openedAt).run P calls
      let inMemory := createInMemoryEmergencyControlStore.run calls
      (∀ query, store.read P query = inMemory.read query) ∧
        (∃ listed, store.active P = .ok listed ∧ listed.Perm inMemory.active) ∧
        ∀ call, (store.apply P call).isOk = (inMemory.apply call).isOk) := by
  refine ⟨?_,?_,?_⟩
  · intro calls store' hdamaged openings query matched hblocked
    obtain ⟨events,hrecorded⟩ := run_recorded P openedAt calls
    have hreopened := hdamaged.reopened (P := P) hrecorded.versions openings
    rw [← hblocked]
    exact hrecorded.read_damaged hsha hreopened query
  · intro store hunverified declaration
    obtain ⟨error,hactivate⟩ := transition_unverified hunverified .activated declaration
    obtain ⟨error',hrelease⟩ := transition_unverified hunverified .released declaration
    refine ⟨⟨error,hactivate⟩,⟨error',hrelease⟩,?_,?_⟩
    · rw [Store.next,Store.apply,Store.activate,hactivate]
    · rw [Store.next,Store.apply,Store.release,hrelease]
  · intro calls hcalls store inMemory
    obtain ⟨events,hlength,hrecorded,hagrees⟩ := run_agrees (P := P) hopened hcalls
    have hsafe : isSafeInteger events.length = true := by
      rw [isSafeInteger_iff]
      omega
    refine ⟨read_agrees hrecorded hagrees hopened hsafe, active_agrees hrecorded hagrees hopened hsafe,?_⟩
    intro call
    rcases apply_agrees hrecorded hagrees hopened hsafe call with
      ⟨_,_,_,hstore,hinMemory,-⟩ | ⟨_,_,hstore,hinMemory⟩
    · rw [hstore,hinMemory]
      rfl
    · rw [hstore,hinMemory]
      rfl

private def sampleGenesisDigest : String :=
  "sha256:42c1d26f659497dcac6270a0e9bea1ba3df623b6f3d1a2e9a41294a980df82b5"

private def sampleStopDigest : String :=
  "sha256:e6aff797716339800048f058dfd0d0d87253ac5bf316ef2925b6d5f4146ee608"

/-- The digests of the five texts that a new store and one global stop hash. -/
def samplePlatform : Platform :=
  tabulatedPlatform [
    (emergencyControlGenesis, "42c1d26f659497dcac6270a0e9bea1ba3df623b6f3d1a2e9a41294a980df82b5"),
    (serializeEmergencyControlHead ⟨0,0,sampleGenesisDigest,sampleInstant⟩,
      "2a8f39325434310b64c12840d4c8f518a16b24acbf42ce21083f6a8efbccaf62"),
    (serializeEmergencyControlEvent ⟨1,"global",.global,none,.activated,"operator-1",
      sampleInstant,sampleGenesisDigest⟩,
      "e6aff797716339800048f058dfd0d0d87253ac5bf316ef2925b6d5f4146ee608"),
    (serializeStoredEmergencyControl ⟨"global",.global,none,true,"operator-1",sampleInstant,1,
      sampleStopDigest⟩, "b6b62c9f7ad9faed41f8ea228946290c1fd34c11c3840048ebc57f60702742fa"),
    (serializeEmergencyControlHead ⟨1,1,sampleStopDigest,sampleInstant⟩,
      "baa718acd6607ff8ecd77fb7765c2f01e37a586231d09229a164859acda089be")]

def sampleStop : List Call := [.activate ⟨"global",none,"operator-1",sampleInstant⟩]

def stoppedStore : Store := (Store.created samplePlatform sampleInstant).run samplePlatform sampleStop

/-- The same file with every row of the three tables deleted. -/
def Store.emptied (store : Store) : Store :=
  ⟨⟨store.file.versions,some [],some [],some none⟩,true⟩

theorem emptied_damaged (store : Store) : Damaged store.file store.emptied.file := by
  constructor
  · rfl
  · intro rows' hrows
    cases hrows
    exact ⟨[],nil_sublist _,List.Forall₂.nil⟩
  · intro rows' hrows
    cases hrows
    exact ⟨[],nil_sublist _,List.Forall₂.nil⟩
  · intro row' hrow
    cases hrow

theorem killSwitch_survives_damage_emptied : Function.Injective samplePlatform.sha256 ∧ sampleInstant ≠ "" ∧
      stoppedStore.read samplePlatform ⟨none,none,none,none,none⟩ = .blocked [⟨.global,none⟩] ∧
      ((stoppedStore.emptied.run samplePlatform [.reopen sampleInstant]).read samplePlatform
          ⟨none,none,none,none,none⟩ = .unavailable ∨
        (stoppedStore.emptied.run samplePlatform [.reopen sampleInstant]).read samplePlatform
          ⟨none,none,none,none,none⟩ = .blocked [⟨.global,none⟩]) := by
  have hsha : Function.Injective samplePlatform.sha256 :=
    Text.tabulatedHash_injective_literals
      (.cons rfl (.cons rfl (.cons rfl (.cons rfl (.cons rfl .nil))))) (by decide) (by decide)
  have hopened : sampleInstant ≠ "" := by decide
  have hblocked : stoppedStore.read samplePlatform ⟨none,none,none,none,none⟩ =
      .blocked [⟨.global,none⟩] := by
    have hsame := ((killSwitch_survives_damage hsha hopened).2.2 sampleStop (by decide)).1
    rw [stoppedStore,hsame]
    decide
  refine ⟨hsha,hopened,hblocked,?_⟩
  exact (killSwitch_survives_damage hsha hopened).1 sampleStop stoppedStore.emptied (emptied_damaged _)
    [sampleInstant] _ _ hblocked

end Frontera.EmergencyControl
