import Frontera.EmergencyControl.Verification

/-! What the three tables hold after some transitions, as a function of the list of their events,
and what the store then reads from them. -/

namespace Frontera.EmergencyControl

open Frontera.Execution List Option Tables

variable (P : Platform)

/-- The digest of the last event, or the digest the chain starts from. -/
def lastDigest (start : String) (events : List EmergencyControlEventRecord) : String :=
  (events.getLast?.map (emergencyControlEventDigest P)).getD start

/-- The instant of the last event, or the one the store was created at. -/
def lastInstant (openedAt : String) (events : List EmergencyControlEventRecord) : String :=
  (events.getLast?.map (·.recordedAt)).getD openedAt

/-- Each event is the next sequence and names the digest of the one before it. -/
def Chained : List EmergencyControlEventRecord → String → Int → Prop
  | [], _, _ => True
  | event :: events, previous, verified =>
    event.sequence = verified + 1 ∧ event.previousEventDigest = previous ∧
      Chained events (emergencyControlEventDigest P event) (verified + 1)

variable {P}

@[simp] theorem lastDigest_append (start : String) (events : List EmergencyControlEventRecord)
    (event : EmergencyControlEventRecord) :
    lastDigest P start (events ++ [event]) = emergencyControlEventDigest P event := by
  simp [lastDigest]

@[simp] theorem lastInstant_append (openedAt : String)
    (events : List EmergencyControlEventRecord) (event : EmergencyControlEventRecord) :
    lastInstant openedAt (events ++ [event]) = event.recordedAt := by
  simp [lastInstant]

theorem lastDigest_cons (start : String) (event : EmergencyControlEventRecord)
    (events : List EmergencyControlEventRecord) :
    lastDigest P start (event :: events) = lastDigest P (emergencyControlEventDigest P event) events := by
  cases events using List.reverseRecOn with
  | nil => rfl
  | append_singleton events last => rw [← cons_append,lastDigest_append,lastDigest_append]

variable {previous : String} {verified : Int} {event : EmergencyControlEventRecord} {key : String}

theorem chained_append {events : List EmergencyControlEventRecord} :
    Chained P (events ++ [event]) previous verified ↔
      Chained P events previous verified ∧ event.sequence = verified + events.length + 1 ∧
        event.previousEventDigest = lastDigest P previous events := by
  induction events generalizing previous verified with
  | nil => simp [Chained,lastDigest]
  | cons first events ih =>
    simp only [cons_append,Chained,ih,lastDigest_cons,length_cons,Nat.cast_add,Nat.cast_one]
    have hcount : verified + 1 + (events.length : Int) = verified + (events.length + 1) := by omega
    rw [hcount]
    tauto

theorem Chained.sequence_mem {events : List EmergencyControlEventRecord}
    (h : Chained P events previous verified) (hmem : event ∈ events) :
    verified < event.sequence ∧ event.sequence ≤ verified + events.length := by
  induction events generalizing previous verified with
  | nil => cases hmem
  | cons first events ih =>
    obtain ⟨hsequence,-,hrest⟩ := h
    rw [length_cons,Nat.cast_add,Nat.cast_one]
    rcases mem_cons.1 hmem with rfl | hmem
    · omega
    · have hbounds := ih hrest hmem
      omega

theorem Chained.pairwise {events : List EmergencyControlEventRecord}
    (h : Chained P events previous verified) :
    events.Pairwise fun a b => a.sequence < b.sequence := by
  induction events generalizing previous verified with
  | nil => exact List.Pairwise.nil
  | cons first events ih =>
    obtain ⟨hsequence,-,hrest⟩ := h
    refine List.Pairwise.cons ?_ (ih hrest)
    intro event hmem
    have hbounds := hrest.sequence_mem hmem
    omega

theorem Chained.eq_of_sequence {events : List EmergencyControlEventRecord}
    (h : Chained P events previous verified) {a b : EmergencyControlEventRecord} (ha : a ∈ events)
    (hb : b ∈ events) (hsequence : a.sequence = b.sequence) : a = b := by
  have hnodup : (events.map (·.sequence)).Nodup :=
    pairwise_map.2 (h.pairwise.imp fun hlt => hlt.ne)
  exact inj_on_of_nodup_map hnodup ha hb hsequence

def latest (events : List EmergencyControlEventRecord) (key : String) :
    Option EmergencyControlEventRecord :=
  events.reverse.find? fun event => event.controlKey = key

theorem latest_append (events : List EmergencyControlEventRecord)
    (event : EmergencyControlEventRecord) (key : String) :
    latest (events ++ [event]) key = if event.controlKey = key then some event
      else latest events key := by
  unfold latest
  rw [reverse_append,reverse_singleton,singleton_append,List.find?_cons]
  split_ifs with hkey <;> simp [hkey]

theorem latest_eq_none {events : List EmergencyControlEventRecord} :
    latest events key = none ↔ ∀ event ∈ events, event.controlKey ≠ key := by
  simp [latest]

theorem latest_mem {events : List EmergencyControlEventRecord}
    (h : latest events key = some event) : event ∈ events ∧ event.controlKey = key := by
  unfold latest at h
  exact ⟨by simpa using mem_of_find?_eq_some h,by simpa using List.find?_some h⟩

theorem Chained.latest_max {events : List EmergencyControlEventRecord}
    (h : Chained P events previous verified) {other : EmergencyControlEventRecord}
    (hlatest : latest events key = some event) (hother : other ∈ events)
    (hkey : other.controlKey = key) : other.sequence ≤ event.sequence := by
  induction events using List.reverseRecOn with
  | nil => cases hother
  | append_singleton events last ih =>
    obtain ⟨hchained,hsequence,-⟩ := chained_append.1 h
    rw [latest_append] at hlatest
    split_ifs at hlatest with hlast
    · cases hlatest
      rcases mem_append.1 hother with hmem | hmem
      · have hbounds := hchained.sequence_mem hmem
        omega
      · rw [mem_singleton] at hmem
        rw [hmem]
    · rcases mem_append.1 hother with hmem | hmem
      · exact ih hchained hlatest hmem
      · rw [mem_singleton] at hmem
        subst hmem
        exact absurd hkey hlast

variable (P)

def headOf (openedAt : String) (events : List EmergencyControlEventRecord) : EmergencyControlHeadRecord :=
  ⟨events.length,events.length,lastDigest P (emergencyControlGenesisDigest P) events,
    lastInstant openedAt events⟩

/-- The current state an event produces. -/
def controlOf (event : EmergencyControlEventRecord) : StoredEmergencyControl :=
  ⟨event.controlKey,event.scope,event.value,decide (event.transition = .activated),
    event.issuerRef,event.recordedAt,event.sequence,emergencyControlEventDigest P event⟩

/-- The tables hold a history, the state of each control it declares and its head. -/
structure Recorded (openedAt : String) (events : List EmergencyControlEventRecord)
    (tables : Tables) : Prop where
  events_eq : tables.events = events.map (eventRow P)
  chained : Chained P events (emergencyControlGenesisDigest P) 0
  wellFormed : ∀ event ∈ events, event.WellFormed
  head_eq : tables.head = some (headRow P (headOf P openedAt events))
  controls : ∀ row, row ∈ tables.controls ↔ ∃ event, latest events event.controlKey = some event ∧
    row = controlRow P (controlOf P event)

variable {P} {openedAt : String} {events : List EmergencyControlEventRecord} {tables : Tables}

theorem EmergencyControlEventRecord.WellFormed.controlOf (h : event.WellFormed) :
    (controlOf P event).WellFormed where
  positive := h.positive
  valueStated := h.valueStated
  keyed := h.keyed
  issued := h.issued
  declared := h.recorded
  linked := digestOf_ne_empty P _

namespace Recorded

variable (h : Recorded P openedAt events tables)
include h

theorem selectAllEvents_eq : tables.selectAllEvents = events.map (eventRow P) := by
  rw [selectAllEvents,h.events_eq]
  apply List.Pairwise.insertionSort_eq
  rw [pairwise_map]
  exact h.chained.pairwise.imp fun hlt => le_of_lt hlt

theorem selectControl_eq (key : String) : tables.selectControl (.text key) =
      (latest events key).map fun event => controlRow P (controlOf P event) := by
  cases hselected : tables.selectControl (.text key) with
  | none =>
    cases hlatest : latest events key with
    | none => rfl
    | some event =>
      obtain ⟨-,rfl⟩ := latest_mem hlatest
      have hrow := (h.controls _).2 ⟨event,hlatest,rfl⟩
      rw [selectControl,List.find?_eq_none] at hselected
      simpa [controlRow,EmergencyControl.controlOf] using hselected _ hrow
  | some row =>
    unfold selectControl at hselected
    obtain ⟨event,hlatest,rfl⟩ := (h.controls row).1 (mem_of_find?_eq_some hselected)
    have hkey : event.controlKey = key := by
      have hcell := List.find?_some hselected
      simpa [controlRow,EmergencyControl.controlOf] using hcell
    rw [← hkey,hlatest]
    rfl

variable {event : EmergencyControlEventRecord} {key : String}

theorem selectEvent_eq (hmem : event ∈ events) :
    tables.selectEvent event.sequence = some (eventRow P event) := by
  cases hselected : tables.selectEvent event.sequence with
  | none =>
    rw [selectEvent,List.find?_eq_none,h.events_eq] at hselected
    simpa [eventRow] using hselected _ (mem_map_of_mem hmem)
  | some row =>
    unfold selectEvent at hselected
    have hrow := mem_of_find?_eq_some hselected
    rw [h.events_eq] at hrow
    obtain ⟨other,hother,rfl⟩ := mem_map.1 hrow
    have hsequence := List.find?_some hselected
    rw [decide_eq_true_eq] at hsequence
    rw [h.chained.eq_of_sequence hother hmem hsequence]

theorem mem_keyEvents {row : EventRow} : row ∈ tables.keyEvents (.text key) ↔
      ∃ event ∈ events, event.controlKey = key ∧ row = eventRow P event := by
  rw [keyEvents,mem_filter,h.events_eq,List.mem_map]
  constructor
  · rintro ⟨⟨event,hmem,rfl⟩,hkey⟩
    exact ⟨event,hmem,by simpa [eventRow] using hkey,rfl⟩
  · rintro ⟨event,hmem,rfl,rfl⟩
    exact ⟨⟨event,hmem,rfl⟩,by simp [eventRow]⟩

theorem maxSequence_eq (hlatest : latest events key = some event) :
    tables.maxSequence (.text key) = event.sequence := by
  obtain ⟨hmem,hkey⟩ := latest_mem hlatest
  have hmax : ((tables.keyEvents (.text key)).map (·.sequence)).max? = some event.sequence := by
    rw [List.max?_eq_some_iff]
    refine ⟨?_,?_⟩
    · exact mem_map.2 ⟨_,h.mem_keyEvents.2 ⟨event,hmem,hkey,rfl⟩,rfl⟩
    · intro sequence hsequence
      obtain ⟨row,hrow,rfl⟩ := mem_map.1 hsequence
      obtain ⟨other,hother,hotherKey,rfl⟩ := h.mem_keyEvents.1 hrow
      exact h.chained.latest_max hlatest hother hotherKey
  rw [maxSequence,hmax]
  rfl

theorem keyEvents_length_eq_zero (key : String) :
    (tables.keyEvents (.text key)).length = 0 ↔ latest events key = none := by
  rw [length_eq_zero_iff,eq_nil_iff_forall_not_mem,latest_eq_none]
  constructor
  · intro hnone event hmem hkey
    exact hnone _ (h.mem_keyEvents.2 ⟨event,hmem,hkey,rfl⟩)
  · intro hnone row hrow
    obtain ⟨event,hmem,hkey,-⟩ := h.mem_keyEvents.1 hrow
    exact hnone event hmem hkey

theorem safe_sequence (hsafe : isSafeInteger events.length = true) (hmem : event ∈ events) :
    isSafeInteger event.sequence = true := by
  have hbounds := h.chained.sequence_mem hmem
  rw [isSafeInteger_iff] at hsafe ⊢
  omega

end Recorded

/-- What the history says of a key. -/
def stateOf (P : Platform) (events : List EmergencyControlEventRecord) (key : String) : ControlState :=
  match latest events key with
  | none => .neverDeclared
  | some event => .declared (controlOf P event)

theorem Recorded.verifiedControl_eq (h : Recorded P openedAt events tables)
    (hsafe : isSafeInteger events.length = true) (key : String) :
    tables.verifiedControl P (.text key) = some (stateOf P events key) := by
  unfold verifiedControl stateOf
  rw [h.selectControl_eq]
  cases hlatest : latest events key with
  | none =>
    rw [map_none,if_pos ((h.keyEvents_length_eq_zero key).2 hlatest)]
  | some event =>
    obtain ⟨hmem,hkey⟩ := latest_mem hlatest
    have hwell := h.wellFormed event hmem
    have hsequence := h.safe_sequence hsafe hmem
    have hcontrol : parseStoredControl P (controlRow P (controlOf P event)) = some (controlOf P event) :=
      parseStoredControl_eq_some.2 ⟨rfl,hwell.controlOf,hsequence⟩
    have hevent : parseStoredEvent P (eventRow P event) = some event :=
      parseStoredEvent_eq_some.2 ⟨rfl,hwell,hsequence⟩
    have hcount : ¬ (tables.keyEvents (.text key)).length = 0 := by
      rw [h.keyEvents_length_eq_zero,hlatest]
      exact some_ne_none _
    simp only [map_some,hcontrol,if_neg hcount,h.maxSequence_eq hlatest]
    simp only [controlOf,ne_eq,not_true_eq_false,if_false,h.selectEvent_eq hmem,hevent,hkey]
    simp [eventRow]

theorem walk_chained (hchained : Chained P events previous verified)
    (hwell : ∀ event ∈ events, event.WellFormed ∧ isSafeInteger event.sequence = true) :
    walk P (events.map (eventRow P)) (.text previous) verified =
      some (.text (lastDigest P previous events), verified + events.length) := by
  induction events generalizing previous verified with
  | nil => simp [walk,lastDigest]
  | cons event events ih =>
    obtain ⟨hsequence,hprevious,hrest⟩ := hchained
    obtain ⟨hevent,hsafe⟩ := hwell event (by simp)
    have hparse : parseStoredEvent P (eventRow P event) = some event :=
      parseStoredEvent_eq_some.2 ⟨rfl,hevent,hsafe⟩
    have htail := ih hrest fun other hother => hwell other (by simp [hother])
    have hnumber : (eventRow P event).sequence = verified + 1 := hsequence
    simp only [map_cons,walk,hnumber,hparse,hprevious,ne_eq,not_true_eq_false,if_false]
    rw [lastDigest_cons]
    rw [show (eventRow P event).eventDigest = .text (emergencyControlEventDigest P event) from rfl,
      htail,length_cons,Nat.cast_add,Nat.cast_one]
    congr 2
    omega

theorem lastDigest_ne_empty (start : String) (events : List EmergencyControlEventRecord)
    (hstart : start ≠ "") : lastDigest P start events ≠ "" := by
  unfold lastDigest
  cases events.getLast? with
  | none => exact hstart
  | some event => exact digestOf_ne_empty P _

theorem Recorded.lastInstant_ne_empty (h : Recorded P openedAt events tables)
    (hopened : openedAt ≠ "") : lastInstant openedAt events ≠ "" := by
  unfold lastInstant
  cases hlast : events.getLast? with
  | none => exact hopened
  | some event => exact (h.wellFormed event (mem_of_getLast? hlast)).recorded

theorem Recorded.verifiedHead_eq (h : Recorded P openedAt events tables)
    (hsafe : isSafeInteger events.length = true) (hinstant : lastInstant openedAt events ≠ "") :
    tables.verifiedHead P = some (headOf P openedAt events) := by
  have hparse : parseStoredHead P (headRow P (headOf P openedAt events)) =
      some (headOf P openedAt events) :=
    parseStoredHead_eq_some.2 ⟨rfl,hsafe,Int.natCast_nonneg _,hsafe,Int.natCast_nonneg _,
      lastDigest_ne_empty _ _ (digestOf_ne_empty P _),hinstant⟩
  have hwalk := walk_chained h.chained fun event hmem =>
    ⟨h.wellFormed event hmem,h.safe_sequence hsafe hmem⟩
  unfold verifiedHead
  rw [h.head_eq,bind_some,hparse,h.selectAllEvents_eq,hwalk]
  simp [headOf]

def nextEvent (P : Platform) (events : List EmergencyControlEventRecord)
    (scope : EmergencyControlScope) (value : Option String)
    (transition : EmergencyControlTransition) (issuerRef recordedAt : String) :
    EmergencyControlEventRecord :=
  ⟨events.length + 1,emergencyControlKey scope value,scope,value,transition,issuerRef,
    recordedAt,lastDigest P (emergencyControlGenesisDigest P) events⟩

variable {scope : EmergencyControlScope} {value : Option String}
  {transition : EmergencyControlTransition} {issuerRef recordedAt : String}

theorem nextEvent_wellFormed (hvalue : valueStated scope value = true) (hissuer : issuerRef ≠ "")
    (hrecorded : recordedAt ≠ "") (events : List EmergencyControlEventRecord) :
    (nextEvent P events scope value transition issuerRef recordedAt).WellFormed where
  positive := by
    simp only [nextEvent]
    omega
  valueStated := hvalue
  keyed := rfl
  issued := hissuer
  recorded := hrecorded
  linked := lastDigest_ne_empty _ _ (digestOf_ne_empty P _)

section

variable (h : Recorded P openedAt events tables)
include h

theorem Recorded.controls_append (event : EmergencyControlEventRecord) (row : ControlRow) :
    (row = controlRow P (controlOf P event) ∨
        row ∈ tables.controls ∧ row.controlKey ≠ .text event.controlKey) ↔
      ∃ other, latest (events ++ [event]) other.controlKey = some other ∧
        row = controlRow P (controlOf P other) := by
  constructor
  · rintro (rfl | ⟨hrow,hdiffers⟩)
    · exact ⟨event,by rw [latest_append,if_pos rfl],rfl⟩
    · obtain ⟨other,hlatest,rfl⟩ := (h.controls row).1 hrow
      refine ⟨other,?_,rfl⟩
      rw [latest_append,if_neg]
      · exact hlatest
      · intro hkey
        exact hdiffers (by rw [hkey]; rfl)
  · rintro ⟨other,hlatest,rfl⟩
    rw [latest_append] at hlatest
    split_ifs at hlatest with hkey
    · cases hlatest
      exact .inl rfl
    · refine .inr ⟨(h.controls _).2 ⟨other,hlatest,rfl⟩,?_⟩
      intro hcell
      exact hkey (SqlValue.text.inj hcell).symm

theorem Recorded.recordTransition (transition : EmergencyControlTransition)
    (hvalue : valueStated scope value = true) (hissuer : issuerRef ≠ "")
    (hrecorded : recordedAt ≠ "") :
    ∃ tables', tables.recordTransition P (headOf P openedAt events) scope value transition issuerRef
        recordedAt = .ok tables' ∧
      Recorded P openedAt
        (events ++ [nextEvent P events scope value transition issuerRef recordedAt]) tables' := by
  have hfree : (tables.selectEvent ((events.length : Int) + 1)).isSome = false := by
    rw [isSome_eq_false_iff,isNone_iff_eq_none,selectEvent,List.find?_eq_none,h.events_eq]
    intro row hrow
    obtain ⟨event,hmem,rfl⟩ := mem_map.1 hrow
    have hbounds := h.chained.sequence_mem hmem
    have hdiffers : event.sequence ≠ (events.length : Int) + 1 := by omega
    intro hsame
    exact hdiffers (of_decide_eq_true hsame)
  unfold Tables.recordTransition
  simp only [headOf,hfree,Bool.false_eq_true,if_false]
  refine ⟨_,rfl,?_⟩
  constructor
  · simp only [upsertControl,h.events_eq,map_append,map_singleton]
    rfl
  · rw [chained_append]
    refine ⟨h.chained,?_,rfl⟩
    simp only [nextEvent]
    omega
  · intro event hmem
    rcases mem_append.1 hmem with hmem | hmem
    · exact h.wellFormed event hmem
    · rw [mem_singleton] at hmem
      rw [hmem]
      exact nextEvent_wellFormed hvalue hissuer hrecorded events
  · simp only [headOf,lastDigest_append,lastInstant_append,length_append,
      length_singleton,Nat.cast_add,Nat.cast_one]
    rfl
  · intro row
    rw [← h.controls_append]
    exact mem_upsertControl

theorem Recorded.head_of_verified {head : EmergencyControlHeadRecord}
    (hverified : tables.verifiedHead P = some head) : head = headOf P openedAt events := by
  obtain ⟨⟨row,hrow,hparse⟩,-⟩ := verifiedHead_cases hverified
  rw [h.head_eq,some.injEq] at hrow
  rw [← hrow] at hparse
  exact (headRow_inj (parseStoredHead_eq_some.1 hparse).1).symm

theorem Recorded.appendTransition (hvalue : valueStated scope value = true)
    (hissuer : issuerRef ≠ "") (hrecorded : recordedAt ≠ "") {tables' : Tables}
    (hok : tables.appendTransition P scope value transition issuerRef recordedAt = .ok tables') :
    ∃ events', Recorded P openedAt events' tables' := by
  unfold Tables.appendTransition at hok
  cases hhead : tables.verifiedHead P with
  | none => simp [hhead] at hok
  | some head =>
    rw [h.head_of_verified hhead] at hhead
    cases hcontrol : tables.verifiedControl P (.text (emergencyControlKey scope value)) with
    | none => simp [hhead,hcontrol] at hok
    | some current =>
      simp only [hhead,hcontrol] at hok
      split_ifs at hok with hstate
      · cases hok
        exact ⟨events,h⟩
      · obtain ⟨recorded,heq,hafter⟩ :=
          Recorded.recordTransition h transition hvalue hissuer hrecorded
        rw [heq] at hok
        cases hok
        exact ⟨_,hafter⟩

end

end Frontera.EmergencyControl
