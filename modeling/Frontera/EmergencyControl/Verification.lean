import Frontera.EmergencyControl.SqliteStore

/-! A row parses exactly when it is the row this store writes for a well-formed record, and a head
verifies only over a table whose rows all parse and are numbered from one. -/

namespace Frontera.EmergencyControl

open Frontera.Execution Option

variable {P : Platform}

variable {cell : SqlValue} {scope : EmergencyControlScope} {row : ControlRow}
  {head : EmergencyControlHeadRecord} {tables : Tables}

theorem SqlValue.nonEmptyText?_eq_some {value : String} :
    cell.nonEmptyText? = some value ↔ cell = .text value ∧ value ≠ "" := by
  cases cell with
  | text held =>
    simp only [nonEmptyText?,SqlValue.text.injEq]
    split_ifs with hempty
    · simp only [false_iff]
      rintro ⟨rfl,hne⟩
      exact hne hempty
    · simp only [some.injEq]
      constructor
      · rintro rfl
        exact ⟨rfl,hempty⟩
      · exact fun h => h.1
  | _ => simp [nonEmptyText?]

theorem SqlValue.safeInteger?_eq_some {least value : Int} : cell.safeInteger? least = some value ↔
      cell = .integer value ∧ isSafeInteger value = true ∧ least ≤ value := by
  cases cell with
  | integer held =>
    simp only [safeInteger?,SqlValue.integer.injEq]
    split_ifs with hsafe
    · rw [Bool.and_eq_true,decide_eq_true_eq] at hsafe
      simp only [some.injEq]
      constructor
      · rintro rfl
        exact ⟨rfl,hsafe⟩
      · exact fun h => h.1
    · rw [Bool.and_eq_true,decide_eq_true_eq] at hsafe
      simp only [false_iff]
      rintro ⟨rfl,hvalue⟩
      exact hsafe hvalue
  | _ => simp [safeInteger?]

theorem scopeOf_eq_some : scopeOf cell = some scope ↔ cell = .text (scopeText scope) := by
  constructor
  · intro h
    obtain ⟨text,htext,hscope⟩ := bind_eq_some_iff.1 h
    rw [scopeText_of_isEmergencyControlScope hscope]
    cases cell with
    | text held => cases htext; rfl
    | _ => cases htext
  · rintro rfl
    simp [scopeOf,SqlValue.text?]

theorem transitionOf_eq_some {transition : EmergencyControlTransition} :
    transitionOf cell = some transition ↔ cell = .text transition.text := by
  constructor
  · intro h
    obtain ⟨text,htext,htransition⟩ := bind_eq_some_iff.1 h
    rw [text_of_isEmergencyControlTransition htransition]
    cases cell with
    | text held => cases htext; rfl
    | _ => cases htext
  · rintro rfl
    simp [transitionOf,SqlValue.text?]

theorem scopeValueOf_eq_some {value : Option String} : scopeValueOf scope cell = some value ↔
      cell = textCell value ∧ valueStated scope value = true := by
  unfold scopeValueOf valueStated
  by_cases hglobal : scope = .global
  · simp only [if_pos hglobal,isNone_iff_eq_none]
    split_ifs with hcell
    · subst hcell
      cases value <;> simp [textCell]
    · simp only [false_iff]
      rintro ⟨rfl,rfl⟩
      exact hcell rfl
  · simp only [if_neg hglobal,map_eq_some_iff,SqlValue.nonEmptyText?_eq_some]
    constructor
    · rintro ⟨text,⟨rfl,hne⟩,rfl⟩
      exact ⟨rfl,by simpa using hne⟩
    · rintro ⟨rfl,hstated⟩
      cases value with
      | none => cases hstated
      | some text => exact ⟨text,⟨rfl,by simpa using hstated⟩,rfl⟩

theorem activeOf_eq_some {active : Bool} :
    activeOf cell = some active ↔ cell = .integer (if active then 1 else 0) := by
  unfold activeOf
  split <;> cases active <;> simp_all

structure EmergencyControlEventRecord.WellFormed (event : EmergencyControlEventRecord) : Prop where
  positive : 1 ≤ event.sequence
  valueStated : valueStated event.scope event.value = true
  keyed : event.controlKey = emergencyControlKey event.scope event.value
  issued : event.issuerRef ≠ ""
  recorded : event.recordedAt ≠ ""
  linked : event.previousEventDigest ≠ ""

theorem parseStoredEvent_eq_some {row : EventRow} {event : EmergencyControlEventRecord} :
    parseStoredEvent P row = some event ↔
      row = eventRow P event ∧ event.WellFormed ∧ isSafeInteger event.sequence = true := by
  simp only [parseStoredEvent,bind_eq_bind,bind_eq_some_iff,guard_eq_some',
    scopeOf_eq_some,transitionOf_eq_some,SqlValue.nonEmptyText?_eq_some,
    scopeValueOf_eq_some,pure_def,some.injEq,exists_const]
  constructor
  · rintro ⟨hversion,⟨hsafe,hpositive⟩,scope,hscope,transition,htransition,issuer,
      ⟨hissuer,hissued⟩,recordedAt,⟨hat,hrecorded⟩,previous,⟨hprevious,hlinked⟩,value,
      ⟨hvalue,hstated⟩,hkey,hdigest,rfl⟩
    refine ⟨?_,⟨hpositive,hstated,rfl,hissued,hrecorded,hlinked⟩,hsafe⟩
    obtain ⟨_,_,_,_,_,_,_,_,_,_⟩ := row
    simp only at hversion hscope htransition hissuer hat hprevious hvalue hkey hdigest
    subst hversion hscope htransition hissuer hat hprevious hvalue hkey
    rw [eventRow,hdigest]
  · rintro ⟨rfl,hwell,hsafe⟩
    obtain ⟨sequence,key,scope,value,transition,issuer,recordedAt,previous⟩ := event
    have hkeyed : key = emergencyControlKey scope value := hwell.keyed
    subst hkeyed
    exact ⟨rfl,⟨hsafe,hwell.positive⟩,scope,rfl,transition,rfl,issuer,
      ⟨rfl,hwell.issued⟩,recordedAt,⟨rfl,hwell.recorded⟩,previous,⟨rfl,hwell.linked⟩,value,
      ⟨rfl,hwell.valueStated⟩,rfl,rfl,rfl⟩

structure StoredEmergencyControl.WellFormed (control : StoredEmergencyControl) : Prop where
  positive : 1 ≤ control.eventSequence
  valueStated : valueStated control.scope control.value = true
  keyed : control.controlKey = emergencyControlKey control.scope control.value
  issued : control.issuerRef ≠ ""
  declared : control.declaredAt ≠ ""
  linked : control.eventDigest ≠ ""

theorem parseStoredControl_eq_some {control : StoredEmergencyControl} :
    parseStoredControl P row = some control ↔ row = controlRow P control ∧ control.WellFormed ∧
        isSafeInteger control.eventSequence = true := by
  simp only [parseStoredControl,bind_eq_bind,bind_eq_some_iff,guard_eq_some',
    scopeOf_eq_some,activeOf_eq_some,SqlValue.nonEmptyText?_eq_some,
    SqlValue.safeInteger?_eq_some,scopeValueOf_eq_some,pure_def,some.injEq,exists_const]
  constructor
  · rintro ⟨hversion,scope,hscope,active,hactive,issuer,⟨hissuer,hissued⟩,declaredAt,
      ⟨hat,hdeclared⟩,sequence,⟨hsequence,hsafe,hpositive⟩,digest,⟨hdigest,hlinked⟩,value,
      ⟨hvalue,hstated⟩,hkey,hrecord,rfl⟩
    refine ⟨?_,⟨hpositive,hstated,rfl,hissued,hdeclared,hlinked⟩,hsafe⟩
    obtain ⟨_,_,_,_,_,_,_,_,_,_⟩ := row
    simp only at hversion hscope hactive hissuer hat hsequence hdigest hvalue hkey hrecord
    subst hversion hscope hactive hissuer hat hsequence hdigest hvalue hkey
    rw [controlRow,hrecord]
  · rintro ⟨rfl,hwell,hsafe⟩
    obtain ⟨key,scope,value,active,issuer,declaredAt,sequence,digest⟩ := control
    have hkeyed : key = emergencyControlKey scope value := hwell.keyed
    subst hkeyed
    exact ⟨rfl,scope,rfl,active,rfl,issuer,⟨rfl,hwell.issued⟩,declaredAt,
      ⟨rfl,hwell.declared⟩,sequence,⟨rfl,hsafe,hwell.positive⟩,digest,⟨rfl,hwell.linked⟩,
      value,⟨rfl,hwell.valueStated⟩,rfl,rfl,rfl⟩

theorem parseStoredHead_eq_some {row : HeadRow} : parseStoredHead P row = some head ↔
      row = headRow P head ∧ isSafeInteger head.eventSequence = true ∧ 0 ≤ head.eventSequence ∧
        isSafeInteger head.eventCount = true ∧ 0 ≤ head.eventCount ∧ head.eventDigest ≠ "" ∧
        head.updatedAt ≠ "" := by
  simp only [parseStoredHead,bind_eq_bind,bind_eq_some_iff,guard_eq_some',
    SqlValue.nonEmptyText?_eq_some,SqlValue.safeInteger?_eq_some,pure_def, some.injEq,exists_const]
  constructor
  · rintro ⟨hversion,sequence,⟨hsequence,hsafe,hleast⟩,count,⟨hcount,hsafe',hleast'⟩,
      digest,⟨hdigest,hlinked⟩,updatedAt,⟨hat,hupdated⟩,hrecord,rfl⟩
    refine ⟨?_,hsafe,hleast,hsafe',hleast',hlinked,hupdated⟩
    obtain ⟨_,_,_,_,_,_⟩ := row
    simp only at hversion hsequence hcount hdigest hat hrecord
    subst hversion hsequence hcount hdigest hat
    rw [headRow,hrecord]
  · rintro ⟨rfl,hsafe,hleast,hsafe',hleast',hlinked,hupdated⟩
    obtain ⟨sequence,count,digest,updatedAt⟩ := head
    exact ⟨rfl,sequence,⟨rfl,hsafe,hleast⟩,count,⟨rfl,hsafe',hleast'⟩,digest,
      ⟨rfl,hlinked⟩,updatedAt,⟨rfl,hupdated⟩,rfl,rfl⟩

theorem Tables.verifiedHead_cases (h : tables.verifiedHead P = some head) :
    (∃ row, tables.head = some row ∧ parseStoredHead P row = some head) ∧
      ∃ last, walk P tables.selectAllEvents (.text (emergencyControlGenesisDigest P)) 0 =
        some (last, head.eventCount) := by
  unfold verifiedHead at h
  cases hparse : tables.head.bind (parseStoredHead P) with
  | none => simp [hparse] at h
  | some parsed =>
    cases hwalk : walk P tables.selectAllEvents (.text (emergencyControlGenesisDigest P)) 0 with
    | none => simp [hparse,hwalk] at h
    | some found =>
      obtain ⟨last,verified⟩ := found
      simp only [hparse,hwalk] at h
      split_ifs at h with hcount hsequence
      cases h
      rw [ne_eq,not_not] at hcount
      exact ⟨bind_eq_some_iff.1 hparse,last,by rw [hcount]⟩

theorem Tables.walk_some {rows : List EventRow} {expectedPrevious last : SqlValue}
    {verified count : Int} (h : walk P rows expectedPrevious verified = some (last, count)) :
    (∀ row ∈ rows, ∃ event, parseStoredEvent P row = some event) ∧
      ∀ sequence, verified < sequence → sequence ≤ count → ∃ row ∈ rows, row.sequence = sequence := by
  induction rows generalizing expectedPrevious verified with
  | nil =>
    rw [walk,some.injEq,Prod.mk.injEq] at h
    refine ⟨by simp,?_⟩
    intro sequence hlow hhigh
    omega
  | cons row rows ih =>
    rw [walk] at h
    split_ifs at h with hsequence
    rw [not_not] at hsequence
    cases hparse : parseStoredEvent P row with
    | none => simp [hparse] at h
    | some event =>
      simp only [hparse] at h
      split_ifs at h with hlink
      obtain ⟨hparsed,hmet⟩ := ih h
      refine ⟨?_,?_⟩
      · intro other hother
        rcases List.mem_cons.1 hother with rfl | hother
        · exact ⟨event,hparse⟩
        · exact hparsed other hother
      · intro sequence hlow hhigh
        by_cases hnext : sequence = verified + 1
        · exact ⟨row,by simp,by rw [hsequence,hnext]⟩
        · obtain ⟨other,hother,heq⟩ := hmet sequence (by omega) hhigh
          exact ⟨other,by simp [hother],heq⟩

theorem headRow_inj {a b : EmergencyControlHeadRecord} (h : headRow P a = headRow P b) : a = b := by
  obtain ⟨aSequence,aCount,aDigest,aAt⟩ := a
  obtain ⟨bSequence,bCount,bDigest,bAt⟩ := b
  simp only [headRow,HeadRow.mk.injEq,SqlValue.integer.injEq,SqlValue.text.injEq] at h
  obtain ⟨rfl,rfl,rfl,-,rfl,-⟩ := h
  rfl

theorem Tables.mem_upsertControl {other : ControlRow} : other ∈ (tables.upsertControl row).controls ↔
      other = row ∨ other ∈ tables.controls ∧ other.controlKey ≠ row.controlKey := by
  unfold upsertControl
  split_ifs with hheld
  · obtain ⟨held,hselected⟩ := isSome_iff_exists.1 hheld
    unfold selectControl at hselected
    have hmem := List.mem_of_find?_eq_some hselected
    have hkey := List.find?_some hselected
    rw [decide_eq_true_eq] at hkey
    rw [List.mem_map]
    constructor
    · rintro ⟨r,hr,rfl⟩
      split_ifs with hsame
      · exact .inl rfl
      · exact .inr ⟨hr,hsame⟩
    · rintro (rfl | ⟨hother,hdiffers⟩)
      · exact ⟨held,hmem,if_pos hkey⟩
      · exact ⟨other,hother,if_neg hdiffers⟩
  · rw [not_isSome_iff_eq_none,selectControl,List.find?_eq_none] at hheld
    rw [List.mem_append,List.mem_singleton]
    constructor
    · rintro (hother | rfl)
      · exact .inr ⟨hother,by simpa using hheld other hother⟩
      · exact .inl rfl
    · rintro (rfl | ⟨hother,-⟩)
      · exact .inr rfl
      · exact .inl hother

end Frontera.EmergencyControl
