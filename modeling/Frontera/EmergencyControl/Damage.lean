import Frontera.EmergencyControl.History

/-! Rows of the three tables are deleted or edited without recomputing their digest, and tables are
dropped. Whatever still verifies is what was written, so a damaged store answers a query as before
or not at all. -/

namespace Frontera.EmergencyControl

open Frontera.Execution List

/-- Any set of rows is deleted, and the others are edited as `kept` allows. -/
def DamagedRows {α : Type} (kept : α → α → Prop) (rows rows' : List α) : Prop :=
  ∃ survivors, survivors.Sublist rows ∧ List.Forall₂ kept survivors rows'

theorem DamagedRows.mem {α : Type} {kept : α → α → Prop} {rows rows' : List α}
    (h : DamagedRows kept rows rows') {row' : α} (hmem : row' ∈ rows') :
    ∃ row ∈ rows, kept row row' := by
  obtain ⟨survivors,hsublist,hkept⟩ := h
  obtain ⟨row,hrow,hedit⟩ : ∃ row ∈ survivors, kept row row' := by
    clear hsublist
    induction hkept with
    | nil => cases hmem
    | cons hedit hrest ih =>
      rcases mem_cons.1 hmem with rfl | hmem
      · exact ⟨_,by simp,hedit⟩
      · obtain ⟨row,hrow,hkept⟩ := ih hmem
        exact ⟨row,by simp [hrow],hkept⟩
  exact ⟨row,hsublist.subset hrow,hedit⟩

/-- Every column but the row's own digest may differ. -/
def EventRow.Edited (row row' : EventRow) : Prop := row'.eventDigest = row.eventDigest

def ControlRow.Edited (row row' : ControlRow) : Prop := row'.recordDigest = row.recordDigest

def HeadRow.Edited (row row' : HeadRow) : Prop := row'.headDigest = row.headDigest

/-- A file that has lost tables or rows, or whose rows have been edited. -/
structure Damaged (file file' : Database) : Prop where
  versions : file'.versions = file.versions
  events : ∀ rows', file'.events = some rows' → DamagedRows EventRow.Edited (file.events.getD []) rows'
  controls : ∀ rows', file'.controls = some rows' →
    DamagedRows ControlRow.Edited (file.controls.getD []) rows'
  head : ∀ row', file'.head = some (some row') → ∃ row, file.head = some (some row) ∧ row.Edited row'

theorem Damaged.createSchema {file file' : Database} (h : Damaged file file')
    (hversions : file.versions.isSome = true) : Damaged file file'.createSchema := by
  have hnone : ∀ {α : Type} (kept : α → α → Prop) (rows : List α), DamagedRows kept rows [] :=
    fun _ rows => ⟨[],nil_sublist rows,List.Forall₂.nil⟩
  constructor
  · rw [← h.versions] at hversions ⊢
    obtain ⟨rows,hrows⟩ := Option.isSome_iff_exists.1 hversions
    simp [Database.createSchema,hrows]
  · intro rows' hrows
    simp only [Database.createSchema,Option.some.injEq] at hrows
    subst hrows
    cases hevents : file'.events with
    | none => exact hnone _ _
    | some rows => exact h.events rows hevents
  · intro rows' hrows
    simp only [Database.createSchema,Option.some.injEq] at hrows
    subst hrows
    cases hcontrols : file'.controls with
    | none => exact hnone _ _
    | some rows => exact h.controls rows hcontrols
  · intro row' hrow
    simp only [Database.createSchema,Option.some.injEq] at hrow
    cases hhead : file'.head with
    | none => simp [hhead] at hrow
    | some row =>
      apply h.head
      rw [hhead,← hrow,hhead,Option.getD_some]

variable {P : Platform} {openedAt : String} {events : List EmergencyControlEventRecord}
  {tables tables' : Tables}

/-- The damage as the tables see it. -/
structure DamagedTables (tables tables' : Tables) : Prop where
  events : ∀ row' ∈ tables'.events, ∃ row ∈ tables.events, row.Edited row'
  controls : ∀ row' ∈ tables'.controls, ∃ row ∈ tables.controls, row.Edited row'
  head : ∀ row', tables'.head = some row' → ∃ row, tables.head = some row ∧ row.Edited row'

section Verified

variable (hsha : Function.Injective P.sha256) (h : Recorded P openedAt events tables)
  (hdamaged : DamagedTables tables tables')
include hsha h hdamaged

theorem eventRow_of_parsed {row' : EventRow} (hrow : row' ∈ tables'.events)
    {event' : EmergencyControlEventRecord} (hparse : parseStoredEvent P row' = some event') :
    event' ∈ events ∧ row' = eventRow P event' := by
  obtain ⟨row,hwritten,hedited⟩ := hdamaged.events row' hrow
  rw [h.events_eq] at hwritten
  obtain ⟨event,hmem,rfl⟩ := mem_map.1 hwritten
  have hcolumns := (parseStoredEvent_eq_some.1 hparse).1
  rw [hcolumns] at hedited
  have hevent := emergencyControlEventDigest_inj hsha (SqlValue.text.inj hedited)
  rw [hevent] at hcolumns ⊢
  exact ⟨hmem,hcolumns⟩

theorem control_of_parsed {row' : ControlRow} (hrow : row' ∈ tables'.controls)
    {control : StoredEmergencyControl} (hparse : parseStoredControl P row' = some control) :
    row'.controlKey = .text control.controlKey ∧
      stateOf P events control.controlKey = .declared control := by
  obtain ⟨row,hwritten,hedited⟩ := hdamaged.controls row' hrow
  obtain ⟨event,hlatest,rfl⟩ := (h.controls row).1 hwritten
  have hcolumns := (parseStoredControl_eq_some.1 hparse).1
  rw [hcolumns] at hedited ⊢
  have hcontrol := storedEmergencyControlDigest_inj hsha (SqlValue.text.inj hedited)
  refine ⟨rfl,?_⟩
  have hkey : control.controlKey = event.controlKey := by
    rw [hcontrol]
    rfl
  rw [stateOf,hkey,hlatest,hcontrol]

variable {head : EmergencyControlHeadRecord}

section

variable (hhead : tables'.verifiedHead P = some head)
include hhead

theorem head_of_parsed : head = headOf P openedAt events := by
  obtain ⟨⟨row',hrow,hparse⟩,-⟩ := Tables.verifiedHead_cases hhead
  obtain ⟨row,hwritten,hedited⟩ := hdamaged.head row' hrow
  rw [h.head_eq,Option.some.injEq] at hwritten
  rw [(parseStoredHead_eq_some.1 hparse).1,← hwritten] at hedited
  exact emergencyControlHeadDigest_inj hsha (SqlValue.text.inj hedited)

theorem event_survives {event : EmergencyControlEventRecord} (hmem : event ∈ events) :
    eventRow P event ∈ tables'.events := by
  obtain ⟨-,last,hwalk⟩ := Tables.verifiedHead_cases hhead
  rw [head_of_parsed hsha h hdamaged hhead] at hwalk
  obtain ⟨hparsed,hmet⟩ := Tables.walk_some hwalk
  have hbounds := h.chained.sequence_mem hmem
  have hcount : (headOf P openedAt events).eventCount = events.length := rfl
  obtain ⟨row',hrow,hsequence⟩ := hmet event.sequence hbounds.1 (by omega)
  obtain ⟨event',hparse⟩ := hparsed row' hrow
  have hstored : row' ∈ tables'.events := (mem_insertionSort _).1 hrow
  obtain ⟨hmem',rfl⟩ := eventRow_of_parsed hsha h hdamaged hstored hparse
  rw [← h.chained.eq_of_sequence hmem' hmem hsequence]
  exact hstored

theorem verifiedControl_damaged (key : String) : tables'.verifiedControl P (.text key) = none ∨
      tables'.verifiedControl P (.text key) = some (stateOf P events key) := by
  unfold Tables.verifiedControl
  cases hselected : tables'.selectControl (.text key) with
  | none =>
    by_cases hcount : (tables'.keyEvents (.text key)).length = 0
    · right
      rw [if_pos hcount]
      have hnone : latest events key = none := by
        rw [latest_eq_none]
        intro event hmem hkey
        rw [length_eq_zero_iff,eq_nil_iff_forall_not_mem] at hcount
        apply hcount (eventRow P event)
        have hsurvives := event_survives hsha h hdamaged hhead hmem
        rw [Tables.keyEvents,mem_filter]
        exact ⟨hsurvives,decide_eq_true (by rw [← hkey]; rfl)⟩
      rw [stateOf,hnone]
    · left
      rw [if_neg hcount]
  | some row' =>
    cases hparse : parseStoredControl P row' with
    | none =>
      left
      simp only [hparse]
    | some control =>
      unfold Tables.selectControl at hselected
      have hkey := List.find?_some hselected
      rw [decide_eq_true_eq] at hkey
      obtain ⟨hnamed,hstate⟩ :=
        control_of_parsed hsha h hdamaged (mem_of_find?_eq_some hselected) hparse
      rw [hkey,SqlValue.text.injEq] at hnamed
      rw [hnamed,hstate]
      simp only [hparse]
      split_ifs
      · exact .inl rfl
      · exact .inl rfl
      · split
        · exact .inl rfl
        · split
          · exact .inl rfl
          · split_ifs
            · exact .inl rfl
            · exact .inl rfl
            · exact .inl rfl
            · exact .inr rfl

end

theorem runRead_damaged (query : EmergencyControlQuery) : tables'.runRead P query = .unavailable ∨
      tables'.runRead P query = tables.runRead P query := by
  cases hhead : tables'.verifiedHead P with
  | none =>
    left
    simp [Tables.runRead,hhead]
  | some head =>
    obtain ⟨⟨row',hrow,hparse⟩,-⟩ := Tables.verifiedHead_cases hhead
    have hheadOf := head_of_parsed hsha h hdamaged hhead
    subst hheadOf
    obtain ⟨-,hsafe,-,-,-,-,hinstant⟩ := parseStoredHead_eq_some.1 hparse
    have hverified := h.verifiedHead_eq hsafe hinstant
    have hmatched : ∀ applicable, tables'.matchedScopes P applicable = none ∨
        tables'.matchedScopes P applicable = tables.matchedScopes P applicable := by
      intro applicable
      induction applicable with
      | nil => exact .inr rfl
      | cons first rest ih =>
        have horiginal := h.verifiedControl_eq hsafe (matchKey first)
        rw [Tables.matchedScopes,Tables.matchedScopes,horiginal]
        rcases verifiedControl_damaged hsha h hdamaged hhead (matchKey first) with hnone | hsame
        · left
          rw [hnone]
        · rw [hsame]
          cases stateOf P events (matchKey first) with
          | neverDeclared => exact ih
          | declared control =>
            rcases ih with hrest | hrest
            · left
              simp [hrest]
            · right
              simp [hrest]
    unfold Tables.runRead
    rw [hhead,hverified]
    rcases hmatched (applicableEmergencyControlScopes query) with hnone | hsame
    · left
      rw [hnone]
    · right
      rw [hsame]

end Verified

end Frontera.EmergencyControl
