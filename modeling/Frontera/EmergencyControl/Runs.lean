import Frontera.Data.Throwing
import Frontera.EmergencyControl.Damage

/-! Over any calls the file holds a recorded history, and the process-local store that received the
same calls holds the controls that history leaves active. -/

namespace Frontera.EmergencyControl

open Frontera.Execution Frontera.Data List

variable {P : Platform} {openedAt : String} {events : List EmergencyControlEventRecord}

/-- An open store whose file holds a history. -/
structure StoreRecorded (P : Platform) (openedAt : String)
    (events : List EmergencyControlEventRecord) (store : Store) : Prop where
  isOpen : store.closed = false
  versions : store.file.versions = some [⟨emergencyControlStoreSchemaVersion,"current"⟩]
  tables : ∃ tables, store.tables? = some tables ∧ Recorded P openedAt events tables

theorem created_recorded (P : Platform) (openedAt : String) :
    StoreRecorded P openedAt [] (Store.created P openedAt) where
  isOpen := rfl
  versions := rfl
  tables := by
    refine ⟨⟨[],[],some (headRow P ⟨0,0,emergencyControlGenesisDigest P,openedAt⟩)⟩,rfl,?_⟩
    constructor
    · rfl
    · trivial
    · simp
    · rfl
    · intro row
      simp [latest]

variable {store : Store} {file : Database} {store' : Store}

theorem tables?_some {tables : Tables} (h : store.tables? = some tables) :
    store.file.events = some tables.events ∧ store.file.controls = some tables.controls ∧
      store.file.head = some tables.head := by
  unfold Store.tables? at h
  cases hevents : store.file.events with
  | none => simp [hevents] at h
  | some events =>
    cases hcontrols : store.file.controls with
    | none => simp [hevents,hcontrols] at h
    | some controls =>
      cases hhead : store.file.head with
      | none => simp [hevents,hcontrols,hhead] at h
      | some head =>
        simp only [hevents,hcontrols,hhead,Option.some.injEq] at h
        subst h
        exact ⟨rfl,rfl,rfl⟩

theorem createSchema_of_tables? {tables : Tables} (htables : store.tables? = some tables)
    {rows : List VersionRow} (hversions : store.file.versions = some rows) :
    store.file.createSchema = store.file := by
  obtain ⟨hevents,hcontrols,hhead⟩ := tables?_some htables
  obtain ⟨⟨versions,events,controls,head⟩,closed⟩ := store
  cases hversions
  cases hevents
  cases hcontrols
  cases hhead
  rfl

theorem classifyInitialization_current
    (hversions : file.versions = some [⟨emergencyControlStoreSchemaVersion,"current"⟩]) :
    classifyInitialization file = .ok .initialized := by
  have hname : emergencyControlStoreSchemaVersion ≠ "" := by decide
  simp [classifyInitialization,hversions,hname]

theorem reopen_current
    (hversions : store.file.versions = some [⟨emergencyControlStoreSchemaVersion,"current"⟩])
    (now : String) : store.reopen P now = .ok ⟨store.file.createSchema,false⟩ := by
  have hclassified : classifyInitialization store.close.file = .ok .initialized :=
    classifyInitialization_current hversions
  rw [Store.reopen,createSqliteEmergencyControlStore,hclassified]
  rfl

theorem StoreRecorded.reopen (h : StoreRecorded P openedAt events store) (now : String) :
    store.reopen P now = .ok store := by
  obtain ⟨tables,htables,-⟩ := h.tables
  rw [reopen_current h.versions,createSchema_of_tables? htables h.versions,← h.isOpen]

theorem StoreRecorded.withTables (h : StoreRecorded P openedAt events store)
    {events' : List EmergencyControlEventRecord} {tables : Tables}
    (htables : Recorded P openedAt events' tables) :
    StoreRecorded P openedAt events' (store.withTables tables) :=
  ⟨h.isOpen,h.versions,tables,rfl,htables⟩

theorem StoreRecorded.transition (h : StoreRecorded P openedAt events store)
    {transition : EmergencyControlTransition} {declaration : EmergencyControlDeclaration}
    (hok : store.transition P transition declaration = .ok store') :
    ∃ events', StoreRecorded P openedAt events' store' := by
  obtain ⟨tables,htables,hrecorded⟩ := h.tables
  unfold Store.transition at hok
  rw [h.isOpen] at hok
  cases hscope : isWellFormedEmergencyControlDeclaration declaration with
  | none => simp [hscope] at hok
  | some scope =>
    obtain ⟨hvalue,hissuer,hinstant⟩ := isWellFormedEmergencyControlDeclaration_some hscope
    simp only [hscope,htables,Bool.false_eq_true,if_false,map_eq_ok] at hok
    obtain ⟨tables',happended,rfl⟩ := hok
    obtain ⟨events',hafter⟩ := hrecorded.appendTransition hvalue hissuer hinstant happended
    exact ⟨events',h.withTables hafter⟩

theorem StoreRecorded.next (h : StoreRecorded P openedAt events store) (call : Call) :
    ∃ events', StoreRecorded P openedAt events' (store.next P call) := by
  unfold Store.next
  cases happlied : store.apply P call with
  | error error => exact ⟨events,h⟩
  | ok store' =>
    cases call with
    | activate declaration => exact h.transition happlied
    | release release => exact h.transition happlied
    | reopen now =>
      rw [Store.apply,h.reopen] at happlied
      cases happlied
      exact ⟨events,h⟩

theorem run_recorded (P : Platform) (openedAt : String) (calls : List Call) :
    ∃ events, StoreRecorded P openedAt events ((Store.created P openedAt).run P calls) := by
  induction calls using List.reverseRecOn with
  | nil => exact ⟨[],created_recorded P openedAt⟩
  | append_singleton calls call ih =>
    obtain ⟨events,hrecorded⟩ := ih
    rw [Store.run,foldl_append,foldl_cons,foldl_nil]
    exact hrecorded.next call

theorem Damaged.tables (hdamaged : Damaged store.file store'.file) {tables tables' : Tables}
    (htables : store.tables? = some tables) (htables' : store'.tables? = some tables') :
    DamagedTables tables tables' := by
  obtain ⟨hevents,hcontrols,hhead⟩ := tables?_some htables
  obtain ⟨hevents',hcontrols',hhead'⟩ := tables?_some htables'
  refine ⟨?_,?_,?_⟩
  · intro row' hrow
    have hrows := hdamaged.events _ hevents'
    rw [hevents,Option.getD_some] at hrows
    exact hrows.mem hrow
  · intro row' hrow
    have hrows := hdamaged.controls _ hcontrols'
    rw [hcontrols,Option.getD_some] at hrows
    exact hrows.mem hrow
  · intro row' hrow
    obtain ⟨row,hwritten,hedited⟩ := hdamaged.head row' (by rw [hhead',← hrow])
    rw [hhead,Option.some.injEq] at hwritten
    exact ⟨row,hwritten,hedited⟩

theorem StoreRecorded.read_damaged (hsha : Function.Injective P.sha256)
    (h : StoreRecorded P openedAt events store) (hdamaged : Damaged store.file store'.file)
    (query : EmergencyControlQuery) :
    store'.read P query = .unavailable ∨ store'.read P query = store.read P query := by
  obtain ⟨tables,htables,hrecorded⟩ := h.tables
  unfold Store.read
  simp only [h.isOpen,htables,Bool.false_eq_true,if_false]
  by_cases hclosed : store'.closed = true
  · exact .inl (if_pos hclosed)
  · rw [if_neg hclosed]
    by_cases hquery : (!isWellFormedEmergencyControlQuery query) = true
    · exact .inl (if_pos hquery)
    · rw [if_neg hquery,if_neg hquery]
      cases htables' : store'.tables? with
      | none => exact .inl rfl
      | some tables' =>
        exact runRead_damaged hsha hrecorded (hdamaged.tables htables htables') query

theorem Damaged.reopened
    (hversions : file.versions = some [⟨emergencyControlStoreSchemaVersion,"current"⟩])
    (h : Damaged file store.file) (openings : List String) :
    Damaged file (store.run P (openings.map .reopen)).file := by
  induction openings using List.reverseRecOn with
  | nil => exact h
  | append_singleton openings now ih =>
    rw [Store.run,map_append,foldl_append,map_singleton,foldl_cons,foldl_nil]
    have hcurrent := ih.versions.trans hversions
    rw [Store.run] at ih hcurrent
    rw [Store.next,Store.apply,reopen_current hcurrent]
    exact ih.createSchema (by rw [hversions]; rfl)

end Frontera.EmergencyControl
