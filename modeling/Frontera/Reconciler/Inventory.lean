import Mathlib.Data.List.Sort
import Mathlib.Logic.Function.Basic
import Frontera.Data.Runs
import Frontera.Data.Throwing
import Frontera.Text.CodeUnitOrder
import Frontera.Text.Rendering

/-! A snapshot of the host's histories is checked as plain data, held against the highest generation
seen, and held against the files that namespaces were first seen at. A snapshot in which one
namespace moved is used for the others, and its generation is not remembered. -/

namespace Frontera.Reconciler

open Frontera.Data Frontera.Text List

/-- `BOOTSTRAP_EVIDENCE_INVENTORY_MAX_HISTORIES` -/
def maxHistories : Nat := 256

/-- A value that should be a text; any other is known by its identity. -/
inductive Plain where
  | text (value : String)
  | other (identity : Nat)
deriving DecidableEq

/-- The namespace and file that a genuine store handle was opened for. -/
structure StoreProvenance where
  (namespaceId file : String)
deriving DecidableEq

structure HistoryEntry where
  /-- `PROVENANCE.get(store)` -/
  store : Option StoreProvenance
  (namespaceId databasePath : Plain)

structure SnapshotValue where
  /-- `Object.keys` -/
  keys : List String
  /-- The generation, when it is a number and a safe integer. -/
  generation : Option Int
  /-- The histories, when they are an array; `none` inside it is no object. -/
  histories : Option (List (Option HistoryEntry))

inductive Provided where
  | raised | absent | notObject
  /-- Reading it raises. -/
  | unreadable
  | object (value : SnapshotValue)

/-- What the host's provider answers, and `path.resolve` at that time. -/
structure Answer where
  provided : Provided
  resolve : String → String

inductive InventoryFailure where
  | notLoaded | unavailable | invalid | untrustedHistory | duplicateNamespace | duplicateDatabase
  | stale | generationReused
deriving DecidableEq

structure AdmittedInventory where
  generation : Int
  fingerprint : String
  byNamespace : List (String × StoreProvenance)
  /-- The file of each namespace, in the order of namespaces. -/
  files : List (String × String)
  moved : List String
deriving DecidableEq

def trustedBootstrapEvidenceSource (resolve : String → String) (entry : HistoryEntry) :
    Option StoreProvenance :=
  match entry.store, entry.namespaceId, entry.databasePath with
  | some provenance, .text name, .text path =>
      if name ≠ provenance.namespaceId then none
      else if trim path = "" ∨ resolve path ≠ provenance.file then none
      else some provenance
  | _, _, _ => none

/-- What the loop over the histories has collected. -/
structure Admission where
  byNamespace : List (String × StoreProvenance)
  named : List (String × String)

def admitEntry (resolve : String → String) (admission : Admission) (entry : HistoryEntry) :
    Except InventoryFailure Admission :=
  match trustedBootstrapEvidenceSource resolve entry, entry.namespaceId, entry.databasePath with
  | some source, .text name, .text path =>
      if resolve path ∈ admission.named.map Prod.snd then .error .duplicateDatabase
      else .ok ⟨admission.byNamespace ++ [(name, source)],admission.named ++ [(name, resolve path)]⟩
  | _, _, _ => .error .untrustedHistory

def admitEntries (resolve : String → String) :
    Admission → List HistoryEntry → Except InventoryFailure Admission
  | admission, [] => .ok admission
  | admission, entry :: rest => do admitEntries resolve (← admitEntry resolve admission entry) rest

/-- `JSON.stringify(named)` -/
def fingerprintOf (named : List (String × String)) : String :=
  Json.stringify (.arr (named.map fun entry => .arr [.str entry.1, .str entry.2]))

def sortNamed (named : List (String × String)) : List (String × String) :=
  named.insertionSort fun a b => stringLt b.1 a.1 = false

def admitInventory (resolve : String → String) (value : SnapshotValue) :
    Except InventoryFailure AdmittedInventory :=
  if value.keys.length ≠ 2 ∨ "generation" ∉ value.keys ∨ "histories" ∉ value.keys then
    .error .invalid
  else
    match value.generation, value.histories with
    | some generation, some histories =>
        if generation < 0 then .error .invalid
        else if histories.length = 0 ∨ histories.length > maxHistories then .error .invalid
        else
          match histories.mapM id with
          | none => .error .invalid
          | some entries =>
              if ¬ (entries.map (·.namespaceId)).Nodup then .error .duplicateNamespace
              else do
                let admission ← admitEntries resolve ⟨[],[]⟩ entries
                let named := sortNamed admission.named
                .ok ⟨generation,fingerprintOf named,admission.byNamespace,named,[]⟩
    | _, _ => .error .invalid

structure InventoryState where
  /-- The highest inventory generation seen, and what it named. -/
  highGeneration : Int
  highFingerprint : String
  /-- The file each namespace was first seen at. -/
  pinnedFiles : String → Option String

def InventoryState.initial : InventoryState := ⟨-1,"",fun _ => none⟩

/-- One namespace of a snapshot, pinned or found moved. -/
def pinFile (state : (String → Option String) × List String) (entry : String × String) :
    (String → Option String) × List String :=
  match state.1 entry.1 with
  | none => (Function.update state.1 entry.1 (some entry.2), state.2)
  | some pinned => if pinned ≠ entry.2 then (state.1, state.2 ++ [entry.1]) else state

/-- The snapshot before it is held against what was seen. -/
def read (answer : Answer) : Except InventoryFailure AdmittedInventory :=
  match answer.provided with
  | .raised => .error .unavailable
  | .absent => .error .notLoaded
  | .notObject => .error .invalid
  | .unreadable => .error .invalid
  | .object value => admitInventory answer.resolve value

def snapshot (state : InventoryState) (answer : Answer) :
    InventoryState × Except InventoryFailure AdmittedInventory :=
  match read answer with
  | .error failure => (state, .error failure)
  | .ok admitted =>
      if admitted.generation < state.highGeneration then (state, .error .stale)
      else if admitted.generation = state.highGeneration ∧
          admitted.fingerprint ≠ state.highFingerprint then (state, .error .generationReused)
      else
        let (pinnedFiles, moved) := admitted.files.foldl pinFile (state.pinnedFiles, [])
        if moved ≠ [] then
          ({ state with pinnedFiles := pinnedFiles }, .ok { admitted with moved := moved })
        else (⟨admitted.generation,admitted.fingerprint,pinnedFiles⟩, .ok admitted)

inductive EvidenceUnavailable where
  | historyMoved | historyNotInInventory
deriving DecidableEq

/-- The store that the evidence of a decision, or its absence, is read from. -/
def evidenceFor (inventory : AdmittedInventory) (namespaceId : String) :
    Except EvidenceUnavailable StoreProvenance :=
  if namespaceId ∈ inventory.moved then .error .historyMoved
  else
    match inventory.byNamespace.lookup namespaceId with
    | none => .error .historyNotInInventory
    | some own => .ok own

/-- The snapshots that are not refused. -/
def accepted : InventoryState → List Answer → List AdmittedInventory
  | _, [] => []
  | state, answer :: rest =>
      match snapshot state answer with
      | (next, .error _) => accepted next rest
      | (next, .ok inventory) => inventory :: accepted next rest

/-- Some decision is settled by the snapshot. -/
def AdmittedInventory.Settles (inventory : AdmittedInventory) : Prop :=
  ∃ namespaceId source, evidenceFor inventory namespaceId = .ok source

/-- What an admitted snapshot is. -/
structure AdmittedInventory.Sound (inventory : AdmittedInventory) : Prop where
  nodup : (inventory.files.map Prod.fst).Nodup
  fingerprint : inventory.fingerprint = fingerprintOf inventory.files
  moved : inventory.moved = []
  source : ∀ namespaceId source, inventory.byNamespace.lookup namespaceId = some source →
    (namespaceId, source.file) ∈ inventory.files

theorem fingerprintOf_injective : Function.Injective fingerprintOf := by
  intro a b h
  have harrays := Json.stringify_injective h
  rw [Json.arr.injEq] at harrays
  refine map_injective_iff.2 ?_ harrays
  rintro ⟨name,file⟩ ⟨name',file'⟩ heq
  simpa using heq

theorem mem_of_lookup {α : Type} {table : List (String × α)} {key : String} {value : α}
    (h : table.lookup key = some value) : (key, value) ∈ table := by
  induction table with
  | nil => cases h
  | cons entry rest ih =>
    rw [lookup_cons] at h
    by_cases hkey : key = entry.1
    · subst hkey
      simp only [beq_self_eq_true,Option.some_inj] at h
      exact h ▸ mem_cons_self
    · rw [beq_eq_false_iff_ne.2 hkey] at h
      exact mem_cons_of_mem _ (ih h)

variable {resolve : String → String} {source : StoreProvenance} {name : String}
  {inventory : AdmittedInventory} {files : List (String × String)} {answers : List Answer}
  {state : InventoryState}

theorem trusted_eq_some {entry : HistoryEntry} {path : String}
    (h : trustedBootstrapEvidenceSource resolve entry = some source)
    (hname : entry.namespaceId = .text name) (hpath : entry.databasePath = .text path) :
    resolve path = source.file := by
  rw [trustedBootstrapEvidenceSource,hname,hpath] at h
  cases hstore : entry.store with
  | none =>
    rw [hstore] at h
    cases h
  | some provenance =>
    rw [hstore] at h
    simp only at h
    split_ifs at h with hdiffers hfile
    cases h
    exact not_not.1 (not_or.1 hfile).2

theorem admitEntries_spec {entries : List HistoryEntry} {admission result : Admission}
    (h : admitEntries resolve admission entries = .ok result) :
    result.named.map (fun entry => Plain.text entry.1) =
        admission.named.map (fun entry => Plain.text entry.1) ++ entries.map (·.namespaceId) ∧
      ((∀ entry ∈ admission.byNamespace, (entry.1, entry.2.file) ∈ admission.named) →
        ∀ entry ∈ result.byNamespace, (entry.1, entry.2.file) ∈ result.named) := by
  induction entries generalizing admission with
  | nil =>
    cases h
    exact ⟨by simp,id⟩
  | cons entry rest ih =>
    obtain ⟨next,hnext,hrest⟩ := bind_eq_ok.1 h
    obtain ⟨hnamed,hsources⟩ := ih hrest
    unfold admitEntry at hnext
    split at hnext
    · next source name path hsource hname hpath =>
      split_ifs at hnext
      cases hnext
      have hfile := trusted_eq_some hsource hname hpath
      refine ⟨?_,fun hall => hsources ?_⟩
      · simp only [hnamed,map_append,map_cons,map_nil,hname,append_assoc, cons_append,nil_append]
      · intro known hknown
        rcases mem_append.1 hknown with hknown | hknown
        · exact mem_append_left _ (hall known hknown)
        · rw [mem_singleton.1 hknown,hfile]
          exact mem_append_right _ (mem_singleton_self _)
    · cases hnext

theorem read_sound {answer : Answer} (h : read answer = .ok inventory) : inventory.Sound := by
  unfold read at h
  split at h
  · cases h
  · cases h
  · cases h
  · cases h
  · next value =>
    unfold admitInventory at h
    split_ifs at h
    split at h
    · next generation histories _ _ =>
      split_ifs at h
      split at h
      · cases h
      · next entries _ =>
        split_ifs at h with hdistinct
        obtain ⟨admission,hadmission,hok⟩ := bind_eq_ok.1 h
        cases hok
        obtain ⟨hnamed,hsources⟩ := admitEntries_spec hadmission
        have hperm : (sortNamed admission.named).Perm admission.named :=
          perm_insertionSort _ _
        refine ⟨?_,rfl,rfl,?_⟩
        · refine (hperm.map Prod.fst).nodup_iff.2 ?_
          rw [map_nil,nil_append] at hnamed
          have hnodup := hdistinct
          rw [← hnamed,← Function.comp_def Plain.text,← map_map] at hnodup
          exact hnodup.of_map _
        · intro namespaceId source hlookup
          exact hperm.mem_iff.2 (hsources (by simp) _ (mem_of_lookup hlookup))
    · cases h

/-- An entry of a snapshot names another file than the one its namespace is pinned to. -/
def Moves (pinnedFiles : String → Option String) (entry : String × String) : Prop :=
  ∃ pinned, pinnedFiles entry.1 = some pinned ∧ pinned ≠ entry.2

theorem foldl_pinFile (hnodup : (files.map Prod.fst).Nodup) (pinnedFiles : String → Option String)
    (moved : List String) :
    (∀ name, (files.foldl pinFile (pinnedFiles, moved)).1 name =
        (pinnedFiles name).or (files.lookup name)) ∧
      ∀ name, name ∈ (files.foldl pinFile (pinnedFiles, moved)).2 ↔
        name ∈ moved ∨ ∃ entry ∈ files, entry.1 = name ∧ Moves pinnedFiles entry := by
  induction files generalizing pinnedFiles moved with
  | nil => simp
  | cons entry rest ih =>
    obtain ⟨name,file⟩ := entry
    rw [map_cons,nodup_cons] at hnodup
    obtain ⟨hnew,hnodup⟩ := hnodup
    have hother : ∀ entry ∈ rest, entry.1 ≠ name :=
      fun entry hentry heq => hnew (mem_map.2 ⟨entry,hentry,heq⟩)
    rw [foldl_cons]
    cases hpinned : pinnedFiles name with
    | none =>
      have hstep : pinFile (pinnedFiles, moved) (name, file) =
          (Function.update pinnedFiles name (some file), moved) := by
        simp only [pinFile,hpinned]
      obtain ⟨hpins,hmoved⟩ := ih hnodup (Function.update pinnedFiles name (some file)) moved
      rw [hstep]
      constructor
      · intro other
        rw [hpins,lookup_cons]
        by_cases heq : other = name
        · subst heq
          simp [hpinned]
        · rw [Function.update_of_ne heq,beq_eq_false_iff_ne.2 heq]
      · intro other
        rw [hmoved]
        refine or_congr_right ?_
        constructor
        · rintro ⟨entry,hentry,hname,hmoves⟩
          refine ⟨entry,mem_cons_of_mem _ hentry,hname,?_⟩
          rwa [Moves,Function.update_of_ne (hother entry hentry)] at hmoves
        · rintro ⟨entry,hentry,hname,hmoves⟩
          rcases mem_cons.1 hentry with rfl | hentry
          · obtain ⟨pinned,hpin,-⟩ := hmoves
            rw [hpinned] at hpin
            cases hpin
          · refine ⟨entry,hentry,hname,?_⟩
            rwa [Moves,Function.update_of_ne (hother entry hentry)]
    | some pinned =>
      have hcons : ∀ other, (∃ entry ∈ (name, file) :: rest, entry.1 = other ∧ Moves pinnedFiles entry) ↔
          (name = other ∧ pinned ≠ file) ∨ ∃ entry ∈ rest, entry.1 = other ∧ Moves pinnedFiles entry := by
        intro other
        simp [Moves,hpinned]
      have hlookup : ∀ other, (pinnedFiles other).or (List.lookup other ((name, file) :: rest)) =
          (pinnedFiles other).or (rest.lookup other) := by
        intro other
        rw [lookup_cons]
        by_cases heq : other = name
        · subst heq
          rw [hpinned]
          rfl
        · rw [beq_eq_false_iff_ne.2 heq]
      simp only [hcons,hlookup]
      by_cases hfile : pinned = file
      · have hstep : pinFile (pinnedFiles, moved) (name, file) = (pinnedFiles, moved) := by
          simp only [pinFile,hpinned,ne_eq,hfile,not_true_eq_false,if_false]
        obtain ⟨hpins,hmoved⟩ := ih hnodup pinnedFiles moved
        rw [hstep]
        refine ⟨hpins,fun other => ?_⟩
        rw [hmoved]
        simp [hfile]
      · have hstep : pinFile (pinnedFiles, moved) (name, file) = (pinnedFiles, moved ++ [name]) := by
          simp only [pinFile,hpinned,ne_eq,hfile,not_false_eq_true,if_true]
        obtain ⟨hpins,hmoved⟩ := ih hnodup pinnedFiles (moved ++ [name])
        rw [hstep]
        refine ⟨hpins,fun other => ?_⟩
        rw [hmoved,mem_append,mem_singleton,or_assoc]
        simp [hfile,eq_comm]

theorem snapshot_cases (state : InventoryState) (answer : Answer) :
    (∃ failure, snapshot state answer = (state, .error failure)) ∨
    ∃ inventory, inventory.Sound ∧ read answer = .ok inventory ∧
      ¬ inventory.generation < state.highGeneration ∧ (inventory.generation = state.highGeneration →
        inventory.fingerprint = state.highFingerprint) ∧
      ∃ pinnedFiles : String → Option String,
        (∀ name, pinnedFiles name = (state.pinnedFiles name).or (inventory.files.lookup name)) ∧
        (((∀ entry ∈ inventory.files, ¬ Moves state.pinnedFiles entry) ∧ snapshot state answer =
              (⟨inventory.generation,inventory.fingerprint,pinnedFiles⟩, .ok inventory)) ∨
          ∃ moved : List String, moved ≠ [] ∧ (∀ name, name ∈ moved ↔
              ∃ entry ∈ inventory.files, entry.1 = name ∧ Moves state.pinnedFiles entry) ∧
            snapshot state answer = ({ state with pinnedFiles := pinnedFiles },
              .ok { inventory with moved := moved })) := by
  unfold snapshot
  split
  · next failure _ => exact .inl ⟨failure,rfl⟩
  · next inventory hread =>
    have hsound := read_sound hread
    split_ifs with hstale hreused
    · exact .inl ⟨_,rfl⟩
    · exact .inl ⟨_,rfl⟩
    · refine .inr ⟨inventory,hsound,hread,hstale, fun heq => not_not.1 fun hne => hreused ⟨heq,hne⟩,?_⟩
      obtain ⟨hpins,hmoved⟩ := foldl_pinFile hsound.nodup state.pinnedFiles []
      rcases hresult : inventory.files.foldl pinFile (state.pinnedFiles, []) with
        ⟨pinnedFiles,moved⟩
      simp only [hresult,not_mem_nil,false_or] at hpins hmoved
      refine ⟨pinnedFiles,hpins,?_⟩
      by_cases hnone : moved = []
      · refine .inl ⟨fun entry hentry hmoves => ?_,?_⟩
        · have hin := (hmoved entry.1).2 ⟨entry,hentry,rfl,hmoves⟩
          rw [hnone] at hin
          cases hin
        · simp only [hnone,ne_eq,not_true_eq_false,if_false]
      · refine .inr ⟨moved,hnone,hmoved,?_⟩
        simp only [ne_eq,hnone,not_false_eq_true,if_true]

/-- The snapshot gets past the checks of its generation, and some but not all of its namespaces
moved. -/
def PartlyMoved (state : InventoryState) (answer : Answer) : Prop :=
  ∃ inventory, read answer = .ok inventory ∧ ¬ inventory.generation < state.highGeneration ∧
    (inventory.generation = state.highGeneration → inventory.fingerprint = state.highFingerprint) ∧
    (∃ entry ∈ inventory.files, Moves state.pinnedFiles entry) ∧
    ∃ entry ∈ inventory.files, ¬ Moves state.pinnedFiles entry

theorem accepted_bound : ∀ inventory ∈ accepted state answers,
      state.highGeneration ≤ inventory.generation ∧ (state.highGeneration = inventory.generation →
          state.highFingerprint = inventory.fingerprint) := by
  induction answers generalizing state with
  | nil => simp [accepted]
  | cons answer rest ih =>
    rcases snapshot_cases state answer with ⟨failure,hstep⟩ |
      ⟨found,-,-,hstale,hreused,pinnedFiles,-,⟨-,hstep⟩ | ⟨moved,-,-,hstep⟩⟩
    · rw [accepted,hstep]
      exact ih
    · rw [accepted,hstep]
      intro inventory hin
      rcases mem_cons.1 hin with rfl | hin
      · exact ⟨not_lt.1 hstale,fun heq => (hreused heq.symm).symm⟩
      · obtain ⟨hle,hsame⟩ := ih inventory hin
        simp only at hle hsame
        refine ⟨by omega,fun heq => ?_⟩
        rw [← hsame (by omega),hreused (by omega)]
    · rw [accepted,hstep]
      intro inventory hin
      rcases mem_cons.1 hin with rfl | hin
      · exact ⟨not_lt.1 hstale,fun heq => (hreused heq.symm).symm⟩
      · have hbound := ih inventory hin
        exact hbound

theorem accepted_fingerprint : ∀ inventory ∈ accepted state answers,
      inventory.fingerprint = fingerprintOf inventory.files := by
  induction answers generalizing state with
  | nil => simp [accepted]
  | cons answer rest ih =>
    rcases snapshot_cases state answer with ⟨failure,hstep⟩ |
      ⟨found,hsound,-,-,-,pinnedFiles,-,⟨-,hstep⟩ | ⟨moved,-,-,hstep⟩⟩
    · rw [accepted,hstep]
      exact ih
    · rw [accepted,hstep]
      exact forall_mem_cons.2 ⟨hsound.fingerprint,ih⟩
    · rw [accepted,hstep]
      exact forall_mem_cons.2 ⟨hsound.fingerprint,ih⟩

theorem accepted_pairwise
    (h : StepsMeet (fun state answer => (snapshot state answer).1) (fun state answer => ¬ PartlyMoved state answer) state answers) :
    (accepted state answers).Pairwise fun earlier later => earlier.Settles →
      earlier.generation ≤ later.generation ∧
        (earlier.generation = later.generation → earlier.fingerprint = later.fingerprint) := by
  induction answers generalizing state with
  | nil => exact List.Pairwise.nil
  | cons answer rest ih =>
    obtain ⟨hwhole,hrest⟩ := h
    rcases snapshot_cases state answer with ⟨failure,hstep⟩ |
      ⟨found,hsound,hread,hstale,hreused,pinnedFiles,-, ⟨-,hstep⟩ | ⟨moved,hmoved,hmem,hstep⟩⟩
    · rw [accepted,hstep]
      simp only [hstep] at hrest
      exact ih hrest
    · rw [accepted,hstep]
      simp only [hstep] at hrest
      exact pairwise_cons.2 ⟨fun later hlater _ => accepted_bound later hlater,ih hrest⟩
    · rw [accepted,hstep]
      simp only [hstep] at hrest
      refine pairwise_cons.2 ⟨?_,ih hrest⟩
      rintro later - ⟨namespaceId,source,hevidence⟩
      -- everything in it moved, so that no evidence is read under it
      rw [evidenceFor] at hevidence
      split_ifs at hevidence with hin
      cases hlookup : found.byNamespace.lookup namespaceId with
      | none =>
        simp only [hlookup] at hevidence
        cases hevidence
      | some own =>
        obtain ⟨name,hname⟩ := exists_mem_of_ne_nil moved hmoved
        obtain ⟨entry,hentry,-,hmoves⟩ := (hmem name).1 hname
        refine absurd ⟨found,hread,hstale,hreused,⟨entry,hentry,hmoves⟩,_,
          hsound.source _ _ hlookup,fun hmoves' => hin ?_⟩ hwhole
        exact (hmem namespaceId).2 ⟨_,hsound.source _ _ hlookup,rfl,hmoves'⟩

theorem lookup_of_mem (hnodup : (files.map Prod.fst).Nodup) {file : String}
    (h : (name, file) ∈ files) : files.lookup name = some file := by
  induction files with
  | nil => cases h
  | cons entry rest ih =>
    rw [map_cons,nodup_cons] at hnodup
    rw [lookup_cons]
    rcases mem_cons.1 h with rfl | h
    · simp
    · have hne : name ≠ entry.1 :=
        fun heq => hnodup.1 (mem_map.2 ⟨(name, file),h,heq⟩)
      rw [beq_eq_false_iff_ne.2 hne]
      exact ih hnodup.2 h

theorem AdmittedInventory.Sound.pinned {found : AdmittedInventory} (h : found.Sound) {namespaceId : String}
    {own : StoreProvenance} (hlookup : found.byNamespace.lookup namespaceId = some own)
    {pinnedFiles : String → Option String}
    (hstays : ∀ pinned, pinnedFiles namespaceId = some pinned → ¬ pinned ≠ own.file) :
    (pinnedFiles namespaceId).or (found.files.lookup namespaceId) = some own.file := by
  rw [lookup_of_mem h.nodup (h.source _ _ hlookup)]
  cases hpinned : pinnedFiles namespaceId with
  | none => rfl
  | some pinned => rw [not_not.1 (hstays pinned hpinned),Option.some_or]

theorem evidence_file {namespaceId : String} (hin : inventory ∈ accepted state answers)
    (hevidence : evidenceFor inventory namespaceId = .ok source) :
    (state.pinnedFiles namespaceId).or
      ((accepted state answers).findSome? fun seen => seen.files.lookup namespaceId) =
        some source.file := by
  induction answers generalizing state with
  | nil => cases hin
  | cons answer rest ih =>
    have hcons : ∀ (found : AdmittedInventory) (next : InventoryState)
        (pinnedFiles : String → Option String),
        (∀ name, pinnedFiles name = (state.pinnedFiles name).or (found.files.lookup name)) →
        next.pinnedFiles = pinnedFiles → (namespaceId ∉ found.moved → ∀ own,
          found.byNamespace.lookup namespaceId = some own →
            (state.pinnedFiles namespaceId).or (found.files.lookup namespaceId) = some own.file) →
        inventory ∈ found :: accepted next rest → (state.pinnedFiles namespaceId).or
          ((found :: accepted next rest).findSome? fun seen => seen.files.lookup namespaceId) =
            some source.file := by
      intro found next pinnedFiles hpins hnext hown hin
      have hsplit : (found :: accepted next rest).findSome?
          (fun seen => seen.files.lookup namespaceId) = (found.files.lookup namespaceId).or
              ((accepted next rest).findSome? fun seen => seen.files.lookup namespaceId) := by
        rw [List.findSome?_cons]
        cases found.files.lookup namespaceId <;> rfl
      rw [hsplit,← Option.or_assoc]
      rcases mem_cons.1 hin with rfl | hin
      · rw [evidenceFor] at hevidence
        split_ifs at hevidence with hmoved
        split at hevidence
        · cases hevidence
        · next own hlookup =>
          cases hevidence
          rw [hown hmoved source hlookup,Option.some_or]
      · have hrest := ih hin
        rwa [hnext,hpins] at hrest
    rcases snapshot_cases state answer with ⟨failure,hstep⟩ |
      ⟨found,hsound,-,-,-,pinnedFiles,hpins,⟨hstay,hstep⟩ | ⟨moved,-,hmem,hstep⟩⟩
    · rw [accepted,hstep] at hin ⊢
      exact ih hin
    · rw [accepted,hstep] at hin ⊢
      exact hcons found _ pinnedFiles hpins rfl (fun _ own hlookup =>
        hsound.pinned hlookup fun pinned hpinned hne =>
          hstay _ (hsound.source _ _ hlookup) ⟨pinned,hpinned,hne⟩) hin
    · rw [accepted,hstep] at hin ⊢
      exact hcons { found with moved := moved } _ pinnedFiles hpins rfl (fun hout own hlookup =>
        hsound.pinned hlookup fun pinned hpinned hne =>
          hout ((hmem _).2 ⟨_,hsound.source _ _ hlookup,rfl,pinned,hpinned,hne⟩)) hin

/-- In runs whose snapshots move as a whole or not at all, generations never go backwards; and in
every run evidence is read from the file its namespace was first seen at. -/
theorem inventory_generations (answers : List Answer) :
    (StepsMeet (fun state answer => (snapshot state answer).1)
        (fun state answer => ¬ PartlyMoved state answer) .initial answers →
      (accepted .initial answers).Pairwise fun earlier later => earlier.Settles →
        earlier.generation ≤ later.generation ∧
          (earlier.generation = later.generation → earlier.files = later.files)) ∧
    ∀ inventory namespaceId source, inventory ∈ accepted .initial answers →
      evidenceFor inventory namespaceId = .ok source →
      ((accepted .initial answers).findSome? fun seen => seen.files.lookup namespaceId) =
        some source.file := by
  constructor
  · intro hsteps
    refine (accepted_pairwise hsteps).imp_of_mem ?_
    intro earlier later hearlier hlater horder hsettles
    obtain ⟨hle,hsame⟩ := horder hsettles
    refine ⟨hle,fun heq => fingerprintOf_injective ?_⟩
    rw [← accepted_fingerprint earlier hearlier,← accepted_fingerprint later hlater,hsame heq]
  · intro inventory namespaceId source hin hevidence
    have hfile := evidence_file hin hevidence
    rwa [InventoryState.initial,Option.none_or] at hfile

/-- A snapshot of genuine handles, each for the namespace and file it is configured with. -/
def sampleAnswer (generation : Int) (histories : List (String × String)) : Answer :=
  ⟨.object ⟨["generation", "histories"],some generation,some (histories.map fun entry =>
    some ⟨some ⟨entry.1,entry.2⟩,.text entry.1,.text entry.2⟩)⟩,id⟩

def sampleAnswers : List Answer :=
  [sampleAnswer 1 [("a", "/a")], sampleAnswer 5 [("a", "/b"), ("c", "/c")], sampleAnswer 2 [("a", "/a")]]

/-- Generation 5 settles decisions of the namespace that did not move; then generation 2 is
accepted. -/
theorem inventory_generations_not_always : ¬ ∀ answers,
    (accepted .initial answers).Pairwise fun earlier later => earlier.Settles →
      earlier.generation ≤ later.generation ∧
        (earlier.generation = later.generation → earlier.files = later.files) := by
  intro h
  have hfifth : (accepted .initial sampleAnswers)[1]?.map (fun seen =>
      (seen.generation, evidenceFor seen "c")) = some (5, .ok ⟨"c","/c"⟩) := by decide
  have hsecond : (accepted .initial sampleAnswers)[2]?.map (·.generation) = some 2 := by decide
  obtain ⟨fifth,hat,hfifth⟩ := Option.map_eq_some_iff.1 hfifth
  obtain ⟨second,hat',hsecond⟩ := Option.map_eq_some_iff.1 hsecond
  obtain ⟨hlt,rfl⟩ := List.getElem?_eq_some_iff.1 hat
  obtain ⟨hlt',rfl⟩ := List.getElem?_eq_some_iff.1 hat'
  rw [Prod.mk.injEq] at hfifth
  have hle := (List.pairwise_iff_getElem.1 (h sampleAnswers) 1 2 hlt hlt' (by decide)
    ⟨"c",_,hfifth.2⟩).1
  rw [hfifth.1,hsecond] at hle
  exact absurd hle (by decide)

end Frontera.Reconciler
