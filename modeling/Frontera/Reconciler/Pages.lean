import Frontera.Data.CyclicPages
import Frontera.Data.OrderedSet
import Frontera.StatusHistory.Status

/-! Each run examines one page of the listed commitments, in their order, from behind a cursor and
around. Every key that is examined gets one entry, whatever comes of it; the cursor has advanced
before the first of them is looked at. -/

namespace Frontera.Reconciler

open Frontera.Data Frontera.Text Frontera.StatusHistory List

/-- `COMMITMENT`: `/^sha256:[0-9a-f]{64}$/` -/
def isCommitment (text : String) : Bool :=
  match List.isPrefixOf? "sha256:".toList text.toList with
  | some digits => decide (digits.length = 64) && digits.all isHexadecimal
  | none => false

/-- `MALFORMED_KEY` -/
def malformedKey : String := ""

structure RunInput where
  /-- What `progress.load()` came to, when that is a text. -/
  loaded : Option String
  /-- The commitment of each listed record, when it names a text; `none` when the run failed
  before a listing was read. -/
  listing : Option (List (Option String))
  /-- `randomInt` answers with this number, reduced to its range. -/
  random : Nat

structure RunState where
  /-- The last commitment examined. -/
  cursor : Option String
  cursorLoaded : Bool
deriving DecidableEq

/-- The key a listed record is grouped under. -/
def keyOf (named : Option String) : String :=
  match named with
  | some text => if isCommitment text then text else malformedKey
  | none => malformedKey

/-- `[...listed.keys()].sort()` -/
def listedKeys (listing : List (Option String)) : List String :=
  sortStrings (OrderedSet.ofList (listing.map keyOf))

def startOf (cursor : Option String) (random : Nat) (keys : List String) : Nat :=
  match cursor with
  | none => random % keys.length
  | some cursor => (keys.findIdx? fun key => stringLt cursor key).getD 0

/-- The commitments to examine. -/
def page (maxDecisions : Nat) (cursor : Option String) (random : Nat) (keys : List String) : List String :=
  if keys.length = 0 then []
  else
    let start := startOf cursor random keys
    let count := min maxDecisions keys.length
    (List.range count).map fun offset => keys.getD ((start + offset) % keys.length) ""

def loadCursor (state : RunState) (loaded : Option String) : RunState :=
  if state.cursorLoaded then state
  else
    { cursorLoaded := true
      cursor :=
        match loaded with
        | some text =>
            if text = malformedKey ∨ isCommitment text = true then some text
            else state.cursor
        | none => state.cursor }

/-- One run: the state behind it, and the keys it examined. -/
def run (maxDecisions : Nat) (state : RunState) (input : RunInput) : RunState × List String :=
  let state := loadCursor state input.loaded
  match input.listing with
  | none => (state, [])
  | some listing =>
      let examined := page maxDecisions state.cursor input.random (listedKeys listing)
      ({ state with cursor := examined.getLast?.or state.cursor }, examined)

/-- What each of a sequence of runs examined. -/
def runs (maxDecisions   : Nat) : RunState → List RunInput → List (List String)
  | _, [] => []
  | state, input :: rest =>
      let (next, examined) := run maxDecisions state input
      examined :: runs maxDecisions next rest

/-- The distinct keys that a run was given. -/
def RunInput.keys (input : RunInput) : List String :=
  match input.listing with
  | none => []
  | some listing => listedKeys listing

/-- `<` on texts. -/
def Before (a b : String) : Prop := stringLt a b = true

theorem before_irrefl (a : String) : ¬ Before a a := by
  rw [Before,stringLt_irrefl]
  exact Bool.false_ne_true

theorem before_trans (a b c : String) (h : Before a b) (h' : Before b c) : Before a c :=
  stringLt_trans h h'

theorem listedKeys_sorted (listing : List (Option String)) : (listedKeys listing).Pairwise Before :=
  sortStrings_strict (OrderedSet.nodup_ofList _)

theorem page_eq (maxDecisions : Nat) (cursor : Option String) (random : Nat)
    (keys : List String) :
    page maxDecisions cursor random keys =
      CyclicPages.page keys (startOf cursor random keys) maxDecisions := by
  rw [page,CyclicPages.page]
  split_ifs with hempty
  · rw [eq_nil_of_length_eq_zero hempty]
    simp
  · apply ext_getElem
    · simp
    · intro i hi hi'
      have hlt : (startOf cursor random keys + i) % keys.length < keys.length :=
        Nat.mod_lt _ (Nat.pos_of_ne_zero hempty)
      simp only [getElem_map,getElem_range,getElem_take,getElem_rotate,
        getD_eq_getElem?_getD,List.getElem?_eq_getElem hlt,Option.getD_some]
      congr 2
      exact Nat.add_comm _ _

theorem exists_start {keys : List String} (cursor : Option String) (random : Nat)
    (hsorted : keys.Pairwise Before) (hne : keys ≠ []) (count : Nat) :
    ∃ start ≤ keys.length, CyclicPages.page keys (startOf cursor random keys) count =
        CyclicPages.page keys start count ∧
      ∀ c ∈ cursor, CyclicPages.Behind Before c keys start := by
  cases cursor with
  | none =>
    refine ⟨random % keys.length,?_,rfl,by simp⟩
    exact (Nat.mod_lt _ (length_pos_of_ne_nil hne)).le
  | some cursor =>
    have hbelow : ∀ key, stringLt cursor key = false → key = cursor ∨ stringLt key cursor = true := by
      intro key hkey
      by_cases heq : key = cursor
      · exact .inl heq
      · refine .inr ((stringLt_total heq).resolve_right ?_)
        rw [hkey]
        exact Bool.false_ne_true
    cases hfound : keys.findIdx? fun key => stringLt cursor key with
    | none =>
      have hnone := hfound
      rw [List.findIdx?_eq_none_iff] at hfound
      refine ⟨keys.length,le_rfl,?_,?_⟩
      · rw [startOf,hnone,CyclicPages.page,CyclicPages.page,rotate_length]
        simp
      · rintro c hc
        cases hc
        exact ⟨fun key hkey => hbelow key (by simpa using hfound key (mem_of_mem_take hkey)), by simp⟩
    | some index =>
      obtain ⟨hlt,hhere,hbefore⟩ := List.findIdx?_eq_some_iff_getElem.1 hfound
      refine ⟨index,hlt.le,by rw [startOf,hfound,Option.getD_some],?_⟩
      rintro c hc
      cases hc
      constructor
      · intro key hkey
        obtain ⟨i,hi,rfl⟩ := mem_take_iff_getElem.1 hkey
        exact hbelow _ (by simpa using hbefore i (by omega))
      · intro key hkey
        rw [← cons_getElem_drop_succ (h := hlt)] at hkey
        rcases mem_cons.1 hkey with rfl | hkey
        · exact hhere
        · have hrest := hsorted
          rw [← take_append_drop index keys,← cons_getElem_drop_succ (h := hlt),
            pairwise_append,pairwise_cons] at hrest
          exact stringLt_trans hhere (hrest.2.1.1 key hkey)

theorem run_cursorLoaded (maxDecisions : Nat) (state : RunState) (input : RunInput) :
    (run maxDecisions state input).1.cursorLoaded = true := by
  have hloaded : (loadCursor state input.loaded).cursorLoaded = true := by
    unfold loadCursor
    split_ifs with h
    · exact h
    · rfl
  unfold run
  cases input.listing <;> exact hloaded

theorem runs_follow (maxDecisions : Nat) {inputs : List RunInput}
    (hlisted : ∀ input ∈ inputs, input.keys ≠ []) {state : RunState}
    (hloaded : state.cursorLoaded = true) :
    ∃ readings : List (CyclicPages.Reading String),
      CyclicPages.Follows Before maxDecisions state.cursor readings ∧
      readings.map (·.keys) = inputs.map RunInput.keys ∧
      readings.map (·.page maxDecisions) = runs maxDecisions state inputs := by
  induction inputs generalizing state with
  | nil => exact ⟨[],trivial,rfl,rfl⟩
  | cons input rest ih =>
    obtain ⟨hne,hlisted⟩ := forall_mem_cons.1 hlisted
    obtain ⟨readings,hfollows,hkeys,hpages⟩ :=
      ih hlisted (run_cursorLoaded maxDecisions state input)
    have hload : loadCursor state input.loaded = state := by
      simp only [loadCursor,hloaded,if_true]
    cases hlisting : input.listing with
    | none =>
      rw [RunInput.keys,hlisting] at hne
      exact absurd rfl hne
    | some listing =>
      have hinput : input.keys = listedKeys listing := by rw [RunInput.keys,hlisting]
      rw [hinput] at hne
      have hsorted := listedKeys_sorted listing
      obtain ⟨start,hstart,hpage,hbehind⟩ :=
        exists_start state.cursor input.random hsorted hne maxDecisions
      have hrun : run maxDecisions state input = ({ state with
              cursor := (CyclicPages.page (listedKeys listing) start maxDecisions).getLast?.or
                state.cursor },
            CyclicPages.page (listedKeys listing) start maxDecisions) := by
        simp only [run,hload,hlisting,page_eq,hpage]
      refine ⟨⟨listedKeys listing,start⟩ :: readings,⟨hsorted,hstart,hbehind,?_⟩,?_,?_⟩
      · rw [hrun] at hfollows
        exact hfollows
      · rw [map_cons,map_cons,hkeys,hinput]
      · rw [map_cons,runs,hpages,hrun]
        rfl

theorem runs_loadCursor (maxDecisions : Nat) (state : RunState) (input : RunInput)
    (rest : List RunInput) :
    runs maxDecisions (loadCursor state input.loaded) (input :: rest) =
      runs maxDecisions state (input :: rest) := by
  have htwice : loadCursor (loadCursor state input.loaded) input.loaded =
      loadCursor state input.loaded := by
    unfold loadCursor
    split_ifs <;> simp_all
  simp only [runs,run,htwice]

/-- No listed commitment is starved. -/
theorem no_decision_starved (maxDecisions : Nat) : (∀ state input, (run maxDecisions state input).2.Nodup ∧
      (run maxDecisions state input).2.length ≤ maxDecisions ∧
      ∀ key ∈ (run maxDecisions state input).2, key ∈ input.keys) ∧
    ∀ state inputs key, inputs ≠ [] → (∀ input ∈ inputs, key ∈ input.keys) →
      (inputs.flatMap RunInput.keys).dedup.length ≤ inputs.length * maxDecisions →
      ∃ examined ∈ runs maxDecisions state inputs, key ∈ examined := by
  constructor
  · intro state input
    unfold run RunInput.keys
    cases input.listing with
    | none => simp
    | some listing =>
      simp only [page_eq,CyclicPages.page]
      have hnodup : (listedKeys listing).Nodup := by
        refine (listedKeys_sorted listing).imp ?_
        rintro x y hxy rfl
        exact before_irrefl x hxy
      exact ⟨(List.nodup_rotate.2 hnodup).sublist (take_sublist _ _),length_take_le _ _,
        fun key hkey => List.mem_rotate.1 (mem_of_mem_take hkey)⟩
  · intro state inputs key hne hlisted hroom
    obtain ⟨input,rest,rfl⟩ := exists_cons_of_ne_nil hne
    have hloaded : (loadCursor state input.loaded).cursorLoaded = true := by
      unfold loadCursor
      split_ifs with h
      · exact h
      · rfl
    obtain ⟨readings,hfollows,hkeys,hpages⟩ := runs_follow maxDecisions
      (fun input hinput => ne_nil_of_mem (hlisted input hinput)) hloaded
    have hlength : readings.length = (input :: rest).length := by
      simpa using congrArg List.length hkeys
    have hin : ∀ reading ∈ readings, key ∈ reading.keys := by
      intro reading hreading
      have hmem : reading.keys ∈ (input :: rest).map RunInput.keys :=
        hkeys ▸ mem_map_of_mem hreading
      obtain ⟨given,hgiven,heq⟩ := List.mem_map.1 hmem
      exact heq ▸ hlisted given hgiven
    have hall : (input :: rest).flatMap RunInput.keys = readings.flatMap (·.keys) := by
      rw [flatMap_def,← hkeys,flatMap_def]
    rw [hall,← hlength] at hroom
    have hreadings : readings ≠ [] := by
      intro hnil
      rw [hnil] at hlength
      cases hlength
    obtain ⟨reading,hreading,hread⟩ := 
      CyclicPages.Follows.reads before_trans before_irrefl hfollows hreadings hin hroom
    refine ⟨reading.page maxDecisions,?_,hread⟩
    rw [← runs_loadCursor maxDecisions state input rest,← hpages]
    exact List.mem_map.2 ⟨reading,hreading,rfl⟩

end Frontera.Reconciler
