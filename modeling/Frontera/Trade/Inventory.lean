import Mathlib.Algebra.BigOperators.Group.List.Basic
import Mathlib.Tactic.Linarith
import Frontera.Data.Throwing
import Frontera.Trade.Rational
import Frontera.Trade.RawValue

/-! `summarizeTradeOrderInventory` of `trade-exposure.ts`: the exposure that a list of order records
leaves settled, pending and open, and how many orders occupy a place. -/

namespace Frontera.Trade

open Frontera.Monetary List

inductive TradeOrderLifecycleState where
  | pendingSubmission | submittedUncertain | open | partiallyFilled | filled | cancelled | expired
deriving DecidableEq

def TradeOrderLifecycleState.ofText : String → Option TradeOrderLifecycleState
  | "pending-submission" => some .pendingSubmission
  | "submitted-uncertain" => some .submittedUncertain
  | "open" => some .open
  | "partially-filled" => some .partiallyFilled
  | "filled" => some .filled
  | "cancelled" => some .cancelled
  | "expired" => some .expired
  | _ => none

/-- One order, in the exposure denomination. -/
structure TradeOrderInventoryEntry where
  state : TradeOrderLifecycleState
  (orderedExposure filledExposure : RiskDecimal)

structure TradeOrderInventorySummary where
  (currentExposure pendingExposure activeOrderExposure : String)
  (ledgerOpenOffers pendingSubmissions uncertainSubmissions : Nat)

def parseRiskDecimal : RawValue → Option RiskDecimal
  | .str text =>
      if h : isCanonicalDecimal text monetaryDecimalMaximumDigits = true then some ⟨text,h⟩ else none
  | _ => none

def readState : RawValue → Option TradeOrderLifecycleState
  | .str text => TradeOrderLifecycleState.ofText text
  | _ => none

/-- An entry that is no order record is malformed. -/
def readEntry (raw : RawValue) : Option TradeOrderInventoryEntry := do
  let entry ← closedRecord raw ["state", "orderedExposure", "filledExposure"] []
  let state ← (entry.get "state").bind readState
  let ordered ← (entry.get "orderedExposure").bind parseRiskDecimal
  let filled ← (entry.get "filledExposure").bind parseRiskDecimal
  some ⟨state,ordered,filled⟩

/-- More is filled than was ordered. -/
def TradeOrderInventoryEntry.overfilled (entry : TradeOrderInventoryEntry) : Bool :=
  let ordered := rationalOfDecimal entry.orderedExposure
  let filled := rationalOfDecimal entry.filledExposure
  decide (filled.numerator * ordered.denominator > ordered.numerator * filled.denominator)

/-- What is ordered and not filled. -/
def TradeOrderInventoryEntry.remaining (entry : TradeOrderInventoryEntry) : TradeRational :=
  let ordered := rationalOfDecimal entry.orderedExposure
  let filled := rationalOfDecimal entry.filledExposure
  addRationals zeroRational
    ⟨ordered.numerator * filled.denominator - filled.numerator * ordered.denominator,
      ordered.denominator * filled.denominator, Nat.mul_pos ordered.denominator_pos filled.denominator_pos⟩

/-- The accumulators of the loop. -/
structure InventoryTotals where
  (settled pending : TradeRational)
  «open» : TradeRational
  (ledgerOpenOffers pendingSubmissions uncertainSubmissions : Nat)

namespace InventoryTotals

def zero : InventoryTotals := ⟨zeroRational,zeroRational,zeroRational,0,0,0⟩

def add (totals : InventoryTotals) (entry : TradeOrderInventoryEntry) : InventoryTotals :=
  let settled := addRationals totals.settled (rationalOfDecimal entry.filledExposure)
  match entry.state with
  | .pendingSubmission => { totals with
      settled := settled
      pending := addRationals totals.pending entry.remaining
      pendingSubmissions := totals.pendingSubmissions + 1 }
  | .submittedUncertain => { totals with
      settled := settled
      pending := addRationals totals.pending entry.remaining
      uncertainSubmissions := totals.uncertainSubmissions + 1 }
  | .open | .partiallyFilled => { totals with
      settled := settled
      «open» := addRationals totals.open entry.remaining
      ledgerOpenOffers := totals.ledgerOpenOffers + 1 }
  | .filled | .cancelled | .expired => { totals with settled := settled }

def summary (totals : InventoryTotals) : TradeOrderInventorySummary :=
  ⟨decimalOf totals.settled,decimalOf totals.pending,decimalOf totals.open,
    totals.ledgerOpenOffers,totals.pendingSubmissions,totals.uncertainSubmissions⟩

end InventoryTotals

/-- The loop from an index on; the error is the index of the entry that refuses. -/
def summarizeFrom (index : Nat) (totals : InventoryTotals) : List RawValue → Except Int InventoryTotals
  | [] => .ok totals
  | raw :: rest =>
      match readEntry raw with
      | none => .error index
      | some entry =>
          if entry.overfilled then .error index
          else summarizeFrom (index + 1) (totals.add entry) rest

def summarizeTradeOrderInventory (raw : RawValue) : Except Int TradeOrderInventorySummary :=
  match plainList raw 100000 with
  | none => .error (-1)
  | some entries => (summarizeFrom 0 .zero entries).map InventoryTotals.summary

namespace TradeOrderInventoryEntry

def ordered (entry : TradeOrderInventoryEntry) : ℚ := decimalValue entry.orderedExposure.val

def filled (entry : TradeOrderInventoryEntry) : ℚ := decimalValue entry.filledExposure.val

def remainder (entry : TradeOrderInventoryEntry) : ℚ := entry.ordered - entry.filled

theorem overfilled_iff (entry : TradeOrderInventoryEntry) :
    entry.overfilled = true ↔ entry.ordered < entry.filled := by
  have ho := rationalOfDecimal_value entry.orderedExposure
  have hf := rationalOfDecimal_value entry.filledExposure
  have hod : (0 : ℚ) < (rationalOfDecimal entry.orderedExposure).denominator :=
    Nat.cast_pos.2 (rationalOfDecimal entry.orderedExposure).denominator_pos
  have hfd : (0 : ℚ) < (rationalOfDecimal entry.filledExposure).denominator :=
    Nat.cast_pos.2 (rationalOfDecimal entry.filledExposure).denominator_pos
  rw [ordered,filled,← ho,← hf,TradeRational.value,TradeRational.value,
    div_lt_div_iff₀ hod hfd,overfilled,decide_eq_true_eq,gt_iff_lt]
  exact_mod_cast Iff.rfl

theorem remaining_decimal (entry : TradeOrderInventoryEntry) : entry.remaining.Decimal :=
  addRationals_decimal zeroRational_decimal
    (mul_decimal (rationalOfDecimal_decimal _) (rationalOfDecimal_decimal _))

theorem remaining_value {entry : TradeOrderInventoryEntry} (h : entry.overfilled = false) :
    entry.remaining.value = entry.remainder := by
  rw [remaining,addRationals_value,zeroRational_value,zero_add,remainder,ordered,filled,
    ← rationalOfDecimal_value,← rationalOfDecimal_value]
  have hle : (rationalOfDecimal entry.filledExposure).numerator *
      (rationalOfDecimal entry.orderedExposure).denominator ≤
      (rationalOfDecimal entry.orderedExposure).numerator *
      (rationalOfDecimal entry.filledExposure).denominator := by
    simpa [overfilled] using h
  have hod := (rationalOfDecimal entry.orderedExposure).denominator_ne_zero
  have hfd := (rationalOfDecimal entry.filledExposure).denominator_ne_zero
  simp only [TradeRational.value]
  push_cast [Nat.cast_sub hle]
  field_simp

end TradeOrderInventoryEntry

namespace TradeOrderLifecycleState

def awaitsSubmission : TradeOrderLifecycleState → Bool
  | .pendingSubmission | .submittedUncertain => true
  | _ => false

def rests : TradeOrderLifecycleState → Bool
  | .open | .partiallyFilled => true
  | _ => false

def finished : TradeOrderLifecycleState → Bool
  | .filled | .cancelled | .expired => true
  | _ => false

end TradeOrderLifecycleState

open TradeOrderLifecycleState (awaitsSubmission rests finished)

/-- The sum of an amount over the orders in such states. -/
def totalOf (states : TradeOrderLifecycleState → Bool) (amount : TradeOrderInventoryEntry → ℚ)
    (entries : List TradeOrderInventoryEntry) : ℚ :=
  ((entries.filter fun entry => states entry.state).map amount).sum

def countOf (states : TradeOrderLifecycleState → Bool) (entries : List TradeOrderInventoryEntry) : Nat :=
  entries.countP fun entry => states entry.state

theorem totalOf_append (states : TradeOrderLifecycleState → Bool)
    (amount : TradeOrderInventoryEntry → ℚ) (entries entries' : List TradeOrderInventoryEntry) :
    totalOf states amount (entries ++ entries') =
      totalOf states amount entries + totalOf states amount entries' := by
  rw [totalOf,filter_append,map_append,sum_append]
  rfl

theorem totalOf_singleton (states : TradeOrderLifecycleState → Bool)
    (amount : TradeOrderInventoryEntry → ℚ) (entry : TradeOrderInventoryEntry) :
    totalOf states amount [entry] = if states entry.state then amount entry else 0 := by
  cases h : states entry.state <;> simp [totalOf,h]

theorem countOf_append (states : TradeOrderLifecycleState → Bool)
    (entries entries' : List TradeOrderInventoryEntry) :
    countOf states (entries ++ entries') = countOf states entries + countOf states entries' :=
  countP_append

variable {entries entries' : List TradeOrderInventoryEntry} {totals : InventoryTotals}
  {entry : TradeOrderInventoryEntry} {totals' : InventoryTotals} {values : List RawValue}
  {raw : RawValue} {values' : List RawValue}

theorem totalOf_perm (states : TradeOrderLifecycleState → Bool)
    (amount : TradeOrderInventoryEntry → ℚ) (h : entries.Perm entries') :
    totalOf states amount entries = totalOf states amount entries' :=
  ((h.filter _).map amount).sum_eq

/-- What is filled, what still awaits submission or rests, and the remainders of finished orders are
everything that was ordered. -/
theorem totalOf_ordered (entries : List TradeOrderInventoryEntry) :
    totalOf (fun _ => true) TradeOrderInventoryEntry.filled entries +
        totalOf awaitsSubmission TradeOrderInventoryEntry.remainder entries +
        totalOf rests TradeOrderInventoryEntry.remainder entries =
      totalOf (fun _ => true) TradeOrderInventoryEntry.ordered entries -
        totalOf finished TradeOrderInventoryEntry.remainder entries := by
  induction entries with
  | nil => simp [totalOf]
  | cons entry entries ih =>
    have hcons : entry :: entries = [entry] ++ entries := rfl
    simp only [hcons,totalOf_append,totalOf_singleton,if_true]
    have hremainder : entry.remainder = entry.ordered - entry.filled := rfl
    cases hstate : entry.state <;>
      simp only [awaitsSubmission,rests, finished,if_true,Bool.false_eq_true,if_false,hremainder] <;>
      linarith

/-- The accumulators are the sums over the entries, each in lowest terms. -/
structure InventoryTotals.Of (totals : InventoryTotals) (entries : List TradeOrderInventoryEntry) :
    Prop where
  settled : totals.settled.value = totalOf (fun _ => true) TradeOrderInventoryEntry.filled entries
  pending : totals.pending.value = totalOf awaitsSubmission TradeOrderInventoryEntry.remainder entries
  resting : totals.open.value = totalOf rests TradeOrderInventoryEntry.remainder entries
  lowest : totals.settled.Lowest ∧ totals.pending.Lowest ∧ totals.open.Lowest
  decimal : totals.settled.Decimal ∧ totals.pending.Decimal ∧ totals.open.Decimal
  offers : totals.ledgerOpenOffers = countOf rests entries
  pendings : totals.pendingSubmissions = countOf (· == .pendingSubmission) entries
  uncertains : totals.uncertainSubmissions = countOf (· == .submittedUncertain) entries

theorem InventoryTotals.Of.zero : InventoryTotals.zero.Of [] where
  settled := zeroRational_value
  pending := zeroRational_value
  resting := zeroRational_value
  lowest := ⟨zeroRational_lowest,zeroRational_lowest,zeroRational_lowest⟩
  decimal := ⟨zeroRational_decimal,zeroRational_decimal,zeroRational_decimal⟩
  offers := rfl
  pendings := rfl
  uncertains := rfl

theorem InventoryTotals.Of.add (h : totals.Of entries) (hentry : entry.overfilled = false) :
    (totals.add entry).Of (entries ++ [entry]) := by
  obtain ⟨hsettled,hpending,hresting,hlowest,hdecimal,hoffers,hpendings,huncertains⟩ := h
  have hremaining := TradeOrderInventoryEntry.remaining_value hentry
  have hremainingDecimal := entry.remaining_decimal
  have hfilled : (rationalOfDecimal entry.filledExposure).value = entry.filled :=
    rationalOfDecimal_value _
  have hfilledDecimal := rationalOfDecimal_decimal entry.filledExposure
  have hnext := addRationals_value totals.settled (rationalOfDecimal entry.filledExposure)
  rw [hsettled,hfilled] at hnext
  have hnextPending := addRationals_value totals.pending entry.remaining
  rw [hpending,hremaining] at hnextPending
  have hnextOpen := addRationals_value totals.open entry.remaining
  rw [hresting,hremaining] at hnextOpen
  unfold InventoryTotals.add
  cases hstate : entry.state
  all_goals
    constructor
    · simpa [totalOf_append,totalOf_singleton] using hnext
    · simp [totalOf_append,totalOf_singleton,hstate,awaitsSubmission,hpending,hnextPending]
    · simp [totalOf_append,totalOf_singleton,hstate,rests,hresting,hnextOpen]
    · simp [addRationals_lowest,hlowest]
    · simp [addRationals_decimal,hdecimal,hfilledDecimal,hremainingDecimal]
    · simp [countOf,hstate,rests,hoffers]
    · simp [countOf,hstate,hpendings]
    · simp [countOf,hstate,huncertains]

theorem summarizeFrom_eq_ok {index : Nat} {before : List TradeOrderInventoryEntry}
    (hbefore : totals.Of before) (h : summarizeFrom index totals values = .ok totals') :
    ∃ entries, values.map readEntry = entries.map some ∧
      (∀ entry ∈ entries, entry.overfilled = false) ∧ totals'.Of (before ++ entries) := by
  induction values generalizing index totals before with
  | nil =>
    cases h
    exact ⟨[],rfl,by simp,by simpa using hbefore⟩
  | cons raw rest ih =>
    rw [summarizeFrom] at h
    cases hread : readEntry raw with
    | none =>
      rw [hread] at h
      cases h
    | some entry =>
      simp only [hread] at h
      cases hover : entry.overfilled with
      | true =>
        rw [hover] at h
        cases h
      | false =>
        simp only [hover,Bool.false_eq_true,if_false] at h
        obtain ⟨entries,hentries,hfits,hof⟩ := ih (hbefore.add hover) h
        refine ⟨entry :: entries,by simp [hread,hentries],?_,by simpa using hof⟩
        intro other hother
        rcases mem_cons.1 hother with rfl | hother
        · exact hover
        · exact hfits other hother

theorem summarizeFrom_ok (hentries : values.map readEntry = entries.map some)
    (hfits : ∀ entry ∈ entries, entry.overfilled = false) (index : Nat) (totals : InventoryTotals) :
    summarizeFrom index totals values = .ok (entries.foldl InventoryTotals.add totals) := by
  induction values generalizing index totals entries with
  | nil =>
    obtain rfl : entries = [] := by simpa using hentries.symm
    rfl
  | cons raw rest ih =>
    cases entries with
    | nil => simp at hentries
    | cons entry entries =>
      rw [map_cons,map_cons,List.cons.injEq] at hentries
      rw [summarizeFrom,hentries.1]
      simp only [hfits entry mem_cons_self,Bool.false_eq_true,if_false,foldl_cons]
      exact ih hentries.2 (fun other hother => hfits other (mem_cons_of_mem _ hother)) _ _

/-- An array of these values. -/
def listOf (values : List RawValue) : RawValue := .list (values.map some) false

/-- The value is an array of order records, none filled beyond what was ordered. -/
def InventoryOf (raw : RawValue) (entries : List TradeOrderInventoryEntry) : Prop :=
  ∃ values, raw = listOf values ∧ values.length ≤ 100000 ∧
    values.map readEntry = entries.map some ∧ ∀ entry ∈ entries, entry.filled ≤ entry.ordered

/-- The summary of a list of orders: canonical texts of the exact sums, and the exact counts. -/
structure Summarizes (summary : TradeOrderInventorySummary)
    (entries : List TradeOrderInventoryEntry) : Prop where
  canonical : matchesCanonicalDecimal summary.currentExposure = true ∧
    matchesCanonicalDecimal summary.pendingExposure = true ∧
    matchesCanonicalDecimal summary.activeOrderExposure = true
  current : decimalValue summary.currentExposure =
    totalOf (fun _ => true) TradeOrderInventoryEntry.filled entries
  pending : decimalValue summary.pendingExposure =
    totalOf awaitsSubmission TradeOrderInventoryEntry.remainder entries
  active : decimalValue summary.activeOrderExposure =
    totalOf rests TradeOrderInventoryEntry.remainder entries
  total : decimalValue summary.currentExposure + decimalValue summary.pendingExposure +
      decimalValue summary.activeOrderExposure =
    totalOf (fun _ => true) TradeOrderInventoryEntry.ordered entries -
      totalOf finished TradeOrderInventoryEntry.remainder entries
  offers : summary.ledgerOpenOffers = countOf rests entries
  pendings : summary.pendingSubmissions = countOf (· == .pendingSubmission) entries
  uncertains : summary.uncertainSubmissions = countOf (· == .submittedUncertain) entries

theorem InventoryTotals.Of.summarizes (h : totals.Of entries) : Summarizes totals.summary entries := by
  obtain ⟨hcurrent,hcurrentValue⟩ := decimalOf_spec h.decimal.1
  obtain ⟨hpending,hpendingValue⟩ := decimalOf_spec h.decimal.2.1
  obtain ⟨hopen,hopenValue⟩ := decimalOf_spec h.decimal.2.2
  rw [h.settled] at hcurrentValue
  rw [h.pending] at hpendingValue
  rw [h.resting] at hopenValue
  refine ⟨⟨hcurrent,hpending,hopen⟩,hcurrentValue,hpendingValue,hopenValue,?_,h.offers,
    h.pendings,h.uncertains⟩
  rw [summary,hcurrentValue,hpendingValue,hopenValue,totalOf_ordered]

theorem InventoryTotals.Of.unique (h : totals.Of entries) (h' : totals'.Of entries')
    (hperm : entries.Perm entries') : totals = totals' := by
  have hsettled := h.lowest.1.eq_of_value h'.lowest.1
    (by rw [h.settled,h'.settled,totalOf_perm _ _ hperm])
  have hpending := h.lowest.2.1.eq_of_value h'.lowest.2.1
    (by rw [h.pending,h'.pending,totalOf_perm _ _ hperm])
  have hopen := h.lowest.2.2.eq_of_value h'.lowest.2.2
    (by rw [h.resting,h'.resting,totalOf_perm _ _ hperm])
  have hoffers : totals.ledgerOpenOffers = totals'.ledgerOpenOffers := by
    rw [h.offers,h'.offers,countOf,countOf,hperm.countP_eq]
  have hpendings : totals.pendingSubmissions = totals'.pendingSubmissions := by
    rw [h.pendings,h'.pendings,countOf,countOf,hperm.countP_eq]
  have huncertains : totals.uncertainSubmissions = totals'.uncertainSubmissions := by
    rw [h.uncertains,h'.uncertains,countOf,countOf,hperm.countP_eq]
  cases totals
  cases totals'
  simp_all

theorem overfilled_eq_false : entry.overfilled = false ↔ entry.filled ≤ entry.ordered := by
  rw [← not_iff_not,Bool.not_eq_false,entry.overfilled_iff,not_le]

theorem summarize_eq_ok {summary : TradeOrderInventorySummary} :
    summarizeTradeOrderInventory raw = .ok summary ↔
      ∃ entries totals, InventoryOf raw entries ∧ totals.Of entries ∧
        summary = InventoryTotals.summary totals := by
  constructor
  · intro h
    unfold summarizeTradeOrderInventory at h
    cases hlist : plainList raw 100000 with
    | none =>
      rw [hlist] at h
      cases h
    | some values =>
      simp only [hlist,Data.map_eq_ok] at h
      obtain ⟨totals,htotals,rfl⟩ := h
      obtain ⟨rfl,hlength⟩ := plainList_eq_some.1 hlist
      obtain ⟨entries,hentries,hfits,hof⟩ := summarizeFrom_eq_ok .zero htotals
      exact ⟨entries,totals,⟨values,rfl,hlength,hentries,
        fun entry hentry => overfilled_eq_false.1 (hfits entry hentry)⟩,hof,rfl⟩
  · rintro ⟨entries,totals,⟨values,rfl,hlength,hentries,hfits⟩,hof,rfl⟩
    have hover : ∀ entry ∈ entries, entry.overfilled = false :=
      fun entry hentry => overfilled_eq_false.2 (hfits entry hentry)
    have hrun := summarizeFrom_ok hentries hover 0 .zero
    obtain ⟨entries',hentries',-,hof'⟩ := summarizeFrom_eq_ok .zero hrun
    have hsame : entries' = entries := by
      rw [hentries'] at hentries
      exact (map_injective_iff.2 (Option.some_injective _)) hentries
    rw [nil_append,hsame] at hof'
    rw [summarizeTradeOrderInventory,listOf,plainList_eq_some.2 ⟨rfl,hlength⟩]
    simp only [hrun,Except.map]
    rw [hof'.unique hof (.refl _)]

theorem InventoryOf.summarized (h : InventoryOf raw entries) :
    ∃ totals : InventoryTotals, totals.Of entries ∧
      summarizeTradeOrderInventory raw = .ok totals.summary := by
  obtain ⟨values,hraw,hlength,hentries,hfits⟩ := h
  have hrun := summarizeFrom_ok hentries
    (fun entry hentry => overfilled_eq_false.2 (hfits entry hentry)) 0 .zero
  obtain ⟨entries',hentries',-,hof⟩ := summarizeFrom_eq_ok .zero hrun
  have hsame : entries' = entries := by
    rw [hentries'] at hentries
    exact (map_injective_iff.2 (Option.some_injective _)) hentries
  rw [nil_append,hsame] at hof
  exact ⟨_,hof,summarize_eq_ok.2 ⟨entries,_,⟨values,hraw,hlength,hentries,hfits⟩,hof,rfl⟩⟩

theorem listOf_inj : listOf values = listOf values' ↔ values = values' := by
  rw [listOf,listOf,RawValue.list.injEq]
  exact ⟨fun h => (map_injective_iff.2 (Option.some_injective _)) h.1,fun h => by rw [h]; simp⟩

theorem inventoryOf_append (h : InventoryOf (listOf (values ++ values')) entries) :
    ∃ left right, entries = left ++ right ∧ InventoryOf (listOf values) left ∧
      InventoryOf (listOf values') right := by
  obtain ⟨all,hall,hlength,hentries,hfits⟩ := h
  obtain rfl := listOf_inj.1 hall
  rw [map_append] at hentries
  obtain ⟨left,right,rfl,hleft,hright⟩ := map_eq_append_iff.1 hentries.symm
  rw [length_append] at hlength
  refine ⟨left,right,rfl,⟨values,rfl,by omega,hleft.symm,?_⟩, ⟨values',rfl,by omega,hright.symm,?_⟩⟩
  · exact fun entry hentry => hfits entry (mem_append_left _ hentry)
  · exact fun entry hentry => hfits entry (mem_append_right _ hentry)

theorem exists_perm_of_map {α β : Type} {f : α → β} {xs ys : List β} {as : List α}
    (hxs : xs = as.map f) (h : xs.Perm ys) : ∃ bs, ys = bs.map f ∧ as.Perm bs := by
  subst hxs
  generalize hzs : as.map f = zs at h
  induction h generalizing as with
  | nil =>
    obtain rfl : as = [] := by simpa using hzs
    exact ⟨[],rfl,.refl _⟩
  | cons x h ih =>
    obtain ⟨a,as,rfl,rfl,htail⟩ := map_eq_cons_iff.1 hzs
    obtain ⟨bs,rfl,hperm⟩ := ih htail
    exact ⟨a :: bs,rfl,hperm.cons a⟩
  | swap x y zs =>
    obtain ⟨b,as,rfl,rfl,htail⟩ := map_eq_cons_iff.1 hzs
    obtain ⟨a,as,rfl,rfl,rfl⟩ := map_eq_cons_iff.1 htail
    exact ⟨a :: b :: as,rfl,List.Perm.swap a b as⟩
  | trans h h' ih ih' =>
    obtain ⟨bs,rfl,hperm⟩ := ih hzs
    obtain ⟨cs,rfl,hperm'⟩ := ih' rfl
    exact ⟨cs,rfl,hperm.trans hperm'⟩

theorem inventoryOf_perm (hperm : values.Perm values') (h : InventoryOf (listOf values) entries) :
    ∃ entries', entries.Perm entries' ∧ InventoryOf (listOf values') entries' := by
  obtain ⟨all,hall,hlength,hentries,hfits⟩ := h
  obtain rfl := listOf_inj.1 hall
  obtain ⟨entries',hentries',hsame⟩ := exists_perm_of_map hentries (hperm.map readEntry)
  refine ⟨entries',hsame,values',rfl,by rw [← hperm.length_eq]; exact hlength,hentries',?_⟩
  exact fun entry hentry => hfits entry (hsame.mem_iff.2 hentry)

/-- A value that is no order record, or an order filled beyond what was ordered. -/
def Refused (raw : RawValue) : Prop :=
  ∀ entry, readEntry raw = some entry → entry.ordered < entry.filled

theorem not_inventoryOf_of_refused (hraw : raw ∈ values) (h : Refused raw)
    (entries : List TradeOrderInventoryEntry) : ¬InventoryOf (listOf values) entries := by
  rintro ⟨all,hall,-,hentries,hfits⟩
  obtain rfl := listOf_inj.1 hall
  have hread : readEntry raw ∈ entries.map some := by
    rw [← hentries]
    exact mem_map_of_mem hraw
  obtain ⟨entry,hentry,hsome⟩ := mem_map.1 hread
  exact absurd (h entry hsome.symm) (not_lt.2 (hfits entry hentry))

/-- What an accepted list of orders is summarized as, of the list, of its parts and of its
rearrangements. -/
theorem inventory_exact : (∀ raw summary, summarizeTradeOrderInventory raw = .ok summary →
      ∃ entries, InventoryOf raw entries ∧ Summarizes summary entries) ∧
    (∀ raw entries, InventoryOf raw entries → ∃ summary, summarizeTradeOrderInventory raw = .ok summary) ∧
    (∀ values values' summary, summarizeTradeOrderInventory (listOf (values ++ values')) = .ok summary →
      ∃ left right, summarizeTradeOrderInventory (listOf values) = .ok left ∧
        summarizeTradeOrderInventory (listOf values') = .ok right ∧ decimalValue summary.currentExposure =
          decimalValue left.currentExposure + decimalValue right.currentExposure ∧
        decimalValue summary.pendingExposure =
          decimalValue left.pendingExposure + decimalValue right.pendingExposure ∧
        decimalValue summary.activeOrderExposure =
          decimalValue left.activeOrderExposure + decimalValue right.activeOrderExposure ∧
        summary.ledgerOpenOffers = left.ledgerOpenOffers + right.ledgerOpenOffers ∧
        summary.pendingSubmissions = left.pendingSubmissions + right.pendingSubmissions ∧
        summary.uncertainSubmissions = left.uncertainSubmissions + right.uncertainSubmissions) ∧
    (∀ values values' summary, values.Perm values' →
      summarizeTradeOrderInventory (listOf values) = .ok summary →
      summarizeTradeOrderInventory (listOf values') = .ok summary) ∧
    ∀ values raw summary, raw ∈ values → Refused raw →
      summarizeTradeOrderInventory (listOf values) ≠ .ok summary := by
  refine ⟨?_,?_,?_,?_,?_⟩
  · intro raw summary h
    obtain ⟨entries,totals,hentries,hof,rfl⟩ := summarize_eq_ok.1 h
    exact ⟨entries,hentries,hof.summarizes⟩
  · intro raw entries h
    obtain ⟨totals,-,hok⟩ := h.summarized
    exact ⟨_,hok⟩
  · intro values values' summary h
    obtain ⟨entries,totals,hentries,hof,rfl⟩ := summarize_eq_ok.1 h
    obtain ⟨left,right,rfl,hleft,hright⟩ := inventoryOf_append hentries
    obtain ⟨totalsLeft,hofLeft,hokLeft⟩ := hleft.summarized
    obtain ⟨totalsRight,hofRight,hokRight⟩ := hright.summarized
    have hsum := hof.summarizes
    have hl := hofLeft.summarizes
    have hr := hofRight.summarizes
    refine ⟨_,_,hokLeft,hokRight,?_,?_,?_,?_,?_,?_⟩
    · rw [hsum.current,hl.current,hr.current,totalOf_append]
    · rw [hsum.pending,hl.pending,hr.pending,totalOf_append]
    · rw [hsum.active,hl.active,hr.active,totalOf_append]
    · rw [hsum.offers,hl.offers,hr.offers,countOf_append]
    · rw [hsum.pendings,hl.pendings,hr.pendings,countOf_append]
    · rw [hsum.uncertains,hl.uncertains,hr.uncertains,countOf_append]
  · intro values values' summary hperm h
    obtain ⟨entries,totals,hentries,hof,rfl⟩ := summarize_eq_ok.1 h
    obtain ⟨entries',hsame,hentries'⟩ := inventoryOf_perm hperm hentries
    obtain ⟨totals',hof',hok'⟩ := hentries'.summarized
    rw [hok',hof.unique hof' hsame]
  · intro values raw summary hraw hrefused h
    obtain ⟨entries,totals,hentries,-,-⟩ := summarize_eq_ok.1 h
    exact not_inventoryOf_of_refused hraw hrefused entries hentries

def sampleOrder (state ordered filled : String) : RawValue :=
  .record true [(.name "state", some (.str state)), (.name "orderedExposure", some (.str ordered)),
    (.name "filledExposure", some (.str filled))]

def sampleResting : RawValue := sampleOrder "partially-filled" "10.5" "0.25"

def sampleAwaiting : RawValue := sampleOrder "pending-submission" "1" "0"

def sampleOverfilled : RawValue := sampleOrder "open" "1" "1.5"

def sampleSummary : TradeOrderInventorySummary := ⟨"0.25","1","10.25",1,1,0⟩

theorem sampleOrders_summarized :
    summarizeTradeOrderInventory (listOf ([sampleResting] ++ [sampleAwaiting])) = .ok sampleSummary := by
  rfl

theorem sampleOverfilled_refused : Refused sampleOverfilled := by
  intro entry h
  have hread : readEntry sampleOverfilled = some ⟨.open,⟨"1",by decide⟩,⟨"1.5",by decide⟩⟩ := rfl
  obtain rfl := Option.some.inj (hread.symm.trans h)
  exact (TradeOrderInventoryEntry.overfilled_iff _).1 (by decide)

theorem sampleOrders_exact :
    (∃ entries, InventoryOf (listOf ([sampleResting] ++ [sampleAwaiting])) entries ∧
      Summarizes sampleSummary entries) ∧
    (∃ left right, summarizeTradeOrderInventory (listOf [sampleResting]) = .ok left ∧
      summarizeTradeOrderInventory (listOf [sampleAwaiting]) = .ok right ∧
      decimalValue sampleSummary.currentExposure =
        decimalValue left.currentExposure + decimalValue right.currentExposure) ∧
    summarizeTradeOrderInventory (listOf [sampleAwaiting, sampleResting]) = .ok sampleSummary ∧
    summarizeTradeOrderInventory (listOf [sampleAwaiting, sampleOverfilled]) ≠ .ok sampleSummary := by
  obtain ⟨hexact,haccepted,hparts,hperm,hrefused⟩ := inventory_exact
  obtain ⟨left,right,hleft,hright,hsum,-⟩ := hparts _ _ _ sampleOrders_summarized
  refine ⟨hexact _ _ sampleOrders_summarized,⟨left,right,hleft,hright,hsum⟩,?_,?_⟩
  · exact hperm _ _ _ (List.Perm.swap _ _ _) sampleOrders_summarized
  · exact hrefused _ _ _ (by simp) sampleOverfilled_refused

end Frontera.Trade
