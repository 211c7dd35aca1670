import Mathlib.Algebra.BigOperators.Intervals
import Mathlib.Algebra.Order.BigOperators.Group.Finset

/-! Dates, the date after a date, and the number of days from the first of January of a year,
counted in whole years, whole months and days. -/

namespace Frontera.Data.Calendar

def IsLeap (year : ℕ) : Prop := 4 ∣ year ∧ ¬ 100 ∣ year ∨ 400 ∣ year

instance : DecidablePred IsLeap := fun year =>
  inferInstanceAs (Decidable (4 ∣ year ∧ ¬ 100 ∣ year ∨ 400 ∣ year))

def yearLength (year : ℕ) : ℕ := if IsLeap year then 366 else 365

def monthLength (year : ℕ) : ℕ → ℕ
  | 2 => if IsLeap year then 29 else 28
  | 4 | 6 | 9 | 11 => 30
  | _ => 31

structure Date where
  (year month day : ℕ)

namespace Date

/-- The date exists. -/
structure Valid (date : Date) : Prop where
  month_pos : 1 ≤ date.month
  month_le : date.month ≤ 12
  day_pos : 1 ≤ date.day
  day_le : date.day ≤ monthLength date.year date.month

/-- The day after. -/
def next (date : Date) : Date :=
  if date.day < monthLength date.year date.month then ⟨date.year,date.month,date.day + 1⟩
  else if date.month < 12 then ⟨date.year,date.month + 1,1⟩
  else ⟨date.year + 1,1,1⟩

end Date

theorem monthLength_pos (year month : ℕ) : 1 ≤ monthLength year month := by
  unfold monthLength
  split
  · split_ifs <;> omega
  all_goals omega

variable {date : Date} {first year month other : ℕ}

theorem Date.Valid.next (h : date.Valid) : date.next.Valid := by
  have hpos := monthLength_pos
  unfold Date.next
  split_ifs with hday hmonth
  · exact ⟨h.month_pos,h.month_le,by simp,hday⟩
  · exact ⟨by simp,hmonth,le_rfl,hpos _ _⟩
  · exact ⟨le_rfl,by simp,le_rfl,hpos _ _⟩

def daysBeforeYear (first year : ℕ) : ℕ := ∑ y ∈ Finset.Ico first year, yearLength y

def daysBeforeMonth (year month : ℕ) : ℕ := ∑ m ∈ Finset.Ico 1 month, monthLength year m

/-- The days from the first of January of `first` to a date. -/
def dayNumber (first : ℕ) (date : Date) : ℕ :=
  daysBeforeYear first date.year + daysBeforeMonth date.year date.month + (date.day - 1)

@[simp] theorem daysBeforeYear_self (first : ℕ) : daysBeforeYear first first = 0 := by
  simp [daysBeforeYear]

@[simp] theorem daysBeforeMonth_one (year : ℕ) : daysBeforeMonth year 1 = 0 := by
  simp [daysBeforeMonth]

theorem daysBeforeYear_succ (h : first ≤ year) :
    daysBeforeYear first (year + 1) = daysBeforeYear first year + yearLength year :=
  Finset.sum_Ico_succ_top h _

theorem daysBeforeMonth_succ (year : ℕ) (h : 1 ≤ month) :
    daysBeforeMonth year (month + 1) = daysBeforeMonth year month + monthLength year month :=
  Finset.sum_Ico_succ_top h _

theorem daysBeforeMonth_december (year : ℕ) :
    daysBeforeMonth year 12 + monthLength year 12 = yearLength year := by
  have hmonths : Finset.Ico 1 12 = {1, 2, 3, 4, 5, 6, 7, 8, 9, 10, 11} := by decide
  rw [daysBeforeMonth,yearLength,hmonths]
  by_cases hleap : IsLeap year <;> simp [monthLength,hleap]

theorem dayNumber_next (h : date.Valid) (hfirst : first ≤ date.year) :
    dayNumber first date.next = dayNumber first date + 1 := by
  have hday := h.day_pos
  have hlast := h.day_le
  unfold Date.next
  split_ifs with hinside hmonth
  · simp only [dayNumber]
    omega
  · have hstep := daysBeforeMonth_succ date.year h.month_pos
    simp only [dayNumber]
    omega
  · have hdecember : date.month = 12 := by
      have := h.month_le
      omega
    have hstep := daysBeforeYear_succ hfirst
    have hwhole := daysBeforeMonth_december date.year
    rw [← hdecember] at hwhole
    simp only [dayNumber,daysBeforeMonth_one]
    omega

/-- The date comes before another. -/
def Date.Before (date other : Date) : Prop :=
  date.year < other.year ∨ date.year = other.year ∧
    (date.month < other.month ∨ date.month = other.month ∧ date.day < other.day)

theorem Date.before_trichotomy (date other : Date) :
    date.Before other ∨ date = other ∨ other.Before date := by
  obtain ⟨year,month,day⟩ := date
  obtain ⟨year',month',day'⟩ := other
  simp only [Before,mk.injEq]
  omega

theorem daysBeforeYear_mono (h : year ≤ other) : daysBeforeYear first year ≤ daysBeforeYear first other :=
  Finset.sum_le_sum_of_subset (Finset.Ico_subset_Ico_right h)

theorem daysBeforeMonth_mono (year : ℕ) (h : month ≤ other) :
    daysBeforeMonth year month ≤ daysBeforeMonth year other :=
  Finset.sum_le_sum_of_subset (Finset.Ico_subset_Ico_right h)

theorem Date.Valid.inside (h : date.Valid) : daysBeforeMonth date.year date.month + (date.day - 1) <
        daysBeforeMonth date.year (date.month + 1) ∧
      daysBeforeMonth date.year (date.month + 1) ≤ yearLength date.year := by
  have hpos := h.day_pos
  have hle := h.day_le
  have hmonth := daysBeforeMonth_succ date.year h.month_pos
  have hyear : daysBeforeMonth date.year 13 = yearLength date.year := by
    rw [← daysBeforeMonth_december,daysBeforeMonth_succ date.year (by decide)]
  have hmono := daysBeforeMonth_mono date.year (Nat.add_le_add_right h.month_le 1)
  simp only [Nat.reduceAdd,hyear] at hmono
  omega

theorem dayNumber_lt {other : Date} (h : date.Valid) (hfirst : first ≤ date.year)
    (hbefore : date.Before other) : dayNumber first date < dayNumber first other := by
  obtain ⟨hmonth,hyear⟩ := h.inside
  have hday := h.day_pos
  unfold dayNumber
  rcases hbefore with hlt | ⟨heq,hlt | ⟨heq',hlt⟩⟩
  · have hmono := @daysBeforeYear_mono first _ _ (Nat.succ_le_of_lt hlt)
    rw [Nat.succ_eq_add_one,daysBeforeYear_succ hfirst] at hmono
    omega
  · have hmono := daysBeforeMonth_mono date.year (Nat.succ_le_of_lt hlt)
    rw [Nat.succ_eq_add_one] at hmono
    rw [← heq]
    omega
  · rw [← heq,← heq']
    omega

end Frontera.Data.Calendar
