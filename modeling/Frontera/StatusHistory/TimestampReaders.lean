import Frontera.Mpp.Expiry
import Frontera.StatusHistory.Status

/-! The status and freshness layers read a canonical timestamp as nanoseconds by calendar
arithmetic, the policy layer as a text of fixed width. Both accept the same texts and order them
alike. -/

namespace Frontera.StatusHistory

open Frontera.Data Frontera.Data.Calendar Frontera.Text List Option
open Frontera.Mpp (IsDigits)

/-- `(?:\.(\d{1,9}))?Z`, as `match[7] ?? ''`. -/
def fractionDigits : List Char → Option (List Char)
  | ['Z'] => some []
  | '.' :: text =>
      let digits := text.takeWhile Char.isDigit
      if 1 ≤ digits.length ∧ digits.length ≤ 9 ∧ text.dropWhile Char.isDigit = ['Z'] then
        some digits
      else none
  | _ => none

/-- The groups of `CANONICAL_TIMESTAMP`. -/
structure Timestamp where
  (year month day hour minute second fraction : List Char)
deriving DecidableEq

/-- `CANONICAL_TIMESTAMP.exec` -/
def matchTimestamp (text : List Char) : Option Timestamp := do
  let (year, text) ← takeDigits 4 text
  let (month, text) ← takeChar '-' text >>= takeDigits 2
  let (day, text) ← takeChar '-' text >>= takeDigits 2
  let (hour, text) ← takeChar 'T' text >>= takeDigits 2
  let (minute, text) ← takeChar ':' text >>= takeDigits 2
  let (second, text) ← takeChar ':' text >>= takeDigits 2
  let fraction ← fractionDigits text
  some ⟨year,month,day,hour,minute,second,fraction⟩

/-- The ranges that both readers check. -/
def Timestamp.inRange (stamp : Timestamp) : Bool :=
  let month := numberOf stamp.month
  let day := numberOf stamp.day
  !(decide (month < 1 ∨ 12 < month ∨ 23 < numberOf stamp.hour ∨ 59 < numberOf stamp.minute ∨
    59 < numberOf stamp.second)) &&
    !(decide (day < 1 ∨ daysInMonth (numberOf stamp.year) month < day))

/-- A totally ordered key of a canonical timestamp; the text that matches is ASCII, so that
`value.slice(0, 19)` is its first 19 characters. -/
def timestampKey (value : String) : Option String :=
  match matchTimestamp value.toList with
  | none => none
  | some stamp =>
      if stamp.inRange then
        some (String.ofList (value.toList.take 19 ++ '.' :: padEnd stamp.fraction 9))
      else none

namespace Timestamp

/-- A text spells the groups. -/
structure Spells (stamp : Timestamp) (text : List Char) : Prop where
  year : IsDigits 4 stamp.year
  month : IsDigits 2 stamp.month
  day : IsDigits 2 stamp.day
  hour : IsDigits 2 stamp.hour
  minute : IsDigits 2 stamp.minute
  second : IsDigits 2 stamp.second
  fraction_le : stamp.fraction.length ≤ 9
  fraction : ∀ c ∈ stamp.fraction, c.isDigit = true
  text : text = stamp.year ++ '-' :: (stamp.month ++ '-' :: (stamp.day ++ 'T' :: (stamp.hour ++
    ':' :: (stamp.minute ++ ':' :: (stamp.second ++
      ((if stamp.fraction = [] then [] else '.' :: stamp.fraction) ++ ['Z']))))))

def date (stamp : Timestamp) : Date :=
  ⟨numberOf stamp.year,numberOf stamp.month,numberOf stamp.day⟩

/-- The date exists, and so does the time of day. -/
structure Exists (stamp : Timestamp) : Prop where
  date : stamp.date.Valid
  hour_le : numberOf stamp.hour ≤ 23
  minute_le : numberOf stamp.minute ≤ 59
  second_le : numberOf stamp.second ≤ 59

def secondOfDay (stamp : Timestamp) : Nat :=
  (numberOf stamp.hour * 60 + numberOf stamp.minute) * 60 + numberOf stamp.second

/-- The nanoseconds of a fraction of at most nine digits. -/
def fractionNanoseconds (stamp : Timestamp) : Nat :=
  numberOf stamp.fraction * 10 ^ (9 - stamp.fraction.length)

/-- The nanoseconds from 1970-01-01T00:00:00Z, in days of the calendar from the year 0. -/
def nanoseconds (stamp : Timestamp) : Int :=
  (((dayNumber 0 stamp.date : Int) - dayNumber 0 ⟨1970,1,1⟩) * 86400 + stamp.secondOfDay) *
    1000000000 + stamp.fractionNanoseconds

/-- The key of a timestamp: every field in its place, and nine digits of a fraction. -/
def key (stamp : Timestamp) : List Char :=
  stamp.year ++ '-' :: (stamp.month ++ '-' :: (stamp.day ++ 'T' :: (stamp.hour ++
    ':' :: (stamp.minute ++ ':' :: (stamp.second ++ '.' :: padEnd stamp.fraction 9)))))

end Timestamp

variable {n : Nat} {text rest : List Char} {c : Char} {stamp : Timestamp} {value : String}

theorem takeDigits_eq_some_iff {digits : List Char} : takeDigits n text = some (digits, rest) ↔
      text = digits ++ rest ∧ digits.length = n ∧ ∀ c ∈ digits, c.isDigit = true := by
  induction n generalizing text digits with
  | zero =>
    rw [takeDigits,some_inj,Prod.mk.injEq]
    constructor
    · rintro ⟨rfl,rfl⟩
      exact ⟨rfl,rfl,by simp⟩
    · rintro ⟨htext,hlength,-⟩
      obtain rfl := eq_nil_of_length_eq_zero hlength
      exact ⟨rfl,htext⟩
  | succ n ih =>
    cases text with
    | nil =>
      simp only [takeDigits,reduceCtorEq,false_iff,not_and]
      intro htext hlength
      obtain ⟨rfl,-⟩ := append_eq_nil_iff.1 htext.symm
      cases hlength
    | cons c text =>
      rw [takeDigits]
      constructor
      · intro h
        split_ifs at h with hdigit
        obtain ⟨⟨front,rest'⟩,hfront,heq⟩ := map_eq_some_iff.1 h
        cases heq
        obtain ⟨rfl,hlength,hdigits⟩ := ih.1 hfront
        exact ⟨rfl,congrArg (· + 1) hlength,forall_mem_cons.2 ⟨hdigit,hdigits⟩⟩
      · rintro ⟨htext,hlength,hdigits⟩
        obtain ⟨d,digits,rfl⟩ := exists_cons_of_length_eq_add_one hlength
        obtain ⟨rfl,rfl⟩ := List.cons.inj htext
        have hrest : takeDigits n (digits ++ rest) = some (digits, rest) :=
          ih.2 ⟨rfl,Nat.succ.inj hlength,fun d hd => hdigits d (mem_cons_of_mem c hd)⟩
        rw [if_pos (hdigits c mem_cons_self)]
        exact map_eq_some_iff.2 ⟨_,hrest,rfl⟩

theorem takeField_eq_some_iff {digits : List Char} :
    (takeChar c text >>= takeDigits n) = some (digits, rest) ↔
      text = c :: (digits ++ rest) ∧ IsDigits n digits := by
  cases text with
  | nil => simp [takeChar]
  | cons d text =>
    rw [takeChar]
    by_cases hc : d = c
    · rw [if_pos hc,bind_eq_bind,bind_some,takeDigits_eq_some_iff,hc]
      simp [IsDigits]
    · rw [if_neg hc,bind_eq_bind,bind_none]
      simp [hc]

theorem fractionDigits_eq_some_iff {digits : List Char} : fractionDigits text = some digits ↔
      text = (if digits = [] then [] else '.' :: digits) ++ ['Z'] ∧ digits.length ≤ 9 ∧
        ∀ c ∈ digits, c.isDigit = true := by
  constructor
  · intro h
    unfold fractionDigits at h
    split at h
    · cases h
      simp
    · next text =>
      simp only at h
      split_ifs at h with hshape
      cases h
      obtain ⟨hpos,hle,hrest⟩ := hshape
      have hne : text.takeWhile Char.isDigit ≠ [] := ne_nil_of_length_pos hpos
      refine ⟨?_,hle,fun c hc => mem_takeWhile_imp hc⟩
      rw [if_neg hne,cons_append,← hrest,takeWhile_append_dropWhile]
    · cases h
  · rintro ⟨rfl,hle,hdigits⟩
    by_cases hnil : digits = []
    · subst hnil
      rfl
    · have htake : (digits ++ ['Z']).takeWhile Char.isDigit = digits := by
        rw [takeWhile_append_of_pos hdigits]
        simp
      have hdrop : (digits ++ ['Z']).dropWhile Char.isDigit = ['Z'] := by
        rw [dropWhile_append_of_pos hdigits]
        rfl
      rw [if_neg hnil,cons_append,fractionDigits]
      · simp only [htake,hdrop]
        rw [if_pos ⟨length_pos_of_ne_nil hnil,hle,trivial⟩]

theorem matchTimestamp_eq_some_iff : matchTimestamp text = some stamp ↔ stamp.Spells text := by
  constructor
  · intro h
    rw [matchTimestamp] at h
    obtain ⟨⟨year,t1⟩,hyear,h⟩ := bind_eq_some_iff.1 h
    obtain ⟨⟨month,t2⟩,hmonth,h⟩ := bind_eq_some_iff.1 h
    obtain ⟨⟨day,t3⟩,hday,h⟩ := bind_eq_some_iff.1 h
    obtain ⟨⟨hour,t4⟩,hhour,h⟩ := bind_eq_some_iff.1 h
    obtain ⟨⟨minute,t5⟩,hminute,h⟩ := bind_eq_some_iff.1 h
    obtain ⟨⟨second,t6⟩,hsecond,h⟩ := bind_eq_some_iff.1 h
    obtain ⟨fraction,hfraction,h⟩ := bind_eq_some_iff.1 h
    cases h
    obtain ⟨rfl,iyear⟩ := takeDigits_eq_some_iff.1 hyear
    obtain ⟨rfl,imonth⟩ := takeField_eq_some_iff.1 hmonth
    obtain ⟨rfl,iday⟩ := takeField_eq_some_iff.1 hday
    obtain ⟨rfl,ihour⟩ := takeField_eq_some_iff.1 hhour
    obtain ⟨rfl,iminute⟩ := takeField_eq_some_iff.1 hminute
    obtain ⟨rfl,isecond⟩ := takeField_eq_some_iff.1 hsecond
    obtain ⟨rfl,hle,hdigits⟩ := fractionDigits_eq_some_iff.1 hfraction
    exact ⟨iyear,imonth,iday,ihour,iminute,isecond,hle,hdigits,rfl⟩
  · intro h
    rw [h.text,matchTimestamp]
    refine bind_eq_some_iff.2 ⟨_,takeDigits_eq_some_iff.2 ⟨rfl,h.year⟩,?_⟩
    refine bind_eq_some_iff.2 ⟨_,takeField_eq_some_iff.2 ⟨rfl,h.month⟩,?_⟩
    refine bind_eq_some_iff.2 ⟨_,takeField_eq_some_iff.2 ⟨rfl,h.day⟩,?_⟩
    refine bind_eq_some_iff.2 ⟨_,takeField_eq_some_iff.2 ⟨rfl,h.hour⟩,?_⟩
    refine bind_eq_some_iff.2 ⟨_,takeField_eq_some_iff.2 ⟨rfl,h.minute⟩,?_⟩
    refine bind_eq_some_iff.2 ⟨_,takeField_eq_some_iff.2 ⟨rfl,h.second⟩,?_⟩
    exact bind_eq_some_iff.2
      ⟨_,fractionDigits_eq_some_iff.2 ⟨rfl,h.fraction_le,h.fraction⟩,rfl⟩

theorem readFraction_eq (text : List Char) :
    readFraction text = (fractionDigits text).map fun digits => numberOf (padEnd digits 9) := by
  unfold readFraction
  split
  · decide
  · simp only [fractionDigits]
    split_ifs <;> rfl
  · next hmark hpoint =>
    rw [fractionDigits.eq_3 _ hmark hpoint]
    rfl

theorem canonicalInstant_eq (value : String) :
    canonicalInstant value = (matchTimestamp value.toList).bind fun stamp =>
      if stamp.inRange then
        some ((daysFromCivil (numberOf stamp.year) (numberOf stamp.month) (numberOf stamp.day) *
          86400 + (numberOf stamp.hour * 3600 + numberOf stamp.minute * 60 +
            numberOf stamp.second : Nat)) * nanosPerSecond + numberOf (padEnd stamp.fraction 9))
      else none := by
  have hfield : ∀ (c : Char) (text : List Char), (takeChar c text >>= takeNumber 2) =
      (takeChar c text >>= takeDigits 2).map fun p => (numberOf p.1, p.2) := by
    intro c text
    cases takeChar c text <;> rfl
  rw [canonicalInstant,matchTimestamp]
  simp only [hfield,takeNumber,readFraction_eq]
  rcases takeDigits 4 value.toList with _ | ⟨year,text⟩
  · rfl
  simp only [map_some,bind_eq_bind,bind_some]
  rcases (takeChar '-' text).bind (takeDigits 2) with _ | ⟨month,text⟩
  · rfl
  simp only [map_some,bind_some]
  rcases (takeChar '-' text).bind (takeDigits 2) with _ | ⟨day,text⟩
  · rfl
  simp only [map_some,bind_some]
  rcases (takeChar 'T' text).bind (takeDigits 2) with _ | ⟨hour,text⟩
  · rfl
  simp only [map_some,bind_some]
  rcases (takeChar ':' text).bind (takeDigits 2) with _ | ⟨minute,text⟩
  · rfl
  simp only [map_some,bind_some]
  rcases (takeChar ':' text).bind (takeDigits 2) with _ | ⟨second,text⟩
  · rfl
  simp only [map_some,bind_some]
  rcases fractionDigits text with _ | fraction
  · rfl
  simp only [map_some,bind_some,Timestamp.inRange]
  split_ifs <;> simp_all

theorem daysInMonth_eq (year month : Nat) : daysInMonth year month = monthLength year month := by
  have hleap : ((year % 4 = 0 ∧ year % 100 ≠ 0) ∨ year % 400 = 0) ↔ IsLeap year := by
    simp only [IsLeap,Nat.dvd_iff_mod_eq_zero]
  unfold monthLength
  split
  · simp only [daysInMonth,if_true,hleap]
  · rfl
  · rfl
  · rfl
  · rfl
  · next h2 h4 h6 h9 h11 =>
    have hlong : month ∉ [4, 6, 9, 11] := by simpa using ⟨h4,h6,h9,h11⟩
    rw [daysInMonth,if_neg h2,if_neg hlong]

theorem Timestamp.inRange_iff : stamp.inRange = true ↔ stamp.Exists := by
  simp only [Timestamp.inRange,Bool.and_eq_true,Bool.not_eq_true',decide_eq_false_iff_not,
    not_or,not_lt,daysInMonth_eq]
  constructor
  · rintro ⟨⟨hmonth,hle,hhour,hminute,hsecond⟩,hday,hlast⟩
    exact ⟨⟨hmonth,hle,hday,hlast⟩,hhour,hminute,hsecond⟩
  · rintro ⟨hdate,hhour,hminute,hsecond⟩
    exact ⟨⟨hdate.month_pos,hdate.month_le,hhour,hminute,hsecond⟩,hdate.day_pos,hdate.day_le⟩

theorem daysFromCivil_civil {year month day : Int} (hpos : 1 ≤ month) (hle : month ≤ 12) :
    daysFromCivil year month day = Mpp.daysFromCivil year month day := by
  simp only [daysFromCivil,Mpp.daysFromCivil]
  split_ifs <;> omega

theorem daysFromCivil_eq {date : Date} (h : date.Valid) : daysFromCivil date.year date.month date.day =
      (dayNumber 0 date : Int) - dayNumber 0 ⟨1970,1,1⟩ := by
  have hepoch : (⟨1970,1,1⟩ : Date).Valid := ⟨by decide,by decide,by decide,by decide⟩
  have hsince := Mpp.daysFromCivil_since h (Nat.zero_le _)
  have hzero := Mpp.daysFromCivil_since hepoch (Nat.zero_le _)
  have hmonth := h.month_pos
  have hmonth' := h.month_le
  simp only [Nat.cast_ofNat,Nat.cast_one,Mpp.daysFromCivil_epoch] at hzero
  rw [daysFromCivil_civil (by omega) (by omega),hsince]
  omega

theorem numberOf_padEnd (stamp : Timestamp) :
    numberOf (padEnd stamp.fraction 9) = stamp.fractionNanoseconds := by
  rw [numberOf,ofDigitChars_padEnd,Timestamp.fractionNanoseconds,numberOf,Nat.mul_comm]

theorem canonicalInstant_eq_some_iff {instant : Int} :
    canonicalInstant value = some instant ↔ ∃ stamp : Timestamp,
      stamp.Spells value.toList ∧ stamp.Exists ∧ instant = stamp.nanoseconds := by
  have hvalue : ∀ stamp : Timestamp, stamp.Exists →
      (daysFromCivil (numberOf stamp.year) (numberOf stamp.month) (numberOf stamp.day) * 86400 +
          (numberOf stamp.hour * 3600 + numberOf stamp.minute * 60 + numberOf stamp.second : Nat)) *
        nanosPerSecond + numberOf (padEnd stamp.fraction 9) = stamp.nanoseconds := by
    intro stamp hexists
    have hdays := daysFromCivil_eq hexists.date
    simp only [Timestamp.date] at hdays
    rw [hdays,numberOf_padEnd,Timestamp.nanoseconds,Timestamp.secondOfDay,nanosPerSecond]
    simp only [Timestamp.date]
    push_cast
    ring
  rw [canonicalInstant_eq,bind_eq_some_iff]
  constructor
  · rintro ⟨stamp,hmatch,h⟩
    split_ifs at h with hrange
    have hexists := Timestamp.inRange_iff.1 hrange
    rw [hvalue stamp hexists] at h
    exact ⟨stamp,matchTimestamp_eq_some_iff.1 hmatch,hexists,(some.inj h).symm⟩
  · rintro ⟨stamp,hspells,hexists,hinstant⟩
    refine ⟨stamp,matchTimestamp_eq_some_iff.2 hspells,?_⟩
    rw [if_pos (Timestamp.inRange_iff.2 hexists),hvalue stamp hexists,hinstant]

theorem Timestamp.Spells.take (h : stamp.Spells text) :
    text.take 19 ++ '.' :: padEnd stamp.fraction 9 = stamp.key := by
  have hlength : (stamp.year ++ '-' :: (stamp.month ++ '-' :: (stamp.day ++ 'T' :: (stamp.hour ++
      ':' :: (stamp.minute ++ ':' :: stamp.second))))).length = 19 := by
    simp [h.year.1,h.month.1,h.day.1,h.hour.1,h.minute.1,h.second.1]
  have htext : text = (stamp.year ++ '-' :: (stamp.month ++ '-' :: (stamp.day ++ 'T' ::
      (stamp.hour ++ ':' :: (stamp.minute ++ ':' :: stamp.second))))) ++
        ((if stamp.fraction = [] then [] else '.' :: stamp.fraction) ++ ['Z']) := by
    rw [h.text]
    simp only [append_assoc,cons_append]
  rw [htext,take_left' hlength]
  simp only [key,append_assoc,cons_append]

theorem timestampKey_eq_some_iff {key : String} : timestampKey value = some key ↔ ∃ stamp : Timestamp,
      stamp.Spells value.toList ∧ stamp.Exists ∧ key = String.ofList stamp.key := by
  rw [timestampKey]
  constructor
  · intro h
    split at h
    · cases h
    · next stamp hmatch =>
      have hspells := matchTimestamp_eq_some_iff.1 hmatch
      split_ifs at h with hrange
      rw [hspells.take] at h
      exact ⟨stamp,hspells,Timestamp.inRange_iff.1 hrange,(some.inj h).symm⟩
  · rintro ⟨stamp,hspells,hexists,rfl⟩
    rw [matchTimestamp_eq_some_iff.2 hspells]
    simp only [Timestamp.inRange_iff.2 hexists,if_true,hspells.take]

/-- Code units of one length are ordered as two numbers are. -/
structure SameOrder (a b : List Nat) (m n : Nat) : Prop where
  length : a.length = b.length
  lt : codeUnitsLt a b = true ↔ m < n
  eq : a = b ↔ m = n

theorem codeUnitsLt_append {a b x y : List Nat} (h : a.length = b.length) :
    codeUnitsLt (a ++ x) (b ++ y) = true ↔ codeUnitsLt a b = true ∨ a = b ∧ codeUnitsLt x y = true := by
  induction a generalizing b with
  | nil =>
    obtain rfl := eq_nil_of_length_eq_zero h.symm
    simp [codeUnitsLt]
  | cons u a ih =>
    obtain ⟨v,b,rfl⟩ := exists_cons_of_length_eq_add_one h.symm
    by_cases huv : u = v
    · subst huv
      simp [codeUnitsLt,ih (Nat.succ.inj h)]
    · simp [codeUnitsLt,huv]

theorem radix_cases {m p q N : Nat} (hp : p < N) (hq : q < N) :
    (m * N + p < n * N + q ↔ m < n ∨ m = n ∧ p < q) ∧ (m * N + p = n * N + q ↔ m = n ∧ p = q) := by
  rcases Nat.lt_trichotomy m n with h | rfl | h
  · have hstep := Nat.mul_le_mul_right N (Nat.succ_le_of_lt h)
    rw [Nat.succ_mul] at hstep
    omega
  · omega
  · have hstep := Nat.mul_le_mul_right N (Nat.succ_le_of_lt h)
    rw [Nat.succ_mul] at hstep
    omega

namespace SameOrder

variable {a b x y : List Nat} {m n p q N : Nat}

theorem append (h : SameOrder a b m n) (h' : SameOrder x y p q) (hp : p < N) (hq : q < N) :
    SameOrder (a ++ x) (b ++ y) (m * N + p) (n * N + q) where
  length := by rw [length_append,length_append,h.length,h'.length]
  lt := by rw [codeUnitsLt_append h.length,h.lt,h.eq,h'.lt,(radix_cases hp hq).1]
  eq := by
    rw [(radix_cases hp hq).2,← h.eq,← h'.eq]
    constructor
    · exact fun heq => append_inj heq h.length
    · rintro ⟨rfl,rfl⟩
      rfl

theorem cons (h : SameOrder x y p q) (unit : Nat) : SameOrder (unit :: x) (unit :: y) p q where
  length := congrArg (· + 1) h.length
  lt := by rw [codeUnitsLt,if_pos rfl,h.lt]
  eq := by rw [cons_inj_right,h.eq]

end SameOrder

def units (text : List Char) : List Nat := text.flatMap charCodeUnits

theorem charCodeUnits_digit (h : c.isDigit = true) : charCodeUnits c = [c.toNat] := by
  rw [Char.isDigit,Bool.and_eq_true,decide_eq_true_eq,decide_eq_true_eq] at h
  have hle : c.toNat ≤ 57 := h.2
  rw [charCodeUnits,if_pos (by omega)]

theorem SameOrder.digits {a b : List Char} (ha : IsDigits n a) (hb : IsDigits n b) :
    SameOrder (units a) (units b) (numberOf a) (numberOf b) := by
  induction n generalizing a b with
  | zero =>
    obtain rfl := eq_nil_of_length_eq_zero ha.1
    obtain rfl := eq_nil_of_length_eq_zero hb.1
    exact ⟨rfl,by decide,by decide⟩
  | succ n ih =>
    obtain ⟨c,a,rfl⟩ := exists_cons_of_length_eq_add_one ha.1
    obtain ⟨d,b,rfl⟩ := exists_cons_of_length_eq_add_one hb.1
    obtain ⟨hc,ha'⟩ := forall_mem_cons.1 ha.2
    obtain ⟨hd,hb'⟩ := forall_mem_cons.1 hb.2
    have hfirst : SameOrder [c.toNat] [d.toNat] (c.toNat - '0'.toNat) (d.toNat - '0'.toNat) := by
      have hge : ∀ e : Char, e.isDigit = true → 48 ≤ e.toNat := by
        intro e he
        rw [Char.isDigit,Bool.and_eq_true,decide_eq_true_eq] at he
        exact he.1
      have hcge := hge c hc
      have hdge := hge d hd
      have hzero : '0'.toNat = 48 := rfl
      refine ⟨rfl,?_,?_⟩
      · simp only [codeUnitsLt]
        split_ifs <;> simp <;> omega
      · simp only [List.cons.injEq,and_true]
        omega
    have hlength : a.length = b.length :=
      (Nat.succ.inj ha.1).trans (Nat.succ.inj hb.1).symm
    have hlt := ofDigitChars_lt ha'
    have hlt' := ofDigitChars_lt hb'
    rw [← hlength] at hlt'
    have hrest := ih ⟨Nat.succ.inj ha.1,ha'⟩ ⟨Nat.succ.inj hb.1,hb'⟩
    have hall := hfirst.append hrest hlt hlt'
    simp only [units,flatMap_cons,charCodeUnits_digit hc,charCodeUnits_digit hd,numberOf,
      ofDigitChars_cons_eq]
    rw [Nat.mul_comm,Nat.mul_comm (10 ^ b.length),← hlength]
    exact hall

namespace Timestamp

variable {stamp other : Timestamp} {text text' : List Char}

/-- The digits of a key, as one number. -/
def rank (stamp : Timestamp) : Nat :=
  numberOf stamp.year * 10 ^ 19 + (numberOf stamp.month * 10 ^ 17 + (numberOf stamp.day * 10 ^ 15 +
    (numberOf stamp.hour * 10 ^ 13 + (numberOf stamp.minute * 10 ^ 11 +
      (numberOf stamp.second * 10 ^ 9 + stamp.fractionNanoseconds)))))

theorem fraction_digits (h : stamp.Spells text) : IsDigits 9 (padEnd stamp.fraction 9) :=
  ⟨length_padEnd h.fraction_le,isDigit_padEnd h.fraction 9⟩

theorem lt_of_isDigits {n : Nat} {digits : List Char} (h : IsDigits n digits) :
    numberOf digits < 10 ^ n := by
  have hlt := ofDigitChars_lt h.2
  rwa [h.1] at hlt

theorem fractionNanoseconds_lt (h : stamp.Spells text) : stamp.fractionNanoseconds < 10 ^ 9 := by
  have hlt := lt_of_isDigits (fraction_digits h)
  rwa [numberOf_padEnd] at hlt

theorem key_sameOrder (h : stamp.Spells text) (h' : other.Spells text') :
    SameOrder (units stamp.key) (units other.key) stamp.rank other.rank := by
  have hfraction := SameOrder.digits (fraction_digits h) (fraction_digits h')
  rw [numberOf_padEnd,numberOf_padEnd] at hfraction
  have b0 := fractionNanoseconds_lt h
  have b0' := fractionNanoseconds_lt h'
  have b1 := lt_of_isDigits h.second
  have b1' := lt_of_isDigits h'.second
  have b2 := lt_of_isDigits h.minute
  have b2' := lt_of_isDigits h'.minute
  have b3 := lt_of_isDigits h.hour
  have b3' := lt_of_isDigits h'.hour
  have b4 := lt_of_isDigits h.day
  have b4' := lt_of_isDigits h'.day
  have b5 := lt_of_isDigits h.month
  have b5' := lt_of_isDigits h'.month
  have k1 := (SameOrder.digits h.second h'.second).append (hfraction.cons '.'.toNat) b0 b0'
  have k2 := (SameOrder.digits h.minute h'.minute).append (N := 10 ^ 11) (k1.cons ':'.toNat)
    (by omega) (by omega)
  have k3 := (SameOrder.digits h.hour h'.hour).append (N := 10 ^ 13) (k2.cons ':'.toNat)
    (by omega) (by omega)
  have k4 := (SameOrder.digits h.day h'.day).append (N := 10 ^ 15) (k3.cons 'T'.toNat)
    (by omega) (by omega)
  have k5 := (SameOrder.digits h.month h'.month).append (N := 10 ^ 17) (k4.cons '-'.toNat)
    (by omega) (by omega)
  have k6 := (SameOrder.digits h.year h'.year).append (N := 10 ^ 19) (k5.cons '-'.toNat)
    (by omega) (by omega)
  simp only [units,key,flatMap_append,flatMap_cons]
  exact k6

theorem nanoseconds_order (h : stamp.Spells text) (h' : other.Spells text') (hexists : stamp.Exists)
    (hexists' : other.Exists) :
    (stamp.nanoseconds < other.nanoseconds ↔ stamp.rank < other.rank) ∧
      (stamp.nanoseconds = other.nanoseconds ↔ stamp.rank = other.rank) := by
  have f0 := fractionNanoseconds_lt h
  have f0' := fractionNanoseconds_lt h'
  have hdate := hexists.date
  have hdate' := hexists'.date
  obtain ⟨-,hhour,hminute,hsecond⟩ := hexists
  obtain ⟨-,hhour',hminute',hsecond'⟩ := hexists'
  have d1 := hdate.month_le
  have d1' := hdate'.month_le
  have d2 := hdate.day_le.trans (Mpp.monthLength_le _ _)
  have d2' := hdate'.day_le.trans (Mpp.monthLength_le _ _)
  simp only [nanoseconds,rank,secondOfDay]
  generalize dayNumber 0 ⟨1970,1,1⟩ = epoch
  rcases Date.before_trichotomy stamp.date other.date with hbefore | heq | hbefore
  · have hlt := dayNumber_lt hdate (Nat.zero_le _) hbefore
    simp only [Date.Before,date] at hbefore d1 d1' d2 d2' hlt ⊢
    omega
  · have hsame := congrArg (dayNumber 0) heq
    simp only [date,Date.mk.injEq] at heq hsame ⊢
    omega
  · have hlt := dayNumber_lt hdate' (Nat.zero_le _) hbefore
    simp only [Date.Before,date] at hbefore d1 d1' d2 d2' hlt ⊢
    omega

end Timestamp

/-- The readers accept the same texts and order any two of them alike, and the instant is the
number of nanoseconds in the calendar. -/
theorem timestamp_readers_agree : (∀ value, (canonicalInstant value).isSome = (timestampKey value).isSome) ∧
    (∀ a b i j key key', canonicalInstant a = some i → canonicalInstant b = some j →
      timestampKey a = some key → timestampKey b = some key' →
      (i < j ↔ stringLt key key' = true) ∧ (i = j ↔ key = key')) ∧
    ∀ value instant, canonicalInstant value = some instant ↔ ∃ stamp : Timestamp,
      stamp.Spells value.toList ∧ stamp.Exists ∧ instant = stamp.nanoseconds := by
  refine ⟨?_,?_,fun value instant => canonicalInstant_eq_some_iff⟩
  · intro value
    rw [Bool.eq_iff_iff,isSome_iff_exists,isSome_iff_exists]
    constructor
    · rintro ⟨instant,h⟩
      obtain ⟨stamp,hspells,hexists,-⟩ := canonicalInstant_eq_some_iff.1 h
      exact ⟨_,timestampKey_eq_some_iff.2 ⟨stamp,hspells,hexists,rfl⟩⟩
    · rintro ⟨key,h⟩
      obtain ⟨stamp,hspells,hexists,-⟩ := timestampKey_eq_some_iff.1 h
      exact ⟨_,canonicalInstant_eq_some_iff.2 ⟨stamp,hspells,hexists,rfl⟩⟩
  · intro a b i j key key' ha hb hkey hkey'
    obtain ⟨stamp,hspells,hexists,hi⟩ := canonicalInstant_eq_some_iff.1 ha
    obtain ⟨other,hspells',hexists',hj⟩ := canonicalInstant_eq_some_iff.1 hb
    have hmatch := matchTimestamp_eq_some_iff.2 hspells
    have hmatch' := matchTimestamp_eq_some_iff.2 hspells'
    obtain ⟨stamp',hstamp,-,hkeyText⟩ := timestampKey_eq_some_iff.1 hkey
    obtain ⟨other',hother,-,hkeyText'⟩ := timestampKey_eq_some_iff.1 hkey'
    -- a text matches with one choice of groups
    rw [matchTimestamp_eq_some_iff.2 hstamp,some_inj] at hmatch
    rw [matchTimestamp_eq_some_iff.2 hother,some_inj] at hmatch'
    obtain ⟨hlt,heq⟩ := Timestamp.nanoseconds_order hspells hspells' hexists hexists'
    have horder := Timestamp.key_sameOrder hspells hspells'
    have hunits : ∀ text, codeUnits (String.ofList text) = units text := by
      intro text
      rw [codeUnits,String.toList_ofList,units]
    rw [hi,hj,hkeyText,hkeyText',hmatch,hmatch',stringLt,hunits,hunits,hlt,heq,horder.lt]
    refine ⟨Iff.rfl,?_⟩
    rw [← horder.eq,← hunits,← hunits]
    exact ⟨fun h => codeUnits_injective h,congrArg codeUnits⟩

end Frontera.StatusHistory
