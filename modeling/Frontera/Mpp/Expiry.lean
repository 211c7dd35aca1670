import Mathlib.Data.List.TakeWhile
import Mathlib.Tactic.IntervalCases
import Frontera.Data.Calendar
import Frontera.Data.Mantissa
import Frontera.Platform

/-! The date and time of a challenge's expiry, as milliseconds since the epoch. -/

namespace Frontera.Mpp

open Frontera.Data Frontera.Data.Calendar List Option

/-- `MPP_CHALLENGE_LIMITS.maxExpiresLength` -/
def maxExpiresLength : Nat := 64

inductive Zone where
  | zulu (mark : Char)
  | offset (sign : Char) (hour minute : List Char)

/-- The groups of `RFC3339`; the fraction without its point. -/
structure Rfc3339Match where
  (year month day hour minute second : List Char)
  fraction : Option (List Char)
  zone : Zone

/-- `\d{n}` -/
def takeDigits (n : Nat) (text : List Char) : Option (List Char × List Char) :=
  if (text.take n).length = n ∧ (text.take n).all Char.isDigit then some (text.take n, text.drop n)
  else none

/-- One character of a class. -/
def takeMark (marks : List Char) : List Char → Option (Char × List Char)
  | [] => none
  | c :: rest => if c ∈ marks then some (c, rest) else none

/-- `(\.\d{1,9})?` before a character that is no digit. -/
def takeFraction : List Char → Option (Option (List Char) × List Char)
  | '.' :: rest =>
      let digits := rest.takeWhile Char.isDigit
      if 1 ≤ digits.length ∧ digits.length ≤ 9 then
        some (some digits, rest.dropWhile Char.isDigit)
      else none
  | text => some (none, text)

/-- `(?:([Zz])|([+-])(\d{2}):(\d{2}))$` -/
def takeZone (text : List Char) : Option Zone := do
  let (mark, text) ← takeMark ['Z', 'z', '+', '-'] text
  if mark = 'Z' ∨ mark = 'z' then
    if text = [] then some (.zulu mark) else none
  else
    let (hour, text) ← takeDigits 2 text
    let (_, text) ← takeMark [':'] text
    let (minute, text) ← takeDigits 2 text
    if text = [] then some (.offset mark hour minute) else none

/-- `RFC3339.exec` -/
def matchRfc3339 (text : List Char) : Option Rfc3339Match := do
  let (year, text) ← takeDigits 4 text
  let (_, text) ← takeMark ['-'] text
  let (month, text) ← takeDigits 2 text
  let (_, text) ← takeMark ['-'] text
  let (day, text) ← takeDigits 2 text
  let (_, text) ← takeMark ['T', 't'] text
  let (hour, text) ← takeDigits 2 text
  let (_, text) ← takeMark [':'] text
  let (minute, text) ← takeDigits 2 text
  let (_, text) ← takeMark [':'] text
  let (second, text) ← takeDigits 2 text
  let (fraction, text) ← takeFraction text
  let zone ← takeZone text
  some ⟨year,month,day,hour,minute,second,fraction,zone⟩

/-- The value of a run of ASCII digits. -/
def digitsValue (text : List Char) : Nat :=
  text.foldl (fun total character => total * 10 + (character.toNat - 0x30)) 0

def isLeapYear (year : Nat) : Bool :=
  (year % 4 == 0 && year % 100 != 0) || year % 400 == 0

/-- `DAYS_IN_MONTH` -/
def daysOfMonths : List Nat := [31, 28, 31, 30, 31, 30, 31, 31, 30, 31, 30, 31]

/-- Days since 1970-01-01 of a date. -/
def daysFromCivil (year month day : Int) : Int :=
  let y := if month ≤ 2 then year - 1 else year
  let era := (y - y % 400) / 400
  let yearOfEra := y - era * 400
  let shiftedMonth := (month + 9) % 12
  let dayOfYear := (153 * shiftedMonth + 2 - (153 * shiftedMonth + 2) % 5) / 5 + day - 1
  let dayOfEra := yearOfEra * 365 + (yearOfEra - yearOfEra % 4) / 4 -
    (yearOfEra - yearOfEra % 100) / 100 + dayOfYear
  era * 146097 + dayOfEra - 719468

/-- The minutes of a zone that exists. -/
def offsetMinutes : Zone → Option Int
  | .zulu _ => some 0
  | .offset sign hour minute =>
      if digitsValue hour > 23 ∨ digitsValue minute > 59 then none
      else some ((if sign = '-' then -1 else 1) * (digitsValue hour * 60 + digitsValue minute))

/-- `digitsValue(fraction.slice(1, 4).padEnd(3, '0'))` -/
def fractionMilliseconds : Option (List Char) → Nat
  | none => 0
  | some fraction => digitsValue (padEnd (fraction.take 3) 3)

def rfc3339EpochMilliseconds (value : String) : Option Int :=
  if (codeUnits value).length > maxExpiresLength then none
  else
    match matchRfc3339 value.toList with
    | none => none
    | some groups =>
        let year := digitsValue groups.year
        let month := digitsValue groups.month
        let day := digitsValue groups.day
        let hour := digitsValue groups.hour
        let minute := digitsValue groups.minute
        let second := digitsValue groups.second
        if year < 1970 ∨ month < 1 ∨ month > 12 ∨ day < 1 ∨ hour > 23 ∨ minute > 59 ∨ second > 59 then none
        else
          let daysInMonth :=
            if month = 2 ∧ isLeapYear year = true then 29 else daysOfMonths.getD (month - 1) 0
          if day > daysInMonth then none
          else
            match offsetMinutes groups.zone with
            | none => none
            | some offset =>
                let epoch := (((daysFromCivil year month day * 24 + hour) * 60 + minute) * 60 +
                  second) * 1000 + fractionMilliseconds groups.fraction - offset * 60000
                if isSafeInteger epoch then some epoch else none

variable {n : Nat} {digits rest marks : List Char} {c : Char} {zone : Zone}
  {fraction : Option (List Char)} {groups : Rfc3339Match} {year month : Nat}

theorem takeDigits_eq_some_iff {text : List Char} : takeDigits n text = some (digits, rest) ↔
      text = digits ++ rest ∧ digits.length = n ∧ ∀ c ∈ digits, c.isDigit = true := by
  rw [takeDigits]
  constructor
  · intro h
    split_ifs at h with hshape
    cases h
    exact ⟨(take_append_drop n text).symm,hshape.1,all_eq_true.1 hshape.2⟩
  · rintro ⟨rfl,rfl,hdigits⟩
    rw [take_left,drop_left,if_pos ⟨rfl,all_eq_true.2 hdigits⟩]

theorem takeMark_eq_some_iff {text : List Char} :
    takeMark marks text = some (c, rest) ↔ text = c :: rest ∧ c ∈ marks := by
  cases text with
  | nil => simp [takeMark]
  | cons d text =>
    rw [takeMark]
    constructor
    · intro h
      split_ifs at h with hmem
      cases h
      exact ⟨rfl,hmem⟩
    · rintro ⟨heq,hmem⟩
      cases heq
      rw [if_pos hmem]

namespace Zone

def text : Zone → List Char
  | zulu mark => [mark]
  | offset sign hour minute => sign :: (hour ++ ':' :: minute)

/-- The zone is spelled as the grammar has it. -/
def Spelled : Zone → Prop
  | zulu mark => mark ∈ ['Z', 'z']
  | offset sign hour minute => sign ∈ ['+', '-'] ∧ (hour.length = 2 ∧ ∀ c ∈ hour, c.isDigit = true) ∧
        minute.length = 2 ∧ ∀ c ∈ minute, c.isDigit = true

theorem Spelled.head {zone : Zone} (h : zone.Spelled) :
    ∃ c rest, zone.text = c :: rest ∧ c ∈ ['Z', 'z', '+', '-'] := by
  cases zone with
  | zulu mark =>
    refine ⟨mark,[],rfl,?_⟩
    have hmark : mark ∈ ['Z', 'z'] := h
    simp only [mem_cons,not_mem_nil,or_false] at hmark ⊢
    exact hmark.elim .inl fun h => .inr (.inl h)
  | offset sign hour minute =>
    refine ⟨sign,_,rfl,?_⟩
    have hsign : sign ∈ ['+', '-'] := h.1
    simp only [mem_cons,not_mem_nil,or_false] at hsign ⊢
    exact .inr (.inr hsign)

end Zone

theorem takeZone_eq_some_iff {text : List Char} :
    takeZone text = some zone ↔ text = zone.text ∧ zone.Spelled := by
  constructor
  · intro h
    rw [takeZone] at h
    obtain ⟨⟨mark,rest⟩,hmark,hzone⟩ := bind_eq_some_iff.1 h
    obtain ⟨rfl,hmem⟩ := takeMark_eq_some_iff.1 hmark
    clear h
    simp only at hzone
    split_ifs at hzone with hzulu hend
    · cases hzone
      have hmark : mark ∈ ['Z', 'z'] := by simpa using hzulu
      exact ⟨by rw [hend]; rfl,hmark⟩
    · obtain ⟨⟨hour,rest⟩,hhour,h⟩ := bind_eq_some_iff.1 hzone
      obtain ⟨⟨colon,rest⟩,hcolon,h⟩ := bind_eq_some_iff.1 h
      obtain ⟨⟨minute,rest⟩,hminute,h⟩ := bind_eq_some_iff.1 h
      obtain ⟨rfl,hhourLength,hhourDigits⟩ := takeDigits_eq_some_iff.1 hhour
      obtain ⟨rfl,hcolonMem⟩ := takeMark_eq_some_iff.1 hcolon
      obtain ⟨rfl,hminuteLength,hminuteDigits⟩ := takeDigits_eq_some_iff.1 hminute
      simp only at h
      split_ifs at h with hend
      cases h
      obtain rfl : colon = ':' := by simpa using hcolonMem
      refine ⟨by rw [hend,append_nil]; rfl,?_,⟨hhourLength,hhourDigits⟩,hminuteLength, hminuteDigits⟩
      simp only [mem_cons,not_mem_nil,or_false] at hmem ⊢
      tauto
  · rintro ⟨rfl,h⟩
    cases zone with
    | zulu mark =>
      have hmark : mark = 'Z' ∨ mark = 'z' := by simpa [Zone.Spelled] using h
      have hmem : mark ∈ ['Z', 'z', '+', '-'] := by
        rcases hmark with rfl | rfl <;> simp
      rw [takeZone,Zone.text,takeMark_eq_some_iff.2 ⟨rfl,hmem⟩]
      simp [hmark]
    | offset sign hour minute =>
      obtain ⟨hsign,⟨hhourLength,hhourDigits⟩,hminuteLength,hminuteDigits⟩ := h
      have hsign' : sign = '+' ∨ sign = '-' := by simpa using hsign
      have hmem : sign ∈ ['Z', 'z', '+', '-'] := by
        rcases hsign' with rfl | rfl <;> simp
      have hzulu : ¬ (sign = 'Z' ∨ sign = 'z') := by
        rcases hsign' with rfl | rfl <;> decide
      have hhour := takeDigits_eq_some_iff.2
        (⟨rfl,hhourLength,hhourDigits⟩ : hour ++ ':' :: minute = hour ++ ':' :: minute ∧ _ ∧ _)
      have hminute : takeDigits 2 minute = some (minute, []) :=
        takeDigits_eq_some_iff.2 ⟨(append_nil _).symm,hminuteLength,hminuteDigits⟩
      rw [takeZone,Zone.text,takeMark_eq_some_iff.2 ⟨rfl,hmem⟩]
      simp [hzulu,hhour,takeMark,hminute]

def fractionText : Option (List Char) → List Char
  | none => []
  | some digits => '.' :: digits

def FractionSpelled : Option (List Char) → Prop
  | none => True
  | some digits => 1 ≤ digits.length ∧ digits.length ≤ 9 ∧ ∀ c ∈ digits, c.isDigit = true

theorem takeFraction_sound {text : List Char} (h : takeFraction text = some (fraction, rest)) :
    text = fractionText fraction ++ rest ∧ FractionSpelled fraction := by
  unfold takeFraction at h
  split at h
  · next rest' =>
    simp only at h
    split_ifs at h with hlength
    cases h
    refine ⟨?_,hlength.1,hlength.2,fun c hc => mem_takeWhile_imp hc⟩
    rw [fractionText,cons_append,takeWhile_append_dropWhile]
  · cases h
    exact ⟨rfl,trivial⟩

theorem takeFraction_complete (h : FractionSpelled fraction) (hzone : zone.Spelled) :
    takeFraction (fractionText fraction ++ zone.text) = some (fraction, zone.text) := by
  obtain ⟨c,rest,htext,hc⟩ := hzone.head
  rw [htext]
  cases fraction with
  | none =>
    have hpoint : c ≠ '.' := by
      rintro rfl
      exact absurd hc (by decide)
    rw [fractionText,nil_append,takeFraction]
    rintro rest' heq
    exact hpoint (List.cons.inj heq).1
  | some digits =>
    obtain ⟨hpos,hle,hdigits⟩ := h
    have hstop : ¬ c.isDigit = true := by
      simp only [mem_cons,not_mem_nil,or_false] at hc
      rcases hc with rfl | rfl | rfl | rfl <;> decide
    have htake : (digits ++ c :: rest).takeWhile Char.isDigit = digits := by
      rw [takeWhile_append_of_pos hdigits,takeWhile_cons_of_neg hstop,append_nil]
    have hdrop : (digits ++ c :: rest).dropWhile Char.isDigit = c :: rest := by
      rw [dropWhile_append_of_pos hdigits,dropWhile_cons_of_neg hstop]
    rw [fractionText,cons_append,takeFraction]
    simp only [htake,hdrop]
    rw [if_pos ⟨hpos,hle⟩]

def IsDigits (n : Nat) (digits : List Char) : Prop :=
  digits.length = n ∧ ∀ c ∈ digits, c.isDigit = true

/-- A text spells the groups as RFC 3339 has it. -/
structure Rfc3339Match.Spells (groups : Rfc3339Match) (text : List Char) : Prop where
  year : IsDigits 4 groups.year
  month : IsDigits 2 groups.month
  day : IsDigits 2 groups.day
  hour : IsDigits 2 groups.hour
  minute : IsDigits 2 groups.minute
  second : IsDigits 2 groups.second
  fraction : FractionSpelled groups.fraction
  zone : groups.zone.Spelled
  text : ∃ mark ∈ ['T', 't'], text = groups.year ++ '-' :: (groups.month ++ '-' :: (groups.day ++
    mark :: (groups.hour ++ ':' :: (groups.minute ++ ':' :: (groups.second ++
      (fractionText groups.fraction ++ groups.zone.text))))))

theorem takeDigits_append (h : IsDigits n digits) (rest : List Char) :
    takeDigits n (digits ++ rest) = some (digits, rest) :=
  takeDigits_eq_some_iff.2 ⟨rfl,h⟩

theorem takeMark_cons (h : c ∈ marks) (rest : List Char) : takeMark marks (c :: rest) = some (c, rest) :=
  takeMark_eq_some_iff.2 ⟨rfl,h⟩

theorem matchRfc3339_eq_some_iff {text : List Char} :
    matchRfc3339 text = some groups ↔ groups.Spells text := by
  constructor
  · intro h
    rw [matchRfc3339] at h
    obtain ⟨⟨year,t1⟩,hyear,h⟩ := bind_eq_some_iff.1 h
    obtain ⟨⟨d1,t2⟩,hd1,h⟩ := bind_eq_some_iff.1 h
    obtain ⟨⟨month,t3⟩,hmonth,h⟩ := bind_eq_some_iff.1 h
    obtain ⟨⟨d2,t4⟩,hd2,h⟩ := bind_eq_some_iff.1 h
    obtain ⟨⟨day,t5⟩,hday,h⟩ := bind_eq_some_iff.1 h
    obtain ⟨⟨mark,t6⟩,hmark,h⟩ := bind_eq_some_iff.1 h
    obtain ⟨⟨hour,t7⟩,hhour,h⟩ := bind_eq_some_iff.1 h
    obtain ⟨⟨c1,t8⟩,hc1,h⟩ := bind_eq_some_iff.1 h
    obtain ⟨⟨minute,t9⟩,hminute,h⟩ := bind_eq_some_iff.1 h
    obtain ⟨⟨c2,t10⟩,hc2,h⟩ := bind_eq_some_iff.1 h
    obtain ⟨⟨second,t11⟩,hsecond,h⟩ := bind_eq_some_iff.1 h
    obtain ⟨⟨fraction,t12⟩,hfraction,h⟩ := bind_eq_some_iff.1 h
    obtain ⟨zone,hzone,h⟩ := bind_eq_some_iff.1 h
    cases h
    obtain ⟨rfl,iyear⟩ := takeDigits_eq_some_iff.1 hyear
    obtain ⟨rfl,id1⟩ := takeMark_eq_some_iff.1 hd1
    obtain ⟨rfl,imonth⟩ := takeDigits_eq_some_iff.1 hmonth
    obtain ⟨rfl,id2⟩ := takeMark_eq_some_iff.1 hd2
    obtain ⟨rfl,iday⟩ := takeDigits_eq_some_iff.1 hday
    obtain ⟨rfl,imark⟩ := takeMark_eq_some_iff.1 hmark
    obtain ⟨rfl,ihour⟩ := takeDigits_eq_some_iff.1 hhour
    obtain ⟨rfl,ic1⟩ := takeMark_eq_some_iff.1 hc1
    obtain ⟨rfl,iminute⟩ := takeDigits_eq_some_iff.1 hminute
    obtain ⟨rfl,ic2⟩ := takeMark_eq_some_iff.1 hc2
    obtain ⟨rfl,isecond⟩ := takeDigits_eq_some_iff.1 hsecond
    obtain ⟨rfl,ifraction⟩ := takeFraction_sound hfraction
    obtain ⟨rfl,izone⟩ := takeZone_eq_some_iff.1 hzone
    obtain rfl := mem_singleton.1 id1
    obtain rfl := mem_singleton.1 id2
    obtain rfl := mem_singleton.1 ic1
    obtain rfl := mem_singleton.1 ic2
    exact ⟨iyear,imonth,iday,ihour,iminute,isecond,ifraction,izone,mark,imark,rfl⟩
  · intro h
    obtain ⟨mark,hmark,rfl⟩ := h.text
    have hself : ∀ c : Char, c ∈ [c] := fun c => mem_singleton_self c
    rw [matchRfc3339]
    refine bind_eq_some_iff.2 ⟨_,takeDigits_append h.year _,?_⟩
    refine bind_eq_some_iff.2 ⟨_,takeMark_cons (hself '-') _,?_⟩
    refine bind_eq_some_iff.2 ⟨_,takeDigits_append h.month _,?_⟩
    refine bind_eq_some_iff.2 ⟨_,takeMark_cons (hself '-') _,?_⟩
    refine bind_eq_some_iff.2 ⟨_,takeDigits_append h.day _,?_⟩
    refine bind_eq_some_iff.2 ⟨_,takeMark_cons hmark _,?_⟩
    refine bind_eq_some_iff.2 ⟨_,takeDigits_append h.hour _,?_⟩
    refine bind_eq_some_iff.2 ⟨_,takeMark_cons (hself ':') _,?_⟩
    refine bind_eq_some_iff.2 ⟨_,takeDigits_append h.minute _,?_⟩
    refine bind_eq_some_iff.2 ⟨_,takeMark_cons (hself ':') _,?_⟩
    refine bind_eq_some_iff.2 ⟨_,takeDigits_append h.second _,?_⟩
    refine bind_eq_some_iff.2 ⟨_,takeFraction_complete h.fraction h.zone,?_⟩
    exact bind_eq_some_iff.2 ⟨_,takeZone_eq_some_iff.2 ⟨rfl,h.zone⟩,rfl⟩

theorem digitsValue_eq (text : List Char) : digitsValue text = Nat.ofDigitChars 10 text 0 := by
  rw [digitsValue,Nat.ofDigitChars_eq_foldl]
  congr
  funext total character
  rw [Nat.mul_comm]
  rfl

theorem isLeapYear_iff : isLeapYear year = true ↔ IsLeap year := by
  simp [isLeapYear,IsLeap,Nat.dvd_iff_mod_eq_zero]

theorem daysInMonth_eq (hpos : 1 ≤ month) (hle : month ≤ 12) :
    (if month = 2 ∧ isLeapYear year = true then 29 else daysOfMonths.getD (month - 1) 0) =
      monthLength year month := by
  by_cases hfebruary : month = 2
  · subst hfebruary
    by_cases hleap : IsLeap year <;> simp [daysOfMonths,monthLength,isLeapYear_iff,hleap]
  · rw [if_neg fun h => hfebruary h.1]
    interval_cases month <;> first | rfl | exact absurd rfl hfebruary

/-- The days before a year that opens in March. -/
def daysBeforeShifted (year : Int) : Int :=
  let era := (year - year % 400) / 400
  let yearOfEra := year - era * 400
  era * 146097 + (yearOfEra * 365 + (yearOfEra - yearOfEra % 4) / 4 -
    (yearOfEra - yearOfEra % 100) / 100) - 719468

/-- The days of that year before a month. -/
def shiftedMonthStart (month : Int) : Int :=
  let shiftedMonth := (month + 9) % 12
  (153 * shiftedMonth + 2 - (153 * shiftedMonth + 2) % 5) / 5

theorem daysFromCivil_eq_shifted (year month day : Int) : daysFromCivil year month day =
      daysBeforeShifted (if month ≤ 2 then year - 1 else year) + shiftedMonthStart month +
        (day - 1) := by
  simp only [daysFromCivil,daysBeforeShifted,shiftedMonthStart]
  ring

theorem daysFromCivil_day (year month day : Int) :
    daysFromCivil year month day = daysFromCivil year month 1 + (day - 1) := by
  rw [daysFromCivil_eq_shifted,daysFromCivil_eq_shifted year month 1]
  ring

theorem daysBeforeShifted_step (year : Nat) :
    daysBeforeShifted year = daysBeforeShifted (year - 1) + yearLength year := by
  by_cases hleap : IsLeap year
  · have hrule := hleap
    simp only [IsLeap,Nat.dvd_iff_mod_eq_zero] at hrule
    rw [yearLength,if_pos hleap]
    simp only [daysBeforeShifted]
    omega
  · have hrule := hleap
    simp only [IsLeap,Nat.dvd_iff_mod_eq_zero] at hrule
    rw [yearLength,if_neg hleap]
    simp only [daysBeforeShifted]
    omega

/-- The first days of two months in a row. March opens the shifted year, so that the length of
February is where the leap rule meets the eras. -/
theorem daysFromCivil_month (hpos : 1 ≤ month) (hlt : month < 12) :
    daysFromCivil year (month + 1 : Nat) 1 = daysFromCivil year month 1 + monthLength year month := by
  rw [daysFromCivil_eq_shifted,daysFromCivil_eq_shifted year month]
  obtain rfl | rfl | hlater : month = 1 ∨ month = 2 ∨ 3 ≤ month := by omega
  · rw [if_pos (by decide),if_pos (by decide)]
    have hstart : shiftedMonthStart (1 + 1 : Nat) = shiftedMonthStart (1 : Nat) + 31 := by decide
    have hlength : monthLength year 1 = 31 := rfl
    rw [hstart,hlength]
    omega
  · rw [if_neg (by decide),if_pos (by decide),daysBeforeShifted_step]
    have hstart : shiftedMonthStart (2 + 1 : Nat) = 0 := by decide
    have hstart' : shiftedMonthStart (2 : Nat) = 337 := by decide
    have hlength : monthLength year 2 + 337 = yearLength year := by
      rw [monthLength,yearLength]
      split_ifs <;> rfl
    rw [hstart,hstart']
    omega
  · have hstart : shiftedMonthStart (month + 1 : Nat) =
        shiftedMonthStart month + monthLength year month := by
      interval_cases month <;> rfl
    rw [if_neg (by omega),if_neg (by omega),hstart]
    ring

theorem daysFromCivil_year (year : Nat) :
    daysFromCivil (year + 1 : Nat) 1 1 = daysFromCivil year 12 1 + 31 := by
  have hstart : shiftedMonthStart 1 = shiftedMonthStart 12 + 31 := by decide
  rw [daysFromCivil_eq_shifted,daysFromCivil_eq_shifted year,if_pos (by decide), if_neg (by decide),hstart]
  push_cast
  ring_nf

theorem daysFromCivil_epoch : daysFromCivil 1970 1 1 = 0 := by decide

theorem daysFromCivil_since {first : Nat} {date : Date} (h : date.Valid)
    (hyear : first ≤ date.year) :
    daysFromCivil date.year date.month date.day = daysFromCivil first 1 1 + dayNumber first date := by
  have hmonths : ∀ (year month : Nat), 1 ≤ month → month ≤ 12 →
      daysFromCivil year month 1 = daysFromCivil year 1 1 + daysBeforeMonth year month := by
    intro year month hpos
    induction month, hpos using Nat.le_induction with
    | base => simp
    | succ month hpos ih =>
      intro hle
      rw [daysFromCivil_month hpos hle,ih (by omega),daysBeforeMonth_succ year hpos]
      push_cast
      ring
  have hyears : ∀ year : Nat, first ≤ year →
      daysFromCivil year 1 1 = daysFromCivil first 1 1 + daysBeforeYear first year := by
    intro year hge
    induction year, hge using Nat.le_induction with
    | base => simp
    | succ year hge ih =>
      have hdecember := hmonths year 12 (by decide) le_rfl
      have hwhole := daysBeforeMonth_december year
      have hlast : monthLength year 12 = 31 := rfl
      rw [daysFromCivil_year,daysBeforeYear_succ hge]
      push_cast at hdecember ⊢
      omega
  have hmonth := hmonths date.year date.month h.month_pos h.month_le
  have hfirst := hyears date.year hyear
  have hday := h.day_pos
  rw [daysFromCivil_day,dayNumber]
  omega

theorem daysFromCivil_eq {date : Date} (h : date.Valid) (hyear : 1970 ≤ date.year) :
    daysFromCivil date.year date.month date.day = dayNumber 1970 date := by
  have hsince := daysFromCivil_since h hyear
  rw [daysFromCivil_since h hyear,Nat.cast_ofNat,daysFromCivil_epoch,zero_add]

theorem daysFromCivil_next {date : Date} (h : date.Valid) (hyear : 1970 ≤ date.year) :
    daysFromCivil date.next.year date.next.month date.next.day =
      daysFromCivil date.year date.month date.day + 1 := by
  have hlater : 1970 ≤ date.next.year := by
    unfold Date.next
    split_ifs
    · exact hyear
    · exact hyear
    · exact Nat.le_succ_of_le hyear
  rw [daysFromCivil_eq h.next hlater,daysFromCivil_eq h hyear,dayNumber_next h hyear]
  push_cast
  ring

namespace Zone

def Exists : Zone → Prop
  | zulu _ => True
  | offset _ hour minute => digitsValue hour ≤ 23 ∧ digitsValue minute ≤ 59

/-- The minutes a zone is ahead. -/
def minutes : Zone → Int
  | zulu _ => 0
  | offset sign hour minute =>
      (if sign = '-' then -1 else 1) * (digitsValue hour * 60 + digitsValue minute)

end Zone

theorem offsetMinutes_eq_some_iff {offset : Int} :
    offsetMinutes zone = some offset ↔ zone.Exists ∧ offset = zone.minutes := by
  cases zone with
  | zulu mark => simp [offsetMinutes,Zone.Exists,Zone.minutes,eq_comm]
  | offset sign hour minute =>
    rw [offsetMinutes,Zone.Exists,Zone.minutes]
    split_ifs with hout hminus hminus <;> simp only [some_inj,false_iff]
    · omega
    · omega
    · constructor
      · rintro rfl
        exact ⟨by omega,rfl⟩
      · rintro ⟨-,rfl⟩
        rfl
    · constructor
      · rintro rfl
        exact ⟨by omega,rfl⟩
      · rintro ⟨-,rfl⟩
        rfl

namespace Rfc3339Match

def date (groups : Rfc3339Match) : Date :=
  ⟨digitsValue groups.year,digitsValue groups.month,digitsValue groups.day⟩

/-- The date and the times exist, and the date is not before 1970. -/
structure Exists (groups : Rfc3339Match) : Prop where
  year_ge : 1970 ≤ groups.date.year
  date : groups.date.Valid
  hour_le : digitsValue groups.hour ≤ 23
  minute_le : digitsValue groups.minute ≤ 59
  second_le : digitsValue groups.second ≤ 59
  zone : groups.zone.Exists

/-- The nanoseconds of a fraction of a second of at most nine digits. -/
def fractionNanoseconds (groups : Rfc3339Match) : Nat :=
  Nat.ofDigitChars 10 (groups.fraction.getD []) 0 * 10 ^ (9 - (groups.fraction.getD []).length)

def secondOfDay (groups : Rfc3339Match) : Nat :=
  (digitsValue groups.hour * 60 + digitsValue groups.minute) * 60 + digitsValue groups.second

/-- The nanoseconds from the epoch to the local time that is stated, less its offset. -/
def nanoseconds (groups : Rfc3339Match) : Int :=
  ((dayNumber 1970 groups.date * 86400 + groups.secondOfDay) * 1000000000 +
    groups.fractionNanoseconds : Nat) - groups.zone.minutes * 60000000000

end Rfc3339Match

theorem fractionMilliseconds_eq (h : FractionSpelled groups.fraction) :
    fractionMilliseconds groups.fraction = groups.fractionNanoseconds / 1000000 := by
  rw [Rfc3339Match.fractionNanoseconds]
  cases hfraction : groups.fraction with
  | none => rfl
  | some fraction =>
    rw [hfraction] at h
    obtain ⟨-,hle,hdigits⟩ := h
    have hfirst : ∀ c ∈ fraction.take 3, c.isDigit = true :=
      fun c hc => hdigits c (mem_of_mem_take hc)
    have hrest : ∀ c ∈ fraction.drop 3, c.isDigit = true :=
      fun c hc => hdigits c (mem_of_mem_drop hc)
    have hlt := ofDigitChars_lt hrest
    have hvalue : Nat.ofDigitChars 10 fraction 0 =
        10 ^ (fraction.drop 3).length * Nat.ofDigitChars 10 (fraction.take 3) 0 +
          Nat.ofDigitChars 10 (fraction.drop 3) 0 := by
      conv_lhs => rw [← take_append_drop 3 fraction]
      rw [ofDigitChars_append_eq]
    rw [fractionMilliseconds,digitsValue_eq,ofDigitChars_padEnd,getD_some,hvalue]
    generalize Nat.ofDigitChars 10 (fraction.take 3) 0 = first at *
    generalize Nat.ofDigitChars 10 (fraction.drop 3) 0 = rest at *
    rw [length_take]
    rw [length_drop] at hlt ⊢
    generalize fraction.length = length at *
    interval_cases length <;> simp at hlt ⊢ <;> omega

theorem Rfc3339Match.Spells.ascii {text : List Char} (h : groups.Spells text) :
    text.length ≤ 35 ∧ ∀ c ∈ text, c.toNat < 128 := by
  have hdigit : ∀ {n : Nat} {digits : List Char}, IsDigits n digits → ∀ c ∈ digits, c.toNat < 128 := by
    intro n digits hdigits c hc
    have hrange := hdigits.2 c hc
    rw [Char.isDigit,Bool.and_eq_true,decide_eq_true_eq,decide_eq_true_eq] at hrange
    have hle : c.toNat ≤ 57 := hrange.2
    omega
  have hfraction : (fractionText groups.fraction).length ≤ 10 ∧
      ∀ c ∈ fractionText groups.fraction, c.toNat < 128 := by
    have hspelled := h.fraction
    cases hgroup : groups.fraction with
    | none => simp [fractionText]
    | some digits =>
      rw [hgroup] at hspelled
      obtain ⟨-,hle,hdigits⟩ := hspelled
      simp only [fractionText,length_cons,mem_cons,forall_eq_or_imp]
      exact ⟨by omega,by decide,hdigit (n := digits.length) ⟨rfl,hdigits⟩⟩
  have hzone : groups.zone.text.length ≤ 6 ∧ ∀ c ∈ groups.zone.text, c.toNat < 128 := by
    have hspelled := h.zone
    cases hgroup : groups.zone with
    | zulu mark =>
      rw [hgroup] at hspelled
      have hmark : mark = 'Z' ∨ mark = 'z' := by simpa [Zone.Spelled] using hspelled
      simp only [Zone.text,length_singleton,mem_singleton,forall_eq]
      rcases hmark with rfl | rfl <;> decide
    | offset sign hour minute =>
      rw [hgroup] at hspelled
      obtain ⟨hsign,hhour,hminute⟩ := hspelled
      have hsign' : sign = '+' ∨ sign = '-' := by simpa using hsign
      simp only [Zone.text,length_cons,length_append,mem_cons,mem_append,hhour.1,hminute.1]
      refine ⟨by decide,?_⟩
      rintro c (rfl | hc | rfl | hc)
      · rcases hsign' with rfl | rfl <;> decide
      · exact hdigit hhour c hc
      · decide
      · exact hdigit hminute c hc
  obtain ⟨mark,hmark,rfl⟩ := h.text
  have hmark' : mark = 'T' ∨ mark = 't' := by simpa using hmark
  constructor
  · simp only [length_append,length_cons,h.year.1,h.month.1,h.day.1,h.hour.1, h.minute.1,h.second.1]
    omega
  · intro c hc
    simp only [mem_append,mem_cons] at hc
    rcases hc with hc | rfl | hc | rfl | hc | rfl | hc | rfl | hc | rfl | hc | hc | hc
    · exact hdigit h.year c hc
    · decide
    · exact hdigit h.month c hc
    · decide
    · exact hdigit h.day c hc
    · rcases hmark' with rfl | rfl <;> decide
    · exact hdigit h.hour c hc
    · decide
    · exact hdigit h.minute c hc
    · decide
    · exact hdigit h.second c hc
    · exact hfraction.2 c hc
    · exact hzone.2 c hc

theorem daysFromCivil_bounds {day : Nat} (hge : 1970 ≤ year) (hle : year ≤ 9999) (hday : day ≤ 31) :
    -1000 ≤ daysFromCivil year month day ∧ daysFromCivil year month day ≤ 3000000 := by
  simp only [daysFromCivil]
  split_ifs <;> omega

theorem monthLength_le (year month : Nat) : monthLength year month ≤ 31 := by
  unfold monthLength
  split
  · split_ifs <;> omega
  all_goals omega

theorem Zone.minutes_bounds (h : zone.Exists) : -1439 ≤ zone.minutes ∧ zone.minutes ≤ 1439 := by
  cases zone with
  | zulu mark => simp [minutes]
  | offset sign hour minute =>
    obtain ⟨hhour,hminute⟩ := h
    rw [Zone.minutes]
    split_ifs <;> omega

theorem rfc3339EpochMilliseconds_eq_some_iff {value : String} {epoch : Int} :
    rfc3339EpochMilliseconds value = some epoch ↔ ∃ groups : Rfc3339Match,
      groups.Spells value.toList ∧ groups.Exists ∧ epoch = groups.nanoseconds / 1000000 := by
  have hnumber : ∀ groups : Rfc3339Match, groups.Spells value.toList → groups.Exists →
      (((daysFromCivil (digitsValue groups.year) (digitsValue groups.month)
        (digitsValue groups.day) * 24 + digitsValue groups.hour) * 60 +
          digitsValue groups.minute) * 60 + digitsValue groups.second) * 1000 +
          fractionMilliseconds groups.fraction - groups.zone.minutes * 60000 =
        groups.nanoseconds / 1000000 := by
    intro groups hspells hexists
    have hdays := daysFromCivil_eq hexists.date hexists.year_ge
    have hfraction := fractionMilliseconds_eq hspells.fraction
    simp only [Rfc3339Match.date] at hdays
    simp only [hdays,hfraction,Rfc3339Match.nanoseconds,Rfc3339Match.secondOfDay, Rfc3339Match.date]
    push_cast
    omega
  constructor
  · intro h
    unfold rfc3339EpochMilliseconds at h
    split_ifs at h with hlength
    cases hmatch : matchRfc3339 value.toList with
    | none =>
      rw [hmatch] at h
      cases h
    | some groups =>
      rw [hmatch] at h
      have hspells := matchRfc3339_eq_some_iff.1 hmatch
      simp only at h
      rw [ite_eq_iff] at h
      rcases h with ⟨-,h⟩ | ⟨hranges,h⟩
      · cases h
      rw [daysInMonth_eq (by omega) (by omega)] at h
      rw [ite_eq_iff] at h
      rcases h with ⟨-,h⟩ | ⟨hday,h⟩
      · cases h
      cases hoffset : offsetMinutes groups.zone with
      | none =>
        rw [hoffset] at h
        cases h
      | some offset =>
        obtain ⟨hzone,rfl⟩ := offsetMinutes_eq_some_iff.1 hoffset
        have hyear : 1970 ≤ groups.date.year := by
          simp only [Rfc3339Match.date]
          omega
        have hvalid : groups.date.Valid := by
          refine ⟨?_,?_,?_,?_⟩ <;> simp only [Rfc3339Match.date] <;> omega
        have hexists : groups.Exists :=
          ⟨hyear,hvalid,by omega,by omega,by omega,hzone⟩
        rw [hoffset] at h
        simp only at h
        split_ifs at h
        cases h
        exact ⟨groups,hspells,hexists,hnumber groups hspells hexists⟩
  · rintro ⟨groups,hspells,hexists,rfl⟩
    obtain ⟨hlength,hascii⟩ := hspells.ascii
    have hunits := length_codeUnits_of_ascii hascii
    have hyear := ofDigitChars_lt hspells.year.2
    rw [hspells.year.1,← digitsValue_eq] at hyear
    have hge := hexists.year_ge
    have hdate := hexists.date
    have hmonthPos := hdate.month_pos
    have hmonthLe := hdate.month_le
    have hdayPos := hdate.day_pos
    have hdayLe := hdate.day_le
    simp only [Rfc3339Match.date] at hge hmonthPos hmonthLe hdayPos hdayLe
    have hlast := monthLength_le (digitsValue groups.year) (digitsValue groups.month)
    have hbounds : -1000 ≤ daysFromCivil (digitsValue groups.year) (digitsValue groups.month)
          (digitsValue groups.day) ∧
        daysFromCivil (digitsValue groups.year) (digitsValue groups.month)
          (digitsValue groups.day) ≤ 3000000 :=
      daysFromCivil_bounds hge (by omega) (hdayLe.trans hlast)
    have hzone := Zone.minutes_bounds hexists.zone
    have hhour := hexists.hour_le
    have hminute := hexists.minute_le
    have hsecond := hexists.second_le
    have hfraction : fractionMilliseconds groups.fraction < 1000 := by
      cases hgroup : groups.fraction with
      | none => decide
      | some fraction =>
        have hspelled := hspells.fraction
        rw [hgroup] at hspelled
        have hdigits : ∀ c ∈ fraction.take 3, c.isDigit = true :=
          fun c hc => hspelled.2.2 c (mem_of_mem_take hc)
        have hlt := ofDigitChars_lt (isDigit_padEnd hdigits 3)
        rw [length_padEnd (by simp)] at hlt
        rw [fractionMilliseconds,digitsValue_eq]
        exact hlt
    have hranges : ¬ (digitsValue groups.year < 1970 ∨ digitsValue groups.month < 1 ∨
        digitsValue groups.month > 12 ∨ digitsValue groups.day < 1 ∨
        digitsValue groups.hour > 23 ∨ digitsValue groups.minute > 59 ∨
        digitsValue groups.second > 59) := by omega
    have hoffset := offsetMinutes_eq_some_iff.2 ⟨hexists.zone,rfl⟩
    have hshort : ¬ (codeUnits value).length > maxExpiresLength := by
      rw [maxExpiresLength]
      omega
    rw [rfc3339EpochMilliseconds,if_neg hshort,matchRfc3339_eq_some_iff.2 hspells]
    simp only
    rw [if_neg hranges,daysInMonth_eq hmonthPos hmonthLe,if_neg (by omega),hoffset]
    simp only
    rw [hnumber groups hspells hexists,if_pos]
    rw [isSafeInteger_iff,← hnumber groups hspells hexists]
    omega

theorem Rfc3339Match.Spells.unique {other : Rfc3339Match} {text : List Char}
    (h : groups.Spells text) (h' : other.Spells text) : groups = other := by
  have hmatch := matchRfc3339_eq_some_iff.2 h
  rw [matchRfc3339_eq_some_iff.2 h'] at hmatch
  exact (some.inj hmatch).symm

/-- Expiry instants are exact: the calendar formula counts days, a text is accepted exactly when it
spells a date and a time that exist, and its number is the elapsed time in whole milliseconds,
which keeps the order of instants. -/
theorem expiry_instants_exact : (daysFromCivil 1970 1 1 = 0 ∧ ∀ date : Date, date.Valid → 1970 ≤ date.year →
      daysFromCivil date.next.year date.next.month date.next.day =
        daysFromCivil date.year date.month date.day + 1) ∧
    (∀ value, (rfc3339EpochMilliseconds value).isSome = true ↔
      ∃ groups : Rfc3339Match, groups.Spells value.toList ∧ groups.Exists) ∧
    (∀ value epoch, ∀ groups : Rfc3339Match, rfc3339EpochMilliseconds value = some epoch →
      groups.Spells value.toList → epoch = groups.nanoseconds / 1000000) ∧
    ∀ value value' epoch epoch', ∀ groups groups' : Rfc3339Match,
      rfc3339EpochMilliseconds value = some epoch → groups.Spells value.toList →
      rfc3339EpochMilliseconds value' = some epoch' → groups'.Spells value'.toList →
        (groups.nanoseconds = groups'.nanoseconds → epoch = epoch') ∧
          (groups.nanoseconds ≤ groups'.nanoseconds → epoch ≤ epoch') := by
  have hnumber : ∀ value epoch, ∀ groups : Rfc3339Match,
      rfc3339EpochMilliseconds value = some epoch → groups.Spells value.toList →
        epoch = groups.nanoseconds / 1000000 := by
    intro value epoch groups haccepted hspells
    obtain ⟨other,hother,-,hepoch⟩ := rfc3339EpochMilliseconds_eq_some_iff.1 haccepted
    rw [hspells.unique hother]
    exact hepoch
  refine ⟨⟨daysFromCivil_epoch,fun date h hyear => daysFromCivil_next h hyear⟩,?_,hnumber,?_⟩
  · intro value
    rw [Option.isSome_iff_exists]
    constructor
    · rintro ⟨epoch,hepoch⟩
      obtain ⟨groups,hspells,hexists,-⟩ := rfc3339EpochMilliseconds_eq_some_iff.1 hepoch
      exact ⟨groups,hspells,hexists⟩
    · rintro ⟨groups,hspells,hexists⟩
      exact ⟨_,rfc3339EpochMilliseconds_eq_some_iff.2 ⟨groups,hspells,hexists,rfl⟩⟩
  · intro value value' epoch epoch' groups groups' haccepted hspells haccepted' hspells'
    rw [hnumber value epoch groups haccepted hspells, hnumber value' epoch' groups' haccepted' hspells']
    constructor
    · intro heq
      rw [heq]
    · intro hle
      exact Int.ediv_le_ediv (by decide) hle

end Frontera.Mpp
