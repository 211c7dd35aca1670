import Mathlib.Data.List.Basic

/-! The amount in the human-readable part of an invoice, in millisatoshis, and the network it stands
behind. -/

namespace Frontera.Lightning

open List Option

def msatPerBtc : Nat := 100000000000

/-- Bitcoin's supply bound. -/
def lightningMaximumMsat : Nat := 21000000 * msatPerBtc

def isMultiplier (c : Char) : Bool := ['m', 'u', 'n', 'p'].contains c

/-- Millisatoshis per unit of an amount, but for pico-bitcoins. -/
def multiplierMsat : Option Char → Nat
  | none => msatPerBtc
  | some 'm' => 100000000
  | some 'u' => 100000
  | some 'n' => 100
  | _ => 0

/-- `[1-9][0-9]{0,19}` -/
def isAmountDigits (digits : List Char) : Bool :=
  match digits with
  | [] => false
  | c :: rest => c.isDigit && c != '0' && rest.all Char.isDigit && decide (rest.length ≤ 19)

/-- The digits and the multiplier behind them. -/
def splitMultiplier (text : List Char) : List Char × Option Char :=
  match text.getLast? with
  | none => (text, none)
  | some c => if isMultiplier c then (text.dropLast, some c) else (text, none)

def msatOfBolt11Amount (text : List Char) : Option Nat :=
  let (digits, multiplier) := splitMultiplier text
  if !isAmountDigits digits then none
  else
    let value := Nat.ofDigitChars 10 digits 0
    let msat : Option Nat :=
      if multiplier = some 'p' then
        if digits.getLast? = some '0' then some (value / 10) else none
      else some (value * multiplierMsat multiplier)
    match msat with
    | none => none
    | some msat => if 0 < msat ∧ msat ≤ lightningMaximumMsat then some msat else none

/-- Tenths of a millisatoshi per unit of an amount. -/
def unitTenths : Option Char → Nat
  | none => 1000000000000
  | some 'm' => 1000000000
  | some 'u' => 1000000
  | some 'n' => 1000
  | _ => 1

/-- A text that states an amount: digits without a leading zero and at most one multiplier, worth
whole millisatoshis within the supply bound. -/
def StatesAmount (text : List Char) (msat : Nat) : Prop :=
  ∃ (digits : List Char) (multiplier : Option Char), text = digits ++ multiplier.toList ∧
    isAmountDigits digits = true ∧ (∀ c ∈ multiplier, isMultiplier c = true) ∧
    10 * msat = Nat.ofDigitChars 10 digits 0 * unitTenths multiplier ∧
    0 < msat ∧ msat ≤ lightningMaximumMsat

variable {digits : List Char} {multiplier : Option Char}

theorem isAmountDigits_isDigit (h : isAmountDigits digits = true) : ∀ c ∈ digits, c.isDigit = true := by
  cases digits with
  | nil => exact fun c hc => absurd hc not_mem_nil
  | cons c rest =>
    rw [isAmountDigits] at h
    simp only [Bool.and_eq_true] at h
    intro d hd
    rcases mem_cons.1 hd with rfl | hd
    · exact h.1.1.1
    · exact all_eq_true.1 h.1.2 d hd

theorem isAmountDigits_ne_nil (h : isAmountDigits digits = true) : digits ≠ [] := by
  rintro rfl
  cases h

theorem isMultiplier_not_digit {c : Char} (h : isMultiplier c = true) : c.isDigit = false := by
  rw [isMultiplier,contains_iff_mem] at h
  simp only [mem_cons,not_mem_nil,or_false] at h
  rcases h with rfl | rfl | rfl | rfl <;> decide

theorem splitMultiplier_append (hdigits : isAmountDigits digits = true)
    (hmultiplier : ∀ c ∈ multiplier, isMultiplier c = true) :
    splitMultiplier (digits ++ multiplier.toList) = (digits, multiplier) := by
  cases multiplier with
  | some c =>
    rw [splitMultiplier,toList_some,List.getLast?_concat]
    simp only
    rw [if_pos (hmultiplier c rfl),dropLast_concat]
  | none =>
    rw [toList_none,append_nil,splitMultiplier]
    cases hlast : digits.getLast? with
    | none => rfl
    | some c =>
      have hdigit := isAmountDigits_isDigit hdigits c (mem_of_getLast? hlast)
      have hnot : ¬ isMultiplier c = true := fun h => by
        rw [isMultiplier_not_digit h] at hdigit
        cases hdigit
      simp only
      rw [if_neg hnot]

theorem splitMultiplier_spec (text : List Char) :
    text = (splitMultiplier text).1 ++ (splitMultiplier text).2.toList ∧
      ∀ c ∈ (splitMultiplier text).2, isMultiplier c = true := by
  rw [splitMultiplier]
  cases hlast : text.getLast? with
  | none => exact ⟨(append_nil _).symm,fun c hc => nomatch hc⟩
  | some c =>
    simp only
    by_cases hc : isMultiplier c = true
    · rw [if_pos hc]
      obtain ⟨front,rfl⟩ := List.getLast?_eq_some_iff.1 hlast
      refine ⟨by rw [dropLast_concat]; rfl,fun d hd => ?_⟩
      rw [← some_inj.1 hd]
      exact hc
    · rw [if_neg hc]
      exact ⟨(append_nil _).symm,fun c hc => nomatch hc⟩

theorem ofDigitChars_mod_ten {last : Char} (h : digits.getLast? = some last) :
    Nat.ofDigitChars 10 digits 0 % 10 = (last.toNat - '0'.toNat) % 10 := by
  obtain ⟨front,rfl⟩ := List.getLast?_eq_some_iff.1 h
  rw [Nat.ofDigitChars_append,Nat.ofDigitChars_cons,Nat.ofDigitChars_nil]
  omega

theorem ten_dvd_iff (h : isAmountDigits digits = true) :
    10 ∣ Nat.ofDigitChars 10 digits 0 ↔ digits.getLast? = some '0' := by
  obtain ⟨last,hlast⟩ : ∃ last, digits.getLast? = some last :=
    ⟨_,List.getLast?_eq_some_getLast (isAmountDigits_ne_nil h)⟩
  have hmod := ofDigitChars_mod_ten hlast
  have hdigit := isAmountDigits_isDigit h last (mem_of_getLast? hlast)
  have hrange : 48 ≤ last.toNat ∧ last.toNat ≤ 57 := by
    rw [Char.isDigit,Bool.and_eq_true,decide_eq_true_eq,decide_eq_true_eq] at hdigit
    exact ⟨hdigit.1,hdigit.2⟩
  have hzero : '0'.toNat = 48 := rfl
  rw [hlast,some_inj,Nat.dvd_iff_mod_eq_zero,hmod,hzero]
  constructor
  · intro h0
    have heq : last.toNat = '0'.toNat := by
      rw [hzero]
      omega
    exact Char.toNat_inj.1 heq
  · rintro rfl
    rfl

theorem unitTenths_eq (h : ∀ c ∈ multiplier, isMultiplier c = true)
    (hpico : multiplier ≠ some 'p') : unitTenths multiplier = 10 * multiplierMsat multiplier := by
  cases multiplier with
  | none => rfl
  | some c =>
    have hc := h c rfl
    rw [isMultiplier,contains_iff_mem] at hc
    simp only [mem_cons,not_mem_nil,or_false] at hc
    rcases hc with rfl | rfl | rfl | rfl
    · rfl
    · rfl
    · rfl
    · exact absurd rfl hpico

theorem msatOfBolt11Amount_eq_some_iff {text : List Char} {msat : Nat} :
    msatOfBolt11Amount text = some msat ↔ StatesAmount text msat := by
  have hworth : ∀ (digits : List Char) (multiplier : Option Char), isAmountDigits digits = true →
      (∀ c ∈ multiplier, isMultiplier c = true) → ∀ value, (if multiplier = some 'p' then
        if digits.getLast? = some '0' then some (Nat.ofDigitChars 10 digits 0 / 10) else none
      else some (Nat.ofDigitChars 10 digits 0 * multiplierMsat multiplier)) = some value ↔
        10 * value = Nat.ofDigitChars 10 digits 0 * unitTenths multiplier := by
    intro digits multiplier hdigits hmultiplier value
    by_cases hpico : multiplier = some 'p'
    · rw [if_pos hpico,hpico]
      have hunit : unitTenths (some 'p') = 1 := rfl
      have hdvd := ten_dvd_iff hdigits
      rw [hunit,Nat.mul_one]
      by_cases hlast : digits.getLast? = some '0'
      · have hten := hdvd.2 hlast
        rw [if_pos hlast,some_inj]
        omega
      · rw [if_neg hlast]
        constructor
        · intro h
          cases h
        · intro h
          exact absurd (hdvd.1 ⟨value,h.symm⟩) hlast
    · rw [if_neg hpico,unitTenths_eq hmultiplier hpico,some_inj,Nat.mul_left_comm]
      omega
  constructor
  · intro h
    rw [msatOfBolt11Amount] at h
    obtain ⟨htext,hmultiplier⟩ := splitMultiplier_spec text
    generalize splitMultiplier text = parts at h htext hmultiplier
    obtain ⟨digits,multiplier⟩ := parts
    simp only at h htext hmultiplier
    split at h
    · cases h
    · next hnot =>
      have hdigits : isAmountDigits digits = true := by simpa using hnot
      split at h
      · cases h
      · next value hvalue =>
        split at h
        · next hbounds =>
          cases h
          exact ⟨digits,multiplier,htext,hdigits,hmultiplier,
            (hworth digits multiplier hdigits hmultiplier _).1 hvalue,hbounds⟩
        · cases h
  · rintro ⟨digits,multiplier,rfl,hdigits,hmultiplier,hvalue,hbounds⟩
    have hsome := (hworth digits multiplier hdigits hmultiplier msat).2 hvalue
    rw [msatOfBolt11Amount,splitMultiplier_append hdigits hmultiplier]
    simp only [hdigits,Bool.not_true,Bool.false_eq_true,if_false,hsome]
    rw [if_pos hbounds]

end Frontera.Lightning
