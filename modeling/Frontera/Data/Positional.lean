import Mathlib.Data.List.TakeWhile
import Mathlib.Data.Nat.Digits.Lemmas

/-! A digit string, most significant digit first, read in one base and written in another. Leading
zeros are carried over as they stand, so that the two writings determine each other. -/

namespace Frontera.Data

open List

/-- The number a digit string denotes, read from its most significant digit on. -/
def digitsValue (base : Nat) (digits : List Nat) : Nat :=
  digits.foldl (fun value digit => value * base + digit) 0

/-- The digits of a number, without leading zeros; zero has none. -/
def valueDigits (base value : Nat) : List Nat := (Nat.digits base value).reverse

def leadingZeros (digits : List Nat) : Nat := (digits.takeWhile (· == 0)).length

/-- The same number and the same leading zeros in another base. -/
def transcode (base base' : Nat) (digits : List Nat) : List Nat :=
  List.replicate (leadingZeros digits) 0 ++ valueDigits base' (digitsValue base digits)

variable {base base' value : Nat} {digits : List Nat}

theorem digitsValue_eq (base : Nat) (digits : List Nat) :
    digitsValue base digits = Nat.ofDigits base digits.reverse := by
  induction digits using List.reverseRecOn with
  | nil => rfl
  | append_singleton digits digit ih =>
    have hstep : digitsValue base (digits ++ [digit]) = digitsValue base digits * base + digit := by
      simp [digitsValue]
    rw [hstep,ih,reverse_append,reverse_singleton,singleton_append,Nat.ofDigits_cons]
    ring

theorem leadingZeros_spec (digits : List Nat) :
    ∃ rest, digits = List.replicate (leadingZeros digits) 0 ++ rest ∧ rest.head? ≠ some 0 := by
  refine ⟨digits.dropWhile (· == 0),?_,?_⟩
  · have hzeros : digits.takeWhile (· == 0) = List.replicate (leadingZeros digits) 0 := by
      rw [eq_replicate_iff]
      refine ⟨rfl,fun digit hdigit => ?_⟩
      simpa using mem_takeWhile_imp hdigit
    rw [← hzeros,takeWhile_append_dropWhile]
  · intro hhead
    have hfails := List.head?_dropWhile_not (· == 0) digits
    rw [hhead] at hfails
    simp at hfails

theorem leadingZeros_replicate (n : Nat) {rest : List Nat} (h : rest.head? ≠ some 0) :
    leadingZeros (List.replicate n 0 ++ rest) = n := by
  have hrest : rest.takeWhile (· == 0) = [] := by
    cases rest with
    | nil => rfl
    | cons digit rest =>
      rw [takeWhile_cons_of_neg]
      simpa using h
  rw [leadingZeros,takeWhile_append_of_pos (by simp),hrest]
  simp

theorem digitsValue_replicate (n : Nat) (rest : List Nat) :
    digitsValue base (List.replicate n 0 ++ rest) = digitsValue base rest := by
  rw [digitsValue_eq,digitsValue_eq,reverse_append,reverse_replicate, Nat.ofDigits_append_replicate_zero]

theorem digitsValue_valueDigits (base value : Nat) : digitsValue base (valueDigits base value) = value := by
  rw [digitsValue_eq,valueDigits,reverse_reverse,Nat.ofDigits_digits]

theorem valueDigits_lt (hbase : 1 < base) : ∀ digit ∈ valueDigits base value, digit < base := by
  intro digit hdigit
  exact Nat.digits_lt_base hbase (mem_reverse.1 hdigit)

theorem head?_valueDigits (base value : Nat) : (valueDigits base value).head? ≠ some 0 := by
  rw [valueDigits,List.head?_reverse]
  by_cases hzero : value = 0
  · simp [hzero]
  · rw [List.getLast?_eq_some_getLast (Nat.digits_ne_nil_iff_ne_zero.2 hzero)]
    intro hlast
    exact Nat.getLast_digit_ne_zero base hzero (Option.some.inj hlast)

theorem valueDigits_digitsValue (hbase : 1 < base) (hdigits : ∀ digit ∈ digits, digit < base)
    (hhead : digits.head? ≠ some 0) : valueDigits base (digitsValue base digits) = digits := by
  rw [digitsValue_eq,valueDigits,Nat.digits_ofDigits base hbase,reverse_reverse]
  · intro digit hdigit
    exact hdigits digit (mem_reverse.1 hdigit)
  · intro hne hlast
    apply hhead
    rw [← List.getLast?_reverse,List.getLast?_eq_some_getLast hne,hlast]

theorem transcode_transcode (hbase : 1 < base) (hdigits : ∀ digit ∈ digits, digit < base) :
    transcode base' base (transcode base base' digits) = digits := by
  obtain ⟨rest,hrest,hhead⟩ := leadingZeros_spec digits
  have hvalue : digitsValue base digits = digitsValue base rest := by
    rw [hrest,digitsValue_replicate]
  have hlower : ∀ digit ∈ rest, digit < base := by
    intro digit hdigit
    apply hdigits
    rw [hrest]
    exact mem_append_right _ hdigit
  have hzeros : leadingZeros (transcode base base' digits) = leadingZeros digits :=
    leadingZeros_replicate _ (head?_valueDigits _ _)
  have hback : digitsValue base' (transcode base base' digits) = digitsValue base digits := by
    rw [transcode,digitsValue_replicate,digitsValue_valueDigits]
  rw [transcode,hzeros,hback,hvalue,valueDigits_digitsValue hbase hlower hhead,← hrest]

end Frontera.Data
