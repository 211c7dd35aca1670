import Mathlib.Data.Nat.Bitwise

/-! A checksum that takes symbols in one after the other, by a step that is linear over exclusive or
and loses no remainder: one changed symbol always changes the checksum. -/

namespace Frontera.Data

open List

/-- A step on remainders of `bits` bits that takes in symbols of `symbolBits` bits. -/
structure LinearChecksum (step : Nat → Nat → Nat) (bits symbolBits : Nat) : Prop where
  xor : ∀ a b v w, step (a ^^^ b) (v ^^^ w) = step a v ^^^ step b w
  symbol : ∀ v < 2 ^ symbolBits, step 0 v = v
  lossless : ∀ a < 2 ^ bits, step a 0 = 0 → a = 0
  lt : ∀ a < 2 ^ bits, step a 0 < 2 ^ bits
  fits : symbolBits ≤ bits

namespace LinearChecksum

variable {step : Nat → Nat → Nat} {bits symbolBits : Nat}

section

variable (h : LinearChecksum step bits symbolBits)
include h

theorem foldl_xor (symbols : List Nat) (a b : Nat) : symbols.foldl step (a ^^^ b) =
      (List.replicate symbols.length 0).foldl step a ^^^ symbols.foldl step b := by
  induction symbols generalizing a b with
  | nil => rfl
  | cons v symbols ih =>
    have hstep : step (a ^^^ b) v = step a 0 ^^^ step b v := by
      rw [← h.xor,Nat.zero_xor]
    rw [foldl_cons,hstep,ih,length_cons,replicate_succ,foldl_cons,foldl_cons]

theorem foldl_zeros_ne (n : Nat) {a : Nat} (ha : a < 2 ^ bits) (hne : a ≠ 0) :
    (List.replicate n 0).foldl step a ≠ 0 := by
  induction n generalizing a with
  | zero => exact hne
  | succ n ih =>
    rw [replicate_succ,foldl_cons]
    exact ih (h.lt a ha) fun hzero => hne (h.lossless a ha hzero)

theorem foldl_ne (start : Nat) (front behind : List Nat) {v w : Nat} (hv : v < 2 ^ symbolBits)
    (hw : w < 2 ^ symbolBits) (hne : v ≠ w) :
    (front ++ v :: behind).foldl step start ≠ (front ++ w :: behind).foldl step start := by
  intro heq
  rw [foldl_append,foldl_append,foldl_cons,foldl_cons] at heq
  generalize front.foldl step start = a at heq
  have hlt : v ^^^ w < 2 ^ symbolBits := Nat.xor_lt_two_pow hv hw
  have hdiffer : v ^^^ w ≠ 0 := fun hzero => hne (Nat.xor_eq_zero_iff.1 hzero)
  have hstep : step a v = (v ^^^ w) ^^^ step a w := by
    rw [← h.symbol _ hlt,← h.xor,Nat.zero_xor,Nat.xor_assoc,Nat.xor_self,Nat.xor_zero]
  have hfits : v ^^^ w < 2 ^ bits :=
    hlt.trans_le (Nat.pow_le_pow_right (by decide) h.fits)
  apply h.foldl_zeros_ne behind.length hfits hdiffer
  rw [hstep,h.foldl_xor] at heq
  have hcancel := congrArg (· ^^^ behind.foldl step (step a w)) heq
  simpa only [Nat.xor_assoc,Nat.xor_self,Nat.xor_zero] using hcancel

end

end LinearChecksum

end Frontera.Data
