import Mathlib.Data.Int.Log
import Mathlib.Data.Rat.Floor
import Mathlib.Tactic.Linarith
import Mathlib.Tactic.FieldSimp

/-! The value a double-precision operation delivers for an exact rational result: to nearest, ties
to even. Rounding never passes an integer that 53 bits hold. -/

namespace Frontera.Data.Binary64

def roundHalfEven (x : ℚ) : ℤ :=
  if x - ⌊x⌋ < 1 / 2 then ⌊x⌋
  else if 1 / 2 < x - ⌊x⌋ then ⌊x⌋ + 1
  else if ⌊x⌋ % 2 = 0 then ⌊x⌋ else ⌊x⌋ + 1

variable {x : ℚ} {n z : ℤ}

theorem roundHalfEven_le (h : x ≤ n) : roundHalfEven x ≤ n := by
  have hfloor : ⌊x⌋ ≤ n := by exact_mod_cast (Int.floor_le x).trans h
  rcases hfloor.lt_or_eq with hlt | heq
  · unfold roundHalfEven
    split_ifs <;> omega
  · have hx : x - ⌊x⌋ < 1 / 2 := by
      rw [heq]
      linarith
    rw [roundHalfEven,if_pos hx]
    exact hfloor

theorem le_roundHalfEven (h : n ≤ x) : n ≤ roundHalfEven x := by
  have hfloor : n ≤ ⌊x⌋ := Int.le_floor.2 h
  unfold roundHalfEven
  split_ifs <;> omega

/-- The distance of neighbouring doubles at a value. -/
def spacing (x : ℚ) : ℚ := 2 ^ max (Int.log 2 |x| - 52) (-1074)

theorem spacing_pos (x : ℚ) : 0 < spacing x := zpow_pos (by norm_num) _

/-- The double nearest to a value below the range's end. -/
def round (x : ℚ) : ℚ := roundHalfEven (x / spacing x) * spacing x

/-- The result is an infinity. -/
def overflows (x : ℚ) : Bool := decide (2 ^ 1024 ≤ |round x|)

theorem round_le_of_multiple (h : x ≤ n * spacing x) : round x ≤ n * spacing x := by
  have hquotient : x / spacing x ≤ n := (div_le_iff₀ (spacing_pos x)).2 h
  have hround : (roundHalfEven (x / spacing x) : ℚ) ≤ n := by
    exact_mod_cast roundHalfEven_le hquotient
  exact mul_le_mul_of_nonneg_right hround (spacing_pos x).le

theorem le_round_of_multiple (h : n * spacing x ≤ x) : n * spacing x ≤ round x := by
  have hquotient : (n : ℚ) ≤ x / spacing x := (le_div_iff₀ (spacing_pos x)).2 h
  have hround : (n : ℚ) ≤ roundHalfEven (x / spacing x) := by
    exact_mod_cast le_roundHalfEven hquotient
  exact mul_le_mul_of_nonneg_right hround (spacing_pos x).le

theorem exists_multiple_of_lt (h : |x| < 2 ^ 53) (z : ℤ) : ∃ n : ℤ, (z : ℚ) = n * spacing x := by
  have hexponent : max (Int.log 2 |x| - 52) (-1074) ≤ 0 := by
    rcases eq_or_ne x 0 with rfl | hx
    · simp
    · have hlog : Int.log 2 |x| < 53 := by
        rw [← Int.lt_zpow_iff_log_lt (by norm_num) (abs_pos.2 hx)]
        exact_mod_cast h
      omega
  obtain ⟨k,hk⟩ : ∃ k : ℕ, max (Int.log 2 |x| - 52) (-1074) = -(k : ℤ) :=
    ⟨(-max (Int.log 2 |x| - 52) (-1074)).toNat,by omega⟩
  refine ⟨z * 2 ^ k,?_⟩
  unfold spacing
  rw [hk,zpow_neg,zpow_natCast]
  push_cast
  field_simp

theorem exists_power_of_le (h : 2 ^ 53 ≤ |x|) : ∃ n : ℤ, 2 ^ 53 ≤ n * spacing x ∧ n * spacing x ≤ |x| := by
  have hx : 0 < |x| := lt_of_lt_of_le (by norm_num) h
  have hlog : 53 ≤ Int.log 2 |x| := by
    rw [← Int.zpow_le_iff_le_log (by norm_num) hx]
    exact_mod_cast h
  have hspacing : spacing x = 2 ^ (Int.log 2 |x| - 52) := by
    unfold spacing
    rw [max_eq_left (by omega)]
  have hpower : ((2 ^ 52 : ℤ) : ℚ) * spacing x = 2 ^ Int.log 2 |x| := by
    rw [hspacing,zpow_sub₀ (by norm_num)]
    push_cast
    ring
  refine ⟨2 ^ 52,?_,?_⟩
  · rw [hpower]
    calc (2 : ℚ) ^ 53 = 2 ^ (53 : ℤ) := by norm_num
      _ ≤ 2 ^ Int.log 2 |x| := zpow_le_zpow_right₀ (by norm_num) hlog
  · rw [hpower]
    exact_mod_cast Int.zpow_log_le_self (by norm_num) hx

theorem round_le_int (h : x ≤ z) (hz : |z| ≤ 2 ^ 53) : round x ≤ z := by
  rcases lt_or_ge |x| (2 ^ 53) with hsmall | hlarge
  · obtain ⟨n,hn⟩ := exists_multiple_of_lt hsmall z
    rw [hn] at h ⊢
    exact round_le_of_multiple h
  · obtain ⟨n,hpower,hbelow⟩ := exists_power_of_le hlarge
    have hz' : |(z : ℚ)| ≤ 2 ^ 53 := by exact_mod_cast hz
    rcases le_or_gt 0 x with hx | hx
    · rw [abs_of_nonneg hx] at hbelow hlarge
      have hupper : (z : ℚ) ≤ 2 ^ 53 := (le_abs_self _).trans hz'
      have heq : (z : ℚ) = n * spacing x := by linarith
      rw [heq] at h ⊢
      exact round_le_of_multiple h
    · rw [abs_of_neg hx] at hbelow hlarge
      have hmultiple : x ≤ ((-n : ℤ) : ℚ) * spacing x := by
        push_cast
        linarith
      have hlower : -(2 ^ 53 : ℚ) ≤ z := by linarith [neg_abs_le (z : ℚ)]
      have hround := round_le_of_multiple hmultiple
      push_cast at hround
      linarith

theorem int_le_round (h : z ≤ x) (hz : |z| ≤ 2 ^ 53) : z ≤ round x := by
  rcases lt_or_ge |x| (2 ^ 53) with hsmall | hlarge
  · obtain ⟨n,hn⟩ := exists_multiple_of_lt hsmall z
    rw [hn] at h ⊢
    exact le_round_of_multiple h
  · obtain ⟨n,hpower,hbelow⟩ := exists_power_of_le hlarge
    have hz' : |(z : ℚ)| ≤ 2 ^ 53 := by exact_mod_cast hz
    rcases le_or_gt 0 x with hx | hx
    · rw [abs_of_nonneg hx] at hbelow
      have hround := le_round_of_multiple hbelow
      have hupper : (z : ℚ) ≤ 2 ^ 53 := (le_abs_self _).trans hz'
      linarith
    · rw [abs_of_neg hx] at hbelow hlarge
      have hlower : -(2 ^ 53 : ℚ) ≤ z := by linarith [neg_abs_le (z : ℚ)]
      have heq : (z : ℚ) = ((-n : ℤ) : ℚ) * spacing x := by
        push_cast
        linarith
      rw [heq] at h ⊢
      exact le_round_of_multiple h

theorem round_int (hz : |z| ≤ 2 ^ 53) : round z = z :=
  le_antisymm (round_le_int le_rfl hz) (int_le_round le_rfl hz)

theorem roundHalfEven_mono {x y : ℚ} (h : x ≤ y) : roundHalfEven x ≤ roundHalfEven y := by
  rcases (Int.floor_mono h).lt_or_eq with hlt | heq
  · calc roundHalfEven x ≤ ⌊x⌋ + 1 :=
          roundHalfEven_le (by exact_mod_cast (Int.lt_floor_add_one x).le)
      _ ≤ ⌊y⌋ := hlt
      _ ≤ roundHalfEven y := le_roundHalfEven (Int.floor_le y)
  · unfold roundHalfEven
    rw [heq]
    split_ifs <;> first | omega | linarith

theorem round_mono {x y : ℚ} (hx : 0 ≤ x) (h : x ≤ y) : round x ≤ round y := by
  rcases hx.eq_or_lt with rfl | hpos
  · have hzero : round 0 = 0 := by simpa using round_int (z := 0) (by norm_num)
    rw [hzero]
    simpa using le_round_of_multiple (n := 0) (by simpa using h)
  · have hlog : Int.log 2 |x| ≤ Int.log 2 |y| := by
      rw [abs_of_pos hpos,abs_of_pos (hpos.trans_le h)]
      exact Int.log_mono_right hpos h
    rcases eq_or_ne (spacing x) (spacing y) with hsame | hother
    · unfold round
      rw [hsame]
      have hquotient : x / spacing y ≤ y / spacing y :=
        div_le_div_of_nonneg_right h (spacing_pos y).le
      exact mul_le_mul_of_nonneg_right (by exact_mod_cast roundHalfEven_mono hquotient)
        (spacing_pos y).le
    · -- a power of two between them is a multiple of both spacings
      have hne : max (Int.log 2 |x| - 52) (-1074) ≠ max (Int.log 2 |y| - 52) (-1074) := fun heq =>
        hother (congrArg ((2 : ℚ) ^ ·) heq)
      have hmultiple : ∀ e ≤ Int.log 2 |y|, ∃ n : ℤ, (2 : ℚ) ^ Int.log 2 |y| = n * 2 ^ e := by
        intro e he
        refine ⟨2 ^ (Int.log 2 |y| - e).toNat,?_⟩
        rw [Int.cast_pow,Int.cast_ofNat,← zpow_natCast,← zpow_add₀ (by norm_num)]
        congr 1
        omega
      obtain ⟨m,hm⟩ := hmultiple (max (Int.log 2 |x| - 52) (-1074)) (by omega)
      obtain ⟨n,hn⟩ := hmultiple (max (Int.log 2 |y| - 52) (-1074)) (by omega)
      have hbelow : x ≤ (2 : ℚ) ^ Int.log 2 |y| := by
        have hlt := Int.lt_zpow_succ_log_self (R := ℚ) one_lt_two x
        rw [abs_of_pos hpos] at hlog hne
        exact hlt.le.trans (zpow_le_zpow_right₀ one_le_two (by omega))
      have habove : (2 : ℚ) ^ Int.log 2 |y| ≤ y := by
        rw [abs_of_pos (hpos.trans_le h)]
        exact_mod_cast Int.zpow_log_le_self one_lt_two (hpos.trans_le h)
      calc round x ≤ m * spacing x := round_le_of_multiple (hm ▸ hbelow)
        _ = n * spacing y := hm.symm.trans hn
        _ ≤ round y := le_round_of_multiple (hn ▸ habove)

end Frontera.Data.Binary64
