import Mathlib.Data.List.Basic
import Mathlib.Data.Nat.Bitwise

/-! Numbers of one width as one string of bits, most significant bit first. Strings of groups of
equal width are told apart by their bits; where trailing zero bits are not seen, they are the same
up to zero groups at the end. -/

namespace Frontera.Data

open List

/-- The low `width` bits of a number, from the most significant one down. -/
def bitsOf : Nat → Nat → List Bool
  | 0, _ => []
  | width + 1, n => n.testBit width :: bitsOf width n

/-- The bits of a string of groups. -/
def groupBits (width : Nat) (groups : List Nat) : List Bool := groups.flatMap (bitsOf width)

variable {width : Nat} {n m : Nat} {groups groups' : List Nat}

@[simp] theorem length_bitsOf (width n : Nat) : (bitsOf width n).length = width := by
  induction width with
  | zero => rfl
  | succ width ih => rw [bitsOf,length_cons,ih]

theorem bitsOf_congr (h : ∀ i < width, n.testBit i = m.testBit i) : bitsOf width n = bitsOf width m := by
  induction width with
  | zero => rfl
  | succ width ih =>
    rw [bitsOf,bitsOf,h width (Nat.lt_succ_self width),ih fun i hi => h i (by omega)]

theorem testBit_eq_of_bitsOf_eq (h : bitsOf width n = bitsOf width m) :
    ∀ i < width, n.testBit i = m.testBit i := by
  induction width with
  | zero =>
    intro i hi
    omega
  | succ width ih =>
    rw [bitsOf,bitsOf,List.cons.injEq] at h
    intro i hi
    rcases Nat.lt_succ_iff_lt_or_eq.1 hi with hlt | rfl
    · exact ih h.2 i hlt
    · exact h.1

theorem bitsOf_injective (hn : n < 2 ^ width) (hm : m < 2 ^ width)
    (h : bitsOf width n = bitsOf width m) : n = m := by
  refine Nat.eq_of_testBit_eq fun i => ?_
  by_cases hi : i < width
  · exact testBit_eq_of_bitsOf_eq h i hi
  · have hle : 2 ^ width ≤ 2 ^ i := Nat.pow_le_pow_right (by omega) (by omega)
    rw [Nat.testBit_lt_two_pow (by omega),Nat.testBit_lt_two_pow (by omega)]

theorem bitsOf_append (above below : Nat) (n : Nat) :
    bitsOf (above + below) n = bitsOf above (n / 2 ^ below) ++ bitsOf below n := by
  induction above with
  | zero => rw [Nat.zero_add,bitsOf,nil_append]
  | succ above ih =>
    have hwidth : above + 1 + below = (above + below) + 1 := by omega
    rw [hwidth,bitsOf,bitsOf,ih,Nat.testBit_div_two_pow,cons_append,Nat.add_comm]

theorem bitsOf_mod {modulus : Nat} (h : width ≤ modulus) :
    bitsOf width (n % 2 ^ modulus) = bitsOf width n := by
  refine bitsOf_congr fun i hi => ?_
  rw [Nat.testBit_mod_two_pow,decide_eq_true (by omega),Bool.true_and]

theorem bitsOf_zero (width : Nat) : bitsOf width 0 = List.replicate width false := by
  induction width with
  | zero => rfl
  | succ width ih => rw [bitsOf,ih,Nat.zero_testBit,replicate_succ]

theorem eq_zero_of_bitsOf (hn : n < 2 ^ width) (h : ∀ b ∈ bitsOf width n, b = false) : n = 0 := by
  have hzeros : bitsOf width n = List.replicate width false := by
    rw [eq_replicate_iff]
    exact ⟨length_bitsOf width n,h⟩
  exact bitsOf_injective hn (Nat.two_pow_pos width) (hzeros.trans (bitsOf_zero width).symm)

@[simp] theorem groupBits_nil (width : Nat) : groupBits width [] = [] := rfl

@[simp] theorem groupBits_cons (width n : Nat) (groups : List Nat) :
    groupBits width (n :: groups) = bitsOf width n ++ groupBits width groups := rfl

theorem groupBits_append (width : Nat) (groups groups' : List Nat) :
    groupBits width (groups ++ groups') = groupBits width groups ++ groupBits width groups' :=
  flatMap_append

theorem length_groupBits (width : Nat) (groups : List Nat) :
    (groupBits width groups).length = width * groups.length := by
  induction groups with
  | nil => rfl
  | cons n groups ih =>
    rw [groupBits_cons,length_append,length_bitsOf,ih,length_cons,Nat.mul_succ,Nat.add_comm]

theorem groupBits_replicate_zero (width n : Nat) :
    groupBits width (List.replicate n 0) = List.replicate (width * n) false := by
  induction n with
  | zero => rfl
  | succ n ih =>
    rw [replicate_succ,groupBits_cons,ih,bitsOf_zero,replicate_append_replicate, Nat.mul_succ,Nat.add_comm]

section

variable (hwidth : 0 < width) (h : ∀ n ∈ groups, n < 2 ^ width) (h' : ∀ n ∈ groups', n < 2 ^ width)
include hwidth h h'

theorem groupBits_injective (hbits : groupBits width groups = groupBits width groups') :
    groups = groups' := by
  induction groups generalizing groups' with
  | nil =>
    have hlength := congrArg List.length hbits
    rw [length_groupBits,length_groupBits,length_nil,Nat.mul_zero] at hlength
    have hnil : groups'.length = 0 := by
      rcases Nat.mul_eq_zero.1 hlength.symm with h | h <;> omega
    exact (length_eq_zero_iff.1 hnil).symm
  | cons n groups ih =>
    cases groups' with
    | nil =>
      have hlength := congrArg List.length hbits
      rw [length_groupBits,length_groupBits,length_nil,Nat.mul_zero,length_cons] at hlength
      rcases Nat.mul_eq_zero.1 hlength with h | h <;> omega
    | cons m groups' =>
      rw [groupBits_cons,groupBits_cons] at hbits
      obtain ⟨hhead,htail⟩ := append_inj hbits (by rw [length_bitsOf,length_bitsOf])
      rw [bitsOf_injective (h n mem_cons_self) (h' m mem_cons_self) hhead,
        ih (fun k hk => h k (mem_cons_of_mem _ hk))
          (fun k hk => h' k (mem_cons_of_mem _ hk)) htail]

/-- Bits that agree up to fewer zeros than two groups hold belong to groups that agree up to one
zero group. -/
theorem groups_of_padded {zeros zeros' : List Bool} (hzeros' : ∀ b ∈ zeros', b = false)
    (hshort : zeros'.length < 2 * width) (hle : groups'.length ≤ groups.length)
    (hbits : groupBits width groups ++ zeros = groupBits width groups' ++ zeros') :
    groups = groups' ∨ groups = groups' ++ [0] := by
  obtain ⟨front,tail,hsplit,hlength⟩ : ∃ front tail, groups = front ++ tail ∧
      front.length = groups'.length :=
    ⟨groups.take groups'.length,groups.drop groups'.length,(take_append_drop _ _).symm,
      length_take_of_le hle⟩
  rw [hsplit,groupBits_append,append_assoc] at hbits
  obtain ⟨hfront,htail⟩ := append_inj hbits (by
    rw [length_groupBits,length_groupBits,hlength])
  have heq : front = groups' := groupBits_injective hwidth
    (fun n hn => h n (by rw [hsplit]; exact mem_append_left _ hn)) h' hfront
  have hbound : (groupBits width tail).length < 2 * width := by
    have hsum := congrArg List.length htail
    rw [length_append] at hsum
    omega
  rw [length_groupBits] at hbound
  match tail, hsplit, htail, hbound with
  | [], hsplit, _, _ => exact .inl (by rw [hsplit,heq,append_nil])
  | [n], hsplit, htail, _ =>
    have hn : n < 2 ^ width := h n (by rw [hsplit]; simp)
    have hzero : n = 0 := by
      refine eq_zero_of_bitsOf hn fun b hb => hzeros' b ?_
      rw [← htail]
      exact mem_append_left _ (by rw [groupBits_cons]; exact mem_append_left _ hb)
    exact .inr (by rw [hsplit,heq,hzero])
  | n :: m :: rest, _, _, hbound =>
    have hmany : width * 2 ≤ width * (n :: m :: rest).length :=
      Nat.mul_le_mul_left width (by simp)
    omega

end

end Frontera.Data
