import Mathlib.Data.List.Sort
import Frontera.Platform
import Frontera.Text.SelfDelimiting

/-! `<` on strings compares code units. Two different strings have different code units, so the
order is total, and sorting a list without repetition puts it in strict order. -/

namespace Frontera.Text

open List

theorem charCodeUnits_prefixFree : PrefixFree charCodeUnits := by
  intro a b r s h
  have hscalar : ∀ c : Char, c.toNat < 0xD800 ∨ (0xDFFF < c.toNat ∧ c.toNat < 0x110000) :=
    fun c => c.valid
  have ha := hscalar a
  have hb := hscalar b
  have hchar : a.toNat = b.toNat → a = b := by
    intro heq
    exact Char.ext (UInt32.toNat_inj.1 heq)
  unfold charCodeUnits at h
  split_ifs at h with hsmall hsmall' hsmall'
  · simp only [cons_append,nil_append,cons.injEq] at h
    exact ⟨hchar h.1,h.2⟩
  · simp only [cons_append,nil_append,cons.injEq] at h
    omega
  · simp only [cons_append,nil_append,cons.injEq] at h
    omega
  · simp only [cons_append,nil_append,cons.injEq] at h
    exact ⟨hchar (by omega),h.2.2⟩

theorem codeUnits_injective : Function.Injective codeUnits := by
  intro a b h
  -- a low surrogate starts no character
  have hstart : ∀ c, ∃ unit rest, charCodeUnits c = unit :: rest ∧ unit ≠ 0xDC00 := by
    intro c
    have hscalar : c.toNat < 0xD800 ∨ (0xDFFF < c.toNat ∧ c.toNat < 0x110000) := c.valid
    unfold charCodeUnits
    split_ifs
    · exact ⟨c.toNat,[],rfl,by omega⟩
    · exact ⟨_,_,rfl,by omega⟩
  have hwords := charCodeUnits_prefixFree.flatMap_stop 0xDC00 hstart
  apply String.toList_injective
  refine (hwords a.toList b.toList [] [] ?_).1
  simpa [codeUnits] using h

variable {a b c : String} {list : List String}

theorem stringLt_total (h : a ≠ b) : stringLt a b = true ∨ stringLt b a = true := by
  rw [stringLt_iff,stringLt_iff]
  exact lt_or_gt_of_ne fun heq => h (codeUnits_injective heq)

theorem stringLe_iff : stringLt b a = false ↔ codeUnits a ≤ codeUnits b := by
  rw [← not_lt,← stringLt_iff,Bool.not_eq_true]

/-- `list.sort()` -/
def sortStrings (list : List String) : List String :=
  list.insertionSort fun a b => stringLt b a = false

@[simp] theorem mem_sortStrings : a ∈ sortStrings list ↔ a ∈ list :=
  (perm_insertionSort _ list).mem_iff

theorem stringLe_total (a b : String) : stringLt b a = false ∨ stringLt a b = false := by
  rw [stringLe_iff,stringLe_iff]
  exact le_total _ _

theorem stringLe_trans (h : stringLt b a = false) (h' : stringLt c b = false) : stringLt c a = false := by
  rw [stringLe_iff] at h h' ⊢
  exact h.trans h'

theorem sortStrings_strict (h : list.Nodup) :
    (sortStrings list).Pairwise fun a b => stringLt a b = true := by
  have : Std.Total fun a b : String => stringLt b a = false := ⟨stringLe_total⟩
  have : IsTrans String fun a b => stringLt b a = false := ⟨fun _ _ _ => stringLe_trans⟩
  have hsorted : (sortStrings list).Pairwise fun a b => stringLt b a = false :=
    pairwise_insertionSort _ list
  have hnodup : (sortStrings list).Nodup := (perm_insertionSort _ list).nodup_iff.2 h
  refine (hsorted.and hnodup).imp ?_
  rintro a b ⟨hle,hne⟩
  rcases stringLt_total hne with hlt | hlt
  · exact hlt
  · rw [hlt] at hle
    cases hle

end Frontera.Text
