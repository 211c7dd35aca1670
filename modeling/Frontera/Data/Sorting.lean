import Mathlib.Data.List.Sort

/-! A part of a list that stands in order already is found in the same order after sorting. Where
the order tells the members of a list apart, sorting forgets the order they came in. -/

namespace Frontera.Data

open scoped List

variable {α : Type*} {r : α → α → Prop} [DecidableRel r]

theorem filter_insertionSort {l : List α} {p : α → Bool} (h : (l.filter p).Pairwise r) :
    (l.insertionSort r).filter p = l.filter p := by
  have hsub : l.filter p <+ (l.insertionSort r).filter p := by
    have hsorted := (List.sublist_insertionSort h List.filter_sublist).filter p
    simpa only [List.filter_filter,Bool.and_self] using hsorted
  have hlength := ((List.perm_insertionSort r l).filter p).length_eq
  exact (hsub.eq_of_length hlength.symm).symm

theorem insertionSort_eq_of_perm [Std.Total r] [IsTrans α r] {l l' : List α} (h : l.Perm l')
    (hanti : ∀ a ∈ l, ∀ b ∈ l, r a b → r b a → a = b) : l.insertionSort r = l'.insertionSort r := by
  have hleft := List.perm_insertionSort r l
  have hright := List.perm_insertionSort r l'
  refine List.Perm.eq_of_pairwise ?_ (List.pairwise_insertionSort r l)
    (List.pairwise_insertionSort r l') (hleft.trans (h.trans hright.symm))
  intro a b ha hb
  exact hanti a (hleft.mem_iff.1 ha) b (h.mem_iff.2 (hright.mem_iff.1 hb))

end Frontera.Data
