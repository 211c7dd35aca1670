import Mathlib.Data.List.Induction
import Mathlib.Data.List.Nodup

/-! The `Set` of the host language, as the list of its members in the order in which they were first
added. -/

namespace Frontera.Data.OrderedSet

variable {α : Type*} [DecidableEq α]

/-- `set.add(a)` -/
def add (set : List α) (a : α) : List α := if a ∈ set then set else set ++ [a]

/-- `new Set(list)` -/
def ofList (list : List α) : List α := list.foldl add []

@[simp] theorem ofList_nil : ofList ([] : List α) = [] := rfl

theorem ofList_concat (list : List α) (a : α) : ofList (list ++ [a]) = add (ofList list) a := by
  simp [ofList]

@[simp] theorem mem_add {set : List α} {a b : α} : b ∈ add set a ↔ b ∈ set ∨ b = a := by
  unfold add
  split_ifs with h
  · constructor
    · exact Or.inl
    · rintro (hb | rfl)
      · exact hb
      · exact h
  · simp

theorem nodup_add {set : List α} (h : set.Nodup) (a : α) : (add set a).Nodup := by
  unfold add
  split_ifs with ha
  · exact h
  · exact List.nodup_append.2 ⟨h,by simp,by rintro b hb c hc rfl; simp_all⟩

theorem prefix_add (set : List α) (a : α) : set <+: add set a := by
  unfold add
  split_ifs
  · exact List.prefix_rfl
  · exact List.prefix_append set [a]

@[simp] theorem mem_ofList {list : List α} {a : α} : a ∈ ofList list ↔ a ∈ list := by
  induction list using List.reverseRecOn with
  | nil => simp
  | append_singleton list b ih => simp [ofList_concat,ih]

theorem nodup_ofList (list : List α) : (ofList list).Nodup := by
  induction list using List.reverseRecOn with
  | nil => simp
  | append_singleton list b ih =>
    rw [ofList_concat]
    exact nodup_add ih b

theorem ofList_prefix (list more : List α) : ofList list <+: ofList (list ++ more) := by
  induction more using List.reverseRecOn with
  | nil => simp
  | append_singleton more b ih =>
    rw [← List.append_assoc,ofList_concat]
    exact ih.trans (prefix_add _ b)

theorem ofList_eq_of_nodup {list : List α} (h : list.Nodup) : ofList list = list := by
  induction list using List.reverseRecOn with
  | nil => rfl
  | append_singleton list b ih =>
    rw [List.nodup_append] at h
    rw [ofList_concat,ih h.1,add,if_neg]
    intro hb
    exact h.2.2 b hb b (by simp) rfl

end Frontera.Data.OrderedSet
