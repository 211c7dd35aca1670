import Mathlib.Data.List.Basic
import Mathlib.Data.List.Infix

/-! Where an event of a longer history stands, and which elements a list has after one of them has
changed. -/

namespace Frontera.Data

variable {α : Type*}

theorem append_eq_append_cons {history added before later : List α} {event : α}
    (h : history ++ added = before ++ event :: later) :
    (∃ rest, history = before ++ event :: rest) ∨
      ∃ middle, before = history ++ middle ∧ added = middle ++ event :: later := by
  rcases List.append_eq_append_iff.1 h with ⟨middle,hbefore,hadded⟩ | ⟨middle,hhistory,hrest⟩
  · exact .inr ⟨middle,hbefore,hadded⟩
  · cases middle with
    | nil =>
      refine .inr ⟨[],?_,?_⟩
      · simpa using hhistory.symm
      · simpa using hrest.symm
    | cons first middle =>
      rw [List.cons_append,List.cons.injEq] at hrest
      rw [← hrest.1] at hhistory
      exact .inl ⟨middle,hhistory⟩

theorem mem_modify {l : List α} {i : Nat} {f : α → α} {a : α} (h : a ∈ l.modify i f) :
    a ∈ l ∨ ∃ b ∈ l, a = f b := by
  obtain ⟨j,hj⟩ := List.mem_iff_getElem?.1 h
  rw [List.getElem?_modify] at hj
  obtain ⟨b,hb,rfl⟩ := Option.map_eq_some_iff.1 hj
  have hmem := List.mem_of_getElem? hb
  split_ifs
  · exact .inr ⟨b,hmem,rfl⟩
  · exact .inl hmem

end Frontera.Data
