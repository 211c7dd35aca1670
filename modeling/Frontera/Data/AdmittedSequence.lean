import Mathlib.Algebra.Order.BigOperators.Group.List
import Mathlib.Data.List.Infix
import Mathlib.Data.List.Perm.Subperm

/-! Each entry of an admitted sequence fitted when it was appended, judged against the entries
before it. The property survives the removal of entries when fitting does, and a bound that every
admission enforced on what it saw is a bound on every selection whose later entries saw all the
earlier ones. -/

namespace Frontera.Data

open List

variable {ι : Type*}

variable {α β : Type*} {xs : List α} {p : ι → Bool} {entries : List ι} {M : Type*} {w : α → M}

theorem filterMap_sublist {f g : α → Option β} (h : ∀ x ∈ xs, g x = none ∨ g x = f x) :
    (xs.filterMap g).Sublist (xs.filterMap f) := by
  induction xs with
  | nil => simp
  | cons x xs ih =>
    have htail := ih fun y hy => h y (by simp [hy])
    rcases h x (by simp) with hnone | hsame
    · rw [filterMap_cons_none hnone]
      cases hf : f x with
      | none => rwa [filterMap_cons_none hf]
      | some y =>
        rw [filterMap_cons_some hf]
        exact htail.cons y
    · cases hf : f x with
      | none => rwa [filterMap_cons_none hf,filterMap_cons_none (hsame.trans hf)]
      | some y =>
        rw [filterMap_cons_some hf,filterMap_cons_some (hsame.trans hf)]
        exact htail.cons_cons y

/-- Every entry fits the entries before it. -/
def Admitted (fits : List ι → ι → Prop) (entries : List ι) : Prop :=
  ∀ before e after, entries = before ++ e :: after → fits before e

namespace Admitted

variable {fits : List ι → ι → Prop} {entries : List ι}

theorem nil : Admitted fits [] := by
  intro before e after h
  simp at h

theorem concat (h : Admitted fits entries) {e : ι} (he : fits entries e) :
    Admitted fits (entries ++ [e]) := by
  intro before f after hsplit
  rcases eq_nil_or_concat after with rfl | ⟨after',g,rfl⟩
  · obtain ⟨rfl,hlast⟩ := append_inj' hsplit rfl
    obtain rfl : e = f := by simpa using hlast
    exact he
  · have hshape : entries ++ [e] = (before ++ f :: after') ++ [g] := by simpa using hsplit
    exact h before f after' (append_inj_left' hshape rfl)

theorem of_append {more : List ι} (h : Admitted fits (entries ++ more)) : Admitted fits entries := by
  intro before e after hsplit
  exact h before e (after ++ more) (by rw [hsplit]; simp)

theorem concat_iff {e : ι} : Admitted fits (entries ++ [e]) ↔ Admitted fits entries ∧ fits entries e :=
  ⟨fun h => ⟨h.of_append,h entries e [] rfl⟩,fun h => h.1.concat h.2⟩

theorem sublist (h : Admitted fits entries)
    (hmono : ∀ {before before' e}, before'.Sublist before → fits before e → fits before' e)
    {entries' : List ι} (hsub : entries'.Sublist entries) : Admitted fits entries' := by
  intro before e after hsplit
  subst hsplit
  obtain ⟨left,right,rfl,hleft,hright⟩ := append_sublist_iff.1 hsub
  obtain ⟨middle,tail,rfl,hmem,htail⟩ := cons_sublist_iff.1 hright
  obtain ⟨front,back,rfl⟩ := append_of_mem hmem
  refine hmono (hleft.trans (sublist_append_left left front)) ?_
  exact h (left ++ front) e (back ++ tail) (by simp)

end Admitted

theorem exists_last_selected (h : entries.filter p ≠ []) :
    ∃ before e after, entries = before ++ e :: after ∧ p e = true ∧
      entries.filter p = before.filter p ++ [e] := by
  induction entries using List.reverseRecOn with
  | nil => simp at h
  | append_singleton entries f ih =>
    by_cases hf : p f = true
    · exact ⟨entries,f,[],rfl,hf,by simp [hf]⟩
    · obtain ⟨before,e,after,rfl,he,hfilter⟩ := ih (by simpa [hf] using h)
      refine ⟨before,e,after ++ [f],by simp,he,?_⟩
      rw [filter_append,hfilter]
      simp [hf]

/-- When each admission kept its own weight `w` and the weights of the entries it saw
(`v`) within the maximum, so is any selection in which each entry saw the earlier ones. -/
theorem Admitted.sum_le [AddCommMonoid M] [PartialOrder M] [IsOrderedAddMonoid M] {w : ι → M}
    (hw : ∀ e, 0 ≤ w e) {maximum : M} (hmaximum : 0 ≤ maximum) {v : ι → ι → Bool}
    (h : Admitted (fun before e => w e + ((before.filter (v e)).map w).sum ≤ maximum) entries)
    (hp : ∀ e ∈ entries, ∀ f ∈ entries, p e = true → p f = true → v e f = true) :
    ((entries.filter p).map w).sum ≤ maximum := by
  by_cases hnone : entries.filter p = []
  · simpa [hnone] using hmaximum
  · obtain ⟨before,e,after,rfl,he,hfilter⟩ := exists_last_selected hnone
    rw [hfilter,map_append,sum_append,map_singleton,sum_singleton,add_comm]
    refine le_trans (add_le_add_right ?_ _) (h before e after rfl)
    have hsub : (before.filter p).Sublist (before.filter (v e)) := by
      have hboth : before.filter p = (before.filter (v e)).filter p := by
        rw [filter_filter]
        refine filter_congr fun f hf => ?_
        cases hpf : p f with
        | false => simp
        | true => simp [hp e (by simp) f (by simp [hf]) he hpf]
      rw [hboth]
      exact filter_sublist
    refine (hsub.map w).sum_le_sum ?_
    intro x hx
    obtain ⟨f,-,rfl⟩ := mem_map.1 hx
    exact hw f

theorem sum_filterMap_le_of_subset [AddCommMonoid M] [PartialOrder M] [IsOrderedAddMonoid M]
    {f : ι → Option α} (hw : ∀ a, 0 ≤ w a) {xs ys : List ι} (hnodup : xs.Nodup) (hsub : xs ⊆ ys) :
    ((xs.filterMap f).map w).sum ≤ ((ys.filterMap f).map w).sum := by
  obtain ⟨zs,hperm,hsublist⟩ := hnodup.subperm hsub
  rw [← ((hperm.filterMap f).map w).sum_eq]
  refine ((hsublist.filterMap f).map w).sum_le_sum ?_
  intro x hx
  obtain ⟨a,-,rfl⟩ := mem_map.1 hx
  exact hw a

/-- Items with distinct keys, each found in a list under its key and with its weight, weigh no
more than the list does. -/
theorem sum_le_of_found {κ : Type*} [AddCommMonoid M] [PartialOrder M] [IsOrderedAddMonoid M]
    {key : α → κ} {key' : β → κ} {w' : β → M} (hw' : ∀ b, 0 ≤ w' b) {ys : List β}
    (hnodup : (xs.map key).Nodup) (hfound : ∀ x ∈ xs, ∃ y ∈ ys, key' y = key x ∧ w' y = w x) :
    (xs.map w).sum ≤ (ys.map w').sum := by
  induction xs generalizing ys with
  | nil =>
    refine sum_nonneg ?_
    intro m hm
    obtain ⟨b,-,rfl⟩ := mem_map.1 hm
    exact hw' b
  | cons x xs ih =>
    rw [map_cons,nodup_cons] at hnodup
    obtain ⟨y,hy,hkey,hweight⟩ := hfound x mem_cons_self
    obtain ⟨before,after,rfl⟩ := append_of_mem hy
    -- what the other items are found under is not the key of this one
    have hrest : (xs.map w).sum ≤ ((before ++ after).map w').sum := by
      refine ih hnodup.2 fun x' hx' => ?_
      obtain ⟨y',hy',hkey',hweight'⟩ := hfound x' (mem_cons_of_mem x hx')
      refine ⟨y',?_,hkey',hweight'⟩
      rcases mem_append.1 hy' with hmem | hmem
      · exact mem_append_left _ hmem
      · rcases mem_cons.1 hmem with rfl | hmem
        · exact absurd (mem_map.2 ⟨x',hx',hkey'.symm.trans hkey⟩) hnodup.1
        · exact mem_append_right _ hmem
    calc ((x :: xs).map w).sum = w x + (xs.map w).sum := by rw [map_cons,sum_cons]
      _ ≤ w' y + ((before ++ after).map w').sum := by
          rw [hweight]
          exact add_le_add_right hrest _
      _ = ((before ++ y :: after).map w').sum := by
          simp only [map_append,map_cons,sum_append,sum_cons]
          rw [← add_assoc,add_comm (w' y),add_assoc]

end Frontera.Data
