import Mathlib.Data.List.Nodup

/-! The `Map` of the host language: at most one value for each key, entries in the order in which
their keys were first set. -/

namespace Frontera.Data

open List

structure OrderedMap (K V : Type*) where
  entries : List (K × V)
  nodup : (entries.map Prod.fst).Nodup

namespace OrderedMap

variable {K V : Type*}

def empty : OrderedMap K V := ⟨[],by simp⟩

def keys (m : OrderedMap K V) : List K := m.entries.map Prod.fst

def values (m : OrderedMap K V) : List V := m.entries.map Prod.snd

variable {m : OrderedMap K V} {k : K} {v : V} {W : Type*} {g : W → K}

@[ext] theorem ext {n : OrderedMap K V} (h : m.entries = n.entries) : m = n := by
  cases m
  cases n
  cases h
  rfl

@[simp] theorem values_empty : (empty : OrderedMap K V).values = [] := rfl

variable [DecidableEq K]

def get (m : OrderedMap K V) (k : K) : Option V :=
  (m.entries.find? fun e => e.1 = k).map Prod.snd

/-- The entries after `set`: in place when the key is there, else at the end. -/
def setEntries (entries : List (K × V)) (k : K) (v : V) : List (K × V) :=
  if k ∈ entries.map Prod.fst then entries.map fun e => if e.1 = k then (k, v) else e
  else entries ++ [(k, v)]

private theorem keys_setEntries (entries : List (K × V)) (k : K) (v : V) :
    (setEntries entries k v).map Prod.fst =
      if k ∈ entries.map Prod.fst then entries.map Prod.fst else entries.map Prod.fst ++ [k] := by
  unfold setEntries
  split_ifs with hmem
  · rw [map_map]
    refine map_congr_left fun e _ => ?_
    by_cases he : e.1 = k <;> simp [he]
  · simp

def set (m : OrderedMap K V) (k : K) (v : V) : OrderedMap K V where
  entries := setEntries m.entries k v
  nodup := by
    rw [keys_setEntries]
    split_ifs with hmem
    · exact m.nodup
    · exact nodup_append.2 ⟨m.nodup,by simp,by rintro a ha b hb rfl; simp_all⟩

@[simp] theorem get_empty (k : K) : (empty : OrderedMap K V).get k = none := rfl

theorem get_eq_none_iff : m.get k = none ↔ k ∉ m.keys := by
  simp only [get,keys,Option.map_eq_none_iff,List.find?_eq_none,mem_map,not_exists,not_and]
  constructor
  · intro h e he hk
    exact absurd hk (by simpa using h e he)
  · intro h e he
    simpa using h e he

theorem get_eq_some_iff : m.get k = some v ↔ (k, v) ∈ m.entries := by
  obtain ⟨entries,hnodup⟩ := m
  simp only [get]
  induction entries with
  | nil => simp
  | cons e entries ih =>
    obtain ⟨k',v'⟩ := e
    simp only [map_cons,nodup_cons] at hnodup
    by_cases hk : k' = k
    · subst hk
      have hout : (k', v) ∉ entries := fun hmem => hnodup.1 (mem_map_of_mem hmem)
      simp [hout,eq_comm]
    · have hk' : k ≠ k' := fun h => hk h.symm
      simpa [hk,hk'] using ih hnodup.2

theorem mem_values_iff : v ∈ m.values ↔ ∃ k, m.get k = some v := by
  simp [values,get_eq_some_iff]

theorem get_of_mem_entries {e : K × V} (he : e ∈ m.entries) : m.get e.1 = some e.2 := get_eq_some_iff.2 he

theorem find?_map_values [BEq K] [LawfulBEq K] {f : V → W} (h : ∀ e ∈ m.entries, g (f e.2) = e.1)
    (k : K) : (m.values.map f).find? (fun w => g w == k) = (m.get k).map f := by
  simp only [values,get]
  revert h
  induction m.entries with
  | nil => intro _; rfl
  | cons e entries ih =>
    intro h
    have hkey := h e (by simp)
    by_cases he : e.1 = k
    · simp [hkey,he]
    · have hrest := ih fun e he => h e (by simp [he])
      simpa [hkey,he] using hrest

theorem filter_flatMap_values [BEq K] [LawfulBEq K] {f : V → List W}
    (h : ∀ e ∈ m.entries, ∀ w ∈ f e.2, g w = e.1) (k : K) :
    (m.values.flatMap f).filter (fun w => g w == k) = ((m.get k).map f).getD [] := by
  simp only [values,get]
  have hnodup := m.nodup
  revert h hnodup
  induction m.entries with
  | nil => intro _ _; rfl
  | cons e entries ih =>
    intro h hnodup
    simp only [map_cons,nodup_cons] at hnodup
    have hrest := ih (fun e he => h e (by simp [he])) hnodup.2
    simp only [map_cons,flatMap_cons,filter_append,hrest]
    by_cases he : e.1 = k
    · have hall : (f e.2).filter (fun w => g w == k) = f e.2 := by
        rw [filter_eq_self]
        intro w hw
        simp [h e (by simp) w hw,he]
      have hnone : entries.find? (fun e => e.1 = k) = none := by
        rw [List.find?_eq_none]
        intro d hd hdk
        exact hnodup.1 (mem_map.2 ⟨d,hd,(by simpa using hdk : d.1 = k).trans he.symm⟩)
      simp [hall,hnone,he]
    · have hnil : (f e.2).filter (fun w => g w == k) = [] := by
        rw [filter_eq_nil_iff]
        intro w hw
        simp [h e (by simp) w hw,he]
      simp [hnil,he]

theorem entries_set_of_get_none (h : m.get k = none) (v : V) :
    (m.set k v).entries = m.entries ++ [(k, v)] := by
  have hkey := get_eq_none_iff.1 h
  simp only [set,setEntries,keys] at hkey ⊢
  rw [if_neg hkey]

theorem values_set_of_get_none (h : m.get k = none) (v : V) : (m.set k v).values = m.values ++ [v] := by
  simp [values,entries_set_of_get_none h]

theorem get_set_of_get_none (h : m.get k = none) (v : V) (k' : K) :
    (m.set k v).get k' = if k' = k then some v else m.get k' := by
  simp only [get,entries_set_of_get_none h,List.find?_append]
  split_ifs with hk
  · subst hk
    have hnone : m.entries.find? (fun e => e.1 = k') = none := by
      simpa [get] using h
    simp [hnone]
  · have hk' : k ≠ k' := fun h => hk h.symm
    cases hfind : m.entries.find? (fun e => e.1 = k') <;> simp [hk']

theorem get_set (m : OrderedMap K V) (k : K) (v : V) (k' : K) :
    (m.set k v).get k' = if k' = k then some v else m.get k' := by
  cases hk : m.get k with
  | none => exact get_set_of_get_none hk v k'
  | some w =>
    have hmem : k ∈ m.entries.map Prod.fst :=
      mem_map.2 ⟨(k, w),get_eq_some_iff.1 hk,rfl⟩
    have hentries : (m.set k v).entries = m.entries.map fun e => if e.1 = k then (k, v) else e :=
      if_pos hmem
    ext v'
    rw [get_eq_some_iff,hentries,mem_map]
    constructor
    · rintro ⟨e,he,heq⟩
      split_ifs at heq with hkey
      · cases heq
        rw [if_pos rfl]
      · subst heq
        rw [if_neg hkey]
        exact get_eq_some_iff.2 he
    · intro h
      split_ifs at h with hkey
      · cases h
        subst hkey
        exact ⟨(k', w),get_eq_some_iff.1 hk,if_pos rfl⟩
      · exact ⟨(k', v'),get_eq_some_iff.1 h,if_neg hkey⟩

/-- `delete` -/
def delete (m : OrderedMap K V) (k : K) : OrderedMap K V where
  entries := m.entries.filter fun e => e.1 ≠ k
  nodup := m.nodup.sublist (filter_sublist.map Prod.fst)

theorem get_delete (m : OrderedMap K V) (k k' : K) :
    (m.delete k).get k' = if k' = k then none else m.get k' := by
  ext v
  rw [get_eq_some_iff,delete,mem_filter]
  split_ifs with hk
  · simp [hk]
  · simp [hk,get_eq_some_iff]

end OrderedMap

end Frontera.Data
