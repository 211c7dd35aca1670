import Mathlib.Data.List.Dedup
import Mathlib.Data.List.Rotate
import Mathlib.Data.List.Perm.Subperm

/-! Listings in a strict order are read page by page: a page starts behind the last key of the one
before it and goes on at the start of the listing when it comes to its end. The listings may differ
from page to page. As long as a listed key has not been read, no other key is read twice. -/

namespace Frontera.Data.CyclicPages

open List

variable {α : Type*}

/-- So many keys from an index on, wrapping around. -/
def page (keys : List α) (start count : ℕ) : List α := (keys.rotate start).take count

/-- Going round from the target on, `x` comes before `y`. -/
def Nearer (lt : α → α → Prop) (target x y : α) : Prop :=
  lt target x ∧ lt y target ∨ lt x y ∧ (lt target x ∨ lt y target)

/-- The index is the place right behind the cursor. -/
structure Behind (lt : α → α → Prop) (cursor : α) (keys : List α) (start : ℕ) : Prop where
  front : ∀ key ∈ keys.take start, key = cursor ∨ lt key cursor
  back : ∀ key ∈ keys.drop start, lt cursor key

/-- A listing and the index its page starts from. -/
structure Reading (α : Type*) where
  keys : List α
  start : ℕ

def Reading.page (reading : Reading α) (count : ℕ) : List α :=
  CyclicPages.page reading.keys reading.start count

/-- Every page starts inside its listing, which is in order, and right behind the cursor when
there is one; its last key is the next cursor. -/
def Follows (lt : α → α → Prop) (count : ℕ) : Option α → List (Reading α) → Prop
  | _, [] => True
  | cursor, reading :: rest => reading.keys.Pairwise lt ∧ reading.start ≤ reading.keys.length ∧
      (∀ c ∈ cursor, Behind lt c reading.keys reading.start) ∧
        Follows lt count ((reading.page count).getLast?.or cursor) rest

section Order

variable {lt : α → α → Prop} (htrans : ∀ a b c, lt a b → lt b c → lt a c)
  (hirrefl : ∀ a, ¬ lt a a)

include htrans hirrefl

theorem Nearer.irrefl (target x : α) : ¬ Nearer lt target x x := by
  rintro (⟨h,h'⟩ | ⟨h,-⟩)
  · exact hirrefl _ (htrans _ _ _ h h')
  · exact hirrefl x h

theorem Nearer.trans {target x y z : α} (h : Nearer lt target x y) (h' : Nearer lt target y z) :
    Nearer lt target x z := by
  rcases h with ⟨hx,hy⟩ | ⟨hxy,hx | hy⟩
  · rcases h' with ⟨hy',-⟩ | ⟨-,hy' | hz⟩
    · exact absurd (htrans _ _ _ hy' hy) (hirrefl _)
    · exact absurd (htrans _ _ _ hy' hy) (hirrefl _)
    · exact .inl ⟨hx,hz⟩
  · rcases h' with ⟨-,hz⟩ | ⟨hyz,-⟩
    · exact .inl ⟨hx,hz⟩
    · exact .inr ⟨htrans _ _ _ hxy hyz,.inl hx⟩
  · rcases h' with ⟨hy',-⟩ | ⟨hyz,hy' | hz⟩
    · exact absurd (htrans _ _ _ hy' hy) (hirrefl _)
    · exact absurd (htrans _ _ _ hy' hy) (hirrefl _)
    · exact .inr ⟨htrans _ _ _ hxy hyz,.inr hz⟩

variable {keys : List α} {start count : ℕ} {target : α}

omit htrans hirrefl in
theorem page_nearer (cursor : α) (hsorted : keys.Pairwise lt) (hstart : start ≤ keys.length)
    (hlisted : target ∈ keys) (hunread : target ∉ page keys start count) :
    (page keys start count).Pairwise (Nearer lt target) ∧ (cursor ≠ target → Behind lt cursor keys start →
        ∀ key ∈ page keys start count, Nearer lt target cursor key) := by
  rw [← take_append_drop start keys,pairwise_append] at hsorted
  obtain ⟨hfront,hback,hacross⟩ := hsorted
  -- whatever stands before the target, the page is a beginning of it
  have hpiece : ∀ before after, keys.drop start ++ keys.take start = before ++ target :: after →
      page keys start count <+: before := by
    intro before after hsplit
    have hpage : page keys start count = (before ++ target :: after).take count := by
      rw [page,rotate_eq_drop_append_take hstart,hsplit]
    rw [hpage,take_append] at hunread ⊢
    obtain hlt | hle := Nat.lt_or_ge before.length count
    · obtain ⟨n,hn⟩ := Nat.exists_eq_succ_of_ne_zero (Nat.sub_ne_zero_of_lt hlt)
      rw [hn,take_succ_cons] at hunread
      exact absurd (mem_append_right _ mem_cons_self) hunread
    · rw [Nat.sub_eq_zero_of_le hle,take_zero,append_nil]
      exact take_prefix count before
  rw [← take_append_drop start keys,mem_append] at hlisted
  rcases hlisted with hin | hin
  · obtain ⟨before,after,hsplit⟩ := append_of_mem hin
    have hall := hpiece (keys.drop start ++ before) after (by rw [hsplit,append_assoc])
    rw [hsplit,pairwise_append] at hfront
    obtain ⟨hbefore,-,hlast⟩ := hfront
    have hbelow : ∀ key ∈ before, lt key target :=
      fun key hkey => hlast key hkey target mem_cons_self
    have habove : ∀ key ∈ keys.drop start, lt target key := hacross target hin
    constructor
    · refine List.Pairwise.sublist hall.sublist (pairwise_append.2 ⟨?_,?_,?_⟩)
      · exact hback.imp_of_mem fun hx _ hxy => .inr ⟨hxy,.inl (habove _ hx)⟩
      · exact hbefore.imp_of_mem fun _ hy hxy => .inr ⟨hxy,.inr (hbelow _ hy)⟩
      · exact fun x hx y hy => .inl ⟨habove x hx,hbelow y hy⟩
    · intro hne hbehind key hkey
      have hcursor : lt target cursor :=
        (hbehind.front target hin).resolve_left fun heq => hne heq.symm
      rcases mem_append.1 (hall.subset hkey) with hkey | hkey
      · exact .inr ⟨hbehind.back key hkey,.inl hcursor⟩
      · exact .inl ⟨hcursor,hbelow key hkey⟩
  · obtain ⟨before,after,hsplit⟩ := append_of_mem hin
    have hall := hpiece before (after ++ keys.take start)
      (by rw [hsplit,append_assoc,cons_append])
    rw [hsplit,pairwise_append] at hback
    obtain ⟨hbefore,-,hlast⟩ := hback
    have hbelow : ∀ key ∈ before, lt key target :=
      fun key hkey => hlast key hkey target mem_cons_self
    constructor
    · refine List.Pairwise.sublist hall.sublist ?_
      exact hbefore.imp_of_mem fun _ hy hxy => .inr ⟨hxy,.inr (hbelow _ hy)⟩
    · intro hne hbehind key hkey
      have hkey' := hall.subset hkey
      have hdrop : key ∈ keys.drop start := by
        rw [hsplit]
        exact mem_append_left _ hkey'
      exact .inr ⟨hbehind.back key hdrop,.inr (hbelow key hkey')⟩

theorem Follows.nearer {readings : List (Reading α)} {cursor : Option α}
    (h : Follows lt count cursor readings) (hlisted : ∀ reading ∈ readings, target ∈ reading.keys)
    (hunread : ∀ reading ∈ readings, target ∉ reading.page count) :
    (readings.flatMap (·.page count)).Pairwise (Nearer lt target) ∧
      ∀ c ∈ cursor, c ≠ target → ∀ key ∈ readings.flatMap (·.page count), Nearer lt target c key := by
  induction readings generalizing cursor with
  | nil => simp
  | cons reading rest ih =>
    obtain ⟨hsorted,hstart,hbehind,hrest⟩ := h
    obtain ⟨hin,hlisted⟩ := forall_mem_cons.1 hlisted
    obtain ⟨hout,hunread⟩ := forall_mem_cons.1 hunread
    have hpage := fun c => page_nearer c hsorted hstart hin hout
    obtain ⟨hpairs,hnext⟩ := ih hrest hlisted hunread
    -- the last key of the page stands between the page and what is read behind it
    have hacross : ∀ x ∈ reading.page count, ∀ y ∈ rest.flatMap (·.page count), Nearer lt target x y := by
      intro x hx y hy
      have hne := ne_nil_of_mem hx
      have hlast := List.getLast?_eq_some_getLast hne
      rw [hlast,Option.some_or] at hnext
      have hmem := getLast_mem hne
      have hafter := hnext _ rfl (fun heq => hout (heq ▸ hmem)) y hy
      have hsplit := dropLast_append_getLast hne
      have hpage' := (hpage target).1
      rw [← Reading.page,← hsplit,pairwise_append] at hpage'
      rw [← hsplit,mem_append,mem_singleton] at hx
      rcases hx with hx | rfl
      · exact (hpage'.2.2 x hx _ (mem_singleton_self _)).trans htrans hirrefl hafter
      · exact hafter
    rw [flatMap_cons]
    refine ⟨pairwise_append.2 ⟨(hpage target).1,hpairs,hacross⟩,?_⟩
    intro c hc hne key hkey
    have hfirst := (hpage c).2 hne (hbehind c hc)
    rcases mem_append.1 hkey with hkey | hkey
    · exact hfirst key hkey
    · cases hread : reading.page count with
      | nil =>
        rw [hread,List.getLast?_nil,Option.none_or] at hnext
        exact hnext c hc hne key hkey
      | cons first others =>
        have hmem : first ∈ reading.page count := hread ▸ mem_cons_self
        exact (hfirst first hmem).trans htrans hirrefl (hacross first hmem key hkey)

variable [DecidableEq α]

theorem Follows.reads {readings : List (Reading α)} {cursor : Option α}
    (h : Follows lt count cursor readings) (hne : readings ≠ [])
    (hlisted : ∀ reading ∈ readings, target ∈ reading.keys)
    (hroom : (readings.flatMap (·.keys)).dedup.length ≤ readings.length * count) :
    ∃ reading ∈ readings, target ∈ reading.page count := by
  by_contra hnone
  have hunread : ∀ reading ∈ readings, target ∉ reading.page count :=
    fun reading hreading htarget => hnone ⟨reading,hreading,htarget⟩
  obtain ⟨hpairs,-⟩ := h.nearer htrans hirrefl hlisted hunread
  have hnodup : (readings.flatMap (·.page count)).Nodup := by
    refine hpairs.imp ?_
    rintro x y hxy rfl
    exact Nearer.irrefl htrans hirrefl target x hxy
  have hout : target ∉ readings.flatMap (·.page count) := by
    intro hmem
    obtain ⟨reading,hreading,htarget⟩ := mem_flatMap.1 hmem
    exact hunread reading hreading htarget
  -- a page that misses a listed key is full
  have hfull : ∀ reading ∈ readings, (reading.page count).length = count := by
    intro reading hreading
    rw [Reading.page,page,length_take,Nat.min_eq_left]
    by_contra hshort
    apply hunread reading hreading
    rw [Reading.page,page,take_of_length_le (Nat.le_of_lt (Nat.lt_of_not_le hshort)),mem_rotate]
    exact hlisted reading hreading
  have hlength : (readings.flatMap (·.page count)).length = readings.length * count := by
    rw [length_flatMap,map_congr_left hfull]
    simp
  have hsubset : target :: readings.flatMap (·.page count) ⊆
      (readings.flatMap (·.keys)).dedup := by
    intro key hkey
    rw [mem_dedup,mem_flatMap]
    rcases mem_cons.1 hkey with rfl | hkey
    · obtain ⟨reading,hreading⟩ := exists_mem_of_ne_nil readings hne
      exact ⟨reading,hreading,hlisted reading hreading⟩
    · obtain ⟨reading,hreading,hread⟩ := mem_flatMap.1 hkey
      exact ⟨reading,hreading,mem_rotate.1 (mem_of_mem_take hread)⟩
  have hle := ((nodup_cons.2 ⟨hout,hnodup⟩).subperm hsubset).length_le
  rw [length_cons,hlength] at hle
  omega

end Order

end Frontera.Data.CyclicPages
