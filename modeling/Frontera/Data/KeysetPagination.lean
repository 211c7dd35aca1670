import Mathlib.Data.List.Basic

/-! A listing in descending order of positions, read page by page. A page is asked for by the
position the one before it ended on, so what is added above that position while the pages are read
is not seen, and nothing below it is missed or read twice. -/

namespace Frontera.Data.KeysetPagination

open List Option

variable {α R C : Type*}

/-- The entries below a position; all of them without one. -/
def below (cursor : Option Nat) (entries : List (Nat × α)) : List (Nat × α) :=
  entries.filter fun e => cursor.all fun p => decide (e.1 < p)

/-- The position to go on from, when more entries are left than the page holds. -/
def next (limit : Nat) (entries : List (Nat × α)) : Option Nat :=
  if limit < entries.length then (entries.take limit).getLast?.map Prod.fst else none

/-- The pages read one after another, until one names no cursor. The `n`-th page is read at time
`n`. -/
def followPages (read : Nat → Option C → Option (List R × Option C)) :
    Nat → Nat → Option C → Option (List R)
  | 0, _, _ => none
  | fuel + 1, n, cursor =>
      match read n cursor with
      | none => none
      | some (records, none) => some records
      | some (records, some cursor) =>
          (followPages read fuel (n + 1) (some cursor)).map (records ++ ·)

/-- Everything in `later` that is not in `earlier` stands above it. -/
def GrowsTo (earlier later : List (Nat × α)) : Prop :=
  ∃ newer, later = newer ++ earlier ∧ ∀ e ∈ newer, ∀ o ∈ earlier, o.1 < e.1

/-- A reader that answers with a page of the listing of its time. -/
structure Reads (listing : Nat → List (Nat × α)) (limit : Nat) (encode : Nat → C) (view : α → R)
    (read : Nat → Option C → Option (List R × Option C)) : Prop where
  page : ∀ n cursor, (∀ p ∈ cursor, 0 < p) → read n (cursor.map encode) =
      some (((below cursor (listing n)).take limit).map (fun e => view e.2),
        (next limit (below cursor (listing n))).map encode)

theorem below_last {done rest later : List (Nat × α)} {last : Nat × α}
    (h : GrowsTo (done ++ rest) later)
    (hdescending : (done ++ rest).Pairwise fun a b => b.1 < a.1) (hlast : done.getLast? = some last) :
    below (some last.1) later = rest := by
  obtain ⟨newer,rfl,hnewer⟩ := h
  obtain ⟨front,rfl⟩ := List.getLast?_eq_some_iff.1 hlast
  rw [pairwise_append,pairwise_append] at hdescending
  obtain ⟨⟨-,-,hfront⟩,-,hrest⟩ := hdescending
  have hlastIn : last ∈ front ++ [last] := mem_append_right _ (mem_singleton_self _)
  rw [below,filter_append,filter_append,filter_append]
  have hnone : newer.filter (fun e => (some last.1).all fun p => decide (e.1 < p)) = [] := by
    refine filter_eq_nil_iff.2 fun e he => ?_
    have hlt := hnewer e he last (mem_append_left _ hlastIn)
    simp only [all_some,decide_eq_true_eq]
    omega
  have hread : front.filter (fun e => (some last.1).all fun p => decide (e.1 < p)) = [] := by
    refine filter_eq_nil_iff.2 fun e he => ?_
    have hlt := hfront e he last (mem_singleton_self _)
    simp only [all_some,decide_eq_true_eq]
    omega
  have hleft : rest.filter (fun e => (some last.1).all fun p => decide (e.1 < p)) = rest := by
    refine filter_eq_self.2 fun e he => ?_
    have hlt := hrest last hlastIn e he
    simpa using hlt
  rw [hnone,hread,hleft]
  simp

variable {listing : Nat → List (Nat × α)} {limit : Nat} {encode : Nat → C} {view : α → R}
  {read : Nat → Option C → Option (List R × Option C)}

private theorem next_eq_some {entries : List (Nat × α)} (hlimit : 0 < limit)
    (h : limit < entries.length) : ∃ last, (entries.take limit).getLast? = some last ∧
      next limit entries = some last.1 := by
  have hne : entries.take limit ≠ [] := by
    intro hnil
    have hlength := congrArg List.length hnil
    rw [length_take,length_nil] at hlength
    omega
  refine ⟨_,List.getLast?_eq_some_getLast hne,?_⟩
  rw [next,if_pos h,List.getLast?_eq_some_getLast hne,map_some]

section

variable (hlimit : 0 < limit) (hreads : Reads listing limit encode view read)
  (hgrows : ∀ n, GrowsTo (listing 0) (listing n))
  (hdescending : (listing 0).Pairwise fun a b => b.1 < a.1) (hpositive : ∀ e ∈ listing 0, 0 < e.1)
include hlimit hreads hgrows hdescending hpositive

private theorem followPages_rest (fuel : Nat) :
    ∀ (n : Nat) (cursor : Option Nat) (rest : List (Nat × α)), (∀ p ∈ cursor, 0 < p) →
      below cursor (listing n) = rest → (∃ done, done ++ rest = listing 0) → rest.length < fuel →
      followPages read fuel n (cursor.map encode) = some (rest.map fun e => view e.2) := by
  induction fuel with
  | zero =>
    intro n cursor rest _ _ _ hfuel
    omega
  | succ fuel ih =>
    rintro n cursor rest hcursor hbelow ⟨done,hlisting⟩ hfuel
    rw [followPages,hreads.page n cursor hcursor,hbelow]
    by_cases hmore : limit < rest.length
    · obtain ⟨last,hlast,hnext⟩ := next_eq_some hlimit hmore
      have hlastIn : last ∈ listing 0 := by
        rw [← hlisting]
        exact mem_append_right _ (mem_of_mem_take (mem_of_getLast? hlast))
      have hlisting' : (done ++ rest.take limit) ++ rest.drop limit = listing 0 := by
        rw [append_assoc,take_append_drop,hlisting]
      have hread : (done ++ rest.take limit).getLast? = some last := by
        rw [List.getLast?_append,hlast]
        rfl
      have hbelow' : below (some last.1) (listing (n + 1)) = rest.drop limit :=
        below_last (hlisting' ▸ hgrows (n + 1)) (hlisting' ▸ hdescending) hread
      have hrest := ih (n + 1) (some last.1) (rest.drop limit)
        (fun p hp => by
          rw [← mem_some.1 hp]
          exact hpositive last hlastIn)
        hbelow' ⟨_,hlisting'⟩ (by rw [length_drop]; omega)
      rw [map_some] at hrest
      rw [hnext,map_some]
      simp only [hrest,map_some,← map_append,take_append_drop]
    · have hnext : next limit rest = none := by rw [next,if_neg hmore]
      rw [hnext,take_of_length_le (by omega)]
      rfl

/-- Following the cursors from the first page gives the listing of that time, whatever is added
above it meanwhile. -/
theorem followPages_eq {fuel : Nat} (hfuel : (listing 0).length < fuel) :
    followPages read fuel 0 none = some ((listing 0).map fun e => view e.2) := by
  have hall : below none (listing 0) = listing 0 := filter_eq_self.2 fun _ _ => rfl
  exact followPages_rest hlimit hreads hgrows hdescending hpositive fuel 0 none (listing 0)
    (fun _ hp => nomatch hp) hall ⟨[],rfl⟩ hfuel

end

end Frontera.Data.KeysetPagination
