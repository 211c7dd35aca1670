import Mathlib.Data.List.Basic
import Mathlib.Data.List.Infix

/-! A canonical serialization is a concatenation of field texts. It determines its fields when every
field text says on its own where it ends. Two ways of saying so are enough here: a prefix-free code,
and a run of characters that the text after it cannot continue. -/

namespace Frontera.Text

open List

variable {α β : Type*}

/-- A code each of whose words can be read off the front of any longer text. -/
def PrefixFree (code : α → List β) : Prop :=
  ∀ a b r s, code a ++ r = code b ++ s → a = b ∧ r = s

theorem PrefixFree.of_decode {code : α → List β} (decode : List β → Option (α × List β))
    (h : ∀ a r, decode (code a ++ r) = some (a, r)) : PrefixFree code := by
  intro a b r s hab
  have hdecode : some (a, r) = some (b, s) := by rw [← h a r,← h b s,hab]
  simpa using hdecode

/-- Words of a prefix-free code, one after another, closed by a symbol that
starts none of them, again form a prefix-free code. -/
theorem PrefixFree.flatMap_stop {code : α → List β} (h : PrefixFree code) (stop : β)
    (hstart : ∀ a, ∃ c rest, code a = c :: rest ∧ c ≠ stop) :
    PrefixFree fun word : List α => word.flatMap code ++ [stop] := by
  intro word
  induction word with
  | nil =>
    intro other r s heq
    cases other with
    | nil => simpa using heq
    | cons b other =>
      obtain ⟨c,rest,hcode,hne⟩ := hstart b
      simp only [flatMap_nil,nil_append,flatMap_cons,hcode,cons_append,List.cons.injEq] at heq
      exact absurd heq.1.symm hne
  | cons a word ih =>
    intro other r s heq
    cases other with
    | nil =>
      obtain ⟨c,rest,hcode,hne⟩ := hstart a
      simp only [flatMap_nil,nil_append,flatMap_cons,hcode,cons_append,List.cons.injEq] at heq
      exact absurd heq.1 hne
    | cons b other =>
      simp only [flatMap_cons,append_assoc] at heq
      obtain ⟨rfl,htail⟩ := h a b _ _ heq
      obtain ⟨rfl,hrest⟩ := ih other r s (by simpa [append_assoc] using htail)
      exact ⟨rfl,hrest⟩

/-- `p` holds of no symbol that starts the text. -/
def Stops (p : β → Bool) (text : List β) : Prop :=
  ∀ c rest, text = c :: rest → p c = false

theorem run_append_inj {p : β → Bool} {u v r s : List β} (hu : ∀ c ∈ u, p c)
    (hv : ∀ c ∈ v, p c) (hr : Stops p r) (hs : Stops p s) (h : u ++ r = v ++ s) :
    u = v ∧ r = s := by
  induction u generalizing v with
  | nil =>
    cases v with
    | nil => exact ⟨rfl,by simpa using h⟩
    | cons c v =>
      have hc := hr c (v ++ s) (by simpa using h)
      simp [hv c (by simp)] at hc
  | cons c u ih =>
    cases v with
    | nil =>
      have hc := hs c (u ++ r) (by simpa using h.symm)
      simp [hu c (by simp)] at hc
    | cons d v =>
      simp only [cons_append,List.cons.injEq] at h
      obtain ⟨rfl,h⟩ := h
      obtain ⟨rfl,rfl⟩ := ih (fun e he => hu e (by simp [he])) (fun e he => hv e (by simp [he])) h
      exact ⟨rfl,rfl⟩

theorem append_ne_append {a b : String}
    (h : (a.toList.zip b.toList).any (fun p => p.1 != p.2) = true) (r s : String) :
    a ++ r ≠ b ++ s := by
  intro heq
  have hlist : a.toList ++ r.toList = b.toList ++ s.toList := by
    rw [← String.toList_append,← String.toList_append,heq]
  revert h hlist
  generalize a.toList = u
  generalize b.toList = v
  induction u generalizing v with
  | nil => simp
  | cons c u ih =>
    intro h hlist
    cases v with
    | nil => simp at h
    | cons d v =>
      simp only [cons_append,List.cons.injEq] at hlist
      obtain ⟨rfl,hlist⟩ := hlist
      exact ih v (by simpa using h) hlist

theorem prefixFree_string {code : α → String}
    (h : PrefixFree fun a => (code a).toList) {a b : α} {r s : String} :
    code a ++ r = code b ++ s ↔ a = b ∧ r = s := by
  constructor
  · intro heq
    have hlist : (code a).toList ++ r.toList = (code b).toList ++ s.toList := by
      rw [← String.toList_append,← String.toList_append,heq]
    obtain ⟨hab,hrs⟩ := h a b _ _ hlist
    exact ⟨hab,String.toList_injective hrs⟩
  · rintro ⟨rfl,rfl⟩
    rfl

theorem prefixFree_of_append_inj {code : α → String}
    (h : ∀ a b r s, code a ++ r = code b ++ s → a = b ∧ r = s) :
    PrefixFree fun a => (code a).toList := by
  intro a b r s heq
  have htext : code a ++ String.ofList r = code b ++ String.ofList s :=
    String.toList_injective (by simpa using heq)
  obtain ⟨hab,hrest⟩ := h a b _ _ htext
  exact ⟨hab,by simpa using congrArg String.toList hrest⟩

/-- `sep`-separated concatenation, as `Array.prototype.join` computes it. -/
def join (sep : String) : List String → String
  | [] => ""
  | [x] => x
  | x :: y :: rest => x ++ sep ++ join sep (y :: rest)

@[simp] theorem join_nil (sep : String) : join sep [] = "" := rfl

@[simp] theorem join_singleton (sep x : String) : join sep [x] = x := rfl

@[simp] theorem join_cons_cons (sep x y : String) (rest : List String) :
    join sep (x :: y :: rest) = x ++ sep ++ join sep (y :: rest) := rfl

/-- Words of a prefix-free code joined by a separator and closed by a different
symbol determine the list of coded values. -/
theorem join_append_inj {code : α → String} (h : PrefixFree fun a => (code a).toList)
    {sep stop : String} (hstop : (sep.toList.zip stop.toList).any (fun p => p.1 != p.2) = true)
    (hopen : ∀ a r s, code a ++ r ≠ stop ++ s) {xs ys : List α} {r s : String}
    (heq : join sep (xs.map code) ++ (stop ++ r) = join sep (ys.map code) ++ (stop ++ s)) :
    xs = ys ∧ r = s := by
  induction xs generalizing ys with
  | nil =>
    cases ys with
    | nil => exact ⟨rfl,(String.append_right_inj stop).1 (by simpa using heq)⟩
    | cons y ys =>
      cases ys with
      | nil => exact absurd heq.symm (by simpa using hopen y _ r)
      | cons z ys =>
        exact absurd heq.symm (by simpa [String.append_assoc] using hopen y _ r)
  | cons x xs ih =>
    cases ys with
    | nil =>
      cases xs with
      | nil => exact absurd heq (by simpa using hopen x _ s)
      | cons z xs => exact absurd heq (by simpa [String.append_assoc] using hopen x _ s)
    | cons y ys =>
      cases xs with
      | nil =>
        cases ys with
        | nil =>
          obtain ⟨rfl,htail⟩ := (prefixFree_string h).1 (by simpa using heq)
          exact ⟨rfl,(String.append_right_inj stop).1 htail⟩
        | cons z ys =>
          simp only [map_cons,map_nil,join_singleton,join_cons_cons,String.append_assoc] at heq
          exact absurd ((prefixFree_string h).1 heq).2.symm (append_ne_append hstop _ _)
      | cons w xs =>
        cases ys with
        | nil =>
          simp only [map_cons,map_nil,join_singleton,join_cons_cons,String.append_assoc] at heq
          exact absurd ((prefixFree_string h).1 heq).2 (append_ne_append hstop _ _)
        | cons z ys =>
          simp only [map_cons,join_cons_cons,String.append_assoc] at heq
          obtain ⟨rfl,htail⟩ := (prefixFree_string h).1 heq
          have htail' : join sep ((w :: xs).map code) ++ (stop ++ r) =
              join sep ((z :: ys).map code) ++ (stop ++ s) := by
            simpa [String.append_assoc] using (String.append_right_inj sep).1 htail
          obtain ⟨hlist,hrest⟩ := ih htail'
          exact ⟨by rw [hlist],hrest⟩

end Frontera.Text
