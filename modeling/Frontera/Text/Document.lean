import Mathlib.Data.List.Lex
import Frontera.Data.Sorting
import Frontera.Text.SelfDelimiting
import Frontera.Text.Utf16

/-! JSON values with texts of code units and numbers of any type that has a literal of its own, the
text written for them, a reader for that text, and equality up to the order of members. -/

namespace Frontera.Text

open Utf16 List

/-- `[0-9+.eE-]` -/
def isNumberUnit (u : UInt16) : Bool :=
  (unit '0' ≤ u && u ≤ unit '9') ||
    [unit '-', unit '+', unit '.', unit 'e', unit 'E'].contains u

/-- Numbers whose text is read back. -/
class NumberLiteral (M : Type) where
  write : M → Utf16
  read : Utf16 → Option M
  write_ne_nil : ∀ n, write n ≠ []
  write_units : ∀ n, ∀ u ∈ write n, isNumberUnit u = true
  read_write : ∀ n, read (write n) = some n

inductive Document (M : Type) where
  | null
  | bool (value : Bool)
  | number (value : M)
  | string (value : Utf16)
  | array (items : List (Document M))
  | object (members : List (Utf16 × Document M))

namespace Document

variable {M : Type}

theorem induct {P : Document M → Prop} (null : P null) (bool : ∀ b, P (bool b))
    (number : ∀ n, P (number n)) (string : ∀ s, P (string s))
    (array : ∀ items, (∀ d ∈ items, P d) → P (array items))
    (object : ∀ members, (∀ m ∈ members, P m.2) → P (object members)) (d : Document M) : P d := by
  refine @Document.rec M P (fun items => ∀ d ∈ items, P d) (fun members => ∀ m ∈ members, P m.2)
    (fun m => P m.2) null bool number string array object ?_ ?_ ?_ ?_ ?_ d
  · simp
  · intro head tail hhead htail
    exact List.forall_mem_cons.2 ⟨hhead,htail⟩
  · simp
  · intro head tail hhead htail
    exact List.forall_mem_cons.2 ⟨hhead,htail⟩
  · exact fun _ _ h => h

section Written

variable [NumberLiteral M]

mutual

/-- `JSON.stringify`, without white space. -/
def write : Document M → Utf16
  | null => utf16 "null"
  | bool true => utf16 "true"
  | bool false => utf16 "false"
  | number n => NumberLiteral.write n
  | string s => quote s
  | array items => unit '[' :: ([unit ','].intercalate (writeItems items) ++ [unit ']'])
  | object members => unit '{' :: ([unit ','].intercalate (writeMembers members) ++ [unit '}'])

def writeItems : List (Document M) → List Utf16
  | [] => []
  | d :: items => write d :: writeItems items

def writeMembers : List (Utf16 × Document M) → List Utf16
  | [] => []
  | (key, d) :: members => (quote key ++ unit ':' :: write d) :: writeMembers members

end

/-- A member as it is written. -/
def writeMember (m : Utf16 × Document M) : Utf16 := quote m.1 ++ unit ':' :: write m.2

theorem writeItems_eq_map (items : List (Document M)) : writeItems items = items.map write := by
  induction items with
  | nil => rw [writeItems,map_nil]
  | cons d items ih => rw [writeItems,ih,map_cons]

theorem writeMembers_eq_map (members : List (Utf16 × Document M)) :
    writeMembers members = members.map writeMember := by
  induction members with
  | nil => rw [writeMembers,map_nil]
  | cons m members ih =>
    obtain ⟨key,d⟩ := m
    rw [writeMembers,ih,map_cons,writeMember]

end Written

/-- What a reader finds at least once, separated by commas and closed by `close`. -/
def readSequence {α : Type} (read : Utf16 → Option (α × Utf16)) (close : UInt16) :
    Nat → Utf16 → Option (List α × Utf16)
  | 0, _ => none
  | fuel + 1, text =>
      match read text with
      | some (a, u :: rest) =>
          if u = unit ',' then
            (readSequence read close fuel rest).map fun p => (a :: p.1, p.2)
          else if u = close then some ([a], rest)
          else none
      | _ => none

def readList {α : Type} (read : Utf16 → Option (α × Utf16)) (close : UInt16) (fuel : Nat)
    (text : Utf16) : Option (List α × Utf16) :=
  match text with
  | [] => none
  | u :: rest => if u = close then some ([], rest) else readSequence read close fuel (u :: rest)

def readMember {α : Type} (read : Utf16 → Option (α × Utf16)) (text : Utf16) :
    Option ((Utf16 × α) × Utf16) :=
  match text with
  | [] => none
  | u :: rest =>
      if u = unit '"' then
        match readUnits rest with
        | some (key, c :: rest) =>
            if c = unit ':' then (read rest).map fun p => ((key, p.1), p.2) else none
        | _ => none
      else none

def readLiteral (literal text : Utf16) : Option Utf16 :=
  if literal.isPrefixOf text then some (text.drop literal.length) else none

/-- The value in front of a text. A nested value is shorter than the text it stands in, so a fuel
of the length of the text is enough. -/
def readValue [NumberLiteral M] : Nat → Utf16 → Option (Document M × Utf16)
  | 0, _ => none
  | _ + 1, [] => none
  | fuel + 1, u :: rest =>
      if u = unit '"' then (readUnits rest).map fun p => (string p.1, p.2)
      else if u = unit '[' then
        (readList (readValue fuel) (unit ']') fuel rest).map fun p => (array p.1, p.2)
      else if u = unit '{' then
        (readList (readMember (readValue fuel)) (unit '}') fuel rest).map fun p => (object p.1, p.2)
      else if u = unit 'n' then (readLiteral (utf16 "ull") rest).map fun rest => (null, rest)
      else if u = unit 't' then (readLiteral (utf16 "rue") rest).map fun rest => (bool true, rest)
      else if u = unit 'f' then (readLiteral (utf16 "alse") rest).map fun rest => (bool false, rest)
      else
        (NumberLiteral.read ((u :: rest).takeWhile isNumberUnit)).map fun n =>
          (number n, (u :: rest).dropWhile isNumberUnit)

/-- `JSON.parse` of a text that `write` gave. -/
def parse [NumberLiteral M] (text : Utf16) : Option (Document M) :=
  match readValue text.length text with
  | some (d, []) => some d
  | _ => none

theorem length_le_intercalate {texts : List Utf16} {text : Utf16} (separator : UInt16)
    (h : text ∈ texts) : text.length ≤ ([separator].intercalate texts).length := by
  induction texts with
  | nil => cases h
  | cons first texts ih =>
    cases texts with
    | nil => rw [List.mem_singleton.1 h,intercalate_singleton]
    | cons next texts =>
      rw [intercalate_cons_cons,length_append,length_append]
      rcases List.mem_cons.1 h with rfl | h
      · omega
      · have hrest := ih h
        omega

theorem count_le_intercalate {texts : List Utf16} (separator : UInt16)
    (h : ∀ text ∈ texts, text ≠ []) : texts.length ≤ ([separator].intercalate texts).length := by
  induction texts with
  | nil => simp
  | cons first texts ih =>
    have hfirst := length_pos_of_ne_nil (h first (by simp))
    have hrest := ih fun t ht => h t (mem_cons_of_mem _ ht)
    cases texts with
    | nil =>
      rw [intercalate_singleton]
      exact hfirst
    | cons next texts =>
      rw [intercalate_cons_cons,length_append,length_append,length_cons]
      omega

section ReadBack

variable {α : Type} {read : Utf16 → Option (α × Utf16)} {code : α → Utf16} {close : UInt16}

theorem readSequence_intercalate (hclose : close ≠ unit ',') {items : List α} (rest : Utf16)
    (hread : ∀ a ∈ items, ∀ u tail, u = unit ',' ∨ u = close →
      read (code a ++ u :: tail) = some (a, u :: tail)) (hne : items ≠ []) {fuel : Nat}
    (hfuel : items.length ≤ fuel) :
    readSequence read close fuel ([unit ','].intercalate (items.map code) ++ close :: rest) =
      some (items, rest) := by
  induction items generalizing fuel with
  | nil => exact absurd rfl hne
  | cons a items ih =>
    rw [length_cons] at hfuel
    obtain ⟨fuel,rfl⟩ := Nat.exists_eq_add_one_of_ne_zero (n := fuel) (by omega)
    cases items with
    | nil =>
      rw [map_singleton,intercalate_singleton,readSequence, hread a (by simp) close rest (Or.inr rfl)]
      simp only [hclose,if_false,if_true]
    | cons b items =>
      have hrest : readSequence read close fuel
          ([unit ','].intercalate ((b :: items).map code) ++ close :: rest) = some (b :: items, rest) :=
        ih (fun c hc => hread c (mem_cons_of_mem _ hc)) (cons_ne_nil _ _) (by omega)
      rw [map_cons,map_cons,intercalate_cons_cons,append_assoc,
        append_assoc,singleton_append,readSequence,hread a (by simp) _ _ (Or.inl rfl)]
      simp only [if_true]
      rw [← map_cons,hrest]
      rfl

theorem readList_intercalate (hclose : close ≠ unit ',') {items : List α} (rest : Utf16)
    (hread : ∀ a ∈ items, ∀ u tail, u = unit ',' ∨ u = close →
      read (code a ++ u :: tail) = some (a, u :: tail))
    (hopens : ∀ a ∈ items, ∃ u tail, code a = u :: tail ∧ u ≠ close) {fuel : Nat}
    (hfuel : items.length ≤ fuel) :
    readList read close fuel ([unit ','].intercalate (items.map code) ++ close :: rest) =
      some (items, rest) := by
  cases items with
  | nil =>
    rw [map_nil,intercalate_nil,nil_append,readList,if_pos rfl]
  | cons a items =>
    have hsequence := readSequence_intercalate hclose rest hread (cons_ne_nil _ _) hfuel
    obtain ⟨u,tail,hcode,hu⟩ := hopens a (by simp)
    obtain ⟨tail',htext⟩ : ∃ tail', [unit ','].intercalate ((a :: items).map code) = u :: tail' := by
      cases items with
      | nil => exact ⟨tail,by rw [map_singleton,intercalate_singleton,hcode]⟩
      | cons b items =>
        exact ⟨_,by rw [map_cons,map_cons,intercalate_cons_cons,hcode, cons_append,cons_append]⟩
    rw [htext,cons_append] at hsequence ⊢
    rw [readList,if_neg hu,hsequence]

end ReadBack

section RoundTrip

variable [NumberLiteral M]

private theorem readMember_writeMember {read : Utf16 → Option (Document M × Utf16)}
    {m : Utf16 × Document M} {rest : Utf16} (h : read (write m.2 ++ rest) = some (m.2, rest)) :
    readMember read (writeMember m ++ rest) = some (m, rest) := by
  have htext : writeMember m ++ rest =
      unit '"' :: (escapeUnits m.1 ++ unit '"' :: (unit ':' :: (write m.2 ++ rest))) := by
    rw [writeMember,quote]
    simp
  rw [htext,readMember,if_pos rfl,readUnits_escapeUnits]
  simp only [if_true,h]
  rfl

private theorem write_opens (d : Document M) :
    ∃ u tail, write d = u :: tail ∧ u ≠ unit ']' ∧ u ≠ unit '}' := by
  cases d with
  | null => exact ⟨unit 'n',_,by rw [write]; rfl,by decide,by decide⟩
  | bool b =>
    cases b
    · exact ⟨unit 'f',_,by rw [write]; rfl,by decide,by decide⟩
    · exact ⟨unit 't',_,by rw [write]; rfl,by decide,by decide⟩
  | number n =>
    obtain ⟨u,tail,hwrite⟩ := exists_cons_of_ne_nil (NumberLiteral.write_ne_nil n)
    have hu := NumberLiteral.write_units n u (by rw [hwrite]; exact mem_cons_self)
    refine ⟨u,tail,by rw [write,hwrite],?_,?_⟩
    · rintro rfl
      revert hu
      decide
    · rintro rfl
      revert hu
      decide
  | string s => exact ⟨unit '"',_,by rw [write,quote],by decide,by decide⟩
  | array items => exact ⟨unit '[',_,by rw [write],by decide,by decide⟩
  | object members => exact ⟨unit '{',_,by rw [write],by decide,by decide⟩

private theorem readValue_number (n : M) {rest : Utf16} (h : Stops isNumberUnit rest)
    (fuel : Nat) : readValue (fuel + 1) (NumberLiteral.write n ++ rest) = some (number n, rest) := by
  have hunits := NumberLiteral.write_units n
  have hstop : rest.takeWhile isNumberUnit = [] ∧ rest.dropWhile isNumberUnit = rest := by
    cases rest with
    | nil => exact ⟨rfl,rfl⟩
    | cons u rest => simp [h u rest rfl]
  have htake : (NumberLiteral.write n ++ rest).takeWhile isNumberUnit = NumberLiteral.write n := by
    rw [takeWhile_append_of_pos hunits,hstop.1,append_nil]
  have hdrop : (NumberLiteral.write n ++ rest).dropWhile isNumberUnit = rest := by
    rw [dropWhile_append_of_pos hunits,hstop.2]
  obtain ⟨u,tail,hwrite⟩ := exists_cons_of_ne_nil (NumberLiteral.write_ne_nil n)
  have hu := hunits u (by rw [hwrite]; exact mem_cons_self)
  have hne : ∀ v, isNumberUnit v = false → u ≠ v := by
    rintro v hv rfl
    rw [hu] at hv
    cases hv
  rw [hwrite,cons_append] at htake hdrop ⊢
  rw [readValue,if_neg (hne _ (by decide)),if_neg (hne _ (by decide)),
    if_neg (hne _ (by decide)),if_neg (hne _ (by decide)),if_neg (hne _ (by decide)),
    if_neg (hne _ (by decide)),htake,hdrop,← hwrite,NumberLiteral.read_write]
  rfl

private theorem stops_separator {u : UInt16} (tail : Utf16) (h : isNumberUnit u = false) :
    Stops isNumberUnit (u :: tail) := by
  intro v rest heq
  rw [List.cons.injEq] at heq
  rw [← heq.1]
  exact h

private theorem fuel_pos {d : Document M} {fuel : Nat} (h : (write d).length ≤ fuel) :
    ∃ n, fuel = n + 1 := by
  obtain ⟨u,tail,hopens,-,-⟩ := write_opens d
  rw [hopens,length_cons] at h
  exact ⟨fuel - 1,by omega⟩

theorem readValue_write (d : Document M) : ∀ (fuel : Nat) (rest : Utf16),
    (write d).length ≤ fuel → Stops isNumberUnit rest →
    readValue fuel (write d ++ rest) = some (d, rest) := by
  induction d using induct with
  | null =>
    intro fuel rest hfuel _
    obtain ⟨fuel,rfl⟩ := fuel_pos hfuel
    rw [write]
    rfl
  | bool b =>
    intro fuel rest hfuel _
    obtain ⟨fuel,rfl⟩ := fuel_pos hfuel
    cases b
    · rw [write]
      rfl
    · rw [write]
      rfl
  | number n =>
    intro fuel rest hfuel hrest
    obtain ⟨fuel,rfl⟩ := fuel_pos hfuel
    rw [write]
    exact readValue_number n hrest fuel
  | string s =>
    intro fuel rest hfuel _
    obtain ⟨fuel,rfl⟩ := fuel_pos hfuel
    rw [write,quote,cons_append,append_assoc,singleton_append,readValue, if_pos rfl,readUnits_escapeUnits]
    rfl
  | array items ih =>
    intro fuel rest hfuel _
    obtain ⟨fuel,rfl⟩ := fuel_pos hfuel
    rw [write,writeItems_eq_map,length_cons,length_append,length_singleton]
      at hfuel
    have hread : ∀ d ∈ items, ∀ u tail, u = unit ',' ∨ u = unit ']' →
        readValue fuel (write d ++ u :: tail) = some (d, u :: tail) := by
      intro d hd u tail hu
      have hlength := length_le_intercalate (unit ',') (mem_map_of_mem (f := write) hd)
      refine ih d hd fuel (u :: tail) (by omega) (stops_separator tail ?_)
      rcases hu with rfl | rfl <;> decide
    have hcount : (items.map write).length ≤
        ([unit ','].intercalate (items.map write)).length := by
      refine count_le_intercalate (unit ',') fun text htext => ?_
      obtain ⟨d,-,rfl⟩ := List.mem_map.1 htext
      obtain ⟨u,tail,hopens,-,-⟩ := write_opens d
      rw [hopens]
      exact cons_ne_nil _ _
    rw [length_map] at hcount
    have hopens : ∀ d ∈ items, ∃ u tail, write d = u :: tail ∧ u ≠ unit ']' := by
      intro d _
      obtain ⟨u,tail,hopens,hu,-⟩ := write_opens d
      exact ⟨u,tail,hopens,hu⟩
    have hlist : readList (readValue fuel) (unit ']') fuel
        ([unit ','].intercalate (items.map write) ++ unit ']' :: rest) = some (items, rest) :=
      readList_intercalate (by decide) rest hread hopens (by omega)
    rw [write,writeItems_eq_map,cons_append,append_assoc,singleton_append,
      readValue,if_neg (by decide),if_pos rfl,hlist]
    rfl
  | object members ih =>
    intro fuel rest hfuel _
    obtain ⟨fuel,rfl⟩ := fuel_pos hfuel
    rw [write,writeMembers_eq_map,length_cons,length_append,length_singleton]
      at hfuel
    have hread : ∀ m ∈ members, ∀ u tail, u = unit ',' ∨ u = unit '}' →
        readMember (readValue fuel) (writeMember m ++ u :: tail) = some (m, u :: tail) := by
      intro m hm u tail hu
      have hlength := length_le_intercalate (unit ',') (mem_map_of_mem (f := writeMember) hm)
      rw [writeMember,length_append,length_cons] at hlength
      refine readMember_writeMember (ih m hm fuel (u :: tail) (by omega) (stops_separator tail ?_))
      rcases hu with rfl | rfl <;> decide
    have hcount : (members.map writeMember).length ≤
        ([unit ','].intercalate (members.map writeMember)).length := by
      refine count_le_intercalate (unit ',') fun text htext => ?_
      obtain ⟨m,-,rfl⟩ := List.mem_map.1 htext
      rw [writeMember,quote]
      exact cons_ne_nil _ _
    rw [length_map] at hcount
    have hopens : ∀ m ∈ members, ∃ u tail, writeMember m = u :: tail ∧ u ≠ unit '}' :=
      fun m _ => ⟨unit '"',_,by rw [writeMember,quote,cons_append],by decide⟩
    have hlist : readList (readMember (readValue fuel)) (unit '}') fuel
        ([unit ','].intercalate (members.map writeMember) ++ unit '}' :: rest) = some (members, rest) :=
      readList_intercalate (by decide) rest hread hopens (by omega)
    rw [write,writeMembers_eq_map,cons_append,append_assoc,singleton_append,
      readValue,if_neg (by decide),if_neg (by decide),if_pos rfl,hlist]
    rfl

theorem parse_write (d : Document M) : parse (write d) = some d := by
  have hread := readValue_write d (write d).length [] le_rfl (fun u rest h => nomatch h)
  rw [append_nil] at hread
  rw [parse,hread]

theorem write_injective : Function.Injective (write (M := M)) := by
  intro d e h
  have hread := parse_write d
  rw [h,parse_write e] at hread
  exact (Option.some_inj.1 hread).symm

end RoundTrip

/-- The order in which `sort` puts two keys. -/
def keyLe (left right : Utf16 × α) : Prop :=
  left.1.map UInt16.toNat ≤ right.1.map UInt16.toNat

section Keys

variable {α : Type}

instance : DecidableRel (keyLe (α := α)) := fun left right =>
  inferInstanceAs (Decidable (left.1.map UInt16.toNat ≤ right.1.map UInt16.toNat))

instance : Std.Total (keyLe (α := α)) := ⟨fun _ _ => le_total (α := List Nat) _ _⟩

instance : IsTrans (Utf16 × α) keyLe := ⟨fun _ _ _ h h' => le_trans (α := List Nat) h h'⟩

theorem keyLe_antisymm {members : List (Utf16 × α)} (h : (members.map Prod.fst).Nodup) :
    ∀ a ∈ members, ∀ b ∈ members, keyLe a b → keyLe b a → a = b := by
  intro a ha b hb hab hba
  have hkeys : a.1.map UInt16.toNat = b.1.map UInt16.toNat := le_antisymm (α := List Nat) hab hba
  have hinj : Function.Injective UInt16.toNat := fun _ _ => UInt16.toNat_inj.1
  exact inj_on_of_nodup_map h ha hb (hinj.list_map hkeys)

end Keys

mutual

/-- The document with the members of every object sorted by key. -/
def sorted : Document M → Document M
  | null => null
  | bool b => bool b
  | number n => number n
  | string s => string s
  | array items => array (sortedItems items)
  | object members => object ((sortedMembers members).insertionSort keyLe)

def sortedItems : List (Document M) → List (Document M)
  | [] => []
  | d :: items => sorted d :: sortedItems items

def sortedMembers : List (Utf16 × Document M) → List (Utf16 × Document M)
  | [] => []
  | (key, d) :: members => (key, sorted d) :: sortedMembers members

end

theorem sortedItems_eq_map (items : List (Document M)) : sortedItems items = items.map sorted := by
  induction items with
  | nil => rw [sortedItems,map_nil]
  | cons d items ih => rw [sortedItems,ih,map_cons]

theorem sortedMembers_eq_map (members : List (Utf16 × Document M)) :
    sortedMembers members = members.map fun m => (m.1, sorted m.2) := by
  induction members with
  | nil => rw [sortedMembers,map_nil]
  | cons m members ih =>
    obtain ⟨key,d⟩ := m
    rw [sortedMembers,ih,map_cons]

theorem sorted_sorted (d : Document M) : sorted (sorted d) = sorted d := by
  induction d using induct with
  | null => simp only [sorted]
  | bool b => simp only [sorted]
  | number n => simp only [sorted]
  | string s => simp only [sorted]
  | array items ih =>
    simp only [sorted,sortedItems_eq_map,map_map,array.injEq]
    exact map_congr_left ih
  | object members ih =>
    have hfixed : ∀ m ∈ (members.map fun m => (m.1, sorted m.2)).insertionSort keyLe,
        (m.1, sorted m.2) = m := by
      intro m hm
      obtain ⟨n,hn,rfl⟩ := List.mem_map.1 ((perm_insertionSort _ _).mem_iff.1 hm)
      rw [ih n hn]
    simp only [sorted,sortedMembers_eq_map,object.injEq]
    rw [map_congr_left hfixed,map_id']
    exact (pairwise_insertionSort keyLe _).insertionSort_eq

/-- Equal data: the same items in order, and the same members in any order. -/
inductive Same : Document M → Document M → Prop where
  | null : Same null null
  | bool (b) : Same (bool b) (bool b)
  | number (n) : Same (number n) (number n)
  | string (s) : Same (string s) (string s)
  | array {items items'} (hitems : List.Forall₂ Same items items') : Same (array items) (array items')
  | object {members members' ordered ordered'} (hperm : members.Perm ordered)
      (hperm' : members'.Perm ordered')
      (hkeys : ordered.map Prod.fst = ordered'.map Prod.fst)
      (hvalues : List.Forall₂ Same (ordered.map Prod.snd) (ordered'.map Prod.snd)) :
      Same (object members) (object members')

/-- The keys of every object are distinct. -/
inductive Distinct : Document M → Prop where
  | null : Distinct null
  | bool (b) : Distinct (bool b)
  | number (n) : Distinct (number n)
  | string (s) : Distinct (string s)
  | array {items} (hitems : ∀ d ∈ items, Distinct d) : Distinct (array items)
  | object {members} (hkeys : (members.map Prod.fst).Nodup)
      (hvalues : ∀ m ∈ members, Distinct m.2) : Distinct (object members)

private theorem map_sorted_eq {items items' : List (Document M)}
    (h : List.Forall₂ Same items items')
    (ih : ∀ d ∈ items, ∀ e ∈ items', Same d e → sorted d = sorted e) :
    items.map sorted = items'.map sorted := by
  induction h with
  | nil => rfl
  | cons hsame _ hrest =>
    rw [map_cons,map_cons,ih _ (by simp) _ (by simp) hsame,hrest fun d hd e he =>
      ih d (mem_cons_of_mem _ hd) e (mem_cons_of_mem _ he)]

private theorem forall₂_of_map_sorted {items items' : List (Document M)}
    (h : items.map sorted = items'.map sorted)
    (ih : ∀ d ∈ items, ∀ e, sorted d = sorted e → Same d e) :
    List.Forall₂ Same items items' := by
  induction items generalizing items' with
  | nil =>
    rw [map_nil,eq_comm,map_eq_nil_iff] at h
    rw [h]
    exact List.Forall₂.nil
  | cons d items hrest =>
    cases items' with
    | nil => cases h
    | cons e items' =>
      rw [map_cons,map_cons,List.cons.injEq] at h
      exact List.Forall₂.cons (ih d (by simp) e h.1)
        (hrest h.2 fun d hd => ih d (mem_cons_of_mem _ hd))

private theorem members_eq_iff {members members' : List (Utf16 × Document M)} :
    (members.map fun m => (m.1, sorted m.2)) = (members'.map fun m => (m.1, sorted m.2)) ↔
      members.map Prod.fst = members'.map Prod.fst ∧
        (members.map Prod.snd).map sorted = (members'.map Prod.snd).map sorted := by
  induction members generalizing members' with
  | nil => cases members' <;> simp
  | cons m members ih =>
    cases members' with
    | nil => simp
    | cons n members' =>
      simp only [map_cons,List.cons.injEq,Prod.mk.injEq,ih]
      tauto

private theorem sorted_members_eq {members ordered : List (Utf16 × Document M)}
    (hperm : members.Perm ordered) (hkeys : (members.map Prod.fst).Nodup) :
    (members.map fun m => (m.1, sorted m.2)).insertionSort keyLe =
      (ordered.map fun m => (m.1, sorted m.2)).insertionSort keyLe := by
  refine Data.insertionSort_eq_of_perm (hperm.map _) (keyLe_antisymm ?_)
  rwa [map_map]

theorem Same.sorted_eq {d : Document M} : ∀ {e : Document M}, Same d e → Distinct d →
    Distinct e → sorted d = sorted e := by
  induction d using induct with
  | null => rintro _ ⟨⟩ _ _; rfl
  | bool b => rintro _ ⟨⟩ _ _; rfl
  | number n => rintro _ ⟨⟩ _ _; rfl
  | string s => rintro _ ⟨⟩ _ _; rfl
  | array items ih =>
    intro e hsame hd he
    cases hsame with | array hitems => ?_
    cases hd with | array hdistinct => ?_
    cases he with | array hdistinct' => ?_
    rw [sorted,sorted,sortedItems_eq_map,sortedItems_eq_map,
      map_sorted_eq hitems fun d hd e he hsame => ih d hd hsame (hdistinct d hd) (hdistinct' e he)]
  | object members ih =>
    intro e hsame hd he
    cases hsame with | object hperm hperm' hkeys hvalues => ?_
    cases hd with | object hnodup hdistinct => ?_
    cases he with | object hnodup' hdistinct' => ?_
    have hordered := members_eq_iff.2 ⟨hkeys,map_sorted_eq hvalues fun d hd e he hsame => by
      obtain ⟨m,hm,rfl⟩ := List.mem_map.1 hd
      obtain ⟨n,hn,rfl⟩ := List.mem_map.1 he
      have hm := hperm.mem_iff.2 hm
      exact ih m hm hsame (hdistinct m hm) (hdistinct' n (hperm'.mem_iff.2 hn))⟩
    rw [sorted,sorted,sortedMembers_eq_map,sortedMembers_eq_map,
      sorted_members_eq hperm hnodup,sorted_members_eq hperm' hnodup',hordered]

private theorem insertionSort_map_sorted (members : List (Utf16 × Document M)) :
    (members.map fun m => (m.1, sorted m.2)).insertionSort keyLe =
      (members.insertionSort keyLe).map fun m => (m.1, sorted m.2) :=
  (map_insertionSort keyLe keyLe (fun m => (m.1, sorted m.2)) members
    fun _ _ _ _ => Iff.rfl).symm

theorem Same.of_sorted_eq {d : Document M} : ∀ {e : Document M}, sorted d = sorted e → Same d e := by
  induction d using induct with
  | null =>
    intro e h
    cases e <;> simp_all [sorted,Same.null]
  | bool b =>
    intro e h
    cases e <;> simp_all [sorted,Same.bool]
  | number n =>
    intro e h
    cases e <;> simp_all [sorted,Same.number]
  | string s =>
    intro e h
    cases e <;> simp_all [sorted,Same.string]
  | array items ih =>
    intro e h
    cases e with
    | array items' =>
      simp only [sorted,sortedItems_eq_map,array.injEq] at h
      exact Same.array (forall₂_of_map_sorted h fun d hd e => ih d hd)
    | _ => simp [sorted] at h
  | object members ih =>
    intro e h
    cases e with
    | object members' =>
      simp only [sorted,sortedMembers_eq_map,object.injEq,insertionSort_map_sorted, members_eq_iff] at h
      have hperm := perm_insertionSort keyLe members
      refine Same.object hperm.symm (perm_insertionSort keyLe members').symm h.1
        (forall₂_of_map_sorted h.2 fun d hd e => ?_)
      obtain ⟨m,hm,rfl⟩ := List.mem_map.1 hd
      exact ih m (hperm.mem_iff.1 hm)
    | _ => simp [sorted] at h

theorem Distinct.sorted {d : Document M} (h : Distinct d) : Distinct d.sorted := by
  induction d using induct with
  | null => rwa [Document.sorted]
  | bool b => rwa [Document.sorted]
  | number n => rwa [Document.sorted]
  | string s => rwa [Document.sorted]
  | array items ih =>
    cases h with | array hitems => ?_
    rw [Document.sorted,sortedItems_eq_map]
    refine .array fun d hd => ?_
    obtain ⟨e,he,rfl⟩ := List.mem_map.1 hd
    exact ih e he (hitems e he)
  | object members ih =>
    cases h with | object hkeys hvalues => ?_
    rw [Document.sorted,sortedMembers_eq_map]
    have hperm := perm_insertionSort keyLe (members.map fun m => (m.1, Document.sorted m.2))
    refine .object ((hperm.map _).nodup_iff.2 ?_) fun m hm => ?_
    · rwa [map_map]
    · obtain ⟨n,hn,rfl⟩ := List.mem_map.1 (hperm.mem_iff.1 hm)
      exact ih n hn (hvalues n hn)

theorem same_iff_sorted_eq {d e : Document M} (hd : Distinct d) (he : Distinct e) :
    Same d e ↔ sorted d = sorted e :=
  ⟨fun h => h.sorted_eq hd he,Same.of_sorted_eq⟩

end Document

end Frontera.Text
