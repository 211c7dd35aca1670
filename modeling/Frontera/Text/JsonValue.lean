import Mathlib.Data.List.Sort
import Frontera.Text.Json

/-! The values `JSON.stringify` writes, the text it writes for them, a reader for that text, and the
canonical form in which the fields of every object are sorted. Strings are taken from a type with
string literals of its own, so that the same facts serve texts of characters and texts of code
units. Numbers are safe integers. -/

namespace Frontera.Text

open List

/-- Strings with a literal that can be read off the front of any text. -/
class Literal (S : Type) where
  write : S → List Char
  read : List Char → Option (S × List Char)
  opens : ∀ s, ∃ rest, write s = '"' :: rest
  read_write : ∀ s rest, read (write s ++ rest) = some (s, rest)

inductive Json (S : Type) where
  | null
  | bool (value : Bool)
  | num (value : Int)
  | str (value : S)
  | arr (items : List (Json S))
  | obj (fields : List (S × Json S))

namespace Json

variable {S : Type}

section Written

variable [Literal S]

mutual

/-- `JSON.stringify`, without white space. -/
def write : Json S → List Char
  | null => ['n', 'u', 'l', 'l']
  | bool true => ['t', 'r', 'u', 'e']
  | bool false => ['f', 'a', 'l', 's', 'e']
  | num n => (toString n).toList
  | str s => Literal.write s
  | arr items => '[' :: (writeItems items ++ [']'])
  | obj fields => '{' :: (writeFields fields ++ ['}'])

def writeItems : List (Json S) → List Char
  | [] => []
  | [j] => write j
  | j :: k :: items => write j ++ ',' :: writeItems (k :: items)

def writeFields : List (S × Json S) → List Char
  | [] => []
  | [(key, j)] => Literal.write key ++ ':' :: write j
  | (key, j) :: field :: fields =>
      Literal.write key ++ ':' :: (write j ++ ',' :: writeFields (field :: fields))

end

/-- The decimal digits in front of a text. -/
def readDigits (text : List Char) : Option (Nat × List Char) :=
  match text.takeWhile Char.isDigit with
  | [] => none
  | digits => some (Nat.ofDigitChars 10 digits 0, text.dropWhile Char.isDigit)

def readInteger : List Char → Option (Int × List Char)
  | '-' :: text => (readDigits text).map fun p => (-(p.1 : Int), p.2)
  | text => (readDigits text).map fun p => ((p.1 : Int), p.2)

mutual

/-- The value in front of a text. A step reads at least one character, so a fuel of the
length of the text is enough. -/
def readValue : Nat → List Char → Option (Json S × List Char)
  | 0, _ => none
  | fuel + 1, text =>
      match text with
      | 'n' :: 'u' :: 'l' :: 'l' :: rest => some (null, rest)
      | 't' :: 'r' :: 'u' :: 'e' :: rest => some (bool true, rest)
      | 'f' :: 'a' :: 'l' :: 's' :: 'e' :: rest => some (bool false, rest)
      | '[' :: ']' :: rest => some (arr [], rest)
      | '[' :: rest => (readItems fuel rest).map fun p => (arr p.1, p.2)
      | '{' :: '}' :: rest => some (obj [], rest)
      | '{' :: rest => (readFields fuel rest).map fun p => (obj p.1, p.2)
      | '"' :: rest => (Literal.read ('"' :: rest)).map fun p => (str p.1, p.2)
      | text => (readInteger text).map fun p => (num p.1, p.2)

def readItems : Nat → List Char → Option (List (Json S) × List Char)
  | 0, _ => none
  | fuel + 1, text =>
      match readValue fuel text with
      | some (j, ',' :: rest) => (readItems fuel rest).map fun p => (j :: p.1, p.2)
      | some (j, ']' :: rest) => some ([j], rest)
      | _ => none

def readFields : Nat → List Char → Option (List (S × Json S) × List Char)
  | 0, _ => none
  | fuel + 1, text =>
      match Literal.read text with
      | some (key, ':' :: rest) =>
          match readValue fuel rest with
          | some (j, ',' :: rest) => (readFields fuel rest).map fun p => ((key, j) :: p.1, p.2)
          | some (j, '}' :: rest) => some ([(key, j)], rest)
          | _ => none
      | _ => none

end

/-- `JSON.parse` of a text that `JSON.stringify` wrote. -/
def parse (text : String) : Option (Json S) :=
  match readValue (text.toList.length + 1) text.toList with
  | some (j, []) => some j
  | _ => none

variable {rest : List Char} {c : Char} {fuel : Nat}

private theorem readDigits_toDigits (n : Nat) (h : Stops Char.isDigit rest) :
    readDigits (Nat.toDigits 10 n ++ rest) = some (n, rest) := by
  have hdigits : ∀ c ∈ Nat.toDigits 10 n, c.isDigit = true := fun c hc =>
    Nat.isDigit_of_mem_toDigits (by decide) (by decide) hc
  have hstop : rest.takeWhile Char.isDigit = [] ∧ rest.dropWhile Char.isDigit = rest := by
    cases rest with
    | nil => exact ⟨rfl,rfl⟩
    | cons c rest => simp [h c rest rfl]
  have htake : (Nat.toDigits 10 n ++ rest).takeWhile Char.isDigit = Nat.toDigits 10 n := by
    rw [takeWhile_append_of_pos hdigits,hstop.1,append_nil]
  have hdrop : (Nat.toDigits 10 n ++ rest).dropWhile Char.isDigit = rest := by
    rw [dropWhile_append_of_pos hdigits,hstop.2]
  unfold readDigits
  rw [htake,hdrop]
  split
  · rename_i hnil
    exact absurd hnil Nat.toDigits_ne_nil
  · rw [Nat.ofDigitChars_ten_toDigits]

private theorem toList_toString_nat (n : Nat) : (toString n).toList = Nat.toDigits 10 n := by
  rw [Nat.toString_eq_repr,Nat.toList_repr]

private theorem toList_toString_negSucc (n : Nat) :
    (toString (Int.negSucc n)).toList = '-' :: Nat.toDigits 10 (n + 1) := by
  have htext : toString (Int.negSucc n) = "-" ++ toString (n + 1) := rfl
  rw [htext,String.toList_append,toList_toString_nat]
  rfl

private theorem toDigits_cons (n : Nat) : ∃ c rest, Nat.toDigits 10 n = c :: rest ∧ c.isDigit = true := by
  cases hdigits : Nat.toDigits 10 n with
  | nil => exact absurd hdigits Nat.toDigits_ne_nil
  | cons c rest =>
    refine ⟨c,rest,rfl,Nat.isDigit_of_mem_toDigits (b := 10) (n := n) (by decide) (by decide) ?_⟩
    rw [hdigits]
    exact mem_cons_self

private theorem readInteger_toString (n : Int) (h : Stops Char.isDigit rest) :
    readInteger ((toString n).toList ++ rest) = some (n, rest) := by
  cases n with
  | ofNat n =>
    have htext : (toString (Int.ofNat n)).toList = Nat.toDigits 10 n := toList_toString_nat n
    obtain ⟨c,digits,hdigits,hc⟩ := toDigits_cons n
    rw [htext,readInteger.eq_def]
    split
    · rename_i text heq
      rw [hdigits,cons_append,List.cons.injEq] at heq
      rw [heq.1] at hc
      exact absurd hc (by decide)
    · rw [readDigits_toDigits n h]
      rfl
  | negSucc n =>
    rw [toList_toString_negSucc,cons_append,readInteger,readDigits_toDigits (n + 1) h]
    rfl

private theorem readValue_integer {text : List Char} (hc : isIntegerChar c = true) (fuel : Nat) :
    readValue (S := S) (fuel + 1) (c :: text) = (readInteger (c :: text)).map fun p => (num p.1, p.2) := by
  have hne : ∀ d : Char, isIntegerChar d = false → c ≠ d := by
    rintro d hd rfl
    rw [hc] at hd
    cases hd
  have hn := hne 'n' (by decide)
  have ht := hne 't' (by decide)
  have hf := hne 'f' (by decide)
  have hbracket := hne '[' (by decide)
  have hbrace := hne '{' (by decide)
  have hquote := hne '"' (by decide)
  rw [readValue.eq_def]
  simp only
  split <;> simp_all

private theorem readValue_num (n : Int) (h : Stops Char.isDigit rest) (fuel : Nat) :
    readValue (S := S) (fuel + 1) ((toString n).toList ++ rest) = some (num n, rest) := by
  have hread := readInteger_toString n h
  cases htext : (toString n).toList with
  | nil =>
    cases n with
    | ofNat n =>
      have hdigits : (toString (Int.ofNat n)).toList = Nat.toDigits 10 n := toList_toString_nat n
      exact absurd (hdigits.symm.trans htext) Nat.toDigits_ne_nil
    | negSucc n =>
      rw [toList_toString_negSucc] at htext
      cases htext
  | cons c text =>
    rw [htext,cons_append] at hread
    have hc := integer_toString_chars n c (by rw [htext]; exact mem_cons_self)
    rw [cons_append,readValue_integer hc,hread]
    rfl

private theorem readValue_str (s : S) (rest : List Char) (fuel : Nat) :
    readValue (fuel + 1) (Literal.write s ++ rest) = some (str s, rest) := by
  obtain ⟨text,hopens⟩ := Literal.opens s
  have hread := Literal.read_write s rest
  rw [hopens,cons_append] at hread ⊢
  rw [readValue]
  simp [hread]

private theorem write_opens (j : Json S) : ∃ c rest, write j = c :: rest ∧ c ≠ ']' ∧ c ≠ '}' := by
  cases j with
  | null => exact ⟨'n',_,rfl,by decide,by decide⟩
  | bool b =>
    cases b
    · exact ⟨'f',_,rfl,by decide,by decide⟩
    · exact ⟨'t',_,rfl,by decide,by decide⟩
  | num n =>
    have hchars := integer_toString_chars n
    rw [write]
    cases n with
    | ofNat n =>
      have hdigits : (toString (Int.ofNat n)).toList = Nat.toDigits 10 n := toList_toString_nat n
      obtain ⟨c,rest,htext,hc⟩ := toDigits_cons n
      refine ⟨c,rest,hdigits.trans htext,?_,?_⟩ <;> rintro rfl <;> revert hc <;> decide
    | negSucc n =>
      exact ⟨'-',_,toList_toString_negSucc n,by decide,by decide⟩
  | str s =>
    obtain ⟨rest,hopens⟩ := Literal.opens s
    exact ⟨'"',rest,hopens,by decide,by decide⟩
  | arr items => exact ⟨'[',_,by rw [write],by decide,by decide⟩
  | obj fields => exact ⟨'{',_,by rw [write],by decide,by decide⟩

private theorem stops_digit_of_separator (h : c.isDigit = false) : Stops Char.isDigit (c :: rest) := by
  intro d tail heq
  rw [List.cons.injEq] at heq
  rw [← heq.1]
  exact h

/-- With this fuel every written value is read back, whatever stands after it. -/
private def ReadsValues (S : Type) [Literal S] (fuel : Nat) : Prop :=
  ∀ (j : Json S) (rest : List Char), (write j).length ≤ fuel → Stops Char.isDigit rest →
    readValue fuel (write j ++ rest) = some (j, rest)

private def ReadsItems (S : Type) [Literal S] (fuel : Nat) : Prop :=
  ∀ (item : Json S) (items : List (Json S)) (rest : List Char), (writeItems (item :: items)).length < fuel →
    readItems fuel (writeItems (item :: items) ++ ']' :: rest) = some (item :: items, rest)

private def ReadsFields (S : Type) [Literal S] (fuel : Nat) : Prop :=
  ∀ (key : S) (value : Json S) (fields : List (S × Json S)) (rest : List Char),
    (writeFields ((key, value) :: fields)).length < fuel →
    readFields fuel (writeFields ((key, value) :: fields) ++ '}' :: rest) =
      some ((key, value) :: fields, rest)

private theorem readsValues_succ (hitems : ReadsItems S fuel) (hfields : ReadsFields S fuel) :
    ReadsValues S (fuel + 1) := by
  intro j rest hfuel hrest
  match j with
  | null => rfl
  | bool true => rfl
  | bool false => rfl
  | num n => exact readValue_num n hrest fuel
  | str s => exact readValue_str s rest fuel
  | arr [] => rfl
  | arr (item :: items) =>
    rw [write,length_cons,length_append,length_singleton] at hfuel
    have hread := hitems item items rest (by omega)
    obtain ⟨d,tail,hitem,hbracket,-⟩ := write_opens item
    obtain ⟨tail',hwritten⟩ : ∃ tail', writeItems (item :: items) = d :: tail' := by
      cases items with
      | nil => exact ⟨tail,by rw [writeItems,hitem]⟩
      | cons next items => exact ⟨_,by rw [writeItems,hitem,cons_append]⟩
    rw [write,cons_append,append_assoc]
    rw [hwritten,cons_append] at hread ⊢
    rw [readValue]
    · rw [singleton_append,hread]
      rfl
    · intro rest' heq
      rw [List.cons.injEq] at heq
      exact hbracket heq.1
  | obj [] => rfl
  | obj ((key, value) :: fields) =>
    rw [write,length_cons,length_append,length_singleton] at hfuel
    have hread := hfields key value fields rest (by omega)
    obtain ⟨tail,hkey⟩ := Literal.opens key
    obtain ⟨tail',hwritten⟩ : ∃ tail', writeFields ((key, value) :: fields) = '"' :: tail' := by
      cases fields with
      | nil => exact ⟨_,by rw [writeFields,hkey,cons_append]⟩
      | cons next fields => exact ⟨_,by rw [writeFields,hkey,cons_append]⟩
    rw [write,cons_append,append_assoc]
    rw [hwritten,cons_append] at hread ⊢
    rw [readValue]
    · rw [singleton_append,hread]
      rfl
    · intro rest' heq
      rw [List.cons.injEq] at heq
      exact absurd heq.1 (by decide)

private theorem readsItems_succ (hvalues : ReadsValues S fuel) (hitems : ReadsItems S fuel) :
    ReadsItems S (fuel + 1) := by
  intro item items rest hfuel
  cases items with
  | nil =>
    rw [writeItems] at hfuel ⊢
    rw [readItems,hvalues item _ (by omega) (stops_digit_of_separator (by decide))]
    rfl
  | cons next items =>
    rw [writeItems,length_append,length_cons] at hfuel
    rw [writeItems,append_assoc,cons_append,readItems,
      hvalues item _ (by omega) (stops_digit_of_separator (by decide))]
    simp only
    rw [hitems next items rest (by omega)]
    rfl

private theorem readsFields_succ (hvalues : ReadsValues S fuel) (hfields : ReadsFields S fuel) :
    ReadsFields S (fuel + 1) := by
  intro key value fields rest hfuel
  cases fields with
  | nil =>
    rw [writeFields,length_append,length_cons] at hfuel
    rw [writeFields,append_assoc,cons_append,readFields,Literal.read_write]
    simp only
    rw [hvalues value _ (by omega) (stops_digit_of_separator (by decide))]
    rfl
  | cons next fields =>
    obtain ⟨nextKey,next⟩ := next
    rw [writeFields,length_append,length_cons,length_append,length_cons] at hfuel
    rw [writeFields,append_assoc,cons_append,append_assoc,cons_append, readFields,Literal.read_write]
    simp only
    rw [hvalues value _ (by omega) (stops_digit_of_separator (by decide))]
    simp only
    rw [hfields nextKey next fields rest (by omega)]
    rfl

private theorem reads (fuel : Nat) : ReadsValues S fuel ∧ ReadsItems S fuel ∧ ReadsFields S fuel := by
  induction fuel with
  | zero =>
    refine ⟨?_,?_,?_⟩
    · intro j rest hfuel
      obtain ⟨c,text,hopens,-,-⟩ := write_opens j
      rw [hopens,length_cons] at hfuel
      omega
    · intro item items rest hfuel
      omega
    · intro key value fields rest hfuel
      omega
  | succ fuel ih =>
    obtain ⟨hvalues,hitems,hfields⟩ := ih
    exact ⟨readsValues_succ hitems hfields,readsItems_succ hvalues hitems, readsFields_succ hvalues hfields⟩

/-- `JSON.stringify`. -/
def stringify (j : Json S) : String := String.ofList (write j)

theorem parse_stringify (j : Json S) : parse (stringify j) = some j := by
  have hread := (reads ((write j).length + 1)).1 j [] (by omega) (fun c rest h => by cases h)
  rw [append_nil] at hread
  rw [parse,stringify,String.toList_ofList,hread]

end Written

section Canonical

variable (le : S → S → Bool)

mutual

/-- The value with the fields of every object sorted by key. -/
def canonical : Json S → Json S
  | null => null
  | bool b => bool b
  | num n => num n
  | str s => str s
  | arr items => arr (canonicalItems items)
  | obj fields => obj ((canonicalFields fields).insertionSort fun a b => le a.1 b.1 = true)

def canonicalItems : List (Json S) → List (Json S)
  | [] => []
  | j :: items => canonical j :: canonicalItems items

def canonicalFields : List (S × Json S) → List (S × Json S)
  | [] => []
  | (key, j) :: fields => (key, canonical j) :: canonicalFields fields

end

theorem canonicalFields_eq_map (fields : List (S × Json S)) :
    canonicalFields le fields = fields.map fun f => (f.1, canonical le f.2) := by
  induction fields with
  | nil => rfl
  | cons f fields ih =>
    obtain ⟨key,j⟩ := f
    rw [canonicalFields,ih,map_cons]

theorem canonicalItems_eq_map (items : List (Json S)) :
    canonicalItems le items = items.map (canonical le) := by
  induction items with
  | nil => rfl
  | cons j items ih => rw [canonicalItems,ih,map_cons]

/-- `aoc.canonical-json.v1` -/
def canonicalSerialize [Literal S] (j : Json S) : String := stringify (canonical le j)

theorem parse_canonicalSerialize [Literal S] (j : Json S) :
    parse (canonicalSerialize le j) = some (canonical le j) :=
  parse_stringify _

end Canonical

section Fields

variable [DecidableEq S]

def lookup (fields : List (S × Json S)) (key : S) : Option (Json S) :=
  (fields.find? fun f => f.1 = key).map Prod.snd

/-- `value[key]` -/
def get : Json S → S → Option (Json S)
  | obj fields, key => lookup fields key
  | _, _ => none

theorem lookup_perm {fields fields' : List (S × Json S)} (h : fields.Perm fields')
    (hnodup : (fields.map Prod.fst).Nodup) (key : S) :
    lookup fields key = lookup fields' key := by
  unfold lookup
  induction h with
  | nil => rfl
  | cons f h ih =>
    rw [map_cons,nodup_cons] at hnodup
    by_cases hkey : f.1 = key
    · simp [hkey]
    · simp [hkey,ih hnodup.2]
  | swap f g fields =>
    simp only [map_cons,nodup_cons,mem_cons,not_or] at hnodup
    by_cases hf : f.1 = key
    · have hg : g.1 ≠ key := fun hg => hnodup.1.1 (hg.trans hf.symm)
      simp [hf,hg]
    · by_cases hg : g.1 = key
      · simp [hf,hg]
      · simp [hf,hg]
  | trans h h' ih ih' => rw [ih hnodup,ih' ((h.map _).nodup_iff.1 hnodup)]

theorem lookup_map (f : Json S → Json S) (fields : List (S × Json S)) (key : S) :
    lookup (fields.map fun g => (g.1, f g.2)) key = (lookup fields key).map f := by
  unfold lookup
  induction fields with
  | nil => rfl
  | cons g fields ih =>
    by_cases hkey : g.1 = key
    · simp [hkey]
    · simpa [hkey] using ih

theorem get_canonical (le : S → S → Bool) {fields : List (S × Json S)}
    (hnodup : (fields.map Prod.fst).Nodup) (key : S) :
    get (canonical le (obj fields)) key = (lookup fields key).map (canonical le) := by
  have hkeys : ((canonicalFields le fields).map Prod.fst).Nodup := by
    rw [canonicalFields_eq_map,map_map]
    exact hnodup
  have hperm := perm_insertionSort (fun a b : S × Json S => le a.1 b.1 = true)
    (canonicalFields le fields)
  rw [canonical,get,lookup_perm hperm ((hperm.map _).nodup_iff.2 hkeys),canonicalFields_eq_map, lookup_map]

end Fields

end Json

private def hexValueOf (c : Char) : Nat :=
  if c.isDigit then c.toNat - '0'.toNat else c.toNat - 'a'.toNat + 10

/-- The characters of a literal after its opening quotation mark, up to its closing one. -/
def readChars : List Char → Option (List Char × List Char)
  | [] => none
  | '"' :: rest => some ([], rest)
  | '\\' :: '"' :: rest => (readChars rest).map fun p => ('"' :: p.1, p.2)
  | '\\' :: '\\' :: rest => (readChars rest).map fun p => ('\\' :: p.1, p.2)
  | '\\' :: 'b' :: rest => (readChars rest).map fun p => ('\x08' :: p.1, p.2)
  | '\\' :: 'f' :: rest => (readChars rest).map fun p => ('\x0c' :: p.1, p.2)
  | '\\' :: 'n' :: rest => (readChars rest).map fun p => ('\n' :: p.1, p.2)
  | '\\' :: 'r' :: rest => (readChars rest).map fun p => ('\r' :: p.1, p.2)
  | '\\' :: 't' :: rest => (readChars rest).map fun p => ('\t' :: p.1, p.2)
  | '\\' :: 'u' :: _ :: _ :: high :: low :: rest =>
      (readChars rest).map fun p =>
        (Char.ofNat (16 * hexValueOf high + hexValueOf low) :: p.1, p.2)
  | c :: rest => (readChars rest).map fun p => (c :: p.1, p.2)

private theorem hexValueOf_pair : ∀ n : Fin 32,
    16 * hexValueOf (hexDigit (n.val / 16)) + hexValueOf (hexDigit n.val) = n.val := by
  decide

private theorem readChars_escapeChar (c : Char) (text : List Char) :
    readChars (escapeChar c ++ text) = (readChars text).map fun p => (c :: p.1, p.2) := by
  obtain ⟨d,hd,hescape⟩ | ⟨hcontrol,hescape⟩ | ⟨hquote,hslash,hescape⟩ := escapeChar_cases c
  · rw [hescape]
    simp only [shortEscapes,mem_cons,Prod.mk.injEq,not_mem_nil,or_false] at hd
    obtain ⟨rfl,rfl⟩ | ⟨rfl,rfl⟩ | ⟨rfl,rfl⟩ | ⟨rfl,rfl⟩ | ⟨rfl,rfl⟩ | ⟨rfl,rfl⟩ |
      ⟨rfl,rfl⟩ := hd <;> rfl
  · have hvalue := hexValueOf_pair ⟨c.toNat,hcontrol⟩
    simp only at hvalue
    rw [hescape]
    simp only [cons_append,nil_append,readChars]
    rw [hvalue,Char.ofNat_toNat]
  · rw [hescape,singleton_append,readChars]
    · exact hquote
    all_goals
      intros
      exact absurd ‹c = '\\'› hslash

private theorem readChars_flatMap (s rest : List Char) :
    readChars (s.flatMap escapeChar ++ '"' :: rest) = some (s, rest) := by
  induction s with
  | nil => rfl
  | cons c s ih =>
    rw [flatMap_cons,append_assoc,readChars_escapeChar,ih]
    rfl

instance : Literal String where
  write s := '"' :: (s.toList.flatMap escapeChar ++ ['"'])
  read
    | '"' :: rest => (readChars rest).map fun p => (String.ofList p.1, p.2)
    | _ => none
  opens s := ⟨_,rfl⟩
  read_write s rest := by
    simp only [cons_append,append_assoc,nil_append,readChars_flatMap, Option.map_some,String.ofList_toList]

end Frontera.Text
