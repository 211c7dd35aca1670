import Frontera.Platform
import Frontera.Text.JsonValue

/-! A text literal is the list of its characters. What a function computes of a literal is read off
that list, where a sample run would otherwise decode the literal again at every use. -/

namespace Frontera.Text

open List

variable {s t : String} {chars others : List Char}

theorem toList_literal (h : s = String.ofList chars) : s.toList = chars := by
  rw [h,String.toList_ofList]

theorem lengths_literal {texts : List String} {spellings : List (List Char)}
    (h : List.Forall₂ (fun text chars => text = String.ofList chars) texts spellings) :
    texts.map (·.toList.length) = spellings.map List.length := by
  induction h with
  | nil => rfl
  | cons htext _ ih => rw [map_cons,map_cons,toList_literal htext,ih]

section

variable (h : s = String.ofList chars) (h' : t = String.ofList others)
include h h'

theorem append_literal : s ++ t = String.ofList (chars ++ others) := by
  rw [h,h',String.ofList_append]

theorem append_eq_literal {whole : String} {all : List Char} (hwhole : whole = String.ofList all)
    (hall : chars ++ others = all) : s ++ t = whole := by
  rw [append_literal h h',hall,hwhole]

theorem ne_of_literals (hne : chars ≠ others) : s ≠ t := by
  intro heq
  apply hne
  rw [← toList_literal h,← toList_literal h',heq]

theorem stringLt_literal :
    stringLt s t = codeUnitsLt (chars.flatMap charCodeUnits) (others.flatMap charCodeUnits) := by
  rw [stringLt,codeUnits,codeUnits,toList_literal h,toList_literal h']

end

theorem stringify_literal (h : s = String.ofList chars) :
    stringify s = String.ofList ('"' :: (chars.flatMap escapeChar ++ ['"'])) := by
  rw [← toList_literal h,← toList_stringify,String.ofList_toList]

theorem write_literal (h : s = String.ofList chars) :
    Literal.write s = '"' :: (chars.flatMap escapeChar ++ ['"']) := by
  change '"' :: (s.toList.flatMap escapeChar ++ ['"']) = _
  rw [toList_literal h]

theorem tabulatedPlatform_sha256 (table : List (String × String)) (text : String) :
    (tabulatedPlatform table).sha256 text = tabulatedHash table text := rfl

theorem tabulatedHash_head (text digest : String) (table : List (String × String)) :
    tabulatedHash ((text, digest) :: table) text = digest := by
  simp [tabulatedHash]

theorem tabulatedHash_tail {text digest : String} {table : List (String × String)} (h : text ≠ s) :
    tabulatedHash ((text, digest) :: table) s = tabulatedHash table s := by
  simp [tabulatedHash,h]

theorem tabulatedHash_injective_literals {table : List (String × String)}
    {digests : List (List Char)}
    (h : List.Forall₂ (fun entry digest => entry.2 = String.ofList digest) table digests)
    (hnodup : digests.Nodup) (hheads : ∀ digest ∈ digests, digest.head? ≠ some 'x') :
    Function.Injective (tabulatedHash table) := by
  have hchars : (table.map Prod.snd).map String.toList = digests := by
    clear hnodup hheads
    induction h with
    | nil => rfl
    | cons hentry _ ih => rw [map_cons,map_cons,toList_literal hentry,ih]
  rw [← hchars] at hnodup hheads
  apply tabulatedHash_injective hnodup.of_map
  intro entry hentry
  exact hheads _ (mem_map_of_mem (mem_map_of_mem hentry))

end Frontera.Text
