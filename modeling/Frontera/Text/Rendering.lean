import Frontera.Text.JsonValue

/-! A text that a program puts together from quoted strings, integers and separators is what
`JSON.stringify` writes of one value. -/

namespace Frontera.Text

open List

namespace Json

theorem stringify_str (s : String) : Json.stringify (.str s) = Text.stringify s := rfl

theorem stringify_num (n : Int) : Json.stringify (S := String) (.num n) = toString n := by
  rw [Json.stringify,write,String.ofList_toList]

private theorem ofList_cons (c : Char) (rest : List Char) :
    String.ofList (c :: rest) = String.ofList [c] ++ String.ofList rest := by
  rw [← String.ofList_append,singleton_append]

/-- One field of an object: its quoted key, a colon and its value. -/
def writtenField (field : String × Json String) : String :=
  Text.stringify field.1 ++ ":" ++ field.2.stringify

theorem ofList_writeItems (items : List (Json String)) :
    String.ofList (writeItems items) = join "," (items.map Json.stringify) := by
  induction items with
  | nil => rfl
  | cons j items ih =>
    cases items with
    | nil => rfl
    | cons k items =>
      rw [writeItems,map_cons,map_cons,join_cons_cons,← map_cons,← ih,
        String.ofList_append,ofList_cons,String.append_assoc]
      rfl

theorem ofList_writeFields (fields : List (String × Json String)) :
    String.ofList (writeFields fields) = join "," (fields.map writtenField) := by
  induction fields with
  | nil => rfl
  | cons field fields ih =>
    obtain ⟨key,j⟩ := field
    have hfield : String.ofList (Literal.write key ++ ':' :: write j) = writtenField (key, j) := by
      rw [writtenField,String.append_assoc,String.ofList_append,ofList_cons]
      rfl
    cases fields with
    | nil => exact hfield
    | cons next fields =>
      have hsplit : writeFields ((key, j) :: next :: fields) =
          (Literal.write key ++ ':' :: write j) ++ ',' :: writeFields (next :: fields) := by
        rw [writeFields,append_assoc,cons_append]
      rw [hsplit,String.ofList_append,hfield,map_cons,map_cons,join_cons_cons,
        ← map_cons,← ih,ofList_cons,String.append_assoc]

theorem stringify_arr (items : List (Json String)) :
    Json.stringify (.arr items) = "[" ++ join "," (items.map Json.stringify) ++ "]" := by
  rw [Json.stringify,write,← ofList_writeItems,ofList_cons,String.ofList_append, String.append_assoc]

theorem stringify_obj (fields : List (String × Json String)) :
    Json.stringify (.obj fields) = "\x7b" ++ join "," (fields.map writtenField) ++ "\x7d" := by
  rw [Json.stringify,write,← ofList_writeFields,ofList_cons,String.ofList_append, String.append_assoc]

theorem stringify_injective : Function.Injective (Json.stringify (S := String)) := by
  intro j k h
  have hparsed := congrArg (Json.parse (S := String)) h
  rwa [parse_stringify,parse_stringify,Option.some_inj] at hparsed

end Json

end Frontera.Text
