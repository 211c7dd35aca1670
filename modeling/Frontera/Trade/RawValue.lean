import Frontera.Platform

/-! What a trading contract is given before it has read it: any value of the host language, less its
proxies. A record is read once, as data, by `snapshotTradeRecord` of `trade-grammar.ts`; the readers
of closed records and of lists are those of `trade-risk-exact.ts`. -/

namespace Frontera.Trade

inductive PropertyKey where
  | name (name : String)
  | symbol

inductive RawValue where
  | undefined | null
  | bool (value : Bool)
  /-- An integer other than `-0`. -/
  | number (value : Int)
  /-- `-0`, a fraction, an infinity or `NaN`. -/
  | otherNumber
  | str (value : String)
  /-- An array: an element that is a hole or an accessor is `none`, and `others` is whether it has
  own keys besides its elements and its length. -/
  | list (elements : List (Option RawValue)) (others : Bool)
  /-- An object that is no array, with its own properties in order: whether it is a plain record,
  and `none` for a property that is an accessor or not enumerable. -/
  | record (plain : Bool) (properties : List (PropertyKey × Option RawValue))
  /-- A function, a symbol or a big integer. -/
  | other

inductive TradeRecordRefusal where
  | notAnObject | tooManyProperties | symbolProperty
  | dangerousProperty (property : String)
  | accessorProperty (property : String)

def dangerousKeys : List String := ["__proto__", "constructor", "prototype"]

def isReportableChar (c : Char) : Bool :=
  (decide ('A' ≤ c) && decide (c ≤ 'Z')) || (decide ('a' ≤ c) && decide (c ≤ 'z')) ||
    (decide ('0' ≤ c) && decide (c ≤ '9')) || c == '_' || c == '.' || c == '-'

def reportablePropertyName (name : String) : String :=
  if name ≠ "" ∧ name.toList.length ≤ 64 ∧ name.toList.all isReportableChar then name
  else "<property>"

/-- The entries of a record, in the order of its keys. -/
abbrev RecordEntries := List (String × RawValue)

def RecordEntries.get (entries : RecordEntries) (key : String) : Option RawValue :=
  (entries.find? fun entry => entry.1 = key).map Prod.snd

def RecordEntries.has (entries : RecordEntries) (key : String) : Bool := (entries.get key).isSome

def readProperties : List (PropertyKey × Option RawValue) → Except TradeRecordRefusal RecordEntries
  | [] => .ok []
  | (.symbol, _) :: _ => .error .symbolProperty
  | (.name key, value) :: properties =>
      if key ∈ dangerousKeys then .error (.dangerousProperty key)
      else
        match value with
        | none => .error (.accessorProperty (reportablePropertyName key))
        | some value => (readProperties properties).map fun entries => (key, value) :: entries

def snapshotTradeRecord (raw : RawValue) (maximumProperties : Nat) :
    Except TradeRecordRefusal RecordEntries :=
  match raw with
  | .record true properties =>
      if properties.length > maximumProperties then .error .tooManyProperties
      else readProperties properties
  | _ => .error .notAnObject

/-- Exactly the required keys, optionally some optional ones. -/
def closedRecord (raw : RawValue) (required : List String) (optional : List String) :
    Option RecordEntries :=
  match snapshotTradeRecord raw (required.length + optional.length) with
  | .error _ => none
  | .ok entries =>
      if entries.all (fun entry => entry.1 ∈ required || entry.1 ∈ optional) &&
          required.all entries.has then some entries
      else none

/-- A real array of at most so many own data elements. -/
def plainList (raw : RawValue) (maximum : Nat) : Option (List RawValue) :=
  match raw with
  | .list elements others =>
      if elements.length > maximum || others then none else elements.mapM id
  | _ => none

theorem mapM_id_eq_some {α : Type} {elements : List (Option α)} {values : List α} :
    elements.mapM id = some values ↔ elements = values.map some := by
  induction elements generalizing values with
  | nil => cases values <;> simp
  | cons element elements ih =>
    rw [List.mapM_cons]
    cases element with
    | none => cases values <;> simp
    | some value =>
      cases values with
      | nil => cases elements.mapM id <;> simp
      | cons value' values =>
        rw [List.map_cons,List.cons.injEq,← ih]
        cases elements.mapM id <;> simp

theorem plainList_eq_some {raw : RawValue} {maximum : Nat} {values : List RawValue} :
    plainList raw maximum = some values ↔
      raw = .list (values.map some) false ∧ values.length ≤ maximum := by
  constructor
  · intro h
    unfold plainList at h
    split at h
    · rename_i elements others
      split at h
      · cases h
      · rename_i hplain
        rw [mapM_id_eq_some] at h
        subst h
        simp only [List.length_map,Bool.or_eq_true,decide_eq_true_eq,not_or,Nat.not_lt,
          Bool.not_eq_true] at hplain
        exact ⟨by rw [hplain.2],hplain.1⟩
    · cases h
  · rintro ⟨rfl,hlength⟩
    rw [plainList,List.length_map,if_neg,mapM_id_eq_some]
    simpa using hlength

end Frontera.Trade
