import Frontera.Text.Document

/-! `aoc.canonical-json.v1`: the text of a value that every digest of the store is a digest of.
Plain data has the same text exactly when it is the same data. A value is a tree here, so the check
for circular references has nothing to find. -/

namespace Frontera.GovernanceStore

open Frontera.Text List Document

/-- The finite numbers of the host, as far as they are printed and read. -/
class FiniteNumber (N : Type) where
  zero : N
  /-- `Object.is(n, -0)` -/
  isNegativeZero : N → Bool
  /-- `JSON.stringify` of a finite number -/
  print : N → Utf16
  /-- The number a numeric literal denotes. -/
  parse : Utf16 → Option N
  zero_positive : isNegativeZero zero = false
  print_ne_nil : ∀ n, print n ≠ []
  print_units : ∀ n, ∀ u ∈ print n, isNumberUnit u = true
  parse_print : ∀ n, isNegativeZero n = false → parse (print n) = some n

/-- A value of the host; the own enumerable properties of an object, in order. -/
inductive Value (N : Type) where
  | undefined | null
  | string (value : Utf16)
  | boolean (value : Bool)
  | number (value : N)
  /-- An infinity or `NaN`. -/
  | nonFinite | bigint | function | symbol
  /-- A `Date` by its time, in epoch milliseconds; `none` is an invalid one. -/
  | date (time : Option Int)
  | array (items : List (Value N))
  | object (properties : List (Utf16 × Value N))
  /-- An object of another prototype, by the name of its constructor. -/
  | nonPlain (constructorName : Option Utf16)

/-- Year, month and day of a day counted from 1970-01-01, in the Gregorian calendar. -/
def civilDate (day : Int) : Int × Int × Int :=
  let shifted := day + 719468
  let era := shifted / 146097
  let dayOfEra := shifted % 146097
  let yearOfEra := (dayOfEra - dayOfEra / 1460 + dayOfEra / 36524 - dayOfEra / 146096) / 365
  let dayOfYear := dayOfEra - (365 * yearOfEra + yearOfEra / 4 - yearOfEra / 100)
  let shiftedMonth := (5 * dayOfYear + 2) / 153
  let month := if shiftedMonth < 10 then shiftedMonth + 3 else shiftedMonth - 9
  (yearOfEra + era * 400 + if month ≤ 2 then 1 else 0, month, dayOfYear - (153 * shiftedMonth + 2) / 5 + 1)

/-- The decimal digits of a number, filled up with zeros. -/
def padded (width : Nat) (n : Int) : String :=
  let digits := toString n.toNat
  String.ofList (List.replicate (width - digits.length) '0') ++ digits

/-- `date.toISOString()` -/
def toISOString (time : Int) : Utf16 :=
  let (year, month, day) := civilDate (time / 86400000)
  let ms := time % 86400000
  let yearText :=
    if 0 ≤ year && year ≤ 9999 then padded 4 year
    else if year < 0 then "-" ++ padded 6 (-year) else "+" ++ padded 6 year
  utf16 (yearText ++ "-" ++ padded 2 month ++ "-" ++ padded 2 day ++ "T" ++
    padded 2 (ms / 3600000) ++ ":" ++ padded 2 (ms / 60000 % 60) ++ ":" ++
    padded 2 (ms / 1000 % 60) ++ "." ++ padded 3 (ms % 1000) ++ "Z")

example : toISOString 1767225600000 = utf16 "2026-01-01T00:00:00.000Z" := by decide +kernel

section Serialization

variable {N : Type} [FiniteNumber N]

/-- `Object.is(value, -0) ? 0 : value` -/
def withoutNegativeZero (n : N) : N :=
  if FiniteNumber.isNegativeZero n then FiniteNumber.zero else n

/-- `<subject> at <path> cannot be canonically serialized<rest>.` -/
def cannotSerialize (subject : String) (path : Utf16) (rest : String) : Utf16 :=
  utf16 subject ++ utf16 " at " ++ path ++ utf16 " cannot be canonically serialized" ++
    utf16 rest ++ utf16 "."

mutual

def serializeValue : Value N → Utf16 → Except Utf16 Utf16
  | .undefined, _ => .ok (utf16 "null")
  | .null, _ => .ok (utf16 "null")
  | .string s, _ => .ok (Utf16.quote s)
  | .boolean true, _ => .ok (utf16 "true")
  | .boolean false, _ => .ok (utf16 "false")
  | .number n, _ => .ok (FiniteNumber.print (withoutNegativeZero n))
  | .nonFinite, path => .error (cannotSerialize "Non-finite number" path "")
  | .bigint, path => .error (cannotSerialize "bigint" path "; convert it to a string first")
  | .function, path => .error (cannotSerialize "function" path "")
  | .symbol, path => .error (cannotSerialize "symbol" path "")
  | .date none, path => .error (cannotSerialize "Invalid Date" path "")
  | .date (some time), _ => .ok (Utf16.quote (toISOString time))
  | .array items, path => do
      let texts ← serializeItems items path 0
      return unit '[' :: ([unit ','].intercalate texts ++ [unit ']'])
  | .object properties, path => do
      let entries ← ((serializeProperties properties path).insertionSort keyLe).mapM
        Prod.snd
      return unit '{' :: ([unit ','].intercalate entries ++ [unit '}'])
  | .nonPlain name, path =>
      .error (utf16 "Non-plain object (" ++ name.getD (utf16 "unknown") ++ utf16 ") at " ++ path ++
        utf16 " cannot be canonically serialized.")

/-- The items from `index` on. -/
def serializeItems : List (Value N) → Utf16 → Nat → Except Utf16 (List Utf16)
  | [], _, _ => .ok []
  | item :: items, path, index => do
      let text ← serializeValue item (path ++ utf16 ("[" ++ toString index ++ "]"))
      let texts ← serializeItems items path (index + 1)
      return text :: texts

/-- The entry of each property that is not `undefined`, or the error it ends with. -/
def serializeProperties : List (Utf16 × Value N) → Utf16 → List (Utf16 × Except Utf16 Utf16)
  | [], _ => []
  | (_, .undefined) :: properties, path => serializeProperties properties path
  | (key, value) :: properties, path =>
      (key, (serializeValue value (path ++ unit '.' :: key)).map fun text =>
        Utf16.quote key ++ unit ':' :: text) :: serializeProperties properties path

end

/-- Serializes `value` deterministically per `aoc.canonical-json.v1`. -/
def canonicalSerialize (value : Value N) : Except Utf16 Utf16 := serializeValue value (utf16 "$")

end Serialization

namespace Value

variable {N : Type}

theorem induct {P : Value N → Prop} (undefined : P undefined) (null : P null)
    (string : ∀ s, P (string s)) (boolean : ∀ b, P (boolean b)) (number : ∀ n, P (number n))
    (nonFinite : P nonFinite) (bigint : P bigint) (function : P function) (symbol : P symbol)
    (date : ∀ time, P (date time)) (array : ∀ items, (∀ v ∈ items, P v) → P (array items))
    (object : ∀ properties, (∀ p ∈ properties, P p.2) → P (object properties))
    (nonPlain : ∀ name, P (nonPlain name)) (v : Value N) : P v := by
  refine @Value.rec N P (fun items => ∀ v ∈ items, P v) (fun properties => ∀ p ∈ properties, P p.2)
    (fun p => P p.2) undefined null string boolean number nonFinite bigint function symbol date
    array object nonPlain ?_ ?_ ?_ ?_ ?_ v
  · simp
  · intro head tail hhead htail
    exact forall_mem_cons.2 ⟨hhead,htail⟩
  · simp
  · intro head tail hhead htail
    exact forall_mem_cons.2 ⟨hhead,htail⟩
  · exact fun _ _ h => h

/-- Plain data: nothing that cannot be serialized, and the keys of an object are distinct. -/
inductive IsPlain : Value N → Prop where
  | undefined : IsPlain undefined
  | null : IsPlain null
  | string (s) : IsPlain (string s)
  | boolean (b) : IsPlain (boolean b)
  | number (n) : IsPlain (number n)
  | date (time) : IsPlain (date (some time))
  | array {items} (hitems : ∀ v ∈ items, IsPlain v) : IsPlain (array items)
  | object {properties} (hkeys : (properties.map Prod.fst).Nodup)
      (hvalues : ∀ p ∈ properties, IsPlain p.2) : IsPlain (object properties)

def isUndefined : Value N → Bool
  | undefined => true
  | _ => false

variable [FiniteNumber N]

end Value

/-- The finite numbers that are printed: all but `-0`. -/
abbrev PrintedNumber (N : Type) [FiniteNumber N] := { n : N // FiniteNumber.isNegativeZero n = false }

instance (N : Type) [FiniteNumber N] : NumberLiteral (PrintedNumber N) where
  write n := FiniteNumber.print n.1
  read text :=
    match FiniteNumber.parse text with
    | none => none
    | some n =>
        if h : FiniteNumber.isNegativeZero n = false then some ⟨n,h⟩ else none
  write_ne_nil n := FiniteNumber.print_ne_nil n.1
  write_units n := FiniteNumber.print_units n.1
  read_write n := by
    simp [FiniteNumber.parse_print n.1 n.2,n.2]

namespace Value

variable {N : Type} [FiniteNumber N]

theorem withoutNegativeZero_printed (n : N) :
    FiniteNumber.isNegativeZero (withoutNegativeZero n) = false := by
  rw [withoutNegativeZero]
  split_ifs with h
  · exact FiniteNumber.zero_positive
  · simpa using h

mutual

/-- What plain data says: `undefined` properties dropped, `undefined` elements read as null, `-0`
as 0 and dates as their text. -/
def document : Value N → Document (PrintedNumber N)
  | string s => .string s
  | boolean b => .bool b
  | number n => .number ⟨withoutNegativeZero n,withoutNegativeZero_printed n⟩
  | date (some time) => .string (toISOString time)
  | array items => .array (documents items)
  | object properties => .object (documentMembers properties)
  | _ => .null

def documents : List (Value N) → List (Document (PrintedNumber N))
  | [] => []
  | v :: items => document v :: documents items

def documentMembers : List (Utf16 × Value N) → List (Utf16 × Document (PrintedNumber N))
  | [] => []
  | (_, undefined) :: properties => documentMembers properties
  | (key, v) :: properties => (key, document v) :: documentMembers properties

end

theorem documents_eq_map (items : List (Value N)) : documents items = items.map document := by
  induction items with
  | nil => rw [documents,map_nil]
  | cons v items ih => rw [documents,ih,map_cons]

/-- The properties that are no `undefined`. -/
def present (properties : List (Utf16 × Value N)) : List (Utf16 × Value N) :=
  properties.filter fun p => !p.2.isUndefined

theorem documentMembers_eq_map (properties : List (Utf16 × Value N)) :
    documentMembers properties = (present properties).map fun p => (p.1, document p.2) := by
  induction properties with
  | nil => rw [documentMembers]; rfl
  | cons p properties ih =>
    obtain ⟨key,v⟩ := p
    cases v <;> simp [documentMembers,present,isUndefined,ih]

theorem serializeProperties_eq_map (properties : List (Utf16 × Value N)) (path : Utf16) :
    serializeProperties properties path = (present properties).map fun p =>
      (p.1, (serializeValue p.2 (path ++ unit '.' :: p.1)).map fun text =>
        Utf16.quote p.1 ++ unit ':' :: text) := by
  induction properties with
  | nil => rw [serializeProperties]; rfl
  | cons p properties ih =>
    obtain ⟨key,v⟩ := p
    cases v <;> simp [serializeProperties,present,isUndefined,ih]

private theorem mapM_ok {K A : Type} (members : List (K × A)) (f : K × A → Utf16) :
    (members.map fun m => (m.1, (Except.ok (f m) : Except Utf16 Utf16))).mapM Prod.snd =
      .ok (members.map f) := by
  induction members with
  | nil => rfl
  | cons m members ih =>
    rw [map_cons,mapM_cons,ih]
    rfl

theorem serializeValue_eq {v : Value N} (h : v.IsPlain) :
    ∀ path, serializeValue v path = .ok (Document.write (sorted v.document)) := by
  induction v using induct with
  | undefined => intro path; simp [serializeValue,document,sorted,Document.write]
  | null => intro path; simp [serializeValue,document,sorted,Document.write]
  | string s => intro path; simp [serializeValue,document,sorted,Document.write]
  | boolean b =>
    intro path
    cases b <;> simp [serializeValue,document,sorted,Document.write]
  | number n =>
    intro path
    simp [serializeValue,document,sorted,Document.write,NumberLiteral.write]
  | nonFinite => cases h
  | bigint => cases h
  | function => cases h
  | symbol => cases h
  | date time =>
    intro path
    cases h
    simp [serializeValue,document,sorted,Document.write]
  | array items ih =>
    intro path
    cases h with | array hitems => ?_
    have htexts : ∀ index, serializeItems items path index =
        .ok (items.map fun v => Document.write (sorted v.document)) := by
      induction items with
      | nil => intro index; rw [serializeItems]; rfl
      | cons v items hrest =>
        intro index
        have hv := ih v (by simp) (hitems v (by simp))
        have hrest := hrest (fun w hw => ih w (mem_cons_of_mem _ hw))
          (fun w hw => hitems w (mem_cons_of_mem _ hw))
        rw [serializeItems,hv,hrest]
        rfl
    rw [serializeValue,htexts,document,sorted,Document.write,
      writeItems_eq_map,sortedItems_eq_map,documents_eq_map,map_map,map_map]
    rfl
  | object properties ih =>
    intro path
    cases h with | object hkeys hvalues => ?_
    set members := (present properties).map fun p => (p.1, sorted p.2.document)
      with hmembers
    have hentries : serializeProperties properties path =
        members.map fun m => (m.1, Except.ok (writeMember m)) := by
      rw [serializeProperties_eq_map,hmembers,map_map]
      refine map_congr_left fun p hp => ?_
      have hmem := mem_of_mem_filter hp
      rw [ih p hmem (hvalues p hmem)]
      rfl
    have hsorted : (members.map fun m => (m.1, (Except.ok (writeMember m) :
        Except Utf16 Utf16))).insertionSort keyLe = (members.insertionSort keyLe).map fun m =>
          (m.1, Except.ok (writeMember m)) :=
      (map_insertionSort keyLe keyLe
        (fun m => (m.1, (Except.ok (writeMember m) : Except Utf16 Utf16))) members
        fun _ _ _ _ => Iff.rfl).symm
    rw [serializeValue,hentries,hsorted,mapM_ok,document,sorted,Document.write,
      writeMembers_eq_map,sortedMembers_eq_map,documentMembers_eq_map,map_map]
    rfl
  | nonPlain name => cases h

theorem isPlain_distinct {v : Value N} (h : v.IsPlain) : v.document.Distinct := by
  induction v using induct with
  | string s => exact .string s
  | boolean b => exact .bool b
  | number n => exact .number _
  | date time =>
    cases h
    exact .string _
  | array items ih =>
    cases h with | array hitems => ?_
    rw [document,documents_eq_map]
    refine .array fun d hd => ?_
    obtain ⟨v,hv,rfl⟩ := mem_map.1 hd
    exact ih v hv (hitems v hv)
  | object properties ih =>
    cases h with | object hkeys hvalues => ?_
    rw [document,documentMembers_eq_map]
    refine .object ?_ fun m hm => ?_
    · rw [map_map]
      exact hkeys.sublist (filter_sublist.map _)
    · obtain ⟨p,hp,rfl⟩ := mem_map.1 hm
      have hmem := mem_of_mem_filter hp
      exact ih p hmem (hvalues p hmem)
  | undefined => exact .null
  | null => exact .null
  | _ => cases h

mutual

/-- What `JSON.parse` gives for a document. -/
def ofDocument : Document (PrintedNumber N) → Value N
  | .null => null
  | .bool b => boolean b
  | .number n => number n.1
  | .string s => string s
  | .array items => array (ofDocuments items)
  | .object members => object (ofMembers members)

def ofDocuments : List (Document (PrintedNumber N)) → List (Value N)
  | [] => []
  | d :: items => ofDocument d :: ofDocuments items

def ofMembers : List (Utf16 × Document (PrintedNumber N)) → List (Utf16 × Value N)
  | [] => []
  | (key, d) :: members => (key, ofDocument d) :: ofMembers members

end

theorem ofDocuments_eq_map (items : List (Document (PrintedNumber N))) :
    ofDocuments items = items.map ofDocument := by
  induction items with
  | nil => rw [ofDocuments,map_nil]
  | cons d items ih => rw [ofDocuments,ih,map_cons]

theorem ofMembers_eq_map (members : List (Utf16 × Document (PrintedNumber N))) :
    ofMembers members = members.map fun m => (m.1, ofDocument m.2) := by
  induction members with
  | nil => rw [ofMembers,map_nil]
  | cons m members ih =>
    obtain ⟨key,d⟩ := m
    rw [ofMembers,ih,map_cons]

theorem ofDocument_defined (d : Document (PrintedNumber N)) : (ofDocument d).isUndefined = false := by
  cases d <;> rw [ofDocument] <;> rfl

theorem document_ofDocument (d : Document (PrintedNumber N)) : (ofDocument d).document = d := by
  induction d using Document.induct with
  | null => rw [ofDocument,document] <;> simp
  | bool b => rw [ofDocument,document]
  | number n =>
    obtain ⟨n,hn⟩ := n
    have hkept : withoutNegativeZero n = n := by
      rw [withoutNegativeZero,hn]
      rfl
    rw [ofDocument,document]
    simp only [hkept]
  | string s => rw [ofDocument,document]
  | array items ih =>
    rw [ofDocument,document,documents_eq_map,ofDocuments_eq_map,map_map]
    congr 1
    exact (map_congr_left ih).trans (map_id _)
  | object members ih =>
    have hpresent : present (members.map fun m => (m.1, ofDocument m.2)) =
        members.map fun m => (m.1, ofDocument m.2) := by
      refine filter_eq_self.2 fun p hp => ?_
      obtain ⟨m,-,rfl⟩ := mem_map.1 hp
      rw [ofDocument_defined]
      rfl
    rw [ofDocument,document,documentMembers_eq_map,ofMembers_eq_map,hpresent,map_map]
    congr 1
    refine (map_congr_left fun m hm => ?_).trans (map_id _)
    exact Prod.ext rfl (ih m hm)

theorem ofDocument_isPlain {d : Document (PrintedNumber N)} (h : d.Distinct) : (ofDocument d).IsPlain := by
  induction d using Document.induct with
  | null => rw [ofDocument]; exact .null
  | bool b => rw [ofDocument]; exact .boolean b
  | number n => rw [ofDocument]; exact .number _
  | string s => rw [ofDocument]; exact .string s
  | array items ih =>
    cases h with | array hitems => ?_
    rw [ofDocument,ofDocuments_eq_map]
    refine .array fun v hv => ?_
    obtain ⟨d,hd,rfl⟩ := mem_map.1 hv
    exact ih d hd (hitems d hd)
  | object members ih =>
    cases h with | object hkeys hvalues => ?_
    rw [ofDocument,ofMembers_eq_map]
    refine .object ?_ fun p hp => ?_
    · rw [map_map]
      exact hkeys
    · obtain ⟨m,hm,rfl⟩ := mem_map.1 hp
      exact ih m hm (hvalues m hm)

end Value

section Separation

variable {N : Type} [FiniteNumber N]

theorem canonicalSerialize_eq {v : Value N} (h : v.IsPlain) :
    canonicalSerialize v = .ok (Document.write v.document.sorted) :=
  Value.serializeValue_eq h _

theorem canonicalSerialize_eq_iff {v w : Value N} (hv : v.IsPlain) (hw : w.IsPlain) :
    canonicalSerialize v = canonicalSerialize w ↔ v.document.Same w.document := by
  rw [canonicalSerialize_eq hv,canonicalSerialize_eq hw,Except.ok.injEq,write_injective.eq_iff,
    same_iff_sorted_eq (Value.isPlain_distinct hv) (Value.isPlain_distinct hw)]

/-- Plain data has a text. Two values have the same one exactly when they are the same data up to
the order of keys, and the text parses to a value that has it again. -/
theorem canonicalSerialize_separates {v w : Value N} (hv : v.IsPlain) (hw : w.IsPlain) :
    (canonicalSerialize v = canonicalSerialize w ↔ v.document.Same w.document) ∧
      ∃ text, canonicalSerialize v = .ok text ∧ ∃ d : Document (PrintedNumber N),
        Document.parse text = some d ∧ canonicalSerialize (Value.ofDocument d) = .ok text := by
  refine ⟨canonicalSerialize_eq_iff hv hw,_,canonicalSerialize_eq hv,_,parse_write _,?_⟩
  have hdistinct := (Value.isPlain_distinct hv).sorted
  rw [canonicalSerialize_eq (Value.ofDocument_isPlain hdistinct),Value.document_ofDocument, sorted_sorted]

end Separation

inductive SampleNumber where
  | zero | negativeZero | one

instance : FiniteNumber SampleNumber where
  zero := .zero
  isNegativeZero
    | .negativeZero => true
    | _ => false
  print
    | .one => utf16 "1"
    | _ => utf16 "0"
  parse text := if text = utf16 "0" then some .zero else if text = utf16 "1" then some .one else none
  zero_positive := rfl
  print_ne_nil n := by cases n <;> decide
  print_units n := by cases n <;> exact all_eq_true.1 (by decide)
  parse_print n h := by cases n <;> first | rfl | cases h

def sampleValue : Value SampleNumber :=
  .object [(utf16 "b", .number .negativeZero), (utf16 "a", .undefined), (utf16 "1", .array [.undefined])]

/-- The same data, in another order and without the property that is not there. -/
def sameSampleValue : Value SampleNumber :=
  .object [(utf16 "1", .array [.null]), (utf16 "b", .number .zero)]

theorem sampleValue_isPlain : sampleValue.IsPlain := by
  refine .object (by decide) ?_
  simp only [mem_cons,not_mem_nil,or_false,forall_eq_or_imp,forall_eq]
  refine ⟨.number _,.undefined,.array ?_⟩
  simp only [mem_cons,not_mem_nil,or_false,forall_eq]
  exact .undefined

theorem sameSampleValue_isPlain : sameSampleValue.IsPlain := by
  refine .object (by decide) ?_
  simp only [mem_cons,not_mem_nil,or_false,forall_eq_or_imp,forall_eq]
  refine ⟨.array ?_,.number _⟩
  simp only [mem_cons,not_mem_nil,or_false,forall_eq]
  exact .null

theorem sampleValue_separated : (canonicalSerialize sampleValue = canonicalSerialize sameSampleValue ↔
      sampleValue.document.Same sameSampleValue.document) ∧
    ∃ text, canonicalSerialize sampleValue = .ok text ∧
      ∃ d : Document (PrintedNumber SampleNumber), Document.parse text = some d ∧
        canonicalSerialize (Value.ofDocument d) = .ok text :=
  canonicalSerialize_separates sampleValue_isPlain sameSampleValue_isPlain

end Frontera.GovernanceStore
