import Mathlib.Data.List.Basic
import Mathlib.Data.List.Lex
import Mathlib.Data.List.Nodup

/-! What the runtime asks of its host and this development does not define: the SHA-256 of a text in
hexadecimal, the reading of an instant, and the collation of two texts. The rest of this module is
string behaviour of the host language that Lean's `String` does not share: lengths and order by
UTF-16 code unit, and `trim`. -/

namespace Frontera

structure Platform where
  /-- `createHash('sha256').update(text).digest('hex')` -/
  sha256 : String → String
  /-- `Date.parse`, in epoch milliseconds; `none` is `NaN`. -/
  dateParse : String → Option Int
  /-- `left.localeCompare(right)` -/
  localeCompare : String → String → Ordering

/-- `sha256:<hex>` -/
def Platform.digestOf (P : Platform) (canonical : String) : String :=
  "sha256:" ++ P.sha256 canonical

theorem Platform.digestOf_injective {P : Platform} (h : Function.Injective P.sha256) :
    Function.Injective P.digestOf := by
  intro a b hab
  exact h ((String.append_right_inj _).1 hab)

/-- A hash given by a table of texts and their digests, and by an unlike text elsewhere. -/
def tabulatedHash (table : List (String × String)) (text : String) : String :=
  match table.find? fun entry => entry.1 == text with
  | some entry => entry.2
  | none => "x" ++ text

theorem tabulatedHash_injective {table : List (String × String)}
    (hvalues : (table.map Prod.snd).Nodup)
    (hheads : ∀ entry ∈ table, entry.2.toList.head? ≠ some 'x') :
    Function.Injective (tabulatedHash table) := by
  have hlisted : ∀ text digest, (table.find? fun entry => entry.1 == text) = some digest →
      digest ∈ table ∧ digest.1 = text := by
    intro text digest hfind
    exact ⟨List.mem_of_find?_eq_some hfind,by simpa using List.find?_some hfind⟩
  have hother : ∀ entry ∈ table, ∀ text, entry.2 ≠ "x" ++ text := by
    intro entry hentry text heq
    apply hheads entry hentry
    rw [heq]
    simp
  intro a b h
  unfold tabulatedHash at h
  cases ha : table.find? fun entry => entry.1 == a with
  | none =>
    cases hb : table.find? fun entry => entry.1 == b with
    | none => simpa [ha,hb] using h
    | some e =>
      simp only [ha,hb] at h
      exact absurd h.symm (hother e (hlisted b e hb).1 a)
  | some d =>
    obtain ⟨hd,rfl⟩ := hlisted a d ha
    cases hb : table.find? fun entry => entry.1 == b with
    | none =>
      simp only [ha,hb] at h
      exact absurd h (hother d hd b)
    | some e =>
      obtain ⟨he,rfl⟩ := hlisted b e hb
      simp only [ha,hb] at h
      rw [List.inj_on_of_nodup_map hvalues hd he h]

/-- `Number.isSafeInteger` of an integer. -/
def isSafeInteger (n : Int) : Bool := decide (-9007199254740991 ≤ n ∧ n ≤ 9007199254740991)

theorem isSafeInteger_iff {n : Int} :
    isSafeInteger n = true ↔ -9007199254740991 ≤ n ∧ n ≤ 9007199254740991 := by
  simp [isSafeInteger]

/-- The UTF-16 code units of a character. -/
def charCodeUnits (c : Char) : List Nat :=
  if c.toNat < 0x10000 then [c.toNat]
  else [0xD800 + (c.toNat - 0x10000) / 0x400, 0xDC00 + (c.toNat - 0x10000) % 0x400]

def codeUnits (s : String) : List Nat := s.toList.flatMap charCodeUnits

theorem length_codeUnits_of_ascii {text : String} (h : ∀ c ∈ text.toList, c.toNat < 128) :
    (codeUnits text).length = text.toList.length := by
  rw [codeUnits,List.length_flatMap]
  have hone : text.toList.map (fun c => (charCodeUnits c).length) = text.toList.map fun _ => 1 := by
    refine List.map_congr_left fun c hc => ?_
    have hc := h c hc
    rw [charCodeUnits,if_pos (by omega)]
    rfl
  rw [hone]
  simp

/-- The order of two code-unit sequences, as `<` on strings compares them. -/
def codeUnitsLt : List Nat → List Nat → Bool
  | [], [] => false
  | [], _ :: _ => true
  | _ :: _, [] => false
  | a :: as, b :: bs => if a = b then codeUnitsLt as bs else decide (a < b)

/-- `left < right` on strings. -/
def stringLt (left right : String) : Bool := codeUnitsLt (codeUnits left) (codeUnits right)

theorem codeUnitsLt_iff {a b : List Nat} : codeUnitsLt a b = true ↔ a < b := by
  induction a generalizing b with
  | nil => cases b <;> simp [codeUnitsLt]
  | cons x xs ih =>
    cases b with
    | nil => simp [codeUnitsLt]
    | cons y ys => by_cases hxy : x = y <;> simp [codeUnitsLt,List.cons_lt_cons_iff,hxy,ih]

theorem stringLt_iff {left right : String} :
    stringLt left right = true ↔ codeUnits left < codeUnits right := codeUnitsLt_iff

theorem stringLt_irrefl (a : String) : stringLt a a = false :=
  Bool.eq_false_iff.2 fun h => lt_irrefl _ (stringLt_iff.1 h)

theorem stringLt_trans {a b c : String} (h : stringLt a b = true) (h' : stringLt b c = true) :
    stringLt a c = true := stringLt_iff.2 ((stringLt_iff.1 h).trans (stringLt_iff.1 h'))

def sampleInstant : String := "2026-01-01T00:00:00.000Z"

def sampleLaterInstant : String := "2026-01-01T00:00:01.000Z"

/-- A platform that answers as the host does for the texts of a table and two instants. -/
def tabulatedPlatform (table : List (String × String)) : Platform where
  sha256 := tabulatedHash table
  dateParse text :=
    if text = sampleInstant then some 1767225600000
    else if text = sampleLaterInstant then some 1767225601000
    else none
  localeCompare left right :=
    if left = right then .eq else if stringLt left right then .lt else .gt

/-- The white space and line terminators that `trim` removes. -/
def isTrimmed (c : Char) : Bool :=
  c.toNat ∈ [0x9, 0xA, 0xB, 0xC, 0xD, 0x20, 0xA0, 0x1680, 0x2028, 0x2029, 0x202F, 0x205F, 0x3000,
    0xFEFF] || (decide (0x2000 ≤ c.toNat) && decide (c.toNat ≤ 0x200A))

def trim (s : String) : String :=
  String.ofList (((s.toList.dropWhile isTrimmed).reverse.dropWhile isTrimmed).reverse)

/-- `[\u0000-\u001f\u007f-\u009f]` -/
def isControlCharacter (c : Char) : Bool :=
  decide (c.toNat ≤ 0x1f) || (decide (0x7f ≤ c.toNat) && decide (c.toNat ≤ 0x9f))

end Frontera
