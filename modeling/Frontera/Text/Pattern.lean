import Mathlib.Data.List.Basic

/-! Regular expressions over characters, decided by derivatives. A pattern here matches a whole
text; the search that `RegExp.test` makes without anchors is `anywhere`. -/

namespace Frontera.Text

inductive Pattern where
  | never | empty
  | one (accepts : Char → Bool)
  | seq (first second : Pattern)
  | alt (left right : Pattern)
  | many (repeated : Pattern)

namespace Pattern

def nullable : Pattern → Bool
  | never => false
  | empty => true
  | one _ => false
  | seq first second => first.nullable && second.nullable
  | alt left right => left.nullable || right.nullable
  | many _ => true

/-- `seq`, without the parts that cannot matter. -/
def followedBy : Pattern → Pattern → Pattern
  | never, _ => never
  | empty, second => second
  | first, second => seq first second

/-- `alt`, without the parts that cannot matter. -/
def orElse : Pattern → Pattern → Pattern
  | never, right => right
  | left, never => left
  | left, right => alt left right

/-- What has to follow `c`. -/
def derivative (c : Char) : Pattern → Pattern
  | never => never
  | empty => never
  | one accepts => if accepts c then empty else never
  | seq first second =>
      if first.nullable then
        ((first.derivative c).followedBy second).orElse (second.derivative c)
      else (first.derivative c).followedBy second
  | alt left right => (left.derivative c).orElse (right.derivative c)
  | many repeated => (repeated.derivative c).followedBy (many repeated)

def matchesChars (pattern : Pattern) (text : List Char) : Bool :=
  (text.foldl (fun p c => p.derivative c) pattern).nullable

def matchesText (pattern : Pattern) (text : String) : Bool := pattern.matchesChars text.toList

def any : Pattern := one fun _ => true

def chars (options : List Char) : Pattern := one fun c => options.contains c

def literal (text : String) : Pattern :=
  text.toList.foldr (fun c rest => (one fun d => d == c).followedBy rest) empty

/-- A literal of lower-case ASCII text, in any case. -/
def literalFold (text : String) : Pattern :=
  text.toList.foldr (fun c rest => (one fun d => d.toLower == c).followedBy rest) empty

def option (pattern : Pattern) : Pattern := alt empty pattern

def repeated : Nat → Pattern → Pattern
  | 0, _ => empty
  | n + 1, pattern => pattern.followedBy (repeated n pattern)

def atLeast (n : Nat) (pattern : Pattern) : Pattern := (repeated n pattern).followedBy (many pattern)

def concat (patterns : List Pattern) : Pattern := patterns.foldr followedBy empty

def anywhere (pattern : Pattern) : Pattern := concat [many any, pattern, many any]

/-- A search for a pattern that opens with a word character, at a word boundary. -/
def atWord (isWord : Char → Bool) (pattern : Pattern) : Pattern :=
  concat [option (seq (many any) (one fun c => !isWord c)), pattern, many any]

/-- Every text of the pattern has a character of this kind. -/
def Needs (kind : Char → Prop) : Pattern → Prop
  | never => True
  | empty => False
  | one accepts => ∀ c, accepts c = true → kind c
  | seq first second => first.Needs kind ∨ second.Needs kind
  | alt left right => left.Needs kind ∧ right.Needs kind
  | many _ => False

variable {kind : Char → Prop} {pattern other : Pattern}

theorem Needs.not_nullable (h : pattern.Needs kind) : pattern.nullable = false := by
  induction pattern with
  | never => rfl
  | empty => exact h.elim
  | one accepts => rfl
  | seq first second ihf ihs => rcases h with h | h <;> simp [nullable, *]
  | alt left right ihl ihr => simp [nullable,ihl h.1,ihr h.2]
  | many repeated => exact h.elim

theorem Needs.followedBy (h : pattern.Needs kind ∨ other.Needs kind) :
    (pattern.followedBy other).Needs kind := by
  cases pattern with
  | never => trivial
  | empty => exact h.resolve_left id
  | _ => exact h

theorem Needs.orElse (h : pattern.Needs kind) (h' : other.Needs kind) :
    (pattern.orElse other).Needs kind := by
  cases pattern with
  | never => exact h'
  | _ => cases other <;> first | exact h | exact ⟨h,h'⟩

theorem Needs.derivative {c : Char} (hc : ¬ kind c) (h : pattern.Needs kind) :
    (pattern.derivative c).Needs kind := by
  induction pattern with
  | never => trivial
  | empty => exact h.elim
  | one accepts =>
    unfold Pattern.derivative
    split
    · next haccepts => exact absurd (h c haccepts) hc
    · trivial
  | seq first second ihf ihs =>
    unfold Pattern.derivative
    split
    · next hnullable =>
      have hsecond : second.Needs kind := by
        rcases h with h | h
        · rw [h.not_nullable] at hnullable
          cases hnullable
        · exact h
      exact (Needs.followedBy (.inr hsecond)).orElse (ihs hsecond)
    · exact Needs.followedBy (h.imp_left ihf)
  | alt left right ihl ihr => exact (ihl h.1).orElse (ihr h.2)
  | many repeated => exact h.elim

theorem Needs.matchesChars_eq_false (h : pattern.Needs kind) {text : List Char}
    (htext : ∀ c ∈ text, ¬ kind c) : pattern.matchesChars text = false := by
  unfold matchesChars
  induction text generalizing pattern with
  | nil => exact h.not_nullable
  | cons c text ih =>
    exact ih (h.derivative (htext c List.mem_cons_self))
      (fun d hd => htext d (List.mem_cons_of_mem c hd))

theorem Needs.concat {patterns : List Pattern} (hmem : pattern ∈ patterns) (h : pattern.Needs kind) :
    (concat patterns).Needs kind := by
  induction patterns with
  | nil => simp at hmem
  | cons first rest ih =>
    rcases List.mem_cons.1 hmem with rfl | hrest
    · exact Needs.followedBy (.inl h)
    · exact Needs.followedBy (.inr (ih hrest))

theorem Needs.literal {text : String} {c : Char} (hmem : c ∈ text.toList) (hc : kind c) :
    (literal text).Needs kind := by
  unfold Pattern.literal
  generalize text.toList = chars at hmem ⊢
  induction chars with
  | nil => simp at hmem
  | cons d rest ih =>
    rw [List.foldr_cons]
    rcases List.mem_cons.1 hmem with rfl | hrest
    · refine Needs.followedBy (.inl ?_)
      intro e he
      rw [beq_iff_eq.1 he]
      exact hc
    · exact Needs.followedBy (.inr (ih hrest))

end Pattern

def isAlphanumeric (c : Char) : Bool :=
  ('a' ≤ c && c ≤ 'z') || ('A' ≤ c && c ≤ 'Z') || ('0' ≤ c && c ≤ '9')

/-- `/^[a-z][A-Za-z0-9]*(?:[._-][A-Za-z0-9]+)*$/` -/
def identifierPattern : Pattern :=
  .seq (.one fun c => 'a' ≤ c && c ≤ 'z') (.seq (.many (.one isAlphanumeric))
    (.many (.seq (.one fun c => ['.', '_', '-'].contains c)
      (.seq (.one isAlphanumeric) (.many (.one isAlphanumeric))))))

/-- `value.toLowerCase()`, of an identifier. -/
def lowerCaseIdentifier (value : String) : String :=
  String.ofList (value.toList.map fun c =>
    if 'A' ≤ c && c ≤ 'Z' then Char.ofNat (c.toNat + 32) else c)

end Frontera.Text
