import Frontera.Platform

/-! The `#challenge` lists of `WWW-Authenticate` field values. A field value is read from the left,
so what is left of it stands for the position in it; it holds Latin-1 characters only, of one code
unit each, when it is tokenized. -/

namespace Frontera.Mpp

def maxHeaderLength : Nat := 16384

def maxHeaderValues : Nat := 16

def maxChallenges : Nat := 16

def maxParams : Nat := 32

def maxParamValueLength : Nat := 8192

/-- The names in lower case, the values unescaped, in order. -/
structure RawAuthChallenge where
  scheme : List Char
  params : List (List Char × List Char)
  token68 : Option (List Char)
deriving DecidableEq

def isTchar (c : Char) : Bool :=
  let code := c.toNat
  decide (0x30 ≤ code ∧ code ≤ 0x39) || decide (0x41 ≤ code ∧ code ≤ 0x5a) ||
    decide (0x61 ≤ code ∧ code ≤ 0x7a) || code == 0x21 || decide (0x23 ≤ code ∧ code ≤ 0x27) ||
    code == 0x2a || code == 0x2b || code == 0x2d || code == 0x2e || code == 0x5e ||
    code == 0x5f || code == 0x60 || code == 0x7c || code == 0x7e

def isToken68Char (c : Char) : Bool :=
  let code := c.toNat
  decide (0x30 ≤ code ∧ code ≤ 0x39) || decide (0x41 ≤ code ∧ code ≤ 0x5a) ||
    decide (0x61 ≤ code ∧ code ≤ 0x7a) || code == 0x2d || code == 0x2e || code == 0x5f ||
    code == 0x7e || code == 0x2b || code == 0x2f

def isOws (c : Char) : Bool := c == ' ' || c == '\t'

/-- What may stand behind a backslash. -/
def isQuotedPairChar (c : Char) : Bool :=
  let code := c.toNat
  code == 0x09 || decide (0x20 ≤ code ∧ code ≤ 0x7e) || decide (0x80 ≤ code ∧ code ≤ 0xff)

def isQdtext (c : Char) : Bool :=
  let code := c.toNat
  code == 0x09 || code == 0x20 || code == 0x21 || decide (0x23 ≤ code ∧ code ≤ 0x5b) ||
    decide (0x5d ≤ code ∧ code ≤ 0x7e) || decide (0x80 ≤ code ∧ code ≤ 0xff)

def skipOws (text : List Char) : List Char := text.dropWhile isOws

/-- White space and the commas of empty elements. -/
def isElementChar (c : Char) : Bool := isOws c || c == ','

def skipElements (text : List Char) : List Char := text.dropWhile isElementChar

/-- The value behind an opening quotation mark, and what follows the closing one. -/
def readQuoted : List Char → List Char → Except String (List Char × List Char)
  | [], _ => .error "unterminated quoted-string"
  | c :: rest, text =>
      if c = '"' then .ok (text, rest)
      else if c = '\\' then
        match rest with
        | [] => .error "invalid quoted-pair"
        | next :: rest =>
            if isQuotedPairChar next = false then .error "invalid quoted-pair"
            else if (text ++ [next]).length > maxParamValueLength then
              .error "parameter value too long"
            else readQuoted rest (text ++ [next])
      else if isQdtext c = false then .error "invalid qdtext"
      else if (text ++ [c]).length > maxParamValueLength then .error "parameter value too long"
      else readQuoted rest (text ++ [c])

/-- An auth-param starts here, and no token68 with padding. -/
def paramStartsAt (text : List Char) : Bool :=
  if text.takeWhile isTchar = [] then false
  else
    match skipOws (text.dropWhile isTchar) with
    | '=' :: rest =>
        match skipOws rest with
        | [] => false
        | after :: _ => after != '=' && after != ','
    | _ => false

def readParamValue (text : List Char) : Except String (List Char × List Char) :=
  match text with
  | '"' :: rest => readQuoted rest []
  | text =>
      if text.takeWhile isTchar = [] then .error "expected a token or quoted-string"
      else .ok (text.takeWhile isTchar, text.dropWhile isTchar)

def readParam (text : List Char) : Except String ((List Char × List Char) × List Char) :=
  let name := (text.takeWhile isTchar).map Char.toLower
  match skipOws (text.dropWhile isTchar) with
  | '=' :: rest =>
      match readParamValue (skipOws rest) with
      | .error violation => .error violation
      | .ok (value, rest) =>
          if value.length > maxParamValueLength then .error "parameter value too long"
          else .ok ((name, value), rest)
  | _ => .error "expected \"=\""

/-- Parameters are read while there is room for them; what follows the last one is a comma or the
end. -/
def readParams (room : Nat) (text : List Char) (params : List (List Char × List Char)) :
    Except String (List (List Char × List Char) × List Char) :=
  match readParam text with
  | .error violation => .error violation
  | .ok (param, rest) =>
      match room with
      | 0 => .error "too many parameters"
      | room + 1 =>
          match skipOws rest with
          | [] => .ok (params ++ [param], [])
          | ',' :: rest =>
              -- another parameter of this challenge, or the next challenge
              let lookahead := skipElements (',' :: rest)
              if paramStartsAt lookahead then readParams room lookahead (params ++ [param])
              else .ok (params ++ [param], ',' :: rest)
          | _ => .error "expected \",\" between parameters"

/-- What follows a challenge is a comma or the end. -/
def atEnd : List Char → Bool
  | [] => true
  | c :: _ => c == ','

def readToken68 (text : List Char) : Except String (List Char × List Char) :=
  if text.takeWhile isToken68Char = [] then .error "expected token68 or auth-params"
  else
    let padded := text.dropWhile isToken68Char
    let rest := skipOws (padded.dropWhile (· == '='))
    if atEnd rest then
      .ok (text.takeWhile isToken68Char ++ padded.takeWhile (· == '='), rest)
    else .error "unexpected text after token68"

def readChallenge (text : List Char) : Except String (RawAuthChallenge × List Char) :=
  let scheme := text.takeWhile isTchar
  if scheme = [] then .error "expected an auth-scheme"
  else
    let behind := text.dropWhile isTchar
    let rest := skipOws behind
    if atEnd rest then .ok (⟨scheme,[],none⟩, rest)
    else if behind.head? ≠ some ' ' then .error "an auth-scheme must be followed by SP"
    else if paramStartsAt rest then
      match readParams maxParams rest [] with
      | .error violation => .error violation
      | .ok (params, rest) => .ok (⟨scheme,params,none⟩, rest)
    else
      match readToken68 rest with
      | .error violation => .error violation
      | .ok (token68, rest) => .ok (⟨scheme,[],some token68⟩, rest)

/-- Challenges are read while there is room for them. -/
def tokenizeFrom (room : Nat) (text : List Char) (out : List RawAuthChallenge) :
    Except String (List RawAuthChallenge) :=
  if skipElements text = [] then .ok out
  else
    match readChallenge (skipElements text) with
    | .error violation => .error violation
    | .ok (challenge, rest) =>
        match room with
        | 0 => .error "too many challenges"
        | room + 1 => tokenizeFrom room rest (out ++ [challenge])

def tokenizeFieldValue (value : List Char) (out : List RawAuthChallenge) :
    Except String (List RawAuthChallenge) :=
  tokenizeFrom (maxChallenges - out.length) value out

inductive FieldValue where
  | text (value : String)
  | other

/-- What a caller hands in. -/
inductive FieldValues where
  | text (value : String)
  /-- An array by its `length`, when that is a safe integer, and its own data properties. -/
  | array (length : Option Int) (item : Nat → Option FieldValue)
  | other
  /-- A trap of a proxy throws. -/
  | unreadable

/-- `FIELD_VALUE_FORBIDDEN` -/
def isForbiddenChar (c : Char) : Bool :=
  let code := c.toNat
  decide (code ≤ 0x08) || decide (0x0a ≤ code ∧ code ≤ 0x1f) || code == 0x7f || decide (0xff < code)

def fieldValueList : FieldValues → Except String (List FieldValue)
  | .text value => .ok [.text value]
  | .array none _ => .error "expected one to sixteen WWW-Authenticate field values"
  | .array (some length) item =>
      if maxHeaderValues < length then
        .error "expected one to sixteen WWW-Authenticate field values"
      else
        match (List.range length.toNat).mapM item with
        | none => .error "a field value is not data"
        | some list => .ok list
  | .other => .ok []
  | .unreadable => .error "the field values could not be read"

def parseFieldValues : List FieldValue → Nat → List RawAuthChallenge → Except String (List RawAuthChallenge)
  | [], _, challenges => .ok challenges
  | .other :: _, _, _ => .error "a field value is not a string"
  | .text value :: list, total, challenges =>
      let length := (codeUnits value).length
      if length > maxHeaderLength ∨ total + length > maxHeaderLength then
        .error "the field values exceed the size bound"
      else if value.toList.any isForbiddenChar then
        .error "a field value carries a control or non-Latin-1 character"
      else
        match tokenizeFieldValue value.toList challenges with
        | .error violation => .error ("malformed challenge list: " ++ violation)
        | .ok challenges => parseFieldValues list (total + length) challenges

def parseWwwAuthenticate (values : FieldValues) : Except String (List RawAuthChallenge) :=
  match fieldValueList values with
  | .error violation => .error violation
  | .ok list =>
      if list = [] ∨ maxHeaderValues < list.length then
        .error "expected one to sixteen WWW-Authenticate field values"
      else parseFieldValues list 0 []

end Frontera.Mpp
