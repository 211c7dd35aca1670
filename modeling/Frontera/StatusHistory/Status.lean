import Frontera.Data.Throwing
import Frontera.Text.CodeUnitOrder
import Frontera.Text.JsonValue

/-! A status is a registrant's signed statement about an asset: whether it is active or withdrawn,
which terms are current, and where the statement stands in the registrant's sequence. Its
verification checks form, signature, key, binding and validity window, and knows nothing about other
statuses. -/

namespace Frontera.StatusHistory

open Frontera.Data Frontera.Text List Option

/-- So many decimal digits in front of a text. -/
def takeDigits : Nat → List Char → Option (List Char × List Char)
  | 0, text => some ([], text)
  | n + 1, c :: text =>
      if c.isDigit then (takeDigits n text).map fun p => (c :: p.1, p.2) else none
  | _ + 1, [] => none

def numberOf (digits : List Char) : Nat := Nat.ofDigitChars 10 digits 0

def takeNumber (n : Nat) (text : List Char) : Option (Nat × List Char) :=
  (takeDigits n text).map fun p => (numberOf p.1, p.2)

def takeChar (c : Char) : List Char → Option (List Char)
  | d :: text => if d = c then some text else none
  | [] => none

/-- `(?:\.(\d{1,9}))?Z`, as nanoseconds. -/
def readFraction : List Char → Option Nat
  | ['Z'] => some 0
  | '.' :: text =>
      let digits := text.takeWhile Char.isDigit
      if 1 ≤ digits.length ∧ digits.length ≤ 9 ∧ text.dropWhile Char.isDigit = ['Z'] then
        some (numberOf (digits ++ List.replicate (9 - digits.length) '0'))
      else none
  | _ => none

def daysInMonth (year month : Nat) : Nat :=
  if month = 2 then
    if (year % 4 = 0 ∧ year % 100 ≠ 0) ∨ year % 400 = 0 then 29 else 28
  else if month ∈ [4, 6, 9, 11] then 30 else 31

/-- Days since 1970-01-01 in the proleptic Gregorian calendar. -/
def daysFromCivil (year month day : Int) : Int :=
  let y := if month ≤ 2 then year - 1 else year
  let era := y / 400
  let yearOfEra := y - era * 400
  let dayOfYear := (153 * (month + if month > 2 then -3 else 9) + 2) / 5 + day - 1
  let dayOfEra := yearOfEra * 365 + yearOfEra / 4 - yearOfEra / 100 + dayOfYear
  era * 146097 + dayOfEra - 719468

def nanosPerSecond : Int := 1000000000

/-- A canonical timestamp as nanoseconds since the epoch. -/
def canonicalInstant (value : String) : Option Int := do
  let (year, text) ← takeNumber 4 value.toList
  let (month, text) ← takeChar '-' text >>= takeNumber 2
  let (day, text) ← takeChar '-' text >>= takeNumber 2
  let (hour, text) ← takeChar 'T' text >>= takeNumber 2
  let (minute, text) ← takeChar ':' text >>= takeNumber 2
  let (second, text) ← takeChar ':' text >>= takeNumber 2
  let fraction ← readFraction text
  if month < 1 ∨ 12 < month ∨ 23 < hour ∨ 59 < minute ∨ 59 < second then none
  else if day < 1 ∨ daysInMonth year month < day then none
  else
    let seconds := daysFromCivil year month day * 86400 + (hour * 3600 + minute * 60 + second : Nat)
    some (seconds * nanosPerSecond + fraction)

def isIdentifier (value : String) : Bool := value != "" && trim value == value

def isHexadecimal (c : Char) : Bool :=
  c.isDigit || (decide ('a' ≤ c) && decide (c ≤ 'f'))

/-- `/^[0-9a-f]{64}$/` -/
def isDigest (value : String) : Bool :=
  decide (value.toList.length = 64) && value.toList.all isHexadecimal

def sovereignAssetIdPrefix : String := "aoc:sovereign-asset:"

/-- `[0-9a-f]{8}-[0-9a-f]{4}-[1-8][0-9a-f]{3}-[89ab][0-9a-f]{3}-[0-9a-f]{12}` -/
def uuidPattern : List (Char → Bool) :=
  List.replicate 8 isHexadecimal ++ (· == '-') :: List.replicate 4 isHexadecimal ++
    (· == '-') :: (fun c => decide ('1' ≤ c) && decide (c ≤ '8')) ::
      List.replicate 3 isHexadecimal ++
    (· == '-') :: (fun c => c == '8' || c == '9' || c == 'a' || c == 'b') ::
      List.replicate 3 isHexadecimal ++
    (· == '-') :: List.replicate 12 isHexadecimal

def matchesEach : List (Char → Bool) → List Char → Bool
  | [], [] => true
  | accepts :: rest, c :: text => accepts c && matchesEach rest text
  | _, _ => false

def isValidSovereignAssetId (value : String) : Bool :=
  matchesEach (sovereignAssetIdPrefix.toList.map (fun c d => d == c) ++ uuidPattern) value.toList

/-- An object with exactly these keys, as its fields. -/
def readPlain (value : Json String) (keys : List String) : Option (List (String × Json String)) :=
  match value with
  | .obj fields =>
      if (fields.all fun field => decide (field.1 ∈ keys)) &&
          keys.all fun key => (Json.lookup fields key).isSome then some fields
      else none
  | _ => none

def textOf (fields : List (String × Json String)) (key : String) : Option String :=
  match Json.lookup fields key with
  | some (.str value) => some value
  | _ => none

def integerOf (fields : List (String × Json String)) (key : String) : Option Int :=
  match Json.lookup fields key with
  | some (.num value) => some value
  | _ => none

inductive SovereignAssetStatusValue where
  | active | withdrawn
deriving DecidableEq

structure SovereignStatusTermsReference where
  (claimId claimDigest : String)
deriving DecidableEq

structure SovereignStatusPayload where
  (sovereignAssetId issuer manifestDigest : String)
  assetStatus : SovereignAssetStatusValue
  currentTerms : Option SovereignStatusTermsReference
  sequence : Int
  previousStatusDigest : Option String
  (issuedAt validUntil : String)

/-- The texts of a proof that are not fixed. -/
structure SovereignProof where
  (keyId publicKey signature signedAt payloadHash : String)

inductive SovereignStatusRejectionReason where
  | contextInvalid | evaluationTimeInvalid | statusMalformed | statusSchemaUnsupported
  | statusPurposeInvalid | statusTimeInvalid | statusValidityTooLong | statusNotCanonical
  | statusSignatureInvalid | statusIssuerUnauthorized | keyResolverFailed | statusKeyUntrusted
  | statusKeyBindingInvalid | statusSubjectMismatch | manifestBindingMismatch | statusFromFuture
  | statusExpired

/-- What the host supplies beside its hash: `JSON.parse`, and Ed25519 over a payload hash. -/
structure Host extends Platform where
  parseJson : String → Option (Json String)
  verifyEd25519 : (payloadHash publicKey signature : String) → Bool

def sovereignStatusProfile : String := "soberania.sovereign-status/1"

def sovereignStatusPurpose : String := "soberania.sovereign-status.assertion"

def sovereignStatusMaxValiditySeconds : Int := 604800

def maxSignedStatusLength : Nat := 16384

def envelopeKeys : List String := ["proof", "status"]

def statusKeys : List String :=
  ["assetStatus", "currentTerms", "issuedAt", "issuer", "manifestDigest", "previousStatusDigest",
    "purpose", "schemaVersion", "sequence", "sovereignAssetId", "validUntil"]

def termsKeys : List String := ["claimDigest", "claimId"]

def proofKeys : List String :=
  ["algorithm", "canonicalizationProfile", "keyId", "payloadHash", "publicKey", "signature",
    "signedAt"]

/-- `/^[A-Za-z0-9_-]{85}[AQgw]$/` -/
def isSignature (value : String) : Bool :=
  decide (value.toList.length = 86) &&
    ((value.toList.take 85).all fun c => c.isAlphanum || c == '_' || c == '-') &&
    ((value.toList.drop 85).all fun c => c == 'A' || c == 'Q' || c == 'g' || c == 'w')

/-- `aoc-canonical-json/1` -/
def canonicalJson (value : Json String) : String :=
  Json.canonicalSerialize (fun a b => !stringLt b a) value

/-- `none` is a malformed reference, `some none` no terms. -/
def readTerms (value : Json String) : Option (Option SovereignStatusTermsReference) :=
  match value with
  | .null => some none
  | _ => do
      let fields ← readPlain value termsKeys
      let claimId ← textOf fields "claimId"
      let claimDigest ← textOf fields "claimDigest"
      if isIdentifier claimId && isDigest claimDigest then some (some ⟨claimId,claimDigest⟩)
      else none

def readProof (value : Json String) : Option SovereignProof := do
  let fields ← readPlain value proofKeys
  let algorithm ← textOf fields "algorithm"
  let canonicalizationProfile ← textOf fields "canonicalizationProfile"
  let keyId ← textOf fields "keyId"
  let payloadHash ← textOf fields "payloadHash"
  let publicKey ← textOf fields "publicKey"
  let signature ← textOf fields "signature"
  let signedAt ← textOf fields "signedAt"
  if algorithm = "ed25519" ∧ canonicalizationProfile = "aoc-canonical-json/1" ∧
      isDigest keyId = true ∧ isDigest payloadHash = true ∧ isSignature signature = true ∧
      (canonicalInstant signedAt).isSome = true ∧ publicKey ≠ "" then
    some ⟨keyId,publicKey,signature,signedAt,payloadHash⟩
  else none

def readAssetStatus : String → Option SovereignAssetStatusValue
  | "active" => some .active
  | "withdrawn" => some .withdrawn
  | _ => none

/-- A link to the status before, where there is one. -/
def readPrevious (sequence : Int) (value : Option (Json String)) : Option (Option String) :=
  match value with
  | some .null => if sequence = 1 then some none else none
  | some (.str digest) =>
      if sequence ≠ 1 ∧ isDigest digest = true then some (some digest) else none
  | _ => none

/-- The payload in an object of the right schema and purpose. -/
def readPayload (fields : List (String × Json String)) : Option SovereignStatusPayload := do
  let sovereignAssetId ← textOf fields "sovereignAssetId"
  let issuer ← textOf fields "issuer"
  let manifestDigest ← textOf fields "manifestDigest"
  let assetStatus ← textOf fields "assetStatus" >>= readAssetStatus
  let sequence ← integerOf fields "sequence"
  let previousStatusDigest ← readPrevious sequence (Json.lookup fields "previousStatusDigest")
  let currentTerms ← Json.lookup fields "currentTerms" >>= readTerms
  -- a time that is no text is no instant either
  let issuedAt := (textOf fields "issuedAt").getD ""
  let validUntil := (textOf fields "validUntil").getD ""
  if isValidSovereignAssetId sovereignAssetId = true ∧ isIdentifier issuer = true ∧
      isDigest manifestDigest = true ∧ isSafeInteger sequence = true ∧ 1 ≤ sequence ∧
      (assetStatus = .withdrawn → currentTerms = none) then
    some ⟨sovereignAssetId,issuer,manifestDigest,assetStatus,currentTerms,sequence,
      previousStatusDigest,issuedAt,validUntil⟩
  else none

structure Parsed where
  status : SovereignStatusPayload
  proof : SovereignProof
  (issuedAt validUntil : Int)

/-- A check of a sequence of checks. -/
def orReject (reason : SovereignStatusRejectionReason) {α : Type} (value : Option α) :
    Except SovereignStatusRejectionReason α :=
  match value with
  | some a => .ok a
  | none => .error reason

def require (reason : SovereignStatusRejectionReason) (condition : Prop) [Decidable condition] :
    Except SovereignStatusRejectionReason Unit :=
  if condition then .ok () else .error reason

def parseSignedStatus (H : Host) (text : String) : Except SovereignStatusRejectionReason Parsed := do
  require .statusMalformed ((codeUnits text).length ≤ maxSignedStatusLength)
  let value ← orReject .statusMalformed (H.parseJson text)
  let envelope ← orReject .statusMalformed (readPlain value envelopeKeys)
  let rawStatus ← orReject .statusMalformed (Json.lookup envelope "status")
  require .statusMalformed (rawStatus matches .obj _)
  require .statusSchemaUnsupported (Json.get rawStatus "schemaVersion" matches
    some (.str "soberania.sovereign-status/1"))
  require .statusPurposeInvalid (Json.get rawStatus "purpose" matches
    some (.str "soberania.sovereign-status.assertion"))
  let fields ← orReject .statusMalformed (readPlain rawStatus statusKeys)
  let status ← orReject .statusMalformed (readPayload fields)
  let proof ← orReject .statusMalformed (Json.lookup envelope "proof" >>= readProof)
  let issuedAt ← orReject .statusTimeInvalid (canonicalInstant status.issuedAt)
  let validUntil ← orReject .statusTimeInvalid (canonicalInstant status.validUntil)
  require .statusTimeInvalid (issuedAt < validUntil)
  require .statusValidityTooLong
    (validUntil - issuedAt ≤ sovereignStatusMaxValiditySeconds * nanosPerSecond)
  require .statusNotCanonical (canonicalJson value = text)
  pure ⟨status,proof,issuedAt,validUntil⟩

def SovereignAssetStatusValue.text : SovereignAssetStatusValue → String
  | .active => "active"
  | .withdrawn => "withdrawn"

def termsToJson : Option SovereignStatusTermsReference → Json String
  | none => .null
  | some terms => .obj [("claimDigest", .str terms.claimDigest), ("claimId", .str terms.claimId)]

def previousToJson : Option String → Json String
  | none => .null
  | some digest => .str digest

def SovereignStatusPayload.fields (status : SovereignStatusPayload) : List (String × Json String) :=
  [("assetStatus", .str status.assetStatus.text), ("currentTerms", termsToJson status.currentTerms),
    ("issuedAt", .str status.issuedAt), ("issuer", .str status.issuer),
    ("manifestDigest", .str status.manifestDigest),
    ("previousStatusDigest", previousToJson status.previousStatusDigest),
    ("purpose", .str sovereignStatusPurpose), ("schemaVersion", .str sovereignStatusProfile),
    ("sequence", .num status.sequence), ("sovereignAssetId", .str status.sovereignAssetId),
    ("validUntil", .str status.validUntil)]

/-- What the payload's digest is taken of. -/
def SovereignStatusPayload.toJson (status : SovereignStatusPayload) : Json String :=
  .obj status.fields

def payloadHash (P : Platform) (status : SovereignStatusPayload) : String :=
  P.sha256 (canonicalJson status.toJson)

def deriveSovereignKeyId (P : Platform) (publicKey : String) : String := P.sha256 publicKey

def verifySovereignSignature (H : Host) (status : SovereignStatusPayload) (proof : SovereignProof) : Bool :=
  payloadHash H.toPlatform status == proof.payloadHash &&
    H.verifyEd25519 proof.payloadHash proof.publicKey proof.signature

/-- A key descriptor, as far as it is read. -/
structure KeyDescriptor where
  (keyId issuer : Option String)
  /-- `none` is absent, `some none` not a text. -/
  algorithm : Option (Option String)
  hasPublicKeyJwk : Bool

/-- What the resolver answers: nothing when it throws, `some none` when it is no object. -/
abbrev Resolved := Option (Option KeyDescriptor)

/-- `text.toLowerCase() === 'ed25519'`; no other character becomes one of these. -/
def isEd25519 (text : String) : Bool :=
  text.toList.map Char.toLower == "ed25519".toList

def bindKey (H : Host) (proof : SovereignProof) (issuer : String) (descriptor : Option KeyDescriptor) :
    Except SovereignStatusRejectionReason Unit := do
  let descriptor ← orReject .statusKeyUntrusted descriptor
  let keyId ← orReject .statusKeyUntrusted descriptor.keyId
  require .statusKeyUntrusted (trim keyId ≠ "")
  require .statusKeyUntrusted (descriptor.issuer = some issuer)
  require .statusKeyBindingInvalid
    ((descriptor.algorithm.all fun algorithm => algorithm.any isEd25519) = true)
  require .statusKeyBindingInvalid (proof.keyId = deriveSovereignKeyId H.toPlatform proof.publicKey)
  require .statusKeyUntrusted (keyId = proof.keyId)
  require .statusKeyBindingInvalid (descriptor.hasPublicKeyJwk = false)

structure SovereignStatusTrustedContext where
  (expectedSovereignAssetId expectedRegistrant expectedManifestDigest evaluationTime : String)
  resolved : Resolved

structure SovereignStatusVerified extends SovereignStatusPayload where
  (keyId statusDigest evaluationTime : String)

/-- No terms are expected of the status here: neither the gate nor the bootstrap asks for any. -/
def verifySovereignStatus (H : Host) (text : Option String)
    (context : SovereignStatusTrustedContext) :
    Except SovereignStatusRejectionReason SovereignStatusVerified := do
  require .contextInvalid (isValidSovereignAssetId context.expectedSovereignAssetId = true ∧
    isIdentifier context.expectedRegistrant = true ∧ isDigest context.expectedManifestDigest = true)
  let now ← orReject .evaluationTimeInvalid (canonicalInstant context.evaluationTime)
  let text ← orReject .statusMalformed text
  let parsed ← parseSignedStatus H text
  require .statusSignatureInvalid (verifySovereignSignature H parsed.status parsed.proof = true)
  require .statusIssuerUnauthorized (parsed.status.issuer = context.expectedRegistrant)
  let descriptor ← orReject .keyResolverFailed context.resolved
  bindKey H parsed.proof context.expectedRegistrant descriptor
  require .statusSubjectMismatch
    (parsed.status.sovereignAssetId = context.expectedSovereignAssetId)
  require .manifestBindingMismatch (parsed.status.manifestDigest = context.expectedManifestDigest)
  require .statusFromFuture (parsed.issuedAt ≤ now)
  require .statusExpired (now < parsed.validUntil)
  pure { parsed.status with
    keyId := parsed.proof.keyId
    statusDigest := parsed.proof.payloadHash
    evaluationTime := context.evaluationTime }

variable {reason : SovereignStatusRejectionReason} {value : String} {H : Host}

@[simp] theorem orReject_eq_ok {α : Type} {value : Option α} {a : α} :
    orReject reason value = .ok a ↔ value = some a := by
  cases value <;> simp [orReject]

@[simp] theorem require_eq_ok {condition : Prop} [Decidable condition] {u : Unit} :
    require reason condition = .ok u ↔ condition := by
  unfold require
  split_ifs with h <;> simp [h]

theorem trim_of_ends {first last : Char} {middle : List Char}
    (h : value.toList = first :: (middle ++ [last])) (hfirst : isTrimmed first = false)
    (hlast : isTrimmed last = false) : trim value = value := by
  have hstart : (value.toList.dropWhile isTrimmed) = value.toList := by
    rw [h,dropWhile_cons_of_neg (by simp [hfirst])]
  have hend : (value.toList.reverse.dropWhile isTrimmed) = value.toList.reverse := by
    rw [h,reverse_cons,reverse_append,reverse_singleton,singleton_append,
      cons_append,dropWhile_cons_of_neg (by simp [hlast])]
  rw [trim,hstart,hend,reverse_reverse,String.ofList_toList]

theorem isTrimmed_of_isHexadecimal {c : Char} (h : isHexadecimal c = true) : isTrimmed c = false := by
  have hrange : (48 ≤ c.toNat ∧ c.toNat ≤ 57) ∨ (97 ≤ c.toNat ∧ c.toNat ≤ 102) := by
    simp only [isHexadecimal,Bool.or_eq_true,Char.isDigit,Bool.and_eq_true,decide_eq_true_eq,
      Char.le_def,UInt32.le_iff_toNat_le] at h
    exact h
  simp only [isTrimmed,mem_cons,not_mem_nil,or_false,Bool.or_eq_false_iff,
    decide_eq_false_iff_not,Bool.and_eq_false_iff]
  omega

theorem matchesEach_concat {patterns : List (Char → Bool)} {accepts : Char → Bool}
    {text : List Char} (h : matchesEach (patterns ++ [accepts]) text = true) :
    ∃ front last, text = front ++ [last] ∧ accepts last = true ∧ matchesEach patterns front = true := by
  induction patterns generalizing text with
  | nil =>
    cases text with
    | nil => cases h
    | cons c text =>
      cases text with
      | nil => exact ⟨[],c,rfl,by simpa [matchesEach] using h,rfl⟩
      | cons d text => simp [matchesEach] at h
  | cons p patterns ih =>
    cases text with
    | nil => cases h
    | cons c text =>
      simp only [cons_append,matchesEach,Bool.and_eq_true] at h
      obtain ⟨front,last,rfl,hlast,hfront⟩ := ih h.2
      exact ⟨c :: front,last,rfl,hlast,by simp [matchesEach,h.1,hfront]⟩

theorem isIdentifier_of_isValidSovereignAssetId (h : isValidSovereignAssetId value = true) :
    isIdentifier value = true := by
  have hpattern : sovereignAssetIdPrefix.toList.map (fun c d => d == c) ++ uuidPattern =
      (fun d => d == 'a') :: ((sovereignAssetIdPrefix.toList.tail.map fun c d => d == c) ++
        uuidPattern.dropLast) ++ [isHexadecimal] := rfl
  rw [isValidSovereignAssetId,hpattern] at h
  obtain ⟨front,last,htext,hlast,hfront⟩ := matchesEach_concat h
  cases front with
  | nil => cases hfront
  | cons first front =>
    simp only [matchesEach,Bool.and_eq_true,beq_iff_eq] at hfront
    have htrim := trim_of_ends htext (by rw [hfront.1]; decide)
      (isTrimmed_of_isHexadecimal hlast)
    have hempty : value ≠ "" := by
      rintro rfl
      cases htext
    simp [isIdentifier,htrim,hempty]

/-- A status whose form and digest have been checked. -/
structure Authentic (P : Platform) (verified : SovereignStatusVerified) : Prop where
  asset : isIdentifier verified.sovereignAssetId = true
  registrant : isIdentifier verified.issuer = true
  digest : verified.statusDigest = payloadHash P verified.toSovereignStatusPayload
  wellFormed : isDigest verified.statusDigest = true
  sequence : isSafeInteger verified.sequence = true ∧ 1 ≤ verified.sequence
  terms : ∀ terms ∈ verified.currentTerms, isDigest terms.claimDigest = true
  withdrawn : verified.assetStatus = .withdrawn → verified.currentTerms = none
  issued : ∃ issuedAt, canonicalInstant verified.issuedAt = some issuedAt

theorem readTerms_isDigest {value : Json String} {terms : SovereignStatusTermsReference}
    (h : readTerms value = some (some terms)) : isDigest terms.claimDigest = true := by
  unfold readTerms at h
  split at h
  · cases h
  · simp only [bind_eq_bind,bind_eq_some_iff] at h
    obtain ⟨fields,-,claimId,-,claimDigest,-,h⟩ := h
    split_ifs at h with hchecks
    cases h
    simp only [Bool.and_eq_true] at hchecks
    exact hchecks.2

theorem readProof_isDigest {value : Json String} {proof : SovereignProof}
    (h : readProof value = some proof) : isDigest proof.payloadHash = true := by
  simp only [readProof,bind_eq_bind,bind_eq_some_iff] at h
  obtain ⟨_,-,_,-,_,-,_,-,payloadHash,-,_,-,_,-,_,-,h⟩ := h
  split_ifs at h with hchecks
  cases h
  exact hchecks.2.2.2.1

theorem readPayload_some {fields : List (String × Json String)} {status : SovereignStatusPayload}
    (h : readPayload fields = some status) :
    isValidSovereignAssetId status.sovereignAssetId = true ∧ isIdentifier status.issuer = true ∧
      (isSafeInteger status.sequence = true ∧ 1 ≤ status.sequence) ∧
      (∀ terms ∈ status.currentTerms, isDigest terms.claimDigest = true) ∧
      (status.assetStatus = .withdrawn → status.currentTerms = none) := by
  simp only [readPayload,bind_eq_bind,bind_eq_some_iff] at h
  obtain ⟨_,-,_,-,_,-,_,-,sequence,-,_,-,currentTerms,⟨value,-,hterms⟩,h⟩ := h
  split_ifs at h with hchecks
  cases h
  refine ⟨hchecks.1,hchecks.2.1,⟨hchecks.2.2.2.1,hchecks.2.2.2.2.1⟩,?_,hchecks.2.2.2.2.2⟩
  intro terms hmem
  have hsome : currentTerms = some terms := hmem
  rw [hsome] at hterms
  exact readTerms_isDigest hterms

theorem parseSignedStatus_ok {text : String} {parsed : Parsed}
    (h : parseSignedStatus H text = .ok parsed) :
    (∃ fields, readPayload fields = some parsed.status) ∧ isDigest parsed.proof.payloadHash = true ∧
      canonicalInstant parsed.status.issuedAt = some parsed.issuedAt := by
  simp only [parseSignedStatus,bind_eq_ok,orReject_eq_ok,require_eq_ok] at h
  obtain ⟨-,-,value,-,envelope,-,rawStatus,-,-,-,-,-,-,-,fields,-,status,hstatus,
    proof,hproof,issuedAt,hissuedAt,validUntil,-,-,-,-,-,-,-,h⟩ := h
  cases h
  obtain ⟨rawProof,-,hproof⟩ := bind_eq_some_iff.1 hproof
  exact ⟨⟨fields,hstatus⟩,readProof_isDigest hproof,hissuedAt⟩

theorem verifySovereignStatus_ok {text : Option String} {context : SovereignStatusTrustedContext}
    {verified : SovereignStatusVerified} (h : verifySovereignStatus H text context = .ok verified) :
    Authentic H.toPlatform verified ∧ verified.sovereignAssetId = context.expectedSovereignAssetId ∧
      verified.issuer = context.expectedRegistrant ∧ verified.evaluationTime = context.evaluationTime ∧
      (∃ now issuedAt, canonicalInstant context.evaluationTime = some now ∧
        canonicalInstant verified.issuedAt = some issuedAt ∧ issuedAt ≤ now) := by
  simp only [verifySovereignStatus,bind_eq_ok,orReject_eq_ok,require_eq_ok] at h
  obtain ⟨-,-,now,hnow,text,-,parsed,hparsed,-,hsignature,-,hissuer,-,-,-,-,-,hasset,
    -,-,-,hfuture,-,-,h⟩ := h
  cases h
  obtain ⟨⟨fields,hfields⟩,hdigest,hissuedAt⟩ := parseSignedStatus_ok hparsed
  obtain ⟨hid,hregistrant,hsequence,hterms,hwithdrawn⟩ := readPayload_some hfields
  simp only [verifySovereignSignature,Bool.and_eq_true,beq_iff_eq] at hsignature
  exact ⟨⟨isIdentifier_of_isValidSovereignAssetId hid,hregistrant,hsignature.1.symm,hdigest,
    hsequence,hterms,hwithdrawn,parsed.issuedAt,hissuedAt⟩,hasset,hissuer,rfl,now,
    parsed.issuedAt,hnow,hissuedAt,hfuture⟩

theorem canonical_of_sorted {fields : List (String × Json String)}
    (h : (fields.map Prod.fst).Pairwise fun a b => (!stringLt b a) = true)
    (hvalues : ∀ field ∈ fields, Json.canonical (fun a b => !stringLt b a) field.2 = field.2) :
    Json.canonical (fun a b => !stringLt b a) (.obj fields) = .obj fields := by
  have hsame : Json.canonicalFields (fun a b => !stringLt b a) fields = fields := by
    rw [Json.canonicalFields_eq_map]
    refine (map_congr_left ?_).trans (map_id fields)
    intro field hfield
    rw [hvalues field hfield]
    rfl
  rw [Json.canonical,hsame,List.Pairwise.insertionSort_eq]
  exact pairwise_map.1 h

theorem statusKeys_sorted : statusKeys.Pairwise fun a b => (!stringLt b a) = true := by
  decide

theorem termsKeys_sorted : termsKeys.Pairwise fun a b => (!stringLt b a) = true := by
  decide

theorem canonical_termsToJson (terms : Option SovereignStatusTermsReference) :
    Json.canonical (fun a b => !stringLt b a) (termsToJson terms) = termsToJson terms := by
  cases terms with
  | none => rfl
  | some terms =>
    refine canonical_of_sorted ?_ ?_
    · exact termsKeys_sorted
    · intro field hfield
      simp only [mem_cons,not_mem_nil,or_false] at hfield
      rcases hfield with rfl | rfl <;> rfl

theorem canonical_toJson (status : SovereignStatusPayload) :
    Json.canonical (fun a b => !stringLt b a) status.toJson = status.toJson := by
  refine canonical_of_sorted ?_ ?_
  · exact statusKeys_sorted
  · intro field hfield
    simp only [SovereignStatusPayload.fields,mem_cons,not_mem_nil,or_false] at hfield
    rcases hfield with rfl | rfl | rfl | rfl | rfl | rfl | rfl | rfl | rfl | rfl | rfl
    case inr.inl => exact canonical_termsToJson _
    case inr.inr.inr.inr.inr.inl => cases status.previousStatusDigest <;> rfl
    all_goals rfl

theorem termsToJson_injective {first second : Option SovereignStatusTermsReference}
    (h : termsToJson first = termsToJson second) : first = second := by
  cases first with
  | none =>
    cases second with
    | none => rfl
    | some terms => cases h
  | some terms =>
    cases second with
    | none => cases h
    | some terms' =>
      cases terms
      cases terms'
      simpa [termsToJson,and_comm] using h

theorem previousToJson_injective {first second : Option String}
    (h : previousToJson first = previousToJson second) : first = second := by
  cases first <;> cases second <;> simp_all [previousToJson]

theorem SovereignAssetStatusValue.text_injective {first second : SovereignAssetStatusValue}
    (h : first.text = second.text) : first = second := by
  cases first <;> cases second <;> simp_all [text]

theorem canonicalJson_toJson_injective {first second : SovereignStatusPayload}
    (h : canonicalJson first.toJson = canonicalJson second.toJson) : first = second := by
  have hjson : first.toJson = second.toJson := by
    have hparsed := congrArg (Json.parse (S := String)) h
    rw [canonicalJson,canonicalJson,Json.parse_canonicalSerialize,
      Json.parse_canonicalSerialize,canonical_toJson,canonical_toJson] at hparsed
    exact some.inj hparsed
  cases first
  cases second
  simp only [SovereignStatusPayload.toJson,SovereignStatusPayload.fields,Json.obj.injEq,
    List.cons.injEq,Prod.mk.injEq,Json.str.injEq,Json.num.injEq,true_and,and_true] at hjson
  obtain ⟨hstatus,hterms,rfl,rfl,rfl,hprevious,rfl,rfl,rfl⟩ := hjson
  rw [SovereignAssetStatusValue.text_injective hstatus,termsToJson_injective hterms,
    previousToJson_injective hprevious]

end Frontera.StatusHistory
