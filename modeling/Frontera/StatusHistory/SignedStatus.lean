import Frontera.Text.Literals
import Frontera.StatusHistory.Status

/-! What a registrant signs is read as it was signed, and verifies for a receiver that expects it,
inside its window. -/

namespace Frontera.StatusHistory

open Frontera.Data Frontera.Text List Option Json SovereignStatusPayload

def SovereignProof.fields (proof : SovereignProof) : List (String × Json String) :=
  [("algorithm", .str "ed25519"), ("canonicalizationProfile", .str "aoc-canonical-json/1"),
    ("keyId", .str proof.keyId), ("payloadHash", .str proof.payloadHash),
    ("publicKey", .str proof.publicKey), ("signature", .str proof.signature),
    ("signedAt", .str proof.signedAt)]

def signedStatus (status : SovereignStatusPayload) (proof : SovereignProof) : Json String :=
  .obj [("proof", .obj proof.fields), ("status", status.toJson)]

/-- What the verifier asks of the form of a payload. -/
structure SovereignStatusPayload.WellFormed (status : SovereignStatusPayload)
    (issuedAt validUntil : Int) : Prop where
  asset : isValidSovereignAssetId status.sovereignAssetId = true
  issuer : isIdentifier status.issuer = true
  manifest : isDigest status.manifestDigest = true
  sequence : isSafeInteger status.sequence = true ∧ 1 ≤ status.sequence
  previous : readPrevious status.sequence (some (previousToJson status.previousStatusDigest)) =
    some status.previousStatusDigest
  terms : ∀ reference ∈ status.currentTerms,
    isIdentifier reference.claimId = true ∧ isDigest reference.claimDigest = true
  withdrawn : status.assetStatus = .withdrawn → status.currentTerms = none
  issued : canonicalInstant status.issuedAt = some issuedAt
  valid : canonicalInstant status.validUntil = some validUntil
  ordered : issuedAt < validUntil
  bounded : validUntil - issuedAt ≤ sovereignStatusMaxValiditySeconds * nanosPerSecond

structure SovereignProof.WellFormed (proof : SovereignProof) : Prop where
  keyId : isDigest proof.keyId = true
  payloadHash : isDigest proof.payloadHash = true
  signature : isSignature proof.signature = true
  signedAt : (canonicalInstant proof.signedAt).isSome = true
  publicKey : proof.publicKey ≠ ""

variable {proof : SovereignProof} {status : SovereignStatusPayload} {issuedAt validUntil : Int}
  {H : Host} {n : Nat} {c : Char} {claimId : String}

theorem readProof_fields (h : proof.WellFormed) : readProof (.obj proof.fields) = some proof := by
  have hplain : readPlain (.obj proof.fields) proofKeys = some proof.fields := by
    simp [readPlain,SovereignProof.fields,proofKeys,Json.lookup]
  rw [readProof]
  refine bind_eq_some_iff.2 ⟨_,hplain,?_⟩
  refine bind_eq_some_iff.2 ⟨"ed25519",rfl,?_⟩
  refine bind_eq_some_iff.2 ⟨"aoc-canonical-json/1",rfl,?_⟩
  refine bind_eq_some_iff.2 ⟨proof.keyId,rfl,?_⟩
  refine bind_eq_some_iff.2 ⟨proof.payloadHash,rfl,?_⟩
  refine bind_eq_some_iff.2 ⟨proof.publicKey,rfl,?_⟩
  refine bind_eq_some_iff.2 ⟨proof.signature,rfl,?_⟩
  refine bind_eq_some_iff.2 ⟨proof.signedAt,rfl,?_⟩
  rw [if_pos ⟨rfl,rfl,h.keyId,h.payloadHash,h.signature,h.signedAt,h.publicKey⟩]

theorem readTerms_termsToJson {terms : Option SovereignStatusTermsReference}
    (h : ∀ reference ∈ terms,
      isIdentifier reference.claimId = true ∧ isDigest reference.claimDigest = true) :
    readTerms (termsToJson terms) = some terms := by
  cases terms with
  | none => rfl
  | some terms =>
    obtain ⟨hclaim,hdigest⟩ := h terms rfl
    simp [termsToJson,readTerms,readPlain,termsKeys,Json.lookup,textOf,hclaim,hdigest]

theorem readAssetStatus_text (status : SovereignAssetStatusValue) :
    readAssetStatus status.text = some status := by
  cases status <;> rfl

theorem readPayload_fields (h : status.WellFormed issuedAt validUntil) :
    readPlain status.toJson statusKeys = some status.fields ∧ readPayload status.fields = some status := by
  constructor
  · simp [readPlain,toJson,SovereignStatusPayload.fields,statusKeys,Json.lookup]
  · simp [readPayload,SovereignStatusPayload.fields,textOf,integerOf,Json.lookup,
      readAssetStatus_text,h.previous,readTerms_termsToJson h.terms,h.asset,h.issuer,
      h.manifest,h.sequence.1,h.sequence.2]
    exact h.withdrawn

theorem proofKeys_sorted : proofKeys.Pairwise fun a b => (!stringLt b a) = true := by
  decide

theorem envelopeKeys_sorted : envelopeKeys.Pairwise fun a b => (!stringLt b a) = true := by
  decide

theorem canonical_signedStatus (status : SovereignStatusPayload) (proof : SovereignProof) :
    canonical (fun a b => !stringLt b a) (signedStatus status proof) = signedStatus status proof := by
  refine canonical_of_sorted ?_ ?_
  · exact envelopeKeys_sorted
  · intro field hfield
    simp only [mem_cons,not_mem_nil,or_false] at hfield
    rcases hfield with rfl | rfl
    · refine canonical_of_sorted ?_ ?_
      · exact proofKeys_sorted
      · intro field hfield
        simp only [SovereignProof.fields,mem_cons,not_mem_nil,or_false] at hfield
        rcases hfield with rfl | rfl | rfl | rfl | rfl | rfl | rfl <;> rfl
    · exact canonical_toJson status

section

variable
  (hparse : H.parseJson (canonicalJson (signedStatus status proof)) = some (signedStatus status proof))
  (hlength : (codeUnits (canonicalJson (signedStatus status proof))).length ≤ maxSignedStatusLength)
  (hstatus : status.WellFormed issuedAt validUntil) (hproof : proof.WellFormed)
include hparse hlength hstatus hproof

theorem parseSignedStatus_signedStatus : parseSignedStatus H (canonicalJson (signedStatus status proof)) =
      .ok ⟨status,proof,issuedAt,validUntil⟩ := by
  have henvelope : readPlain (signedStatus status proof) envelopeKeys =
      some [("proof", .obj proof.fields), ("status", status.toJson)] := by
    simp [readPlain,signedStatus,envelopeKeys,Json.lookup]
  have hrawStatus : Json.lookup [("proof", obj proof.fields), ("status", status.toJson)]
      "status" = some status.toJson := by
    simp [Json.lookup]
  have hrawProof : Json.lookup [("proof", obj proof.fields), ("status", status.toJson)]
      "proof" = some (.obj proof.fields) := by
    simp [Json.lookup]
  have hschema : Json.get status.toJson "schemaVersion" = some (.str sovereignStatusProfile) := by
    simp [toJson,SovereignStatusPayload.fields,Json.get,Json.lookup]
  have hpurpose : Json.get status.toJson "purpose" = some (.str sovereignStatusPurpose) := by
    simp [toJson,SovereignStatusPayload.fields,Json.get,Json.lookup]
  obtain ⟨hplain,hpayload⟩ := readPayload_fields hstatus
  simp only [parseSignedStatus,require,hlength,hparse,henvelope,hrawStatus,hrawProof,hschema,
    hpurpose,hplain,hpayload,orReject,if_true,ok_bind,readProof_fields hproof,
    hstatus.issued,hstatus.valid,hstatus.ordered,hstatus.bounded,sovereignStatusProfile,
    sovereignStatusPurpose,bind_eq_bind,bind_some]
  rfl

theorem verifySovereignStatus_signedStatus {now : Int} {context : SovereignStatusTrustedContext}
    (hsignature : verifySovereignSignature H status proof = true)
    (hkey : (context.resolved.map (bindKey H proof status.issuer)) = some (.ok ()))
    (hasset : context.expectedSovereignAssetId = status.sovereignAssetId)
    (hissuer : context.expectedRegistrant = status.issuer)
    (hmanifest : context.expectedManifestDigest = status.manifestDigest)
    (hnow : canonicalInstant context.evaluationTime = some now) (hfrom : issuedAt ≤ now)
    (huntil : now < validUntil) :
    verifySovereignStatus H (some (canonicalJson (signedStatus status proof))) context = .ok { status with
        keyId := proof.keyId
        statusDigest := proof.payloadHash
        evaluationTime := context.evaluationTime } := by
  obtain ⟨descriptor,hdescriptor,hbound⟩ := map_eq_some_iff.1 hkey
  simp only [verifySovereignStatus,require,hasset,hissuer,hmanifest,hstatus.asset,
    hstatus.issuer,hstatus.manifest,and_self,if_true,ok_bind,hnow,orReject,
    parseSignedStatus_signedStatus hparse hlength hstatus hproof,hsignature,hdescriptor,hbound,
    hfrom,huntil]
  rfl

end

mutual

/-- A bound on the characters a value is written in: no character takes more than six. -/
def weight : Json String → Nat
  | .null => 4
  | .bool _ => 5
  | .num n => (toString n).toList.length
  | .str s => 6 * s.toList.length + 2
  | .arr items => weightItems items + 2
  | .obj fields => weightFields fields + 2

def weightItems : List (Json String) → Nat
  | [] => 0
  | j :: items => weight j + 1 + weightItems items

def weightFields : List (String × Json String) → Nat
  | [] => 0
  | (key, j) :: fields => (6 * key.toList.length + 2) + weight j + 2 + weightFields fields

end

theorem ite_length_le {c : Prop} [Decidable c] {left right : List Char} (hleft : left.length ≤ n)
    (hright : right.length ≤ n) : (if c then left else right).length ≤ n := by
  split
  · exact hleft
  · exact hright

theorem length_escapeChar_le (c : Char) : (escapeChar c).length ≤ 6 := by
  unfold escapeChar
  repeat' apply ite_length_le
  all_goals exact Nat.le_of_ble_eq_true rfl

theorem length_literal_le (s : String) : (Literal.write s).length ≤ 6 * s.toList.length + 2 := by
  have hchars : ∀ chars : List Char, (chars.flatMap escapeChar).length ≤ 6 * chars.length := by
    intro chars
    induction chars with
    | nil => simp
    | cons c chars ih =>
      have hc := length_escapeChar_le c
      simp only [flatMap_cons,length_append,length_cons]
      omega
  have := hchars s.toList
  simp only [Literal.write,length_cons,length_append,length_nil]
  omega

mutual

theorem length_write_le : ∀ j : Json String, (write j).length ≤ weight j
  | .null => by simp [write,weight]
  | .bool true => by simp [write,weight]
  | .bool false => by simp [write,weight]
  | .num n => by simp [write,weight]
  | .str s => by
    have := length_literal_le s
    simpa [write,weight] using this
  | .arr items => by
    have := length_writeItems_le items
    simp only [write,weight,length_cons,length_append,length_nil]
    omega
  | .obj fields => by
    have := length_writeFields_le fields
    simp only [write,weight,length_cons,length_append,length_nil]
    omega

theorem length_writeItems_le : ∀ items : List (Json String), (writeItems items).length ≤ weightItems items
  | [] => by simp [writeItems]
  | [j] => by
    have := length_write_le j
    simp only [writeItems,weightItems]
    omega
  | j :: k :: items => by
    have := length_write_le j
    have := length_writeItems_le (k :: items)
    simp only [writeItems,length_append,length_cons]
    rw [weightItems]
    omega

theorem length_writeFields_le : ∀ fields : List (String × Json String),
    (writeFields fields).length ≤ weightFields fields
  | [] => by simp [writeFields]
  | [(key, j)] => by
    have := length_write_le j
    have := length_literal_le key
    simp only [writeFields,weightFields,length_append,length_cons]
    omega
  | (key, j) :: field :: fields => by
    have := length_write_le j
    have := length_literal_le key
    have := length_writeFields_le (field :: fields)
    simp only [writeFields,length_append,length_cons]
    rw [weightFields]
    omega

end

theorem length_codeUnits_le (s : String) : (codeUnits s).length ≤ 2 * s.toList.length := by
  unfold codeUnits
  induction s.toList with
  | nil => simp
  | cons c chars ih =>
    have hc : (charCodeUnits c).length ≤ 2 := by
      unfold charCodeUnits
      split_ifs <;> simp
    simp only [flatMap_cons,length_append,length_cons]
    omega

theorem length_canonicalJson_le {j : Json String}
    (hcanonical : canonical (fun a b => !stringLt b a) j = j) (h : weight j ≤ n) :
    (codeUnits (canonicalJson j)).length ≤ 2 * n := by
  have hunits := length_codeUnits_le (canonicalJson j)
  have hwritten := length_write_le j
  rw [canonicalJson,canonicalSerialize,hcanonical,Json.stringify,String.toList_ofList] at hunits
  rw [canonicalJson,canonicalSerialize,hcanonical,Json.stringify]
  omega
theorem weight_signedStatus_le (status : SovereignStatusPayload) (proof : SovereignProof) :
    weight (signedStatus status proof) ≤ 2200 + 6 * (status.issuedAt.toList.length +
      status.issuer.toList.length + status.manifestDigest.toList.length +
      status.sovereignAssetId.toList.length + status.validUntil.toList.length +
      proof.keyId.toList.length + proof.payloadHash.toList.length + proof.publicKey.toList.length +
      proof.signature.toList.length + proof.signedAt.toList.length) +
      weight (termsToJson status.currentTerms) + weight (previousToJson status.previousStatusDigest) +
      (toString status.sequence).toList.length := by
  have hstatus : statusKeys.map (·.toList.length) = [11, 12, 8, 6, 14, 20, 7, 13, 8, 16, 10] :=
    lengths_literal (.cons rfl (.cons rfl (.cons rfl (.cons rfl (.cons rfl (.cons rfl (.cons rfl
      (.cons rfl (.cons rfl (.cons rfl (.cons rfl .nil)))))))))))
  have hproof : proofKeys.map (·.toList.length) = [9, 23, 5, 11, 9, 9, 8] :=
    lengths_literal (.cons rfl (.cons rfl (.cons rfl (.cons rfl (.cons rfl (.cons rfl (.cons rfl
      .nil)))))))
  have hfixed : ["status", "proof", "ed25519", "aoc-canonical-json/1", sovereignStatusProfile,
      sovereignStatusPurpose].map (·.toList.length) = [6, 5, 7, 20, 28, 36] :=
    lengths_literal (.cons rfl (.cons rfl (.cons rfl (.cons rfl (.cons rfl (.cons rfl .nil))))))
  have hvalue : status.assetStatus.text.toList.length ≤ 9 := by
    cases status.assetStatus <;> decide
  simp only [statusKeys,proofKeys,map_cons,map_nil,List.cons.injEq,and_true]
    at hstatus hproof hfixed
  simp only [signedStatus,toJson,SovereignStatusPayload.fields,
    SovereignProof.fields,weight,weightFields,hstatus,hproof,hfixed]
  omega
/-- A text of the form of a digest. -/
@[irreducible] def digestOfChar (c : Char) : String := String.ofList (List.replicate 64 c)

theorem toList_digestOfChar (c : Char) : (digestOfChar c).toList = List.replicate 64 c := by
  rw [digestOfChar,String.toList_ofList]

/-- The terms named in a written payload. -/
def claimIdIn (text : String) : Option (Json String) := do
  let payload ← parse text
  let terms ← payload.get "currentTerms"
  terms.get "claimId"

/-- A hash that tells apart payloads under `terms-2` from the others. -/
def sampleSha256 (text : String) : String :=
  digestOfChar (match claimIdIn text with
    | some (.str "terms-2") => 'b'
    | _ => 'a')

def samplePublicKey : String := "registrant-key"

/-- A text of the form of a signature. -/
@[irreducible] def signatureOfChar (c : Char) : String := String.ofList (List.replicate 86 c)

theorem toList_signatureOfChar (c : Char) : (signatureOfChar c).toList = List.replicate 86 c := by
  rw [signatureOfChar,String.toList_ofList]

def sampleHost : Host where
  sha256 := sampleSha256
  dateParse _ := none
  localeCompare _ _ := .eq
  parseJson := parse
  verifyEd25519 _ publicKey signature := publicKey == samplePublicKey && signature == signatureOfChar 'A'

def sampleAssetId : String := "aoc:sovereign-asset:00000000-0000-4000-8000-000000000000"

/-- The registrant's first status for its asset, under these terms. -/
def sampleStatus (claimId : String) : SovereignStatusPayload where
  sovereignAssetId := sampleAssetId
  issuer := "registrant"
  manifestDigest := digestOfChar 'c'
  assetStatus := .active
  currentTerms := some ⟨claimId,digestOfChar 'd'⟩
  sequence := 1
  previousStatusDigest := none
  issuedAt := "2026-01-01T00:00:00Z"
  validUntil := "2026-01-02T00:00:00Z"

def sampleProof (payloadHash : String) : SovereignProof where
  keyId := digestOfChar 'a'
  publicKey := samplePublicKey
  signature := signatureOfChar 'A'
  signedAt := "2026-01-01T00:00:00Z"
  payloadHash := payloadHash

def sampleSigned (claimId payloadHash : String) : String :=
  canonicalJson (signedStatus (sampleStatus claimId) (sampleProof payloadHash))

def sampleContext : SovereignStatusTrustedContext where
  expectedSovereignAssetId := sampleAssetId
  expectedRegistrant := "registrant"
  expectedManifestDigest := digestOfChar 'c'
  evaluationTime := "2026-01-01T00:00:01Z"
  resolved := some (some ⟨some (digestOfChar 'a'),some "registrant",none,false⟩)

def sampleVerified (claimId payloadHash : String) : SovereignStatusVerified :=
  { sampleStatus claimId with
    keyId := digestOfChar 'a'
    statusDigest := payloadHash
    evaluationTime := "2026-01-01T00:00:01Z" }

theorem isDigest_digestOfChar (h : isHexadecimal c = true) : isDigest (digestOfChar c) = true := by
  simp [isDigest,toList_digestOfChar,h]

theorem sampleStatus_wellFormed (h : isIdentifier claimId = true) :
    (sampleStatus claimId).WellFormed 1767225600000000000 1767312000000000000 where
  asset := by
    have hasset : isValidSovereignAssetId sampleAssetId = true := by decide
    exact hasset
  issuer := by
    have hissuer : isIdentifier "registrant" = true := by decide
    exact hissuer
  manifest := isDigest_digestOfChar (by decide)
  sequence := ⟨rfl,le_refl _⟩
  previous := rfl
  terms := by
    rintro _ ⟨⟩
    exact ⟨h,isDigest_digestOfChar (by decide)⟩
  withdrawn := by
    intro hwithdrawn
    cases hwithdrawn
  issued := by
    have hissued : canonicalInstant "2026-01-01T00:00:00Z" = some 1767225600000000000 := by
      decide
    exact hissued
  valid := by
    have hvalid : canonicalInstant "2026-01-02T00:00:00Z" = some 1767312000000000000 := by
      decide
    exact hvalid
  ordered := by decide
  bounded := by decide

theorem sampleProof_wellFormed (h : isHexadecimal c = true) :
    (sampleProof (digestOfChar c)).WellFormed where
  keyId := isDigest_digestOfChar (by decide)
  payloadHash := isDigest_digestOfChar h
  signature := by
    have hsignature : isSignature (signatureOfChar 'A') = true := by
      rw [isSignature,toList_signatureOfChar]
      decide
    exact hsignature
  signedAt := by
    have hsigned : canonicalInstant "2026-01-01T00:00:00Z" = some 1767225600000000000 := by decide
    exact isSome_iff_exists.2 ⟨_,hsigned⟩
  publicKey := by
    have hkey : samplePublicKey ≠ "" := ne_of_literals rfl rfl (cons_ne_nil _ _)
    exact hkey

theorem claimIdIn_sample (claimId : String) :
    claimIdIn (canonicalJson (sampleStatus claimId).toJson) = some (.str claimId) := by
  rw [claimIdIn,canonicalJson,parse_canonicalSerialize,canonical_toJson]
  simp [toJson,SovereignStatusPayload.fields,sampleStatus,termsToJson,Json.get,Json.lookup]

theorem sampleKeyId : sampleSha256 samplePublicKey = digestOfChar 'a' := by
  have hparse : claimIdIn samplePublicKey = none := by
    have hnone : (parse samplePublicKey : Option (Json String)).isNone = true := by
      decide
    rw [claimIdIn,isNone_iff_eq_none.1 hnone]
    rfl
  rw [sampleSha256,hparse]

theorem weight_sampleSigned (h : claimId.toList.length ≤ 10) :
    weight (signedStatus (sampleStatus claimId) (sampleProof (digestOfChar c))) ≤ 8192 := by
  have hbound := weight_signedStatus_le (sampleStatus claimId) (sampleProof (digestOfChar c))
  have hdigest : ∀ c, (digestOfChar c).toList.length = 64 := by
    intro c
    rw [toList_digestOfChar,length_replicate]
  have hsignature : (signatureOfChar 'A').toList.length = 86 := by
    rw [toList_signatureOfChar,length_replicate]
  have hfixed : [sampleAssetId, "registrant", samplePublicKey, "2026-01-01T00:00:00Z",
      "2026-01-02T00:00:00Z", "claimDigest", "claimId"].map (·.toList.length) =
      [56, 10, 14, 20, 20, 11, 7] :=
    lengths_literal (.cons rfl (.cons rfl (.cons rfl (.cons rfl (.cons rfl (.cons rfl (.cons rfl
      .nil)))))))
  simp only [map_cons,map_nil,List.cons.injEq,and_true] at hfixed
  have hone : (toString (1 : Int)).toList.length = 1 := by decide
  simp only [sampleStatus,sampleProof,termsToJson,previousToJson,weight,weightFields,hdigest,
    hsignature,hfixed,hone] at hbound
  simp only [sampleStatus,sampleProof]
  omega

theorem verifySovereignStatus_sample (hclaim : isIdentifier claimId = true)
    (hlength : claimId.toList.length ≤ 10) (hc : isHexadecimal c = true)
    (hhash : sampleSha256 (canonicalJson (sampleStatus claimId).toJson) = digestOfChar c) :
    verifySovereignStatus sampleHost (some (sampleSigned claimId (digestOfChar c))) sampleContext =
      .ok (sampleVerified claimId (digestOfChar c)) := by
  have hnow : canonicalInstant sampleContext.evaluationTime = some 1767225601000000000 := by
    decide
  have hparse : sampleHost.parseJson
      (canonicalJson (signedStatus (sampleStatus claimId) (sampleProof (digestOfChar c)))) =
        some (signedStatus (sampleStatus claimId) (sampleProof (digestOfChar c))) := by
    have hreader : sampleHost.parseJson = parse := rfl
    rw [hreader,canonicalJson,parse_canonicalSerialize,canonical_signedStatus]
  have hsignature : verifySovereignSignature sampleHost (sampleStatus claimId)
      (sampleProof (digestOfChar c)) = true := by
    have hsame : payloadHash sampleHost.toPlatform (sampleStatus claimId) = digestOfChar c := hhash
    rw [verifySovereignSignature,hsame]
    simp only [sampleProof,sampleHost,beq_self_eq_true,Bool.and_self]
  have hbound : sampleContext.resolved.map (bindKey sampleHost (sampleProof (digestOfChar c))
      (sampleStatus claimId).issuer) = some (.ok ()) := by
    have htrim : trim (digestOfChar 'a') ≠ "" := by
      have hends : (digestOfChar 'a').toList = 'a' :: (List.replicate 62 'a' ++ ['a']) :=
        (toList_digestOfChar 'a').trans rfl
      rw [trim_of_ends hends (by decide) (by decide)]
      intro hempty
      rw [hempty] at hends
      exact cons_ne_nil _ _ hends.symm
    have hkey : deriveSovereignKeyId sampleHost.toPlatform samplePublicKey = digestOfChar 'a' :=
      sampleKeyId
    simp only [sampleContext,map_some,bindKey,orReject,ok_bind,require,htrim,hkey,
      sampleProof,sampleStatus,ne_eq,not_false_eq_true,if_true,all_none]
  exact verifySovereignStatus_signedStatus hparse
    (length_canonicalJson_le (canonical_signedStatus _ _) (weight_sampleSigned hlength))
    (sampleStatus_wellFormed hclaim) (sampleProof_wellFormed hc) hsignature hbound rfl rfl rfl hnow
    (by decide) (by decide)

end Frontera.StatusHistory
