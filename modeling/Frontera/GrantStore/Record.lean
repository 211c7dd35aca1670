import Frontera.Grant.BoundedGrant

/-! The canonical envelopes of `bounded-grant-record.ts`, each naming the store a record is filed
in, and the revocation-state commitment: a digest over every committed revocation, in order. -/

namespace Frontera.GrantStore

open Frontera.Grant Frontera.Text

def boundedGrantStoreSchemaVersion : String := "aoc.bounded-grant-store.schema.v3"
def boundedGrantRecordFormat : String := "aoc.bounded-grant-store.record.v2"
def revocationSetFormat : String := "aoc.bounded-grant-store.revocation-set.v1"

/-- One committed revocation, as the commitment sees it. -/
structure RevocationSetEntry where
  sequence : Int
  (grantId revocationDigest : String)

/-- The store's whole revocation state, as one signed statement. -/
structure RevocationStateCommitment where
  storeId : String
  sequence : Int
  revocationSetDigest : String
deriving DecidableEq

def serializeStoredGrantRecord (grant : BoundedGrant) (storeId : String) : String :=
  "\x7b\"format\":" ++ stringify boundedGrantRecordFormat ++ ",\"grant\":" ++
    serializeBoundedGrant grant ++ ",\"grantId\":" ++ stringify grant.id ++
    ",\"kind\":\"grant\",\"schemaVersion\":" ++ stringify boundedGrantStoreSchemaVersion ++
    ",\"storeId\":" ++ stringify storeId ++ "\x7d"

def serializeStoredRevocationRecord (revocation : GrantRevocation) (storeId : String) : String :=
  "\x7b" ++ join "," ["\"format\":" ++ stringify boundedGrantRecordFormat,
    "\"grantId\":" ++ stringify revocation.grantId,
    "\"issuerRef\":" ++ stringify revocation.issuerRef,
    "\"kind\":\"revocation\"",
    "\"reason\":" ++ stringify revocation.reason.text,
    "\"revokedAt\":" ++ stringify revocation.revokedAt,
    "\"schemaVersion\":" ++ stringify boundedGrantStoreSchemaVersion,
    "\"storeId\":" ++ stringify storeId] ++ "\x7d"

/-- `JSON.stringify([sequence, grantId, revocationDigest])` -/
def serializeRevocationSetEntry (entry : RevocationSetEntry) : String :=
  "[" ++ toString entry.sequence ++ "," ++ stringify entry.grantId ++ "," ++
    stringify entry.revocationDigest ++ "]"

def serializeRevocationSet (storeId : String) (entries : List RevocationSetEntry) : String :=
  "\x7b\"entries\":[" ++ join "," (entries.map serializeRevocationSetEntry) ++ "],\"format\":" ++
    stringify revocationSetFormat ++ ",\"storeId\":" ++ stringify storeId ++ "\x7d"

def serializeRevocationStateCommitment (state : RevocationStateCommitment) : String :=
  "\x7b" ++ join "," ["\"format\":" ++ stringify boundedGrantRecordFormat,
    "\"kind\":\"revocation-state\"",
    "\"revocationSetDigest\":" ++ stringify state.revocationSetDigest,
    "\"schemaVersion\":" ++ stringify boundedGrantStoreSchemaVersion,
    "\"sequence\":" ++ toString state.sequence,
    "\"storeId\":" ++ stringify state.storeId] ++ "\x7d"

section Digest

variable (P : Platform)

def storedGrantRecordDigest (grant : BoundedGrant) (storeId : String) : String :=
  P.digestOf (serializeStoredGrantRecord grant storeId)

def storedRevocationRecordDigest (revocation : GrantRevocation) (storeId : String) : String :=
  P.digestOf (serializeStoredRevocationRecord revocation storeId)

def revocationSetDigest (storeId : String) (entries : List RevocationSetEntry) : String :=
  P.digestOf (serializeRevocationSet storeId entries)

end Digest

theorem serializeRevocationSetEntry_eq (entry : RevocationSetEntry) :
    serializeRevocationSetEntry entry = "[" ++ toString entry.sequence ++ "," ++
      stringify entry.grantId ++ "," ++ stringify entry.revocationDigest ++ "]" := rfl

theorem serializeRevocationSet_eq (storeId : String) (entries : List RevocationSetEntry) :
    serializeRevocationSet storeId entries = "\x7b\"entries\":[" ++
      join "," (entries.map serializeRevocationSetEntry) ++ "],\"format\":" ++
      stringify revocationSetFormat ++ ",\"storeId\":" ++ stringify storeId ++ "\x7d" := rfl

theorem serializeRevocationSetEntry_append_inj {a b : RevocationSetEntry} {r s : String}
    (h : serializeRevocationSetEntry a ++ r = serializeRevocationSetEntry b ++ s) :
    a = b ∧ r = s := by
  obtain ⟨sequence,grantId,digest⟩ := a
  obtain ⟨sequence',grantId',digest'⟩ := b
  simp only [serializeRevocationSetEntry_eq,String.append_assoc,String.append_right_inj,
    integer_comma_inj,stringify_append_inj] at h
  obtain ⟨rfl,rfl,rfl,rfl⟩ := h
  exact ⟨rfl,rfl⟩

variable {storeId storeId' : String} {entries entries' : List RevocationSetEntry}

theorem serializeRevocationSet_inj
    (h : serializeRevocationSet storeId entries = serializeRevocationSet storeId' entries') :
    storeId = storeId' ∧ entries = entries' := by
  have hcode := prefixFree_of_append_inj fun a b r s =>
    @serializeRevocationSetEntry_append_inj a b r s
  have hopen : ∀ a r s, serializeRevocationSetEntry a ++ r ≠ "],\"format\":" ++ s := by
    intro a r s
    simp only [serializeRevocationSetEntry_eq,String.append_assoc]
    exact append_ne_append (by decide) _ _
  simp only [serializeRevocationSet_eq,String.append_assoc,String.append_right_inj] at h
  obtain ⟨hentries,hrest⟩ := join_append_inj hcode (by decide) hopen h
  rw [String.append_right_inj,String.append_right_inj,stringify_append_inj] at hrest
  exact ⟨hrest.1,hentries⟩

theorem revocationSetDigest_inj {P : Platform} (hsha : Function.Injective P.sha256)
    (h : revocationSetDigest P storeId entries = revocationSetDigest P storeId' entries') :
    storeId = storeId' ∧ entries = entries' :=
  serializeRevocationSet_inj (Platform.digestOf_injective hsha h)

end Frontera.GrantStore
