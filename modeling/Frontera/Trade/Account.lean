import Mathlib.Data.List.GetD
import Frontera.Data.Positional
import Frontera.Platform

/-! `decodeBase58` and `checkTradeAccountAddress` of `trade-grammar.ts`: base58 text of a version
byte, a 20-byte account id and a checksum. -/

namespace Frontera.Trade

open Frontera.Data List Option

/-- `BASE58_ALPHABET` -/
def base58Alphabet : List Char := "rpshnaf39wBUDNEGHJKLM4PQRST7VWXYZ2bcdeCg65jkm8oFqi1tuvAxyz".toList

/-- `BASE58_INDEX` -/
def base58Index (character : Char) : Option Nat :=
  if character ∈ base58Alphabet then some (base58Alphabet.idxOf character) else none

def accountAddressBytes : Nat := 25

def accountAddressMinimumLength : Nat := 25

def accountAddressMaximumLength : Nat := 35

/-- What the decoding loop has read: the value, the leading zero digits, and whether it still counts
them. -/
structure Base58Reading where
  (value leadingZeros : Nat)
  counting : Bool

def Base58Reading.next (reading : Base58Reading) (digit : Nat) : Base58Reading :=
  if reading.counting && digit == 0 then
    ⟨reading.value * 58 + digit,reading.leadingZeros + 1,true⟩
  else ⟨reading.value * 58 + digit,reading.leadingZeros,false⟩

/-- The loop that takes the bytes of the value from its low end yields its digits in base 256. -/
def decodeBase58 (text : String) : Option (List UInt8) := do
  let digits ← text.toList.mapM base58Index
  let reading := digits.foldl Base58Reading.next ⟨0,0,true⟩
  let body := valueDigits 256 reading.value
  if reading.leadingZeros + body.length ≠ accountAddressBytes then none
  else some ((List.replicate reading.leadingZeros 0 ++ body).map UInt8.ofNat)

inductive TradeAccountCheck where
  | valid | malformed | reserved
deriving DecidableEq

/-- `sha256(sha256(versioned))`, of which an address carries the first four bytes. -/
def doubleHash (sha256 : List UInt8 → List UInt8) (versioned : List UInt8) : List UInt8 :=
  sha256 (sha256 versioned)

/-- Bytes 1 to 20 of a decoded address. -/
def accountIdOf (bytes : List UInt8) : List UInt8 := (bytes.take 21).drop 1

def isReservedAccountId (accountId : List UInt8) : Bool :=
  (accountId.take 19).all (· == 0) && (accountId.drop 19 == [0] || accountId.drop 19 == [1])

def checkTradeAccountAddress (sha256 : List UInt8 → List UInt8) (value : String) : TradeAccountCheck :=
  if (codeUnits value).length < accountAddressMinimumLength ∨
      (codeUnits value).length > accountAddressMaximumLength then .malformed
  else
    match decodeBase58 value with
    | none => .malformed
    | some bytes =>
        if bytes.head? ≠ some 0 then .malformed
        else if (doubleHash sha256 (bytes.take 21)).take 4 ≠ bytes.drop 21 then .malformed
        else if isReservedAccountId (accountIdOf bytes) then .reserved
        else .valid

def tradeAccountIdOf (sha256 : List UInt8 → List UInt8) (value : String) : Option (List UInt8) :=
  if checkTradeAccountAddress sha256 value ≠ .valid then none
  else (decodeBase58 value).map accountIdOf

def base58Symbol (digit : Nat) : Char := base58Alphabet.getD digit 'r'

def encodeBase58 (bytes : List UInt8) : String :=
  String.ofList ((transcode 256 58 (bytes.map UInt8.toNat)).map base58Symbol)

/-- The base58check text of an account: version byte, account id and checksum. -/
def encodeAccount (sha256 : List UInt8 → List UInt8) (accountId : List UInt8) : String :=
  encodeBase58 (0 :: accountId ++ (doubleHash sha256 (0 :: accountId)).take 4)

variable {character : Char} {digit : Nat} {reading : Base58Reading} {text : String}
  {bytes : List UInt8} {sha256 : List UInt8 → List UInt8}

theorem base58Index_lt (h : base58Index character = some digit) : digit < 58 := by
  unfold base58Index at h
  split at h
  · rename_i hmem
    cases h
    have hlength : base58Alphabet.length = 58 := by decide
    rw [← hlength]
    exact idxOf_lt_length_of_mem hmem
  · cases h

theorem base58Symbol_index (h : base58Index character = some digit) : base58Symbol digit = character := by
  unfold base58Index at h
  split at h
  · rename_i hmem
    cases h
    rw [base58Symbol,getD_eq_getElem _ _ (idxOf_lt_length_of_mem hmem)]
    exact getElem_idxOf _
  · cases h

theorem mapM_base58Index {text : List Char} {digits : List Nat}
    (h : text.mapM base58Index = some digits) :
    digits.map base58Symbol = text ∧ ∀ digit ∈ digits, digit < 58 := by
  induction text generalizing digits with
  | nil =>
    cases h
    exact ⟨rfl,by simp⟩
  | cons character text ih =>
    simp only [mapM_cons,bind_eq_bind,bind_eq_some_iff] at h
    obtain ⟨digit,hdigit,rest,hrest,h⟩ := h
    cases h
    obtain ⟨hmap,hlt⟩ := ih hrest
    refine ⟨by rw [map_cons,base58Symbol_index hdigit,hmap],?_⟩
    intro other hother
    rcases mem_cons.1 hother with rfl | hother
    · exact base58Index_lt hdigit
    · exact hlt other hother

theorem foldl_next_value (digits : List Nat) (reading : Base58Reading) :
    (digits.foldl Base58Reading.next reading).value =
      digits.foldl (fun value digit => value * 58 + digit) reading.value := by
  induction digits generalizing reading with
  | nil => rfl
  | cons digit digits ih =>
    rw [foldl_cons,foldl_cons,ih]
    congr 1
    unfold Base58Reading.next
    split <;> rfl

theorem foldl_next_stopped (digits : List Nat) (h : reading.counting = false) :
    (digits.foldl Base58Reading.next reading).leadingZeros = reading.leadingZeros := by
  induction digits generalizing reading with
  | nil => rfl
  | cons digit digits ih =>
    have hnext : reading.next digit = ⟨reading.value * 58 + digit,reading.leadingZeros,false⟩ := by
      simp [Base58Reading.next,h]
    rw [foldl_cons,hnext,ih rfl]

theorem foldl_next_zeros (digits : List Nat) (h : reading.counting = true) :
    (digits.foldl Base58Reading.next reading).leadingZeros =
      reading.leadingZeros + leadingZeros digits := by
  induction digits generalizing reading with
  | nil => rfl
  | cons digit digits ih =>
    rw [foldl_cons]
    by_cases hzero : digit = 0
    · have hnext : reading.next digit = ⟨reading.value * 58 + digit,reading.leadingZeros + 1,true⟩ := by
        simp [Base58Reading.next,h,hzero]
      rw [hnext,ih rfl,leadingZeros,leadingZeros,hzero]
      simp only [beq_self_eq_true,takeWhile_cons_of_pos,length_cons]
      omega
    · have hnext : reading.next digit = ⟨reading.value * 58 + digit,reading.leadingZeros,false⟩ := by
        simp [Base58Reading.next,hzero]
      rw [hnext,foldl_next_stopped digits rfl,leadingZeros]
      simp [hzero]

theorem decodeBase58_eq_some (h : decodeBase58 text = some bytes) :
    ∃ digits, text.toList.mapM base58Index = some digits ∧
      bytes.map UInt8.toNat = transcode 58 256 digits ∧ bytes.length = accountAddressBytes := by
  simp only [decodeBase58,bind_eq_bind,bind_eq_some_iff] at h
  obtain ⟨digits,hdigits,h⟩ := h
  split at h
  · cases h
  · rename_i hlength
    cases h
    rw [not_not] at hlength
    refine ⟨digits,hdigits,?_,?_⟩
    · have hzeros : (digits.foldl Base58Reading.next ⟨0,0,true⟩).leadingZeros = leadingZeros digits := by
        rw [foldl_next_zeros digits rfl]
        exact Nat.zero_add _
      have hvalue : (digits.foldl Base58Reading.next ⟨0,0,true⟩).value = digitsValue 58 digits :=
        foldl_next_value digits _
      have hbytes : ∀ byte ∈ transcode 58 256 digits, (UInt8.toNat ∘ UInt8.ofNat) byte = byte := by
        intro byte hbyte
        have hlt : byte < 256 := by
          rcases mem_append.1 hbyte with hzero | hdigit
          · rw [(mem_replicate.1 hzero).2]
            decide
          · exact valueDigits_lt (by decide) byte hdigit
        rw [Function.comp_apply,UInt8.toNat_ofNat',Nat.mod_eq_of_lt hlt]
      rw [hzeros,hvalue,List.map_map]
      exact (map_congr_left hbytes).trans (map_id _)
    · simpa using hlength

theorem encodeBase58_decodeBase58 (h : decodeBase58 text = some bytes) : encodeBase58 bytes = text := by
  obtain ⟨digits,hdigits,hbytes,-⟩ := decodeBase58_eq_some h
  obtain ⟨hsymbols,hlt⟩ := mapM_base58Index hdigits
  rw [encodeBase58,hbytes,transcode_transcode (by decide) hlt,hsymbols,String.ofList_toList]

section

variable (h : checkTradeAccountAddress sha256 text = .valid)
include h

theorem decoded_of_valid (hbytes : decodeBase58 text = some bytes) :
    bytes = 0 :: accountIdOf bytes ++ (doubleHash sha256 (0 :: accountIdOf bytes)).take 4 ∧
      (accountIdOf bytes).length = 20 := by
  obtain ⟨-,-,-,hlength⟩ := decodeBase58_eq_some hbytes
  rw [accountAddressBytes] at hlength
  unfold checkTradeAccountAddress at h
  split at h
  · cases h
  · simp only [hbytes] at h
    split at h
    · cases h
    · rename_i hversion
      split at h
      · cases h
      · rename_i hchecksum
        rw [not_not] at hversion hchecksum
        cases bytes with
        | nil => cases hversion
        | cons version rest =>
          obtain rfl : version = 0 := by simpa using hversion
          have hpayload : (0 :: rest).take 21 = 0 :: accountIdOf (0 :: rest) := by
            simp [accountIdOf]
          rw [hpayload] at hchecksum
          constructor
          · rw [hchecksum,← hpayload,take_append_drop]
          · rw [accountIdOf,length_drop,length_take,hlength]
            rfl

theorem encodeAccount_of_valid (hbytes : decodeBase58 text = some bytes) :
    encodeAccount sha256 (accountIdOf bytes) = text := by
  rw [encodeAccount,← (decoded_of_valid h hbytes).1,encodeBase58_decodeBase58 hbytes]

theorem exists_decoded_of_valid : ∃ bytes, decodeBase58 text = some bytes := by
  unfold checkTradeAccountAddress at h
  split at h
  · cases h
  · split at h
    · cases h
    · rename_i bytes hbytes
      exact ⟨bytes,hbytes⟩

end

/-- An account has one spelling: accepted texts of one account id are one text, and an accepted text
is what its account id is encoded as. -/
theorem account_one_spelling (sha256 : List UInt8 → List UInt8) :
    (∀ text text' bytes bytes', checkTradeAccountAddress sha256 text = .valid →
      checkTradeAccountAddress sha256 text' = .valid → decodeBase58 text = some bytes →
      decodeBase58 text' = some bytes' → accountIdOf bytes = accountIdOf bytes' → text = text') ∧
    ∀ text, checkTradeAccountAddress sha256 text = .valid →
      ∃ accountId, tradeAccountIdOf sha256 text = some accountId ∧ accountId.length = 20 ∧
        encodeAccount sha256 accountId = text := by
  constructor
  · intro text text' bytes bytes' h h' hbytes hbytes' hsame
    rw [← encodeAccount_of_valid h hbytes,hsame,encodeAccount_of_valid h' hbytes']
  · intro text h
    obtain ⟨bytes,hbytes⟩ := exists_decoded_of_valid h
    refine ⟨accountIdOf bytes,?_,(decoded_of_valid h hbytes).2,encodeAccount_of_valid h hbytes⟩
    rw [tradeAccountIdOf,h,hbytes]
    rfl

def sampleAddress : String := "rPT1Sjq2YGrBMTttX4GZHjKu9dyfzbpAYe"

def sampleAccountId : List UInt8 :=
  [246, 103, 176, 202, 80, 204, 119, 9, 162, 32, 176, 86, 27, 133, 229, 58, 72, 70, 31, 168]

def sampleFirstHash : List UInt8 :=
  [159, 68, 157, 158, 176, 234, 233, 41, 180, 232, 182, 228, 131, 69, 119, 243, 11, 94, 187, 238,
    217, 129, 102, 150, 76, 220, 60, 24, 97, 228, 49, 89]

def sampleSecondHash : List UInt8 :=
  [247, 255, 153, 43, 4, 177, 210, 72, 103, 92, 27, 183, 89, 195, 130, 32, 57, 129, 76, 119, 38,
    142, 214, 193, 109, 126, 121, 17, 158, 15, 99, 156]

/-- SHA-256, at the two messages that the check of the sample address hashes. -/
def sampleSha256 (bytes : List UInt8) : List UInt8 :=
  if bytes = 0 :: sampleAccountId then sampleFirstHash
  else if bytes = sampleFirstHash then sampleSecondHash
  else []

set_option maxRecDepth 4000 in
theorem sampleAddress_decoded :
    decodeBase58 sampleAddress = some (0 :: sampleAccountId ++ sampleSecondHash.take 4) := by
  rfl

theorem sampleAddress_valid : checkTradeAccountAddress sampleSha256 sampleAddress = .valid := by
  have hlength : ¬((codeUnits sampleAddress).length < accountAddressMinimumLength ∨
      (codeUnits sampleAddress).length > accountAddressMaximumLength) := by decide
  rw [checkTradeAccountAddress,if_neg hlength,sampleAddress_decoded]
  decide

theorem sampleAddress_one_spelling : sampleAddress = sampleAddress ∧ ∃ accountId,
      tradeAccountIdOf sampleSha256 sampleAddress = some accountId ∧ accountId.length = 20 ∧
        encodeAccount sampleSha256 accountId = sampleAddress := by
  obtain ⟨hone,hencodes⟩ := account_one_spelling sampleSha256
  refine ⟨?_,hencodes sampleAddress sampleAddress_valid⟩
  exact hone sampleAddress sampleAddress _ _ sampleAddress_valid sampleAddress_valid
    sampleAddress_decoded sampleAddress_decoded rfl

end Frontera.Trade
