import Frontera.Xrpl.LedgerValue

/-! How the rail reads what a ledger server answers: a submission, a validated index and header, a
lookup, an autofilled payment. Each reading is total; an answer it cannot read is never taken for a
fact. -/

namespace Frontera.Xrpl

open Frontera.Monetary Frontera.Payment Frontera.Text

/-- `value === text` -/
def isText (value : Option (Json String)) (text : String) : Bool :=
  match value with
  | some (.str found) => found == text
  | _ => false

/-- `value === n` -/
def isNumber (value : Option (Json String)) (n : Int) : Bool :=
  match value with
  | some (.num found) => found == n
  | _ => false

/-- `value === true` -/
def isTrue (value : Option (Json String)) : Bool :=
  match value with
  | some (.bool true) => true
  | _ => false

/-- `value[key]` of a value that may be absent. -/
def fieldOf (value : Option (Json String)) (key : String) : Option (Json String) :=
  value.bind fun v => v.get key

def readLedgerIndex : Json String → Option Int
  | .num index => if isSafeInteger index && decide (0 < index) then some index else none
  | _ => none

structure LedgerHeader where
  (index closeTime : Int)

def readLedgerHeader (raw : Json String) : Option LedgerHeader :=
  match isTrue (raw.get "validated"), (raw.get "ledger_index").bind readLedgerIndex,
      raw.get "close_time" with
  | true, some index, some (.num closeTime) =>
      if isSafeInteger closeTime && decide (0 ≤ closeTime) then some ⟨index,closeTime⟩ else none
  | _, _, _ => none

def readNetworkId (raw : Json String) : Option Int :=
  match fieldOf (raw.get "info") "network_id" with
  | some (.num networkId) =>
      if isSafeInteger networkId && decide (0 ≤ networkId) then some networkId else none
  | _ => none

inductive XrplSubmissionReading where
  | malformed (engineResult : String)
  | provisional (engineResult : String)
  | unreadable

def readSubmission (raw : Json String) (hash : String) : XrplSubmissionReading :=
  match raw.get "engine_result" with
  | some (.str engineResult) =>
      if !isXrplEngineResult engineResult then .unreadable
      else
        match fieldOf (raw.get "tx_json") "hash" with
        | none =>
            if startsWith engineResult "tem" then .malformed engineResult
            else .provisional engineResult
        | some echoed =>
            if !isText (some echoed) hash then .unreadable
            else if startsWith engineResult "tem" then .malformed engineResult
            else .provisional engineResult
  | _ => .unreadable

structure XrplExpectedPayment where
  hash : String
  amount : IssuedAmount

inductive XrplLookupReading where
  | validatedSuccess | validatedDeliveredMismatch
  | validatedFailure (engineResult : String)
  | validatedUnrecognized | notFoundComplete | pending | unreadable

def deliveredMatches (delivered : Option (Json String)) (expected : IssuedAmount) : Bool :=
  isText (fieldOf delivered "currency") expected.currency &&
    isText (fieldOf delivered "issuer") expected.issuer &&
    match fieldOf delivered "value" with
    | some (.str value) => canonicalDecimalOfLedgerValue value == some expected.value
    | _ => false

/-- A lookup answer that says `validated`, read for what it says of the payment. -/
def readValidated (details : Option (Json String)) (expected : IssuedAmount) : XrplLookupReading :=
  match fieldOf details "TransactionResult" with
  | some (.str engineResult) =>
      if !isXrplEngineResult engineResult then .unreadable
      else if engineResult = "tesSUCCESS" then
        if deliveredMatches (fieldOf details "delivered_amount") expected then .validatedSuccess
        else .validatedDeliveredMismatch
      else if startsWith engineResult "tec" then .validatedFailure engineResult
      else .validatedUnrecognized
  | _ => .unreadable

def readLookup (raw : Json String) (expected : XrplExpectedPayment) : XrplLookupReading :=
  match raw with
  | .obj _ =>
      match raw.get "error" with
      | some error =>
          if !isText (some error) "txnNotFound" then .unreadable
          else if isTrue (raw.get "searched_all") then .notFoundComplete
          else .pending
      | none =>
          if !isText (raw.get "hash") expected.hash then .unreadable
          else
            match raw.get "validated" with
            | none => .pending
            | some (.bool false) => .pending
            | some (.bool true) => readValidated (raw.get "meta") expected.amount
            | some _ => .unreadable
  | _ => .unreadable

structure XrplAutofill where
  sequence : Int
  fee : String

/-- `[1-9][0-9]{0,15}` -/
def isFee (fee : String) : Bool :=
  isCanonicalInteger fee.toList && fee != "0" && decide (fee.toList.length ≤ 16)

/-- The object holds exactly the three fields of the amount. -/
def isAmount (value : Option (Json String)) (amount : IssuedAmount) : Bool :=
  match value with
  | some (.obj fields) =>
      decide (fields.length = 3) && isText (Json.lookup fields "currency") amount.currency &&
        isText (Json.lookup fields "issuer") amount.issuer &&
        isText (Json.lookup fields "value") amount.value
  | _ => false

/-- The keys of a built payment, and the two that autofill adds. -/
def allowedKeys (built : XrplPaymentTransaction) : List String :=
  ["TransactionType", "Account", "Destination", "Amount", "Flags", "LastLedgerSequence",
    "Sequence", "Fee"] ++ if built.destinationTag.isSome then ["DestinationTag"] else []

def readAutofill (raw : Json String) (built : XrplPaymentTransaction) (lastLedgerSequence : Int) :
    Option XrplAutofill :=
  match raw with
  | .obj fields =>
      if fields.any fun f => !(allowedKeys built).contains f.1 then none
      else if !(isText (raw.get "TransactionType") "Payment" &&
          isText (raw.get "Account") built.account &&
          isText (raw.get "Destination") built.destination &&
          built.destinationTag.all (fun tag => isNumber (raw.get "DestinationTag") tag) &&
          isAmount (raw.get "Amount") built.amount && isNumber (raw.get "Flags") 0 &&
          isNumber (raw.get "LastLedgerSequence") lastLedgerSequence) then none
      else
        match raw.get "Sequence", raw.get "Fee" with
        | some (.num sequence), some (.str fee) =>
            if isSafeInteger sequence && decide (0 < sequence) && isFee fee then
              some ⟨sequence,fee⟩
            else none
        | _, _ => none
  | _ => none

/-- The metadata of a successful transaction that moved exactly this quantity of this currency
of this issuer. -/
def Delivered (details : Option (Json String)) (amount : IssuedAmount) : Prop :=
  fieldOf details "TransactionResult" = some (.str "tesSUCCESS") ∧
    fieldOf (fieldOf details "delivered_amount") "currency" = some (.str amount.currency) ∧
    fieldOf (fieldOf details "delivered_amount") "issuer" = some (.str amount.issuer) ∧
    ∃ value parsed, fieldOf (fieldOf details "delivered_amount") "value" = some (.str value) ∧
      readLedgerValue value.toList = some parsed ∧ parsed.quantity = decimalValue amount.value

variable {value details : Option (Json String)} {amount : IssuedAmount}

theorem isText_iff {text : String} : isText value text = true ↔ value = some (.str text) := by
  unfold isText
  split
  · simp
  · rename_i hne
    simp only [Bool.false_eq_true,false_iff]
    exact fun heq => hne text heq

theorem isTrue_iff : isTrue value = true ↔ value = some (.bool true) := by
  unfold isTrue
  split
  · simp
  · rename_i hne
    simp only [Bool.false_eq_true,false_iff]
    exact hne

/-- What a lookup answer says of the transaction, if it says it is validated. -/
def SaysValidated (raw : Json String) (hash : String) (details : Option (Json String)) : Prop :=
  raw.get "error" = none ∧ raw.get "hash" = some (.str hash) ∧
    raw.get "validated" = some (.bool true) ∧ raw.get "meta" = details

/-- A complete search that found nothing. -/
def SaysNotFound (raw : Json String) : Prop :=
  raw.get "error" = some (.str "txnNotFound") ∧ raw.get "searched_all" = some (.bool true)

theorem readLookup_cases (raw : Json String) (expected : XrplExpectedPayment) :
    (readLookup raw expected = .notFoundComplete → SaysNotFound raw) ∧
    (∀ reading, readLookup raw expected = reading → reading ≠ .notFoundComplete →
      reading ≠ .pending → reading ≠ .unreadable → ∃ details, SaysValidated raw expected.hash details ∧
        readValidated details expected.amount = reading) := by
  unfold readLookup
  split
  · split
    · rename_i error herror
      split_ifs with htext hall
      · exact ⟨fun h => (by cases h),fun _ h _ _ hne => absurd h.symm hne⟩
      · simp only [Bool.not_eq_true,Bool.not_eq_false'] at htext
        exact ⟨fun _ => ⟨by rw [herror]; exact isText_iff.1 htext,isTrue_iff.1 hall⟩,
          fun _ h hne => absurd h.symm hne⟩
      · exact ⟨fun h => (by cases h),fun _ h _ hne => absurd h.symm hne⟩
    · rename_i herror
      split_ifs with htext
      · exact ⟨fun h => (by cases h),fun _ h _ _ hne => absurd h.symm hne⟩
      · simp only [Bool.not_eq_true,Bool.not_eq_false'] at htext
        split
        · exact ⟨fun h => (by cases h),fun _ h _ hne => absurd h.symm hne⟩
        · exact ⟨fun h => (by cases h),fun _ h _ hne => absurd h.symm hne⟩
        · rename_i hvalidated
          refine ⟨fun h => ?_,fun reading h _ _ _ => ⟨_,⟨herror,isText_iff.1 htext,hvalidated,rfl⟩,h⟩⟩
          exfalso
          revert h
          unfold readValidated
          split
          · split_ifs <;> simp
          · simp
        · exact ⟨fun h => (by cases h),fun _ h _ _ hne => absurd h.symm hne⟩
  · exact ⟨fun h => (by cases h),fun _ h _ _ hne => absurd h.symm hne⟩

theorem readValidated_success (h : readValidated details amount = .validatedSuccess) :
    Delivered details amount := by
  unfold readValidated at h
  split at h
  · rename_i engineResult hresult
    split_ifs at h with hgrammar hsuccess hdelivered
    subst hsuccess
    simp only [deliveredMatches,Bool.and_eq_true,isText_iff] at hdelivered
    obtain ⟨⟨hcurrency,hissuer⟩,hvalue⟩ := hdelivered
    refine ⟨hresult,hcurrency,hissuer,?_⟩
    split at hvalue
    · rename_i value hfield
      obtain ⟨parsed,hparsed,hquantity⟩ :=
        canonicalDecimalOfLedgerValue_quantity (by simpa using hvalue)
      exact ⟨value,parsed,hfield,hparsed,hquantity.symm⟩
    · cases hvalue
  · cases h

theorem readValidated_failure {engineResult : String}
    (h : readValidated details amount = .validatedFailure engineResult) :
    fieldOf details "TransactionResult" ≠ some (.str "tesSUCCESS") := by
  unfold readValidated at h
  split at h
  · rename_i found hresult
    split_ifs at h with hgrammar hsuccess
    rw [hresult]
    intro heq
    exact hsuccess (Json.str.inj (Option.some.inj heq))
  · cases h

end Frontera.Xrpl
