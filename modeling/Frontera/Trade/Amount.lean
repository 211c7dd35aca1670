import Frontera.Trade.Account
import Frontera.Trade.Rational
import Frontera.Trade.RawValue
import Frontera.Xrpl.LedgerValue

/-! The amounts of an offer, as `trade-asset.ts` reads them: XRP in drops, an issued value as
canonical decimal text that the ledger can hold exactly; and the exact quantity of each. -/

namespace Frontera.Trade

open Frontera.Monetary
open Frontera.Payment (canonicalizeDecimalText isPlainDecimal)
open Frontera.Xrpl (withoutLeadingZeros withoutTrailingZeros)

inductive TradeAmount where
  | xrp (drops : String)
  | issued (currency issuer value : String)

inductive TradeAsset where
  | xrp
  | issued (currency issuer : String)
deriving DecidableEq

def tradeDropsPerXrpScale : Nat := 6

def tradeMaximumDrops : Nat := 10 ^ 17

def tradeIssuedMaximumSignificantDigits : Nat := 16

def tradeIssuedMinimumExponent : Int := -96

def tradeIssuedMaximumExponent : Int := 80

inductive TradeAmountViolation where
  | amountMalformed | amountNotText | amountNotPositive | amountExponentNotAccepted
  | amountPrecisionExceeded | amountOutOfRange | currencyMalformed | issuerMissing | issuerMalformed
  | issuerReserved | issuerNotAllowedForXrp | amountFieldsInvalid

def amountTextMaximumLength : Nat := 256

/-- The text of a quantity, unless it is refused before it is inspected. -/
def refuseQuantityText : RawValue → Except TradeAmountViolation String
  | .str value =>
      if value = "" ∨ (codeUnits value).length > amountTextMaximumLength then .error .amountMalformed
      else if value.toList.head? = some '-' then .error .amountNotPositive
      else if value.toList.any fun c => c == 'e' || c == 'E' then .error .amountExponentNotAccepted
      else .ok value
  | _ => .error .amountNotText

/-- Significant digits and normalized exponent of a positive canonical decimal. -/
structure IssuedShape where
  significantDigits : Nat
  exponent : Int

def shapeOf (integer fraction : List Char) : IssuedShape :=
  let digits := withoutLeadingZeros (integer ++ fraction)
  let significant := withoutTrailingZeros digits
  -- the value is `significant * 10 ^ power`
  let power : Int := (digits.length : Int) - significant.length - fraction.length
  ⟨significant.length,power - ((tradeIssuedMaximumSignificantDigits : Int) - significant.length)⟩

def issuedShape (canonical : String) : IssuedShape :=
  match splitPoint canonical.toList with
  | (integer, none) => shapeOf integer []
  | (integer, some fraction) => shapeOf integer fraction

def parseIssuedValue (raw : RawValue) : Except TradeAmountViolation String :=
  match refuseQuantityText raw with
  | .error violation => .error violation
  | .ok text =>
      match canonicalizeDecimalText text with
      | none => .error .amountMalformed
      | some canonical =>
          if canonical = "0" then .error .amountNotPositive
          else
            let shape := issuedShape canonical
            if shape.significantDigits > tradeIssuedMaximumSignificantDigits then
              .error .amountPrecisionExceeded
            else if shape.exponent < tradeIssuedMinimumExponent ∨
                shape.exponent > tradeIssuedMaximumExponent then .error .amountOutOfRange
            else .ok canonical

/-- `POSITIVE_INTEGER` -/
def isPositiveInteger : List Char → Bool
  | [] => false
  | c :: rest => isNonZeroDigit c && rest.all Char.isDigit

/-- `PLAIN_DECIMAL` of amounts, with a point. -/
def isPointedDecimal (text : List Char) : Bool :=
  match splitPoint text with
  | (_, none) => false
  | (integer, some fraction) =>
      !integer.isEmpty && integer.all Char.isDigit && !fraction.isEmpty && fraction.all Char.isDigit

def parseDrops (raw : RawValue) : Except TradeAmountViolation String :=
  match refuseQuantityText raw with
  | .error violation => .error violation
  | .ok text =>
      if isPositiveInteger text.toList then
        if Nat.ofDigitChars 10 text.toList 0 ≤ tradeMaximumDrops then .ok text
        else .error .amountOutOfRange
      else if text.toList.all (· == '0') then .error .amountNotPositive
      else if isPointedDecimal text.toList then .error .amountPrecisionExceeded
      else .error .amountMalformed

def isAsciiAlphanumeric (c : Char) : Bool :=
  (decide ('A' ≤ c) && decide (c ≤ 'Z')) || (decide ('a' ≤ c) && decide (c ≤ 'z')) ||
    (decide ('0' ≤ c) && decide (c ≤ '9'))

def isHexadecimal (c : Char) : Bool :=
  (decide ('0' ≤ c) && decide (c ≤ '9')) || (decide ('A' ≤ c) && decide (c ≤ 'F')) ||
    (decide ('a' ≤ c) && decide (c ≤ 'f'))

/-- Upper case, of text that is ASCII letters and digits. -/
def upperCase (text : List Char) : List Char := text.map Char.toUpper

def parseTradeCurrencyCode : RawValue → Option String
  | .str value =>
      if value.toList.length = 3 ∧ value.toList.all isAsciiAlphanumeric then
        if upperCase value.toList = "XRP".toList then none else some value
      else if value.toList.length = 40 ∧ value.toList.all isHexadecimal then
        let currency := upperCase value.toList
        if currency.take 2 = ['0', '0'] then none else some (String.ofList currency)
      else none
  | _ => none

def checkAccount (sha256 : List UInt8 → List UInt8) : RawValue → TradeAccountCheck
  | .str value => checkTradeAccountAddress sha256 value
  | _ => .malformed

structure AmountRefusal where
  violation : TradeAmountViolation
  field : String

def parseXrpAmount (entries : RecordEntries) (field : String) : Except AmountRefusal TradeAmount :=
  if entries.has "issuer" then .error ⟨.issuerNotAllowedForXrp,field ++ ".issuer"⟩
  else if entries.length ≠ 2 then .error ⟨.amountFieldsInvalid,field⟩
  else
    match entries.get "drops" with
    | none => .error ⟨.amountFieldsInvalid,field⟩
    | some raw =>
        match parseDrops raw with
        | .error violation => .error ⟨violation,field ++ ".drops"⟩
        | .ok drops => .ok (.xrp drops)

def parseIssuedAmount (sha256 : List UInt8 → List UInt8) (entries : RecordEntries)
    (field : String) : Except AmountRefusal TradeAmount :=
  match (entries.get "currency").bind parseTradeCurrencyCode with
  | none => .error ⟨.currencyMalformed,field ++ ".currency"⟩
  | some currency =>
      match entries.get "issuer" with
      | none => .error ⟨.issuerMissing,field ++ ".issuer"⟩
      | some issuer =>
          if entries.length ≠ 3 then .error ⟨.amountFieldsInvalid,field⟩
          else
            match entries.get "value" with
            | none => .error ⟨.amountFieldsInvalid,field⟩
            | some raw =>
                match checkAccount sha256 issuer, issuer with
                | .reserved, _ => .error ⟨.issuerReserved,field ++ ".issuer"⟩
                | .valid, .str account =>
                    match parseIssuedValue raw with
                    | .error violation => .error ⟨violation,field ++ ".value"⟩
                    | .ok value => .ok (.issued currency account value)
                | _, _ => .error ⟨.issuerMalformed,field ++ ".issuer"⟩

def parseTradeAmount (sha256 : List UInt8 → List UInt8) (raw : RawValue) (field : String) :
    Except AmountRefusal TradeAmount :=
  match snapshotTradeRecord raw 8 with
  | .error _ => .error ⟨.amountFieldsInvalid,field⟩
  | .ok entries =>
      match entries.get "currency" with
      | some (.str "XRP") => parseXrpAmount entries field
      | _ => parseIssuedAmount sha256 entries field

def tradeAssetOf : TradeAmount → TradeAsset
  | .xrp _ => .xrp
  | .issued currency issuer _ => .issued currency issuer

def tradeAssetsEqual (left right : TradeAsset) : Bool := left == right

def tradeAssetToken : TradeAsset → String
  | .xrp => "XRP"
  | .issued currency issuer => currency ++ "." ++ issuer

/-- The amount in its asset's unit: XRP in XRP, an issued value as stated. -/
def tradeExactQuantity : TradeAmount → ExactDecimal
  | .xrp drops => ⟨Nat.ofDigitChars 10 drops.toList 0,tradeDropsPerXrpScale⟩
  | .issued _ _ value => parse value

def tradeDecimalQuantity (amount : TradeAmount) : String :=
  formatTradeExactQuantity (tradeExactQuantity amount)

end Frontera.Trade
