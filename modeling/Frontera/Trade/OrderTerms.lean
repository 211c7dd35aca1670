import Frontera.Text.CodeUnitOrder
import Frontera.Trade.AmountExactness

/-! The canonical pair, the side, the quantities and the exact limit price, as `trade-proposal.ts`
derives them from the two amounts with the arithmetic of `trade-price.ts`. -/

namespace Frontera.Trade

open Frontera.Data Frontera.Monetary Frontera.Text List

abbrev TradePrice := TradeRational

def tradePriceMaximumDigits : Nat := 256

def tradePriceOf (quote base : ExactDecimal) : Except RangeError TradePrice :=
  let numerator := quote.coefficient * 10 ^ base.scale
  let denominator := base.coefficient * 10 ^ quote.scale
  if h : numerator = 0 ∨ denominator = 0 then .error ⟨"A price needs two positive quantities."⟩
  else .ok (reduced numerator denominator (Nat.pos_of_ne_zero fun hzero => h (.inr hzero)))

/-- `-1`, `0` and `1` are the three orderings. -/
def compareTradePrices (left right : TradePrice) : Ordering :=
  compare (left.numerator * right.denominator) (right.numerator * left.denominator)

/-- A price term: positive integer text within its length. -/
def parsePriceTerm : RawValue → Option Nat
  | .str value =>
      if (codeUnits value).length ≤ tradePriceMaximumDigits ∧ isPositiveInteger value.toList then
        some (Nat.ofDigitChars 10 value.toList 0)
      else none
  | _ => none

def parseTradePriceAssertion (raw : RawValue) : Option TradePrice :=
  match snapshotTradeRecord raw 4 with
  | .error _ => none
  | .ok entries =>
      if entries.length ≠ 2 then none
      else do
        let numerator ← (entries.get "numerator").bind parsePriceTerm
        let denominator ← (entries.get "denominator").bind parsePriceTerm
        -- a term that is accepted is positive
        if h : 0 < denominator then some (reduced numerator denominator h) else none

/-- The text of a price term. -/
def priceTerm (n : Nat) : String := String.ofList (Nat.toDigits 10 n)

inductive TradeSide where
  | buy | sell
deriving DecidableEq

def TradeSide.flip : TradeSide → TradeSide
  | .buy => .sell
  | .sell => .buy

structure TradePair where
  (base quote : TradeAsset)

def canonicalTradePair (left right : TradeAsset) : TradePair :=
  match left, right with
  | .xrp, _ => ⟨right,left⟩
  | _, .xrp => ⟨left,right⟩
  | _, _ =>
      if stringLt (tradeAssetToken left) (tradeAssetToken right) then ⟨left,right⟩
      else ⟨right,left⟩

/-- `TradeOrderTerms`, less the value of its flags. -/
structure OrderLegs where
  (base quote : TradeAsset)
  side : TradeSide
  (quantity counterQuantity : String)
  limitPrice : TradePrice

/-- The part of `validateTradeProposal` that derives the terms of two amounts. -/
def orderLegs (gets pays : TradeAmount) : Except RangeError OrderLegs :=
  let given := tradeAssetOf gets
  let pair := canonicalTradePair given (tradeAssetOf pays)
  let side := if tradeAssetsEqual given pair.base then TradeSide.sell else .buy
  let baseAmount := if side = .sell then gets else pays
  let quoteAmount := if side = .sell then pays else gets
  (tradePriceOf (tradeExactQuantity quoteAmount) (tradeExactQuantity baseAmount)).map
    fun limitPrice => {
      base := pair.base
      quote := pair.quote
      side := side
      quantity := formatTradeExactQuantity (tradeExactQuantity baseAmount)
      counterQuantity := formatTradeExactQuantity (tradeExactQuantity quoteAmount)
      limitPrice := limitPrice }

theorem hexadecimal_upper {c : Char} (h : isHexadecimal c = true) :
    isHexadecimal c.toUpper = true ∧ c.toUpper.toUpper = c.toUpper ∧ c.toUpper ≠ '.' := by
  have hcases : ∀ n : Fin 128, isHexadecimal (Char.ofNat n.val) = true →
      isHexadecimal (Char.ofNat n.val).toUpper = true ∧
        (Char.ofNat n.val).toUpper.toUpper = (Char.ofNat n.val).toUpper ∧
        (Char.ofNat n.val).toUpper ≠ '.' := by
    decide
  have hsmall : c.toNat < 128 := by
    have hrange := h
    simp only [isHexadecimal,Bool.or_eq_true,Bool.and_eq_true,decide_eq_true_eq] at hrange
    rcases hrange with (⟨-,hle⟩ | ⟨-,hle⟩) | ⟨-,hle⟩
    · exact Nat.lt_of_le_of_lt hle (by decide)
    · exact Nat.lt_of_le_of_lt hle (by decide)
    · exact Nat.lt_of_le_of_lt hle (by decide)
  have hchar := hcases ⟨c.toNat,hsmall⟩
  simp only [Char.ofNat_toNat] at hchar
  exact hchar h

variable {raw : RawValue} {currency : String} {sha256 : List UInt8 → List UInt8}
  {amount left right gets pays : TradeAmount}

theorem parseTradeCurrencyCode_canonical (h : parseTradeCurrencyCode raw = some currency) :
    parseTradeCurrencyCode (.str currency) = some currency := by
  unfold parseTradeCurrencyCode at h
  split at h
  · rename_i value
    split at h
    · rename_i hstandard
      split at h
      · cases h
      · rename_i hxrp
        cases h
        rw [parseTradeCurrencyCode,if_pos hstandard,if_neg hxrp]
    · split at h
      · rename_i hhex
        simp only at h
        split at h
        · cases h
        · rename_i hzeros
          cases h
          have hupper : upperCase (upperCase value.toList) = upperCase value.toList := by
            rw [upperCase,upperCase,map_map]
            exact map_congr_left fun c hc =>
              (hexadecimal_upper (all_eq_true.1 hhex.2 c hc)).2.1
          have hall : (upperCase value.toList).all isHexadecimal = true := by
            rw [upperCase,all_map,all_eq_true]
            exact fun c hc => (hexadecimal_upper (all_eq_true.1 hhex.2 c hc)).1
          have hlength : (upperCase value.toList).length = 40 := by
            rw [upperCase,length_map]
            exact hhex.1
          have hlong : ¬((upperCase value.toList).length = 3 ∧
              (upperCase value.toList).all isAsciiAlphanumeric = true) := by
            rintro ⟨hthree,-⟩
            omega
          rw [parseTradeCurrencyCode,String.toList_ofList,if_neg hlong,if_pos ⟨hlength,hall⟩]
          simp only [hupper,if_neg hzeros]
      · cases h
  · cases h

theorem currency_noPoint (h : parseTradeCurrencyCode (.str currency) = some currency) :
    ∀ c ∈ currency.toList, c ≠ '.' := by
  rw [parseTradeCurrencyCode] at h
  split at h
  · rename_i hstandard
    intro c hc
    have halnum := all_eq_true.1 hstandard.2 c hc
    rintro rfl
    revert halnum
    decide
  · split at h
    · rename_i hhex
      intro c hc
      have hdigit := all_eq_true.1 hhex.2 c hc
      rintro rfl
      revert hdigit
      decide
    · cases h

/-- Every part is its own canonical spelling. -/
inductive TradeAmount.WellFormed (sha256 : List UInt8 → List UInt8) : TradeAmount → Prop where
  | xrp {drops : String} (h : parseDrops (.str drops) = .ok drops) : WellFormed sha256 (.xrp drops)
  | issued {currency issuer value : String}
      (hcurrency : parseTradeCurrencyCode (.str currency) = some currency)
      (hissuer : checkTradeAccountAddress sha256 issuer = .valid)
      (hvalue : parseIssuedValue (.str value) = .ok value) :
      WellFormed sha256 (.issued currency issuer value)

theorem withoutTrailingZeros_eq_self {digits : List Char} (h : digits.getLast? ≠ some '0') :
    Xrpl.withoutTrailingZeros digits = digits := by
  obtain ⟨zeros,hzeros⟩ := Xrpl.withoutTrailingZeros_append digits
  cases zeros with
  | zero => simpa using hzeros.symm
  | succ zeros =>
    rw [hzeros,replicate_succ',← append_assoc,List.getLast?_concat] at h
    exact absurd rfl h

namespace Spelled

variable {integer fraction : List Char}

theorem plain (h : Spelled integer fraction) :
    Payment.isPlainDecimal (spell integer fraction).toList = true := by
  rw [Payment.isPlainDecimal,h.splitPoint_spell]
  split_ifs with hnil
  · exact h.integer
  · have hall : fraction.all Char.isDigit = true := all_eq_true.2 h.digits
    have hne : fraction.isEmpty = false := by
      rw [← Bool.not_eq_true,List.isEmpty_iff]
      exact hnil
    simp only [h.integer,hne,hall,Bool.not_false,Bool.and_self]

theorem canonicalizeDecimalText_spell (h : Spelled integer fraction)
    (hlength : (codeUnits (spell integer fraction)).length ≤ 256)
    (hdigits : integer.length + fraction.length ≤ 128) :
    Payment.canonicalizeDecimalText (spell integer fraction) = some (spell integer fraction) := by
  have hne : spell integer fraction ≠ "" := by
    intro hempty
    have hplain := h.plain
    rw [hempty] at hplain
    revert hplain
    decide
  have hguard : (decide (spell integer fraction = "") ||
      decide ((codeUnits (spell integer fraction)).length > 256)) = false := by
    simp [hne,hlength]
  have hcanonical := h.isCanonicalDecimal_spell 128
  rw [decide_eq_true hdigits] at hcanonical
  have hkept : (fraction.reverse.dropWhile (· == '0')).reverse = fraction :=
    withoutTrailingZeros_eq_self h.last
  rw [Payment.canonicalizeDecimalText,hguard,h.plain,h.splitPoint_spell]
  by_cases hnil : fraction = []
  · simp only [hnil,if_true,Bool.not_true,Bool.false_eq_true,if_false,
      monetaryDecimalMaximumDigits] at hcanonical ⊢
    rw [hcanonical,if_pos rfl]
  · obtain ⟨c,rest,rfl⟩ := exists_cons_of_ne_nil hnil
    simp only [if_neg hnil,Bool.not_true,Bool.false_eq_true,if_false,hkept, monetaryDecimalMaximumDigits]
    rw [spell,if_neg hnil] at hcanonical ⊢
    rw [hcanonical,if_pos rfl]

end Spelled

theorem parseIssuedValue_canonical {value : String} (h : parseIssuedValue raw = .ok value) :
    parseIssuedValue (.str value) = .ok value := by
  obtain ⟨text,rfl,hspelling⟩ := parseIssuedValue_spelling h
  obtain ⟨integer,fraction,hspelled,hsame,hparse⟩ := parseIssuedValue_plain hspelling
  obtain ⟨rfl,hpos,hrepresentable⟩ := (hparse value).1 h
  rw [hsame] at hpos hrepresentable
  have hzero := (decimalValue_pos_iff hspelled).1 hpos
  have haccepted := (hspelled.accepted_iff hzero).2 hrepresentable
  have hdigits := hspelled.length_le hzero haccepted
  have hchars := isPlainDecimal_chars hspelled.plain
  have hlength : (codeUnits (spell integer fraction)).length ≤ 256 := by
    have hcount := length_codeUnits_decimal hchars
    rw [String.ofList_toList] at hcount
    rw [hcount,spell]
    split_ifs
    · rw [String.toList_ofList]
      omega
    · rw [String.toList_ofList,length_append,length_cons]
      omega
  have hne : spell integer fraction ≠ "" := by
    intro hempty
    have hplain := hspelled.plain
    rw [hempty] at hplain
    revert hplain
    decide
  have htext := refuseQuantityText_ok hne hlength hchars
  have hcanonical := hspelled.canonicalizeDecimalText_spell hlength hdigits
  obtain ⟨hsignificant,hmin,hmax⟩ := haccepted
  simp only [parseIssuedValue,htext,hcanonical,if_neg hzero,hspelled.issuedShape_spell,
    guard_eq_ok,not_lt,not_or]
  exact ⟨hsignificant,⟨hmin,hmax⟩,trivial⟩

theorem parseDrops_canonical {drops : String} (h : parseDrops raw = .ok drops) :
    parseDrops (.str drops) = .ok drops :=
  parseDrops_eq_ok.2 ⟨rfl,(parseDrops_eq_ok.1 h).2⟩

theorem parseTradeAmount_wellFormed {field : String}
    (h : parseTradeAmount sha256 raw field = .ok amount) : amount.WellFormed sha256 := by
  cases amount with
  | xrp drops =>
    obtain ⟨entries,stated,-,-,hdrops⟩ := parseTradeAmount_xrp h
    exact .xrp (parseDrops_canonical hdrops)
  | issued currency issuer value =>
    obtain ⟨entries,stated,-,-,hvalue⟩ := parseTradeAmount_issued h
    have hparts : parseTradeCurrencyCode (.str currency) = some currency ∧
        checkTradeAccountAddress sha256 issuer = .valid := by
      unfold parseTradeAmount at h
      split at h
      · cases h
      · split at h
        · unfold parseXrpAmount at h
          repeat' (split at h)
          all_goals cases h
        · unfold parseIssuedAmount at h
          split at h
          · cases h
          · rename_i currency' hcurrency
            split at h
            · cases h
            · split at h
              · cases h
              · split at h
                · cases h
                · split at h
                  · cases h
                  · rename_i hissuer
                    split at h
                    · cases h
                    · cases h
                      obtain ⟨code,-,hcode⟩ := Option.bind_eq_some_iff.1 hcurrency
                      exact ⟨parseTradeCurrencyCode_canonical hcode,hissuer⟩
                  · cases h
    exact .issued hparts.1 hparts.2 (parseIssuedValue_canonical hvalue)

theorem tradeAssetToken_inj (hleft : left.WellFormed sha256) (hright : right.WellFormed sha256)
    (h : tradeAssetToken (tradeAssetOf left) = tradeAssetToken (tradeAssetOf right)) :
    tradeAssetOf left = tradeAssetOf right := by
  have hpoint : ∀ currency issuer : String, currency ++ "." ++ issuer ≠ "XRP" := by
    intro currency issuer heq
    have hmem : '.' ∈ (currency ++ "." ++ issuer).toList := by simp
    rw [heq] at hmem
    revert hmem
    decide
  have hsplit : ∀ (currency issuer : String), (∀ c ∈ currency.toList, c ≠ '.') →
      splitPoint (currency ++ "." ++ issuer).toList = (currency.toList, some issuer.toList) := by
    intro currency issuer hcurrency
    have htext : (currency ++ "." ++ issuer).toList = currency.toList ++ '.' :: issuer.toList := by
      rw [String.toList_append,String.toList_append,append_assoc]
      rfl
    rw [htext,splitPoint_point _ hcurrency]
  cases hleft with
  | xrp =>
    cases hright with
    | xrp => rfl
    | issued => exact absurd h.symm (hpoint _ _)
  | issued hcurrency =>
    cases hright with
    | xrp => exact absurd h (hpoint _ _)
    | issued hcurrency' =>
      have htexts := congrArg (fun text => splitPoint text.toList) h
      simp only [tradeAssetOf,tradeAssetToken] at htexts
      rw [hsplit _ _ (currency_noPoint hcurrency),hsplit _ _ (currency_noPoint hcurrency'),
        Prod.mk.injEq,Option.some_inj] at htexts
      rw [tradeAssetOf,tradeAssetOf,String.toList_injective htexts.1, String.toList_injective htexts.2]

theorem canonicalTradePair_comm (hleft : left.WellFormed sha256)
    (hright : right.WellFormed sha256) (hne : tradeAssetOf left ≠ tradeAssetOf right) :
    canonicalTradePair (tradeAssetOf left) (tradeAssetOf right) =
      canonicalTradePair (tradeAssetOf right) (tradeAssetOf left) := by
  have htokens : tradeAssetToken (tradeAssetOf left) ≠ tradeAssetToken (tradeAssetOf right) :=
    fun h => hne (tradeAssetToken_inj hleft hright h)
  have hasymm : ∀ {a b : String}, stringLt a b = true → stringLt b a = false := by
    intro a b hab
    by_contra hba
    rw [Bool.not_eq_false] at hba
    have hloop := stringLt_trans hab hba
    rw [stringLt_irrefl] at hloop
    cases hloop
  cases hl : tradeAssetOf left with
  | xrp =>
    cases hr : tradeAssetOf right with
    | xrp => exact absurd (hl.trans hr.symm) hne
    | issued => rfl
  | issued currency issuer =>
    cases hr : tradeAssetOf right with
    | xrp => rfl
    | issued currency' issuer' =>
      rw [hl,hr] at htokens
      simp only [canonicalTradePair]
      rcases stringLt_total htokens with hlt | hlt
      · rw [if_pos hlt,if_neg (by rw [hasymm hlt]; decide)]
      · rw [if_pos hlt,if_neg (by rw [hasymm hlt]; decide)]

theorem canonicalTradePair_cases (left right : TradeAsset) :
    canonicalTradePair left right = ⟨left,right⟩ ∨ canonicalTradePair left right = ⟨right,left⟩ := by
  cases left with
  | xrp => exact .inr rfl
  | issued =>
    cases right with
    | xrp => exact .inl rfl
    | issued =>
      simp only [canonicalTradePair]
      split
      · exact .inl rfl
      · exact .inr rfl

theorem quantity_pos (h : amount.WellFormed sha256) : 0 < (tradeExactQuantity amount).coefficient := by
  cases h with
  | xrp hdrops =>
    obtain ⟨-,n,rfl,hn,-⟩ := parseDrops_eq_ok.1 hdrops
    rw [tradeExactQuantity,String.toList_ofList,Nat.ofDigitChars_ten_toDigits]
    exact hn
  | issued hcurrency hissuer hvalue =>
    rename_i currency issuer value
    obtain ⟨text,hraw,hspelling⟩ := parseIssuedValue_spelling hvalue
    obtain rfl := RawValue.str.inj hraw
    obtain ⟨integer,fraction,-,-,hparse⟩ := parseIssuedValue_plain hspelling
    obtain ⟨-,hpos,-⟩ := (hparse _).1 hvalue
    apply Nat.pos_of_ne_zero
    intro hzero
    have hvalue' : decimalValue value = 0 := by
      rw [decimalValue,ExactDecimal.value]
      rw [tradeExactQuantity] at hzero
      rw [hzero]
      simp
    exact hpos.ne' hvalue'

theorem tradePriceOf_spec {quote base : ExactDecimal} (hquote : 0 < quote.coefficient)
    (hbase : 0 < base.coefficient) :
    ∃ price, tradePriceOf quote base = .ok price ∧ price.value = quote.value / base.value ∧
      price.Lowest := by
  have hnumerator : 0 < quote.coefficient * 10 ^ base.scale :=
    Nat.mul_pos hquote (Nat.pow_pos (by decide))
  have hdenominator : 0 < base.coefficient * 10 ^ quote.scale :=
    Nat.mul_pos hbase (Nat.pow_pos (by decide))
  refine ⟨reduced (quote.coefficient * 10 ^ base.scale) _ hdenominator,?_,?_,reduced_lowest⟩
  · rw [tradePriceOf,dif_neg]
    rintro (hzero | hzero)
    · exact hnumerator.ne' hzero
    · exact hdenominator.ne' hzero
  · have hb : (base.coefficient : ℚ) ≠ 0 := Nat.cast_ne_zero.2 hbase.ne'
    rw [reduced_value,ExactDecimal.value,ExactDecimal.value]
    push_cast
    field_simp

/-- The terms of an order whose base and quote amounts are these. -/
def legsOf (baseAmount quoteAmount : TradeAmount) (side : TradeSide) (limitPrice : TradePrice) :
    OrderLegs where
  base := tradeAssetOf baseAmount
  quote := tradeAssetOf quoteAmount
  side := side
  quantity := formatTradeExactQuantity (tradeExactQuantity baseAmount)
  counterQuantity := formatTradeExactQuantity (tradeExactQuantity quoteAmount)
  limitPrice := limitPrice

theorem orderLegs_sell
    (h : canonicalTradePair (tradeAssetOf gets) (tradeAssetOf pays) = ⟨tradeAssetOf gets,tradeAssetOf pays⟩) :
    orderLegs gets pays = (tradePriceOf (tradeExactQuantity pays) (tradeExactQuantity gets)).map
      (legsOf gets pays .sell) := by
  have hside : tradeAssetsEqual (tradeAssetOf gets) (tradeAssetOf gets) = true := beq_self_eq_true _
  simp only [orderLegs,h,hside,if_true]
  rfl

theorem orderLegs_buy
    (h : canonicalTradePair (tradeAssetOf gets) (tradeAssetOf pays) = ⟨tradeAssetOf pays,tradeAssetOf gets⟩)
    (hne : tradeAssetOf gets ≠ tradeAssetOf pays) :
    orderLegs gets pays = (tradePriceOf (tradeExactQuantity gets) (tradeExactQuantity pays)).map
      (legsOf pays gets .buy) := by
  have hside : tradeAssetsEqual (tradeAssetOf gets) (tradeAssetOf pays) = false := by
    simpa [tradeAssetsEqual] using hne
  simp only [orderLegs,h,hside,Bool.false_eq_true,if_false]
  rfl

/-- What the terms say of the two amounts they were derived from. -/
structure OrderLegs.Of (legs : OrderLegs) (gets pays baseAmount quoteAmount : TradeAmount) : Prop where
  base : tradeAssetOf baseAmount = legs.base
  quote : tradeAssetOf quoteAmount = legs.quote
  side : (legs.side = .sell ∧ gets = baseAmount ∧ pays = quoteAmount) ∨
    (legs.side = .buy ∧ gets = quoteAmount ∧ pays = baseAmount)
  quantity : decimalValue legs.quantity = (tradeExactQuantity baseAmount).value
  counterQuantity : decimalValue legs.counterQuantity = (tradeExactQuantity quoteAmount).value
  price : legs.limitPrice.value =
    (tradeExactQuantity quoteAmount).value / (tradeExactQuantity baseAmount).value
  lowest : legs.limitPrice.Lowest
  positive : 0 < legs.limitPrice.denominator

/-- The terms of two amounts of different assets, and of the same two amounts swapped. -/
theorem order_price_exact : ∀ sha256 rawGets rawPays fieldGets fieldPays gets pays,
      parseTradeAmount sha256 rawGets fieldGets = .ok gets →
      parseTradeAmount sha256 rawPays fieldPays = .ok pays → tradeAssetOf gets ≠ tradeAssetOf pays →
      ∃ legs baseAmount quoteAmount, orderLegs gets pays = .ok legs ∧
        orderLegs pays gets = .ok { legs with side := legs.side.flip } ∧
        legs.Of gets pays baseAmount quoteAmount := by
  intro sha256 rawGets rawPays fieldGets fieldPays gets pays hgets hpays hne
  have hwfGets := parseTradeAmount_wellFormed hgets
  have hwfPays := parseTradeAmount_wellFormed hpays
  have hcomm := canonicalTradePair_comm hwfGets hwfPays hne
  have hformat : ∀ amount, decimalValue (formatTradeExactQuantity (tradeExactQuantity amount)) =
      (tradeExactQuantity amount).value := fun amount => (format_spec _).2
  rcases canonicalTradePair_cases (tradeAssetOf gets) (tradeAssetOf pays) with hpair | hpair
  · obtain ⟨price,hprice,hvalue,hlowest⟩ :=
      tradePriceOf_spec (quantity_pos hwfPays) (quantity_pos hwfGets)
    refine ⟨legsOf gets pays .sell price,gets,pays,?_,?_,?_⟩
    · rw [orderLegs_sell hpair,hprice]
      rfl
    · rw [orderLegs_buy (hcomm.symm.trans hpair) hne.symm,hprice]
      rfl
    · exact ⟨rfl,rfl,.inl ⟨rfl,rfl,rfl⟩,hformat _,hformat _,hvalue,hlowest, price.denominator_pos⟩
  · obtain ⟨price,hprice,hvalue,hlowest⟩ :=
      tradePriceOf_spec (quantity_pos hwfGets) (quantity_pos hwfPays)
    refine ⟨legsOf pays gets .buy price,pays,gets,?_,?_,?_⟩
    · rw [orderLegs_buy hpair hne,hprice]
      rfl
    · rw [orderLegs_sell (hcomm.symm.trans hpair),hprice]
      rfl
    · exact ⟨rfl,rfl,.inr ⟨rfl,rfl,rfl⟩,hformat _,hformat _,hvalue,hlowest, price.denominator_pos⟩

theorem sampleOrder_price : ∃ legs baseAmount quoteAmount,
      orderLegs (.xrp "1500000") (.issued "USD" sampleAddress "0.05") = .ok legs ∧
      orderLegs (.issued "USD" sampleAddress "0.05") (.xrp "1500000") =
        .ok { legs with side := legs.side.flip } ∧
      legs.Of (.xrp "1500000") (.issued "USD" sampleAddress "0.05") baseAmount quoteAmount :=
  order_price_exact _ _ _ _ _ _ _ sampleDrops_parsed sampleIssued_parsed (by decide)

end Frontera.Trade
