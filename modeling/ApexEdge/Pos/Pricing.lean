import ApexEdge.Contracts.Pos
import ApexEdge.Domain.Promotions

/-! The pricing pipeline: promotions, manual discounts, tax, coupons. It is a
function of the cart and of what was read from the synced tables. -/

namespace ApexEdge.Pos
open Payment Domain Storage Contracts Promotions

/-- What pricing reads: tax rules, promotions, tax categories, and the time. -/
structure PriceTables where
  rules : List TaxRule
  promos : List Promotion
  /-- The tax category of an item, where the catalog could tell it. -/
  itemToTaxCategory : List (Uuid × Uuid)
  now : Timestamp
  deriving DecidableEq, Repr

/-- An item without a known category has the nil one. -/
def PriceTables.categoryByItem (tables : PriceTables) (itemId : Uuid) : Uuid :=
  (tables.itemToTaxCategory.lookup itemId).getD Uuid.nil

def pricingInternal : List PosError :=
  [⟨"PRICING_INTERNAL", "Pricing result references an unknown line", none⟩]

/-- Tax on one pricing result, whose line has to be in the cart. -/
def taxResult (cartLines : List CartLineItem) (tables : PriceTables) (result : LinePriceResult) :
    Except (List PosError) LinePriceResult :=
  match cartLines.find? (·.lineId = result.lineId) with
  | none => .error pricingInternal
  | some line =>
    let tax := taxForLine (result.lineTotalCents - result.discountCents) (tables.categoryByItem line.itemId) tables.rules
    .ok { result with taxCents := tax.taxCents, taxInclusive := tax.inclusive }

def applyTaxToPricingResults (results : List LinePriceResult) (cartLines : List CartLineItem) (tables : PriceTables) :
    Except (List PosError) (List LinePriceResult) :=
  results.mapM (taxResult cartLines tables)

/-- What a line costs after its discounts. -/
def lineNet (line : CartLineItem) : Nat := line.lineTotalCents - line.discountCents

def basketNet (lines : List CartLineItem) : Nat := wrap64 (lines.map lineNet).sum

/-- A discount takes no more off a line than the line still costs. -/
def addDiscount (cents : Nat) (line : CartLineItem) : CartLineItem :=
  { line with discountCents := saturatingAdd line.discountCents (min cents (lineNet line)) }

/-- A line discount goes to the first line with the id, if there is one. -/
def discountLine (lineId : Uuid) (amountCents : Nat) (lines : List CartLineItem) : List CartLineItem :=
  match lines with
  | [] => []
  | line :: lines =>
    if line.lineId = lineId then addDiscount amountCents line :: lines
    else line :: discountLine lineId amountCents lines

/-- A cart discount is spread in proportion; the last line takes what remains. -/
def spreadDiscount (amountCents totalNet remaining : Nat) (lines : List CartLineItem) : List CartLineItem :=
  match lines with
  | [] => []
  | line :: lines =>
    let share := if lines.isEmpty then remaining else min (wrap64 (amountCents * lineNet line) / totalNet) remaining
    addDiscount share line ::
      spreadDiscount amountCents totalNet (remaining - min share (lineNet line)) lines

def applyManualDiscount (lines : List CartLineItem) (discount : ManualDiscountInfo) : List CartLineItem :=
  if discount.amountCents = 0 then lines
  else
    match discount.lineId with
    | some lineId => discountLine lineId discount.amountCents lines
    | none =>
      if basketNet lines = 0 then lines
      else spreadDiscount discount.amountCents (basketNet lines) discount.amountCents lines

def taxLine (tables : PriceTables) (line : CartLineItem) : CartLineItem :=
  let tax := taxForLine (lineNet line) (tables.categoryByItem line.itemId) tables.rules
  { line with taxCents := tax.taxCents, taxInclusive := tax.inclusive }

/-- Add the stored manual discounts to the lines and tax them again. -/
def applyManualDiscountsToLines (tables : PriceTables) (cart : Cart) : Cart :=
  if cart.manualDiscounts.isEmpty then cart
  else { cart with lines := (cart.manualDiscounts.foldl applyManualDiscount cart.lines).map (taxLine tables) }

def asciiLower (text : String) : String := String.ofList (text.toList.map Char.toLower)

def eqIgnoreAsciiCase (first second : String) : Bool := asciiLower first = asciiLower second

def couponDiscountFromPromo (promoType : PromotionType) (basketNetCents : Nat) : Nat :=
  match promoType with
  | .percentageOff percentBps => saturatingMul basketNetCents percentBps / 10000
  | .fixedAmountOff amountCents => min amountCents basketNetCents
  | .buyXGetY .. | .priceOverride _ => 0

/-- A coupon is worth what its promotion is, if that one is open, up to the basket. -/
def priceCoupon (tables : PriceTables) (basketNetCents : Nat) (coupon : AppliedCouponRecord) : AppliedCouponRecord :=
  match tables.promos.find? fun promo => promo.code.any (eqIgnoreAsciiCase · coupon.code) with
  | none => { coupon with discountCents := 0 }
  | some promo =>
    if isOpen tables.now promo then
      { coupon with
        couponId := promo.id
        discountCents := min (couponDiscountFromPromo promo.promoType basketNetCents) basketNetCents }
    else { coupon with discountCents := 0 }

/-- Each coupon sees the basket that the ones before it have left. -/
def priceCoupons (tables : PriceTables) (basketNetCents : Nat) (coupons : List AppliedCouponRecord) :
    List AppliedCouponRecord :=
  match coupons with
  | [] => []
  | coupon :: coupons =>
    let priced := priceCoupon tables basketNetCents coupon
    priced :: priceCoupons tables (basketNetCents - priced.discountCents) coupons

def applyCouponDiscounts (tables : PriceTables) (cart : Cart) : Cart :=
  { cart with appliedCoupons := priceCoupons tables (basketNet cart.lines) cart.appliedCoupons }

/-- Automatic promotions, and the requested ones among the others. -/
def promosToApply (promos : List Promotion) (requestedManualPromoIds : List Uuid) : List Promotion :=
  let automaticPromos := promos.filter (·.code.isNone)
  automaticPromos ++ promos.filter fun promo =>
    promo.id ∈ requestedManualPromoIds ∧ promo.id ∉ automaticPromos.map Promotion.id

/-- Price the whole cart. What the promotions were asked for is replaced by what
was granted. -/
def runPricingPipeline (tables : PriceTables) (cart : Cart) : Except (List PosError) Cart := do
  let (results, appliedPromoIds) := applyPromosWithAttribution cart.lines tables.categoryByItem
    (promosToApply tables.promos cart.appliedPromoIds) cart.subtotalCents tables.now
  let results ← applyTaxToPricingResults results cart.lines tables
  let appliedAny := results.any (0 < ·.discountCents)
  let priced := { cart with appliedPromoIds := appliedPromoIds }.applyPricing results tables.now
  let discounted := applyCouponDiscounts tables (applyManualDiscountsToLines tables priced)
  if appliedAny ∨ !discounted.manualDiscounts.isEmpty ∨ discounted.appliedCoupons.any (0 < ·.discountCents) then
    return discounted.setDiscounted tables.now
  else return discounted

end ApexEdge.Pos
