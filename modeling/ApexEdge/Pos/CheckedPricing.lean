import ApexEdge.Library.Checked
import ApexEdge.Pos.Pricing

/-! The pricing pass as a build that checks its arithmetic runs it. Each function is the one
of the same name in the other build, but ends where a plain operator leaves its type; the
saturating operators stay as they are. -/

namespace ApexEdge.Pos.CheckedPricing
open Library Payment Domain Storage Contracts Promotions

def u64 (result : Nat) : Option Nat := Checked.below (2 ^ 64) result

def sum64 (terms : List Nat) : Option Nat := Checked.sum (2 ^ 64) 0 terms

def sum32 (terms : List Nat) : Option Nat := Checked.sum (2 ^ 32) 0 terms

section Promos
variable (lines : List CartLineItem) (categoryByItem : Uuid → Uuid)

def quantityOf (counts : CartLineItem → Bool) : Option Nat := sum32 ((lines.filter counts).map CartLineItem.quantity)

def conditionMet (subtotalCents : Nat) (condition : PromoCondition) : Option Bool :=
  match condition with
  | .minBasketAmount amountCents => some (amountCents ≤ subtotalCents)
  | .itemInBasket itemId minQuantity => (quantityOf lines (·.itemId = itemId)).map (minQuantity ≤ ·)
  | .categoryInBasket categoryId minQuantity =>
    (quantityOf lines fun line => categoryByItem line.itemId = categoryId).map (minQuantity ≤ ·)

/-- The first condition that is not met ends the check. -/
def conditionsMet (subtotalCents : Nat) (conditions : List PromoCondition) : Option Bool :=
  match conditions with
  | [] => some true
  | condition :: conditions => (conditionMet lines categoryByItem subtotalCents condition).bind fun met =>
    if met then conditionsMet subtotalCents conditions else some false

/-- How often the cap on units is repeated. -/
def repeatGroups (target : Target) (conditionMinQuantity : Option Nat) : Option Nat :=
  match conditionMinQuantity with
  | none => some 1
  | some triggerUnits => (quantityOf lines (target.matches categoryByItem)).map fun matchingUnits =>
    if triggerUnits = 0 then 1 else max (matchingUnits / triggerUnits) 1

def effectiveMaxUnits (actions : List PromoAction) (conditions : List PromoCondition) : Option (Option Nat) :=
  match actions.findSome? Target.ofAction with
  | none => some none
  | some (target, actionMaxQuantity) =>
    let conditionMinQuantity := conditions.findSome? target.minQuantity
    match actionMaxQuantity.or conditionMinQuantity with
    | none => some none
    | some baseMaxUnits => (repeatGroups lines categoryByItem target conditionMinQuantity).map fun groups =>
      some (min (baseMaxUnits * groups) u32Max)

end Promos

section Amounts
variable (totals : Uuid → Nat)

def eligibleCents (capped : CartLineItem × Nat) : Option Nat :=
  if capped.1.quantity = 0 then some 0
  else (u64 (totals capped.1.lineId * capped.2)).map (· / capped.1.quantity)

def eligibleTotal (capped : List (CartLineItem × Nat)) : Option Nat := (capped.mapM (eligibleCents totals)).bind sum64

def bundleDiscount (capped : List (CartLineItem × Nat)) (buyQuantity getQuantity : Nat) : Option Nat :=
  let bundleSize := min (buyQuantity + getQuantity) u32Max
  let units := capped.filterMap (eligibleUnit totals)
  if bundleSize = 0 ∨ getQuantity = 0 then some 0
  else (sum32 (units.map Prod.snd)).map fun totalUnits =>
    if totalUnits < bundleSize then 0
    else takeFree (min (totalUnits / bundleSize * getQuantity) u32Max)
      (units.insertionSort fun first second => first.1 ≤ second.1)

/-- What a promotion takes off lines of which this much is eligible. -/
def typeDiscount (promoType : PromotionType) (capped : List (CartLineItem × Nat)) (applicableTotal : Nat) :
    Option Nat :=
  match promoType with
  | .percentageOff percentBps => (u64 (applicableTotal * percentBps)).map (· / 10000)
  | .fixedAmountOff amountCents => some (min amountCents applicableTotal)
  | .buyXGetY buyQuantity getQuantity =>
    (bundleDiscount totals capped buyQuantity getQuantity).map (min · applicableTotal)
  | .priceOverride priceCents =>
    (sum64 (capped.map (overrideDiscount totals priceCents))).map (min · applicableTotal)

end Amounts

def computePromoDiscount (promoType : PromotionType) (lines : List CartLineItem) (totals : Uuid → Nat)
    (actions : List PromoAction) (conditions : List PromoCondition) (categoryByItem : Uuid → Uuid) : Option Nat := do
  let maxUnits ← effectiveMaxUnits lines categoryByItem actions conditions
  let capped := applicableLinesWithCap lines totals actions maxUnits categoryByItem
  let applicableTotal ← eligibleTotal totals capped
  if applicableTotal = 0 then some 0 else typeDiscount totals promoType capped applicableTotal

def discount (amounts : LineAmounts) (lineId : Uuid) (cents : Nat) : Option LineAmounts :=
  (u64 (amounts.discounts lineId + cents)).map fun discounted =>
    { discounts := fun id => if id = lineId then discounted else amounts.discounts id
      totals := fun id => if id = lineId then amounts.totals id - cents else amounts.totals id }

/-- What one line is given of a discount. -/
def lineShare (totalDiscount eligibleTotal remaining eligible : Nat) (isLast : Bool) : Option Nat :=
  if eligible = 0 then some 0
  else if isLast then some remaining
  else (u64 (totalDiscount * eligible)).map fun scaled => min (min (scaled / eligibleTotal) remaining) eligible

def allocate (totalDiscount eligibleTotal remaining : Nat) (capped : List (CartLineItem × Nat))
    (amounts : LineAmounts) : Option LineAmounts :=
  match capped with
  | [] => some amounts
  | first :: rest =>
    (eligibleCents amounts.totals first).bind fun eligible =>
      (lineShare totalDiscount eligibleTotal remaining eligible rest.isEmpty).bind fun share =>
        (discount amounts first.1.lineId share).bind fun amounts =>
          allocate totalDiscount eligibleTotal (remaining - share) rest amounts

def allocateDiscountToLines (actions : List PromoAction) (lines : List CartLineItem) (amounts : LineAmounts)
    (totalDiscount : Nat) (conditions : List PromoCondition) (categoryByItem : Uuid → Uuid) : Option LineAmounts := do
  let maxUnits ← effectiveMaxUnits lines categoryByItem actions conditions
  let capped := applicableLinesWithCap lines amounts.totals actions maxUnits categoryByItem
  let eligible ← eligibleTotal amounts.totals capped
  if eligible = 0 then some amounts else allocate totalDiscount eligible totalDiscount capped amounts

section Pass
variable (lines : List CartLineItem) (categoryByItem : Uuid → Uuid) (subtotalCents : Nat) (now : Timestamp)

def grantPromo (progress : LineAmounts × List Uuid) (promo : Promotion) : Option (LineAmounts × List Uuid) :=
  let (amounts, applied) := progress
  (computePromoDiscount promo.promoType lines amounts.totals promo.actions promo.conditions categoryByItem).bind
    fun discount => (allocateDiscountToLines promo.actions lines amounts discount promo.conditions categoryByItem).map
      fun amounts => (amounts, if 0 < discount then applied ++ [promo.id] else applied)

def applyPromo (progress : LineAmounts × List Uuid) (promo : Promotion) : Option (LineAmounts × List Uuid) :=
  if isOpen now promo then
    (conditionsMet lines categoryByItem subtotalCents promo.conditions).bind fun met =>
      if met then grantPromo lines categoryByItem progress promo else some progress
  else some progress

def applyPromosWithAttribution (promos : List Promotion) : Option (List LinePriceResult × List Uuid) :=
  ((byPriority promos).foldlM (applyPromo lines categoryByItem subtotalCents now) (LineAmounts.ofLines lines, [])).map
    fun (amounts, applied) => (lines.map fun line =>
      { lineId := line.lineId, unitPriceCents := line.unitPriceCents, lineTotalCents := line.lineTotalCents
        discountCents := amounts.discounts line.lineId, taxCents := line.taxCents
        taxInclusive := line.taxInclusive }, applied)

end Pass

def applyTax (amountCents rateBps : Nat) (inclusive : Bool) : Option Nat :=
  if inclusive then do
    let scaled ← u64 (amountCents * 10000)
    let divisor ← u64 (10000 + rateBps)
    Checked.sub amountCents (scaled / divisor)
  else (u64 (amountCents * rateBps)).map (· / 10000)

def taxForLine (lineAmountCents : Nat) (taxCategoryId : Uuid) (rules : List TaxRule) : Option LineTax :=
  match rules.find? (·.taxCategoryId = taxCategoryId) with
  | some rule => (applyTax lineAmountCents rule.rateBps rule.inclusive).map (⟨·, rule.inclusive⟩)
  | none => some ⟨0, false⟩

/-- The tax on the results one after another. A result of an unknown line ends the pass with an error. -/
def applyTaxToPricingResults (results : List LinePriceResult) (cartLines : List CartLineItem) (tables : PriceTables) :
    Option (Except (List PosError) (List LinePriceResult)) :=
  match results with
  | [] => some (.ok [])
  | result :: results =>
    match cartLines.find? (·.lineId = result.lineId) with
    | none => some (.error pricingInternal)
    | some line =>
      (taxForLine (result.lineTotalCents - result.discountCents) (tables.categoryByItem line.itemId) tables.rules).bind
        fun tax => (applyTaxToPricingResults results cartLines tables).map fun taxed =>
          taxed.map ({ result with taxCents := tax.taxCents, taxInclusive := tax.inclusive } :: ·)

def spreadDiscount (amountCents totalNet remaining : Nat) (lines : List CartLineItem) : Option (List CartLineItem) :=
  match lines with
  | [] => some []
  | line :: lines =>
    (if lines.isEmpty then some remaining
      else (u64 (amountCents * lineNet line)).map fun scaled => min (scaled / totalNet) remaining).bind fun share =>
        (spreadDiscount amountCents totalNet (remaining - min share (lineNet line)) lines).map
          (addDiscount share line :: ·)

def applyManualDiscount (lines : List CartLineItem) (discount : ManualDiscountInfo) : Option (List CartLineItem) :=
  if discount.amountCents = 0 then some lines
  else
    match discount.lineId with
    | some lineId => some (discountLine lineId discount.amountCents lines)
    | none => (sum64 (lines.map lineNet)).bind fun totalNet =>
      if totalNet = 0 then some lines else spreadDiscount discount.amountCents totalNet discount.amountCents lines

def taxLine (tables : PriceTables) (line : CartLineItem) : Option CartLineItem :=
  (taxForLine (lineNet line) (tables.categoryByItem line.itemId) tables.rules).map fun tax =>
    { line with taxCents := tax.taxCents, taxInclusive := tax.inclusive }

def applyManualDiscountsToLines (tables : PriceTables) (cart : Cart) : Option Cart :=
  if cart.manualDiscounts.isEmpty then some cart
  else do
    let discounted ← cart.manualDiscounts.foldlM applyManualDiscount cart.lines
    let taxed ← discounted.mapM (taxLine tables)
    some { cart with lines := taxed }

def applyCouponDiscounts (tables : PriceTables) (cart : Cart) : Option Cart :=
  if cart.appliedCoupons.isEmpty then some cart
  else (sum64 (cart.lines.map lineNet)).map fun basketNetCents =>
    { cart with appliedCoupons := priceCoupons tables basketNetCents cart.appliedCoupons }

def runPricingPipeline (tables : PriceTables) (cart : Cart) : Option (Except (List PosError) Cart) := do
  let subtotalCents ← sum64 (cart.lines.map CartLineItem.lineTotalCents)
  let (results, appliedPromoIds) ← applyPromosWithAttribution cart.lines tables.categoryByItem subtotalCents tables.now
    (promosToApply tables.promos cart.appliedPromoIds)
  match ← applyTaxToPricingResults results cart.lines tables with
  | .error errors => some (.error errors)
  | .ok results =>
    let appliedAny := results.any (0 < ·.discountCents)
    let priced := { cart with appliedPromoIds := appliedPromoIds }.applyPricing results tables.now
    let manual ← applyManualDiscountsToLines tables priced
    let discounted ← applyCouponDiscounts tables manual
    if appliedAny ∨ !discounted.manualDiscounts.isEmpty ∨ discounted.appliedCoupons.any (0 < ·.discountCents) then
      some (.ok (discounted.setDiscounted tables.now))
    else some (.ok discounted)

end ApexEdge.Pos.CheckedPricing
