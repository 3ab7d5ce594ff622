import ApexEdge.Domain.Pricing
import Mathlib.Data.List.Sort
import Mathlib.Data.Nat.Pairing

/-! The promotion engine: promotions by priority, a discount for each, allocated
to the lines it applies to. Later promotions see the totals that earlier ones
have left. -/

namespace ApexEdge.Domain
open Payment

inductive PromotionType where
  | percentageOff (percentBps : Nat)
  | fixedAmountOff (amountCents : Nat)
  | buyXGetY (buyQuantity getQuantity : Nat)
  | priceOverride (priceCents : Nat)
  deriving DecidableEq, Repr

inductive PromoCondition where
  | minBasketAmount (amountCents : Nat)
  | itemInBasket (itemId : Uuid) (minQuantity : Nat)
  | categoryInBasket (categoryId : Uuid) (minQuantity : Nat)
  deriving DecidableEq, Repr

inductive PromoAction where
  /-- Only the first `maxQuantity` units get the discount. -/
  | applyToItem (itemId : Uuid) (maxQuantity : Option Nat)
  | applyToCategory (categoryId : Uuid) (maxQuantity : Option Nat)
  | applyToBasket
  deriving DecidableEq, Repr

structure Promotion where
  id : Uuid
  code : Option String
  promoType : PromotionType
  priority : Nat
  validFrom : Timestamp
  validUntil : Option Timestamp
  conditions : List PromoCondition
  actions : List PromoAction
  deriving DecidableEq, Repr

def u32Max : Nat := 2 ^ 32 - 1

namespace Promotions

/-- What the lines cost before and after the discounts so far, by line id. -/
structure LineAmounts where
  discounts : Uuid → Nat
  totals : Uuid → Nat

def LineAmounts.ofLines (lines : List CartLineItem) : LineAmounts :=
  { discounts := fun _ => 0
    totals := fun id => ((lines.reverse.find? (·.lineId = id)).map CartLineItem.lineTotalCents).getD 0 }

def LineAmounts.discount (amounts : LineAmounts) (lineId : Uuid) (cents : Nat) : LineAmounts :=
  { discounts := fun id => if id = lineId then wrap64 (amounts.discounts id + cents) else amounts.discounts id
    totals := fun id => if id = lineId then amounts.totals id - cents else amounts.totals id }

def quantityOf (counts : CartLineItem → Bool) (lines : List CartLineItem) : Nat :=
  wrap32 ((lines.filter counts).map CartLineItem.quantity).sum

def conditionMet (lines : List CartLineItem) (subtotalCents : Nat) (categoryByItem : Uuid → Uuid)
    (condition : PromoCondition) : Bool :=
  match condition with
  | .minBasketAmount amountCents => amountCents ≤ subtotalCents
  | .itemInBasket itemId minQuantity => minQuantity ≤ quantityOf (·.itemId = itemId) lines
  | .categoryInBasket categoryId minQuantity =>
    minQuantity ≤ quantityOf (fun line => categoryByItem line.itemId = categoryId) lines

def conditionsMet (lines : List CartLineItem) (subtotalCents : Nat) (conditions : List PromoCondition)
    (categoryByItem : Uuid → Uuid) : Bool :=
  conditions.all (conditionMet lines subtotalCents categoryByItem)

/-- What a promotion is aimed at: an item or a category, with its cap on units. -/
inductive Target where
  | item (itemId : Uuid)
  | category (categoryId : Uuid)
  deriving DecidableEq, Repr

def Target.ofAction (action : PromoAction) : Option (Target × Option Nat) :=
  match action with
  | .applyToItem itemId maxQuantity => some (.item itemId, maxQuantity)
  | .applyToCategory categoryId maxQuantity => some (.category categoryId, maxQuantity)
  | .applyToBasket => none

def Target.minQuantity (target : Target) (condition : PromoCondition) : Option Nat :=
  match target, condition with
  | .item itemId, .itemInBasket wanted minQuantity => if wanted = itemId then some minQuantity else none
  | .category categoryId, .categoryInBasket wanted minQuantity =>
    if wanted = categoryId then some minQuantity else none
  | _, _ => none

def Target.matches (target : Target) (categoryByItem : Uuid → Uuid) (line : CartLineItem) : Bool :=
  match target with
  | .item itemId => line.itemId = itemId
  | .category categoryId => categoryByItem line.itemId = categoryId

/-- The cap on discounted units, repeated for every full set of trigger units. -/
def effectiveMaxUnits (lines : List CartLineItem) (actions : List PromoAction) (conditions : List PromoCondition)
    (categoryByItem : Uuid → Uuid) : Option Nat := do
  let (target, actionMaxQuantity) ← actions.findSome? Target.ofAction
  let conditionMinQuantity := conditions.findSome? target.minQuantity
  let baseMaxUnits ← actionMaxQuantity.or conditionMinQuantity
  let repeatGroups := match conditionMinQuantity with
    | none => 1
    | some triggerUnits =>
      if triggerUnits = 0 then 1
      else max (quantityOf (target.matches categoryByItem) lines / triggerUnits) 1
  return min (baseMaxUnits * repeatGroups) u32Max

def actionAppliesToLine (line : CartLineItem) (actions : List PromoAction) (categoryByItem : Uuid → Uuid) : Bool :=
  actions.isEmpty ∨ actions.any fun
    | .applyToItem itemId _ => itemId = line.itemId
    | .applyToCategory categoryId _ => categoryId = categoryByItem line.itemId
    | .applyToBasket => true

def textRank (text : List Char) : Nat :=
  match text with
  | [] => 0
  | char :: text => Nat.pair char.toNat (textRank text) + 1

/-- Ids are compared as numbers, as random ones are. Where an id stands that was derived
from a name is not known, only that no two ids are equal. -/
def rank (id : Uuid) : Nat :=
  match id with
  | .random bits => 2 * bits
  | .named envelopeKey tenderId operation =>
    2 * Nat.pair (Nat.pair (rank envelopeKey) (rank tenderId)) (textRank operation.toList) + 1

theorem textRank_injective : Function.Injective textRank := by
  intro first
  induction first with
  | nil =>
    intro second same
    cases second with
    | nil => rfl
    | cons => simp [textRank] at same
  | cons char text ih =>
    intro second same
    cases second with
    | nil => simp [textRank] at same
    | cons other rest =>
      simp only [textRank, Nat.add_right_cancel_iff, Nat.pair_eq_pair] at same
      rw [Char.toNat_inj.mp same.1, ih same.2]

theorem rank_injective : Function.Injective rank := by
  intro first
  induction first with
  | random bits =>
    intro second same
    cases second with
    | random others =>
      simp only [rank] at same
      rw [show bits = others by omega]
    | named _ _ _ =>
      simp only [rank] at same
      omega
  | named envelopeKey tenderId operation keys tenders =>
    intro second same
    cases second with
    | random _ =>
      simp only [rank] at same
      omega
    | named otherKey otherTender otherOperation =>
      simp only [rank] at same
      have pairs : Nat.pair (Nat.pair (rank envelopeKey) (rank tenderId)) (textRank operation.toList) =
        Nat.pair (Nat.pair (rank otherKey) (rank otherTender)) (textRank otherOperation.toList) := by omega
      simp only [Nat.pair_eq_pair] at pairs
      rw [keys pairs.1.1, tenders pairs.1.2, String.toList_injective (textRank_injective pairs.2)]
/-- Give out at most `remaining` units, to lines that still cost something. -/
def capUnits (totals : Uuid → Nat) (remaining : Nat) (lines : List CartLineItem) : List (CartLineItem × Nat) :=
  match lines with
  | [] => []
  | line :: lines =>
    if totals line.lineId = 0 then capUnits totals remaining lines
    else
      let eligible := min line.quantity remaining
      (line, eligible) ::
        if remaining - eligible = 0 then [] else capUnits totals (remaining - eligible) lines

def applicableLinesWithCap (lines : List CartLineItem) (totals : Uuid → Nat) (actions : List PromoAction)
    (maxUnits : Option Nat) (categoryByItem : Uuid → Uuid) : List (CartLineItem × Nat) :=
  capUnits totals (maxUnits.getD u32Max)
    ((lines.filter (actionAppliesToLine · actions categoryByItem)).insertionSort
      fun first second => rank first.lineId ≤ rank second.lineId)

/-- The part of a line's total that its eligible units make up. -/
def eligibleCents (totals : Uuid → Nat) (capped : CartLineItem × Nat) : Nat :=
  if capped.1.quantity = 0 then 0 else wrap64 (totals capped.1.lineId * capped.2) / capped.1.quantity

/-- The price of one eligible unit, where there is one. -/
def eligibleUnit (totals : Uuid → Nat) (capped : CartLineItem × Nat) : Option (Nat × Nat) :=
  if capped.2 = 0 ∨ capped.1.quantity = 0 ∨ totals capped.1.lineId = 0 then none
  else some (saturatingMul (totals capped.1.lineId) capped.2 / capped.1.quantity / capped.2, capped.2)

/-- Take the free units from the cheapest ones. -/
def takeFree (freeUnits : Nat) (units : List (Nat × Nat)) : Nat :=
  match units with
  | [] => 0
  | (unitPrice, qty) :: units =>
    if freeUnits = 0 then 0
    else
      let take := min qty freeUnits
      saturatingAdd (saturatingMul unitPrice take) (takeFree (freeUnits - take) units)

def bundleDiscount (totals : Uuid → Nat) (capped : List (CartLineItem × Nat)) (buyQuantity getQuantity : Nat) : Nat :=
  let bundleSize := min (buyQuantity + getQuantity) u32Max
  let units := capped.filterMap (eligibleUnit totals)
  let totalUnits := wrap32 (units.map Prod.snd).sum
  if bundleSize = 0 ∨ getQuantity = 0 ∨ totalUnits < bundleSize then 0
  else takeFree (min (totalUnits / bundleSize * getQuantity) u32Max)
    (units.insertionSort fun first second => first.1 ≤ second.1)

def overrideDiscount (totals : Uuid → Nat) (priceCents : Nat) (capped : CartLineItem × Nat) : Nat :=
  match eligibleUnit totals capped with
  | none => 0
  | some (currentUnit, qty) => if currentUnit ≤ priceCents then 0 else saturatingMul (currentUnit - priceCents) qty

def computePromoDiscount (promoType : PromotionType) (lines : List CartLineItem) (totals : Uuid → Nat)
    (actions : List PromoAction) (conditions : List PromoCondition) (categoryByItem : Uuid → Uuid) : Nat :=
  let maxUnits := effectiveMaxUnits lines actions conditions categoryByItem
  let capped := applicableLinesWithCap lines totals actions maxUnits categoryByItem
  let applicableTotal := wrap64 (capped.map (eligibleCents totals)).sum
  if applicableTotal = 0 then 0
  else
    match promoType with
    | .percentageOff percentBps => wrap64 (applicableTotal * percentBps) / 10000
    | .fixedAmountOff amountCents => min amountCents applicableTotal
    | .buyXGetY buyQuantity getQuantity => min (bundleDiscount totals capped buyQuantity getQuantity) applicableTotal
    | .priceOverride priceCents => min (wrap64 (capped.map (overrideDiscount totals priceCents)).sum) applicableTotal

/-- Allocate in proportion to what is eligible; the last line takes what remains. -/
def allocate (totalDiscount eligibleTotal remaining : Nat) (capped : List (CartLineItem × Nat))
    (amounts : LineAmounts) : LineAmounts :=
  match capped with
  | [] => amounts
  | first :: rest =>
    let eligible := eligibleCents amounts.totals first
    let discount :=
      if eligible = 0 then 0
      else if rest.isEmpty then remaining
      else min (min (wrap64 (totalDiscount * eligible) / eligibleTotal) remaining) eligible
    allocate totalDiscount eligibleTotal (remaining - discount) rest (amounts.discount first.1.lineId discount)

def allocateDiscountToLines (actions : List PromoAction) (lines : List CartLineItem) (amounts : LineAmounts)
    (totalDiscount : Nat) (conditions : List PromoCondition) (categoryByItem : Uuid → Uuid) : LineAmounts :=
  let maxUnits := effectiveMaxUnits lines actions conditions categoryByItem
  let capped := applicableLinesWithCap lines amounts.totals actions maxUnits categoryByItem
  let eligibleTotal := wrap64 (capped.map (eligibleCents amounts.totals)).sum
  if eligibleTotal = 0 then amounts else allocate totalDiscount eligibleTotal totalDiscount capped amounts

def isOpen (now : Timestamp) (promo : Promotion) : Bool :=
  promo.validFrom ≤ now ∧ promo.validUntil.all (now ≤ ·)

/-- Apply one promotion; its id is noted when it earned a discount. -/
def applyPromo (lines : List CartLineItem) (categoryByItem : Uuid → Uuid) (subtotalCents : Nat) (now : Timestamp)
    (progress : LineAmounts × List Uuid) (promo : Promotion) : LineAmounts × List Uuid :=
  let (amounts, applied) := progress
  if isOpen now promo ∧ conditionsMet lines subtotalCents promo.conditions categoryByItem then
    let discount := computePromoDiscount promo.promoType lines amounts.totals promo.actions promo.conditions
      categoryByItem
    (allocateDiscountToLines promo.actions lines amounts discount promo.conditions categoryByItem,
      if 0 < discount then applied ++ [promo.id] else applied)
  else (amounts, applied)

def byPriority (promos : List Promotion) : List Promotion :=
  promos.insertionSort fun first second => second.priority ≤ first.priority

def applyPromosWithAttribution (lines : List CartLineItem) (categoryByItem : Uuid → Uuid)
    (promos : List Promotion) (subtotalCents : Nat) (now : Timestamp) : List LinePriceResult × List Uuid :=
  let (amounts, applied) := (byPriority promos).foldl (applyPromo lines categoryByItem subtotalCents now)
    (LineAmounts.ofLines lines, [])
  (lines.map fun line =>
    { lineId := line.lineId, unitPriceCents := line.unitPriceCents, lineTotalCents := line.lineTotalCents
      discountCents := amounts.discounts line.lineId, taxCents := line.taxCents
      taxInclusive := line.taxInclusive }, applied)

end Promotions
end ApexEdge.Domain
