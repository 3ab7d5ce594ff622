import ApexEdge.Domain.Cart

/-! Coupon definitions and who may redeem them: the valid window and the
redemption limits. -/

namespace ApexEdge.Domain
open Payment

structure CouponDefinition where
  id : Uuid
  code : String
  promoId : Uuid
  maxRedemptionsTotal : Option Nat
  maxRedemptionsPerCustomer : Option Nat
  validFrom : Timestamp
  validUntil : Option Timestamp
  deriving DecidableEq, Repr

structure CouponEligibility where
  valid : Bool
  couponId : Uuid
  code : String
  discountCents : Nat
  reason : Option String
  /-- Basket net after promotions. -/
  basketNetCents : Nat
  deriving DecidableEq, Repr

namespace CouponDefinition

/-- Why a coupon cannot be redeemed now. -/
def refusal (coupon : CouponDefinition) (redemptionCountTotal : Nat) (redemptionCountCustomer : Option Nat)
    (now : Timestamp) : Option String :=
  if now < coupon.validFrom then some "coupon not yet valid"
  else if coupon.validUntil.any (· < now) then some "coupon expired"
  else if coupon.maxRedemptionsTotal.any (· ≤ redemptionCountTotal) then some "coupon redemption limit reached"
  else if coupon.maxRedemptionsPerCustomer.any fun limit => redemptionCountCustomer.any (limit ≤ ·) then
    some "per-customer limit reached"
  else none

def checkEligibility (coupon : CouponDefinition) (redemptionCountTotal : Nat) (redemptionCountCustomer : Option Nat)
    (basketSubtotalCents promoDiscountCents : Nat) (now : Timestamp) : CouponEligibility :=
  let reason := coupon.refusal redemptionCountTotal redemptionCountCustomer now
  { valid := reason.isNone, couponId := coupon.id, code := coupon.code, discountCents := 0, reason := reason
    basketNetCents := basketSubtotalCents - promoDiscountCents }

end CouponDefinition
end ApexEdge.Domain

/-! Base prices from the price book, and the tax of a line. Prices are cents,
rates basis points. Plain operators wrap around, as they do in a release build. -/

namespace ApexEdge.Domain
open Payment

def wrap64 (n : Nat) : Nat := n % 2 ^ 64

def wrap32 (n : Nat) : Nat := n % 2 ^ 32

theorem wrap64_le (n : Nat) : wrap64 n ≤ n := Nat.mod_le _ _

theorem wrap64_of_fits {n : Nat} (fits : n ≤ u64Max) : wrap64 n = n :=
  Nat.mod_eq_of_lt (by simp only [u64Max] at fits; omega)

structure PriceBookEntry where
  itemId : Uuid
  modifierOptionId : Option Uuid
  priceCents : Nat
  deriving DecidableEq, Repr

structure TaxRule where
  taxCategoryId : Uuid
  rateBps : Nat
  /-- The tax is contained in the price. -/
  inclusive : Bool
  deriving DecidableEq, Repr

def priceOf (itemId : Uuid) (modifierOptionId : Option Uuid) (entries : List PriceBookEntry) : Option Nat :=
  (entries.find? fun entry => entry.itemId = itemId ∧ entry.modifierOptionId = modifierOptionId).map
    PriceBookEntry.priceCents

/-- Price of item and modifiers; what the book does not list is free. -/
def basePriceCents (itemId : Uuid) (modifierOptionIds : List Uuid) (quantity : Nat)
    (entries : List PriceBookEntry) : Nat :=
  let base := (priceOf itemId none entries).getD 0
  let cents := modifierOptionIds.foldl
    (fun cents option => ((priceOf itemId (some option) entries).map (saturatingAdd cents)).getD cents) base
  saturatingMul cents quantity

def applyTax (amountCents rateBps : Nat) (inclusive : Bool) : Nat :=
  if inclusive then amountCents - wrap64 (amountCents * 10000) / (10000 + rateBps)
  else wrap64 (amountCents * rateBps) / 10000

structure LineTax where
  taxCents : Nat
  inclusive : Bool
  deriving DecidableEq, Repr

/-- No rule for a category means no tax. -/
def taxForLine (lineAmountCents : Nat) (taxCategoryId : Uuid) (rules : List TaxRule) : LineTax :=
  match rules.find? (·.taxCategoryId = taxCategoryId) with
  | some rule => ⟨applyTax lineAmountCents rule.rateBps rule.inclusive, rule.inclusive⟩
  | none => ⟨0, false⟩

end ApexEdge.Domain
