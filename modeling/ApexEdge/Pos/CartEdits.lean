import ApexEdge.Hub.PosHandler
import ApexEdge.Pos.Pricing

/-! What the cart commands make of a cart they have loaded. An edit checks and
changes the cart; then the whole cart is priced again. Manual discounts have a
way of their own. -/

namespace ApexEdge.Pos
open Payment Domain Storage Contracts Hub

def posFieldError (code message field : String) : List PosError := [⟨code, message, some field⟩]

/-- An editable cart is open, itemized or discounted. -/
def ensureEditable (cart : Cart) : Except (List PosError) Unit :=
  match cart.ensureCanEdit with
  | .ok () => .ok ()
  | .error _ => .error (posError "INVALID_STATE" "Cart cannot be edited")

def lineNotFound : List PosError := posError "LINE_NOT_FOUND" "Line not found"

structure CatalogItem where
  id : Uuid
  sku : String
  name : String
  taxCategoryId : Uuid
  isActive : Bool
  availableQty : Option Int
  deriving DecidableEq, Repr

structure AddLineItemPayload where
  cartId : Uuid
  itemId : Uuid
  modifierOptionIds : List Uuid
  quantity : Nat
  notes : Option String
  /-- If set and positive, overrides the catalog price of a unit. -/
  unitPriceOverrideCents : Option Nat
  deriving DecidableEq, Repr

structure UpdateLineItemPayload where
  cartId : Uuid
  lineId : Uuid
  quantity : Nat
  notes : Option String
  deriving DecidableEq, Repr

inductive ManualDiscountKind where
  | percentCart | percentItem | fixedCart | fixedItem
  deriving DecidableEq, Repr

structure ApplyManualDiscountPayload where
  cartId : Uuid
  reason : String
  kind : ManualDiscountKind
  /-- Basis points for a percentage, cents for a fixed amount. -/
  value : Nat
  /-- Required for a line discount, ignored for a cart one. -/
  lineId : Option Uuid
  deriving DecidableEq, Repr

def unitPriceCents (overrideCents : Option Nat) (baseCents quantity : Nat) : Nat :=
  if overrideCents.any (0 < ·) then overrideCents.getD 0 else baseCents / quantity

def newLine (p : AddLineItemPayload) (item : CatalogItem) (lineId : Uuid) (entries : List PriceBookEntry) :
    AddLineItemInput :=
  let baseCents := basePriceCents p.itemId p.modifierOptionIds p.quantity entries
  { lineId := lineId, itemId := p.itemId, sku := item.sku, name := item.name, quantity := p.quantity
    unitPriceCents := unitPriceCents p.unitPriceOverrideCents baseCents p.quantity
    modifierOptionIds := p.modifierOptionIds, notes := p.notes }

/-- The first line with the id gets the quantity; its price is set by repricing. -/
def setQuantity (lineId : Uuid) (quantity : Nat) (notes : Option String) (lines : List CartLineItem) :
    Option (List CartLineItem) :=
  match lines with
  | [] => none
  | line :: lines =>
    if line.lineId = lineId then
      some ({ line with
        quantity := quantity, notes := notes
        lineTotalCents := saturatingMul line.unitPriceCents quantity } :: lines)
    else (setQuantity lineId quantity notes lines).map (line :: ·)

/-- A coupon is looked up by what was entered, trimmed and in upper case. -/
def couponCode (toUppercase : String → String) (text : String) : String := toUppercase (trim text)

def couponNotFound : List PosError := posFieldError "COUPON_NOT_FOUND" "Coupon not found" "coupon_code"

def invalidCoupon (message : String) : List PosError := posFieldError "INVALID_COUPON" message "coupon_code"

/-- Put a coupon on the cart, unless one with its code is there. -/
def addCoupon (code : String) (coupon : CouponDefinition) (promos : List Promotion) (now : Timestamp) (cart : Cart) :
    Except (List PosError) Cart :=
  match promos.find? (·.id = coupon.promoId) with
  | none => .error couponNotFound
  | some promo =>
    let promoDiscountCents := (cart.lines.map CartLineItem.discountCents).sum
    let eligibility := coupon.checkEligibility 0 (some 0) cart.subtotalCents promoDiscountCents now
    if !eligibility.valid then .error (invalidCoupon (eligibility.reason.getD "Coupon is not eligible"))
    else
      match promo.code with
      | none => .error (invalidCoupon "Coupon promotion is missing code")
      | some promoCode =>
        if cart.appliedCoupons.any (eqIgnoreAsciiCase ·.code code) then .ok cart
        else .ok { cart with appliedCoupons := cart.appliedCoupons ++ [⟨coupon.id, promoCode, 0⟩] }

def dropCoupon (couponId : Uuid) (cart : Cart) : Except (List PosError) Cart :=
  let kept := cart.appliedCoupons.filter (·.couponId ≠ couponId)
  if kept.length = cart.appliedCoupons.length then
    .error (posFieldError "COUPON_NOT_FOUND" "Coupon not found on cart" "coupon_id")
  else .ok { cart with appliedCoupons := kept }

def requestPromo (promoId : Uuid) (promos : List Promotion) (cart : Cart) : Except (List PosError) Cart :=
  if promos.any (·.id = promoId) then
    if promoId ∈ cart.appliedPromoIds then .ok cart
    else .ok { cart with appliedPromoIds := cart.appliedPromoIds ++ [promoId] }
  else .error (posFieldError "PROMO_NOT_FOUND" "Promotion not found" "promo_id")

def dropPromo (promoId : Uuid) (cart : Cart) : Except (List PosError) Cart :=
  let kept := cart.appliedPromoIds.filter (· ≠ promoId)
  if kept.length = cart.appliedPromoIds.length then
    .error (posFieldError "PROMO_NOT_FOUND" "Promotion not applied on cart" "promo_id")
  else .ok { cart with appliedPromoIds := kept }

def updateLine (lineId : Uuid) (quantity : Nat) (notes : Option String) (cart : Cart) :
    Except (List PosError) Cart :=
  match setQuantity lineId quantity notes cart.lines with
  | none => .error lineNotFound
  | some lines => .ok { cart with lines := lines }

def removeLine (lineId : Uuid) (now : Timestamp) (cart : Cart) : Except (List PosError) Cart :=
  match cart.removeLineItem lineId now with
  | .ok removed => .ok removed
  | .error error => .error (posError "LINE_NOT_FOUND" error.toString)

/-- The edits that are followed by repricing, with what they were told by the tables. -/
inductive CartEdit where
  | addLineItem (input : AddLineItemInput)
  | updateLineItem (lineId : Uuid) (quantity : Nat) (notes : Option String)
  | removeLineItem (lineId : Uuid)
  | applyCoupon (code : String) (coupon : CouponDefinition) (promos : List Promotion)
  | removeCoupon (couponId : Uuid)
  | applyPromo (promoId : Uuid) (promos : List Promotion)
  | removePromo (promoId : Uuid)

def CartEdit.apply (edit : CartEdit) (now : Timestamp) (cart : Cart) : Except (List PosError) Cart :=
  match edit with
  | .addLineItem input => .ok (cart.addLineItem input now)
  | .updateLineItem lineId quantity notes => updateLine lineId quantity notes cart
  | .removeLineItem lineId => removeLine lineId now cart
  | .applyCoupon code coupon promos => addCoupon code coupon promos now cart
  | .removeCoupon couponId => dropCoupon couponId cart
  | .applyPromo promoId promos => requestPromo promoId promos cart
  | .removePromo promoId => dropPromo promoId cart

/-- Removing the last line leaves nothing to price, and skips the pipeline. -/
def CartEdit.reprices (edit : CartEdit) (edited : Cart) : Bool :=
  match edit with
  | .removeLineItem _ => !edited.lines.isEmpty
  | _ => true

def editCart (edit : CartEdit) (tables : PriceTables) (cart : Cart) : Except (List PosError) Cart := do
  ensureEditable cart
  let edited ← edit.apply tables.now cart
  if edit.reprices edited then runPricingPipeline tables edited else return edited

def lineIdRequired (kind : String) : List PosError :=
  posFieldError "LINE_ID_REQUIRED" (kind ++ " per item requires line_id") "line_id"

/-- The line that a line discount names. -/
def discountedLine (kind : String) (lineId : Option Uuid) (cart : Cart) : Except (List PosError) CartLineItem :=
  match lineId with
  | none => .error (lineIdRequired kind)
  | some lineId =>
    match cart.lines.find? (·.lineId = lineId) with
    | none => .error lineNotFound
    | some line => .ok line

/-- The amount of a manual discount, at most what it is taken from. -/
def manualDiscountAmount (p : ApplyManualDiscountPayload) (cart : Cart) : Except (List PosError) Nat :=
  let subtotal := cart.subtotalCents
  match p.kind with
  | .percentCart => .ok (min (saturatingMul subtotal p.value / 10000) subtotal)
  | .fixedCart => .ok (min p.value subtotal)
  | .percentItem => do
    let line ← discountedLine "Percent" p.lineId cart
    return min (saturatingMul (lineNet line) p.value / 10000) (lineNet line)
  | .fixedItem => do
    let line ← discountedLine "Fixed" p.lineId cart
    return min p.value (lineNet line)

def ManualDiscountKind.isItem (kind : ManualDiscountKind) : Bool :=
  match kind with
  | .percentItem | .fixedItem => true
  | .percentCart | .fixedCart => false

/-- Check a manual discount and note it on the cart. -/
def addManualDiscount (p : ApplyManualDiscountPayload) (cart : Cart) : Except (List PosError) Cart := do
  ensureEditable cart
  if trim p.reason = "" then throw (posFieldError "REASON_REQUIRED" "Manual discount requires a reason" "reason")
  let amountCents ← manualDiscountAmount p cart
  if amountCents = 0 then throw (posError "ZERO_DISCOUNT" "Computed discount amount is zero")
  let discount : ManualDiscountInfo :=
    { reason := trim p.reason, amountCents := amountCents, lineId := if p.kind.isItem then p.lineId else none }
  return { cart with manualDiscounts := cart.manualDiscounts ++ [discount] }

/-- The shortcut: the discounts are added to the lines as they are, without
repricing them first. -/
def discountCart (p : ApplyManualDiscountPayload) (tables : PriceTables) (cart : Cart) :
    Except (List PosError) Cart := do
  let noted ← addManualDiscount p cart
  return (applyManualDiscountsToLines tables noted).setDiscounted tables.now

def startTendering (now : Timestamp) (cart : Cart) : Except (List PosError) Cart :=
  match cart.ensureCanTender with
  | .ok () => .ok (cart.setTendering now)
  | .error _ => .error (posError "INVALID_STATE" "Cart cannot enter tendering")

/-- One command's change of the cart it loaded. -/
inductive CartChange where
  | setCustomer (customerId : Uuid) (now : Timestamp)
  | edit (wanted : CartEdit) (tables : PriceTables)
  | applyManualDiscount (p : ApplyManualDiscountPayload) (tables : PriceTables)
  | setTendering (now : Timestamp)
  | addPayment (input : PaymentRecord) (now : Timestamp)
  | voidCart (now : Timestamp)
  | finalizeOrder (orderId : Uuid) (now : Timestamp)

def CartChange.apply (change : CartChange) (cart : Cart) : Except (List PosError) Cart :=
  match change with
  | .setCustomer customerId now => .ok (cart.setCustomer customerId now)
  | .edit wanted tables => editCart wanted tables cart
  | .applyManualDiscount p tables => discountCart p tables cart
  | .setTendering now => startTendering now cart
  | .addPayment input now =>
    match cart.addPayment input now with
    | .ok paid => .ok paid
    | .error _ => .error (posError "INVALID_PAYMENT" "Cannot add payment in current state")
  | .voidCart now =>
    if cart.state = .finalized ∨ cart.state = .voided then
      .error (posError "INVALID_STATE" "Cart cannot be voided in current state")
    else .ok (voidedCart cart now)
  | .finalizeOrder orderId now =>
    match cart.toOrder orderId with
    | .ok _ => .ok (cart.setFinalized now)
    | .error _ => .error (posError "FINALIZE_FAILED" "Cart must be paid and tendered >= total")

end ApexEdge.Pos
