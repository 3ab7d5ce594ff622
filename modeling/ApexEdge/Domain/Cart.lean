import ApexEdge.Payment.Provider

/-! The cart aggregate and its state machine: open, itemized, discounted,
tendering, paid, finalized; voided from anywhere before finalized. Amounts are
cents. Saturating operations saturate at the largest 64-bit value. -/

namespace ApexEdge.Domain
open Payment

abbrev Timestamp := Nat

inductive CartStateKind where
  | open | itemized | discounted | tendering | paid | finalized | voided
  deriving DecidableEq, Repr

inductive DomainError where
  | invalidTransition (message : String)
  | lineNotFound (lineId : Uuid)
  | paymentExceedsTotal
  deriving DecidableEq, Repr

namespace DomainError

def toString (error : DomainError) : String :=
  match error with
  | .invalidTransition message => "invalid transition: " ++ message
  | .lineNotFound lineId => "line not found: " ++ lineId.toString
  | .paymentExceedsTotal => "payment exceeds total"

end DomainError

def u64Max : Nat := 2 ^ 64 - 1

def saturatingAdd (a b : Nat) : Nat := min (a + b) u64Max

def saturatingMul (a b : Nat) : Nat := min (a * b) u64Max

structure CartLineItem where
  lineId : Uuid
  itemId : Uuid
  sku : String
  name : String
  quantity : Nat
  modifierOptionIds : List Uuid
  notes : Option String
  unitPriceCents : Nat
  lineTotalCents : Nat
  discountCents : Nat
  taxCents : Nat
  /-- The tax is contained in the price rather than added to it. -/
  taxInclusive : Bool
  deriving DecidableEq, Repr

/-- What the customer pays for this line after line discounts, tax included. -/
def CartLineItem.grossCents (line : CartLineItem) : Nat :=
  let price := line.lineTotalCents - line.discountCents
  if line.taxInclusive then price else saturatingAdd price line.taxCents

structure AppliedCouponRecord where
  couponId : Uuid
  code : String
  discountCents : Nat
  deriving DecidableEq, Repr

structure ManualDiscountInfo where
  reason : String
  amountCents : Nat
  lineId : Option Uuid
  deriving DecidableEq, Repr

structure PaymentRecord where
  tenderId : Uuid
  amountCents : Nat
  tipAmountCents : Nat
  externalReference : Option String
  provider : Option String
  providerPaymentId : Option String
  entryMethod : Option PaymentEntryMethod
  deriving DecidableEq, Repr

structure Cart where
  id : Uuid
  storeId : Uuid
  registerId : Uuid
  customerId : Option Uuid
  state : CartStateKind
  lines : List CartLineItem
  appliedPromoIds : List Uuid
  appliedCoupons : List AppliedCouponRecord
  manualDiscounts : List ManualDiscountInfo
  payments : List PaymentRecord
  createdAt : Timestamp
  updatedAt : Timestamp
  deriving DecidableEq, Repr

structure AddLineItemInput where
  lineId : Uuid
  itemId : Uuid
  sku : String
  name : String
  quantity : Nat
  unitPriceCents : Nat
  modifierOptionIds : List Uuid
  notes : Option String

structure LinePriceResult where
  lineId : Uuid
  unitPriceCents : Nat
  lineTotalCents : Nat
  discountCents : Nat
  taxCents : Nat
  taxInclusive : Bool
  deriving DecidableEq, Repr

structure OrderLine where
  lineId : Uuid
  itemId : Uuid
  sku : String
  name : String
  quantity : Nat
  unitPriceCents : Nat
  lineTotalCents : Nat
  discountCents : Nat
  taxCents : Nat
  taxInclusive : Bool
  modifierOptionIds : List Uuid
  notes : Option String
  deriving DecidableEq, Repr

structure Order where
  orderId : Uuid
  cartId : Uuid
  storeId : Uuid
  registerId : Uuid
  lines : List OrderLine
  subtotalCents : Nat
  discountCents : Nat
  taxCents : Nat
  totalCents : Nat
  /-- An order's payment has the same fields as the cart's record of it. -/
  payments : List PaymentRecord
  appliedPromoIds : List Uuid
  appliedCoupons : List (Uuid × String × Nat)
  manualDiscounts : List ManualDiscountInfo
  createdAt : Timestamp
  deriving DecidableEq, Repr

namespace Cart

def new (id storeId registerId : Uuid) (now : Timestamp) : Cart :=
  { id := id, storeId := storeId, registerId := registerId, customerId := none, state := .open
    lines := [], appliedPromoIds := [], appliedCoupons := [], manualDiscounts := [], payments := []
    createdAt := now, updatedAt := now }

def setCustomer (cart : Cart) (customerId : Uuid) (now : Timestamp) : Cart :=
  { cart with customerId := some customerId, updatedAt := now }

/-- Line edits leave a cart itemized, or open once it is empty. -/
def stateOfLines (lines : List CartLineItem) : CartStateKind :=
  if lines.isEmpty then .open else .itemized

def addLineItem (cart : Cart) (input : AddLineItemInput) (now : Timestamp) : Cart :=
  let line : CartLineItem :=
    { lineId := input.lineId, itemId := input.itemId, sku := input.sku, name := input.name
      quantity := input.quantity, modifierOptionIds := input.modifierOptionIds, notes := input.notes
      unitPriceCents := input.unitPriceCents
      lineTotalCents := saturatingMul input.unitPriceCents input.quantity
      discountCents := 0, taxCents := 0, taxInclusive := false }
  let lines := cart.lines ++ [line]
  { cart with lines := lines, updatedAt := now, state := stateOfLines lines }

def ensureCanEdit (cart : Cart) : Except DomainError Unit :=
  match cart.state with
  | .open | .itemized | .discounted => .ok ()
  | .tendering => .error (.invalidTransition "cart in state Tendering cannot be edited")
  | .paid => .error (.invalidTransition "cart in state Paid cannot be edited")
  | .finalized => .error (.invalidTransition "cart in state Finalized cannot be edited")
  | .voided => .error (.invalidTransition "cart in state Voided cannot be edited")

def ensureCanTender (cart : Cart) : Except DomainError Unit :=
  match cart.state with
  | .itemized | .discounted => .ok ()
  | _ => .error (.invalidTransition "cart must be itemized or discounted to enter tendering")

/-- Inclusive tax is already inside the price and is not added again. -/
def totalCents (cart : Cart) : Nat :=
  (cart.lines.map CartLineItem.grossCents).sum - (cart.appliedCoupons.map AppliedCouponRecord.discountCents).sum

def subtotalCents (cart : Cart) : Nat := (cart.lines.map CartLineItem.lineTotalCents).sum

def discountCents (cart : Cart) : Nat :=
  (cart.lines.map CartLineItem.discountCents).sum +
    (cart.appliedCoupons.map AppliedCouponRecord.discountCents).sum

def taxCents (cart : Cart) : Nat := (cart.lines.map CartLineItem.taxCents).sum

def tenderedCents (cart : Cart) : Nat := (cart.payments.map PaymentRecord.amountCents).sum

def ensureCanFinalize (cart : Cart) : Except DomainError Unit :=
  if cart.state ≠ .paid then .error (.invalidTransition "cart must be paid to finalize")
  else if cart.tenderedCents < cart.totalCents then .error .paymentExceedsTotal
  else .ok ()

/-- Each result goes to the first line with its id; other lines keep their prices. -/
def applyResult (lines : List CartLineItem) (result : LinePriceResult) : List CartLineItem :=
  match lines with
  | [] => []
  | line :: lines =>
    if line.lineId = result.lineId then
      { line with
        unitPriceCents := result.unitPriceCents, lineTotalCents := result.lineTotalCents
        discountCents := result.discountCents, taxCents := result.taxCents
        taxInclusive := result.taxInclusive } :: lines
    else line :: applyResult lines result

def applyPricing (cart : Cart) (results : List LinePriceResult) (now : Timestamp) : Cart :=
  let lines := results.foldl applyResult cart.lines
  { cart with lines := lines, updatedAt := now, state := stateOfLines lines }

def removeLineItem (cart : Cart) (lineId : Uuid) (now : Timestamp) : Except DomainError Cart := do
  cart.ensureCanEdit
  match cart.lines.findIdx? (·.lineId = lineId) with
  | none => .error (.lineNotFound lineId)
  | some position =>
    let lines := cart.lines.eraseIdx position
    .ok { cart with lines := lines, updatedAt := now, state := stateOfLines lines }

def setDiscounted (cart : Cart) (now : Timestamp) : Cart :=
  { cart with state := .discounted, updatedAt := now }

def setTendering (cart : Cart) (now : Timestamp) : Cart :=
  { cart with state := .tendering, updatedAt := now }

/-- A cart that has been tendered enough is paid, and stays open to further payments. -/
def addPayment (cart : Cart) (input : PaymentRecord) (now : Timestamp) : Except DomainError Cart :=
  if cart.state ≠ .tendering ∧ cart.state ≠ .paid then
    .error (.invalidTransition "cart must be in tendering to add payment")
  else
    let paid := { cart with payments := cart.payments ++ [input], updatedAt := now }
    .ok (if paid.totalCents ≤ paid.tenderedCents then { paid with state := .paid } else paid)

def setFinalized (cart : Cart) (now : Timestamp) : Cart :=
  { cart with state := .finalized, updatedAt := now }

def setVoided (cart : Cart) (now : Timestamp) : Cart :=
  { cart with state := .voided, updatedAt := now }

def toOrderLines (cart : Cart) : List OrderLine :=
  cart.lines.map fun line =>
    { lineId := line.lineId, itemId := line.itemId, sku := line.sku, name := line.name
      quantity := line.quantity, unitPriceCents := line.unitPriceCents
      lineTotalCents := line.lineTotalCents, discountCents := line.discountCents
      taxCents := line.taxCents, taxInclusive := line.taxInclusive
      modifierOptionIds := line.modifierOptionIds, notes := line.notes }

def toOrder (cart : Cart) (orderId : Uuid) : Except DomainError Order := do
  cart.ensureCanFinalize
  return {
    orderId := orderId, cartId := cart.id, storeId := cart.storeId, registerId := cart.registerId
    lines := cart.toOrderLines, subtotalCents := cart.subtotalCents
    discountCents := cart.discountCents, taxCents := cart.taxCents, totalCents := cart.totalCents
    payments := cart.payments, appliedPromoIds := cart.appliedPromoIds
    appliedCoupons := cart.appliedCoupons.map fun coupon =>
      (coupon.couponId, coupon.code, coupon.discountCents)
    manualDiscounts := cart.manualDiscounts, createdAt := cart.updatedAt }

section Lemmas
variable {cart : Cart} {now : Timestamp}

theorem addPayment_ok {paid : Cart} {input : PaymentRecord} (added : cart.addPayment input now = .ok paid) :
    paid.id = cart.id ∧ paid.payments = cart.payments ++ [input] := by
  unfold addPayment at added
  split at added
  · cases added
  · cases added
    constructor <;> split <;> rfl

theorem toOrder_ok {orderId : Uuid} {order : Order} (built : cart.toOrder orderId = .ok order) :
    order.orderId = orderId ∧ order.cartId = cart.id ∧ order.payments = cart.payments := by
  unfold toOrder at built
  cases allowed : cart.ensureCanFinalize with
  | error error => simp [allowed, bind, Except.bind] at built
  | ok _ =>
    simp only [allowed, bind, Except.bind, pure, Except.pure, Except.ok.injEq] at built
    cases built
    exact ⟨rfl, rfl, rfl⟩

/-- Only a paid cart makes an order, of the lines it has. -/
theorem toOrder_paid {orderId : Uuid} {order : Order} (built : cart.toOrder orderId = .ok order) :
    cart.state = .paid ∧ order.lines = cart.toOrderLines := by
  unfold toOrder ensureCanFinalize at built
  by_cases paid : cart.state = .paid
  · refine ⟨paid, ?_⟩
    by_cases short : cart.tenderedCents < cart.totalCents
    · simp [paid, short, bind, Except.bind] at built
    · simp only [paid, short, bind, Except.bind, pure, Except.pure, if_false, ne_eq, not_true_eq_false,
        Except.ok.injEq] at built
      rw [← built]
  · simp [paid, bind, Except.bind] at built

end Lemmas
end Cart
end ApexEdge.Domain
