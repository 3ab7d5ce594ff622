import ApexEdge.Storage.Returns

/-! What a point of sale sends to the hub and gets back. -/

namespace ApexEdge.Contracts
open Payment Domain Storage

structure ContractVersion where
  major : Nat
  minor : Nat
  patch : Nat
  deriving DecidableEq, Repr

def ContractVersion.v1_0_0 : ContractVersion := ⟨1, 0, 0⟩

structure PosError where
  code : String
  message : String
  field : Option String
  deriving DecidableEq, Repr

structure AppliedPromoInfo where
  promoId : Uuid
  name : String
  code : Option String
  deriving DecidableEq, Repr

/-- A cart as it is shown to the point of sale. Lines, coupons and discounts are
shown as the cart has them. -/
structure CartState where
  cartId : Uuid
  customerId : Option Uuid
  customerName : Option String
  customerCode : Option String
  state : CartStateKind
  lines : List CartLineItem
  appliedPromos : List AppliedPromoInfo
  appliedCoupons : List AppliedCouponRecord
  manualDiscounts : List ManualDiscountInfo
  subtotalCents : Nat
  discountCents : Nat
  taxCents : Nat
  totalCents : Nat
  tenderedCents : Nat
  createdAt : Timestamp
  updatedAt : Timestamp
  deriving DecidableEq, Repr

/-- The cart's part of its shown state; names are looked up afterwards. -/
def CartState.ofCart (cart : Cart) : CartState :=
  { cartId := cart.id, customerId := cart.customerId, customerName := none, customerCode := none
    state := cart.state, lines := cart.lines
    appliedPromos := cart.appliedPromoIds.map fun id => ⟨id, id.toString, none⟩
    appliedCoupons := cart.appliedCoupons, manualDiscounts := cart.manualDiscounts
    subtotalCents := cart.subtotalCents, discountCents := cart.discountCents, taxCents := cart.taxCents
    totalCents := cart.totalCents, tenderedCents := cart.tenderedCents
    createdAt := cart.createdAt, updatedAt := cart.updatedAt }

structure FinalizeResult where
  orderId : Uuid
  cartId : Uuid
  totalCents : Nat
  printJobIds : List Uuid
  printError : Option String
  deriving DecidableEq, Repr

structure ReturnSnapshot where
  row : ReturnRow
  lines : List ReturnLineRow
  refunds : List RefundRow
  deriving DecidableEq, Repr

inductive Payload where
  | cart (state : CartState)
  | finalized (result : FinalizeResult)
  | returned (snapshot : ReturnSnapshot)
  deriving DecidableEq, Repr

structure PosResponse where
  version : ContractVersion
  success : Bool
  idempotencyKey : Uuid
  payload : Option Payload
  errors : List PosError
  deriving DecidableEq, Repr

def PosResponse.accepted (idempotencyKey : Uuid) (payload : Payload) : PosResponse :=
  { version := .v1_0_0, success := true, idempotencyKey := idempotencyKey, payload := some payload
    errors := [] }

def PosResponse.rejected (idempotencyKey : Uuid) (errors : List PosError) : PosResponse :=
  { version := .v1_0_0, success := false, idempotencyKey := idempotencyKey, payload := none
    errors := errors }

structure AddPaymentPayload where
  cartId : Uuid
  tenderId : Uuid
  amountCents : Nat
  tipAmountCents : Nat
  externalReference : Option String
  provider : Option String
  providerPaymentId : Option String
  entryMethod : Option PaymentEntryMethod
  deriving DecidableEq, Repr

structure FinalizeOrderPayload where
  cartId : Uuid
  deriving DecidableEq, Repr

structure VoidCartPayload where
  cartId : Uuid
  deriving DecidableEq, Repr

structure RefundTenderPayload where
  returnId : Uuid
  tenderType : String
  amountCents : Nat
  externalReference : Option String
  deriving DecidableEq, Repr

/-- The commands that move money through a provider, and the voiding of a cart. -/
inductive PosCommand where
  | addPayment (payload : AddPaymentPayload)
  | finalizeOrder (payload : FinalizeOrderPayload)
  | voidCart (payload : VoidCartPayload)
  | refundTender (payload : RefundTenderPayload)
  deriving DecidableEq, Repr

structure PosRequestEnvelope where
  version : ContractVersion
  idempotencyKey : Uuid
  storeId : Uuid
  registerId : Uuid
  payload : PosCommand
  deriving DecidableEq, Repr

end ApexEdge.Contracts
