import ApexEdge.Hub.TakePayment

/-! Adding a payment, finalizing an order, voiding a cart. Each loads the cart,
changes it, and writes the whole cart back. -/

namespace ApexEdge.Hub
open Library Payment Domain Storage Contracts

def posError (code message : String) : List PosError := [⟨code, message, none⟩]

def cartNotFound : List PosError := posError "CART_NOT_FOUND" "Cart not found"

/-- A cart that cannot be read is reported as missing. -/
def loadCart (frame : Frame) (cartId : Uuid) : Action (List PosError) Cart := do
  match ← reply frame (.loadCart cartId) with
  | .ok (some cart) => return cart
  | _ => throw cartNotFound

def saveCartFailed (error : PoolError) : List PosError := posError "SAVE_CART_FAILED" error.toString

/-- A failing lookup finds nobody. -/
def lookupCustomer (frame : Frame) (storeId : Uuid) (cart : Cart) : Action (List PosError) (Option Customer) :=
  match cart.customerId with
  | none => return none
  | some customerId => do
    match ← reply frame (.service (.getCustomer storeId customerId)) with
    | .ok customer => return customer
    | .error _ => return none

/-- A promotion that is not found is shown under its id. -/
def lookupPromos (frame : Frame) (storeId : Uuid) (cart : Cart) :
    Action (List PosError) (List AppliedPromoInfo) := do
  if cart.appliedPromoIds.isEmpty then return []
  else
    let known := match ← reply frame (.service (.listPromotions storeId)) with
      | .ok promotions => promotions
      | .error _ => []
    return cart.appliedPromoIds.map fun promoId =>
      (known.find? (·.promoId = promoId)).getD ⟨promoId, promoId.toString, none⟩

def buildCartState (frame : Frame) (storeId : Uuid) (cart : Cart) : Action (List PosError) Payload := do
  let customer ← lookupCustomer frame storeId cart
  let promos ← lookupPromos frame storeId cart
  return .cart { CartState.ofCart cart with
    customerName := customer.map Customer.name, customerCode := customer.map Customer.code
    appliedPromos := promos }

/-- Hand a captured tender to the reversal sweeper. Manual tenders have no
provider to give money back, so they are skipped. -/
def flagCapturedTenderForReversal (frame : Frame) (tender : CapturedTender) (reason : String) :
    Action (List PosError) Unit := do
  match tender.intentId with
  | none => return ()
  | some intentId =>
    let _ ← reply frame (.flagPaymentIntentForReversal intentId tender.providerPaymentId reason)

/-- The cart's record of a tender. -/
def paymentRecord (p : AddPaymentPayload) (tender : CapturedTender) : PaymentRecord :=
  { tenderId := p.tenderId, amountCents := tender.amountCents, tipAmountCents := tender.tipAmountCents
    externalReference := p.externalReference, provider := tender.provider
    providerPaymentId := tender.providerPaymentId.or p.providerPaymentId
    entryMethod := tender.entryMethod.or p.entryMethod }

/-- Record a tender that is in hand on the cart it was taken for. -/
def recordPayment (app : AppState) (envelope : PosRequestEnvelope) (p : AddPaymentPayload) (cart : Cart)
    (now : Timestamp) (tender : CapturedTender) : Action (List PosError) Payload := do
  let idle := Frame.ofKey (some envelope.idempotencyKey)
  let frame := { idle with taken := tender.ofIntent p.tenderId }
  match cart.addPayment (paymentRecord p tender) now with
  | .error _ =>
    -- The provider already has the money but the cart will not accept it.
    flagCapturedTenderForReversal frame tender "cart rejected the tender after capture"
    throw (posError "INVALID_PAYMENT" "Cannot add payment in current state")
  | .ok paid =>
    match ← reply (frame.withCart paid) (.saveCart paid) with
    | .error error =>
      flagCapturedTenderForReversal frame tender "cart could not be saved after capture"
      throw (saveCartFailed error)
    | .ok () => buildCartState idle app.storeId paid

def addPayment (app : AppState) (envelope : PosRequestEnvelope) (p : AddPaymentPayload) :
    Action (List PosError) Payload := do
  let frame := Frame.ofKey (some envelope.idempotencyKey)
  let cart ← loadCart frame p.cartId
  let now ← reply (frame.withCart cart) .clock
  -- The money comes first, so a decline can never leave a tender on the cart.
  let tender ← (takePayment app (frame.withCart cart)
    { idempotencyKey := envelope.idempotencyKey, storeId := envelope.storeId
      registerId := envelope.registerId, cartId := p.cartId, tenderId := p.tenderId
      amountCents := p.amountCents, tipAmountCents := p.tipAmountCents
      requestedProvider := p.provider }).mapError fun failure => posError failure.code failure.message
  recordPayment app envelope p cart now tender

/-- Voiding empties the cart; what was paid is left to the reversal sweep. -/
def voidedCart (cart : Cart) (now : Timestamp) : Cart :=
  { cart with lines := [], appliedPromoIds := [], appliedCoupons := [], manualDiscounts := []
              payments := [] }.setVoided now

def voidCart (app : AppState) (envelope : PosRequestEnvelope) (p : VoidCartPayload) :
    Action (List PosError) Payload := do
  let frame := Frame.ofKey (some envelope.idempotencyKey)
  let cart ← loadCart frame p.cartId
  if cart.state = .finalized ∨ cart.state = .voided then
    throw (posError "INVALID_STATE" "Cart cannot be voided in current state")
  else
    let now ← reply (frame.withCart cart) .clock
    let voided := voidedCart cart now
    (reply (frame.withCart voided) (.saveCart voided)).orThrow saveCartFailed
    let _ ← reply frame (.service (.releaseCartReservations app.storeId p.cartId))
    buildCartState frame app.storeId voided

def trim (text : String) : String :=
  String.ofList (((text.toList.dropWhile Char.isWhitespace).reverse.dropWhile Char.isWhitespace).reverse)

def paymentTenderType (externalReference : Option String) : String :=
  match externalReference.map trim with
  | none => "unknown"
  | some reference =>
    if reference.toLower = "cash" then "cash"
    else if "gift_card:".toList.isPrefixOf reference.toList then "gift_card"
    else if reference ≠ "" then "external"
    else "unknown"

def ledgerLine (line : OrderLine) : NewOrderLineEntry :=
  { lineId := line.lineId, itemId := line.itemId, sku := line.sku, name := line.name
    quantity := line.quantity, unitPriceCents := line.unitPriceCents, lineTotalCents := line.lineTotalCents
    discountCents := line.discountCents, taxCents := line.taxCents, taxInclusive := line.taxInclusive }

def ledgerPayment (payment : PaymentRecord) : NewOrderPaymentEntry :=
  { tenderId := payment.tenderId, tenderType := paymentTenderType payment.externalReference
    amountCents := payment.amountCents, tipAmountCents := payment.tipAmountCents
    externalReference := payment.externalReference, provider := payment.provider
    providerPaymentId := payment.providerPaymentId, entryMethod := payment.entryMethod }

def ledgerEntry (envelope : PosRequestEnvelope) (order : Order) (shiftId : Option Uuid)
    (submissionId : Uuid) (fiscal : FiscalPersistFields) : NewOrderLedgerEntry :=
  { orderId := order.orderId, cartId := order.cartId, storeId := envelope.storeId
    registerId := envelope.registerId, shiftId := shiftId, subtotalCents := order.subtotalCents
    discountCents := order.discountCents, taxCents := order.taxCents, totalCents := order.totalCents
    submissionId := some submissionId, lines := order.lines.map ledgerLine
    payments := order.payments.map ledgerPayment, fiscal := fiscal }

/-- Loyalty points are best effort. -/
def earnPoints (frame : Frame) (cart : Cart) (order : Order) : Action (List PosError) Unit :=
  match cart.customerId with
  | none => return ()
  | some customerId =>
    if order.totalCents = 0 then return ()
    else do let _ ← reply frame (.service (.earnLoyaltyPoints customerId order.totalCents))

/-- The receipt carries the customer's name when it can be found. -/
def generateReceipt (app : AppState) (frame : Frame) (cart : Cart) (order : Order) :
    Action (List PosError) Uuid := do
  let docId ← reply frame .newId
  let customer ← lookupCustomer frame app.storeId cart
  let template := match ← reply frame (.service (.getPrintTemplate app.storeId "customer_receipt")) with
    | .ok template => template
    | .error _ => none
  (reply frame (.service (.generateDocument docId order cart.id customer template))).orThrow fun error =>
    posError "DOCUMENT_FAILED" error
  return docId

/-- What follows once the order is durable: settle, earn, commit, document, save. -/
def completeOrder (app : AppState) (envelope : PosRequestEnvelope) (cart : Cart) (order : Order)
    (tookCash : Bool) : Action (List PosError) Payload := do
  let frame := (Frame.ofKey (some envelope.idempotencyKey)).withCart cart
  -- A failure to settle is only logged.
  let _ ← reply frame (.settlePaymentIntentsForCart app.storeId cart.id order.orderId)
  earnPoints frame cart order
  let _ ← reply frame (.service (.commitCartSale app.storeId cart.id))
  let docId ← generateReceipt app frame cart order
  let now ← reply frame .clock
  let finalized := cart.setFinalized now
  (reply (frame.withCart finalized) (.saveCart finalized)).orThrow saveCartFailed
  let printError ← reply (Frame.ofKey (some envelope.idempotencyKey))
    (.service (.printReceipt order tookCash))
  return .finalized {
    orderId := order.orderId, cartId := cart.id, totalCents := order.totalCents
    printJobIds := [docId], printError := printError }

def finalizeOrder (app : AppState) (envelope : PosRequestEnvelope) (p : FinalizeOrderPayload) :
    Action (List PosError) Payload := do
  let idle := Frame.ofKey (some envelope.idempotencyKey)
  let cart ← loadCart idle p.cartId
  let frame := idle.withCart cart
  let orderId ← reply frame .newId
  match cart.toOrder orderId with
  | .error _ => throw (posError "FINALIZE_FAILED" "Cart must be paid and tendered >= total")
  | .ok order =>
    let shiftId := match ← reply frame (.service (.fetchOpenShift app.storeId envelope.registerId)) with
      | .ok shiftId => shiftId
      | .error _ => none
    match ← reply frame (.service (.signOrQueue orderId order shiftId)) with
    | .error error =>
      -- Fail closed before any ledger, outbox or stock mutation.
      let _ ← reply idle (.flagPaymentIntentsForReversal app.storeId cart.id "fiscal signing failed")
      throw (posError "FISCAL_SIGNING_FAILED" error)
    | .ok fiscal =>
      let submissionId ← reply frame .newId
      let entry := ledgerEntry envelope order shiftId submissionId fiscal
      let tookCash := entry.payments.any (·.tenderType.toLower = "cash")
      match ← reply frame (.insertOrderLedgerEntryWithOutbox entry submissionId) with
      | .error error =>
        let _ ← reply idle (.flagPaymentIntentsForReversal app.storeId cart.id "order ledger write failed")
        throw (posError "ORDER_LEDGER_FAILED" error.toString)
      | .ok () => completeOrder app envelope cart order tookCash

end ApexEdge.Hub
