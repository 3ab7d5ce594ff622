import ApexEdge.Domain.Pricing
import ApexEdge.Hub.System
import ApexEdge.Storage.StoredValue

/-! Gift cards and loyalty points at the till. A redemption debits the account with one
statement, and saves the payment on the cart with another. -/

namespace ApexEdge.Hub
open Library Payment Domain Storage Contracts

structure RedeemGiftCardPayload where
  cartId : Uuid
  tenderId : Uuid
  code : String
  amountCents : Nat
  deriving DecidableEq, Repr

structure RedeemLoyaltyPointsPayload where
  cartId : Uuid
  tenderId : Uuid
  customerId : Uuid
  points : Nat
  deriving DecidableEq, Repr

/-- Redemptions, and the hub's commands that save a cart with its payments. -/
inductive TillCommand where
  | redeemGiftCard (payload : RedeemGiftCardPayload)
  | redeemLoyaltyPoints (payload : RedeemLoyaltyPointsPayload)
  | finalizeOrder (payload : FinalizeOrderPayload)
  | voidCart (payload : VoidCartPayload)
  deriving DecidableEq, Repr

structure TillEnvelope where
  version : ContractVersion
  idempotencyKey : Uuid
  storeId : Uuid
  registerId : Uuid
  payload : TillCommand
  deriving DecidableEq, Repr

/-- The conversion rates of the local loyalty provider. -/
structure LoyaltyRates where
  centsPerPoint : Nat
  centsPerRedeemedPoint : Nat

inductive TillCall where
  | hub (call : Call)
  | redeemGiftCard (code : String) (amountCents : Nat)
  | redeemLoyaltyPoints (customerId : Uuid) (points : Nat)
  deriving DecidableEq

@[reducible] def TillCall.Reply : TillCall → Type
  | .hub call => call.Reply
  | .redeemGiftCard .. => Except PoolError (RedeemOutcome × Option GiftCardRecord)
  | .redeemLoyaltyPoints .. => Except PoolError (RedeemPointsOutcome × Option LoyaltyAccountRecord)

structure TillRequest where
  frame : Frame
  /-- The payment for what has been debited and is on no cart yet. -/
  debit : Option PaymentRecord
  call : TillCall
  deriving DecidableEq

@[reducible] def TillRequest.Reply (request : TillRequest) : Type := request.call.Reply

abbrev TillProgram (α : Type) := Program TillRequest TillRequest.Reply α

abbrev TillAction (ε α : Type) := Fallible TillRequest TillRequest.Reply ε α

/-- A program of the hub, which debits nothing. -/
def atTill {α : Type} (program : Command α) : TillProgram α :=
  match program with
  | .pure value => .pure value
  | .request request next => .request ⟨request.frame, none, .hub request.call⟩ fun reply => atTill (next reply)

def tillReply {ε : Type} (frame : Frame) (debit : Option PaymentRecord) (call : TillCall) : TillAction ε call.Reply :=
  Fallible.ask (⟨frame, debit, call⟩ : TillRequest)

section Redemptions
variable (app : AppState) (rates : LoyaltyRates) (envelope : TillEnvelope)

def invalidPayment : List PosError := posError "INVALID_PAYMENT" "Cannot add payment in current state"

/-- Put a payment on the cart whose account has been debited for it. -/
def recordDebit (cart : Cart) (payment : PaymentRecord) : TillAction (List PosError) Payload := do
  let idle := Frame.ofKey (some envelope.idempotencyKey)
  let now ← tillReply (idle.withCart cart) (some payment) (.hub .clock)
  match cart.addPayment payment now with
  | .error _ => throw invalidPayment
  | .ok paid =>
    (tillReply (idle.withCart paid) (some payment) (.hub (.saveCart paid))).orThrow saveCartFailed
    atTill (buildCartState idle app.storeId paid)

/-- The state is checked before the debit, so that a bad one never costs the customer
money without recording a payment. -/
def loadPayableCart (cartId : Uuid) : TillAction (List PosError) Cart := do
  let cart ← (atTill (loadCart (Frame.ofKey (some envelope.idempotencyKey)) cartId) : TillAction (List PosError) Cart)
  if cart.state ≠ .tendering ∧ cart.state ≠ .paid then throw invalidPayment
  else return cart

def giftCardPayment (p : RedeemGiftCardPayload) : PaymentRecord :=
  { tenderId := p.tenderId, amountCents := p.amountCents, tipAmountCents := 0
    externalReference := some ("gift_card:" ++ p.code), provider := some "gift_card"
    providerPaymentId := some p.code, entryMethod := none }

def giftCardRefused (outcome : RedeemOutcome) : Option (List PosError) :=
  match outcome with
  | .redeemed => none
  | .notFound => some (posError "GIFT_CARD_NOT_FOUND" "Gift card not found")
  | .notActive => some (posError "GIFT_CARD_NOT_ACTIVE" "Gift card is not active")
  | .insufficientBalance => some (posError "INSUFFICIENT_GIFT_CARD_BALANCE" "Gift card balance is insufficient")
  | .invalidAmount => some (posError "INVALID_AMOUNT" "Redeem amount must be greater than zero")

def redeemGiftCard (p : RedeemGiftCardPayload) : TillAction (List PosError) Payload := do
  let cart ← loadPayableCart envelope p.cartId
  let frame := (Frame.ofKey (some envelope.idempotencyKey)).withCart cart
  match ← tillReply frame none (.redeemGiftCard p.code p.amountCents) with
  | .error error => throw (posError "GIFT_CARD_REDEEM_FAILED" error.toString)
  | .ok (outcome, _) =>
    match giftCardRefused outcome with
    | some errors => throw errors
    | none => recordDebit app envelope cart (giftCardPayment p)

/-- The value of redeemed points. -/
def loyaltyRedeemValueCents (points : Nat) : Nat := saturatingMul points rates.centsPerRedeemedPoint

def loyaltyPayment (p : RedeemLoyaltyPointsPayload) : PaymentRecord :=
  { tenderId := p.tenderId, amountCents := loyaltyRedeemValueCents rates p.points, tipAmountCents := 0
    externalReference := some ("loyalty:" ++ p.customerId.toString), provider := some "loyalty"
    providerPaymentId := some (toString p.points), entryMethod := none }

def loyaltyRefused (outcome : RedeemPointsOutcome) : Option (List PosError) :=
  match outcome with
  | .redeemed => none
  | .notFound => some (posError "LOYALTY_ACCOUNT_NOT_FOUND" "Loyalty account not found")
  | .insufficientPoints => some (posError "INSUFFICIENT_LOYALTY_POINTS" "Loyalty points balance is insufficient")
  | .invalidAmount => some (posError "INVALID_AMOUNT" "Redeem points must be greater than zero")

def redeemLoyaltyPoints (p : RedeemLoyaltyPointsPayload) : TillAction (List PosError) Payload := do
  let cart ← loadPayableCart envelope p.cartId
  let frame := (Frame.ofKey (some envelope.idempotencyKey)).withCart cart
  match ← tillReply frame none (.redeemLoyaltyPoints p.customerId p.points) with
  | .error error => throw (posError "LOYALTY_REDEEM_FAILED" error.toString)
  | .ok (outcome, _) =>
    match loyaltyRefused outcome with
    | some errors => throw errors
    | none => recordDebit app envelope cart (loyaltyPayment rates p)

/-- A redemption is checked, answered from the stored response or executed, and its
success stored, as every command is. -/
def handleRedemption (boundRegister : Option Uuid) (redeem : TillAction (List PosError) Payload) :
    TillProgram PosResponse :=
  let refuse (error : PosError) : TillProgram PosResponse := return .rejected envelope.idempotencyKey [error]
  let frame := Frame.ofKey (some envelope.idempotencyKey)
  if envelope.storeId ≠ app.storeId then refuse storeMismatch
  else if boundRegister.any (· ≠ envelope.registerId) then
    refuse ⟨"REGISTER_MISMATCH", "register_id does not match the paired device", some "register_id"⟩
  else if envelope.version ≠ .v1_0_0 then
    refuse ⟨"UNSUPPORTED_VERSION", "Unsupported contract version", none⟩
  else do
    match ← Program.ask (⟨frame, none, .hub (.getResponse envelope.idempotencyKey)⟩ : TillRequest) with
    | .ok (some replayed) => return replayed
    | _ =>
      Program.bind redeem fun
        | .ok payload => atTill (storeResponse frame (.accepted envelope.idempotencyKey payload))
        | .error errors => return .rejected envelope.idempotencyKey errors

/-- What the till does with the outcome of a redemption it has executed. -/
def redeemed (result : Except (List PosError) Payload) : TillProgram PosResponse :=
  match result with
  | .ok payload =>
    atTill (storeResponse (Frame.ofKey (some envelope.idempotencyKey)) (.accepted envelope.idempotencyKey payload))
  | .error errors => return .rejected envelope.idempotencyKey errors

end Redemptions

structure TillTask where
  boundRegister : Option Uuid
  envelope : TillEnvelope

def TillEnvelope.pos (envelope : TillEnvelope) (payload : PosCommand) : PosRequestEnvelope :=
  { version := envelope.version, idempotencyKey := envelope.idempotencyKey, storeId := envelope.storeId
    registerId := envelope.registerId, payload := payload }

def TillTask.program (app : AppState) (rates : LoyaltyRates) (task : TillTask) : TillProgram PosResponse :=
  let envelope := task.envelope
  match envelope.payload with
  | .redeemGiftCard p => handleRedemption app envelope task.boundRegister (redeemGiftCard app envelope p)
  | .redeemLoyaltyPoints p =>
    handleRedemption app envelope task.boundRegister (redeemLoyaltyPoints app rates envelope p)
  | .finalizeOrder p => atTill (handlePosCommand app task.boundRegister (envelope.pos (.finalizeOrder p)))
  | .voidCart p => atTill (handlePosCommand app task.boundRegister (envelope.pos (.voidCart p)))

/-- The hub and the accounts. What redemptions have taken off the balances so far is
kept for the record only: no command reads it. -/
structure TillWorld (Remote : Type) where
  hub : World Remote
  giftCards : List GiftCardRow
  loyaltyAccounts : List LoyaltyAccountRow
  debitedCents : Int
  debitedPoints : Int

/-- The row is read back after a redemption, and that can fail as well. -/
structure TillChoice (Answer : Type) where
  hub : Choice Answer
  readBack : Option PoolError

section Perform
variable {Remote Answer : Type}

def cardBalance (code : String) (cards : List GiftCardRow) : Int :=
  ((cards.find? (·.code = code)).map fun row => row.balanceCents.value).getD 0

def pointsBalance (customerId : Uuid) (accounts : List LoyaltyAccountRow) : Int :=
  ((accounts.find? (·.customerId = customerId)).map fun row => row.points.value).getD 0

/-- An UPDATE and the SELECT after it; a failing SELECT does not undo the UPDATE. An
amount of zero is refused without either. -/
def thenRead {Row Value : Type} (choice : TillChoice Answer) (amount : Nat) (rows : List Row)
    (statement : List Row → Except PoolError Value × List Row) : Except PoolError Value × List Row :=
  if amount = 0 then statement rows
  else
    match choice.hub.storageFailure, choice.readBack with
    | some error, _ => (.error error, rows)
    | none, some error => (.error error, (statement rows).2)
    | none, none => statement rows

/-- Points for a sale, if any come of it. -/
def earnPointsFor (rates : LoyaltyRates) (customerId : Uuid) (spendCents : Nat) (now : Timestamp)
    (accounts : List LoyaltyAccountRow) : List LoyaltyAccountRow :=
  let earned := spendCents / rates.centsPerPoint
  if earned = 0 then accounts else (Loyalty.earn customerId earned now accounts).2

def performAtTill (rates : LoyaltyRates) (providers : Providers Remote Answer) (choice : TillChoice Answer)
    (world : TillWorld Remote) (request : TillRequest) : request.Reply × TillWorld Remote :=
  match request with
  | ⟨_, _, .redeemGiftCard code amountCents⟩ =>
    let (reply, cards) := thenRead choice amountCents world.giftCards
      (GiftCards.redeem code amountCents choice.hub.now)
    (reply, { world with
      giftCards := cards
      debitedCents := world.debitedCents + (cardBalance code world.giftCards - cardBalance code cards) })
  | ⟨_, _, .redeemLoyaltyPoints customerId points⟩ =>
    let (reply, accounts) := thenRead choice points world.loyaltyAccounts
      (Loyalty.redeem customerId points choice.hub.now)
    (reply, { world with
      loyaltyAccounts := accounts
      debitedPoints := world.debitedPoints +
        (pointsBalance customerId world.loyaltyAccounts - pointsBalance customerId accounts) })
  | ⟨_, _, .hub (.service (.earnLoyaltyPoints customerId spendCents))⟩ =>
    match choice.hub.storageFailure with
    | some error => (.error error, world)
    | none =>
      (.ok (), { world with
        loyaltyAccounts := earnPointsFor rates customerId spendCents choice.hub.now world.loyaltyAccounts })
  | ⟨frame, _, .hub call⟩ =>
    let answered := perform providers choice.hub world.hub ⟨frame, call⟩
    (answered.1, { world with hub := answered.2 })

/-- One executor per idempotency key. -/
def tillClaims (others : List TillRequest) (task : TillTask) : Bool :=
  others.all (·.frame.key ≠ some task.envelope.idempotencyKey)

def till (app : AppState) (rates : LoyaltyRates) (providers : Providers Remote Answer) :
    Machine TillRequest TillRequest.Reply PosResponse (TillWorld Remote) (TillChoice Answer) TillTask :=
  { perform := performAtTill rates providers, program := TillTask.program app rates, admits := tillClaims }

end Perform
end ApexEdge.Hub
