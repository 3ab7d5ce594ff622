import ApexEdge.Contracts.Pos
import ApexEdge.Library.Interleaving

/-! What a command of the hub waits for: statements on the store, calls of a
payment provider, and services whose tables this model leaves out. A pending
request shows its call and the variables that are live across it. -/

namespace ApexEdge.Hub
open Library Payment Domain Storage Contracts

structure Customer where
  name : String
  code : String
  email : Option String
  deriving DecidableEq, Repr

structure PrintTemplate where
  templateId : Uuid
  templateBody : String
  deriving DecidableEq, Repr

/-- Services of the hub that neither read nor write what payments are about. -/
inductive Service where
  | fetchOpenShift (storeId registerId : Uuid)
  | signOrQueue (subjectId : Uuid) (order : Order) (shiftId : Option Uuid)
  | earnLoyaltyPoints (customerId : Uuid) (spendCents : Nat)
  | commitCartSale (storeId cartId : Uuid)
  | releaseCartReservations (storeId cartId : Uuid)
  | getCustomer (storeId customerId : Uuid)
  | listPromotions (storeId : Uuid)
  | getPrintTemplate (storeId : Uuid) (name : String)
  | generateDocument (id : Uuid) (order : Order) (cartId : Uuid) (customer : Option Customer)
      (template : Option PrintTemplate)
  | printReceipt (order : Order) (tookCash : Bool)
  deriving DecidableEq

@[reducible] def Service.Reply : Service → Type
  | .fetchOpenShift .. => Except PoolError (Option Uuid)
  | .signOrQueue .. => Except String FiscalPersistFields
  | .earnLoyaltyPoints .. => Except PoolError Unit
  | .commitCartSale .. => Except PoolError Unit
  | .releaseCartReservations .. => Except PoolError Unit
  | .getCustomer .. => Except PoolError (Option Customer)
  | .listPromotions .. => Except PoolError (List AppliedPromoInfo)
  | .getPrintTemplate .. => Except PoolError (Option PrintTemplate)
  | .generateDocument .. => Except String Unit
  | .printReceipt .. => Option String

inductive Call where
  | clock
  | newId
  | getResponse (key : Uuid)
  | setResponse (key : Uuid) (response : PosResponse)
  | loadCart (id : Uuid)
  | saveCart (cart : Cart)
  | findPaymentIntent (idempotencyKey : Uuid) (provider : String) (tenderId : Uuid)
  | insertPaymentIntent (id : Uuid) (input : NewPaymentIntent)
  | markPaymentIntentCaptured (id : Uuid) (providerPaymentId : String) (approvedCents : Nat)
  | markPaymentIntentDeclined (id : Uuid) (failureCode : String)
  | markPaymentIntentFailed (id : Uuid) (error : String)
  | settlePaymentIntentsForCart (storeId cartId orderId : Uuid)
  | flagPaymentIntentsForReversal (storeId cartId : Uuid) (reason : String)
  | flagPaymentIntentForReversal (id : Uuid) (providerPaymentId : Option String) (reason : String)
  | flagStaleCapturedPaymentIntents (staleAfter : Nat)
  | fetchPaymentIntentsAwaitingReversal (limit : Nat)
  | markPaymentIntentReversed (id : Uuid)
  | recordPaymentIntentReversalFailure (id : Uuid) (error : String)
  | insertOrderLedgerEntryWithOutbox (entry : NewOrderLedgerEntry) (outboxId : Uuid)
  | fetchOrderLedgerEntry (orderId : Uuid)
  | fetchReturn (id : Uuid)
  | listReturnLines (returnId : Uuid)
  | listRefunds (returnId : Uuid)
  | reserveRefund (refund : RefundRow)
  | refundReservation (id : Uuid)
  | refundRecorded (id : Uuid)
  | completeRefund (refund : RefundRow)
  | authorize (provider : String) (request : AuthorizeRequest)
  | capture (provider : String) (request : CaptureRequest)
  | void (provider : String) (request : VoidRequest)
  | refund (provider : String) (request : RefundRequest)
  | service (wanted : Service)
  deriving DecidableEq

@[reducible] def Call.Reply : Call → Type
  | .clock => Timestamp
  | .newId => Uuid
  | .getResponse _ => Except PoolError (Option PosResponse)
  | .loadCart _ => Except PoolError (Option Cart)
  | .findPaymentIntent .. => Except PoolError (Option PaymentIntentRow)
  | .insertPaymentIntent .. => Except PoolError PaymentIntentRow
  | .fetchPaymentIntentsAwaitingReversal _ => Except PoolError (List PaymentIntentRow)
  | .fetchOrderLedgerEntry _ => Except PoolError (Option NewOrderLedgerEntry)
  | .fetchReturn _ => Except PoolError (Option ReturnRow)
  | .listReturnLines _ => Except PoolError (List ReturnLineRow)
  | .listRefunds _ => Except PoolError (List RefundRow)
  | .refundReservation _ => Except PoolError (Option RefundIntentRow)
  | .refundRecorded _ => Except PoolError Bool
  | .authorize .. => Except PaymentProviderError PaymentAuthorization
  | .capture .. => Except PaymentProviderError PaymentCapture
  | .void .. => Except PaymentProviderError Unit
  | .refund .. => Except PaymentProviderError PaymentRefund
  | .service wanted => wanted.Reply
  | .setResponse .. | .saveCart _ | .markPaymentIntentCaptured .. | .markPaymentIntentDeclined ..
  | .markPaymentIntentFailed .. | .settlePaymentIntentsForCart .. | .flagPaymentIntentsForReversal ..
  | .flagPaymentIntentForReversal .. | .flagStaleCapturedPaymentIntents _ | .markPaymentIntentReversed _
  | .recordPaymentIntentReversalFailure .. | .insertOrderLedgerEntryWithOutbox .. | .reserveRefund _
  | .completeRefund _ => Except PoolError Unit

/-- The tender that a provider-backed payment intent was opened for. -/
structure IntentTender where
  intent : Uuid
  provider : String
  tenderId : Uuid
  /-- The provider's id for the payment, as far as the command knows it. -/
  paymentId : Option String
  deriving DecidableEq, Repr

/-- The variables of a command that are live across a request. -/
structure Frame where
  /-- The idempotency key of the command; a sweep has none. -/
  key : Option Uuid
  cart : Option Cart
  /-- The tender that money is being taken for. -/
  paying : Option IntentTender
  /-- The tender that is in hand, whether or not the cart has it yet. -/
  taken : Option IntentTender
  /-- What a reversal sweep still has to do, the intent in work first. -/
  owed : List PaymentIntentRow
  /-- The provider has just confirmed the void of the intent in work. -/
  voided : Bool
  deriving DecidableEq, Repr

namespace Frame

def ofKey (key : Option Uuid) : Frame :=
  { key := key, cart := none, paying := none, taken := none, owed := [], voided := false }

def withCart (frame : Frame) (cart : Cart) : Frame := { frame with cart := some cart }

end Frame

structure Request where
  frame : Frame
  call : Call
  deriving DecidableEq

@[reducible] def Request.Reply (request : Request) : Type := request.call.Reply

/-- A computation of the hub that may leave early with an error. -/
abbrev Action (ε α : Type) := Fallible Request Request.Reply ε α

/-- Issue a call whose reply is taken as it comes. -/
def reply {ε : Type} (frame : Frame) (call : Call) : Action ε call.Reply :=
  Fallible.ask (⟨frame, call⟩ : Request)

end ApexEdge.Hub

/-! The store, the providers, and what one request does to them. -/

namespace ApexEdge.Hub
open Library Payment Domain Storage Contracts

structure Db where
  responses : List (Uuid × PosResponse)
  carts : List CartRow
  paymentIntents : PaymentIntents.Rows
  orders : List NewOrderLedgerEntry
  outbox : List OutboxRow
  returns : ReturnTables
  deriving DecidableEq, Repr

/-- Payment providers with a state of their own. `Answer` is what the hub cannot
foresee of a call: its outcome, and whatever the provider did besides. -/
structure Providers (Remote Answer : Type) where
  authorize : Answer → Remote → String → AuthorizeRequest →
    Except PaymentProviderError PaymentAuthorization × Remote
  capture : Answer → Remote → String → CaptureRequest → Except PaymentProviderError PaymentCapture × Remote
  void : Answer → Remote → String → VoidRequest → Except PaymentProviderError Unit × Remote
  refund : Answer → Remote → String → RefundRequest → Except PaymentProviderError PaymentRefund × Remote

structure World (Remote : Type) where
  db : Db
  remote : Remote

/-- What a request meets: the time, the next random identifier, a storage
failure, the provider's answer, and the replies of the services left out. -/
structure Choice (Answer : Type) where
  now : Timestamp
  freshId : Nat
  storageFailure : Option PoolError
  answer : Answer
  service : (wanted : Service) → wanted.Reply

section Perform
variable {Remote Answer : Type}

/-- Read the store, unless storage fails. -/
def query {β : Type} (choice : Choice Answer) (world : World Remote) (read : Db → β) :
    Except PoolError β × World Remote :=
  match choice.storageFailure with
  | some error => (.error error, world)
  | none => (.ok (read world.db), world)

theorem query_world {β : Type} (choice : Choice Answer) (world : World Remote) (read : Db → β) :
    (query choice world read).2 = world := by
  unfold query
  split <;> rfl

/-- Write to the store. A failing statement leaves it as it was. -/
def transact {β : Type} (choice : Choice Answer) (world : World Remote)
    (write : Db → Except PoolError (β × Db)) : Except PoolError β × World Remote :=
  match choice.storageFailure with
  | some error => (.error error, world)
  | none =>
    match write world.db with
    | .error error => (.error error, world)
    | .ok (value, db) => (.ok value, { world with db := db })

def update (choice : Choice Answer) (world : World Remote) (write : Db → Db) :
    Except PoolError Unit × World Remote :=
  transact choice world fun db => .ok ((), write db)

/-- A statement on the payment intent table alone. -/
def updateIntents (choice : Choice Answer) (world : World Remote)
    (statement : Timestamp → PaymentIntents.Update) : Except PoolError Unit × World Remote :=
  update choice world fun db => { db with paymentIntents := (statement choice.now).run db.paymentIntents }

def perform (providers : Providers Remote Answer) (choice : Choice Answer) (world : World Remote)
    (request : Request) : request.Reply × World Remote :=
  match request with
  | ⟨_, call⟩ =>
    match call with
    | .clock => (choice.now, world)
    | .newId => (.random choice.freshId, world)
    | .getResponse key => query choice world fun db => db.responses.lookup key
    | .setResponse key response =>
      update choice world fun db =>
        { db with responses := (key, response) :: db.responses.filter (·.1 ≠ key) }
    | .loadCart id => query choice world fun db => Carts.load id db.carts
    | .saveCart cart => update choice world fun db => { db with carts := Carts.save cart db.carts }
    | .findPaymentIntent key provider tenderId =>
      query choice world fun db => PaymentIntents.findByKey key provider tenderId db.paymentIntents
    | .insertPaymentIntent id input =>
      transact choice world fun db => do
        let row := PaymentIntents.newRow id input choice.now
        let rows ← PaymentIntents.insertRow row db.paymentIntents
        return ({ row with amountCents := input.amountCents, tipAmountCents := input.tipAmountCents },
          { db with paymentIntents := rows })
    | .markPaymentIntentCaptured id providerPaymentId approvedCents =>
      updateIntents choice world (PaymentIntents.markCaptured id providerPaymentId approvedCents)
    | .markPaymentIntentDeclined id failureCode =>
      updateIntents choice world (PaymentIntents.markDeclined id failureCode)
    | .markPaymentIntentFailed id error => updateIntents choice world (PaymentIntents.markFailed id error)
    | .settlePaymentIntentsForCart storeId cartId orderId =>
      updateIntents choice world (PaymentIntents.settleForCart storeId cartId orderId)
    | .flagPaymentIntentsForReversal storeId cartId reason =>
      updateIntents choice world (PaymentIntents.flagForCart storeId cartId reason)
    | .flagPaymentIntentForReversal id providerPaymentId reason =>
      updateIntents choice world (PaymentIntents.flagForReversal id providerPaymentId reason)
    | .flagStaleCapturedPaymentIntents staleAfter =>
      updateIntents choice world (PaymentIntents.flagStaleCaptured staleAfter)
    | .fetchPaymentIntentsAwaitingReversal limit =>
      query choice world fun db => PaymentIntents.fetchAwaitingReversal limit db.paymentIntents
    | .markPaymentIntentReversed id => updateIntents choice world (PaymentIntents.markReversed id)
    | .recordPaymentIntentReversalFailure id error =>
      updateIntents choice world (PaymentIntents.recordReversalFailure id error)
    | .insertOrderLedgerEntryWithOutbox entry outboxId =>
      transact choice world fun db => do
        let orders ← Orders.write entry db.orders
        let outbox ← Orders.queue ⟨outboxId, entry.orderId⟩ db.outbox
        return ((), { db with orders := orders, outbox := outbox })
    | .fetchOrderLedgerEntry orderId =>
      query choice world fun db => db.orders.find? (·.orderId = orderId)
    | .fetchReturn id => query choice world fun db => Returns.fetch id db.returns
    | .listReturnLines returnId => query choice world fun db => Returns.lines returnId db.returns
    | .listRefunds returnId => query choice world fun db => Returns.refundsOf returnId db.returns
    | .reserveRefund refund =>
      transact choice world fun db =>
        if 2 ^ 63 ≤ refund.amountCents then .error Returns.invalidRefundAmount
        else .ok ((), { db with returns := Returns.reserve refund db.returns })
    | .refundReservation id => query choice world fun db => Returns.reservation id db.returns
    | .refundRecorded id => query choice world fun db => Returns.recorded id db.returns
    | .completeRefund refund =>
      update choice world fun db => { db with returns := Returns.complete refund db.returns }
    | .authorize provider request =>
      let (reply, remote) := providers.authorize choice.answer world.remote provider request
      (reply, { world with remote := remote })
    | .capture provider request =>
      let (reply, remote) := providers.capture choice.answer world.remote provider request
      (reply, { world with remote := remote })
    | .void provider request =>
      let (reply, remote) := providers.void choice.answer world.remote provider request
      (reply, { world with remote := remote })
    | .refund provider request =>
      let (reply, remote) := providers.refund choice.answer world.remote provider request
      (reply, { world with remote := remote })
    | .service wanted => (choice.service wanted, world)

end Perform
end ApexEdge.Hub
