import ApexEdge.Domain.Cart
import ApexEdge.Library.Table

/-! The payment intent ledger. Every provider-side payment has a row; the
functions are the statements that the storage layer runs on the table, at the
time `now`. -/

namespace ApexEdge.Storage
open Payment Domain Library

inductive PoolError where
  | connection (message : String)
  | other (message : String)
  deriving DecidableEq, Repr

def PoolError.toString (error : PoolError) : String :=
  match error with
  | .connection message => "connection: " ++ message
  | .other message => message

/-- An amount as it comes back from a signed 64-bit column. -/
def centsColumn (cents : Nat) : Nat := if cents < 2 ^ 63 then cents else 0

inductive PaymentIntentState where
  /-- Funds held, not yet taken. -/
  | authorized
  /-- Funds taken; the order is not yet known to be durable. -/
  | captured
  /-- Funds taken and the order is on the ledger. Terminal, and never reversed. -/
  | settled
  /-- Capture succeeded but the sale did not. Owes a void. -/
  | reversalPending
  /-- Void or refund confirmed by the provider. -/
  | reversed
  | declined
  | failed
  deriving DecidableEq, Repr

structure NewPaymentIntent where
  storeId : Uuid
  registerId : Uuid
  cartId : Uuid
  tenderId : Uuid
  idempotencyKey : Uuid
  provider : String
  amountCents : Nat
  tipAmountCents : Nat
  deriving DecidableEq, Repr

structure PaymentIntentRow where
  id : Uuid
  storeId : Uuid
  registerId : Uuid
  cartId : Uuid
  tenderId : Uuid
  idempotencyKey : Uuid
  provider : String
  providerPaymentId : Option String
  amountCents : Nat
  tipAmountCents : Nat
  approvedCents : Nat
  state : PaymentIntentState
  failureCode : Option String
  orderId : Option Uuid
  reversalAttempts : Nat
  lastError : Option String
  createdAt : Timestamp
  updatedAt : Timestamp
  deriving DecidableEq, Repr

namespace PaymentIntents

abbrev Rows := List PaymentIntentRow

def findByKey (idempotencyKey : Uuid) (provider : String) (tenderId : Uuid) (rows : Rows) :
    Option PaymentIntentRow :=
  rows.find? fun row =>
    row.idempotencyKey = idempotencyKey ∧ row.provider = provider ∧ row.tenderId = tenderId

/-- A row as an insert writes it. -/
def newRow (id : Uuid) (input : NewPaymentIntent) (now : Timestamp) : PaymentIntentRow :=
  { id := id, storeId := input.storeId, registerId := input.registerId, cartId := input.cartId
    tenderId := input.tenderId, idempotencyKey := input.idempotencyKey, provider := input.provider
    providerPaymentId := none, amountCents := centsColumn input.amountCents
    tipAmountCents := centsColumn input.tipAmountCents, approvedCents := 0, state := .authorized
    failureCode := none, orderId := none, reversalAttempts := 0, lastError := none
    createdAt := now, updatedAt := now }

/-- The primary key and the index on key, provider and tender are unique. -/
def clashes (row : PaymentIntentRow) (rows : Rows) : Bool :=
  rows.any fun old => old.id = row.id ∨ (old.idempotencyKey = row.idempotencyKey ∧
    old.provider = row.provider ∧ old.tenderId = row.tenderId)

def insertRow (row : PaymentIntentRow) (rows : Rows) : Except PoolError Rows :=
  if clashes row rows then .error (.connection "UNIQUE constraint failed: payment_intents")
  else .ok (rows ++ [row])

/-- A statement on the ledger. -/
abbrev Update := Table.Update PaymentIntentRow

def markCaptured (id : Uuid) (providerPaymentId : String) (approvedCents : Nat) (now : Timestamp) : Update where
  selects row := row.id = id
  set row := { row with state := .captured, providerPaymentId := some providerPaymentId
                        approvedCents := centsColumn approvedCents, updatedAt := now }

def markDeclined (id : Uuid) (failureCode : String) (now : Timestamp) : Update where
  selects row := row.id = id
  set row := { row with state := .declined, failureCode := some failureCode, updatedAt := now }

/-- Record that the provider could not be reached and no funds moved. -/
def markFailed (id : Uuid) (error : String) (now : Timestamp) : Update where
  selects row := row.id = id
  set row := { row with state := .failed, lastError := some error, updatedAt := now }

/-- The order is durable, so every captured payment for this cart is now safe. -/
def settleForCart (storeId cartId orderId : Uuid) (now : Timestamp) : Update where
  selects row := row.storeId = storeId ∧ row.cartId = cartId ∧ (row.state = .captured ∨ row.state = .authorized)
  set row := { row with state := .settled, orderId := some orderId, updatedAt := now }

/-- The sale did not complete, so captured money for this cart is owed back. -/
def flagForCart (storeId cartId : Uuid) (reason : String) (now : Timestamp) : Update where
  selects row := row.storeId = storeId ∧ row.cartId = cartId ∧ row.state = .captured
  set row := { row with state := .reversalPending, lastError := some reason, updatedAt := now }

def flagForReversal (id : Uuid) (providerPaymentId : Option String) (reason : String) (now : Timestamp) :
    Update where
  selects row := row.id = id
  set row := { row with state := .reversalPending, lastError := some reason
                        providerPaymentId := providerPaymentId.or row.providerPaymentId, updatedAt := now }

/-- Captured payments that have sat without an order for too long. -/
def flagStaleCaptured (staleAfter : Nat) (now : Timestamp) : Update where
  selects row := row.state = .captured ∧ row.orderId = none ∧ row.updatedAt + staleAfter < now
  set row := { row with state := .reversalPending
                        lastError := some "captured payment was never claimed by a completed sale"
                        updatedAt := now }

def fetchAwaitingReversal (limit : Nat) (rows : Rows) : Rows :=
  (Table.orderedBy PaymentIntentRow.updatedAt (rows.filter (·.state = .reversalPending))).take limit

def markReversed (id : Uuid) (now : Timestamp) : Update where
  selects row := row.id = id
  set row := { row with state := .reversed, updatedAt := now }

/-- The row stays queued: money owed to a customer is never dropped. -/
def recordReversalFailure (id : Uuid) (error : String) (now : Timestamp) : Update where
  selects row := row.id = id
  set row := { row with reversalAttempts := row.reversalAttempts + 1, lastError := some error
                        updatedAt := now }

end PaymentIntents
end ApexEdge.Storage
