import ApexEdge.Library.SqlNumber
import ApexEdge.Storage.PaymentIntents

/-! Gift cards and loyalty accounts. A balance changes by one guarded UPDATE, so
that two registers cannot race past a stale balance; the row is read back after
it. The functions return the table with the answer, since a failing read does
not undo the update. -/

namespace ApexEdge.Storage
open Payment Domain Library

/-- A row does not decode once its balance has become a double. -/
def notAnInteger : PoolError := .connection "mismatched types: INTEGER is not compatible with REAL"

/-- A guarded UPDATE and what is answered for it: `done` when it found a row, else
what the row that is there explains. -/
def guardedUpdate {Row Record Outcome : Type} (amount : Nat) (update : Table.Update Row)
    (get : List Row → Except PoolError (Option Record)) (invalidAmount done notFound : Outcome)
    (refused : Record → Outcome) (rows : List Row) :
    Except PoolError (Outcome × Option Record) × List Row :=
  if amount = 0 then (.ok (invalidAmount, none), rows)
  else if rows.any update.selects then
    let after := update.run rows
    ((get after).map fun record => (done, record), after)
  else
    ((get rows).map fun
      | none => (notFound, none)
      | some existing => (refused existing, some existing), rows)

inductive GiftCardState where
  | issued | active | disabled
  deriving DecidableEq, Repr

structure GiftCardRow where
  id : Uuid
  storeId : Uuid
  code : String
  balanceCents : SqlNumber
  currency : String
  state : GiftCardState
  updatedAt : Timestamp
  deriving DecidableEq, Repr

structure GiftCardRecord where
  id : Uuid
  storeId : Uuid
  code : String
  balanceCents : Nat
  currency : String
  state : GiftCardState
  updatedAt : Timestamp
  deriving DecidableEq, Repr

inductive IssueOutcome where
  | issued | duplicateCode
  deriving DecidableEq, Repr

inductive ActivateOutcome where
  | activated | notFound | alreadyActivated | invalidAmount
  deriving DecidableEq, Repr

inductive ReloadOutcome where
  | reloaded | notFound | notActive | invalidAmount
  deriving DecidableEq, Repr

inductive RedeemOutcome where
  | redeemed | notFound | notActive | insufficientBalance | invalidAmount
  deriving DecidableEq, Repr

namespace GiftCards

/-- A negative balance is read as zero. -/
def rowToRecord (row : GiftCardRow) : Except PoolError GiftCardRecord :=
  match row.balanceCents.asInteger with
  | none => .error notAnInteger
  | some balance =>
    .ok { id := row.id, storeId := row.storeId, code := row.code, balanceCents := balance.toNat
          currency := row.currency, state := row.state, updatedAt := row.updatedAt }

def getByCode (code : String) (cards : List GiftCardRow) : Except PoolError (Option GiftCardRecord) :=
  match cards.find? (·.code = code) with
  | none => .ok none
  | some row => (rowToRecord row).map some

/-- The code is unique; the caller picks it. -/
def issue (id storeId : Uuid) (code currency : String) (now : Timestamp) (cards : List GiftCardRow) :
    (IssueOutcome × Option GiftCardRecord) × List GiftCardRow :=
  if cards.any (·.code = code) then ((.duplicateCode, none), cards)
  else
    ((.issued, some { id := id, storeId := storeId, code := code, balanceCents := 0, currency := currency
                      state := .issued, updatedAt := now }),
      cards ++ [{ id := id, storeId := storeId, code := code, balanceCents := .integer 0
                  currency := currency, state := .issued, updatedAt := now }])

/-- Guarded on the state, so that a card cannot be activated twice. -/
def activateUpdate (code : String) (openingBalanceCents : Nat) (now : Timestamp) : Table.Update GiftCardRow :=
  { selects := fun row => row.code = code ∧ row.state = .issued
    set := fun row =>
      { row with balanceCents := .integer (asI64 openingBalanceCents), state := .active, updatedAt := now } }

def activate (code : String) (openingBalanceCents : Nat) (now : Timestamp) :
    List GiftCardRow → Except PoolError (ActivateOutcome × Option GiftCardRecord) × List GiftCardRow :=
  guardedUpdate openingBalanceCents (activateUpdate code openingBalanceCents now) (getByCode code)
    .invalidAmount .activated .notFound fun _ => .alreadyActivated

def reloadUpdate (code : String) (amountCents : Nat) (now : Timestamp) : Table.Update GiftCardRow :=
  { selects := fun row => row.code = code ∧ row.state = .active
    set := fun row => { row with balanceCents := row.balanceCents.add (asI64 amountCents), updatedAt := now } }

def reload (code : String) (amountCents : Nat) (now : Timestamp) :
    List GiftCardRow → Except PoolError (ReloadOutcome × Option GiftCardRecord) × List GiftCardRow :=
  guardedUpdate amountCents (reloadUpdate code amountCents now) (getByCode code)
    .invalidAmount .reloaded .notFound fun _ => .notActive

/-- The check and the decrement are one statement. -/
def redeemUpdate (code : String) (amountCents : Nat) (now : Timestamp) : Table.Update GiftCardRow :=
  { selects := fun row =>
      row.code = code ∧ row.state = .active ∧ asI64 amountCents ≤ row.balanceCents.value
    set := fun row => { row with balanceCents := row.balanceCents.sub (asI64 amountCents), updatedAt := now } }

def redeem (code : String) (amountCents : Nat) (now : Timestamp) :
    List GiftCardRow → Except PoolError (RedeemOutcome × Option GiftCardRecord) × List GiftCardRow :=
  guardedUpdate amountCents (redeemUpdate code amountCents now) (getByCode code)
    .invalidAmount .redeemed .notFound fun existing =>
      if existing.state ≠ .active then .notActive else .insufficientBalance

end GiftCards

structure LoyaltyAccountRow where
  customerId : Uuid
  points : SqlNumber
  updatedAt : Timestamp
  deriving DecidableEq, Repr

structure LoyaltyAccountRecord where
  customerId : Uuid
  points : Nat
  updatedAt : Timestamp
  deriving DecidableEq, Repr

inductive RedeemPointsOutcome where
  | redeemed | notFound | insufficientPoints | invalidAmount
  deriving DecidableEq, Repr

namespace Loyalty

def rowToRecord (row : LoyaltyAccountRow) : Except PoolError LoyaltyAccountRecord :=
  match row.points.asInteger with
  | none => .error notAnInteger
  | some points => .ok { customerId := row.customerId, points := points.toNat, updatedAt := row.updatedAt }

def getAccount (customerId : Uuid) (accounts : List LoyaltyAccountRow) :
    Except PoolError (Option LoyaltyAccountRecord) :=
  match accounts.find? (·.customerId = customerId) with
  | none => .ok none
  | some row => (rowToRecord row).map some

/-- Earning creates the account on the first earn and only ever adds. -/
def earn (customerId : Uuid) (points : Nat) (now : Timestamp) (accounts : List LoyaltyAccountRow) :
    Except PoolError LoyaltyAccountRecord × List LoyaltyAccountRow :=
  let after := Table.upsert (·.customerId = customerId)
    (fun row => { row with points := row.points.add (asI64 points), updatedAt := now })
    { customerId := customerId, points := .integer (asI64 points), updatedAt := now } accounts
  ((getAccount customerId after).map fun found =>
    found.getD { customerId := customerId, points := points, updatedAt := now }, after)

def redeemUpdate (customerId : Uuid) (points : Nat) (now : Timestamp) : Table.Update LoyaltyAccountRow :=
  { selects := fun row => row.customerId = customerId ∧ asI64 points ≤ row.points.value
    set := fun row => { row with points := row.points.sub (asI64 points), updatedAt := now } }

def redeem (customerId : Uuid) (points : Nat) (now : Timestamp) :
    List LoyaltyAccountRow →
      Except PoolError (RedeemPointsOutcome × Option LoyaltyAccountRecord) × List LoyaltyAccountRow :=
  guardedUpdate points (redeemUpdate customerId points now) (getAccount customerId)
    .invalidAmount .redeemed .notFound fun _ => .insufficientPoints

end Loyalty
end ApexEdge.Storage
