import ApexEdge.Library.SqlNumber
import ApexEdge.Storage.PaymentIntents

/-! Carts, the order ledger with its outbox row, stored command responses, and suspended
sales. A parked cart is a snapshot of the cart, which stays where it is; recalling one
claims its row, so that a single register wins it. -/

namespace ApexEdge.Storage
open Payment Domain Library

structure CartRow where
  id : Uuid
  storeId : Uuid
  registerId : Uuid
  state : CartStateKind
  data : Cart
  deriving DecidableEq, Repr

namespace Carts

def save (cart : Cart) : List CartRow → List CartRow :=
  Table.upsert (·.id = cart.id) (fun row => { row with state := cart.state, data := cart })
    { id := cart.id, storeId := cart.storeId, registerId := cart.registerId, state := cart.state, data := cart }

def load (id : Uuid) (rows : List CartRow) : Option Cart :=
  (rows.find? (·.id = id)).map CartRow.data

/-- A saved cart is the one found under its id. -/
theorem load_save (id : Uuid) (cart : Cart) (rows : List CartRow) :
    load id (save cart rows) = if id = cart.id then some cart else load id rows := by
  have found := Table.find?_upsert CartRow.id (fun row => { row with state := cart.state, data := cart })
    ⟨cart.id, cart.storeId, cart.registerId, cart.state, cart⟩ (fun _ own => own) id rows
  rw [load, save, found]
  split
  · cases rows.find? (·.id = cart.id) with
    | none => rfl
    | some row => rfl
  · rfl

end Carts

structure NewOrderLineEntry where
  lineId : Uuid
  itemId : Uuid
  sku : String
  name : String
  quantity : Nat
  unitPriceCents : Nat
  lineTotalCents : Nat
  discountCents : Nat
  taxCents : Nat
  taxInclusive : Bool
  deriving DecidableEq, Repr

structure NewOrderPaymentEntry where
  tenderId : Uuid
  tenderType : String
  amountCents : Nat
  tipAmountCents : Nat
  externalReference : Option String
  provider : Option String
  providerPaymentId : Option String
  entryMethod : Option PaymentEntryMethod
  deriving DecidableEq, Repr

/-- The fiscal fields that an order keeps. -/
structure FiscalPersistFields where
  provider : Option String
  fiscalId : Option String
  signature : Option String
  qrPayload : Option String
  signedAt : Option Timestamp
  pending : Bool
  deriving DecidableEq, Repr

structure NewOrderLedgerEntry where
  orderId : Uuid
  cartId : Uuid
  storeId : Uuid
  registerId : Uuid
  shiftId : Option Uuid
  subtotalCents : Nat
  discountCents : Nat
  taxCents : Nat
  totalCents : Nat
  submissionId : Option Uuid
  lines : List NewOrderLineEntry
  payments : List NewOrderPaymentEntry
  fiscal : FiscalPersistFields
  deriving DecidableEq, Repr

/-- A queued submission names the order it carries. -/
structure OutboxRow where
  id : Uuid
  orderId : Uuid
  deriving DecidableEq, Repr

namespace Orders

/-- A ledger row that exists already keeps its cart, store and register. -/
def overwrite (old entry : NewOrderLedgerEntry) : NewOrderLedgerEntry :=
  { entry with cartId := old.cartId, storeId := old.storeId, registerId := old.registerId }

/-- Lines are keyed by line id across all orders. -/
def linesClash (entry : NewOrderLedgerEntry) (others : List NewOrderLedgerEntry) : Bool :=
  !(entry.lines.map NewOrderLineEntry.lineId).Nodup ∨
    others.any fun order => order.lines.any fun line => entry.lines.any (·.lineId = line.lineId)

def write (entry : NewOrderLedgerEntry) (orders : List NewOrderLedgerEntry) :
    Except PoolError (List NewOrderLedgerEntry) :=
  if linesClash entry (orders.filter (·.orderId ≠ entry.orderId)) then
    .error (.connection "UNIQUE constraint failed: order_lines.id")
  else .ok (Table.upsert (·.orderId = entry.orderId) (overwrite · entry) entry orders)

def queue (row : OutboxRow) (outbox : List OutboxRow) : Except PoolError (List OutboxRow) :=
  if outbox.any (·.id = row.id) then .error (.connection "UNIQUE constraint failed: outbox.id")
  else .ok (outbox ++ [row])

/-- An order under a new id is a new row, and clashes with no other. -/
theorem write_fresh {entry : NewOrderLedgerEntry} {orders after : List NewOrderLedgerEntry}
    (fresh : ∀ order ∈ orders, order.orderId ≠ entry.orderId) (written : write entry orders = .ok after) :
    after = orders ++ [entry] ∧ linesClash entry orders = false := by
  have others : orders.filter (·.orderId ≠ entry.orderId) = orders :=
    List.filter_eq_self.mpr fun order member => by simpa using fresh order member
  unfold write at written
  rw [others] at written
  split at written
  · cases written
  · rename_i apart
    refine ⟨?_, by simpa using apart⟩
    have absent : ¬orders.any (·.orderId = entry.orderId) = true := by
      simpa using fun order member => fresh order member
    rw [← Except.ok.inj written, Table.upsert, if_neg absent]

end Orders

structure ParkedCartRow where
  id : Uuid
  cartId : Uuid
  storeId : Uuid
  registerId : Uuid
  note : Option String
  cartData : Cart
  totalCents : Int
  lineCount : Int
  parkedAt : Timestamp
  recalledAt : Option Timestamp
  recalledByRegisterId : Option Uuid
  deriving DecidableEq, Repr

/-- What came of claiming a parked cart for recall. -/
inductive ClaimOutcome where
  | claimed (cartData : Cart) (parkedByRegister : Uuid)
  /-- The cart was already recalled by another register. -/
  | alreadyClaimed
  | notFound
  deriving DecidableEq, Repr

namespace ParkedCarts

def newRow (id storeId registerId : Uuid) (note : Option String) (cart : Cart) (now : Timestamp) : ParkedCartRow :=
  { id := id, cartId := cart.id, storeId := storeId, registerId := registerId, note := note
    cartData := cart, totalCents := asI64 cart.totalCents, lineCount := asI64 cart.lines.length
    parkedAt := now, recalledAt := none, recalledByRegisterId := none }

def park (row : ParkedCartRow) (rows : List ParkedCartRow) : Except PoolError (List ParkedCartRow) :=
  if rows.any (·.id = row.id) then .error (.connection "UNIQUE constraint failed: parked_carts.id")
  else .ok (rows ++ [row])

def markRecalled (id registerId : Uuid) (now : Timestamp) : Table.Update ParkedCartRow where
  selects row := row.id = id ∧ row.recalledAt = none
  set row := { row with recalledAt := some now, recalledByRegisterId := some registerId }

/-- Claim a parked cart by one guarded UPDATE, then read its snapshot. -/
def claim (id registerId : Uuid) (now : Timestamp) (rows : List ParkedCartRow) :
    ClaimOutcome × List ParkedCartRow :=
  let found := rows.find? (·.id = id)
  if rows.any (markRecalled id registerId now).selects then
    ((found.map fun row => ClaimOutcome.claimed row.cartData row.registerId).getD .notFound,
      (markRecalled id registerId now).run rows)
  else (if found.isSome then .alreadyClaimed else .notFound, rows)

end ParkedCarts

end ApexEdge.Storage
