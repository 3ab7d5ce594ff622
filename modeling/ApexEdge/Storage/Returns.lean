import ApexEdge.Storage.Orders

/-! Returns, their lines, the refunds made for them, and the reservations that a
refund takes before any provider is asked. -/

namespace ApexEdge.Storage
open Payment Domain Library

inductive ReturnState where
  | open | items | tendered | paid | finalized | voided
  deriving DecidableEq, Repr

structure ReturnRow where
  id : Uuid
  storeId : Uuid
  registerId : Uuid
  shiftId : Option Uuid
  originalOrderId : Option Uuid
  reasonCode : Option String
  state : ReturnState
  totalCents : Nat
  taxCents : Nat
  refundedCents : Nat
  approvalId : Option Uuid
  deriving DecidableEq, Repr

structure ReturnLineRow where
  id : Uuid
  returnId : Uuid
  originalLineId : Option Uuid
  sku : String
  name : String
  quantity : Nat
  unitPriceCents : Nat
  lineTotalCents : Nat
  taxCents : Nat
  taxInclusive : Bool
  deriving DecidableEq, Repr

structure RefundRow where
  id : Uuid
  returnId : Uuid
  tenderType : String
  amountCents : Nat
  externalReference : Option String
  deriving DecidableEq, Repr

/-- A refund's reservation of its return's balance. -/
structure RefundIntentRow where
  id : Uuid
  returnId : Uuid
  tenderType : String
  amountCents : Nat
  deriving DecidableEq, Repr

structure ReturnTables where
  returns : List ReturnRow
  returnLines : List ReturnLineRow
  refunds : List RefundRow
  refundIntents : List RefundIntentRow
  deriving DecidableEq, Repr

namespace Returns

def fetch (id : Uuid) (tables : ReturnTables) : Option ReturnRow := tables.returns.find? (·.id = id)

def lines (returnId : Uuid) (tables : ReturnTables) : List ReturnLineRow :=
  tables.returnLines.filter (·.returnId = returnId)

def refundsOf (returnId : Uuid) (tables : ReturnTables) : List RefundRow :=
  tables.refunds.filter (·.returnId = returnId)

def refundedCents (returnId : Uuid) (tables : ReturnTables) : Nat :=
  ((refundsOf returnId tables).map RefundRow.amountCents).sum

/-- Reservations of a return whose refund is not recorded yet. -/
def unfinished (returnId : Uuid) (tables : ReturnTables) : List RefundIntentRow :=
  tables.refundIntents.filter fun intent =>
    intent.returnId = returnId ∧ !tables.refunds.any (·.id = intent.id)

def reservedCents (returnId : Uuid) (tables : ReturnTables) : Nat :=
  ((unfinished returnId tables).map RefundIntentRow.amountCents).sum

def invalidRefundAmount : PoolError := .other "invalid refund amount"

def refundRejected : PoolError :=
  .other "refund exceeds remaining balance or command key was reused with different terms"

/-- INSERT … SELECT … ON CONFLICT(id) DO NOTHING: reserve the amount when the
return can be refunded and has that much left. -/
def reserve (refund : RefundRow) (tables : ReturnTables) : ReturnTables :=
  match fetch refund.returnId tables with
  | none => tables
  | some row =>
    if (row.state = .items ∨ row.state = .tendered) ∧ 0 < refund.amountCents ∧
        refund.amountCents + refundedCents row.id tables + reservedCents row.id tables ≤ row.totalCents ∧
        !tables.refundIntents.any (·.id = refund.id) then
      { tables with refundIntents := tables.refundIntents ++
          [⟨refund.id, row.id, refund.tenderType, refund.amountCents⟩] }
    else tables

def reservation (id : Uuid) (tables : ReturnTables) : Option RefundIntentRow :=
  tables.refundIntents.find? (·.id = id)

def recorded (id : Uuid) (tables : ReturnTables) : Bool := tables.refunds.any (·.id = id)

/-- Record the refund once, and bring the return's totals up to date with it. -/
def complete (refund : RefundRow) (tables : ReturnTables) : ReturnTables :=
  let tables := if recorded refund.id tables then tables
    else { tables with refunds := tables.refunds ++ [refund] }
  let refunded := refundedCents refund.returnId tables
  let update : Table.Update ReturnRow :=
    { selects := (·.id = refund.returnId)
      set := fun row =>
        { row with refundedCents := refunded, state := if row.totalCents ≤ refunded then .paid else .tendered } }
  { tables with returns := update.run tables.returns }

end Returns
end ApexEdge.Storage
